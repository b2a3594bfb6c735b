/-
Instants as days with a time of day, and their shifts.

* `Instant.nanos_eq`: an instant is the start of its day and the time since then;
  `Instant.isSupportedYear_date` says that its day is in the supported calendar,
  and `Instant.exists_of_date` that all these days have instants;
* `Date.Moves`: a day lies a number of months after another, on the same day of
  the month or on the last one; `Date.moves_iff`: there is one such day, and it is
  the one that `Date.addMonths` finds;
* `Instant.addMonths?_eq_some_iff`, `Instant.addSeconds?_eq_some_iff`: what the
  shifts of an instant give.
-/
import Criteria.Proofs.Temporal.DayNumber
import Criteria.Temporal.Instant

namespace Criteria

lemma Date.isSupportedYear_iff {year : Int} :
    isSupportedYear year = true ↔ -262143 ≤ year ∧ year ≤ 262142 := by
  rw [isSupportedYear, Bool.and_eq_true, decide_eq_true_eq, decide_eq_true_eq, minYear, maxYear]

namespace Instant

/-! ### Days and times of day -/

lemma eq_of_nanos_eq {t u : Instant} (h : t.nanos = u.nanos) : t = u := by
  obtain ⟨n, _, _⟩ := t
  obtain ⟨n', _, _⟩ := u
  obtain rfl : n = n' := h
  rfl

lemma ofNanos?_eq_some_iff {n : Int} {t : Instant} : ofNanos? n = some t ↔ t.nanos = n := by
  rw [ofNanos?]
  constructor
  · intro h
    split_ifs at h
    rw [← Option.some.inj h]
  · rintro rfl
    exact dif_pos ⟨t.min_le, t.lt_max⟩

lemma nanosOfDay_lt (t : Instant) : (t.nanosOfDay : Int) < nanosPerDay := by
  rw [nanosOfDay, nanosPerDay, secondsPerDay, nanosPerSecond]
  omega

/-- An instant is the start of its day and the time since then. -/
lemma nanos_eq (t : Instant) :
    t.nanos = (t.date.dayNumber - epochDay) * nanosPerDay + t.nanosOfDay := by
  rw [date, Date.dayNumber_ofDayNumber, dayNumber, nanosOfDay, nanosPerDay, secondsPerDay,
    nanosPerSecond]
  omega

lemma exists_date (t : Instant) : t.date.Exists := Date.exists_ofDayNumber _

/-- The day of an instant and the time since its start are the only ones that
make it up. -/
lemma eq_of_nanos_eq_day {t : Instant} {d : Date} {n : Nat} (hd : d.Exists)
    (hn : (n : Int) < nanosPerDay) (h : t.nanos = (d.dayNumber - epochDay) * nanosPerDay + n) :
    t.date = d ∧ t.nanosOfDay = n := by
  rw [nanosPerDay, secondsPerDay, nanosPerSecond] at hn h
  have hday : t.dayNumber = d.dayNumber := by
    rw [dayNumber, nanosPerDay, secondsPerDay, nanosPerSecond, h]
    omega
  constructor
  · rw [date, hday, Date.ofDayNumber_dayNumber hd]
  · rw [nanosOfDay, nanosPerDay, secondsPerDay, nanosPerSecond, h]
    omega

lemma eq_of_date_eq {t u : Instant} (hdate : t.date = u.date)
    (htime : t.nanosOfDay = u.nanosOfDay) : t = u := by
  apply eq_of_nanos_eq
  rw [t.nanos_eq, u.nanos_eq, hdate, htime]

/-- An instant of a day lies in the supported calendar exactly when the day
does. -/
lemma bounds_iff {day : Int} {n : Nat} (hn : (n : Int) < nanosPerDay) :
    (minSecond * nanosPerSecond ≤ (day - epochDay) * nanosPerDay + n ∧
        (day - epochDay) * nanosPerDay + n < (maxSecond + 1) * nanosPerSecond)
      ↔ daysBeforeYear Date.minYear < day ∧ day ≤ daysBeforeYear (Date.maxYear + 1) := by
  have hmin : daysBeforeYear Date.minYear = -95746130 := by decide
  have hmax : daysBeforeYear (Date.maxYear + 1) = 95745399 := by decide
  rw [hmin, hmax]
  rw [nanosPerDay, secondsPerDay, nanosPerSecond] at *
  rw [minSecond, maxSecond, epochDay]
  omega

lemma isSupportedYear_iff_bounds {d : Date} (hd : d.Exists) :
    Date.isSupportedYear d.year = true
      ↔ daysBeforeYear Date.minYear < d.dayNumber ∧
        d.dayNumber ≤ daysBeforeYear (Date.maxYear + 1) := by
  rw [← Date.isSupported_ofDayNumber_iff, Date.ofDayNumber_dayNumber hd, Date.isSupported_iff,
    and_iff_left hd, Date.isSupportedYear_iff, Date.minYear, Date.maxYear]

/-- The day of an instant is in the supported calendar. -/
lemma isSupportedYear_date (t : Instant) : Date.isSupportedYear t.date.year = true := by
  have hmin := t.min_le
  have hmax := t.lt_max
  rw [t.nanos_eq] at hmin hmax
  exact (isSupportedYear_iff_bounds t.exists_date).mpr
    ((bounds_iff t.nanosOfDay_lt).mp ⟨hmin, hmax⟩)

/-- A day of the supported calendar has an instant at each time of day. -/
lemma exists_of_date {d : Date} {n : Nat} (hd : d.Exists) (hn : (n : Int) < nanosPerDay)
    (h : Date.isSupportedYear d.year = true) :
    ∃ t : Instant, t.date = d ∧ t.nanosOfDay = n := by
  obtain ⟨hmin, hmax⟩ := (bounds_iff hn).mpr ((isSupportedYear_iff_bounds hd).mp h)
  exact ⟨⟨_, hmin, hmax⟩, eq_of_nanos_eq_day hd hn rfl⟩

end Instant

/-! ### Days some months apart -/

namespace Date

/-- The number of a month, counted from the first of the year 0. -/
def monthIndex (d : Date) : Int := 12 * d.year + ((d.month : Int) - 1)

/-- A day lies a number of months after another: in the month that is so many
later, on the same day of it, or on its last day when it is shorter. -/
structure Moves (d : Date) (months : Int) (e : Date) : Prop where
  exists_day : e.Exists
  monthIndex_eq : e.monthIndex = d.monthIndex + months
  day_eq : e.day = d.day ∨ (e.day < d.day ∧ e.day = daysInMonth e.year e.month)

variable {d e f : Date} {months : Int}

lemma Moves.day_eq_min (h : d.Moves months e) :
    e.day = min d.day (daysInMonth e.year e.month) := by
  obtain ⟨-, -, hlast⟩ := exists_iff.mp h.exists_day
  obtain hsame | ⟨hshort, hend⟩ := h.day_eq <;> omega

/-- The year and the month are found from the number of the month. -/
lemma eq_of_monthIndex_eq (hd : 1 ≤ d.month ∧ d.month ≤ 12) (he : 1 ≤ e.month ∧ e.month ≤ 12)
    (h : d.monthIndex = e.monthIndex) : d.year = e.year ∧ d.month = e.month := by
  rw [monthIndex, monthIndex] at h
  omega

lemma moves_addMonths (h : d.Exists) (months : Int) : d.Moves months (d.addMonths months) := by
  obtain ⟨-, hday, -⟩ := exists_iff.mp h
  have hmonth : 1 ≤ (d.addMonths months).month ∧ (d.addMonths months).month ≤ 12 := by
    rw [addMonths]
    simp only
    omega
  have hlast := one_le_daysInMonth (d.addMonths months).year hmonth
  have hmin : (d.addMonths months).day
      = min d.day (daysInMonth (d.addMonths months).year (d.addMonths months).month) := rfl
  refine ⟨exists_iff.mpr ⟨hmonth, by omega, by omega⟩, ?_, by omega⟩
  rw [addMonths, monthIndex, monthIndex]
  simp only
  omega

/-- There is one day that lies a number of months after a day that exists. -/
theorem moves_iff (h : d.Exists) : d.Moves months e ↔ e = d.addMonths months := by
  have hmoved := moves_addMonths h months
  refine ⟨fun he => ?_, fun he => he ▸ hmoved⟩
  obtain ⟨hyear, hmonth⟩ := eq_of_monthIndex_eq (exists_iff.mp he.exists_day).1
    (exists_iff.mp hmoved.exists_day).1 (he.monthIndex_eq.trans hmoved.monthIndex_eq.symm)
  have hday : e.day = (d.addMonths months).day := by
    rw [he.day_eq_min, hmoved.day_eq_min, hyear, hmonth]
  obtain ⟨year, month, day⟩ := e
  simp only at hyear hmonth hday
  rw [hyear, hmonth, hday]

lemma moves_zero_iff (h : d.Exists) : d.Moves 0 e ↔ e = d := by
  have hself : d.Moves 0 d := ⟨h, (Int.add_zero _).symm, .inl rfl⟩
  rw [moves_iff h, ← (moves_iff h).mp hself]

end Date

namespace Instant

/-! ### Shifts -/

lemma addMonths?_eq_some_iff {t u : Instant} {months : Int} :
    t.addMonths? months = some u
      ↔ t.date.Moves months u.date ∧ u.nanosOfDay = t.nanosOfDay := by
  have hmoves : t.date.Moves months (t.date.addMonths months) :=
    (Date.moves_iff t.exists_date).mpr rfl
  rw [addMonths?, ofNanos?_eq_some_iff, Date.moves_iff t.exists_date]
  constructor
  · exact eq_of_nanos_eq_day hmoves.exists_day t.nanosOfDay_lt
  · rintro ⟨hdate, htime⟩
    rw [u.nanos_eq, hdate, htime]

lemma addSeconds?_eq_some_iff {t u : Instant} {seconds : Int} :
    t.addSeconds? seconds = some u ↔ u.nanos = t.nanos + seconds * nanosPerSecond := by
  rw [addSeconds?, ofNanos?_eq_some_iff]

end Instant

end Criteria

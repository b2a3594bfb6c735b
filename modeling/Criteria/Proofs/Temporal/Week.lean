/-
Week dates and calendar dates.

* `firstMonday_eq`: where an ISO year starts;
* `weeksOf`: 53 weeks for the years that start on a Thursday, or in a leap year
  on a Wednesday, and 52 for the others; `weeksInYear?_eq` finds them in the week
  of the 28th of December, and `firstMonday_succ` says that they fill the year;
* `WeekDate.ofDay_dayNumber`, `WeekDate.dayNumber_ofDay`: the week dates that
  exist and the day numbers correspond one to one;
* `WeekDate.Before`, `WeekDate.dayNumber_lt_iff`: the order of week dates is
  that of their numbers;
* `WeekDate.next`, `WeekDate.dayNumber_next`: the week date after a week date
  has the next number;
* `WeekDate.date_correspondence`: so the week dates of the years that lie wholly in
  the supported calendar correspond to its days, in order and day by day.
-/
import Criteria.Proofs.Temporal.DayNumber

namespace Criteria

/-! ### The start of an ISO year -/

lemma weekdayOfDay_eq (n : Int) : (weekdayOfDay n : Int) = (n - 1) % 7 + 1 := by
  rw [weekdayOfDay]
  omega

lemma Date.dayNumber_january (year : Int) (day : Nat) :
    dayNumber ⟨year, 1, day⟩ = daysBeforeYear year + day := by
  simp [dayNumber, daysBeforeMonth_one]

/-- An ISO year starts on the Monday on or before the fourth of January. -/
lemma firstMonday_eq (year : Int) :
    firstMonday year = daysBeforeYear year + 4 - (daysBeforeYear year + 3) % 7 := by
  rw [firstMonday]
  simp only [Date.dayNumber_january, weekdayOfDay_eq]
  omega

lemma firstMonday_mono {y z : Int} (h : y ≤ z) : firstMonday y ≤ firstMonday z := by
  rw [firstMonday_eq, firstMonday_eq]
  by_cases heq : y = z
  · obtain rfl := heq
    exact Int.le_refl _
  · have hmono := daysBeforeYear_mono (show y + 1 ≤ z by omega)
    rw [daysBeforeYear_succ] at hmono
    have hlength := daysInYear_eq_or y
    omega

/-! ### The weeks of an ISO year -/

/-- The number of weeks of an ISO year: 53 when the first of January is a
Thursday, or a Wednesday in a leap year. -/
def weeksOf (year : Int) : Nat :=
  let first := weekdayOfDay (Date.dayNumber ⟨year, 1, 1⟩)
  if first = 4 ∨ (first = 3 ∧ isLeapYear year = true) then 53 else 52

lemma weekdayOfDay_first (year : Int) :
    (weekdayOfDay (Date.dayNumber ⟨year, 1, 1⟩) : Int) = daysBeforeYear year % 7 + 1 := by
  rw [weekdayOfDay_eq, Date.dayNumber_january]
  omega

/-- The weeks of an ISO year fill it, up to the start of the next one. -/
lemma firstMonday_succ (year : Int) :
    firstMonday (year + 1) = firstMonday year + 7 * weeksOf year := by
  have hfirst := weekdayOfDay_first year
  rw [firstMonday_eq, firstMonday_eq, daysBeforeYear_succ, weeksOf, daysInYear]
  by_cases hleap : isLeapYear year = true
  · simp only [hleap, if_true, and_true]
    split_ifs <;> omega
  · simp only [hleap, Bool.false_eq_true, if_false, and_false, or_false]
    split_ifs <;> omega

/-- The week date of a day number is found by the start of its ISO year. -/
lemma WeekDate.ofDay_eq {n y : Int} (hstart : firstMonday y ≤ n)
    (hend : n < firstMonday (y + 1)) :
    ofDay n = ⟨y, ((n - firstMonday y) / 7).toNat + 1, weekdayOfDay n⟩ := by
  have hweekday := weekdayOfDay_eq n
  -- the Thursday of the week decides the year
  have hyear : yearOfDay (n - weekdayOfDay n + 4) = y := by
    rw [firstMonday_eq] at hstart hend
    apply yearOfDay_eq <;> omega
  rw [ofDay]
  simp only [hyear]
  rw [firstMonday_eq] at hstart ⊢
  congr 2
  omega

/-- The weeks of an ISO year are those up to the 28th of December. -/
theorem weeksInYear?_eq (year : Int) :
    weeksInYear? year = if Date.isSupportedYear year then some (weeksOf year) else none := by
  have hend := daysBeforeMonth_end year
  have hlast : Date.dayNumber ⟨year, 12, 28⟩ = daysBeforeYear (year + 1) - 3 := by
    rw [daysBeforeMonth, show daysInMonth year 12 = 31 from rfl] at hend
    rw [Date.dayNumber, daysBeforeYear_succ]
    simp only
    omega
  have hsucc := firstMonday_succ year
  have hnext := firstMonday_eq (year + 1)
  have hweek : (WeekDate.ofDay (daysBeforeYear (year + 1) - 3)).week = weeksOf year := by
    have hyear := daysBeforeYear_succ year
    have hlength := daysInYear_eq_or year
    have hfirst := firstMonday_eq year
    rw [WeekDate.ofDay_eq (y := year) (by omega) (by omega)]
    simp only
    omega
  rw [weeksInYear?, hlast, hweek]

/-! ### Week dates and day numbers -/

namespace WeekDate

/-- A week date exists when its ISO year has the week and a week has the
weekday. -/
def Exists (w : WeekDate) : Prop :=
  (1 ≤ w.week ∧ w.week ≤ weeksOf w.year) ∧ 1 ≤ w.weekday ∧ w.weekday ≤ 7

instance (w : WeekDate) : Decidable w.Exists := inferInstanceAs (Decidable (_ ∧ _))

/-- The day number of a week date. -/
def dayNumber (w : WeekDate) : Int := dayOfWeek w.year w.week w.weekday

/-- A week date that exists lies in its ISO year. -/
lemma dayNumber_bounds {w : WeekDate} (h : w.Exists) :
    firstMonday w.year ≤ w.dayNumber ∧ w.dayNumber < firstMonday (w.year + 1) := by
  obtain ⟨hweek, hweekday⟩ := h
  rw [firstMonday_succ, dayNumber, dayOfWeek]
  omega

/-- A week date that exists is found from its number. -/
theorem ofDay_dayNumber {w : WeekDate} (h : w.Exists) : ofDay w.dayNumber = w := by
  obtain ⟨hstart, hend⟩ := dayNumber_bounds h
  obtain ⟨hweek, hweekday⟩ := h
  have hmonday : firstMonday w.year % 7 = 1 := by
    rw [firstMonday_eq]
    omega
  have hday : weekdayOfDay w.dayNumber = w.weekday := by
    have := weekdayOfDay_eq w.dayNumber
    rw [dayNumber, dayOfWeek] at this ⊢
    omega
  rw [ofDay_eq hstart hend, hday]
  congr 1
  rw [dayNumber, dayOfWeek]
  omega

/-- Each day number lies in one ISO year. -/
lemma exists_year (n : Int) : ∃ year, firstMonday year ≤ n ∧ n < firstMonday (year + 1) := by
  obtain ⟨hstart, hend⟩ := yearOfDay_bounds n
  -- the ISO year is the calendar year, the one before it or the one after it
  by_cases hbefore : n < firstMonday (yearOfDay n)
  · refine ⟨yearOfDay n - 1, ?_, by rwa [Int.sub_add_cancel]⟩
    have hprevious := daysBeforeYear_succ (yearOfDay n - 1)
    rw [Int.sub_add_cancel] at hprevious
    have hlength := daysInYear_eq_or (yearOfDay n - 1)
    rw [firstMonday_eq]
    omega
  · by_cases hafter : n < firstMonday (yearOfDay n + 1)
    · exact ⟨yearOfDay n, by omega, hafter⟩
    · refine ⟨yearOfDay n + 1, by omega, ?_⟩
      have hlength := daysInYear_eq_or (yearOfDay n + 1)
      rw [firstMonday_eq, daysBeforeYear_succ]
      omega

/-- The week date of a day number exists, and has that number. -/
theorem dayNumber_ofDay (n : Int) : (ofDay n).Exists ∧ (ofDay n).dayNumber = n := by
  obtain ⟨year, hstart, hend⟩ := exists_year n
  have hweekday := weekdayOfDay_eq n
  have hmonday : firstMonday year % 7 = 1 := by
    rw [firstMonday_eq]
    omega
  rw [ofDay_eq hstart hend]
  rw [firstMonday_succ] at hend
  refine ⟨⟨⟨Nat.le_add_left 1 _, ?_⟩, ?_⟩, ?_⟩
  · simp only
    omega
  · simp only
    omega
  · rw [dayNumber, dayOfWeek]
    simp only
    omega

/-! ### The order of week dates -/

/-- A week date comes before another: in an earlier year, or in an earlier week
of the same year, or earlier in the same week. -/
def Before (v w : WeekDate) : Prop :=
  PartsBefore (v.year, v.week, v.weekday) (w.year, w.week, w.weekday)

instance (v w : WeekDate) : Decidable (v.Before w) := inferInstanceAs (Decidable (PartsBefore _ _))

lemma Before.dayNumber_lt {v w : WeekDate} (h : v.Before w) (hv : v.Exists) (hw : w.Exists) :
    v.dayNumber < w.dayNumber := by
  obtain hyear | ⟨hyear, hweek⟩ := h
  · have hmono := firstMonday_mono (show v.year + 1 ≤ w.year from hyear)
    have hend := (dayNumber_bounds hv).2
    have hstart := (dayNumber_bounds hw).1
    omega
  · obtain ⟨-, hday⟩ := hv
    obtain ⟨-, hday'⟩ := hw
    simp only at hyear hweek
    rw [dayNumber, dayNumber, dayOfWeek, dayOfWeek, hyear]
    omega

/-- The order of week dates is that of their numbers. -/
theorem dayNumber_lt_iff {v w : WeekDate} (hv : v.Exists) (hw : w.Exists) :
    v.dayNumber < w.dayNumber ↔ v.Before w := by
  refine lt_iff_partsBefore (fun h => Before.dayNumber_lt h hv hw) (fun h => ?_)
    fun h => Before.dayNumber_lt h hw hv
  obtain ⟨year, week, weekday⟩ := v
  simp only [Prod.mk.injEq] at h
  rw [dayNumber, dayNumber, h.1, h.2.1, h.2.2]

/-- The week date after a week date. -/
def next (w : WeekDate) : WeekDate :=
  if w.weekday < 7 then ⟨w.year, w.week, w.weekday + 1⟩
  else if w.week < weeksOf w.year then ⟨w.year, w.week + 1, 1⟩
  else ⟨w.year + 1, 1, 1⟩

lemma weeksOf_pos (year : Int) : 1 ≤ weeksOf year := by
  rw [weeksOf]
  split_ifs <;> omega

/-- The week date after a week date that exists does so too, and its number is
the next one. -/
theorem dayNumber_next {w : WeekDate} (h : w.Exists) :
    w.next.Exists ∧ w.next.dayNumber = w.dayNumber + 1 := by
  obtain ⟨hweek, hweekday⟩ := h
  rw [next]
  split_ifs with hday hlast
  · refine ⟨⟨hweek, by simp only; omega⟩, ?_⟩
    simp only [dayNumber, dayOfWeek]
    omega
  · refine ⟨⟨⟨by simp only; omega, hlast⟩, Nat.le_refl 1, by simp only; omega⟩, ?_⟩
    simp only [dayNumber, dayOfWeek]
    omega
  · refine ⟨⟨⟨Nat.le_refl 1, weeksOf_pos _⟩, Nat.le_refl 1, by simp only; omega⟩, ?_⟩
    simp only [dayNumber, dayOfWeek, firstMonday_succ]
    omega

/-! ### Days of week dates -/

/-- The day of a week date. -/
def date (w : WeekDate) : Except TemporalError Date := Date.ofWeek w.year w.week w.weekday

/-- In a supported year only the week and the weekday can be wrong. -/
lemma date_eq {w : WeekDate} (h : Date.isSupportedYear w.year = true) :
    w.date
      = if w.week < 1 ∨ weeksOf w.year < w.week then
          .error (.invalid .week (toString w.week) (.weekOfYear w.year (weeksOf w.year)))
        else if w.weekday < 1 ∨ 7 < w.weekday then
          .error (.invalid .weekday (toString w.weekday) .dayOfWeek)
        else .ok (Date.ofDayNumber w.dayNumber) := by
  rw [date, Date.ofWeek, weeksInYear?_eq, if_pos h, dayNumber]

/-- In a supported year the week dates that exist have the days of their
numbers. -/
lemma date_eq_ok_iff {w : WeekDate} (h : Date.isSupportedYear w.year = true) {d : Date} :
    w.date = .ok d ↔ w.Exists ∧ Date.ofDayNumber w.dayNumber = d := by
  rw [date_eq h, Exists]
  split_ifs with hweek hweekday
  · simp only [false_iff]
    omega
  · simp only [false_iff]
    omega
  · rw [Except.ok.injEq, and_iff_right ⟨by omega, by omega⟩]

/-- The week dates of the ISO years that lie wholly in the supported calendar. -/
def IsCovered (w : WeekDate) : Prop := -262142 ≤ w.year ∧ w.year ≤ 262142

instance (w : WeekDate) : Decidable w.IsCovered := inferInstanceAs (Decidable (_ ∧ _))

lemma IsCovered.isSupportedYear {w : WeekDate} (h : w.IsCovered) :
    Date.isSupportedYear w.year = true := by
  obtain ⟨hmin, hmax⟩ := h
  rw [Date.isSupportedYear, Bool.and_eq_true, decide_eq_true_eq, decide_eq_true_eq,
    Date.minYear, Date.maxYear]
  omega

/-- Neither the first nor the last week of a covered year leaves the supported
calendar. -/
lemma isSupported_ofDayNumber {w : WeekDate} (h : w.IsCovered) (hw : w.Exists) :
    (Date.ofDayNumber w.dayNumber).isSupported = true := by
  obtain ⟨hmin, hmax⟩ := h
  obtain ⟨hstart, hend⟩ := dayNumber_bounds hw
  have hfirst := firstMonday_mono hmin
  have hlast := firstMonday_mono (show w.year + 1 ≤ 262143 by omega)
  have hearliest : daysBeforeYear Date.minYear < firstMonday (-262142) := by decide
  have hlatest : firstMonday 262143 ≤ daysBeforeYear (Date.maxYear + 1) := by decide
  rw [Date.isSupported_ofDayNumber_iff]
  omega

/-- A covered week date has the day whose week date it is. -/
theorem date_eq_ok_iff_weekDate? {w : WeekDate} (h : w.IsCovered) {d : Date} :
    w.date = .ok d ↔ d.Exists ∧ d.weekDate? = some w := by
  rw [date_eq_ok_iff h.isSupportedYear, Date.weekDate?, Option.ite_none_right_eq_some,
    Option.some.injEq]
  constructor
  · rintro ⟨hw, rfl⟩
    refine ⟨Date.exists_ofDayNumber _, isSupported_ofDayNumber h hw, ?_⟩
    rw [Date.dayNumber_ofDayNumber, ofDay_dayNumber hw]
  · rintro ⟨hd, -, rfl⟩
    obtain ⟨hw, hnumber⟩ := dayNumber_ofDay d.dayNumber
    exact ⟨hw, by rw [hnumber, Date.ofDayNumber_dayNumber hd]⟩

/-- Week dates and their days are in the same order. -/
lemma before_iff_of_date {v w : WeekDate} {d e : Date} (hv : v.IsCovered) (hw : w.IsCovered)
    (hd : v.date = .ok d) (he : w.date = .ok e) : v.Before w ↔ d.Before e := by
  obtain ⟨hv', rfl⟩ := (date_eq_ok_iff hv.isSupportedYear).mp hd
  obtain ⟨hw', rfl⟩ := (date_eq_ok_iff hw.isSupportedYear).mp he
  rw [← dayNumber_lt_iff hv' hw', ← Date.dayNumber_lt_iff (Date.exists_ofDayNumber _)
    (Date.exists_ofDayNumber _), Date.dayNumber_ofDayNumber, Date.dayNumber_ofDayNumber]

/-- The next week date has the next day. -/
lemma date_next {w : WeekDate} {d : Date} (hw : w.IsCovered) (hnext : w.next.IsCovered)
    (h : w.date = .ok d) : w.next.date = .ok d.next := by
  obtain ⟨hw', rfl⟩ := (date_eq_ok_iff hw.isSupportedYear).mp h
  obtain ⟨hexists, hnumber⟩ := dayNumber_next hw'
  obtain ⟨hexists', hnumber'⟩ := Date.dayNumber_next (Date.exists_ofDayNumber w.dayNumber)
  refine (date_eq_ok_iff hnext.isSupportedYear).mpr ⟨hexists, ?_⟩
  rw [Date.dayNumber_ofDayNumber] at hnumber'
  rw [hnumber, ← hnumber', Date.ofDayNumber_dayNumber hexists']

/-- **Week dates and calendar dates correspond one to one.** A covered year has
52 weeks, or 53 when it starts on a Thursday or in a leap year on a Wednesday.
Exactly the week dates with one of its weeks and one of seven weekdays have a
day; it is the existing day whose week date they are. The correspondence keeps
the order, and the next week date has the next day, also at the end of a week
and of a year. -/
theorem date_correspondence :
    (∀ w : WeekDate, w.IsCovered → weeksInYear? w.year = some (weeksOf w.year)) ∧
    (∀ w : WeekDate, w.IsCovered → ((∃ d, w.date = .ok d) ↔ w.Exists)) ∧
    (∀ (w : WeekDate) (d : Date), w.IsCovered →
      (w.date = .ok d ↔ d.Exists ∧ d.weekDate? = some w)) ∧
    (∀ (v w : WeekDate) (d e : Date), v.IsCovered → w.IsCovered → v.date = .ok d →
      w.date = .ok e → (v.Before w ↔ d.Before e)) ∧
    ∀ (w : WeekDate) (d : Date), w.IsCovered → w.next.IsCovered → w.date = .ok d →
      w.next.date = .ok d.next := by
  refine ⟨fun w hw => ?_, fun w hw => ?_, fun w d hw => date_eq_ok_iff_weekDate? hw,
    fun v w d e hv hw => before_iff_of_date hv hw, fun w d hw hnext => date_next hw hnext⟩
  · rw [weeksInYear?_eq, if_pos hw.isSupportedYear]
  · simp only [date_eq_ok_iff hw.isSupportedYear]
    exact ⟨fun ⟨_, h, _⟩ => h, fun h => ⟨_, h, rfl⟩⟩

/-- The weeks of 2020 end in January 2021, and the next day is in the first week
of 2021. -/
theorem date_correspondence_turnOfYear :
    weeksInYear? 2020 = some 53 ∧
    (∃ d, WeekDate.date ⟨2020, 53, 7⟩ = .ok d) ∧
    Date.weekDate? ⟨2021, 1, 3⟩ = some ⟨2020, 53, 7⟩ ∧
    Date.Before ⟨2021, 1, 3⟩ ⟨2021, 1, 4⟩ ∧
    WeekDate.date ⟨2021, 1, 1⟩ = .ok ⟨2021, 1, 4⟩ := by
  obtain ⟨hweeks, hexists, hdate, horder, hnext⟩ := date_correspondence
  have hlast : IsCovered ⟨2020, 53, 7⟩ := by decide
  have hfirst : IsCovered ⟨2021, 1, 1⟩ := by decide
  have hday : WeekDate.date ⟨2020, 53, 7⟩ = .ok ⟨2021, 1, 3⟩ := rfl
  have hday' : WeekDate.date ⟨2021, 1, 1⟩ = .ok ⟨2021, 1, 4⟩ := hnext _ _ hlast hfirst hday
  exact ⟨hweeks _ hlast, (hexists _ hlast).mpr (by decide), ((hdate _ _ hlast).mp hday).2,
    (horder _ _ _ _ hlast hfirst hday hday').mp (by decide), hday'⟩

end WeekDate

end Criteria

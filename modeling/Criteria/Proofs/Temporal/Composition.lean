/-
Instants moved twice.

* `Duration.IsMonths`, `Duration.IsSeconds`: durations of months alone and of
  seconds alone, with what they do to an instant in
  `Duration.IsMonths.shift?_eq_some_iff` and `Duration.IsSeconds.shift?_eq_some_iff`;
* `Date.Moves.year_month_eq`, `Date.Moves.day_eq_min_of_twice`: a day that is moved
  twice is in the month of a day that is moved at once, and is the same day but
  for the length of the month in between;
* `Duration.shift?_twice`: so shifts by months add up, save for what the month in
  between clamps, and shifts by seconds add up exactly.
-/
import Criteria.Proofs.Temporal.Shift

namespace Criteria

/-! ### Days moved twice -/

namespace Date.Moves

variable {d e f g : Date} {m n : Int}

/-- A day that is moved twice is in the month of the day that is moved at once. -/
lemma year_month_eq (hde : d.Moves m e) (hef : e.Moves n f) (hdg : d.Moves (m + n) g) :
    g.year = f.year ∧ g.month = f.month := by
  refine eq_of_monthIndex_eq (exists_iff.mp hdg.exists_day).1 (exists_iff.mp hef.exists_day).1 ?_
  rw [hdg.monthIndex_eq, hef.monthIndex_eq, hde.monthIndex_eq, Int.add_assoc]

/-- A day that is moved twice is the day that is moved at once, unless the month
in between is too short for it. -/
lemma day_eq_min_of_twice (hde : d.Moves m e) (hef : e.Moves n f) (hdg : d.Moves (m + n) g) :
    f.day = min g.day (daysInMonth e.year e.month) := by
  obtain ⟨hyear, hmonth⟩ := year_month_eq hde hef hdg
  rw [hef.day_eq_min, hde.day_eq_min, hdg.day_eq_min, hyear, hmonth]
  omega

/-- A day that is moved there and back is the same again, unless the move there
clamped it. -/
lemma eq_iff_of_back (hd : d.Exists) (hde : d.Moves m e) (hef : e.Moves (-m) f) :
    f = d ↔ e.day = d.day := by
  have hdd : d.Moves (m + -m) d := by
    rw [Int.add_right_neg]
    exact (moves_zero_iff hd).mpr rfl
  obtain ⟨hyear, hmonth⟩ := year_month_eq hde hef hdd
  have hday : f.day = e.day := by
    rw [day_eq_min_of_twice hde hef hdd, hde.day_eq_min]
  constructor
  · rintro rfl
    exact hday.symm
  · intro hsame
    obtain ⟨year, month, day⟩ := f
    simp only at hyear hmonth hday
    rw [← hyear, ← hmonth, hday, hsame]

end Date.Moves

namespace Duration

variable {d : Duration} {t u : Instant}

/-! ### Durations of months alone -/

/-- A duration of months alone. -/
def IsMonths (d : Duration) (months : Int) : Prop :=
  d.totalMonths? = some months ∧ d.totalSeconds? = some 0

namespace IsMonths

variable {months : Int}

/-- Months alone keep the time of day. -/
lemma shift?_eq_some_iff (h : d.IsMonths months) :
    d.shift? t = some u ↔ t.date.Moves months u.date ∧ u.nanosOfDay = t.nanosOfDay := by
  rw [Duration.shift?_eq_some_iff]
  constructor
  · rintro ⟨m, s, hm, hs, moved, hdate, htime, hu⟩
    obtain rfl := Option.some.inj (h.1.symm.trans hm)
    obtain rfl := Option.some.inj (h.2.symm.trans hs)
    obtain rfl : u = moved := Instant.eq_of_nanos_eq (by rw [hu, Int.zero_mul, Int.add_zero])
    exact ⟨hdate, htime⟩
  · rintro ⟨hdate, htime⟩
    exact ⟨months, 0, h.1, h.2, u, hdate, htime, by rw [Int.zero_mul, Int.add_zero]⟩

/-- An instant is moved by months alone when the day that it is moved to is in
the supported calendar. -/
lemma exists_shift? (h : d.IsMonths months) {e : Date} (he : t.date.Moves months e)
    (hyear : Date.isSupportedYear e.year = true) : ∃ u, d.shift? t = some u := by
  obtain ⟨u, hdate, htime⟩ := Instant.exists_of_date he.exists_day t.nanosOfDay_lt hyear
  exact ⟨u, h.shift?_eq_some_iff.mpr ⟨hdate ▸ he, htime⟩⟩

end IsMonths

/-! ### Durations of seconds alone -/

/-- A duration of seconds alone. -/
def IsSeconds (d : Duration) (seconds : Int) : Prop :=
  d.totalMonths? = some 0 ∧ d.totalSeconds? = some seconds

/-- Seconds alone are added. -/
lemma IsSeconds.shift?_eq_some_iff {seconds : Int} (h : d.IsSeconds seconds) :
    d.shift? t = some u ↔ u.nanos = t.nanos + seconds * nanosPerSecond := by
  rw [Duration.shift?_eq_some_iff]
  constructor
  · rintro ⟨m, s, hm, hs, moved, hdate, htime, hu⟩
    obtain rfl := Option.some.inj (h.1.symm.trans hm)
    obtain rfl := Option.some.inj (h.2.symm.trans hs)
    obtain rfl : moved = t :=
      Instant.eq_of_date_eq ((Date.moves_zero_iff t.exists_date).mp hdate) htime
    exact hu
  · intro hu
    exact ⟨0, seconds, h.1, h.2, t, (Date.moves_zero_iff t.exists_date).mpr rfl, rfl, hu⟩

/-! ### Shifts one after the other -/

/-- **Shifts add up.** An instant that is moved by months and then by months again
can be moved by their sum; both results are at the same time of day in the same
month, and the day of the first is that of the second, or the last day of the
month in between when that is too short. So the way back leads to the instant
itself, unless its day was clamped. Shifts by seconds add up exactly. -/
theorem shift?_twice {a b : Duration} {x y z : Instant} (hy : a.shift? x = some y)
    (hz : b.shift? y = some z) :
    (∀ (c : Duration) (m n : Int), a.IsMonths m → b.IsMonths n → c.IsMonths (m + n) →
      ∃ w, c.shift? x = some w ∧ (z.date.year = w.date.year ∧ z.date.month = w.date.month) ∧
        z.nanosOfDay = w.nanosOfDay ∧
        z.date.day = min w.date.day (daysInMonth y.date.year y.date.month)) ∧
    (∀ m, a.IsMonths m → b.IsMonths (-m) → (z = x ↔ y.date.day = x.date.day)) ∧
    ∀ (c : Duration) (s r : Int), a.IsSeconds s → b.IsSeconds r → c.IsSeconds (s + r) →
      c.shift? x = some z := by
  refine ⟨fun c m n ha hb hc => ?_, fun m ha hb => ?_, fun c s r ha hb hc => ?_⟩
  · obtain ⟨hxy, hytime⟩ := ha.shift?_eq_some_iff.mp hy
    obtain ⟨hyz, hztime⟩ := hb.shift?_eq_some_iff.mp hz
    have hmoves : x.date.Moves (m + n) (x.date.addMonths (m + n)) :=
      Date.moves_addMonths x.exists_date _
    have hyear : Date.isSupportedYear (x.date.addMonths (m + n)).year = true := by
      rw [(hxy.year_month_eq hyz hmoves).1]
      exact z.isSupportedYear_date
    obtain ⟨w, hw⟩ := hc.exists_shift? hmoves hyear
    obtain ⟨hxw, hwtime⟩ := hc.shift?_eq_some_iff.mp hw
    obtain ⟨hyear, hmonth⟩ := hxy.year_month_eq hyz hxw
    exact ⟨w, hw, ⟨hyear.symm, hmonth.symm⟩, by rw [hztime, hytime, hwtime],
      hxy.day_eq_min_of_twice hyz hxw⟩
  · obtain ⟨hxy, hytime⟩ := ha.shift?_eq_some_iff.mp hy
    obtain ⟨hyz, hztime⟩ := hb.shift?_eq_some_iff.mp hz
    rw [← hxy.eq_iff_of_back x.exists_date hyz]
    exact ⟨congrArg Instant.date, fun hdate =>
      Instant.eq_of_date_eq hdate (hztime.trans hytime)⟩
  · rw [ha.shift?_eq_some_iff] at hy
    rw [hb.shift?_eq_some_iff] at hz
    rw [hc.shift?_eq_some_iff, hz, hy, Int.add_mul, Int.add_assoc]

end Duration

/-- Half a second after noon on the 29th of February 2024. -/
def Instant.leapDay : Instant := ⟨1709208000500000000, by decide, by decide⟩

/-- Half a second after noon on the 29th of March 2024. -/
def Instant.lateMarch : Instant := ⟨1711713600500000000, by decide, by decide⟩

/-- A duration of one count of months. -/
def Duration.ofMonths (n : Int64) : Duration := { empty with months := some n }

/-- A duration of one count of days. -/
def Duration.ofDays (n : Int64) : Duration := { empty with days := some n }

/-- Two months after the 31st of January it is the 31st of March, but the 29th by
way of February; from the 29th of March a month leads back to the 29th of
February. Twice 29 days are 58. -/
theorem Duration.shift?_twice_throughFebruary :
    (∃ w, (ofMonths 2).shift? .endOfJanuary = some w ∧ w.date.month = 3 ∧
      29 = min w.date.day (daysInMonth 2024 2)) ∧
    (∃ z, (ofMonths (-1)).shift? .lateMarch = some z ∧ z = .leapDay) ∧
    (ofDays 58).shift? .endOfJanuary = some .lateMarch := by
  have hmonth : (ofMonths 1).IsMonths 1 := ⟨rfl, rfl⟩
  have hback : (ofMonths (-1)).IsMonths (-1) := ⟨rfl, rfl⟩
  have hdays : (ofDays 29).IsSeconds 2505600 := ⟨rfl, rfl⟩
  have hfirst : (ofMonths 1).shift? .endOfJanuary = some .leapDay :=
    hmonth.shift?_eq_some_iff.mpr ⟨⟨rfl, by decide, by decide⟩, by decide⟩
  have hsecond : (ofMonths 1).shift? .leapDay = some .lateMarch :=
    hmonth.shift?_eq_some_iff.mpr ⟨⟨rfl, by decide, by decide⟩, by decide⟩
  refine ⟨?_, ?_, ?_⟩
  · obtain ⟨w, hw, ⟨-, hmarch⟩, -, hday⟩ :=
      (shift?_twice hfirst hsecond).1 (ofMonths 2) 1 1 hmonth hmonth ⟨rfl, rfl⟩
    exact ⟨w, hw, hmarch.symm, hday⟩
  · obtain ⟨z, hz⟩ := hback.exists_shift? (t := .lateMarch) (e := ⟨2024, 2, 29⟩)
      ⟨rfl, by decide, by decide⟩ rfl
    exact ⟨z, hz, ((shift?_twice hsecond hz).2.1 1 hmonth hback).mpr (by decide)⟩
  · have hfirst' := (hdays.shift?_eq_some_iff (t := .endOfJanuary) (u := .leapDay)).mpr rfl
    have hsecond' := (hdays.shift?_eq_some_iff (t := .leapDay) (u := .lateMarch)).mpr rfl
    exact (shift?_twice hfirst' hsecond').2.2 (ofDays 58) _ _ hdays hdays ⟨rfl, rfl⟩

end Criteria

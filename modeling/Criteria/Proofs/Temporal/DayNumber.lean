/-
Days and their numbers.

* `yearOfDay_eq`, `monthOfOrdinal_eq`: the year and the month of a day number
  are the only ones that it lies in;
* `Date.ofDayNumber_dayNumber`: a day that exists is found from its number, so
  the days that exist and the day numbers correspond one to one;
* `Date.Before`: the order of days by year, month and day;
  `Date.dayNumber_lt_iff`: it is the order of their numbers;
* `Date.next`: the day after a day; `Date.dayNumber_next`: its number is the
  next one;
* `Date.Follows`: a day is reached from another by so many steps to the day after,
  forwards or backwards; `Date.follows_iff`: their numbers are so far apart;
* `Date.year_ofDayNumber_iff`, `Date.isSupported_ofDayNumber_iff`: the numbers of
  the days of a span of years and of the supported calendar.
-/
import Criteria.Proofs.Temporal.Calendar
import Mathlib.Logic.Function.Iterate
import Mathlib.Tactic.ByContra

namespace Criteria

/-! ### Years and months that a day lies in -/

lemma daysBeforeYear_mono {y z : Int} (h : y ≤ z) : daysBeforeYear y ≤ daysBeforeYear z := by
  unfold daysBeforeYear
  omega

/-- A day number lies in one year only. -/
lemma yearOfDay_eq {n y : Int} (hstart : daysBeforeYear y < n)
    (hend : n ≤ daysBeforeYear (y + 1)) : yearOfDay n = y := by
  obtain ⟨hstart', hend'⟩ := yearOfDay_bounds n
  by_contra hne
  rcases Int.lt_or_gt_of_ne hne with hlt | hgt
  · have := daysBeforeYear_mono (show yearOfDay n + 1 ≤ y by omega)
    omega
  · have := daysBeforeYear_mono (show y + 1 ≤ yearOfDay n by omega)
    omega

lemma daysInYear_eq_or (year : Int) : daysInYear year = 365 ∨ daysInYear year = 366 := by
  rw [daysInYear]
  split_ifs <;> simp

lemma daysBeforeMonth_mono (year : Int) {month last : Nat} (h : month ≤ last) :
    daysBeforeMonth year month ≤ daysBeforeMonth year last := by
  induction h with
  | refl => exact Nat.le_refl _
  | step _ ih =>
      rw [daysBeforeMonth]
      omega

/-- A day of a year lies in one month only. -/
lemma monthOfOrdinal_eq {year : Int} {ordinal month last : Nat} (hmonth : 1 ≤ month)
    (hlast : month ≤ last) (hstart : daysBeforeMonth year month < ordinal)
    (hend : ordinal ≤ daysBeforeMonth year (month + 1)) :
    monthOfOrdinal year ordinal last = month := by
  induction last with
  | zero => omega
  | succ n ih =>
      rw [monthOfOrdinal]
      by_cases hn : month = n + 1
      · rw [← hn, if_pos hstart]
      · have := daysBeforeMonth_mono year (show month + 1 ≤ n + 1 by omega)
        rw [if_neg (by omega)]
        exact ih (by omega)

lemma one_le_daysInMonth (year : Int) {month : Nat} (h : 1 ≤ month ∧ month ≤ 12) :
    1 ≤ daysInMonth year month := by
  unfold daysInMonth
  grind

/-! ### Days and day numbers -/

namespace Date

lemma exists_iff {d : Date} :
    d.Exists ↔ (1 ≤ d.month ∧ d.month ≤ 12) ∧ 1 ≤ d.day ∧ d.day ≤ daysInMonth d.year d.month := by
  rw [Exists, ofParts_eq_ok_iff]
  simp

/-- A day that exists lies in its year. -/
lemma dayNumber_bounds {d : Date} (h : d.Exists) :
    daysBeforeYear d.year < d.dayNumber ∧ d.dayNumber ≤ daysBeforeYear (d.year + 1) := by
  obtain ⟨hmonth, hday⟩ := exists_iff.mp h
  have hend := daysBeforeMonth_mono d.year (show d.month + 1 ≤ 13 by omega)
  rw [daysBeforeMonth_end, daysBeforeMonth] at hend
  rw [dayNumber, daysBeforeYear_succ]
  omega

/-- A day that exists is found from its number. -/
theorem ofDayNumber_dayNumber {d : Date} (h : d.Exists) : ofDayNumber d.dayNumber = d := by
  obtain ⟨hstart, hend⟩ := dayNumber_bounds h
  obtain ⟨hmonth, hday⟩ := exists_iff.mp h
  have hyear : yearOfDay d.dayNumber = d.year := yearOfDay_eq hstart hend
  have hordinal : (d.dayNumber - daysBeforeYear d.year).toNat
      = daysBeforeMonth d.year d.month + d.day := by
    rw [dayNumber]
    omega
  have hfound : monthOfOrdinal d.year (daysBeforeMonth d.year d.month + d.day) 12 = d.month := by
    refine monthOfOrdinal_eq hmonth.1 hmonth.2 (by omega) ?_
    rw [daysBeforeMonth]
    omega
  rw [ofDayNumber]
  simp only [hyear, hordinal, hfound, Nat.add_sub_cancel_left]

end Date

/-! ### The order of days -/

/-- The order by three parts, each of which counts when those in front of it are
the same. -/
def PartsBefore (p q : Int × Nat × Nat) : Prop :=
  p.1 < q.1 ∨ p.1 = q.1 ∧ (p.2.1 < q.2.1 ∨ p.2.1 = q.2.1 ∧ p.2.2 < q.2.2)

instance (p q : Int × Nat × Nat) : Decidable (PartsBefore p q) :=
  inferInstanceAs (Decidable (_ ∨ _))

lemma partsBefore_total (p q : Int × Nat × Nat) :
    PartsBefore p q ∨ p = q ∨ PartsBefore q p := by
  obtain ⟨a, b, c⟩ := p
  obtain ⟨a', b', c'⟩ := q
  simp only [PartsBefore, Prod.mk.injEq]
  omega

/-- Numbers that keep the order by parts are in this order. -/
lemma lt_iff_partsBefore {p q : Int × Nat × Nat} {m n : Int} (hlt : PartsBefore p q → m < n)
    (heq : p = q → m = n) (hgt : PartsBefore q p → n < m) : m < n ↔ PartsBefore p q := by
  refine ⟨fun h => ?_, hlt⟩
  obtain hbefore | hsame | hafter := partsBefore_total p q
  · exact hbefore
  · have := heq hsame
    omega
  · have := hgt hafter
    omega

namespace Date

/-- A day comes before another: in an earlier year, or in an earlier month of
the same year, or earlier in the same month. -/
def Before (d e : Date) : Prop :=
  PartsBefore (d.year, d.month, d.day) (e.year, e.month, e.day)

lemma Before.dayNumber_lt {d e : Date} (h : d.Before e) (hd : d.Exists) (he : e.Exists) :
    d.dayNumber < e.dayNumber := by
  obtain hyear | ⟨hyear, hmonth | ⟨hmonth, hday⟩⟩ := h
  · have hmono := daysBeforeYear_mono (show d.year + 1 ≤ e.year from hyear)
    have hend := (dayNumber_bounds hd).2
    have hstart := (dayNumber_bounds he).1
    omega
  · obtain ⟨-, hday⟩ := exists_iff.mp hd
    obtain ⟨-, hday'⟩ := exists_iff.mp he
    have hmono := daysBeforeMonth_mono d.year (show d.month + 1 ≤ e.month from hmonth)
    rw [daysBeforeMonth] at hmono
    simp only at hyear
    rw [dayNumber, dayNumber, ← hyear]
    omega
  · simp only at hyear hmonth hday
    rw [dayNumber, dayNumber, ← hyear, ← hmonth]
    omega

/-- The order of days is that of their numbers. -/
theorem dayNumber_lt_iff {d e : Date} (hd : d.Exists) (he : e.Exists) :
    d.dayNumber < e.dayNumber ↔ d.Before e := by
  refine lt_iff_partsBefore (fun h => Before.dayNumber_lt h hd he) (fun h => ?_)
    fun h => Before.dayNumber_lt h he hd
  obtain ⟨year, month, day⟩ := d
  simp only [Prod.mk.injEq] at h
  rw [dayNumber, dayNumber, h.1, h.2.1, h.2.2]

/-- The day after a day. -/
def next (d : Date) : Date :=
  if d.day < daysInMonth d.year d.month then ⟨d.year, d.month, d.day + 1⟩
  else if d.month < 12 then ⟨d.year, d.month + 1, 1⟩
  else ⟨d.year + 1, 1, 1⟩

/-- The day after a day that exists does so too, and its number is the next
one. -/
theorem dayNumber_next {d : Date} (h : d.Exists) :
    d.next.Exists ∧ d.next.dayNumber = d.dayNumber + 1 := by
  obtain ⟨hmonth, hday⟩ := exists_iff.mp h
  rw [next]
  split_ifs with hlast hyear
  · refine ⟨exists_iff.mpr ⟨hmonth, by simp only; omega⟩, ?_⟩
    rw [dayNumber, dayNumber]
    simp only
    omega
  · have hnext : 1 ≤ d.month + 1 ∧ d.month + 1 ≤ 12 := by omega
    refine ⟨exists_iff.mpr ⟨hnext, Nat.le_refl 1, one_le_daysInMonth d.year hnext⟩, ?_⟩
    rw [dayNumber, dayNumber, daysBeforeMonth]
    simp only
    omega
  · -- the last day of December, with which the days of the year are complete
    have hend := daysBeforeMonth_end d.year
    have hdecember : d.month = 12 := by omega
    rw [daysBeforeMonth, ← hdecember] at hend
    refine ⟨rfl, ?_⟩
    rw [dayNumber, dayNumber, daysBeforeYear_succ, daysBeforeMonth_one]
    simp only
    omega

/-- A day follows another by a number of days: so many steps to the day after
lead to it, or, when the number is negative, lead from it to the other. -/
def Follows (e : Date) : Int → Date → Prop
  | .ofNat n, d => next^[n] d = e
  | .negSucc n, d => next^[n + 1] e = d

lemma dayNumber_iterate_next {d : Date} (h : d.Exists) (n : ℕ) :
    (next^[n] d).Exists ∧ (next^[n] d).dayNumber = d.dayNumber + n := by
  induction n with
  | zero => exact ⟨h, (Int.add_zero _).symm⟩
  | succ n ih =>
      obtain ⟨hexists, hnumber⟩ := ih
      obtain ⟨hnext, hnext'⟩ := dayNumber_next hexists
      rw [Function.iterate_succ_apply']
      exact ⟨hnext, by omega⟩

lemma eq_of_dayNumber_eq {d e : Date} (hd : d.Exists) (he : e.Exists)
    (h : d.dayNumber = e.dayNumber) : d = e := by
  rw [← ofDayNumber_dayNumber hd, h, ofDayNumber_dayNumber he]

lemma iterate_next_eq_iff {d e : Date} (hd : d.Exists) (he : e.Exists) {n : ℕ} :
    next^[n] d = e ↔ e.dayNumber = d.dayNumber + n := by
  obtain ⟨hexists, hnumber⟩ := dayNumber_iterate_next hd n
  rw [← hnumber]
  exact ⟨fun h => h ▸ rfl, fun h => eq_of_dayNumber_eq hexists he h.symm⟩

/-- Days follow one another by the distance of their numbers. -/
theorem follows_iff {d e : Date} (hd : d.Exists) (he : e.Exists) {n : Int} :
    e.Follows n d ↔ n = e.dayNumber - d.dayNumber := by
  cases n with
  | ofNat n =>
      rw [Follows, iterate_next_eq_iff hd he, Int.ofNat_eq_natCast]
      omega
  | negSucc n =>
      rw [Follows, iterate_next_eq_iff he hd]
      omega

/-! ### Spans of years -/

/-- The days of a span of years are those with a number between the ends of its
first and last year. -/
lemma year_ofDayNumber_iff {n first last : Int} :
    (first ≤ (ofDayNumber n).year ∧ (ofDayNumber n).year ≤ last)
      ↔ daysBeforeYear first < n ∧ n ≤ daysBeforeYear (last + 1) := by
  obtain ⟨hstart, hend⟩ := yearOfDay_bounds n
  rw [show (ofDayNumber n).year = yearOfDay n from rfl]
  constructor
  · rintro ⟨hfirst, hlast⟩
    have hfirst' := daysBeforeYear_mono hfirst
    have hlast' := daysBeforeYear_mono (show yearOfDay n + 1 ≤ last + 1 by omega)
    omega
  · rintro ⟨hfirst, hlast⟩
    constructor
    · by_contra hlt
      have := daysBeforeYear_mono (show yearOfDay n + 1 ≤ first by omega)
      omega
    · by_contra hlt
      have := daysBeforeYear_mono (show last + 1 ≤ yearOfDay n by omega)
      omega

lemma isSupported_iff {d : Date} :
    d.isSupported = true ↔ (minYear ≤ d.year ∧ d.year ≤ maxYear) ∧ d.Exists := by
  simp [isSupported, isSupportedYear, exists_iff, and_assoc]

/-- The numbers of the days of the supported calendar. -/
lemma isSupported_ofDayNumber_iff {n : Int} :
    (ofDayNumber n).isSupported = true
      ↔ daysBeforeYear minYear < n ∧ n ≤ daysBeforeYear (maxYear + 1) := by
  rw [isSupported_iff, and_iff_left (exists_ofDayNumber n), year_ofDayNumber_iff]

end Date

end Criteria

/-
The days of the calendar.

* `Date.ofParts_eq_ok_iff`: the parts that name a day, and `Date.Exists` for a
  day whose own parts do;
* `daysBeforeMonth_end`: the months of a year have as many days as the year;
* `monthOfOrdinal_bounds`: the month found for a day of a year is the one that
  the day lies in;
* `Date.exists_ofDayNumber`, `Date.dayNumber_ofDayNumber`: every day number is
  that of a day of the calendar, also at the turn of a year, so a week date names
  a day that exists (`Date.exists_of_ofWeek`).
-/
import Criteria.Temporal.Week
import Mathlib.Tactic.Lemma
import Mathlib.Tactic.SplitIfs

namespace Criteria

namespace Date

/-- A day exists when the calendar accepts its parts. -/
def Exists (d : Date) : Prop := ofParts d.year d.month d.day = .ok d

lemma ofParts_eq_ok_iff {year : Int} {month day : Nat} {d : Date} :
    ofParts year month day = .ok d
      ↔ (1 ≤ month ∧ month ≤ 12) ∧ (1 ≤ day ∧ day ≤ daysInMonth year month) ∧
        ⟨year, month, day⟩ = d := by
  rw [ofParts]
  split_ifs with hmonth hday
  · simp only [false_iff]
    omega
  · simp only [false_iff]
    omega
  · rw [Except.ok.injEq]
    have h1 : 1 ≤ month ∧ month ≤ 12 := by omega
    have h2 : 1 ≤ day ∧ day ≤ daysInMonth year month := by omega
    simp [h1, h2]

lemma exists_of_ofParts {year : Int} {month day : Nat} {d : Date}
    (h : ofParts year month day = .ok d) : d.Exists := by
  obtain ⟨-, -, rfl⟩ := ofParts_eq_ok_iff.mp h
  exact h

end Date

/-! ### Months of a year -/

/-- The first month starts with the year. -/
lemma daysBeforeMonth_one (year : Int) : daysBeforeMonth year 1 = 0 := rfl

/-- The months of a year have as many days as the year. -/
lemma daysBeforeMonth_end (year : Int) : daysBeforeMonth year 13 = daysInYear year := by
  cases h : isLeapYear year <;> simp [daysBeforeMonth, daysInMonth, daysInYear, h]

/-- The month found for a day of a year starts before the day, and so does none
after it. -/
lemma monthOfOrdinal_bounds (year : Int) {ordinal : Nat} (h : 1 ≤ ordinal) {last : Nat}
    (hlast : 1 ≤ last) (hle : ordinal ≤ daysBeforeMonth year (last + 1)) :
    (1 ≤ monthOfOrdinal year ordinal last ∧ monthOfOrdinal year ordinal last ≤ last) ∧
    daysBeforeMonth year (monthOfOrdinal year ordinal last) < ordinal ∧
    ordinal ≤ daysBeforeMonth year (monthOfOrdinal year ordinal last + 1) := by
  induction last with
  | zero => omega
  | succ month ih =>
      by_cases hstart : daysBeforeMonth year (month + 1) < ordinal
      · rw [monthOfOrdinal, if_pos hstart]
        exact ⟨by omega, hstart, hle⟩
      · -- the day lies before this month, which is therefore not the first one
        have hfirst : month ≠ 0 := by
          rintro rfl
          rw [daysBeforeMonth_one] at hstart
          omega
        have hbefore := ih (by omega) (by omega)
        rw [monthOfOrdinal, if_neg hstart]
        exact ⟨by omega, hbefore.2⟩

/-! ### Days from their numbers -/

namespace Date

/-- The day found for a day number exists and has that number. -/
lemma ofDayNumber_spec (n : Int) : (ofDayNumber n).Exists ∧ (ofDayNumber n).dayNumber = n := by
  have hyear := yearOfDay_bounds n
  rw [daysBeforeYear_succ] at hyear
  have hordinal : 1 ≤ (n - daysBeforeYear (yearOfDay n)).toNat := by omega
  have hend : (n - daysBeforeYear (yearOfDay n)).toNat
      ≤ daysBeforeMonth (yearOfDay n) (12 + 1) := by
    rw [daysBeforeMonth_end]
    omega
  obtain ⟨hmonth, hstart, hstop⟩ :=
    monthOfOrdinal_bounds (yearOfDay n) hordinal (by omega) hend
  rw [daysBeforeMonth] at hstop
  constructor
  · refine ofParts_eq_ok_iff.mpr ⟨hmonth, ?_, rfl⟩
    rw [ofDayNumber]
    simp only
    omega
  · rw [ofDayNumber, dayNumber]
    simp only
    omega

/-- Every day number is that of a day of the calendar. -/
theorem exists_ofDayNumber (n : Int) : (ofDayNumber n).Exists := (ofDayNumber_spec n).1

/-- The day of a day number has that number. -/
theorem dayNumber_ofDayNumber (n : Int) : (ofDayNumber n).dayNumber = n := (ofDayNumber_spec n).2

/-- A week date that is accepted names a day that exists, whichever calendar
year it lies in. -/
lemma exists_of_ofWeek {year : Int} {week weekday : Nat} {d : Date}
    (h : ofWeek year week weekday = .ok d) : d.Exists := by
  rw [ofWeek] at h
  split at h
  · exact absurd h (by simp)
  · split_ifs at h
    rw [← Except.ok.inj h]
    exact exists_ofDayNumber _

end Date

end Criteria

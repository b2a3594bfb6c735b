/-
The proleptic Gregorian calendar and its count of days.

* `isLeapYear`, `daysInMonth`: the lengths of years and months;
* `Date`: a year, a month and a day; `Date.ofParts` accepts exactly the days
  of the calendar, `Date.text` writes them;
* `Date.dayNumber`: days counted from the first of January of the year 1,
  which is day 1, and back with `Date.ofDayNumber`;
* `yearOfDay_bounds`: the year found for a day number is the one that the day
  lies in.
-/
import Criteria.Temporal.Error

namespace Criteria

/-- Every fourth year is a leap year, save the centuries that 400 does not
divide. -/
def isLeapYear (year : Int) : Bool :=
  (year % 4 == 0 && year % 100 != 0) || year % 400 == 0

/-- The number of days in a month, zero when there is no such month. -/
def daysInMonth (year : Int) (month : Nat) : Nat :=
  match month with
  | 1 | 3 | 5 | 7 | 8 | 10 | 12 => 31
  | 4 | 6 | 9 | 11 => 30
  | 2 => if isLeapYear year then 29 else 28
  | _ => 0

/-- The number of days in a year. -/
def daysInYear (year : Int) : Nat := if isLeapYear year then 366 else 365

/-- The days from the start of the year 1 to the start of a year. -/
def daysBeforeYear (year : Int) : Int :=
  365 * (year - 1) + (year - 1) / 4 - (year - 1) / 100 + (year - 1) / 400

/-- The days from the start of a year to the start of a month. -/
def daysBeforeMonth (year : Int) : Nat → Nat
  | 0 => 0
  | month + 1 => daysBeforeMonth year month + daysInMonth year month

/-- The year that a day number lies in: an estimate by the mean length of a
year, which is never off by more than one. -/
def yearOfDay (n : Int) : Int :=
  let estimate := 400 * (n - 1) / 146097 + 1
  if n ≤ daysBeforeYear estimate then estimate - 1
  else if daysBeforeYear (estimate + 1) < n then estimate + 1
  else estimate

/-- The last month, up to `month`, that starts before the given day of a year. -/
def monthOfOrdinal (year : Int) (ordinal : Nat) : Nat → Nat
  | 0 => 0
  | month + 1 =>
    if daysBeforeMonth year (month + 1) < ordinal then month + 1
    else monthOfOrdinal year ordinal month

/-- A year starts when the one before it has passed. -/
theorem daysBeforeYear_succ (year : Int) :
    daysBeforeYear (year + 1) = daysBeforeYear year + daysInYear year := by
  have leap : isLeapYear year = true ↔
      (year % 4 = 0 ∧ ¬ year % 100 = 0) ∨ year % 400 = 0 := by
    simp [isLeapYear]
  unfold daysBeforeYear daysInYear
  split
  · have := leap.mp ‹_›
    omega
  · have := mt leap.mpr ‹_›
    omega

/-- The year found for a day number is the one that the day lies in. -/
theorem yearOfDay_bounds (n : Int) :
    daysBeforeYear (yearOfDay n) < n ∧ n ≤ daysBeforeYear (yearOfDay n + 1) := by
  unfold yearOfDay
  simp only
  generalize he : 400 * (n - 1) / 146097 = e
  split
  · rename_i h
    unfold daysBeforeYear at h ⊢
    omega
  · split
    · rename_i h h'
      unfold daysBeforeYear at h h' ⊢
      omega
    · omega

/-- A day of the calendar. -/
structure Date where
  year : Int
  month : Nat
  day : Nat
  deriving DecidableEq, Repr

namespace Date

/-- The day with the given parts: the month is checked before the day. -/
def ofParts (year : Int) (month day : Nat) : Except TemporalError Date :=
  if month < 1 ∨ 12 < month then
    .error (.invalid .month (toString month) (.between 1 12))
  else if day < 1 ∨ daysInMonth year month < day then
    .error (.invalid .day (toString day) (.dayOfMonth year month (daysInMonth year month)))
  else .ok ⟨year, month, day⟩

/-- The written form: year, month and day with dashes, the sign of a year
before the year 0 in front of its four digits. -/
def text (d : Date) : String :=
  (if d.year < 0 then "-" ++ padded 4 d.year.natAbs else padded 4 d.year.natAbs)
    ++ "-" ++ padded 2 d.month ++ "-" ++ padded 2 d.day

/-- The day number: the first of January of the year 1 is day 1. -/
def dayNumber (d : Date) : Int :=
  daysBeforeYear d.year + daysBeforeMonth d.year d.month + d.day

/-- The day with the given day number. -/
def ofDayNumber (n : Int) : Date :=
  let year := yearOfDay n
  let ordinal := (n - daysBeforeYear year).toNat
  let month := monthOfOrdinal year ordinal 12
  ⟨year, month, ordinal - daysBeforeMonth year month⟩

/-- The first year of the supported calendar. -/
def minYear : Int := -262143

/-- The last year of the supported calendar. -/
def maxYear : Int := 262142

/-- Whether a year belongs to the supported calendar. -/
def isSupportedYear (year : Int) : Bool := minYear ≤ year && year ≤ maxYear

/-- Whether the parts name a day that exists, in a supported year. -/
def isSupported (d : Date) : Bool :=
  isSupportedYear d.year && (1 ≤ d.month && d.month ≤ 12)
    && (1 ≤ d.day && d.day ≤ daysInMonth d.year d.month)

end Date

end Criteria

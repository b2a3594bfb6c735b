/-
ISO weeks. A week runs from Monday to Sunday and belongs to the year that
holds its Thursday; the first week of a year is the one with the fourth of
January.

* `weekdayOfDay`: the day of the week of a day number, Monday is 1;
* `WeekDate`: an ISO year, a week and a weekday; `WeekDate.ofDay` gives the
  one of a day number;
* `weeksInYear?`: the number of weeks of an ISO year, 52 or 53;
* `Date.ofWeek`: the day with a given ISO year, week and weekday.
-/
import Criteria.Temporal.Calendar

namespace Criteria

/-- The day of the week of a day number, from 1 for Monday to 7 for Sunday. -/
def weekdayOfDay (n : Int) : Nat := ((n - 1) % 7).toNat + 1

/-- A day named by its ISO year, week and weekday. -/
structure WeekDate where
  year : Int
  week : Nat
  weekday : Nat
  deriving DecidableEq, Repr

namespace WeekDate

/-- The ISO week date of a day number, found by the Thursday of its week. -/
def ofDay (n : Int) : WeekDate :=
  let weekday := weekdayOfDay n
  let thursday := n - weekday + 4
  let year := yearOfDay thursday
  ⟨year, ((thursday - daysBeforeYear year - 1) / 7).toNat + 1, weekday⟩

end WeekDate

/-- The ISO week date of a day, when the day exists in a supported year. -/
def Date.weekDate? (d : Date) : Option WeekDate :=
  if d.isSupported then some (WeekDate.ofDay d.dayNumber) else none

/-- The number of weeks of an ISO year in the supported calendar: the week of
the 28th of December, which is always in the last one. -/
def weeksInYear? (year : Int) : Option Nat :=
  if Date.isSupportedYear year then
    some (WeekDate.ofDay (Date.dayNumber ⟨year, 12, 28⟩)).week
  else none

/-- The day number of the Monday of the first week of an ISO year: the Monday
on or before the fourth of January. -/
def firstMonday (year : Int) : Int :=
  let fourth := Date.dayNumber ⟨year, 1, 4⟩
  fourth - (weekdayOfDay fourth - 1)

/-- The day number of a weekday of a week of an ISO year. -/
def dayOfWeek (year : Int) (week weekday : Nat) : Int :=
  firstMonday year + 7 * ((week : Int) - 1) + ((weekday : Int) - 1)

/-- The day with the given ISO year, week and weekday: the year is checked
before the week and the week before the weekday. -/
def Date.ofWeek (year : Int) (week weekday : Nat) : Except TemporalError Date :=
  match weeksInYear? year with
  | none => .error (.invalid .year (toString year) .calendarRange)
  | some weeks =>
    if week < 1 ∨ weeks < week then
      .error (.invalid .week (toString week) (.weekOfYear year weeks))
    else if weekday < 1 ∨ 7 < weekday then
      .error (.invalid .weekday (toString weekday) .dayOfWeek)
    else .ok (Date.ofDayNumber (dayOfWeek year week weekday))

end Criteria

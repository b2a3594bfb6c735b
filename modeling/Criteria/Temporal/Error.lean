/-
What can be wrong with a temporal literal.

* `Grammar`: the four literal grammars;
* `Component`: the parts of a literal that have a range of their own;
* `Limit`: the rule that a component breaks;
* `TemporalError`: either the text has the wrong form, or its form is right
  and one component breaks its limit. `TemporalError.message` is the wording.
-/
import Criteria.Text.Digit
import Criteria.Text.Quoted

namespace Criteria

/-- The literal grammars. -/
inductive Grammar where
  | date
  | time
  | datetime
  | duration
  deriving DecidableEq, Repr

namespace Grammar

/-- All grammars. -/
def all : List Grammar := [.date, .time, .datetime, .duration]

/-- The name of a grammar. -/
def name : Grammar → String
  | .date => "date"
  | .time => "time"
  | .datetime => "datetime"
  | .duration => "duration"

end Grammar

/-- The parts of a temporal literal. -/
inductive Component where
  | year
  | month
  | day
  | week
  | weekday
  | hour
  | minute
  | second
  | fraction
  | offsetHours
  | offsetMinutes
  | years
  | months
  | weeks
  | days
  | hours
  | minutes
  | seconds
  deriving DecidableEq, Repr

namespace Component

/-- All components. -/
def all : List Component :=
  [.year, .month, .day, .week, .weekday, .hour, .minute, .second, .fraction,
    .offsetHours, .offsetMinutes, .years, .months, .weeks, .days, .hours,
    .minutes, .seconds]

/-- The name of a component in messages. -/
def name : Component → String
  | .year => "year"
  | .month => "month"
  | .day => "day"
  | .week => "week"
  | .weekday => "weekday"
  | .hour => "hour"
  | .minute => "minute"
  | .second => "second"
  | .fraction => "fraction"
  | .offsetHours => "offset hours"
  | .offsetMinutes => "offset minutes"
  | .years => "years"
  | .months => "months"
  | .weeks => "weeks"
  | .days => "days"
  | .hours => "hours"
  | .minutes => "minutes"
  | .seconds => "seconds"

/-- The name of a component in JSON: as in messages, with underscores for
spaces. -/
def key : Component → String
  | .offsetHours => "offset_hours"
  | .offsetMinutes => "offset_minutes"
  | c => c.name

end Component

/-- The rule that a component of a literal has to keep. -/
inductive Limit where
  /-- A whole number between two bounds, both included. -/
  | between (low high : Nat)
  /-- A day of the given month, whose last day is `last`. -/
  | dayOfMonth (year : Int) (month last : Nat)
  /-- A week of the given ISO year, which has `weeks` weeks. -/
  | weekOfYear (year : Int) (weeks : Nat)
  /-- A day of the week, Monday first. -/
  | dayOfWeek
  /-- Microseconds of a second. -/
  | sixDigits
  /-- A 64-bit signed integer. -/
  | wordSize
  /-- A year of the supported calendar. -/
  | calendarRange
  deriving DecidableEq, Repr

namespace Limit

/-- The wording of a limit. -/
def text : Limit → String
  | between low high => "must be between " ++ toString low ++ " and " ++ toString high
  | dayOfMonth year month last =>
    "must be between 1 and " ++ toString last ++ " for " ++ paddedInt 4 year ++ "-"
      ++ padded 2 month
  | weekOfYear year weeks =>
    "must be between 1 and " ++ toString weeks ++ " for ISO year " ++ paddedInt 4 year
  | dayOfWeek => "must be between 1 (Monday) and 7 (Sunday)"
  | sixDigits => "at most six digits"
  | wordSize => "does not fit in an integer"
  | calendarRange => "outside the supported calendar range"

end Limit

/-- Why a text is not a temporal literal of its grammar. -/
inductive TemporalError where
  /-- The text does not have the form of the grammar. -/
  | malformed (grammar : Grammar) (input : String)
  /-- The form is right, but a component, written as `value`, breaks its limit. -/
  | invalid (component : Component) (value : String) (limit : Limit)
  deriving DecidableEq, Repr

namespace TemporalError

/-- The wording of a temporal error. -/
def message : TemporalError → String
  | malformed grammar input => "malformed " ++ grammar.name ++ " literal: " ++ quote input
  | invalid component value limit =>
    "invalid " ++ component.name ++ " " ++ value ++ ": " ++ limit.text

/-- The component at fault, when the form of the literal is right. -/
def component? : TemporalError → Option Component
  | malformed _ _ => none
  | invalid component _ _ => some component

end TemporalError

end Criteria

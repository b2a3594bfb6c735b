/-
Dates and datetimes as literals give them.

* `WrittenDate`: a day and how much of it was written;
* `DateTime`: a day, a time and perhaps an offset from UTC;
* `DateTime.toInstant?`: the instant of a datetime, by its own offset or by an
  assumed one.
-/
import Criteria.Temporal.Week
import Criteria.Temporal.Instant

namespace Criteria

/-- How much of a date was written. -/
inductive Precision where
  | year
  | month
  | day
  | week
  | weekday
  deriving DecidableEq, Repr

namespace Precision

/-- All precisions. -/
def all : List Precision := [.year, .month, .day, .week, .weekday]

/-- The name of a precision. -/
def name : Precision → String
  | .year => "year"
  | .month => "month"
  | .day => "day"
  | .week => "week"
  | .weekday => "week_day"

end Precision

/-- A day with the precision it was written in. The parts left out are the
first of their period. -/
structure WrittenDate where
  date : Date
  precision : Precision
  deriving DecidableEq, Repr

namespace WrittenDate

/-- The written form of the day. -/
def text (d : WrittenDate) : String := d.date.text

end WrittenDate

/-- A day, a time and an offset from UTC, which may be left open. -/
structure DateTime where
  date : Date
  time : TimeOfDay
  offset : Option Offset
  deriving DecidableEq, Repr

namespace DateTime

/-- The written form; nothing stands for an open offset. -/
def text (t : DateTime) : String :=
  t.date.text ++ "T" ++ t.time.text ++ (match t.offset with
    | none => ""
    | some o => o.text)

/-- The datetime that an instant reads in UTC, to the microsecond. -/
def ofInstant (t : Instant) : DateTime := ⟨t.date, t.timeOfDay, some .utc⟩

/-- Whether the day is in the supported calendar and a clock shows the time. -/
def isSupported (t : DateTime) : Bool := t.date.isSupported && t.time.isClock

/-- The second of UTC, since the start of 1970, at which a clock with the given
offset shows a datetime. -/
def secondAt (t : DateTime) (offset : Offset) : Int :=
  (t.date.dayNumber - epochDay) * secondsPerDay + t.time.seconds - offset.seconds

/-- The second of UTC, since the start of 1970, that a datetime lies in. An
open offset is taken to be `assumed`. There is none when the datetime does not
exist, the offset is a day or more, or the second is outside the supported
calendar. -/
def utcSecond? (t : DateTime) (assumed : Offset) : Option Int :=
  let offset := t.offset.getD assumed
  if t.isSupported && offset.isFixed then
    if minSecond ≤ t.secondAt offset ∧ t.secondAt offset ≤ maxSecond then
      some (t.secondAt offset)
    else none
  else none

/-- Microseconds since the start of 1970; those of a leap second run on. -/
def unixMicros? (t : DateTime) (assumed : Offset) : Option Int :=
  (t.utcSecond? assumed).map fun second => second * 1000000 + t.time.micros

/-- The instant of a datetime. -/
def toInstant? (t : DateTime) (assumed : Offset) : Option Instant := do
  let second ← t.utcSecond? assumed
  Instant.ofNanos? (second * nanosPerSecond + t.time.micros * 1000)

end DateTime

end Criteria

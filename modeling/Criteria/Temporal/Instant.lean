/-
Instants of UTC.

* `Instant`: nanoseconds since the start of 1970, within the supported
  calendar;
* `Instant.date`, `Instant.timeOfDay`: the calendar reading of an instant;
* `Instant.addMonths?`, `Instant.addSeconds?`: calendar and exact shifts,
  which fail when they leave the supported calendar;
* `Instant.minSecond_eq`, `Instant.maxSecond_eq`: the bounds are the ends of the
  calendar.
-/
import Criteria.Temporal.Calendar
import Criteria.Temporal.Clock

namespace Criteria

/-- The day number of the first of January 1970. -/
def epochDay : Int := 719163

/-- The nanoseconds of a second. -/
def nanosPerSecond : Int := 1000000000

/-- The seconds of a day. -/
def secondsPerDay : Int := 86400

/-- The nanoseconds of a day. -/
def nanosPerDay : Int := secondsPerDay * nanosPerSecond

/-- The first second of the supported calendar, since the start of 1970. -/
def minSecond : Int := -8334601228800

/-- The last second of the supported calendar, since the start of 1970. -/
def maxSecond : Int := 8210266876799

/-- A moment of UTC, within the supported calendar. -/
structure Instant where
  /-- Nanoseconds since the start of 1970. -/
  nanos : Int
  /-- The moment is not before the first second of the calendar. -/
  min_le : minSecond * nanosPerSecond ≤ nanos
  /-- The moment is in the last second of the calendar or before it. -/
  lt_max : nanos < (maxSecond + 1) * nanosPerSecond
  deriving DecidableEq

namespace Instant

/-- The calendar starts with the first second of its first year. -/
theorem minSecond_eq :
    minSecond = (Date.dayNumber ⟨Date.minYear, 1, 1⟩ - epochDay) * secondsPerDay := by
  decide

/-- The calendar ends with the last second of its last year. -/
theorem maxSecond_eq :
    maxSecond + 1
      = (Date.dayNumber ⟨Date.maxYear, 12, 31⟩ + 1 - epochDay) * secondsPerDay := by
  decide

/-- The instant a number of nanoseconds after the start of 1970, when it lies
in the supported calendar. -/
def ofNanos? (n : Int) : Option Instant :=
  if h : minSecond * nanosPerSecond ≤ n ∧ n < (maxSecond + 1) * nanosPerSecond then
    some ⟨n, h.1, h.2⟩
  else none

/-- Microseconds since the start of 1970, the rest of a microsecond dropped. -/
def unixMicros (t : Instant) : Int := t.nanos / 1000

/-- The day number of the day that an instant lies in. -/
def dayNumber (t : Instant) : Int := t.nanos / nanosPerDay + epochDay

/-- Nanoseconds since the start of the day. -/
def nanosOfDay (t : Instant) : Nat := (t.nanos % nanosPerDay).toNat

/-- The calendar day of an instant. -/
def date (t : Instant) : Date := Date.ofDayNumber t.dayNumber

/-- The time of day of an instant, to the microsecond. -/
def timeOfDay (t : Instant) : TimeOfDay :=
  let micros := t.nanosOfDay / 1000
  let seconds := micros / 1000000
  ⟨seconds / 3600, seconds / 60 % 60, seconds % 60, micros % 1000000⟩

/-- The instant a number of seconds later. -/
def addSeconds? (t : Instant) (s : Int) : Option Instant :=
  ofNanos? (t.nanos + s * nanosPerSecond)

end Instant

/-- The day a number of months later: the same day of the target month, or its
last day when it is shorter. -/
def Date.addMonths (d : Date) (months : Int) : Date :=
  let count := 12 * d.year + ((d.month : Int) - 1) + months
  let year := count / 12
  let month := (count % 12).toNat + 1
  ⟨year, month, min d.day (daysInMonth year month)⟩

namespace Instant

/-- The instant at the same time of day a number of months later. -/
def addMonths? (t : Instant) (months : Int) : Option Instant :=
  let day := (t.date.addMonths months).dayNumber
  ofNanos? ((day - epochDay) * nanosPerDay + t.nanosOfDay)

end Instant

end Criteria

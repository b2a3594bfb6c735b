/-
Times of day and offsets from UTC.

* `TimeOfDay`: hour, minute, second and microseconds; `TimeOfDay.ofParts`
  accepts exactly the times of a day without a leap second, and
  `TimeOfDay.isClock` also allows the leap second, written as microseconds
  beyond the 59th second;
* `Offset`: a signed distance from UTC in hours and minutes.
-/
import Criteria.Temporal.Error

namespace Criteria

/-- A time of day. -/
structure TimeOfDay where
  hour : Nat
  minute : Nat
  second : Nat
  micros : Nat
  deriving DecidableEq, Repr

namespace TimeOfDay

/-- The start of the day. -/
def midnight : TimeOfDay := ⟨0, 0, 0, 0⟩

/-- The time with the given parts, checked from the hour down. -/
def ofParts (hour minute second micros : Nat) : Except TemporalError TimeOfDay :=
  if 23 < hour then .error (.invalid .hour (toString hour) (.between 0 23))
  else if 59 < minute then .error (.invalid .minute (toString minute) (.between 0 59))
  else if 59 < second then .error (.invalid .second (toString second) (.between 0 59))
  else if 999999 < micros then .error (.invalid .fraction (toString micros) .sixDigits)
  else .ok ⟨hour, minute, second, micros⟩

/-- Whether the parts name a time that a clock shows. In the last second of a
minute the microseconds may run on for the length of a leap second. -/
def isClock (t : TimeOfDay) : Bool :=
  t.hour < 24 && t.minute < 60 && t.second < 60
    && (t.micros < 1000000 || (t.second == 59 && t.micros < 2000000))

/-- Whole seconds since midnight. -/
def seconds (t : TimeOfDay) : Nat := 3600 * t.hour + 60 * t.minute + t.second

/-- The written form; the fraction is left out when it is zero. -/
def text (t : TimeOfDay) : String :=
  padded 2 t.hour ++ ":" ++ padded 2 t.minute ++ ":" ++ padded 2 t.second
    ++ (if t.micros = 0 then "" else "." ++ padded 6 t.micros)

end TimeOfDay

/-- A distance from UTC, east unless negative. -/
structure Offset where
  negative : Bool
  hours : Nat
  minutes : Nat
  deriving DecidableEq, Repr

namespace Offset

/-- No distance. -/
def utc : Offset := ⟨false, 0, 0⟩

/-- The offset with the given parts, hours checked before minutes. -/
def ofParts (negative : Bool) (hours minutes : Nat) : Except TemporalError Offset :=
  if 23 < hours then .error (.invalid .offsetHours (toString hours) (.between 0 23))
  else if 59 < minutes then
    .error (.invalid .offsetMinutes (toString minutes) (.between 0 59))
  else .ok ⟨negative, hours, minutes⟩

/-- Seconds east of UTC, counted in 32-bit words. -/
def seconds (o : Offset) : Int :=
  let magnitude : Int := 3600 * o.hours + 60 * o.minutes
  Int.bmod (if o.negative then -magnitude else magnitude) 4294967296

/-- Whether the offset is less than a day. -/
def isFixed (o : Offset) : Bool := -86400 < o.seconds && o.seconds < 86400

/-- The written form; a zero offset is written without its minus sign. -/
def text (o : Offset) : String :=
  (if o.negative && (o.hours != 0 || o.minutes != 0) then "-" else "+")
    ++ padded 2 o.hours ++ ":" ++ padded 2 o.minutes

end Offset

end Criteria

/-
Durations: seven optional counts, from years down to seconds.

* `Duration.totalMonths?`, `Duration.totalSeconds?`: the calendar part in
  months and the exact part in seconds, as far as 64-bit words hold them;
* `Duration.shift?`: an instant moved by a duration, months first, as far as the
  words for the two spans hold them;
* `Duration.text`: the written form, `P` for the empty duration.
-/
import Criteria.Temporal.Instant

namespace Criteria

/-- An integer, when a 64-bit signed word holds it. -/
def word? (n : Int) : Option Int :=
  if -9223372036854775808 ≤ n ∧ n < 9223372036854775808 then some n else none

/-- A signed duration; each count may be absent. -/
structure Duration where
  years : Option Int64
  months : Option Int64
  weeks : Option Int64
  days : Option Int64
  hours : Option Int64
  minutes : Option Int64
  seconds : Option Int64
  deriving DecidableEq, Repr

namespace Duration

/-- The duration without any count. -/
def empty : Duration := ⟨none, none, none, none, none, none, none⟩

/-- Whether no count is given. -/
def isEmpty (d : Duration) : Bool := d = empty

/-- The value of a count, zero when it is absent. -/
def count (c : Option Int64) : Int := (c.map Int64.toInt).getD 0

/-- The calendar part in months, when twelve times the years and the sum with
the months fit in 64-bit words. -/
def totalMonths? (d : Duration) : Option Int := do
  let months ← word? (count d.years * 12)
  word? (months + count d.months)

/-- The counts of the exact part with the seconds that each stands for. -/
def exactParts (d : Duration) : List (Option Int64 × Int) :=
  [(d.weeks, 604800), (d.days, 86400), (d.hours, 3600), (d.minutes, 60), (d.seconds, 1)]

/-- The exact part in seconds, when every product and every partial sum fits
in a 64-bit word. -/
def totalSeconds? (d : Duration) : Option Int :=
  d.exactParts.foldlM
    (fun sum part => do word? (sum + (← word? (count part.1 * part.2)))) 0

/-- A number of months, when its magnitude fits in an unsigned 32-bit word. -/
def monthSpan? (months : Int) : Option Int :=
  if months.natAbs < 4294967296 then some months else none

/-- A number of seconds, when a signed 64-bit word counts its milliseconds. -/
def secondSpan? (seconds : Int) : Option Int :=
  if seconds.natAbs * 1000 ≤ 9223372036854775807 then some seconds else none

/-- An instant moved by a duration: first by the months, with the day clamped
to the target month, then by the seconds. -/
def shift? (d : Duration) (t : Instant) : Option Instant := do
  let months ← monthSpan? (← d.totalMonths?)
  let moved ← t.addMonths? months
  let seconds ← secondSpan? (← d.totalSeconds?)
  moved.addSeconds? seconds

/-- A count with its letter, nothing when it is absent. -/
def partText (c : Option Int64) (letter : String) : String :=
  match c with
  | none => ""
  | some n => toString n.toInt ++ letter

/-- The written form: the counts that are given, `T` before the clock part. -/
def text (d : Duration) : String :=
  "P" ++ partText d.years "Y" ++ partText d.months "M" ++ partText d.weeks "W"
    ++ partText d.days "D"
    ++ (if d.hours.isSome || d.minutes.isSome || d.seconds.isSome then
          "T" ++ partText d.hours "H" ++ partText d.minutes "M" ++ partText d.seconds "S"
        else "")

end Duration

end Criteria

/-
Duration literals: the letter `P` and counts with the units `Y`, `M`, `W` and
`D`, in this order, then perhaps the letter `T` and counts with the units `H`,
`M` and `S`. Each count is a whole number with an optional sign, and each may
be left out.

* `CountLiteral`: a signed number of any length, with its spelling;
* `DurationLiteral`: what is written, with its spelling and its reading;
* `DurationLiteral.value`: the duration that is meant, when every count fits
  in a 64-bit word.
-/
import Criteria.Temporal.Duration

namespace Criteria

/-- A count of a duration as it is written. -/
structure CountLiteral where
  sign : Option Sign
  digits : List Digit
  nonempty : digits ≠ []
  deriving DecidableEq, Repr

namespace CountLiteral

/-- The spelling of a count. -/
def text (l : CountLiteral) : List Char := Sign.text l.sign ++ l.digits.map Digit.char

/-- Reads a count at the head of a text; the second part is what follows. -/
def read? (cs : List Char) : Option (CountLiteral × List Char) :=
  let (sign, rest) := Sign.split cs
  if nonempty : (Digit.span rest).1 ≠ [] then
    some (⟨sign, (Digit.span rest).1, nonempty⟩, (Digit.span rest).2)
  else none

/-- The number that a count means. -/
def number (l : CountLiteral) : Int := Sign.apply l.sign (Digit.value l.digits)

/-- The count as a word, when it fits in one. -/
def value (component : Component) (l : CountLiteral) : Except TemporalError Int64 :=
  match word? l.number with
  | some n => .ok (Int64.ofInt n)
  | none => .error (.invalid component (String.ofList l.text) .wordSize)

/-- The spelling of a count with its unit, nothing when it is left out. -/
def unitText (l : Option CountLiteral) (unit : Char) : List Char :=
  match l with
  | none => []
  | some l => l.text ++ [unit]

/-- Takes a count with the given unit off the head of a text, if there is one. -/
def take (unit : Char) (cs : List Char) : Option CountLiteral × List Char :=
  match read? cs with
  | some (l, c :: rest) => if c = unit then (some l, rest) else (none, cs)
  | _ => (none, cs)

/-- The value of a count that may be left out. -/
def value? (component : Component) (l : Option CountLiteral) :
    Except TemporalError (Option Int64) :=
  match l with
  | none => .ok none
  | some l => (l.value component).map some

end CountLiteral

/-- The clock part of a duration as it is written. -/
structure ClockLiteral where
  hours : Option CountLiteral
  minutes : Option CountLiteral
  seconds : Option CountLiteral
  deriving DecidableEq, Repr

namespace ClockLiteral

/-- The spelling of the clock part. -/
def text (l : ClockLiteral) : List Char :=
  CountLiteral.unitText l.hours 'H' ++ CountLiteral.unitText l.minutes 'M'
    ++ CountLiteral.unitText l.seconds 'S'

/-- Reads a whole text as a clock part. -/
def read? (cs : List Char) : Option ClockLiteral :=
  let (hours, cs) := CountLiteral.take 'H' cs
  let (minutes, cs) := CountLiteral.take 'M' cs
  let (seconds, cs) := CountLiteral.take 'S' cs
  if cs = [] then some ⟨hours, minutes, seconds⟩ else none

end ClockLiteral

/-- A duration as it is written; the clock part is present when the letter `T`
is, even if no count follows it. -/
structure DurationLiteral where
  years : Option CountLiteral
  months : Option CountLiteral
  weeks : Option CountLiteral
  days : Option CountLiteral
  clock : Option ClockLiteral
  deriving DecidableEq, Repr

namespace DurationLiteral

/-- The spelling of the calendar part. -/
def dateText (l : DurationLiteral) : List Char :=
  CountLiteral.unitText l.years 'Y' ++ CountLiteral.unitText l.months 'M'
    ++ CountLiteral.unitText l.weeks 'W' ++ CountLiteral.unitText l.days 'D'

/-- The spelling of a duration literal. -/
def text (l : DurationLiteral) : List Char :=
  'P' :: l.dateText ++ (match l.clock with
    | none => []
    | some c => 'T' :: c.text)

/-- Reads a whole text as a calendar part and adds it to a clock part. -/
def readDate? (clock : Option ClockLiteral) (cs : List Char) : Option DurationLiteral :=
  let (years, cs) := CountLiteral.take 'Y' cs
  let (months, cs) := CountLiteral.take 'M' cs
  let (weeks, cs) := CountLiteral.take 'W' cs
  let (days, cs) := CountLiteral.take 'D' cs
  if cs = [] then some ⟨years, months, weeks, days, clock⟩ else none

/-- Reads a whole text as a duration literal. No count holds the letter `T`,
so the text is cut at the first one. -/
def read? : List Char → Option DurationLiteral
  | 'P' :: cs =>
    match cs.dropWhile (· ≠ 'T') with
    | [] => readDate? none cs
    | _ :: rest =>
      match ClockLiteral.read? rest with
      | some clock => readDate? (some clock) (cs.takeWhile (· ≠ 'T'))
      | none => none
  | _ => none

/-- The duration that a literal means; of several counts that do not fit in a
word, the first is reported. -/
def value (l : DurationLiteral) : Except TemporalError Duration := do
  let years ← CountLiteral.value? .years l.years
  let months ← CountLiteral.value? .months l.months
  let weeks ← CountLiteral.value? .weeks l.weeks
  let days ← CountLiteral.value? .days l.days
  let hours ← CountLiteral.value? .hours (l.clock.bind ClockLiteral.hours)
  let minutes ← CountLiteral.value? .minutes (l.clock.bind ClockLiteral.minutes)
  let seconds ← CountLiteral.value? .seconds (l.clock.bind ClockLiteral.seconds)
  .ok ⟨years, months, weeks, days, hours, minutes, seconds⟩

end DurationLiteral

/-- The duration that a text means as a duration literal. -/
def Duration.parse (input : String) : Except TemporalError Duration :=
  match DurationLiteral.read? input.toList with
  | none => .error (.malformed .duration input)
  | some l => l.value

end Criteria

/-
Date literals: a year of four digits with an optional sign, alone or followed
by a month, a month and a day, a week, or a week and a weekday. A month or a
day always has its dash; the dashes around a week may be left out.

* `DateLiteral`: what is written, with `DateLiteral.text` its spelling and
  `DateLiteral.read?` the reading of a spelling;
* `DateLiteral.value`: the day that is meant, the parts left out being the
  first of their period;
* `WrittenDate.parse`: both in one step.
-/
import Criteria.Temporal.DateTime

namespace Criteria

/-- What may follow the year of a date literal. -/
inductive DateTail where
  | year
  | month (month : TwoDigits)
  | day (month day : TwoDigits)
  | week (dash : Bool) (week : TwoDigits)
  | weekday (dash : Bool) (week : TwoDigits) (innerDash : Bool) (weekday : Digit)
  deriving DecidableEq, Repr

/-- A dash that may be left out. -/
def dashText (dash : Bool) : List Char := if dash then ['-'] else []

namespace DateTail

/-- The spelling of what follows the year. -/
def text : DateTail → List Char
  | year => []
  | month m => '-' :: m.text
  | day m d => '-' :: m.text ++ '-' :: d.text
  | week dash w => dashText dash ++ 'W' :: w.text
  | weekday dash w innerDash d =>
    dashText dash ++ 'W' :: w.text ++ dashText innerDash ++ [d.char]

/-- Whether a single day is written. -/
def isComplete : DateTail → Bool
  | day _ _ | weekday _ _ _ _ => true
  | _ => false

/-- Reads a week, and perhaps a weekday, after the letter `W`. -/
def readWeek? (dash : Bool) : List Char → Option DateTail
  | [a, b] => (TwoDigits.read? a b).map (week dash)
  | [a, b, c] =>
    match TwoDigits.read? a b, Digit.ofChar? c with
    | some w, some d => some (weekday dash w false d)
    | _, _ => none
  | [a, b, '-', c] =>
    match TwoDigits.read? a b, Digit.ofChar? c with
    | some w, some d => some (weekday dash w true d)
    | _, _ => none
  | _ => none

/-- Reads what follows the year. -/
def read? : List Char → Option DateTail
  | [] => some year
  | 'W' :: cs => readWeek? false cs
  | '-' :: 'W' :: cs => readWeek? true cs
  | ['-', a, b] => (TwoDigits.read? a b).map month
  | ['-', a, b, '-', c, d] =>
    match TwoDigits.read? a b, TwoDigits.read? c d with
    | some m, some d => some (day m d)
    | _, _ => none
  | _ => none

end DateTail

/-- A date as it is written. -/
structure DateLiteral where
  sign : Option Sign
  year : FourDigits
  tail : DateTail
  deriving DecidableEq, Repr

namespace DateLiteral

/-- The spelling of a date literal. -/
def text (l : DateLiteral) : List Char := Sign.text l.sign ++ l.year.text ++ l.tail.text

/-- Reads a whole text as a date literal. -/
def read? (cs : List Char) : Option DateLiteral :=
  let (sign, rest) := Sign.split cs
  match rest with
  | a :: b :: c :: d :: rest =>
    match FourDigits.read? a b c d, DateTail.read? rest with
    | some year, some tail => some ⟨sign, year, tail⟩
    | _, _ => none
  | _ => none

/-- The year that is written. -/
def yearValue (l : DateLiteral) : Int := Sign.apply l.sign l.year.value

/-- The day that a date literal means, with the precision of what is written. -/
def value (l : DateLiteral) : Except TemporalError WrittenDate :=
  match l.tail with
  | .year => (Date.ofParts l.yearValue 1 1).map (WrittenDate.mk · .year)
  | .month m => (Date.ofParts l.yearValue m.value 1).map (WrittenDate.mk · .month)
  | .day m d => (Date.ofParts l.yearValue m.value d.value).map (WrittenDate.mk · .day)
  | .week _ w => (Date.ofWeek l.yearValue w.value 1).map (WrittenDate.mk · .week)
  | .weekday _ w _ d =>
    (Date.ofWeek l.yearValue w.value d.val).map (WrittenDate.mk · .weekday)

end DateLiteral

/-- The day that a text means as a date literal. -/
def WrittenDate.parse (input : String) : Except TemporalError WrittenDate :=
  match DateLiteral.read? input.toList with
  | none => .error (.malformed .date input)
  | some l => l.value

end Criteria

/-
Time literals: hours, then minutes, seconds and up to six digits of a
fraction, each of which may be left out together with what follows it.

* `TimeLiteral`: what is written, with its spelling and its reading;
* `TimeLiteral.value`: the time that is meant; a fraction counts from its
  first digit, so zeros at its end change nothing;
* `TimeOfDay.parse`: both in one step.
-/
import Criteria.Temporal.Clock

namespace Criteria

/-- A time as it is written. -/
inductive TimeLiteral where
  | hour (hour : TwoDigits)
  | minute (hour minute : TwoDigits)
  | second (hour minute second : TwoDigits)
  | fraction (hour minute second : TwoDigits) (digits : List Digit)
      (size : 1 ≤ digits.length ∧ digits.length ≤ 6)
  deriving DecidableEq, Repr

namespace TimeLiteral

/-- The spelling of a time literal. -/
def text : TimeLiteral → List Char
  | hour h => h.text
  | minute h m => h.text ++ ':' :: m.text
  | second h m s => h.text ++ ':' :: m.text ++ ':' :: s.text
  | fraction h m s digits _ =>
    h.text ++ ':' :: m.text ++ ':' :: s.text ++ '.' :: digits.map Digit.char

/-- Adds a fraction to a time literal, when it has one to six digits. -/
def readFraction? (h m s : TwoDigits) (cs : List Char) : Option TimeLiteral :=
  match Digit.ofChars? cs with
  | some digits =>
    if size : 1 ≤ digits.length ∧ digits.length ≤ 6 then some (fraction h m s digits size)
    else none
  | none => none

/-- Reads a whole text as a time literal. -/
def read? : List Char → Option TimeLiteral
  | [a, b] => (TwoDigits.read? a b).map hour
  | [a, b, ':', c, d] =>
    match TwoDigits.read? a b, TwoDigits.read? c d with
    | some h, some m => some (minute h m)
    | _, _ => none
  | [a, b, ':', c, d, ':', e, f] =>
    match TwoDigits.read? a b, TwoDigits.read? c d, TwoDigits.read? e f with
    | some h, some m, some s => some (second h m s)
    | _, _, _ => none
  | a :: b :: ':' :: c :: d :: ':' :: e :: f :: '.' :: cs =>
    match TwoDigits.read? a b, TwoDigits.read? c d, TwoDigits.read? e f with
    | some h, some m, some s => readFraction? h m s cs
    | _, _, _ => none
  | _ => none

/-- The microseconds that the digits of a fraction mean. -/
def micros (digits : List Digit) : Nat := Digit.value (digits.rightpad 6 Digit.zero)

/-- The time that a literal means. -/
def value : TimeLiteral → Except TemporalError TimeOfDay
  | hour h => TimeOfDay.ofParts h.value 0 0 0
  | minute h m => TimeOfDay.ofParts h.value m.value 0 0
  | second h m s => TimeOfDay.ofParts h.value m.value s.value 0
  | fraction h m s digits _ => TimeOfDay.ofParts h.value m.value s.value (micros digits)

end TimeLiteral

/-- The time that a text means as a time literal. -/
def TimeOfDay.parse (input : String) : Except TemporalError TimeOfDay :=
  match TimeLiteral.read? input.toList with
  | none => .error (.malformed .time input)
  | some l => l.value

end Criteria

/-
Offset literals, which may follow the time of a datetime: the letter `Z` for
no offset, or a sign with hours and perhaps minutes. The minus sign may be a
hyphen or the typographic minus.
-/
import Criteria.Temporal.Clock

namespace Criteria

/-- The sign of an offset literal. -/
inductive OffsetSign where
  | plus
  | hyphen
  | minus
  deriving DecidableEq, Repr

namespace OffsetSign

/-- The character that writes the sign. -/
def char : OffsetSign → Char
  | plus => '+'
  | hyphen => '-'
  | minus => '\u2212'

/-- The sign that a character writes. -/
def ofChar? : Char → Option OffsetSign
  | '+' => some plus
  | '-' => some hyphen
  | '\u2212' => some minus
  | _ => none

/-- Whether the sign points west of UTC. -/
def isNegative : OffsetSign → Bool
  | plus => false
  | hyphen | minus => true

end OffsetSign

/-- An offset as it is written. -/
inductive OffsetLiteral where
  | utc (lowercase : Bool)
  | hours (sign : OffsetSign) (hours : TwoDigits)
  | minutes (sign : OffsetSign) (hours : TwoDigits) (colon : Bool) (minutes : TwoDigits)
  deriving DecidableEq, Repr

namespace OffsetLiteral

/-- The spelling of an offset literal. -/
def text : OffsetLiteral → List Char
  | utc lowercase => [if lowercase then 'z' else 'Z']
  | hours sign h => sign.char :: h.text
  | minutes sign h colon m => sign.char :: h.text ++ (if colon then [':'] else []) ++ m.text

/-- Whether a character can start an offset literal; none of these characters
occurs in a time literal. -/
def isStart (c : Char) : Bool := c = 'Z' || c = 'z' || (OffsetSign.ofChar? c).isSome

/-- Reads hours, and perhaps minutes, after a sign. -/
def readSigned? (sign : OffsetSign) : List Char → Option OffsetLiteral
  | [a, b] => (TwoDigits.read? a b).map (hours sign)
  | [a, b, c, d] =>
    match TwoDigits.read? a b, TwoDigits.read? c d with
    | some h, some m => some (minutes sign h false m)
    | _, _ => none
  | [a, b, ':', c, d] =>
    match TwoDigits.read? a b, TwoDigits.read? c d with
    | some h, some m => some (minutes sign h true m)
    | _, _ => none
  | _ => none

/-- Reads a whole text as an offset literal. -/
def read? : List Char → Option OffsetLiteral
  | [] => none
  | c :: cs =>
    if c = 'Z' ∧ cs = [] then some (utc false)
    else if c = 'z' ∧ cs = [] then some (utc true)
    else match OffsetSign.ofChar? c with
      | some sign => readSigned? sign cs
      | none => none

/-- The offset that a literal means. -/
def value : OffsetLiteral → Except TemporalError Offset
  | utc _ => .ok .utc
  | hours sign h => Offset.ofParts sign.isNegative h.value 0
  | minutes sign h _ m => Offset.ofParts sign.isNegative h.value m.value

end OffsetLiteral

end Criteria

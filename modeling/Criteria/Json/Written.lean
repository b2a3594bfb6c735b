/-
JSON as it is written: the tree of a text in which numbers, strings and
repeated names keep their written form.

* `Numeral`: a number as its digits;
* `StringUnit`: one unit of a string, a character or half of a surrogate
  pair; `StringUnit.decode?` joins the halves;
* `Written`: the tree of a text.
-/
import Criteria.Text.Digit

namespace Criteria

/-- A number as it is written: an integer part, the digits of a fraction and
an exponent, of which the last two may be absent. -/
structure Numeral where
  negative : Bool
  whole : List Digit
  fraction : List Digit
  exponent : Option (Option Sign × List Digit)
  deriving DecidableEq, Repr

namespace Numeral

/-- The numeral of an integer. -/
def ofInt (n : Int) : Numeral := ⟨decide (n < 0), Digit.ofNat n.natAbs, [], none⟩

/-- The integer that a numeral writes. A fraction or an exponent makes a
numeral that of no integer, and so does a minus sign before zero. -/
def toInt? (n : Numeral) : Option Int :=
  if n.fraction = [] ∧ n.exponent = none then
    if n.negative then
      if Digit.value n.whole = 0 then none else some (-(Digit.value n.whole : Int))
    else some (Digit.value n.whole)
  else none

end Numeral

/-- One unit of a string as it is written: a character, or an escaped half of
a surrogate pair. -/
inductive StringUnit where
  | char (c : Char)
  | half (unit : Nat)
  deriving DecidableEq, Repr

namespace StringUnit

/-- Whether a number is the first half of a surrogate pair. -/
def isHigh (n : Nat) : Bool := 0xD800 ≤ n && n ≤ 0xDBFF

/-- Whether a number is the second half of a surrogate pair. -/
def isLow (n : Nat) : Bool := 0xDC00 ≤ n && n ≤ 0xDFFF

/-- The character of a surrogate pair. -/
def join (high low : Nat) : Char :=
  Char.ofNat (0x10000 + (high - 0xD800) * 0x400 + (low - 0xDC00))

/-- The characters of a string, when each half of a surrogate pair stands by
its other half. -/
def decode? : List StringUnit → Option (List Char)
  | [] => some []
  | char c :: rest => (decode? rest).map (c :: ·)
  | half high :: half low :: rest =>
    if isHigh high && isLow low then (decode? rest).map (join high low :: ·) else none
  | half _ :: _ => none

/-- The units of a text. -/
def encode (s : String) : List StringUnit := s.toList.map char

end StringUnit

/-- A JSON text as a tree. -/
inductive Written where
  | null
  | bool (b : Bool)
  | number (n : Numeral)
  | string (units : List StringUnit)
  | array (items : List Written)
  | object (members : List (List StringUnit × Written))

namespace Written

/-- The written form of a text. -/
def ofString (s : String) : Written := .string (StringUnit.encode s)

/-- The written form of an integer. -/
def ofInt (n : Int) : Written := .number (Numeral.ofInt n)

/-- The text of a string whose surrogate halves are paired. -/
def text? : Written → Option String
  | .string units => (StringUnit.decode? units).map String.ofList
  | _ => none

end Written

end Criteria

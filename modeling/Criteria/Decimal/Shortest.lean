/-
The decimal text of a binary floating-point number: the fewest digits that
read back as the number, written positionally.

* `Binary`: a finite positive number of 64 bits, with the interval of the
  reals that round to it (`Binary.holds`);
* `Binary.onGrid?`: the point of a decimal grid in that interval, the nearer
  one of two and the upper one of two equally near;
* `Binary.shortest`: the point found on the coarsest grid that has one;
* `floatText`: the text of a number.
-/

namespace Criteria

/-- A decimal number: digits times a power of ten. -/
structure Decimal where
  digits : Nat
  exponent : Int
  deriving DecidableEq, Repr

namespace Decimal

/-- The value of a decimal number. -/
def value (d : Decimal) : Rat := (d.digits : Rat) * (10 : Rat) ^ d.exponent

/-- The positional text of a decimal number, with a point only when a fraction
follows it. -/
def text (d : Decimal) : List Char :=
  let digits := Nat.toDigits 10 d.digits
  if 0 ≤ d.exponent then digits ++ List.replicate d.exponent.toNat '0'
  else
    let places := (-d.exponent).toNat
    let padded := List.leftpad (places + 1) '0' digits
    padded.take (padded.length - places) ++ '.' :: padded.drop (padded.length - places)

end Decimal

/-- A finite positive binary number. -/
structure Binary where
  mantissa : Nat
  exponent : Int
  /-- Whether the number below is half as far away as the number above. -/
  narrowBelow : Bool
  deriving DecidableEq, Repr

namespace Binary

/-- The place of the bit before the fraction, which is not stored: two to the
power of 52. -/
def leadingBit : Nat := 4503599627370496

/-- The magnitude that the bits of a finite number stand for: a fraction of 52
bits under an exponent of 11. The smallest exponent has no leading bit. -/
def ofBits (bits : UInt64) : Binary :=
  let field := (bits.toBitVec.extractLsb' 52 11).toNat
  let fraction := (bits.toBitVec.extractLsb' 0 52).toNat
  if field = 0 then ⟨fraction, -1074, false⟩
  else ⟨leadingBit + fraction, (field : Int) - 1075, fraction = 0 && 1 < field⟩

/-- The value of a binary number. -/
def value (x : Binary) : Rat := (x.mantissa : Rat) * (2 : Rat) ^ x.exponent

/-- The point halfway to the number below. -/
def low (x : Binary) : Rat :=
  x.value - (2 : Rat) ^ x.exponent / (if x.narrowBelow then 4 else 2)

/-- The point halfway to the number above. -/
def high (x : Binary) : Rat := x.value + (2 : Rat) ^ x.exponent / 2

/-- Whether a real rounds to the number: it lies between the halfway points,
which belong to the number when its mantissa is even. -/
def holds (x : Binary) (r : Rat) : Bool :=
  if x.mantissa % 2 = 0 then x.low ≤ r && r ≤ x.high else x.low < r && r < x.high

/-- The multiple of `10 ^ k` next to a number that rounds to it, if there is
one. -/
def onGrid? (x : Binary) (k : Int) : Option Decimal :=
  let digits := (x.value / (10 : Rat) ^ k).floor.toNat
  let below : Decimal := ⟨digits, k⟩
  let above : Decimal := ⟨digits + 1, k⟩
  if x.holds below.value then
    if x.holds above.value && decide (above.value - x.value ≤ x.value - below.value) then
      some above
    else some below
  else if x.holds above.value then some above
  else none

/-- The first point found on `count` grids, from the exponent `k` down. -/
def search (x : Binary) : Nat → Int → Option Decimal
  | 0, _ => none
  | count + 1, k =>
    match x.onGrid? k with
    | some d => some d
    | none => x.search count (k - 1)

/-- The shortest decimal that reads back as a number. The search starts above
the number and reaches below the smallest one. -/
def shortest (x : Binary) : Decimal :=
  let top := (Nat.toDigits 10 x.value.floor.toNat).length
  (x.search (top + 350) top).getD ⟨x.value.floor.toNat, 0⟩

end Binary

/-- The decimal text of a floating-point number. -/
def floatText (x : Float) : String :=
  let sign := if x.toBits.toBitVec.msb then ['-'] else []
  let magnitude := Binary.ofBits x.toBits
  if x.isNaN then "NaN"
  else if x.isInf then String.ofList (sign ++ ['i', 'n', 'f'])
  else if magnitude.mantissa = 0 then String.ofList (sign ++ ['0'])
  else String.ofList (sign ++ magnitude.shortest.text)

end Criteria

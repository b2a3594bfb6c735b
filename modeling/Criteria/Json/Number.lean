/-
The values of numbers in JSON.

* `signedWord?`, `unsignedWord?`: the 64-bit words of an integer;
* `Number`: an integer or a floating-point number, with `Number.signed?` and
  `Number.unsigned?` its value as a word;
* `Numeral.toNumber?`: the value of a numeral. A numeral without fraction and
  exponent is an integer when a 64-bit word holds it, signed or unsigned; any
  other is a floating-point number, and has no value when that is too large.

The floating-point value is found from at most 64 bits of the digits and a
power of ten: digits beyond the word only move the exponent, and one rounded
multiplication or division applies the power.
-/
import Criteria.Json.Written

namespace Criteria

/-! ### Words -/

/-- The signed 64-bit word of an integer, when one holds it. -/
def signedWord? (n : Int) : Option Int64 :=
  if -9223372036854775808 ≤ n ∧ n < 9223372036854775808 then some (Int64.ofInt n) else none

/-- The unsigned 64-bit word of an integer, when one holds it. -/
def unsignedWord? (n : Int) : Option UInt64 :=
  if 0 ≤ n ∧ n < 18446744073709551616 then some (UInt64.ofNat n.toNat) else none

/-- The signed word of an integer is the one with its value. -/
theorem signedWord?_eq_some_iff {n : Int} {w : Int64} : signedWord? n = some w ↔ w.toInt = n := by
  have hmin := w.le_toInt
  have hmax := w.toInt_lt
  unfold signedWord?
  split
  · rename_i h
    rw [Option.some.injEq]
    constructor
    · rintro rfl
      exact Int64.toInt_ofInt_of_le (by omega) (by omega)
    · rintro rfl
      exact Int64.ofInt_toInt w
  · simp only [reduceCtorEq, false_iff]
    omega

/-- The unsigned word of an integer is the one with its value. -/
theorem unsignedWord?_eq_some_iff {n : Int} {w : UInt64} :
    unsignedWord? n = some w ↔ (w.toNat : Int) = n := by
  have hmax := w.toNat_lt
  unfold unsignedWord?
  split
  · rename_i h
    rw [Option.some.injEq, ← UInt64.toNat_inj, UInt64.toNat_ofNat_of_lt' (by simp; omega)]
    omega
  · simp only [reduceCtorEq, false_iff]
    omega

/-! ### Numbers -/

/-- A number in a JSON document. -/
inductive Number where
  | int (n : Int)
  | float (x : Float)

namespace Number

/-- Whether an integer fits in a 64-bit word, signed or unsigned. -/
def fitsWord (n : Int) : Bool := -9223372036854775808 ≤ n && n < 18446744073709551616

/-- The number as a signed word; a floating-point number is none. -/
def signed? : Number → Option Int64
  | int n => signedWord? n
  | float _ => none

/-- The number as an unsigned word; a floating-point number is none. -/
def unsigned? : Number → Option UInt64
  | int n => unsignedWord? n
  | float _ => none

/-- The floating-point number next to an integer that fits in a 64-bit word. -/
def floatOfInt (n : Int) : Float :=
  if n < 0 then -(UInt64.ofNat n.natAbs).toFloat else (UInt64.ofNat n.natAbs).toFloat

/-- The number as a floating-point number. -/
def toFloat : Number → Float
  | int n => floatOfInt n
  | float x => x

end Number

/-- The digits of a number as far as a 64-bit word holds them, times a power
of ten. -/
structure Significand where
  word : Nat
  exponent : Int
  deriving DecidableEq, Repr

namespace Significand

/-- The first number that does not fit in the word. -/
def wordEnd : Nat := 18446744073709551616

/-- Adds the digits of an integer part: once a digit does not fit in the word,
it and those after it count only by their number. -/
def addWhole (s : Significand) : List Digit → Significand
  | [] => s
  | d :: ds =>
    if 10 * s.word + d.val < wordEnd then addWhole ⟨10 * s.word + d.val, s.exponent⟩ ds
    else ⟨s.word, s.exponent + (ds.length + 1)⟩

/-- Adds the digits of a fraction: once a digit does not fit in the word, it
and those after it are dropped. -/
def addFraction (s : Significand) : List Digit → Significand
  | [] => s
  | d :: ds =>
    if 10 * s.word + d.val < wordEnd then
      addFraction ⟨10 * s.word + d.val, s.exponent - 1⟩ ds
    else s

/-- The significand of a numeral, its exponent applied. -/
def ofNumeral (n : Numeral) : Significand :=
  let s := (addWhole ⟨0, 0⟩ n.whole).addFraction n.fraction
  match n.exponent with
  | none => s
  | some (sign, digits) => ⟨s.word, s.exponent + Sign.apply sign (Digit.value digits)⟩

/-- A power of ten as a floating-point number. -/
def power (k : Nat) : Float := Float.ofScientific 1 false k

/-- A floating-point number divided by a power of ten, in steps of at most
`10 ^ 308`, until nothing is left of it. -/
def divide : Nat → Float → Nat → Float
  | 0, x, _ => x
  | bound + 1, x, k =>
    if k ≤ 308 then x / power k
    else if x == 0 then x
    else divide bound (x / power 308) (k - 308)

/-- The magnitude that a significand stands for, none when it is too large. -/
def toFloat? (s : Significand) : Option Float :=
  let x := (UInt64.ofNat s.word).toFloat
  if 0 ≤ s.exponent then
    if s.word = 0 then some x
    else if s.exponent ≤ 308 then
      let y := x * power s.exponent.toNat
      if y.isInf then none else some y
    else none
  else some (divide s.exponent.natAbs x s.exponent.natAbs)

end Significand

namespace Numeral

/-- The value of a numeral. -/
def toNumber? (n : Numeral) : Option Number :=
  match n.toInt? with
  | some i =>
    if Number.fitsWord i then some (.int i) else float?
  | none => float?
where
  /-- The value of a numeral as a floating-point number. -/
  float? : Option Number :=
    (Significand.ofNumeral n).toFloat?.map fun x => .float (if n.negative then -x else x)

end Numeral

end Criteria

/-
Decimal digits and the fixed groups of digits that literals are built from.

* `Digit`: a decimal digit, with `Digit.char` the ASCII character that writes
  it and `Digit.ofChar?` the reading back; `Digit.ofChar?_eq_some_iff` says
  that each digit is written by exactly one character;
* `Digit.value`: the number that a list of digits writes, most significant
  digit first, and back with `Digit.ofNat`;
* `Digit.span`: the digits at the head of a text;
* `TwoDigits`, `FourDigits`: groups of a fixed width, leading zeros included;
* `Sign`: the sign that may stand before a number.
-/

namespace Criteria

/-- A decimal digit. -/
abbrev Digit := Fin 10

namespace Digit

/-- The digit zero. -/
def zero : Digit := ⟨0, by decide⟩

/-- The ASCII character that writes a digit. -/
def char (d : Digit) : Char := Nat.digitChar d.val

/-- The digit that a character writes; only the ten ASCII digits write one. -/
def ofChar? (c : Char) : Option Digit :=
  if h : 48 ≤ c.toNat ∧ c.toNat ≤ 57 then some ⟨c.toNat - 48, by omega⟩ else none

/-- A digit is read back from the character that writes it. -/
@[simp] theorem ofChar?_char (d : Digit) : ofChar? d.char = some d := by
  revert d; decide

/-- Each digit is written by exactly one character. -/
theorem ofChar?_eq_some_iff {c : Char} {d : Digit} : ofChar? c = some d ↔ c = d.char := by
  constructor
  · intro h
    unfold ofChar? at h
    split at h
    · rename_i hc
      obtain rfl := Option.some.inj h
      have key : ∀ n : Fin 10, (Nat.digitChar n.val).toNat = n.val + 48 := by decide
      apply Char.toNat_inj.mp
      rw [char, key ⟨c.toNat - 48, by omega⟩]
      simp only
      omega
    · exact absurd h (by simp)
  · rintro rfl
    exact ofChar?_char d

/-- The number written by a list of digits, most significant digit first. -/
def value (ds : List Digit) : Nat := ds.foldl (fun n d => 10 * n + d.val) 0

/-- The digits written by a list of characters, when every one is a digit. -/
def ofChars? (cs : List Char) : Option (List Digit) := cs.mapM ofChar?

/-- The digits at the head of a text and what follows them. -/
def span : List Char → List Digit × List Char
  | [] => ([], [])
  | c :: cs =>
    match ofChar? c with
    | none => ([], c :: cs)
    | some d => (d :: (span cs).1, (span cs).2)

/-- The digits of a number, most significant first, without leading zeros. -/
def ofNat (n : Nat) : List Digit := (Nat.toDigits 10 n).filterMap ofChar?

end Digit

/-- Two digits, as in the month `07`. -/
structure TwoDigits where
  tens : Digit
  ones : Digit
  deriving DecidableEq, Repr

namespace TwoDigits

/-- The number that two digits write. -/
def value (t : TwoDigits) : Nat := 10 * t.tens.val + t.ones.val

/-- The two characters that write two digits. -/
def text (t : TwoDigits) : List Char := [t.tens.char, t.ones.char]

/-- The two digits that two characters write. -/
def read? (a b : Char) : Option TwoDigits :=
  match Digit.ofChar? a, Digit.ofChar? b with
  | some tens, some ones => some ⟨tens, ones⟩
  | _, _ => none

end TwoDigits

/-- Four digits, as in the year `0044`. -/
structure FourDigits where
  high : TwoDigits
  low : TwoDigits
  deriving DecidableEq, Repr

namespace FourDigits

/-- The number that four digits write. -/
def value (f : FourDigits) : Nat := 100 * f.high.value + f.low.value

/-- The four characters that write four digits. -/
def text (f : FourDigits) : List Char := f.high.text ++ f.low.text

/-- The four digits that four characters write. -/
def read? (a b c d : Char) : Option FourDigits :=
  match TwoDigits.read? a b, TwoDigits.read? c d with
  | some high, some low => some ⟨high, low⟩
  | _, _ => none

end FourDigits

/-- The sign that may stand before a number. -/
inductive Sign where
  | plus
  | minus
  deriving DecidableEq, Repr

namespace Sign

/-- The character that writes a sign. -/
def char : Sign → Char
  | .plus => '+'
  | .minus => '-'

/-- The text of a sign that may be absent. -/
def text : Option Sign → List Char
  | none => []
  | some s => [s.char]

/-- The sign at the head of a text, if any, and what follows it. -/
def split : List Char → Option Sign × List Char
  | '+' :: cs => (some .plus, cs)
  | '-' :: cs => (some .minus, cs)
  | cs => (none, cs)

/-- The number with a magnitude and a sign; no sign means positive. -/
def apply (s : Option Sign) (n : Nat) : Int :=
  if s = some .minus then -(n : Int) else n

end Sign

/-- A natural number in decimal, filled up with zeros on the left to a least
width. -/
def padded (width n : Nat) : String :=
  String.ofList (List.leftpad width '0' (Nat.toDigits 10 n))

/-- An integer in decimal, filled up with zeros to a least width; the minus
sign counts as one place of the width. -/
def paddedInt (width : Nat) (n : Int) : String :=
  if n < 0 then "-" ++ padded (width - 1) n.natAbs else padded width n.natAbs

end Criteria

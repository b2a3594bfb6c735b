/-
Groups of digits of a fixed width, and the signs before them.

* `Digit.ofChars?_eq_some_iff`: digits are read from the characters that write
  them and from no others; `TwoDigits.read?_eq_some_iff` and
  `FourDigits.read?_eq_some_iff` say so of groups of two and four;
* `Digit.span_map_char`, `Digit.map_char_append_span`: digits are cut off the head
  of a text that they were put before;
* `Digit.exists_padded`: the digits of a number that is filled up with zeros to
  a width, with `TwoDigits.exists_padded` and `FourDigits.exists_padded` for
  groups;
* `Sign.split_append`, `Sign.text_append_split`: a sign is cut off the head of a
  text that it was put before;
* `Sign.toList_toString_int`: the decimal text of an integer is its sign with its
  digits.
-/
import Criteria.Proofs.Text.Digit
import Mathlib.Algebra.Group.Nat.Defs

namespace Criteria

namespace Digit

/-- A character that writes no digit is not that of a digit. -/
lemma char_ne {c : Char} (h : ofChar? c = none) (d : Digit) : d.char ≠ c := by
  rintro rfl
  simp at h

/-- Digits are read from the characters that write them and from no others. -/
theorem ofChars?_eq_some_iff {cs : List Char} {ds : List Digit} :
    ofChars? cs = some ds ↔ cs = ds.map char := by
  induction cs generalizing ds with
  | nil => cases ds <;> simp [ofChars?]
  | cons c cs ih =>
      rw [ofChars?, List.mapM_cons]
      cases ds with
      | nil => simp [Option.bind_eq_some_iff]
      | cons d ds =>
          rw [ofChars?] at ih
          simp [Option.bind_eq_some_iff, ih, ofChar?_eq_some_iff]

lemma toDigits_eq (n : Nat) : Nat.toDigits 10 n = (ofNat n).map char :=
  ofChars?_eq_some_iff.mp (ofChars?_toDigits n)

/-- Digits are cut off a text that they were put before, when the text itself
does not start with one. -/
lemma span_map_char {ds : List Digit} {cs : List Char}
    (h : ∀ c, cs.head? = some c → ofChar? c = none) : span (ds.map char ++ cs) = (ds, cs) := by
  induction ds with
  | nil =>
      cases cs with
      | nil => rfl
      | cons c cs => simp [span, h c rfl]
  | cons d ds ih => simp [span, ih]

/-- The digits that are cut off a text and what follows them make up the text. -/
lemma map_char_append_span (cs : List Char) : (span cs).1.map char ++ (span cs).2 = cs := by
  induction cs with
  | nil => rfl
  | cons c cs ih =>
      rw [span]
      split
      · rfl
      · rename_i d hd
        simp [ih, ofChar?_eq_some_iff.mp hd]

/-! ### Numbers filled up with zeros -/

/-- Zeros in front do not change a number. -/
lemma value_leftpad_zero (width : Nat) (ds : List Digit) :
    value (List.leftpad width zero ds) = value ds := by
  rw [List.leftpad, value, List.foldl_append, value]
  induction width - ds.length with
  | zero => rfl
  | succ k ih => simpa [List.replicate_succ, zero] using ih

/-- A number below a power of ten has at most as many digits as the exponent. -/
lemma length_ofNat_le {n width : Nat} (hwidth : 1 ≤ width) (h : n < 10 ^ width) :
    (ofNat n).length ≤ width := by
  induction hwidth generalizing n with
  | refl => simp [ofNat_of_lt h]
  | @step width _ ih =>
      by_cases hlt : n < 10
      · rw [ofNat_of_lt hlt, List.length_singleton]
        omega
      · have hquotient : n / 10 < 10 ^ width := by
          rw [Nat.pow_succ] at h
          omega
        have hlength := ih hquotient
        rw [ofNat_of_le (by omega), List.length_append, List.length_singleton]
        omega

/-- A number that is filled up to a width which it fits in is written by as many
digits. -/
theorem exists_padded {n w : Nat} (hw : 1 ≤ w) (h : n < 10 ^ w) :
    ∃ ds : List Digit, (padded w n).toList = ds.map char ∧ ds.length = w ∧ value ds = n := by
  refine ⟨List.leftpad w zero (ofNat n), ?_, ?_, ?_⟩
  · rw [padded, String.toList_ofList, toDigits_eq, List.leftpad, List.leftpad, List.map_append,
      List.map_replicate, List.length_map]
    rfl
  · have hlength := length_ofNat_le hw h
    rw [List.length_leftpad]
    omega
  · rw [value_leftpad_zero, value_ofNat]

end Digit

/-! ### Groups of two and four -/

namespace TwoDigits

@[simp] lemma read?_char (t : TwoDigits) : read? t.tens.char t.ones.char = some t := by
  simp [read?]

/-- Two digits are read from their own characters and from no others. -/
lemma read?_eq_some_iff {a b : Char} {t : TwoDigits} : read? a b = some t ↔ [a, b] = t.text := by
  constructor
  · intro h
    rw [read?] at h
    split at h
    · rename_i tens ones htens hones
      obtain rfl := Option.some.inj h
      rw [text, Digit.ofChar?_eq_some_iff.mp htens, Digit.ofChar?_eq_some_iff.mp hones]
    · exact absurd h (by simp)
  · intro h
    obtain ⟨rfl, rfl⟩ : a = t.tens.char ∧ b = t.ones.char := by simpa [text] using h
    exact read?_char t

lemma exists_padded {n : Nat} (h : n < 100) :
    ∃ t : TwoDigits, (padded 2 n).toList = t.text ∧ t.value = n := by
  obtain ⟨ds, htext, hlength, hvalue⟩ := Digit.exists_padded (w := 2) (by decide) h
  match ds, hlength with
  | [a, b], _ => exact ⟨⟨a, b⟩, htext, by simpa [Digit.value, value] using hvalue⟩

end TwoDigits

namespace FourDigits

@[simp] lemma read?_char (f : FourDigits) :
    read? f.high.tens.char f.high.ones.char f.low.tens.char f.low.ones.char = some f := by
  simp [read?]

/-- Four digits are read from their own characters and from no others. -/
lemma read?_eq_some_iff {a b c d : Char} {f : FourDigits} :
    read? a b c d = some f ↔ [a, b, c, d] = f.text := by
  constructor
  · intro h
    rw [read?] at h
    split at h
    · rename_i high low hhigh hlow
      obtain rfl := Option.some.inj h
      rw [text, ← TwoDigits.read?_eq_some_iff.mp hhigh, ← TwoDigits.read?_eq_some_iff.mp hlow]
      rfl
    · exact absurd h (by simp)
  · intro h
    obtain ⟨rfl, rfl, rfl, rfl⟩ : a = f.high.tens.char ∧ b = f.high.ones.char ∧
        c = f.low.tens.char ∧ d = f.low.ones.char := by
      simpa [text, TwoDigits.text] using h
    exact read?_char f

lemma value_lt (f : FourDigits) : f.value < 10000 := by
  rw [value, TwoDigits.value, TwoDigits.value]
  omega

lemma exists_padded {n : Nat} (h : n < 10000) :
    ∃ f : FourDigits, (padded 4 n).toList = f.text ∧ f.value = n := by
  obtain ⟨ds, htext, hlength, hvalue⟩ := Digit.exists_padded (w := 4) (by decide) h
  match ds, hlength with
  | [a, b, c, d], _ =>
      refine ⟨⟨⟨a, b⟩, ⟨c, d⟩⟩, htext, ?_⟩
      simp only [Digit.value, List.foldl_cons, List.foldl_nil] at hvalue
      simp only [value, TwoDigits.value]
      omega

end FourDigits

/-! ### Signs -/

namespace Sign

/-- A sign is cut off a text that it was put before, when the text itself has
none. -/
lemma split_append {s : Option Sign} {cs : List Char}
    (h : ∀ c, cs.head? = some c → c ≠ '+' ∧ c ≠ '-') : split (text s ++ cs) = (s, cs) := by
  cases s with
  | some s => cases s <;> rfl
  | none =>
      cases cs with
      | nil => rfl
      | cons c cs =>
          obtain ⟨hplus, hminus⟩ := h c rfl
          simp [text, split, hplus, hminus]

/-- The sign that is cut off a text and what follows it make up the text. -/
lemma text_append_split (cs : List Char) : text (split cs).1 ++ (split cs).2 = cs := by
  unfold split
  split <;> rfl

/-- The sign of an integer as it is written. -/
def ofInt (n : Int) : Option Sign := if n < 0 then some .minus else none

/-- The sign of an integer and the digits of its magnitude write that integer. -/
lemma apply_ofInt (n : Int) : apply (ofInt n) n.natAbs = n := by
  by_cases h : n < 0
  · rw [ofInt, if_pos h, apply, if_pos rfl]
    omega
  · rw [ofInt, if_neg h, apply, if_neg (by simp)]
    omega

/-- The decimal text of an integer is its sign with the digits of its magnitude. -/
lemma toList_toString_int (n : Int) :
    (toString n).toList = text (ofInt n) ++ (Digit.ofNat n.natAbs).map Digit.char := by
  rw [← Digit.toDigits_eq]
  cases n with
  | ofNat m =>
      rw [show toString (Int.ofNat m) = toString m from rfl, Nat.toString_eq_ofList_toDigits,
        String.toList_ofList]
      rfl
  | negSucc m =>
      rw [show toString (Int.negSucc m) = "-" ++ toString (m + 1) from rfl,
        String.toList_append, Nat.toString_eq_ofList_toDigits, String.toList_ofList,
        String.toList_ofList, ofInt, if_pos (Int.negSucc_lt_zero m)]
      rfl

end Sign

end Criteria

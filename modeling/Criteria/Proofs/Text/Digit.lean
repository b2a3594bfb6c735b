/-
The decimal digits of a number.

* `Digit.ofNat_of_lt`, `Digit.ofNat_of_le`: the digits from the last one back;
* `Digit.value_append_zeros`, `Digit.value_lt`: zeros behind a number, and a bound by
  the count of its digits;
* `Digit.value_ofNat`: the digits of a number write that number;
* `Digit.ofNat_eq_zero_cons`: no digits stand behind a leading zero;
* `Digit.ofChars?_toDigits`: the decimal text of a number is read back digit
  by digit.
-/
import Criteria.Text.Digit
import Mathlib.Algebra.Group.Nat.Defs
import Mathlib.Data.List.Induction
import Mathlib.Tactic.Lemma

namespace Criteria.Digit

lemma ofChar?_digitChar {n : Nat} (h : n < 10) : ofChar? (Nat.digitChar n) = some ⟨n, h⟩ :=
  ofChar?_char ⟨n, h⟩

lemma ofNat_of_lt {n : Nat} (h : n < 10) : ofNat n = [⟨n, h⟩] := by
  simp [ofNat, Nat.toDigits_of_lt_base h, ofChar?_digitChar h]

/-- The last digit is the remainder, those before it write the quotient. -/
lemma ofNat_of_le {n : Nat} (h : 10 ≤ n) :
    ofNat n = ofNat (n / 10) ++ [⟨n % 10, Nat.mod_lt n (by decide)⟩] := by
  simp [ofNat, Nat.toDigits_of_base_le (by decide) h, List.filterMap_append,
    ofChar?_digitChar (Nat.mod_lt n (by decide))]

lemma value_append_singleton (ds : List Digit) (d : Digit) :
    value (ds ++ [d]) = 10 * value ds + d.val := by
  simp [value]

/-- Each zero behind a number makes it ten times as large. -/
lemma value_append_zeros (ds : List Digit) (k : Nat) :
    value (ds ++ List.replicate k zero) = value ds * 10 ^ k := by
  induction k with
  | zero => simp
  | succ k ih =>
      calc value (ds ++ List.replicate (k + 1) zero)
          = 10 * value (ds ++ List.replicate k zero) := by
            rw [List.replicate_succ', ← List.append_assoc, value_append_singleton]
            rfl
        _ = value ds * 10 ^ (k + 1) := by rw [ih, Nat.mul_comm, Nat.mul_assoc, Nat.pow_succ]

/-- A number is less than the power of ten with as many zeros as it has digits. -/
lemma value_lt (ds : List Digit) : value ds < 10 ^ ds.length := by
  induction ds using List.reverseRecOn with
  | nil => decide
  | append_singleton ds d ih =>
      rw [value_append_singleton, List.length_append, List.length_singleton, Nat.pow_succ]
      omega

/-- The digits of a number write that number. -/
@[simp] theorem value_ofNat (n : Nat) : value (ofNat n) = n := by
  induction n using Nat.strongRecOn with
  | ind n ih =>
      by_cases h : n < 10
      · simp [ofNat_of_lt h, value]
      · have hquotient := ih (n / 10) (by omega)
        rw [ofNat_of_le (by omega), value_append_singleton, hquotient]
        simp only
        omega

lemma ofNat_ne_nil (n : Nat) : ofNat n ≠ [] := by
  by_cases h : n < 10
  · simp [ofNat_of_lt h]
  · simp [ofNat_of_le (Nat.le_of_not_lt h)]

/-- No digits stand behind a leading zero. -/
theorem ofNat_eq_zero_cons {n : Nat} {ds : List Digit} (h : ofNat n = zero :: ds) : ds = [] := by
  induction n using Nat.strongRecOn generalizing ds with
  | ind n ih =>
      by_cases hlt : n < 10
      · rw [ofNat_of_lt hlt] at h
        exact (List.cons.inj h).2.symm
      · -- the digits of the quotient start with the same zero, so the quotient is zero
        rw [ofNat_of_le (by omega)] at h
        obtain ⟨d, rest, hquotient⟩ := List.exists_cons_of_ne_nil (ofNat_ne_nil (n / 10))
        rw [hquotient, List.cons_append] at h
        obtain ⟨rfl, -⟩ := List.cons.inj h
        have hvalue := value_ofNat (n / 10)
        rw [hquotient, ih (n / 10) (by omega) hquotient] at hvalue
        simp [value, zero] at hvalue
        omega

/-- The decimal text of a number is read back digit by digit. -/
theorem ofChars?_toDigits (n : Nat) : ofChars? (Nat.toDigits 10 n) = some (ofNat n) := by
  induction n using Nat.strongRecOn with
  | ind n ih =>
      by_cases h : n < 10
      · simp [ofNat_of_lt h, Nat.toDigits_of_lt_base h, ofChars?, ofChar?_digitChar h]
      · have hquotient := ih (n / 10) (by omega)
        have hlast := ofChar?_digitChar (Nat.mod_lt n (y := 10) (by decide))
        rw [ofChars?] at hquotient
        rw [ofNat_of_le (by omega), Nat.toDigits_of_base_le (by decide) (by omega), ofChars?,
          List.mapM_append, hquotient]
        simp [hlast]

end Criteria.Digit

/-
The spellings of strings and numbers in JSON are read back.

* `StringUnit.WellFormed`, `Numeral.WellFormed`: the strings and the numbers that
  have a spelling;
* `StringUnit.read_listText`: a string is read from its spelling, whichever of its
  characters have to be escaped;
* `Numeral.read_text`: a number is read from its spelling, in front of a text that
  does not go on with it.
-/
import Criteria.Json.Pretty
import Criteria.Json.Reader
import Criteria.Proofs.Text.Group
import Mathlib.Tactic.SplitIfs

namespace Criteria

/-! ### Strings -/

namespace StringUnit

/-- A unit has a spelling: it is a character or the half of a surrogate pair. -/
def WellFormed : StringUnit → Prop
  | char _ => True
  | half n => isHigh n = true ∨ isLow n = true

lemma hexDigit?_digitChar {n : Nat} (h : n < 16) : hexDigit? (Nat.digitChar n) = some n := by
  have key : ∀ d : Fin 16, hexDigit? (Nat.digitChar d.val) = some d.val := by decide
  exact key ⟨n, h⟩

/-- The hexadecimal digits of a number from the last one back. -/
lemma toDigits_hex (n : Nat) :
    Nat.toDigits 16 n
      = if n < 16 then [Nat.digitChar n]
        else Nat.toDigits 16 (n / 16) ++ [Nat.digitChar (n % 16)] := by
  split_ifs with h
  · exact Nat.toDigits_of_lt_base h
  · exact Nat.toDigits_of_base_le (by decide) (by omega)

/-- The four hexadecimal digits of a number. -/
lemma hexText4_eq {n : Nat} (h : n < 65536) :
    hexText4 n = [Nat.digitChar (n / 4096), Nat.digitChar (n / 256 % 16),
      Nat.digitChar (n / 16 % 16), Nat.digitChar (n % 16)] := by
  have h256 : n / 16 / 16 = n / 256 := by omega
  have h4096 : n / 256 / 16 = n / 4096 := by omega
  rw [hexText4, toDigits_hex, toDigits_hex (n / 16), h256, toDigits_hex (n / 256), h4096,
    toDigits_hex (n / 4096)]
  split_ifs with h1 h2 h3 h4
  · rw [Nat.div_eq_of_lt (show n < 4096 by omega), Nat.div_eq_of_lt (show n < 256 by omega),
      Nat.div_eq_of_lt h1, Nat.mod_eq_of_lt h1]
    rfl
  · rw [Nat.div_eq_of_lt (show n < 4096 by omega), Nat.div_eq_of_lt (show n < 256 by omega),
      Nat.mod_eq_of_lt h2]
    rfl
  · rw [Nat.div_eq_of_lt (show n < 4096 by omega), Nat.mod_eq_of_lt h3]
    rfl
  · rfl
  · omega

/-- A unit is read from four hexadecimal digits. -/
lemma read_hexText4 {n : Nat} (h : n < 65536) (cs : List Char) :
    read ('\\' :: 'u' :: (hexText4 n ++ cs))
      = (read cs).map fun found =>
        ((if isHigh n || isLow n then half n else char (Char.ofNat n)) :: found.1, found.2) := by
  have hvalue : ((n / 4096 * 16 + n / 256 % 16) * 16 + n / 16 % 16) * 16 + n % 16 = n := by omega
  rw [hexText4_eq h]
  simp only [List.cons_append, List.nil_append, read, ofHex?]
  rw [hexDigit?_digitChar (by omega), hexDigit?_digitChar (by omega),
    hexDigit?_digitChar (by omega), hexDigit?_digitChar (by omega)]
  simp only [hvalue]
  cases read cs <;> rfl

/-- A character is read from the letter that stands for it after a backslash. -/
lemma read_escape {e c : Char} (h : escape? e = some c) (cs : List Char) :
    read ('\\' :: e :: cs) = (read cs).map fun found => (char c :: found.1, found.2) := by
  have hu : e ≠ 'u' := by
    rintro rfl
    simp [escape?] at h
  rw [read.eq_def]
  split
  · rename_i heq
    simp at heq
  · rename_i heq
    simp at heq
  · rename_i heq
    exact absurd (List.cons.inj (List.cons.inj heq).2).1 hu
  · rename_i heq
    obtain ⟨-, heq⟩ := List.cons.inj heq
    obtain ⟨rfl, rfl⟩ := List.cons.inj heq
    rw [h]
    cases read cs <;> rfl
  · rename_i hne heq
    obtain ⟨rfl, rfl⟩ := List.cons.inj heq
    exact absurd rfl (hne _ _ rfl)

/-- A character that needs no escape is read from itself. -/
lemma read_plain {c : Char} (hquote : c ≠ '"') (hbackslash : c ≠ '\\') (hcontrol : ¬ c < ' ')
    (cs : List Char) :
    read (c :: cs) = (read cs).map fun found => (char c :: found.1, found.2) := by
  rw [read.eq_def]
  split
  · rename_i heq
    simp at heq
  · rename_i heq
    exact absurd (List.cons.inj heq).1 hquote
  · rename_i heq
    exact absurd (List.cons.inj heq).1 hbackslash
  · rename_i heq
    exact absurd (List.cons.inj heq).1 hbackslash
  · rename_i heq
    obtain ⟨rfl, rfl⟩ := List.cons.inj heq
    rw [if_neg (not_or.mpr ⟨hcontrol, hbackslash⟩)]
    cases read cs <;> rfl

/-- A unit is read from its spelling. -/
lemma read_text_append {u : StringUnit} (hu : u.WellFormed) (cs : List Char) :
    read (u.text ++ cs) = (read cs).map fun found => (u :: found.1, found.2) := by
  cases u with
  | half n =>
      have hn : n < 65536 := by
        simp only [WellFormed, isHigh, isLow, Bool.and_eq_true, decide_eq_true_eq] at hu
        omega
      rw [text, List.append_assoc, List.cons_append, List.cons_append, List.nil_append,
        read_hexText4 hn, if_pos (by simpa [WellFormed] using hu)]
  | char c =>
      rw [text]
      split_ifs with hquote hbackslash hb hf hn hr ht hcontrol
      · subst hquote
        exact read_escape rfl cs
      · subst hbackslash
        exact read_escape rfl cs
      · subst hb
        exact read_escape rfl cs
      · subst hf
        exact read_escape rfl cs
      · subst hn
        exact read_escape rfl cs
      · subst hr
        exact read_escape rfl cs
      · subst ht
        exact read_escape rfl cs
      · have hlt : c.toNat < 32 := hcontrol
        have hplain : (isHigh c.toNat || isLow c.toNat) = false := by
          simp only [isHigh, isLow, Bool.or_eq_false_iff, Bool.and_eq_false_iff,
            decide_eq_false_iff_not]
          omega
        rw [List.append_assoc, List.cons_append, List.cons_append, List.nil_append,
          read_hexText4 (by omega), hplain, if_neg (by decide), Char.ofNat_toNat]
      · exact read_plain hquote hbackslash hcontrol cs

/-- A string is read from its spelling, up to the closing quotation mark. -/
lemma read_listText {units : List StringUnit} (h : ∀ u ∈ units, u.WellFormed) (cs : List Char) :
    read (units.flatMap text ++ '"' :: cs) = some (units, cs) := by
  induction units with
  | nil => simp [read]
  | cons u units ih =>
      obtain ⟨hu, hunits⟩ := List.forall_mem_cons.mp h
      rw [List.flatMap_cons, List.append_assoc, read_text_append hu, ih hunits]
      rfl

end StringUnit

/-! ### Numbers -/

namespace Numeral

/-- A number has a spelling: it has digits before the point, no zero in front of
other digits, and digits in its exponent if it has one. -/
structure WellFormed (n : Numeral) : Prop where
  whole_ne_nil : n.whole ≠ []
  eq_nil_of_zero : ∀ ds, n.whole = Digit.zero :: ds → ds = []
  exponent_ne_nil : ∀ sign ds, n.exponent = some (sign, ds) → ds ≠ []

/-- A text does not go on with a number: it is empty or starts with another
character. -/
def Ends (cs : List Char) : Prop :=
  ∀ c, cs.head? = some c → Digit.ofChar? c = none ∧ c ≠ '.' ∧ c ≠ 'e' ∧ c ≠ 'E'

lemma ends_cons {c : Char} (hdigit : Digit.ofChar? c = none)
    (hc : c ≠ '.' ∧ c ≠ 'e' ∧ c ≠ 'E') (cs : List Char) : Ends (c :: cs) := by
  intro e he
  obtain rfl : c = e := Option.some.inj he
  exact ⟨hdigit, hc⟩

variable {n : Numeral} {cs : List Char}

/-- The spelling of a fraction. -/
def fractionText (n : Numeral) : List Char :=
  if n.fraction = [] then [] else '.' :: n.fraction.map Digit.char

/-- The spelling of an exponent. -/
def exponentText (n : Numeral) : List Char :=
  n.exponent.elim [] fun e => 'e' :: Sign.text e.1 ++ e.2.map Digit.char

lemma text_eq (n : Numeral) :
    n.text = (if n.negative then ['-'] else []) ++ (n.whole.map Digit.char
      ++ (n.fractionText ++ n.exponentText)) := by
  obtain ⟨negative, whole, fraction, exponent⟩ := n
  cases exponent <;> simp [text, fractionText, exponentText]

/-- The digits before the point are read. -/
lemma readWhole_text (h : n.WellFormed) (hcs : ∀ c, cs.head? = some c → Digit.ofChar? c = none) :
    readWhole (n.whole.map Digit.char ++ cs) = some (n.whole, cs) := by
  obtain ⟨d, ds, hwhole⟩ := List.exists_cons_of_ne_nil h.whole_ne_nil
  rw [readWhole, Digit.span_map_char hcs, hwhole]
  exact if_neg fun hzero => hzero.2 (h.eq_nil_of_zero ds (hzero.1 ▸ hwhole))

/-- A fraction is read, also when it is left out. -/
lemma readFraction_text (n : Numeral)
    (hcs : ∀ c, cs.head? = some c → Digit.ofChar? c = none ∧ c ≠ '.') :
    readFraction (n.fractionText ++ cs) = some (n.fraction, cs) := by
  rw [fractionText]
  cases hfraction : n.fraction with
  | nil =>
      cases cs with
      | nil => rfl
      | cons c cs =>
          obtain ⟨-, hpoint⟩ := hcs c rfl
          simp [readFraction, hpoint]
  | cons d ds =>
      rw [if_neg (List.cons_ne_nil d ds), List.cons_append, readFraction,
        Digit.span_map_char fun c hc => (hcs c hc).1]

/-- An exponent is read, also when it is left out. -/
lemma readExponent_text (h : n.WellFormed) (hcs : Ends cs) :
    readExponent (n.exponentText ++ cs) = some (n.exponent, cs) := by
  rw [exponentText]
  cases hexponent : n.exponent with
  | none =>
      cases cs with
      | nil => rfl
      | cons c cs =>
          obtain ⟨-, -, he, hE⟩ := hcs c rfl
          simp [readExponent, he, hE]
  | some e =>
      obtain ⟨sign, digits⟩ := e
      obtain ⟨d, ds, rfl⟩ := List.exists_cons_of_ne_nil (h.exponent_ne_nil sign digits hexponent)
      have hsplit : Sign.split (Sign.text sign ++ ((d :: ds).map Digit.char ++ cs))
          = (sign, (d :: ds).map Digit.char ++ cs) := by
        refine Sign.split_append fun c hc => ?_
        obtain rfl : d.char = c := Option.some.inj hc
        exact ⟨Digit.char_ne rfl d, Digit.char_ne rfl d⟩
      rw [Option.elim_some, List.append_assoc, List.cons_append, readExponent, if_pos (.inl rfl),
        hsplit, Digit.span_map_char fun c hc => (hcs c hc).1]

lemma head?_exponentText (hcs : Ends cs) :
    ∀ c, (n.exponentText ++ cs).head? = some c → Digit.ofChar? c = none ∧ c ≠ '.' := by
  intro c hc
  rw [exponentText] at hc
  cases hexponent : n.exponent with
  | none =>
      rw [hexponent] at hc
      obtain ⟨hdigit, hpoint, -⟩ := hcs c hc
      exact ⟨hdigit, hpoint⟩
  | some e =>
      rw [hexponent] at hc
      obtain rfl : 'e' = c := Option.some.inj hc
      decide

lemma head?_fractionText (hcs : ∀ c, cs.head? = some c → Digit.ofChar? c = none) :
    ∀ c, (n.fractionText ++ cs).head? = some c → Digit.ofChar? c = none := by
  intro c hc
  rw [fractionText] at hc
  split_ifs at hc with hnil
  · exact hcs c hc
  · obtain rfl : '.' = c := Option.some.inj hc
    rfl

lemma read_nonnegative {c : Char} (hc : c ≠ '-') (cs : List Char) :
    read (c :: cs) = readUnsigned false (c :: cs) := by
  rw [read.eq_def]
  split
  · rename_i heq
    exact absurd (List.cons.inj heq).1 hc
  · rfl

/-- A character stands at the head of a number. -/
def Starts (c : Char) : Prop := c = '-' ∨ ∃ d : Digit, c = d.char

/-- The spelling of a number starts with a sign or a digit. -/
lemma exists_head (h : n.WellFormed) : ∃ c cs, n.text = c :: cs ∧ Starts c := by
  obtain ⟨d, ds, hwhole⟩ := List.exists_cons_of_ne_nil h.whole_ne_nil
  rw [text_eq, hwhole]
  by_cases hnegative : n.negative = true
  · exact ⟨'-', _, by rw [if_pos hnegative]; rfl, .inl rfl⟩
  · exact ⟨d.char, _, by rw [if_neg hnegative]; rfl, .inr ⟨d, rfl⟩⟩

lemma Starts.ne {c e : Char} (hc : Starts c) (hsign : e ≠ '-') (hdigit : Digit.ofChar? e = none) :
    c ≠ e := by
  obtain rfl | ⟨d, rfl⟩ := hc
  · exact hsign.symm
  · exact Digit.char_ne hdigit d

/-- A number is read from its spelling. -/
lemma read_text (h : n.WellFormed) (hcs : Ends cs) : read (n.text ++ cs) = some (n, cs) := by
  have hunsigned : ∀ negative, readUnsigned negative
      (n.whole.map Digit.char ++ (n.fractionText ++ (n.exponentText ++ cs)))
        = some (⟨negative, n.whole, n.fraction, n.exponent⟩, cs) := by
    intro negative
    have hexponent := head?_exponentText (n := n) hcs
    have hfraction := head?_fractionText (n := n) fun c hc => (hexponent c hc).1
    simp only [readUnsigned, readWhole_text h hfraction, readFraction_text n hexponent,
      readExponent_text h hcs, Option.bind_eq_bind, Option.bind_some]
  rw [text_eq, List.append_assoc, List.append_assoc, List.append_assoc]
  by_cases hnegative : n.negative = true
  · rw [if_pos hnegative, List.singleton_append, read, hunsigned, ← hnegative]
  · obtain ⟨d, ds, hwhole⟩ := List.exists_cons_of_ne_nil h.whole_ne_nil
    have hsign : n.negative = false := Bool.eq_false_iff.mpr hnegative
    rw [if_neg hnegative, List.nil_append]
    have hread := hunsigned false
    rw [hwhole, List.map_cons, List.cons_append] at hread ⊢
    rw [read_nonnegative (Digit.char_ne rfl d), hread, ← hwhole, ← hsign]

end Numeral

end Criteria

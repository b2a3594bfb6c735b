/-
The texts of values can be told from what follows them.

* `AllPlain`: texts without stops, quotation marks and opening brackets, with
  those of numbers, days, times and durations;
* `Scalar.text_cases`: a scalar is written plainly or quoted;
* `Scalar.delimits`, `Prepared.delimits`: so the texts of scalars and of values
  are told from each other in front of stops.
-/
import Criteria.Field.Prepared
import Criteria.Proofs.Result
import Criteria.Proofs.Text.Delimited
import Criteria.Proofs.Text.Group

namespace Criteria

/-! ### Plain texts -/

/-- The characters that neither start a bracket or a quotation nor may follow a
value. -/
def isPlain (c : Char) : Bool := !isStop c && c != '"' && c != '['

/-- A text of plain characters. -/
def AllPlain (s : String) : Prop := ∀ c ∈ s.toList, isPlain c = true

instance (s : String) : Decidable (AllPlain s) := List.decidableBAll _ s.toList

/-- No character of a plain text may follow a value. -/
lemma isStop_of_allPlain {s : String} (h : AllPlain s) : ∀ c ∈ s.toList, isStop c = false := by
  intro c hc
  have hplain := h c hc
  simp only [isPlain, Bool.and_eq_true, Bool.not_eq_true'] at hplain
  exact hplain.1.1

@[simp] lemma allPlain_append {s t : String} : AllPlain (s ++ t) ↔ AllPlain s ∧ AllPlain t := by
  rw [AllPlain, String.toList_append, List.forall_mem_append]
  rfl

lemma allPlain_ofList {cs : List Char} :
    AllPlain (String.ofList cs) ↔ ∀ c ∈ cs, isPlain c = true := by
  rw [AllPlain, String.toList_ofList]

lemma isPlain_of_mem_toDigits {n : ℕ} {c : Char} (h : c ∈ Nat.toDigits 10 n) :
    isPlain c = true := by
  obtain ⟨d, hd, rfl⟩ := exists_of_mem_toDigits (by decide) h
  have hall : ∀ d < 10, isPlain (Nat.digitChar d) = true := by decide
  exact hall d hd

lemma isPlain_of_mem_leftpad {width n : ℕ} {c : Char}
    (h : c ∈ List.leftpad width '0' (Nat.toDigits 10 n)) : isPlain c = true := by
  rcases List.mem_append.mp h with hzero | hdigit
  · rw [List.eq_of_mem_replicate hzero]
    decide
  · exact isPlain_of_mem_toDigits hdigit

@[simp] lemma allPlain_padded (width n : ℕ) : AllPlain (padded width n) :=
  allPlain_ofList.mpr fun _ hc => isPlain_of_mem_leftpad hc

lemma allPlain_toString_int (n : ℤ) : AllPlain (toString n) := by
  intro c hc
  rw [Sign.toList_toString_int] at hc
  rcases List.mem_append.mp hc with hsign | hdigit
  · have hall : ∀ s : Option Sign, ∀ c ∈ Sign.text s, isPlain c = true := by
      rintro (_ | _ | _) <;> simp [Sign.text, Sign.char, isPlain, isStop]
    exact hall _ c hsign
  · obtain ⟨d, -, rfl⟩ := List.mem_map.mp hdigit
    have hall : ∀ d : Digit, isPlain d.char = true := by decide
    exact hall d

lemma Date.allPlain_text (d : Date) : AllPlain d.text := by
  rw [Date.text]
  split_ifs <;> simp <;> decide

lemma TimeOfDay.allPlain_text (t : TimeOfDay) : AllPlain t.text := by
  rw [TimeOfDay.text]
  split_ifs <;> simp <;> decide

lemma Offset.allPlain_text (o : Offset) : AllPlain o.text := by
  rw [Offset.text]
  split_ifs <;> simp <;> decide

lemma DateTime.allPlain_text (t : DateTime) : AllPlain t.text := by
  have hmark : AllPlain "T" := by decide
  rw [DateTime.text, allPlain_append, allPlain_append, allPlain_append]
  refine ⟨⟨⟨t.date.allPlain_text, hmark⟩, t.time.allPlain_text⟩, ?_⟩
  cases t.offset with
  | none => decide
  | some o => exact o.allPlain_text

lemma Duration.allPlain_partText (c : Option Int64) {letter : String} (h : AllPlain letter) :
    AllPlain (partText c letter) := by
  cases c with
  | none =>
      rw [partText]
      decide
  | some n => exact allPlain_append.mpr ⟨allPlain_toString_int n.toInt, h⟩

lemma Duration.allPlain_text (d : Duration) : AllPlain d.text := by
  have hpart : ∀ c, ∀ letter ∈ ["Y", "M", "W", "D", "H", "S"], AllPlain (partText c letter) := by
    intro c letter hletter
    have hall : ∀ letter ∈ ["Y", "M", "W", "D", "H", "S"], AllPlain letter := by decide
    exact allPlain_partText c (hall letter hletter)
  rw [Duration.text]
  split_ifs <;> simp [hpart] <;> decide

/-- The characters of a decimal number. -/
lemma Decimal.isPlain_of_mem_text {d : Decimal} {c : Char} (h : c ∈ d.text) : isPlain c = true := by
  rw [Decimal.text] at h
  split_ifs at h
  · rcases List.mem_append.mp h with hdigit | hzero
    · exact isPlain_of_mem_toDigits hdigit
    · rw [List.eq_of_mem_replicate hzero]
      decide
  · rcases List.mem_append.mp h with hwhole | hfraction
    · exact isPlain_of_mem_leftpad (List.mem_of_mem_take hwhole)
    · rcases List.mem_cons.mp hfraction with rfl | hfraction
      · decide
      · exact isPlain_of_mem_leftpad (List.mem_of_mem_drop hfraction)

lemma Decimal.text_ne_nil (d : Decimal) : d.text ≠ [] := by
  rw [Decimal.text]
  split_ifs <;> simp

/-- A number is written in plain characters, at least one. -/
lemma floatText_plain (x : Float) : AllPlain (floatText x) ∧ floatText x ≠ "" := by
  -- the sign stands before whatever a number that is one is written with
  have hsigned : ∀ cs : List Char, (∀ c ∈ cs, isPlain c = true) → cs ≠ [] →
      AllPlain (String.ofList ((if x.toBits.toBitVec.msb then ['-'] else []) ++ cs)) ∧
        String.ofList ((if x.toBits.toBitVec.msb then ['-'] else []) ++ cs) ≠ "" := by
    intro cs hcs hne
    rw [allPlain_ofList, List.forall_mem_append]
    refine ⟨⟨?_, hcs⟩, by simp [hne]⟩
    split_ifs <;> simp [isPlain, isStop]
  rw [floatText]
  by_cases hnan : x.isNaN
  · rw [if_pos hnan]
    decide
  rw [if_neg hnan]
  by_cases hinf : x.isInf
  · rw [if_pos hinf]
    exact hsigned _ (by simp [isPlain, isStop]) (by simp)
  rw [if_neg hinf]
  by_cases hzero : (Binary.ofBits x.toBits).mantissa = 0
  · rw [if_pos hzero]
    exact hsigned _ (by simp [isPlain, isStop]) (by simp)
  · rw [if_neg hzero]
    exact hsigned _ (fun c hc => Decimal.isPlain_of_mem_text hc) (Decimal.text_ne_nil _)

/-! ### Scalars -/

namespace Scalar

/-- A scalar is written in quotation marks, or else in plain characters, at least
one. -/
lemma text_cases (s : Scalar) :
    (∃ cs, s.text.toList = quoteList cs) ∨ (AllPlain s.text ∧ s.text ≠ "") := by
  cases s with
  | integer n =>
      refine .inr ⟨allPlain_toString_int n, fun h => ?_⟩
      have hdigits : (toString n).toList = [] := congrArg String.toList h
      rw [Sign.toList_toString_int, List.append_eq_nil_iff, List.map_eq_nil_iff] at hdigits
      exact Digit.ofNat_ne_nil _ hdigits.2
  | float x => exact .inr (floatText_plain x)
  | string v => exact .inl ⟨v.toList, String.toList_ofList⟩
  | boolean b => cases b <;> exact .inr (by decide)
  | date d => exact .inr ⟨d.date.allPlain_text, by simp [text, WrittenDate.text, Date.text]⟩
  | time t => exact .inr ⟨t.allPlain_text, by simp [text, TimeOfDay.text]⟩
  | datetime t => exact .inr ⟨t.allPlain_text, by simp [text, DateTime.text]⟩
  | relative d _ =>
      have hmark : AllPlain "now+" := by decide
      exact .inr ⟨allPlain_append.mpr ⟨hmark, d.allPlain_text⟩, by simp [text]⟩

/-- The text of a scalar starts with no bracket. -/
lemma exists_head (s : Scalar) :
    ∃ c cs, s.text.toList = c :: cs ∧ c ≠ '[' ∧ isStop c = false := by
  rcases s.text_cases with ⟨cs, hquoted⟩ | ⟨hplain, hne⟩
  · exact ⟨'"', _, hquoted, by decide, by decide⟩
  · obtain ⟨c, cs, hcs⟩ := List.exists_cons_of_ne_nil (mt String.toList_eq_nil_iff.mp hne)
    have hmem : c ∈ s.text.toList := by simp [hcs]
    refine ⟨c, cs, hcs, ?_, isStop_of_allPlain hplain c hmem⟩
    rintro rfl
    exact absurd (hplain '[' hmem) (by decide)

/-- Quoted and plain texts start differently. -/
lemma quoteList_append_ne {s : String} (hplain : AllPlain s) (hne : s ≠ "")
    (cs rest rest' : List Char) : quoteList cs ++ rest ≠ s.toList ++ rest' := by
  obtain ⟨c, cs', hcs⟩ := List.exists_cons_of_ne_nil (mt String.toList_eq_nil_iff.mp hne)
  intro h
  rw [quoteList, hcs, List.cons_append, List.cons_append, List.cons_append] at h
  have hc := hplain c (by rw [hcs]; exact List.mem_cons_self)
  rw [← (List.cons.inj h).1] at hc
  exact absurd hc (by decide)

/-- The texts of scalars are told from each other in front of stops. -/
theorem delimits (s : Scalar) :
    Delimits (fun s : Scalar => s.text.toList) (fun _ => True) (fun s s' => s.text = s'.text)
      s := by
  intro s' rest rest' _ hrest hrest' h
  rcases s.text_cases with ⟨cs, hquoted⟩ | ⟨hplain, hne⟩
  · rcases s'.text_cases with ⟨cs', hquoted'⟩ | ⟨hplain', hne'⟩
    · simp only [hquoted, hquoted'] at h
      obtain ⟨htext, hrest⟩ := eq_of_quoteList_append h
      exact ⟨String.toList_inj.mp (by rw [hquoted, hquoted', htext]), hrest⟩
    · simp only [hquoted] at h
      exact absurd h (quoteList_append_ne hplain' hne' cs rest rest')
  · rcases s'.text_cases with ⟨cs', hquoted'⟩ | ⟨hplain', hne'⟩
    · simp only [hquoted'] at h
      exact absurd h.symm (quoteList_append_ne hplain hne cs' rest' rest)
    · obtain ⟨htext, hrest⟩ := eq_of_append_eq (isStop_of_allPlain hplain)
        (isStop_of_allPlain hplain') hrest hrest' h
      exact ⟨String.toList_inj.mp htext, hrest⟩

end Scalar

/-! ### Values -/

namespace Prepared

lemma toList_text_many (items : List Scalar) :
    (many items).text.toList
      = '[' :: ([',', ' '].intercalate (items.map fun s => s.text.toList) ++ [']']) := by
  rw [text, String.toList_append, String.toList_append, String.toList_intercalate, List.map_map]
  rfl

lemma single_append_ne_many (s : Scalar) (items : List Scalar) (rest rest' : List Char) :
    (single s).text.toList ++ rest ≠ (many items).text.toList ++ rest' := by
  obtain ⟨c, cs, hcs, hbracket, -⟩ := s.exists_head
  intro h
  rw [toList_text_many, text, hcs, List.cons_append, List.cons_append] at h
  exact hbracket (List.cons.inj h).1

/-- An empty list is told from one with an item, which starts with no bracket. -/
lemma bracket_append_ne_many (s : Scalar) (items : List Scalar) (rest rest' : List Char) :
    ']' :: rest
      ≠ [',', ' '].intercalate ((s :: items).map fun s => s.text.toList) ++ ']' :: rest' := by
  obtain ⟨c, cs, hcs, -, hstop⟩ := s.exists_head
  intro h
  rw [intercalate_cons_eq_flatMap, hcs, List.append_assoc, List.cons_append] at h
  rw [← (List.cons.inj h).1] at hstop
  exact absurd hstop (by decide)

/-- The texts of lists are told from each other in front of anything. -/
lemma eq_of_many_append {items items' : List Scalar} {rest rest' : List Char}
    (h : (many items).text.toList ++ rest = (many items').text.toList ++ rest') :
    (many items).text = (many items').text ∧ rest = rest' := by
  simp only [toList_text_many, List.cons_append, List.append_assoc, List.nil_append,
    List.cons.injEq, true_and] at h
  cases items with
  | nil =>
      cases items' with
      | nil => exact ⟨rfl, (List.cons.inj h).2⟩
      | cons s items' => exact absurd h (bracket_append_ne_many s items' rest rest')
  | cons s items =>
      cases items' with
      | nil => exact absurd h.symm (bracket_append_ne_many s items rest' rest)
      | cons s' items' =>
          obtain ⟨htexts, hrest⟩ := Delimits.intercalate (by decide) (by decide) (by decide)
            (fun s _ => s.delimits) (fun _ _ => trivial) (by simp) (by simp) h
          exact ⟨by rw [text, text, map_eq_of_forall₂ htexts], hrest⟩

/-- The texts of values are told from each other in front of stops. -/
theorem delimits (v : Prepared) :
    Delimits (fun v : Prepared => v.text.toList) (fun _ => True) (fun v v' => v.text = v'.text)
      v := by
  intro v' rest rest' _ hrest hrest' h
  cases v with
  | single s =>
      cases v' with
      | single s' => exact s.delimits trivial hrest hrest' h
      | many items' => exact absurd h (single_append_ne_many s items' rest rest')
  | many items =>
      cases v' with
      | single s' => exact absurd h.symm (single_append_ne_many s' items rest' rest)
      | many items' => exact eq_of_many_append h

end Prepared

end Criteria

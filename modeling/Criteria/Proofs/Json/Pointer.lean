/-
Pointers and the documents they lead through.

* `Pointer.ofText?_text`: the written form of a pointer is read back, whatever
  characters its segments hold;
* `Pointer.decode_text`: it is also read back by the two replacements that undo
  the escapes, one after the other over each piece;
* `Pointer.index?_toString`: the segment that writes an index stands for it;
* `Json.followSegments?_append`: a pointer is followed piece by piece.
-/
import Criteria.Json.Pointer
import Criteria.Proofs.Text.Digit
import Criteria.Proofs.Text.Replace

namespace Criteria

namespace Pointer

/-! ### The written form -/

/-- The characters of the written form of a list of segments. -/
def segmentChars (segments : List String) : List Char :=
  segments.flatMap fun segment => '/' :: segment.toList.flatMap escapeChar

lemma toList_segmentsText (segments : List String) :
    (segmentsText segments).toList = segmentChars segments := by
  induction segments with
  | nil => rfl
  | cons segment rest ih => simp [segmentsText, segmentChars, escape, ih]

/-- No slash is left in an escaped segment. -/
lemma slash_notMem_escape (cs : List Char) : '/' ∉ cs.flatMap escapeChar := by
  rw [List.mem_flatMap]
  rintro ⟨c, -, hc⟩
  rw [escapeChar] at hc
  split at hc
  · simp at hc
  · split at hc
    · simp at hc
    · rename_i hslash
      exact hslash (List.mem_singleton.mp hc).symm

/-- A written form is split into its escaped segments, behind what stands in front
of the first slash. -/
lemma splitOn_segmentChars {cs : List Char} (h : '/' ∉ cs) (segments : List String) :
    (cs ++ segmentChars segments).splitOn '/'
      = cs :: segments.map fun segment => segment.toList.flatMap escapeChar := by
  induction segments generalizing cs with
  | nil => simpa [segmentChars] using List.splitOn_eq_singleton h
  | cons segment rest ih =>
      have hrest := ih (slash_notMem_escape segment.toList)
      have hchars : segmentChars (segment :: rest)
          = '/' :: (segment.toList.flatMap escapeChar ++ segmentChars rest) := by
        simp [segmentChars]
      rw [hchars, List.splitOn_append_cons_self_of_not_mem h, hrest, List.map_cons]

/-- The pieces of a text are those that it splits into at its slashes. -/
lemma pieces_eq_splitOn (cs : List Char) : pieces cs = cs.splitOn '/' := by
  induction cs with
  | nil => simp [pieces]
  | cons c cs ih =>
      rw [pieces, List.splitOn_cons_eq_if_modifyHead, ih]
      by_cases hc : c = '/'
      · simp [hc]
      · simp only [hc, if_false, beq_iff_eq]
        cases hsplit : cs.splitOn '/' with
        | nil => exact absurd hsplit (List.splitOn_ne_nil '/' cs)
        | cons piece rest => rfl

/-- **The written form is read back**: a pointer is the one that its written
form stands for. -/
theorem ofText?_text (p : Pointer) : ofText? p.text = some p := by
  cases p with
  | mk segments =>
      rw [ofText?, text, toList_segmentsText]
      cases segments with
      | nil => rfl
      | cons segment rest =>
          have hsplit := splitOn_segmentChars (slash_notMem_escape segment.toList) rest
          rw [← pieces_eq_splitOn] at hsplit
          simp only [segmentChars, List.flatMap_cons, List.cons_append] at hsplit ⊢
          rw [hsplit]
          simp [unescape_escape, Function.comp_def]

/-- A written form with segments in front is that of the segments, followed by
the rest. -/
lemma segmentsText_append (segments rest : List String) :
    segmentsText (segments ++ rest) = segmentsText segments ++ segmentsText rest := by
  induction segments with
  | nil => simp [segmentsText]
  | cons segment segments ih => simp [segmentsText, ih, String.append_assoc]

/-! ### Escapes as replacements -/

/-- A segment is escaped by two replacements, that of the tilde first: the slashes
that are replaced after it bring new tildes. -/
lemma flatMap_escapeChar_eq_replace (cs : List Char) :
    cs.flatMap escapeChar = replace '/' [] ['~', '1'] (replace '~' [] ['~', '0'] cs) := by
  rw [replace_single, replace_single, List.flatMap_assoc]
  congr 1
  funext c
  by_cases htilde : c = '~'
  · simp [escapeChar, htilde]
  · by_cases hslash : c = '/' <;> simp [escapeChar, htilde, hslash]

/-- The segment that escaped characters stand for, by the replacements in the
opposite order: slashes first, then tildes. -/
def decodeSegment (cs : List Char) : List Char :=
  replace '~' ['0'] ['~'] (replace '~' ['1'] ['/'] cs)

/-- The segments that a written form stands for: what comes behind each slash,
decoded. -/
def decode (s : String) : List String :=
  (s.toList.splitOn '/').tail.map fun piece => String.ofList (decodeSegment piece)

/-- Each replacement undoes one of the escapes. With the tildes replaced, none of
them is followed by a one, so the slashes come back alone. -/
lemma decodeSegment_escape (cs : List Char) : decodeSegment (cs.flatMap escapeChar) = cs := by
  have hone : ¬ ['~', '1'] <:+: replace '~' [] ['~', '0'] cs :=
    not_infix_replace (by decide) (by decide) cs
  calc decodeSegment (cs.flatMap escapeChar)
      = replace '~' ['0'] ['~'] (replace '~' ['1'] ['/']
          (replace '/' [] ['~', '1'] (replace '~' [] ['~', '0'] cs))) := by
        rw [decodeSegment, flatMap_escapeChar_eq_replace]
    _ = replace '~' ['0'] ['~'] (replace '~' [] ['~', '0'] cs) := by
        rw [replace_replace (by decide) fun _ => hone]
    _ = cs := replace_replace (by decide) fun hne => absurd rfl hne

/-- In the other order a tilde that has come back is taken for the start of the
escape of a slash; the characters stand for `~1`. -/
example : replace '~' ['1'] ['/'] (replace '~' ['0'] ['~'] ['~', '0', '1']) = ['/'] := by cbv

/-- **The written form is decoded**: the replacements give the segments back. -/
theorem decode_text (p : Pointer) : decode p.text = p.segments := by
  have hsplit := splitOn_segmentChars List.not_mem_nil p.segments
  rw [List.nil_append] at hsplit
  rw [decode, text, toList_segmentsText, hsplit]
  simp [decodeSegment_escape, Function.comp_def]

/-! ### Indices -/

/-- The segment that writes an index stands for it. -/
theorem index?_toString (i : Nat) : index? (toString i) = some i := by
  have hdigits : Digit.ofChars? (toString i).toList = some (Digit.ofNat i) := by
    rw [Nat.toString_eq_ofList_toDigits, String.toList_ofList, Digit.ofChars?_toDigits]
  rw [index?, hdigits]
  obtain ⟨d, ds, hcons⟩ := List.exists_cons_of_ne_nil (Digit.ofNat_ne_nil i)
  have hzero : ¬ (d = Digit.zero ∧ ds ≠ []) := by
    rintro ⟨rfl, hne⟩
    exact hne (Digit.ofNat_eq_zero_cons hcons)
  have hvalue := Digit.value_ofNat i
  rw [hcons] at hvalue ⊢
  simp only [if_neg hzero, hvalue]

lemma toString_inj {i j : Nat} : toString i = toString j ↔ i = j := by
  constructor
  · intro h
    have hindex := index?_toString i
    rw [h, index?_toString] at hindex
    exact (Option.some.inj hindex).symm
  · rintro rfl
    rfl

end Pointer

/-- A pointer is followed piece by piece. -/
lemma Json.followSegments?_append (document : Json) (segments rest : List String) :
    document.followSegments? (segments ++ rest)
      = (document.followSegments? segments).bind fun inner => inner.followSegments? rest := by
  induction segments generalizing document with
  | nil => rfl
  | cons segment segments ih =>
      rw [List.cons_append, followSegments?, followSegments?]
      cases document.child? segment with
      | none => rfl
      | some child => exact ih child

end Criteria

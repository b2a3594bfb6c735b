/-
JSON texts are read back to the trees that they were written from.

* `Written.WellFormed`: trees whose numbers and strings have a spelling;
* `Written.Reads`: a tree is read from its text at any level, within a bound of two
  steps for each character; `Written.reads_array` and `Written.reads_object` say so
  of a tree whose parts are read;
* `Written.read?_pretty`: a tree with a spelling is read back from its whole text.
-/
import Criteria.Proofs.Json.Spelling

namespace Criteria

lemma skipBlanks_cons {c : Char} (h : isBlank c = false) (cs : List Char) :
    skipBlanks (c :: cs) = c :: cs := by
  simp [skipBlanks, h]

namespace Written

/-- A tree has a spelling when its numbers and strings do. -/
inductive WellFormed : Written → Prop where
  | null : WellFormed .null
  | bool (b : Bool) : WellFormed (.bool b)
  | number {n : Numeral} (h : n.WellFormed) : WellFormed (.number n)
  | string {units : List StringUnit} (h : ∀ u ∈ units, u.WellFormed) :
      WellFormed (.string units)
  | array {items : List Written} (h : ∀ item ∈ items, WellFormed item) :
      WellFormed (.array items)
  | object {members : List (List StringUnit × Written)}
      (hnames : ∀ m ∈ members, ∀ u ∈ m.1, u.WellFormed)
      (hvalues : ∀ m ∈ members, WellFormed m.2) : WellFormed (.object members)

lemma skipBlanks_newLine (level : Nat) (cs : List Char) :
    skipBlanks (newLine level ++ cs) = skipBlanks cs := by
  have hblank : ∀ c ∈ newLine level, isBlank c = true := by
    intro c hc
    obtain rfl | hc := List.mem_cons.mp hc
    · rfl
    · rw [List.eq_of_mem_replicate hc]
      rfl
  rw [skipBlanks, List.dropWhile_append_of_pos hblank, skipBlanks]

lemma ends_newLine (level : Nat) (cs : List Char) : Numeral.Ends (newLine level ++ cs) :=
  Numeral.ends_cons rfl (by decide) _

lemma ends_comma (cs : List Char) : Numeral.Ends (',' :: cs) :=
  Numeral.ends_cons rfl (by decide) cs

/-- The text of a tree starts with a character that is no blank and closes no
array. -/
lemma exists_head {t : Written} (h : t.WellFormed) (level : Nat) :
    ∃ c cs, prettyAt level t = c :: cs ∧ isBlank c = false ∧ c ≠ ']' := by
  cases h with
  | null => exact ⟨'n', _, rfl, by decide⟩
  | bool b => cases b <;> exact ⟨_, _, rfl, by decide⟩
  | number h =>
      obtain ⟨c, cs, htext, hc⟩ := Numeral.exists_head h
      refine ⟨c, cs, by rw [prettyAt, htext], ?_, hc.ne (by decide) rfl⟩
      simp [isBlank, hc.ne (e := ' ') (by decide) rfl, hc.ne (e := '\t') (by decide) rfl,
        hc.ne (e := '\n') (by decide) rfl, hc.ne (e := '\r') (by decide) rfl]
  | string h => exact ⟨'"', _, rfl, by decide⟩
  | array h =>
      rename_i items
      cases items <;> exact ⟨'[', _, rfl, by decide⟩
  | object hnames hvalues =>
      rename_i members
      cases members <;> exact ⟨'\x7b', _, rfl, by decide⟩

lemma skipBlanks_prettyAt {t : Written} (h : t.WellFormed) (level : Nat) (cs : List Char) :
    skipBlanks (prettyAt level t ++ cs) = prettyAt level t ++ cs := by
  obtain ⟨c, rest, htext, hblank, -⟩ := exists_head h level
  rw [htext]
  exact skipBlanks_cons hblank _

/-! ### Values without parts -/

/-- A tree is read from its text, within two steps for each character, in front of
a text that does not go on with a number. -/
def Reads (t : Written) : Prop :=
  ∀ (level bound : Nat) (cs : List Char), Numeral.Ends cs →
    2 * (prettyAt level t).length ≤ bound → readValue bound (prettyAt level t ++ cs) = some (t, cs)

/-- At the head of a number a number is read. -/
lemma readValue_number {c : Char} (hc : Numeral.Starts c) (bound : Nat) (cs : List Char) :
    readValue (bound + 1) (c :: cs)
      = (Numeral.read (c :: cs)).map fun found => (.number found.1, found.2) := by
  rw [readValue, if_neg (hc.ne (by decide) rfl), if_neg (hc.ne (by decide) rfl),
    if_neg (hc.ne (by decide) rfl)]
  split
  · rename_i heq
    exact absurd (List.cons.inj heq).1 (hc.ne (by decide) rfl)
  · rename_i heq
    exact absurd (List.cons.inj heq).1 (hc.ne (by decide) rfl)
  · rename_i heq
    exact absurd (List.cons.inj heq).1 (hc.ne (by decide) rfl)
  · rfl

/-- A bound that allows steps for a character allows one step more than none. -/
lemma exists_bound_succ {bound : Nat} {cs : List Char} (hcs : cs ≠ [])
    (h : 2 * cs.length ≤ bound) : ∃ b, bound = b + 1 := by
  have hlength := List.length_pos_iff.mpr hcs
  exact ⟨bound - 1, by omega⟩

lemma prettyAt_ne_nil {t : Written} (h : t.WellFormed) (level : Nat) : prettyAt level t ≠ [] := by
  obtain ⟨c, cs, htext, -⟩ := exists_head h level
  simp [htext]

lemma reads_number {n : Numeral} (h : n.WellFormed) : Reads (.number n) := by
  intro level bound cs hcs hbound
  obtain ⟨bound, rfl⟩ := exists_bound_succ (prettyAt_ne_nil (.number h) level) hbound
  obtain ⟨c, rest, htext, hc⟩ := Numeral.exists_head h
  have hread := Numeral.read_text h hcs
  rw [htext, List.cons_append] at hread
  rw [prettyAt, htext, List.cons_append, readValue_number hc, hread]
  rfl

lemma reads_string {units : List StringUnit} (h : ∀ u ∈ units, u.WellFormed) :
    Reads (.string units) := by
  intro level bound cs _ hbound
  obtain ⟨bound, rfl⟩ := exists_bound_succ (prettyAt_ne_nil (.string h) level) hbound
  simp [prettyAt, StringUnit.listText, readValue, StringUnit.read_listText h]

lemma reads_null : Reads .null := by
  intro level bound cs _ hbound
  obtain ⟨bound, rfl⟩ := exists_bound_succ (prettyAt_ne_nil .null level) hbound
  simp [prettyAt, readValue]

lemma reads_bool (b : Bool) : Reads (.bool b) := by
  intro level bound cs _ hbound
  obtain ⟨bound, rfl⟩ := exists_bound_succ (prettyAt_ne_nil (.bool b) level) hbound
  cases b <;> simp [prettyAt, readValue]

/-! ### Arrays -/

/-- After the opening bracket of an array the items are read, unless the array is
closed at once. -/
lemma readValue_array {cs : List Char} {c : Char} {rest : List Char}
    (hskip : skipBlanks cs = c :: rest) (hc : c ≠ ']') (bound : Nat) :
    readValue (bound + 1) ('[' :: cs)
      = (readItems bound (c :: rest)).map fun found => (.array found.1, found.2) := by
  rw [readValue, if_neg (by decide), if_pos rfl, hskip]
  split
  · rename_i heq
    exact absurd (List.cons.inj heq).1 hc
  · rfl

/-- The items of an array are read from their text. -/
lemma readItems_pretty (level closing : Nat) {items : List Written}
    (hformed : ∀ t ∈ items, t.WellFormed) (hreads : ∀ t ∈ items, Reads t) {item : Written}
    (hitem : Reads item) (bound : Nat) (cs : List Char)
    (hbound : 2 * ((prettyAt level item).length + (prettyItems level items).length) + 1 ≤ bound) :
    readItems bound (prettyAt level item ++ (prettyItems level items
      ++ (newLine closing ++ ']' :: cs))) = some (item :: items, cs) := by
  induction items generalizing item bound with
  | nil =>
      obtain ⟨bound, rfl⟩ : ∃ b, bound = b + 1 := ⟨bound - 1, by omega⟩
      rw [prettyItems, List.nil_append, readItems,
        hitem level bound _ (ends_newLine _ _) (by omega)]
      simp only [skipBlanks_newLine, skipBlanks_cons (show isBlank ']' = false from rfl)]
  | cons next items ih =>
      obtain ⟨bound, rfl⟩ : ∃ b, bound = b + 1 := ⟨bound - 1, by omega⟩
      obtain ⟨hnext, hformed⟩ := List.forall_mem_cons.mp hformed
      obtain ⟨hread, hreads⟩ := List.forall_mem_cons.mp hreads
      rw [prettyItems] at hbound ⊢
      simp only [List.length_append, List.length_cons] at hbound
      have hrest := ih hformed hreads hread bound (by omega)
      simp only [List.cons_append, List.append_assoc]
      rw [readItems, hitem level bound _ (ends_comma _) (by omega)]
      simp only [skipBlanks_cons (show isBlank ',' = false from rfl), skipBlanks_newLine,
        skipBlanks_prettyAt hnext, hrest]

lemma reads_array {items : List Written} (hformed : ∀ t ∈ items, t.WellFormed)
    (hreads : ∀ t ∈ items, Reads t) : Reads (.array items) := by
  intro level bound cs _ hbound
  obtain ⟨bound, rfl⟩ := exists_bound_succ (prettyAt_ne_nil (.array hformed) level) hbound
  cases items with
  | nil => simp [prettyAt, readValue, skipBlanks, isBlank]
  | cons item items =>
      obtain ⟨hitem, hformed⟩ := List.forall_mem_cons.mp hformed
      obtain ⟨hread, hreads⟩ := List.forall_mem_cons.mp hreads
      obtain ⟨c, rest, htext, -, hc⟩ := exists_head hitem (level + 1)
      rw [prettyAt] at hbound ⊢
      simp only [List.length_append, List.length_cons] at hbound
      have hitems := readItems_pretty (level + 1) level hformed hreads hread bound cs (by omega)
      have hskip : ∀ more, skipBlanks (newLine (level + 1) ++ (prettyAt (level + 1) item ++ more))
          = c :: (rest ++ more) := by
        intro more
        rw [skipBlanks_newLine, skipBlanks_prettyAt hitem, htext, List.cons_append]
      simp only [List.cons_append, List.append_assoc, List.nil_append]
      rw [readValue_array (hskip _) hc, ← List.cons_append, ← htext, hitems]
      rfl

/-! ### Objects -/

/-- After the opening brace of an object the members are read, unless the object
is closed at once. -/
lemma readValue_object {cs : List Char} {c : Char} {rest : List Char}
    (hskip : skipBlanks cs = c :: rest) (hc : c ≠ '\x7d') (bound : Nat) :
    readValue (bound + 1) ('\x7b' :: cs)
      = (readMembers bound (c :: rest)).map fun found => (.object found.1, found.2) := by
  rw [readValue, if_neg (by decide), if_neg (by decide), if_pos rfl, hskip]
  split
  · rename_i heq
    exact absurd (List.cons.inj heq).1 hc
  · rfl

/-- The text of a member of an object. -/
def memberText (level : Nat) (name : List StringUnit) (value : Written) : List Char :=
  StringUnit.listText name ++ [':', ' '] ++ prettyAt level value

/-- The name and the value of a member are read, and then what follows them. -/
lemma readMembers_memberText {name : List StringUnit} {value : Written}
    (hname : ∀ u ∈ name, u.WellFormed) (hformed : value.WellFormed) (hvalue : Reads value)
    {level bound : Nat} {cs : List Char} (hcs : Numeral.Ends cs)
    (hbound : 2 * (prettyAt level value).length ≤ bound) :
    readMembers (bound + 1) (memberText level name value ++ cs)
      = match skipBlanks cs with
        | '\x7d' :: rest => some ([(name, value)], rest)
        | ',' :: rest =>
          match readMembers bound (skipBlanks rest) with
          | some (members, rest) => some ((name, value) :: members, rest)
          | none => none
        | _ => none := by
  simp only [memberText, StringUnit.listText, List.cons_append, List.append_assoc, List.nil_append]
  rw [readMembers, StringUnit.read_listText hname]
  have hskip : skipBlanks (' ' :: (prettyAt level value ++ cs)) = prettyAt level value ++ cs :=
    skipBlanks_prettyAt hformed level cs
  simp only [skipBlanks_cons (show isBlank ':' = false from rfl)]
  rewrite [hskip, hvalue level bound cs hcs hbound]
  rfl

/-- The members of an object are read from their text. -/
lemma readMembers_pretty (level closing : Nat) {members : List (List StringUnit × Written)}
    (hnames : ∀ m ∈ members, ∀ u ∈ m.1, u.WellFormed) (hformed : ∀ m ∈ members, m.2.WellFormed)
    (hreads : ∀ m ∈ members, Reads m.2) {name : List StringUnit} {value : Written}
    (hname : ∀ u ∈ name, u.WellFormed) (hvalue : value.WellFormed) (hread : Reads value)
    (bound : Nat) (cs : List Char)
    (hbound : 2 * ((prettyAt level value).length + (prettyMembers level members).length) + 1
      ≤ bound) :
    readMembers bound (memberText level name value ++ (prettyMembers level members
      ++ (newLine closing ++ '\x7d' :: cs))) = some ((name, value) :: members, cs) := by
  induction members generalizing name value bound with
  | nil =>
      obtain ⟨bound, rfl⟩ : ∃ b, bound = b + 1 := ⟨bound - 1, by omega⟩
      rw [prettyMembers, List.nil_append,
        readMembers_memberText hname hvalue hread (ends_newLine _ _) (by omega)]
      simp only [skipBlanks_newLine, skipBlanks_cons (show isBlank '\x7d' = false from rfl)]
  | cons next members ih =>
      obtain ⟨bound, rfl⟩ : ∃ b, bound = b + 1 := ⟨bound - 1, by omega⟩
      obtain ⟨nextName, nextValue⟩ := next
      simp only [List.forall_mem_cons] at hnames hformed hreads
      obtain ⟨hnextName, hnames⟩ := hnames
      obtain ⟨hnext, hformed⟩ := hformed
      obtain ⟨hnextRead, hreads⟩ := hreads
      have htext : prettyMembers level ((nextName, nextValue) :: members)
          = ',' :: (newLine level ++ (memberText level nextName nextValue
            ++ prettyMembers level members)) := by
        simp [prettyMembers, memberText]
      rw [htext] at hbound ⊢
      simp only [memberText, List.length_append, List.length_cons] at hbound
      have hrest := ih hnames hformed hreads hnextName hnext hnextRead bound (by omega)
      simp only [List.cons_append, List.append_assoc]
      rw [readMembers_memberText hname hvalue hread (ends_comma _) (by omega)]
      have hskip : skipBlanks (newLine level ++ (memberText level nextName nextValue
          ++ (prettyMembers level members ++ (newLine closing ++ '\x7d' :: cs))))
          = memberText level nextName nextValue
            ++ (prettyMembers level members ++ (newLine closing ++ '\x7d' :: cs)) := by
        rw [skipBlanks_newLine]
        exact skipBlanks_cons (c := '"') rfl _
      simp only [skipBlanks_cons (show isBlank ',' = false from rfl), hskip, hrest]

lemma reads_object {members : List (List StringUnit × Written)}
    (hnames : ∀ m ∈ members, ∀ u ∈ m.1, u.WellFormed) (hformed : ∀ m ∈ members, m.2.WellFormed)
    (hreads : ∀ m ∈ members, Reads m.2) : Reads (.object members) := by
  intro level bound cs _ hbound
  obtain ⟨bound, rfl⟩ := exists_bound_succ (prettyAt_ne_nil (.object hnames hformed) level) hbound
  cases members with
  | nil => simp [prettyAt, readValue, skipBlanks, isBlank]
  | cons member members =>
      obtain ⟨name, value⟩ := member
      simp only [List.forall_mem_cons] at hnames hformed hreads
      obtain ⟨hname, hnames⟩ := hnames
      obtain ⟨hvalue, hformed⟩ := hformed
      obtain ⟨hread, hreads⟩ := hreads
      rw [prettyAt] at hbound ⊢
      simp only [List.length_append, List.length_cons] at hbound
      have hmembers := readMembers_pretty (level + 1) level hnames hformed hreads hname hvalue
        hread bound cs (by omega)
      simp only [memberText, StringUnit.listText, List.cons_append, List.append_assoc,
        List.nil_append] at hmembers ⊢
      rw [readValue_object (skipBlanks_newLine _ _) (by decide), hmembers]
      rfl

/-! ### Whole texts -/

/-- A tree that has a spelling is read from its text at any level. -/
theorem WellFormed.reads {t : Written} (h : t.WellFormed) : Reads t := by
  induction h with
  | null => exact reads_null
  | bool b => exact reads_bool b
  | number h => exact reads_number h
  | string h => exact reads_string h
  | array h ih => exact reads_array h ih
  | object hnames hvalues ih => exact reads_object hnames hvalues ih

/-- **The text of a tree.** A tree that has a spelling is read back from it. -/
theorem read?_pretty {t : Written} (h : t.WellFormed) : read? t.pretty = some t := by
  have hread := h.reads 0 (2 * (prettyAt 0 t).length + 1) [] (by simp [Numeral.Ends])
    (by omega)
  have hskip := skipBlanks_prettyAt h 0 []
  rw [List.append_nil] at hread hskip
  rw [read?, pretty, String.toList_ofList, hskip, hread]
  rfl

end Written

end Criteria

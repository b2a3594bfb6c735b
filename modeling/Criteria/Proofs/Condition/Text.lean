/-
Conditions in words can be read in one way only, up to junctions of one child.

* `Condition.toList_text_leaf`, `Condition.text_join`: the words of a leaf and of a
  junction;
* `Condition.Legible`: trees without an empty junction whose storage names and
  lookups are words;
* `Condition.collapsed`: the tree with each only child in the place of its
  junction, and `Condition.text_collapsed`: it has the same words;
* `Condition.Alike`: trees of one shape that agree leaf by leaf in words, and
  `Condition.Forked.text_eq`: they have the same words;
* `Condition.Forked.delimits`: the words of trees whose junctions have at least
  two children are told from each other in front of stops;
* `Condition.text_eq_iff`: so two legible trees have the same words exactly when
  they are alike once they are collapsed.
-/
import Criteria.Condition.Text
import Criteria.Proofs.Condition.Reading
import Criteria.Proofs.Field.Text

namespace Criteria

/-! ### The words of a tree -/

namespace Junction

/-- What stands between the children of a junction. -/
def operator : Junction → String
  | all => " AND "
  | any => " OR "

/-- What stands between the children, behind its first blank. -/
def operatorTail : Junction → List Char
  | all => ['A', 'N', 'D', ' ']
  | any => ['O', 'R', ' ']

lemma toList_operator (j : Junction) : j.operator.toList = ' ' :: j.operatorTail := by
  cases j <;> rfl

/-- A junction is told by what stands between its children. -/
lemma eq_of_operatorTail_append {j j' : Junction} {cs cs' : List Char}
    (h : j.operatorTail ++ cs = j'.operatorTail ++ cs') : j = j' := by
  cases j <;> cases j' <;> simp_all [operatorTail]

end Junction

namespace Condition

lemma toList_text_leaf (l : Leaf) :
    (leaf l).text.toList
      = l.field.storage.toList ++ ' ' :: (l.lookup.toList ++ ' ' :: l.value.text.toList) := by
  have htext : (leaf l).text = l.field.storage ++ " " ++ l.lookup ++ " " ++ l.value.text := rfl
  simp [htext]

/-- The words of a leaf are those of its parts. -/
lemma text_leaf_congr {l l' : Leaf} (hstorage : l.field.storage = l'.field.storage)
    (hlookup : l.lookup = l'.lookup) (hvalue : l.value.text = l'.value.text) :
    (leaf l).text = (leaf l').text := by
  have htext : (leaf l).text.toList = (leaf l').text.toList := by
    rw [toList_text_leaf, toList_text_leaf, hstorage, hlookup, hvalue]
  exact String.toList_inj.mp htext

lemma predicates_explain (cs : List Condition) : predicates explain cs = cs.map text := by
  induction cs with
  | nil => rfl
  | cons c cs ih =>
      rw [predicates, ih]
      rfl

lemma text_join (j : Junction) (children : List Condition) :
    (j.join children).text = joinText j.operator (children.map text) := by
  rw [← predicates_explain]
  cases j <;> rfl

/-- The words of a junction are those of its children. -/
lemma text_join_congr (j : Junction) {children children' : List Condition}
    (h : children.map text = children'.map text) :
    (j.join children).text = (j.join children').text := by
  rw [text_join, text_join, h]

/-- Several children stand between brackets. -/
lemma toList_text_join (j : Junction) {children : List Condition} (h : 2 ≤ children.length) :
    (j.join children).text.toList
      = '(' :: ((' ' :: j.operatorTail).intercalate (children.map fun c => c.text.toList)
          ++ [')']) := by
  obtain ⟨c, c', cs, rfl⟩ : ∃ c c' cs, children = c :: c' :: cs := by
    match children, h with
    | c :: c' :: cs, _ => exact ⟨c, c', cs, rfl⟩
  rw [text_join, List.map_cons, List.map_cons, joinText, ← List.map_cons, ← List.map_cons,
    String.toList_append, String.toList_append, String.toList_intercalate, List.map_map,
    Junction.toList_operator]
  · rfl
  · intro child hchild
    cases hchild

end Condition

/-! ### Legible trees -/

/-- A bare word: no blank and no parenthesis. -/
def IsBareWord (s : String) : Prop := ∀ c ∈ s.toList, c ≠ ' ' ∧ c ≠ '(' ∧ c ≠ ')'

instance (s : String) : Decidable (IsBareWord s) := List.decidableBAll _ s.toList

/-- The name in storage and the lookup are words. -/
structure Leaf.IsWordy (l : Leaf) : Prop where
  storage : IsBareWord l.field.storage
  lookup : IsBareWord l.lookup

namespace Condition

/-- No junction is empty, and the names in storage and the lookups are words. -/
inductive Legible : Condition → Prop
  | leaf {l : Leaf} : l.IsWordy → Legible (.leaf l)
  | join (j : Junction) {children : List Condition} :
      children ≠ [] → (∀ c ∈ children, Legible c) → Legible (j.join children)

/-- Every junction has at least two children, and the names in storage and the
lookups are words. -/
inductive Forked : Condition → Prop
  | leaf {l : Leaf} : l.IsWordy → Forked (.leaf l)
  | join (j : Junction) {children : List Condition} :
      2 ≤ children.length → (∀ c ∈ children, Forked c) → Forked (j.join children)

end Condition

/-- The node over a list of children, an only child instead of its junction. -/
def Junction.collapse (j : Junction) : List Condition → Condition
  | [c] => c
  | children => j.join children

namespace Condition

mutual

/-- The tree with each only child in the place of its junction. -/
def collapsed : Condition → Condition
  | all children => Junction.all.collapse (collapsedList children)
  | any children => Junction.any.collapse (collapsedList children)
  | leaf l => leaf l

/-- Several trees with each only child in the place of its junction. -/
def collapsedList : List Condition → List Condition
  | [] => []
  | c :: cs => collapsed c :: collapsedList cs

end

lemma collapsedList_eq_map (cs : List Condition) : collapsedList cs = cs.map collapsed := by
  induction cs with
  | nil => rfl
  | cons c cs ih => rw [collapsedList, ih, List.map_cons]

lemma collapsed_join (j : Junction) (children : List Condition) :
    (j.join children).collapsed = j.collapse (children.map collapsed) := by
  cases j <;> rw [Junction.join, collapsed, collapsedList_eq_map]

lemma text_collapse (j : Junction) (children : List Condition) :
    (j.collapse children).text = joinText j.operator (children.map text) := by
  match children with
  | [] => exact text_join j []
  | [c] => rfl
  | c :: c' :: cs => exact text_join j (c :: c' :: cs)

mutual

/-- A tree has the same words once it is collapsed. -/
theorem text_collapsed : ∀ c : Condition, c.collapsed.text = c.text
  | all children => by
      rw [collapsed, text_collapse, text_collapsedList]
      exact (text_join .all children).symm
  | any children => by
      rw [collapsed, text_collapse, text_collapsedList]
      exact (text_join .any children).symm
  | leaf _ => rfl

lemma text_collapsedList : ∀ cs : List Condition, (collapsedList cs).map text = cs.map text
  | [] => rfl
  | c :: cs => by
      rw [collapsedList, List.map_cons, List.map_cons, text_collapsed c, text_collapsedList cs]

end

/-- A legible tree is forked once it is collapsed. -/
lemma Legible.forked_collapsed {c : Condition} (h : c.Legible) : c.collapsed.Forked := by
  induction h with
  | leaf hl => exact .leaf hl
  | @join j children hne _ ih =>
      rw [collapsed_join]
      have hall : ∀ c ∈ children.map collapsed, c.Forked := List.forall_mem_map.mpr ih
      match hchildren : children.map collapsed with
      | [] => exact absurd (List.map_eq_nil_iff.mp hchildren) hne
      | [c] =>
          rw [hchildren] at hall
          exact hall c (by simp)
      | c :: c' :: cs =>
          rw [hchildren] at hall
          exact .join j (by simp) hall

/-! ### Trees that are alike -/

/-- Trees of one shape that agree leaf by leaf on the name in storage, the lookup
and the text of the value. -/
inductive Alike : Condition → Condition → Prop
  | leaf {l l' : Leaf} : l.field.storage = l'.field.storage → l.lookup = l'.lookup →
      l.value.text = l'.value.text → Alike (.leaf l) (.leaf l')
  | all {children children' : List Condition} :
      List.Forall₂ Alike children children' → Alike (.all children) (.all children')
  | any {children children' : List Condition} :
      List.Forall₂ Alike children children' → Alike (.any children) (.any children')

lemma Alike.join (j : Junction) {children children' : List Condition}
    (h : List.Forall₂ Alike children children') : Alike (j.join children) (j.join children') := by
  cases j with
  | all => exact .all h
  | any => exact .any h

lemma Alike.exists_of_join {j : Junction} {children : List Condition} {c' : Condition}
    (h : Alike (j.join children) c') :
    ∃ children', c' = j.join children' ∧ List.Forall₂ Alike children children' := by
  cases j with
  | all =>
      cases h with
      | all hchildren => exact ⟨_, rfl, hchildren⟩
  | any =>
      cases h with
      | any hchildren => exact ⟨_, rfl, hchildren⟩

/-- Trees that are alike have the same words. -/
lemma Forked.text_eq {c : Condition} (hc : c.Forked) :
    ∀ {c' : Condition}, Alike c c' → c.text = c'.text := by
  induction hc with
  | leaf _ =>
      intro c' h
      cases h with
      | leaf hstorage hlookup hvalue => exact text_leaf_congr hstorage hlookup hvalue
  | @join j children _ _ ih =>
      intro c' h
      obtain ⟨children', rfl, hchildren⟩ := h.exists_of_join
      have htexts : List.Forall₂ (fun c c' => c.text = c'.text) children children' :=
        ((List.forall₂_and_left _ _).mpr ⟨ih, hchildren⟩).imp fun c c' h => h.1 h.2
      exact text_join_congr j (map_eq_of_forall₂ htexts)

/-! ### Reading the words back -/

/-- Leaves of words are told from each other in front of stops. -/
lemma leaf_delimits {l l' : Leaf} (hl : l.IsWordy) (hl' : l'.IsWordy) {rest rest' : List Char}
    (hrest : Stops rest) (hrest' : Stops rest')
    (h : (leaf l).text.toList ++ rest = (leaf l').text.toList ++ rest') :
    Alike (leaf l) (leaf l') ∧ rest = rest' := by
  have hword : ∀ {s : String}, IsBareWord s → ∀ c ∈ s.toList, (c == ' ') = false :=
    fun hs c hc => beq_false_of_ne (hs c hc).1
  have hblank : ∀ cs : List Char, ∀ c, (' ' :: cs).head? = some c → (c == ' ') = true := by
    intro cs c hc
    rw [← Option.some.inj hc]
    decide
  simp only [toList_text_leaf, List.append_assoc, List.cons_append] at h
  obtain ⟨hstorage, h⟩ := eq_of_append_eq (hword hl.storage) (hword hl'.storage) (hblank _)
    (hblank _) h
  obtain ⟨hlookup, h⟩ := eq_of_append_eq (hword hl.lookup) (hword hl'.lookup) (hblank _)
    (hblank _) (List.cons.inj h).2
  obtain ⟨hvalue, hrest⟩ := l.value.delimits trivial hrest hrest' (List.cons.inj h).2
  exact ⟨.leaf (String.toList_inj.mp hstorage) (String.toList_inj.mp hlookup) hvalue, hrest⟩

/-- A leaf of words does not start with a bracket. -/
lemma text_leaf_append_ne_join {l : Leaf} (hl : l.IsWordy) (j : Junction)
    {children : List Condition} (hlength : 2 ≤ children.length) (rest rest' : List Char) :
    (leaf l).text.toList ++ rest ≠ (j.join children).text.toList ++ rest' := by
  intro h
  rw [toList_text_leaf, toList_text_join j hlength] at h
  cases hstorage : l.field.storage.toList with
  | nil =>
      rw [hstorage] at h
      exact absurd (List.cons.inj h).1 (by decide)
  | cons c cs =>
      rw [hstorage] at h
      exact (hl.storage c (by simp [hstorage])).2.1 (List.cons.inj h).1

/-- Junctions of trees that are told apart are told apart themselves: the first
child is read first, then what stands behind it tells the kind. -/
lemma join_delimits {j j' : Junction} {children children' : List Condition}
    (hlength : 2 ≤ children.length) (hlength' : 2 ≤ children'.length)
    (hchildren : ∀ c ∈ children, Delimits (fun c => c.text.toList) Forked Alike c)
    (hchildren' : ∀ c ∈ children', Forked c) {rest rest' : List Char}
    (h : (j.join children).text.toList ++ rest = (j'.join children').text.toList ++ rest') :
    Alike (j.join children) (j'.join children') ∧ rest = rest' := by
  rw [toList_text_join j hlength, toList_text_join j' hlength', List.cons_append,
    List.cons_append, List.cons.injEq] at h
  match children, children', hlength, hlength' with
  | c :: d :: cs, c' :: d' :: cs', _, _ =>
      obtain ⟨-, h⟩ := h
      rw [intercalate_cons_eq_flatMap, intercalate_cons_eq_flatMap] at h
      simp only [List.append_assoc, List.singleton_append] at h
      obtain ⟨hfirst, h⟩ := hchildren c (by simp) (hchildren' c' (by simp))
        (Delimits.stops_flatMap (by decide) (by decide) _ _)
        (Delimits.stops_flatMap (by decide) (by decide) _ _) h
      have hj : j = j' := by
        simp only [List.flatMap_cons, List.cons_append, List.append_assoc, List.cons.injEq,
          true_and] at h
        exact Junction.eq_of_operatorTail_append h
      subst hj
      obtain ⟨hothers, hrest⟩ := Delimits.flatMap (by decide) (by decide) (by decide)
        (fun e he => hchildren e (List.mem_cons_of_mem c he))
        (fun e he => hchildren' e (List.mem_cons_of_mem c' he)) h
      exact ⟨.join j (.cons hfirst hothers), hrest⟩

/-- Forked trees are told from each other by their words, in front of stops. -/
theorem Forked.delimits {c : Condition} (hc : c.Forked) :
    Delimits (fun c => c.text.toList) Forked Alike c := by
  induction hc with
  | leaf hl =>
      intro c' rest rest' hc' hrest hrest' h
      cases hc' with
      | leaf hl' => exact leaf_delimits hl hl' hrest hrest' h
      | join j hlength _ => exact absurd h (text_leaf_append_ne_join hl j hlength rest rest')
  | join j hlength _ ih =>
      intro c' rest rest' hc' hrest hrest' h
      cases hc' with
      | leaf hl => exact absurd h.symm (text_leaf_append_ne_join hl j hlength rest' rest)
      | join j' hlength' hall' => exact join_delimits hlength hlength' ih hall' h

/-- **The words of a tree can be read in one way only.** Two trees without empty
junctions, whose names in storage and lookups are words, have the same words
exactly when they are alike once each only child has taken the place of its
junction. -/
theorem text_eq_iff {c c' : Condition} (hc : c.Legible) (hc' : c'.Legible) :
    c.text = c'.text ↔ Alike c.collapsed c'.collapsed := by
  constructor
  · intro h
    have htext : c.collapsed.text.toList ++ [] = c'.collapsed.text.toList ++ [] := by
      rw [text_collapsed, text_collapsed, h]
    exact (hc.forked_collapsed.delimits hc'.forked_collapsed stops_nil stops_nil htext).1
  · intro h
    rw [← text_collapsed c, ← text_collapsed c']
    exact hc.forked_collapsed.text_eq h

end Condition

/-- A leaf on a name. -/
def Leaf.named (lookup : String) (value : Prepared) : Leaf :=
  ⟨.ofKind "name" .string, lookup, value⟩

namespace Condition

lemma legible_named {lookup : String} (h : IsBareWord lookup) (value : Prepared) :
    (leaf (.named lookup value)).Legible := by
  have hname : IsBareWord "name" := by decide
  exact .leaf ⟨hname, h⟩

/-- A list of names with marks of their own. -/
def markedNames : Prepared := .many [.string "] OR (", .string ", \""]

/-- A name with what stands between two leaves, as the only child of a
conjunction, or one of a list. -/
def namesSample : Condition :=
  .any [.all [.leaf (.named "exact" (.single (.string "a\" OR name exact \"b")))],
    .leaf (.named "in" markedNames)]

/-- The same with the only child in the place of the conjunction. -/
def namesSampleCollapsed : Condition :=
  .any [.leaf (.named "exact" (.single (.string "a\" OR name exact \"b"))),
    .leaf (.named "in" markedNames)]

/-- Two names in the place of the first one. -/
def namesSampleSplit : Condition :=
  .any [.leaf (.named "exact" (.single (.string "a"))),
    .leaf (.named "exact" (.single (.string "b"))), .leaf (.named "in" markedNames)]

/-- An only child makes no difference to the words; a name that holds the words
between two leaves is not taken for two. -/
theorem text_eq_iff_namesSample :
    namesSample.text = namesSampleCollapsed.text ∧ namesSample.text ≠ namesSampleSplit.text := by
  have hexact : IsBareWord "exact" := by decide
  have hin : IsBareWord "in" := by decide
  have hfirst : namesSample.Legible := by
    refine .join .any (by simp) (List.forall_mem_cons.mpr ⟨?_, ?_⟩)
    · exact .join .all (by simp) (List.forall_mem_singleton.mpr (legible_named hexact _))
    · exact List.forall_mem_singleton.mpr (legible_named hin _)
  have hcollapsed : namesSampleCollapsed.Legible :=
    .join .any (by simp) (List.forall_mem_cons.mpr
      ⟨legible_named hexact _, List.forall_mem_singleton.mpr (legible_named hin _)⟩)
  have hsplit : namesSampleSplit.Legible :=
    .join .any (by simp) (List.forall_mem_cons.mpr ⟨legible_named hexact _,
      List.forall_mem_cons.mpr ⟨legible_named hexact _,
        List.forall_mem_singleton.mpr (legible_named hin _)⟩⟩)
  refine ⟨(text_eq_iff hfirst hcollapsed).mpr ?_, mt (text_eq_iff hfirst hsplit).mp ?_⟩
  · exact .any (.cons (.leaf rfl rfl rfl) (.cons (.leaf rfl rfl rfl) .nil))
  · intro h
    cases h with
    | any hchildren => exact absurd hchildren.length_eq (by decide)

end Condition

end Criteria

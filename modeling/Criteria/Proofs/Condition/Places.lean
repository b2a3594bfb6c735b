/-
Where the nodes of a document stand.

* `Pointer.ofIndices`, `Pointer.indices`: the pointer through lists of
  conditions that a sequence of indices names, and the sequence back;
* `Json.Reaches`: the nodes that a document holds, each with the indices that
  lead to it; `Json.follow?_of_reaches` finds the node at its pointer;
* `Diagnostic.path_under`: a diagnostic seen from the list that holds its node
  has `/conditions/` and the index in front of its path.
-/
import Criteria.Proofs.Condition.Reading
import Criteria.Proofs.Json.Pointer

namespace Criteria

namespace Pointer

/-- The pointer that goes through one list of conditions for each index. -/
def ofIndices (indices : List Nat) : Pointer :=
  ⟨indices.flatMap fun i => ["conditions", toString i]⟩

/-- The indices among the segments of a pointer. -/
def indices (p : Pointer) : List Nat := p.segments.filterMap index?

@[simp] lemma ofIndices_nil : ofIndices [] = root := rfl

lemma segments_ofIndices_cons (i : Nat) (is : List Nat) :
    (ofIndices (i :: is)).segments
      = ["conditions", toString i] ++ (ofIndices is).segments := rfl

lemma under_ofIndices (i : Nat) (is : List Nat) :
    (ofIndices is).under ["conditions", toString i] = ofIndices (i :: is) := rfl

/-- The word between two indices is not an index itself. -/
@[simp] lemma indices_under (p : Pointer) (i : Nat) :
    (p.under ["conditions", toString i]).indices = i :: p.indices := by
  have hword : index? "conditions" = none := rfl
  simp only [indices, under, List.cons_append, List.nil_append,
    List.filterMap_cons_none hword, List.filterMap_cons_some (index?_toString i)]

/-- A sequence of indices is found in its pointer. -/
@[simp] lemma indices_ofIndices (is : List Nat) : (ofIndices is).indices = is := by
  induction is with
  | nil => rfl
  | cons i is ih => rw [← under_ofIndices, indices_under, ih]

/-! ### Written places -/

/-- Digits are written as they are. -/
lemma flatMap_escapeChar_of_isDigit {cs : List Char} (h : ∀ c ∈ cs, c.isDigit) :
    cs.flatMap escapeChar = cs := by
  induction cs with
  | nil => rfl
  | cons c cs ih =>
      obtain ⟨hc, hcs⟩ := List.forall_mem_cons.mp h
      have htilde : c ≠ '~' := by rintro rfl; exact absurd hc (by decide)
      have hslash : c ≠ '/' := by rintro rfl; exact absurd hc (by decide)
      simp [escapeChar, htilde, hslash, ih hcs]

lemma escape_toString (i : Nat) : escape (toString i) = toString i := by
  have hdigits : ∀ c ∈ Nat.toDigits 10 i, c.isDigit := fun c hc =>
    Nat.isDigit_of_mem_toDigits (by decide) (by decide) hc
  rw [escape, Nat.toString_eq_ofList_toDigits, String.toList_ofList,
    flatMap_escapeChar_of_isDigit hdigits]

end Pointer

/-- A diagnostic seen from the list that holds its node has `/conditions/` and
the index in front of its path. -/
lemma Diagnostic.path_under (d : Diagnostic) (i : Nat) :
    (d.under ["conditions", toString i]).path = "/conditions/" ++ toString i ++ d.path := by
  have hword : Pointer.escape "conditions" = "conditions" := by decide
  simp only [path, under, Pointer.under, Pointer.text, Pointer.segmentsText_append,
    Pointer.segmentsText, Pointer.escape_toString, hword, String.append_empty]
  simp [← String.append_assoc]

namespace Json

/-- The nodes of a document: the document itself, and the nodes of its items
when it is a junction. The indices lead from the document to the node. -/
inductive Reaches : Json → List Nat → Json → Prop
  | here (document : Json) : Reaches document [] document
  | item {document item node : Json} {j : Junction} {items : List Json} {i : Nat}
      {is : List Nat} :
      document.IsJunction j items → items[i]? = some item → Reaches item is node →
      Reaches document (i :: is) node

/-- A node is found at its pointer. -/
theorem follow?_of_reaches {document node : Json} {is : List Nat}
    (h : document.Reaches is node) : document.follow? (.ofIndices is) = some node := by
  induction h with
  | here document => rfl
  | @item document item node j items i is hj hitem _ ih =>
      have hlist : document.followSegments? ["conditions", toString i] = some item := by
        obtain ⟨body, rfl⟩ := exists_obj_of_get? hj.kind_eq
        have hmember : findMember "conditions" body = some (.arr items) := hj.conditions_eq
        simp only [followSegments?, child?, hmember, Pointer.index?_toString, Option.bind_some,
          hitem]
      rw [follow?, Pointer.segments_ofIndices_cons, followSegments?_append, hlist]
      exact ih

end Json

end Criteria

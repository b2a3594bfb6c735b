/-
What the diagnostics of a refused document say about it.

* `Registry.lookup_of_reading_error`: a node that is rejected for a field looks
  up that field;
* `Diagnostic.Precedes`: one diagnostic stands before another in the document,
  and neither is at the node of the other or below it;
* `Registry.pairwise_precedes_faults`: diagnostics come in the order of the
  document, on nodes that do not contain one another;
* `Engine.diagnostics_lead_to_nodes`: each diagnostic of the standard engine leads to
  the node that it is about, and would be the only one if that node stood
  alone.
-/
import Criteria.Proofs.Condition.Diagnostics

namespace Criteria

/-! ### Rejections for a field -/

namespace Body

variable {r : Registry} {rejection : Rejection} {name : String}

lemma field_of_leafOf_error {field lookup : String} {value : Json}
    (h : leafOf r field lookup value = .error rejection) (hname : rejection.field? = some name) :
    field = name := by
  rw [leafOf] at h
  split at h
  · obtain rfl := Except.error.inj h
    exact Option.some.inj hname
  · rename_i f hf
    split at h
    · exact absurd h (by simp)
    · rename_i e he
      obtain rfl := Except.error.inj h
      rw [← (Registry.get?_eq_some_iff.mp hf).2, ← Field.field_of_validate_error he]
      exact Option.some.inj hname

lemma field_of_leaf_error {body : Body} (h : leaf body r = .error rejection)
    (hname : rejection.field? = some name) : body.text? "field" = some name := by
  rw [leaf] at h
  split at h
  · rename_i field hfield
    split at h
    · rw [hfield, field_of_leafOf_error h hname]
    · obtain rfl := Except.error.inj h
      exact absurd hname (by simp [Rejection.field?])
  · obtain rfl := Except.error.inj h
    exact absurd hname (by simp [Rejection.field?])

lemma field?_of_conditions_error {body : Body} (h : conditions body = .error rejection) :
    rejection.field? = none := by
  rw [conditions] at h
  split at h
  · exact absurd h (by simp)
  · exact Except.error.inj h ▸ rfl

end Body

/-- A node that is rejected for a field looks up that field. -/
theorem Registry.lookup_of_reading_error {r : Registry} {document : Json}
    {rejection : Rejection} {name : String} (h : r.reading document = .error rejection)
    (hname : rejection.field? = some name) :
    document.get? kindKey = some (.str "lookup") ∧ document.get? "field" = some (.str name) := by
  obtain ⟨body, j, -, -, hread⟩ | ⟨body, rfl, hkind, hread⟩ | ⟨rejection', hread, hnone⟩ :=
    r.reading_cases document
  · rw [hread, except_map_eq_error_iff] at h
    have hnone := Body.field?_of_conditions_error h
    exact absurd (hname.symm.trans hnone) (by simp)
  · rw [hread, except_map_eq_error_iff] at h
    have hfield := Body.field_of_leaf_error h hname
    exact ⟨Body.text?_eq_some_iff.mp hkind, Body.text?_eq_some_iff.mp hfield⟩
  · obtain rfl := Except.error.inj (hread.symm.trans h)
    exact absurd (hname.symm.trans hnone) (by simp)

/-! ### The order of diagnostics -/

/-- One diagnostic stands before another: its indices come first in
lexicographic order, and neither node contains the other. -/
structure Diagnostic.Precedes (d d' : Diagnostic) : Prop where
  not_prefix : ¬ d.location.segments <+: d'.location.segments
  not_prefix' : ¬ d'.location.segments <+: d.location.segments
  indices_lt : d.location.indices < d'.location.indices

namespace Diagnostic

lemma indices_under (d : Diagnostic) (i : Nat) :
    (d.under ["conditions", toString i]).location.indices = i :: d.location.indices :=
  Pointer.indices_under d.location i

/-- The order is the same seen from further up. -/
lemma Precedes.under {d d' : Diagnostic} (h : d.Precedes d') (i : Nat) :
    (d.under ["conditions", toString i]).Precedes (d'.under ["conditions", toString i]) := by
  refine ⟨?_, ?_, ?_⟩
  · simpa using h.not_prefix
  · simpa using h.not_prefix'
  · rw [indices_under, indices_under]
    exact List.Lex.cons h.indices_lt

/-- Diagnostics below different indices are in the order of the indices. -/
lemma precedes_of_lt {i k : Nat} (h : i < k) (d d' : Diagnostic) :
    (d.under ["conditions", toString i]).Precedes (d'.under ["conditions", toString k]) := by
  refine ⟨fun hprefix => ?_, fun hprefix => ?_, ?_⟩
  · have := Registry.index_eq_of_below hprefix
    omega
  · have := Registry.index_eq_of_below hprefix
    omega
  · rw [indices_under, indices_under]
    exact List.Lex.rel h

end Diagnostic

/-- The faults of several items are in order when those of each item are. -/
lemma pairwise_precedes_itemFaults {faults : Json → List Diagnostic} {items : List Json}
    (h : ∀ item ∈ items, (faults item).Pairwise Diagnostic.Precedes) (index : Nat) :
    (itemFaults faults index items).Pairwise Diagnostic.Precedes := by
  induction items generalizing index with
  | nil => simp
  | cons item items ih =>
      rw [itemFaults_cons, List.pairwise_append]
      refine ⟨?_, ih (fun other hother => h other (by simp [hother])) (index + 1), ?_⟩
      · rw [List.pairwise_map]
        exact (h item (by simp)).imp fun hprecedes => hprecedes.under index
      · intro d hd d' hd'
        obtain ⟨d, -, rfl⟩ := List.mem_map.mp hd
        obtain ⟨i, -, -, d', -, rfl⟩ := mem_itemFaults.mp hd'
        exact Diagnostic.precedes_of_lt (by omega) d d'

/-- The faults of a document come in its order. -/
theorem Registry.pairwise_precedes_faults (r : Registry) (document : Json) :
    (r.verdict document).faults.Pairwise Diagnostic.Precedes := by
  induction document using Json.junction_induct with
  | _ document ih =>
      by_cases hjunction : ∃ j items, document.IsJunction j items
      · obtain ⟨j, items, hj⟩ := hjunction
        rw [faults_of_isJunction hj]
        exact pairwise_precedes_itemFaults (ih j items hj) 0
      · rcases faults_of_not_isJunction (r := r) hjunction with hnil | ⟨rejection, hread⟩
        · simp [hnil]
        · simp [faults_of_reading_error hread]

/-- **Diagnostics lead to their nodes.** When the standard engine refuses a
document, the written path of each diagnostic, read as a pointer, leads to a
node of the document. That node alone is refused for the same reason and no
other, and a diagnostic about a field is at a lookup of that field. No path is
that of another diagnostic or of a node above it, and the diagnostics are in the
order of the document. -/
theorem Engine.diagnostics_lead_to_nodes (r : Registry) (document : Json) (refusal : Refusal)
    (h : (Engine.standard r).resolve document = some (.error refusal)) :
    (∀ d ∈ refusal.diagnostics,
      Pointer.ofText? d.path = some d.location ∧ d.location = .ofIndices d.location.indices ∧
      ∃ node, document.follow? d.location = some node ∧
        (Engine.standard r).resolve node = some (.error ⟨[⟨.root, d.rejection⟩]⟩) ∧
        ∀ name, d.field? = some name →
          node.get? kindKey = some (.str "lookup") ∧ node.get? "field" = some (.str name)) ∧
    refusal.diagnostics.Pairwise fun d d' =>
      ¬ d.location.segments <+: d'.location.segments ∧
      ¬ d'.location.segments <+: d.location.segments ∧
      d.location.indices < d'.location.indices := by
  obtain ⟨-, hdiagnostics⟩ := resolve_standard_eq_error_iff.mp h
  rw [hdiagnostics]
  constructor
  · intro d hd
    obtain ⟨is, node, hreach, hread, hlocation⟩ := Registry.exists_reaches_of_mem_faults hd
    have hfault := Registry.faults_of_reading_error hread
    refine ⟨Pointer.ofText?_text d.location, by rw [hlocation, Pointer.indices_ofIndices], node,
      hlocation ▸ Json.follow?_of_reaches hreach, ?_, fun name hname =>
      Registry.lookup_of_reading_error hread hname⟩
    exact resolve_standard_eq_error_iff.mpr ⟨by simp [hfault], hfault.symm⟩
  · exact (r.pairwise_precedes_faults document).imp fun hprecedes =>
      ⟨hprecedes.not_prefix, hprecedes.not_prefix', hprecedes.indices_lt⟩

/-- The refused lookup of the sample is found at the path of its diagnostic. -/
theorem Engine.diagnostics_lead_to_nodes_faultySample :
    Pointer.ofText? "/conditions/0" = some ⟨["conditions", "0"]⟩ ∧
    (∃ node, Json.faultySample.follow? ⟨["conditions", "0"]⟩ = some node ∧
      (Engine.standard .empty).resolve node
        = some (.error ⟨[⟨.root, .unknownField "colour"⟩]⟩) ∧
      node.get? "field" = some (.str "colour")) ∧
    [0] < [1, 0] := by
  have h := diagnostics_lead_to_nodes .empty .faultySample
    ⟨[⟨⟨["conditions", "0"]⟩, .unknownField "colour"⟩,
      ⟨⟨["conditions", "1", "conditions", "0"]⟩, .notAnObject⟩]⟩ rfl
  obtain ⟨htext, -, node, hnode, halone, hlookup⟩ := h.1 _ (.head _)
  have horder := List.rel_of_pairwise_cons h.2 (.head _)
  exact ⟨htext, ⟨node, hnode, halone, (hlookup "colour" rfl).2⟩, horder.2.2⟩

end Criteria

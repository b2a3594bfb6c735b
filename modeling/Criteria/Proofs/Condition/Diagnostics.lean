/-
The diagnostics of a document.

* `Engine.diagnostics`: the diagnostics of a document, none when it resolves;
* `Registry.faults_of_isJunction`, `Registry.faults_of_not_isJunction`: those of
  a junction are those of its items, and any other node has at most one;
* `Registry.filter_faults_of_reaches`, `Registry.exists_reaches_of_mem_faults`:
  so a document has at each of its nodes exactly the diagnostics of that node,
  and none elsewhere;
* `Engine.diagnostics_compositional`: all of this for the standard engine.
-/
import Criteria.Proofs.Condition.Places
import Criteria.Proofs.Condition.Verdict

namespace Criteria

/-- The diagnostics of a document, none when it resolves to a condition. -/
def Engine.diagnostics (e : Engine) (document : Json) : List Diagnostic :=
  match e.resolve document with
  | some (.error refusal) => refusal.diagnostics
  | _ => []

/-- The diagnostics of a document are the faults of its verdict. -/
lemma Engine.diagnostics_standard_eq (r : Registry) (document : Json) :
    (Engine.standard r).diagnostics document = (r.verdict document).faults := by
  rw [diagnostics, resolve_standard_eq]
  cases hfound : (r.verdict document).found with
  | some c => exact (Registry.faults_eq_nil_of_found hfound).symm
  | none => rfl

/-! ### The faults of a node -/

namespace Registry

variable {r : Registry} {document node : Json}

/-- The faults of a junction are those of its items, one item after the
other. -/
lemma faults_of_isJunction {j : Junction} {items : List Json} (h : document.IsJunction j items) :
    (r.verdict document).faults = itemFaults (fun item => (r.verdict item).faults) 0 items := by
  rw [verdict_eq, reading_eq_junction_iff.mpr h]
  rfl

/-- A rejected node has one fault, at the node itself. -/
lemma faults_of_reading_error {rejection : Rejection} (h : r.reading document = .error rejection) :
    (r.verdict document).faults = [⟨.root, rejection⟩] := by
  rw [verdict_eq, h]
  rfl

/-- A node that is no junction has no fault, or is rejected. -/
lemma faults_of_not_isJunction (h : ¬ ∃ j items, document.IsJunction j items) :
    (r.verdict document).faults = [] ∨ ∃ rejection, r.reading document = .error rejection := by
  cases hread : r.reading document with
  | error rejection => exact .inr ⟨rejection, rfl⟩
  | ok reading =>
      cases reading with
      | leaf l => exact .inl (by rw [verdict_eq, hread]; rfl)
      | junction j items => exact absurd ⟨j, items, reading_eq_junction_iff.mp hread⟩ h

/-! ### The faults at the nodes of a document -/

/-- A fault below one index is not below another. -/
lemma index_eq_of_below {d : Diagnostic} {place : List String} {i k : Nat}
    (h : ["conditions", toString i] ++ place <+:
      (d.under ["conditions", toString k]).location.segments) : i = k := by
  rw [Diagnostic.segments_under] at h
  simp only [List.cons_append, List.nil_append, List.cons_prefix_cons] at h
  exact Pointer.toString_inj.mp h.2.1

/-- Of the faults of an item, those below its index and a place are those below
the place. -/
lemma filter_map_under_self (ds : List Diagnostic) (i : Nat) (place : List String) :
    (ds.map (·.under ["conditions", toString i])).filter
        (fun d => ["conditions", toString i] ++ place <+: d.location.segments)
      = (ds.filter fun d => place <+: d.location.segments).map
          (·.under ["conditions", toString i]) := by
  rw [List.filter_map]
  congr 1
  refine List.filter_congr fun d _ => ?_
  simp

/-- No fault of an item is below the index of another. -/
lemma filter_map_under_of_ne {i k : Nat} (h : i ≠ k) (ds : List Diagnostic)
    (place : List String) :
    (ds.map (·.under ["conditions", toString k])).filter
        (fun d => ["conditions", toString i] ++ place <+: d.location.segments) = [] := by
  refine List.filter_eq_nil_iff.mpr fun d hd => ?_
  obtain ⟨d', -, rfl⟩ := List.mem_map.mp hd
  rw [decide_eq_true_iff]
  exact fun hprefix => h (index_eq_of_below hprefix)

/-- No fault of several items is below an index before theirs. -/
lemma filter_itemFaults_of_lt (faults : Json → List Diagnostic) (items : List Json)
    {index i : Nat} (h : i < index) (place : List String) :
    (itemFaults faults index items).filter
        (fun d => ["conditions", toString i] ++ place <+: d.location.segments) = [] := by
  induction items generalizing index with
  | nil => rfl
  | cons item items ih =>
      have hne : i ≠ index := by omega
      have hlt : i < index + 1 := by omega
      rw [itemFaults_cons, List.filter_append, filter_map_under_of_ne hne, ih hlt, List.append_nil]

/-- Of the faults of several items, those below an index are those of its
item. -/
lemma filter_itemFaults (faults : Json → List Diagnostic) (index : Nat) {items : List Json}
    {i : Nat} {item : Json} (hitem : items[i]? = some item) (place : List String) :
    (itemFaults faults index items).filter
        (fun d => ["conditions", toString (index + i)] ++ place <+: d.location.segments)
      = ((faults item).filter fun d => place <+: d.location.segments).map
          (·.under ["conditions", toString (index + i)]) := by
  induction items generalizing index i with
  | nil => exact absurd hitem (by simp)
  | cons first items ih =>
      rw [itemFaults_cons, List.filter_append]
      cases i with
      | zero =>
          obtain rfl := Option.some.inj hitem
          have hrest := filter_itemFaults_of_lt faults items (Nat.lt_succ_self index) place
          rw [Nat.add_zero, filter_map_under_self, hrest, List.append_nil]
      | succ i =>
          have hne : index + (i + 1) ≠ index := by omega
          have hindex : index + (i + 1) = index + 1 + i := by omega
          rw [filter_map_under_of_ne hne, List.nil_append, hindex]
          exact ih (index + 1) hitem

/-- A document has at each of its nodes, and below it, exactly the faults of
that node. -/
theorem filter_faults_of_reaches {is : List Nat} (h : document.Reaches is node) :
    (r.verdict document).faults.filter
        (fun d => (Pointer.ofIndices is).segments <+: d.location.segments)
      = (r.verdict node).faults.map (·.under (Pointer.ofIndices is).segments) := by
  induction h with
  | here document => simp [Pointer.root]
  | @item document item node j items i is hj hitem _ ih =>
      have hfilter := filter_itemFaults (fun item => (r.verdict item).faults) 0 hitem
        (Pointer.ofIndices is).segments
      rw [Nat.zero_add] at hfilter
      rw [faults_of_isJunction hj, Pointer.segments_ofIndices_cons, hfilter, ih, List.map_map]
      exact List.map_congr_left fun d _ => Diagnostic.under_under d _ _

/-- A fault of a document is at one of its nodes, and is the only fault of that
node. -/
theorem exists_reaches_of_mem_faults {d : Diagnostic} (h : d ∈ (r.verdict document).faults) :
    ∃ is node, document.Reaches is node ∧ r.reading node = .error d.rejection ∧
      d.location = .ofIndices is := by
  induction document using Json.junction_induct generalizing d with
  | _ document ih =>
      by_cases hjunction : ∃ j items, document.IsJunction j items
      · obtain ⟨j, items, hj⟩ := hjunction
        rw [faults_of_isJunction hj] at h
        obtain ⟨i, item, hitem, d', hd', rfl⟩ := mem_itemFaults.mp h
        obtain ⟨is, node, hreach, hread, hlocation⟩ :=
          ih j items hj item (List.mem_of_getElem? hitem) hd'
        refine ⟨i :: is, node, .item hj hitem hreach, hread, ?_⟩
        rw [← Pointer.under_ofIndices, ← hlocation, Nat.zero_add]
        rfl
      · rcases faults_of_not_isJunction hjunction with hnil | ⟨rejection, hread⟩
        · rw [hnil] at h
          exact absurd h (by simp)
        · rw [faults_of_reading_error hread, List.mem_singleton] at h
          subst h
          exact ⟨[], document, .here document, hread, rfl⟩

end Registry

/-- **Diagnostics are those of the items.** The standard engine gives every
document an outcome. The diagnostics of a junction are those of its items, one
after the other and each below the index of its item; a document that is no
junction has at most one, at its root. So at every depth a node has exactly its
own diagnostics, and every diagnostic is the only one of a node that the
document holds. -/
theorem Engine.diagnostics_compositional (r : Registry) (document : Json) :
    (∃ outcome, (Engine.standard r).resolve document = some outcome) ∧
    (∀ j items, document.IsJunction j items →
      (Engine.standard r).diagnostics document
        = items.zipIdx.flatMap (fun x =>
            ((Engine.standard r).diagnostics x.1).map (·.under ["conditions", toString x.2])) ∧
      ((Engine.standard r).diagnostics document).map (fun d => (d.path, d.rejection))
        = items.zipIdx.flatMap fun x => ((Engine.standard r).diagnostics x.1).map fun d =>
            ("/conditions/" ++ toString x.2 ++ d.path, d.rejection)) ∧
    ((¬ ∃ j items, document.IsJunction j items) →
      (Engine.standard r).diagnostics document = [] ∨
        ∃ d, (Engine.standard r).diagnostics document = [d] ∧ d.path = "") ∧
    (∀ is node, document.Reaches is node →
      ((Engine.standard r).diagnostics document).filter
          (fun d => (Pointer.ofIndices is).segments <+: d.location.segments)
        = ((Engine.standard r).diagnostics node).map
            (·.under (Pointer.ofIndices is).segments)) ∧
    (∀ d ∈ (Engine.standard r).diagnostics document,
      ∃ is node, document.Reaches is node ∧ d.location = .ofIndices is ∧
        (Engine.standard r).diagnostics node = [⟨.root, d.rejection⟩]) := by
  simp only [diagnostics_standard_eq]
  refine ⟨⟨_, resolve_standard_eq r document⟩, fun j items hj => ?_, fun hjunction => ?_,
    fun is node hreach => Registry.filter_faults_of_reaches hreach, fun d hd => ?_⟩
  · have hitems := Registry.faults_of_isJunction (r := r) hj
    refine ⟨hitems, ?_⟩
    rw [hitems, itemFaults, List.map_flatMap]
    simp only [List.map_map, Function.comp_def, Diagnostic.path_under, Diagnostic.rejection_under]
  · rcases Registry.faults_of_not_isJunction (r := r) hjunction with hnil | ⟨rejection, hread⟩
    · exact .inl hnil
    · exact .inr ⟨_, Registry.faults_of_reading_error hread, rfl⟩
  · obtain ⟨is, node, hreach, hread, hlocation⟩ := Registry.exists_reaches_of_mem_faults hd
    exact ⟨is, node, hreach, hlocation, Registry.faults_of_reading_error hread⟩

/-- A junction of a lookup and another junction, each with something wrong. -/
def Json.faultySample : Json :=
  .obj [("kind", .str "and"), ("conditions", .arr
    [.obj [("kind", .str "lookup"), ("field", .str "colour"), ("lookup", .str "exact")],
      .obj [("kind", .str "or"), ("conditions", .arr [.null])]])]

/-- In a registry without fields the lookup is refused for its field, and the
inner junction for its item alone. -/
theorem Engine.diagnostics_compositional_faultySample :
    ((Engine.standard .empty).diagnostics .faultySample).map (fun d => (d.path, d.rejection))
      = [("/conditions/0", .unknownField "colour"),
          ("/conditions/1/conditions/0", .notAnObject)] ∧
    ((Engine.standard .empty).diagnostics .null = [] ∨
      ∃ d, (Engine.standard .empty).diagnostics .null = [d] ∧ d.path = "") ∧
    ((Engine.standard .empty).diagnostics .faultySample).filter
        (fun d => ["conditions", "1"] <+: d.location.segments)
      = ((Engine.standard .empty).diagnostics
          (.obj [("kind", .str "or"), ("conditions", .arr [.null])])).map
            (·.under ["conditions", "1"]) ∧
    ∃ is node, Json.faultySample.Reaches is node ∧ ⟨["conditions", "0"]⟩ = Pointer.ofIndices is ∧
      (Engine.standard .empty).diagnostics node = [⟨.root, .unknownField "colour"⟩] := by
  have hjunction : Json.faultySample.IsJunction .all
      [.obj [("kind", .str "lookup"), ("field", .str "colour"), ("lookup", .str "exact")],
        .obj [("kind", .str "or"), ("conditions", .arr [.null])]] := ⟨rfl, rfl, by simp⟩
  have h := diagnostics_compositional .empty .faultySample
  have hnull := diagnostics_compositional .empty .null
  refine ⟨(h.2.1 _ _ hjunction).2.trans rfl, hnull.2.2.1 ?_,
    h.2.2.2.1 [1] _ (.item hjunction rfl (.here _)),
    h.2.2.2.2 ⟨⟨["conditions", "0"]⟩, .unknownField "colour"⟩ (.head _)⟩
  rintro ⟨j, items, hj⟩
  exact absurd hj.kind_eq (by simp [Json.get?])

end Criteria

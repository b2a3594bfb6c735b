/-
The verdict of the standard engine on a document.

The standard engine looks at nothing but the document and the registry: what
it finds and what it reports below a node is the same wherever the node stands
and whatever was reported before, up to the place of the diagnostics.

* `Verdict`: the condition of a document, if there is one, and its faults,
  located from the document on;
* `Verdict.ofReading`: the verdict on a node from the verdicts on its items, and
  `Verdict.ofReading_junction_congr`: it depends on these alone;
* `Engine.resolveIn_verdict`: from any progress, and with a bound above the
  depth of the document, a resolution gives the verdict and records its faults
  below the current node;
* `Registry.verdict_eq`: the verdict on a document in terms of those on the
  items;
* `Registry.verdict_found_isSome_iff`, `Engine.resolve_standard_eq`: a document
  has a condition exactly when it has no faults, so the outcome is one or the
  other.
-/
import Criteria.Proofs.Condition.Reading

namespace Criteria

/-! ### Diagnostics and their places -/

@[simp] lemma Diagnostic.under_nil (d : Diagnostic) : d.under [] = d := rfl

lemma Diagnostic.under_under (d : Diagnostic) (outer inner : List String) :
    (d.under inner).under outer = d.under (outer ++ inner) := by
  simp [under, Pointer.under]

@[simp] lemma Diagnostic.segments_under (d : Diagnostic) (segments : List String) :
    (d.under segments).location.segments = segments ++ d.location.segments := rfl

@[simp] lemma Diagnostic.rejection_under (d : Diagnostic) (segments : List String) :
    (d.under segments).rejection = d.rejection := rfl

namespace Progress

/-- The progress with more diagnostics, located from the current node on. -/
def record (p : Progress) (faults : List Diagnostic) : Progress :=
  { p with diagnostics := p.diagnostics ++ faults.map (·.under p.location.segments) }

@[simp] lemma record_nil (p : Progress) : p.record [] = p := by simp [record]

lemma report_eq_record (p : Progress) (rejection : Rejection) :
    p.report rejection = p.record [⟨.root, rejection⟩] := by
  simp [report, record, Diagnostic.under, Pointer.under, Pointer.root]

lemma record_record (p : Progress) (faults more : List Diagnostic) :
    (p.record faults).record more = p.record (faults ++ more) := by
  simp [record, location]

/-- What is recorded below the current node is seen from there with the
segments in front. -/
lemma leave_record_enter (p : Progress) (segments : List String) (faults : List Diagnostic) :
    ((p.enter segments).record faults).leave segments.length
      = p.record (faults.map (·.under segments)) := by
  simp [leave, record, enter, location, Diagnostic.under_under, Function.comp_def]

end Progress

/-! ### Verdicts -/

/-- What the standard engine makes of a document: a condition, if there is
one, and the faults, located from the document on. -/
structure Verdict where
  found : Option Condition
  faults : List Diagnostic

/-- The faults of several items, each located below the index of its item. -/
def itemFaults (faults : Json → List Diagnostic) (index : Nat) (items : List Json) :
    List Diagnostic :=
  (items.zipIdx index).flatMap fun x =>
    (faults x.1).map (·.under ["conditions", toString x.2])

@[simp] lemma itemFaults_nil (faults : Json → List Diagnostic) (index : Nat) :
    itemFaults faults index [] = [] := rfl

@[simp] lemma itemFaults_cons (faults : Json → List Diagnostic) (index : Nat) (item : Json)
    (items : List Json) :
    itemFaults faults index (item :: items)
      = (faults item).map (·.under ["conditions", toString index])
        ++ itemFaults faults (index + 1) items := rfl

/-- A fault of several items is one of a single item. -/
lemma mem_itemFaults {faults : Json → List Diagnostic} {index : Nat} {items : List Json}
    {d : Diagnostic} :
    d ∈ itemFaults faults index items
      ↔ ∃ i item, items[i]? = some item ∧
        ∃ d' ∈ faults item, d = d'.under ["conditions", toString (index + i)] := by
  induction items generalizing index with
  | nil => simp
  | cons first items ih =>
      rw [itemFaults_cons, List.mem_append, ih, List.mem_map]
      constructor
      · rintro (⟨d', hd', rfl⟩ | ⟨i, item, hitem, d', hd', rfl⟩)
        · exact ⟨0, first, rfl, d', hd', rfl⟩
        · exact ⟨i + 1, item, hitem, d', hd', by rw [Nat.add_assoc, Nat.add_comm 1 i]⟩
      · rintro ⟨i, item, hitem, d', hd', rfl⟩
        cases i with
        | zero =>
            obtain rfl := Option.some.inj hitem
            exact .inl ⟨d', hd', rfl⟩
        | succ i =>
            exact .inr ⟨i, item, hitem, d', hd', by rw [Nat.add_assoc, Nat.add_comm 1 i]⟩

/-- The verdict on a node from the verdicts on its items: a rejected node has
one fault, at the node itself; a junction has its condition when every item
has one, and the faults of its items. -/
def Verdict.ofReading (v : Json → Verdict) : Except Rejection Reading → Verdict
  | .error rejection => ⟨none, [⟨.root, rejection⟩]⟩
  | .ok (.leaf l) => ⟨some (.leaf l), []⟩
  | .ok (.junction j items) =>
    ⟨(items.mapM fun item => (v item).found).map j.join,
      itemFaults (fun item => (v item).faults) 0 items⟩

/-- Items with the same faults, one by one, have the same faults together. -/
lemma itemFaults_eq_of_forall₂ {faults faults' : Json → List Diagnostic} {items items' : List Json}
    (h : List.Forall₂ (fun item item' => faults item = faults' item') items items')
    (index : Nat) : itemFaults faults index items = itemFaults faults' index items' := by
  induction h generalizing index with
  | nil => rfl
  | cons hfirst _ ih => rw [itemFaults_cons, itemFaults_cons, hfirst, ih]

/-- The verdict on a junction depends on the verdicts on its items alone. -/
lemma Verdict.ofReading_junction_congr {v v' : Json → Verdict} {items items' : List Json}
    (h : List.Forall₂ (fun item item' => v item = v' item') items items') (j : Junction) :
    ofReading v (.ok (.junction j items)) = ofReading v' (.ok (.junction j items')) := by
  have hfound := mapM_eq_of_forall₂ (h.imp fun _ _ => congrArg Verdict.found)
  have hfaults := itemFaults_eq_of_forall₂ (h.imp fun _ _ => congrArg Verdict.faults) 0
  rw [ofReading, ofReading, hfound, hfaults]

/-- The verdict of the standard engine over a registry. -/
def Registry.verdict (r : Registry) (document : Json) : Verdict :=
  match (Engine.standard r).resolveIn (document.depth + 1) document .start with
  | some (found, p) => ⟨found, p.diagnostics⟩
  | none => ⟨none, []⟩

/-! ### A resolution gives the verdict -/

section Resolution

variable {r : Registry} {visit : Json → Progress → Option (Option Condition × Progress)}

/-- Items with known verdicts are resolved one after the other: the list is
found when every item is, and all faults are recorded. -/
lemma Script.run_resolveItems (v : Json → Verdict) {items : List Json}
    (hvisit : ∀ item ∈ items, ∀ p,
      visit item p = some ((v item).found, p.record (v item).faults))
    (index : Nat) (p : Progress) :
    (resolveItems index items).run r visit p
      = some (items.mapM fun item => (v item).found,
          p.record (itemFaults (fun item => (v item).faults) index items)) := by
  induction items generalizing index p with
  | nil => simp [resolveItems]
  | cons item items ih =>
      have hone := hvisit item (by simp)
      have hmore := ih fun other hother => hvisit other (by simp [hother])
      rw [resolveItems, run_bind, run_visit, hone, Option.map_some, Option.bind_some,
        Progress.leave_record_enter, run_bind, hmore, Option.bind_some, Progress.record_record,
        ← itemFaults_cons (fun item => (v item).faults), List.mapM_cons]
      cases (v item).found with
      | none => rfl
      | some c => cases items.mapM fun item => (v item).found <;> rfl

/-- One step of the standard engine, when the visits give verdicts: the verdict
on the node. -/
lemma Engine.resolveIn_ofReading (v : Json → Verdict) {bound : Nat} {document : Json}
    (hvisit : ∀ j items, document.IsJunction j items → ∀ item ∈ items, ∀ p,
      (Engine.standard r).resolveIn bound item p
        = some ((v item).found, p.record (v item).faults))
    (p : Progress) :
    (Engine.standard r).resolveIn (bound + 1) document p
      = some ((Verdict.ofReading v (r.reading document)).found,
          p.record (Verdict.ofReading v (r.reading document)).faults) := by
  rw [resolveIn_standard]
  cases hread : r.reading document with
  | error rejection => exact congrArg (fun q => some (none, q)) (p.report_eq_record rejection)
  | ok reading =>
      cases reading with
      | leaf l => simp [Verdict.ofReading]
      | junction j items =>
          have hitems := hvisit j items (Registry.reading_eq_junction_iff.mp hread)
          simp [Verdict.ofReading, Script.run_resolveItems v hitems]

/-- What a resolution from the start finds and records is the verdict. -/
lemma Registry.verdict_of_resolveIn {document : Json} {v : Verdict}
    (h : (Engine.standard r).resolveIn (document.depth + 1) document .start
      = some (v.found, Progress.start.record v.faults)) :
    r.verdict document = v := by
  rw [verdict, h]
  simp [Progress.record, Progress.start, Progress.location]

/-- **A resolution gives the verdict**: from any progress, and with a bound above
the depth of the document, it finds what the verdict says and records its
faults below the current node. -/
theorem Engine.resolveIn_verdict (r : Registry) (document : Json) :
    ∀ bound p, document.depth < bound →
      (Engine.standard r).resolveIn bound document p
        = some ((r.verdict document).found, p.record (r.verdict document).faults) := by
  induction document using Json.junction_induct with
  | _ document ih =>
      -- at `start` this says what the verdict is, and then it says the same of any `p`
      have hstep : ∀ bound p, document.depth < bound →
          (Engine.standard r).resolveIn bound document p
            = some ((Verdict.ofReading r.verdict (r.reading document)).found,
                p.record (Verdict.ofReading r.verdict (r.reading document)).faults) := by
        intro bound p hbound
        obtain ⟨bound, rfl⟩ : ∃ n, bound = n + 1 := ⟨bound - 1, by omega⟩
        refine resolveIn_ofReading r.verdict (fun j items hj item hitem q => ?_) p
        have hdepth := hj.depth_lt hitem
        exact ih j items hj item hitem bound q (by omega)
      rw [Registry.verdict_of_resolveIn (hstep _ _ (Nat.lt_succ_self _))]
      exact hstep

/-- The verdict on a document is that of its topmost node over the verdicts on
the items. -/
theorem Registry.verdict_eq (r : Registry) (document : Json) :
    r.verdict document = Verdict.ofReading r.verdict (r.reading document) := by
  refine verdict_of_resolveIn (Engine.resolveIn_ofReading r.verdict ?_ .start)
  intro j items hj item hitem q
  exact Engine.resolveIn_verdict r item _ q (hj.depth_lt hitem)

end Resolution

/-! ### The outcome of a document -/

lemma itemFaults_eq_nil_iff {faults : Json → List Diagnostic} {index : Nat}
    {items : List Json} :
    itemFaults faults index items = [] ↔ ∀ item ∈ items, faults item = [] := by
  induction items generalizing index with
  | nil => simp
  | cons item items ih => simp [ih]

/-- A document has a condition exactly when it has no faults. -/
theorem Registry.verdict_found_isSome_iff (r : Registry) (document : Json) :
    (r.verdict document).found.isSome ↔ (r.verdict document).faults = [] := by
  induction document using Json.junction_induct with
  | _ document ih =>
      rw [verdict_eq]
      cases hread : r.reading document with
      | error rejection => simp [Verdict.ofReading]
      | ok reading =>
          cases reading with
          | leaf l => simp [Verdict.ofReading]
          | junction j items =>
              have hitems := ih j items (reading_eq_junction_iff.mp hread)
              simp only [Verdict.ofReading, Option.isSome_map, isSome_mapM_iff,
                itemFaults_eq_nil_iff]
              exact forall₂_congr hitems

lemma Registry.faults_eq_nil_of_found {r : Registry} {document : Json} {c : Condition}
    (h : (r.verdict document).found = some c) : (r.verdict document).faults = [] := by
  rw [← r.verdict_found_isSome_iff, h]
  rfl

lemma Registry.faults_ne_nil_of_not_found {r : Registry} {document : Json}
    (h : (r.verdict document).found = none) : (r.verdict document).faults ≠ [] := by
  intro hnil
  have hfound := (r.verdict_found_isSome_iff document).mpr hnil
  rw [h] at hfound
  exact absurd hfound (by simp)

/-- The outcome of a document is the condition of its verdict, or else its
faults. -/
theorem Engine.resolve_standard_eq (r : Registry) (document : Json) :
    (Engine.standard r).resolve document
      = some (match (r.verdict document).found with
        | some c => .ok c
        | none => .error ⟨(r.verdict document).faults⟩) := by
  have hrun := resolveIn_verdict r document _ .start (Nat.lt_succ_self _)
  rw [resolve, resolveWithin, hrun]
  cases hfound : (r.verdict document).found with
  | some c =>
      have hnil := Registry.faults_eq_nil_of_found hfound
      simp [outcome, hnil, Progress.start]
  | none =>
      have hne := Registry.faults_ne_nil_of_not_found hfound
      simp [outcome, hne, Progress.record, Progress.start, Progress.location]

lemma Engine.resolve_standard_eq_ok_iff {r : Registry} {document : Json} {c : Condition} :
    (Engine.standard r).resolve document = some (.ok c) ↔ (r.verdict document).found = some c := by
  rw [resolve_standard_eq]
  cases (r.verdict document).found <;> simp

lemma Engine.resolve_standard_eq_error_iff {r : Registry} {document : Json} {refusal : Refusal} :
    (Engine.standard r).resolve document = some (.error refusal)
      ↔ (r.verdict document).faults ≠ [] ∧ refusal.diagnostics = (r.verdict document).faults := by
  rw [resolve_standard_eq]
  cases hfound : (r.verdict document).found with
  | some c => simp [Registry.faults_eq_nil_of_found hfound]
  | none =>
      have hne := Registry.faults_ne_nil_of_not_found hfound
      cases refusal
      simp [hne, eq_comm]

end Criteria

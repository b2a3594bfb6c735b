/-
Which documents are conditions, and which conditions they are.

* `Registry.Valid`: the documents that stand for a condition over a registry,
  defined from their members and items alone;
* `Registry.Denotes`: the condition that a document stands for, one child for
  each item at every depth and the field of the registry at every leaf;
* `Registry.verdict_found_eq_some_iff`, `Registry.verdict_found_isSome_iff_valid`:
  the verdict of the standard engine is that condition;
* `Engine.resolve_standard_iff`: so the standard engine resolves the valid
  documents, to what they denote, and refuses all others.
-/
import Criteria.Proofs.Condition.Verdict

namespace Criteria

namespace Registry

/-- The documents that stand for a condition over a registry: a junction of
such documents, or a lookup, by its name, of a field that the registry lists,
with a value that the field takes. A value that is left out is null. -/
inductive Valid (r : Registry) : Json → Prop
  | junction {document : Json} {j : Junction} {items : List Json} :
      document.IsJunction j items → (∀ item ∈ items, Valid r item) → Valid r document
  | lookup {document : Json} {lookup : String} {field : Field} {prepared : Prepared} :
      document.IsLookup field.name lookup → field ∈ r.fields →
      field.validate ((document.get? "value").getD .null) lookup = .ok prepared →
      Valid r document

/-- The condition that a document stands for: a junction has one child for
each item, in the order of the items, and a lookup is a leaf with the listed
field of that name, the lookup and the prepared value. -/
inductive Denotes (r : Registry) : Json → Condition → Prop
  | junction {document : Json} {j : Junction} {items : List Json} {children : List Condition} :
      document.IsJunction j items → List.Forall₂ (Denotes r) items children →
      Denotes r document (j.join children)
  | lookup {document : Json} {lookup : String} {field : Field} {prepared : Prepared} :
      document.IsLookup field.name lookup → field ∈ r.fields →
      field.validate ((document.get? "value").getD .null) lookup = .ok prepared →
      Denotes r document (.leaf ⟨field, lookup, prepared⟩)

/-- The standard engine finds exactly what a document denotes. -/
theorem verdict_found_eq_some_iff (r : Registry) (document : Json) :
    ∀ c, (r.verdict document).found = some c ↔ r.Denotes document c := by
  induction document using Json.junction_induct with
  | _ document ih =>
      intro c
      rw [verdict_eq]
      constructor
      · intro h
        cases hread : r.reading document with
        | error rejection => rw [hread] at h; exact absurd h (by simp [Verdict.ofReading])
        | ok reading =>
            rw [hread] at h
            cases reading with
            | leaf l =>
                obtain rfl := Option.some.inj h
                obtain ⟨hlookup, hfield, hvalue⟩ := reading_eq_leaf_iff.mp hread
                exact .lookup hlookup hfield hvalue
            | junction j items =>
                have hj := reading_eq_junction_iff.mp hread
                obtain ⟨children, hchildren, rfl⟩ := Option.map_eq_some_iff.mp h
                exact .junction hj ((mapM_eq_some_iff_forall₂ (ih j items hj)).mp hchildren)
      · intro h
        cases h with
        | junction hj hchildren =>
            rw [reading_eq_junction_iff.mpr hj, Verdict.ofReading]
            have hfound := (mapM_eq_some_iff_forall₂ (ih _ _ hj)).mpr hchildren
            simp [hfound]
        | lookup hlookup hfield hvalue =>
            have hread : r.reading document = .ok (.leaf ⟨_, _, _⟩) :=
              reading_eq_leaf_iff.mpr ⟨hlookup, hfield, hvalue⟩
            rw [hread, Verdict.ofReading]

/-- The standard engine finds something exactly for the valid documents. -/
theorem verdict_found_isSome_iff_valid (r : Registry) (document : Json) :
    (r.verdict document).found.isSome ↔ r.Valid document := by
  induction document using Json.junction_induct with
  | _ document ih =>
      rw [verdict_eq]
      constructor
      · intro h
        cases hread : r.reading document with
        | error rejection => rw [hread] at h; exact absurd h (by simp [Verdict.ofReading])
        | ok reading =>
            rw [hread] at h
            cases reading with
            | leaf l =>
                obtain ⟨hlookup, hfield, hvalue⟩ := reading_eq_leaf_iff.mp hread
                exact .lookup hlookup hfield hvalue
            | junction j items =>
                have hj := reading_eq_junction_iff.mp hread
                rw [Verdict.ofReading, Option.isSome_map, isSome_mapM_iff] at h
                exact .junction hj fun item hitem => (ih j items hj item hitem).mp (h item hitem)
      · intro h
        cases h with
        | junction hj hitems =>
            rw [reading_eq_junction_iff.mpr hj, Verdict.ofReading, Option.isSome_map,
              isSome_mapM_iff]
            exact fun item hitem => (ih _ _ hj item hitem).mpr (hitems item hitem)
        | lookup hlookup hfield hvalue =>
            have hread : r.reading document = .ok (.leaf ⟨_, _, _⟩) :=
              reading_eq_leaf_iff.mpr ⟨hlookup, hfield, hvalue⟩
            rw [hread]
            rfl

end Registry

/-- **Resolution is exact.** The standard engine resolves exactly the valid
documents, each to the condition that it denotes, and refuses every other
document. -/
theorem Engine.resolve_standard_iff (r : Registry) (document : Json) :
    ((∃ c, (Engine.standard r).resolve document = some (.ok c)) ↔ r.Valid document) ∧
    (∀ c, (Engine.standard r).resolve document = some (.ok c) ↔ r.Denotes document c) ∧
    ((∃ refusal, (Engine.standard r).resolve document = some (.error refusal))
      ↔ ¬ r.Valid document) := by
  refine ⟨?_, fun c => ?_, ?_⟩
  · rw [← r.verdict_found_isSome_iff_valid, Option.isSome_iff_exists]
    exact exists_congr fun c => resolve_standard_eq_ok_iff
  · exact resolve_standard_eq_ok_iff.trans (r.verdict_found_eq_some_iff document c)
  · rw [← r.verdict_found_isSome_iff_valid, r.verdict_found_isSome_iff]
    constructor
    · rintro ⟨refusal, h⟩
      exact (resolve_standard_eq_error_iff.mp h).1
    · intro hne
      exact ⟨⟨_⟩, resolve_standard_eq_error_iff.mpr ⟨hne, rfl⟩⟩

end Criteria

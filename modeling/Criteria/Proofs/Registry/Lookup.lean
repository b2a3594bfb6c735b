/-
Finding the fields of a registry by name.

* `Registry.lookup_index_iff`: the table of a registry holds the position of
  each field under its name, and nothing else;
* `Registry.get?_eq_some_iff`, `Registry.contains_iff`: so the table finds exactly the
  listed fields, each under its name;
* `Registry.nodup_names`: no two fields of a registry have one name.
-/
import Criteria.Registry.Basic
import Mathlib.Data.List.Nodup

namespace Criteria

namespace Registry

variable {r : Registry} {name : String} {f : Field} {i : Nat}

/-- The table holds the position of each field under its name, and nothing else. -/
theorem lookup_index_iff :
    r.index.lookup name = some i ↔ ∃ f, r.fields[i]? = some f ∧ f.name = name := by
  constructor
  · exact r.named
  · rintro ⟨f, hf, rfl⟩
    exact r.indexed hf

/-- A field is found under a name exactly when it is listed and has the name. -/
theorem get?_eq_some_iff : r.get? name = some f ↔ f ∈ r.fields ∧ f.name = name := by
  rw [get?, Option.pmap_eq_some_iff]
  constructor
  · rintro ⟨i, hi, hlookup, rfl⟩
    obtain ⟨g, hg, hname⟩ := lookup_index_iff.mp hlookup
    rw [List.getElem?_eq_getElem hi, Option.some.injEq] at hg
    exact ⟨List.get_mem .., by rw [List.get_eq_getElem, hg, hname]⟩
  · rintro ⟨hf, rfl⟩
    obtain ⟨i, hi⟩ := List.mem_iff_getElem?.mp hf
    obtain ⟨hlt, hget⟩ := List.getElem?_eq_some_iff.mp hi
    exact ⟨i, hlt, r.indexed hi, hget.symm⟩

/-- The table has the names of the listed fields. -/
theorem contains_iff : r.contains name = true ↔ name ∈ r.fields.map Field.name := by
  rw [contains, Option.isSome_iff_exists, List.mem_map]
  constructor
  · rintro ⟨i, hi⟩
    obtain ⟨f, hf, hname⟩ := lookup_index_iff.mp hi
    exact ⟨f, List.mem_of_getElem? hf, hname⟩
  · rintro ⟨f, hf, rfl⟩
    obtain ⟨i, hi⟩ := List.mem_iff_getElem?.mp hf
    exact ⟨i, r.indexed hi⟩

lemma contains_eq_false_iff : r.contains name = false ↔ name ∉ r.fields.map Field.name := by
  rw [← contains_iff, Bool.not_eq_true]

/-- No two fields of a registry have one name: the table holds one position for it. -/
theorem nodup_names (r : Registry) : (r.fields.map Field.name).Nodup := by
  rw [List.nodup_iff_injective_getElem]
  rintro ⟨i, hi⟩ ⟨j, hj⟩ hname
  simp only [List.getElem_map] at hname
  rw [List.length_map] at hi hj
  have hi := r.indexed (List.getElem?_eq_getElem hi)
  have hj := r.indexed (List.getElem?_eq_getElem hj)
  rw [hname, hj, Option.some.injEq] at hi
  exact Fin.ext hi.symm

end Registry

end Criteria

/-
Registries: the fields that conditions may name.

* `Registry`: fields in the order of their registration, with a table of their
  positions that agrees with the list;
* `Registry.get?`, `Registry.contains`: what the table finds under a name;
* `Registry.push`: one more field, in the list and in the table;
* `RegistryError`: why a registry cannot be built, with its wording;
* `ValueKind.parse`: the kind of a field that is declared by a name.
-/
import Criteria.Field.Basic
import Criteria.Text.Quoted
import Criteria.Text.Table

namespace Criteria

/-- The fields that conditions may name, in the order of registration, and a
table of their positions. -/
structure Registry where
  fields : List Field
  /-- The position of each field, under its name. -/
  index : Table Nat
  /-- What the table holds under a name is the position of a field with that name. -/
  named : ∀ {name : String} {i : Nat}, index.lookup name = some i →
    ∃ f, fields[i]? = some f ∧ f.name = name
  /-- The table holds the position of every field. -/
  indexed : ∀ {i : Nat} {f : Field}, fields[i]? = some f → index.lookup f.name = some i
  deriving DecidableEq, Repr

namespace Registry

/-- The registry without fields. -/
def empty : Registry where
  fields := []
  index := []
  named h := by simp at h
  indexed h := by simp at h

/-- What the table holds is the position of a field. -/
theorem lt_length_of_lookup {r : Registry} {name : String} {i : Nat}
    (h : r.index.lookup name = some i) : i < r.fields.length := by
  obtain ⟨f, hf, -⟩ := r.named h
  exact (List.getElem?_eq_some_iff.mp hf).1

/-- The field with a name: the one at the position that the table has for it. -/
def get? (r : Registry) (name : String) : Option Field :=
  (r.index.lookup name).pmap (fun i h => r.fields.get ⟨i, h⟩) fun _ => lt_length_of_lookup

/-- Whether the table has a name. -/
def contains (r : Registry) (name : String) : Bool := (r.index.lookup name).isSome

/-- The number of fields. -/
def size (r : Registry) : Nat := r.fields.length

/-- Whether there are no fields. -/
def isEmpty (r : Registry) : Bool := r.fields.isEmpty

/-- The descriptions of all fields, in the order of registration. -/
def describeAll (r : Registry) : List Description := r.fields.map Field.describe

/-- With one more field behind all others and its position in the table, the
table still holds positions of fields alone. -/
theorem named_insert {r : Registry} {f : Field} {name : String} {i : Nat}
    (h : (r.index.insert f.name r.fields.length).lookup name = some i) :
    ∃ g, (r.fields ++ [f])[i]? = some g ∧ g.name = name := by
  rw [Table.lookup_insert] at h
  by_cases hname : name = f.name
  · rw [if_pos hname, Option.some.injEq] at h
    exact ⟨f, by simp [← h], hname.symm⟩
  · rw [if_neg hname] at h
    obtain ⟨g, hg, hgname⟩ := r.named h
    exact ⟨g, by rw [List.getElem?_append_left (lt_length_of_lookup h), hg], hgname⟩

/-- With one more field under a name that is not taken, the table still holds
the position of every field. -/
theorem indexed_insert {r : Registry} {f : Field} (hfree : r.contains f.name = false) {i : Nat}
    {g : Field} (h : (r.fields ++ [f])[i]? = some g) :
    (r.index.insert f.name r.fields.length).lookup g.name = some i := by
  rw [Table.lookup_insert]
  by_cases hi : i < r.fields.length
  · -- an old field: its name is in the table already, so it is not the free one
    rw [List.getElem?_append_left hi] at h
    have hold := r.indexed h
    have hname : g.name ≠ f.name := by
      intro heq
      rw [contains, ← heq, hold] at hfree
      exact absurd hfree (by simp)
    rw [if_neg hname, hold]
  · rw [List.getElem?_append_right (Nat.le_of_not_lt hi), List.getElem?_singleton] at h
    obtain ⟨hlast, hg⟩ := Option.ite_none_right_eq_some.mp h
    obtain rfl := Option.some.inj hg
    rw [if_pos rfl, Nat.le_antisymm (Nat.le_of_sub_eq_zero hlast) (Nat.le_of_not_lt hi)]

/-- The registry with one more field, under a name that is not taken. -/
def push (r : Registry) (f : Field) (hfree : r.contains f.name = false) : Registry where
  fields := r.fields ++ [f]
  index := r.index.insert f.name r.fields.length
  named := named_insert
  indexed := indexed_insert hfree

@[simp] theorem fields_push (r : Registry) (f : Field) (hfree : r.contains f.name = false) :
    (r.push f hfree).fields = r.fields ++ [f] := rfl

end Registry

/-- Why a registry cannot be built. -/
inductive RegistryError where
  | duplicateField (name : String)
  | noLookups (name : String)
  | constraintMismatch (field : String) (kind : ValueKind)
  | emptyChoices (name : String)
  | emptyRange (name : String)
  | unknownKind (name : String)
  /-- The text of a configuration is not JSON, or not of its form. -/
  | malformedConfig
  deriving DecidableEq, Repr

namespace RegistryError

/-- The wording of a registry error. -/
def message : RegistryError → String
  | duplicateField name => "duplicate field: " ++ name
  | noLookups name => "field " ++ quote name ++ " allows no lookups"
  | constraintMismatch field kind =>
    "field " ++ quote field ++ " of kind " ++ kind.name ++ " cannot carry this constraint"
  | emptyChoices name => "field " ++ quote name ++ " declares no choices"
  | emptyRange name => "field " ++ quote name ++ " declares an empty range"
  | unknownKind name => "unknown value kind: " ++ name
  | malformedConfig => "malformed configuration"

end RegistryError

/-- The kind with a name in any letter case. -/
def ValueKind.parse (s : String) : Except RegistryError ValueKind :=
  match ValueKind.ofName? s with
  | some kind => .ok kind
  | none => .error (.unknownKind s)

end Criteria

/-
Tables of values under names.

* `Table`: the entries of a table, the one put in last in front;
* `Table.insert`: a value put under a name;
* `Table.lookup_insert`: what stands under each name afterwards.
-/

namespace Criteria

/-- Values under names. -/
abbrev Table (α : Type) := List (String × α)

namespace Table

variable {α : Type}

/-- The table with a value under a name, in place of the one that it has there. -/
def insert (table : Table α) (name : String) (value : α) : Table α :=
  (name, value) :: table.filter fun entry => entry.1 ≠ name

/-- A table without the entries of one name has the same entries for all others. -/
theorem lookup_filter_ne {name other : String} (h : other ≠ name) (table : Table α) :
    (table.filter fun entry => entry.1 ≠ name).lookup other = table.lookup other := by
  induction table with
  | nil => rfl
  | cons first table ih =>
    obtain ⟨key, value⟩ := first
    rw [List.lookup_cons]
    by_cases hkey : key = name
    · rw [List.filter_cons_of_neg (by simpa using hkey), ih, beq_false_of_ne (hkey ▸ h)]
    · rw [List.filter_cons_of_pos (by simpa using hkey), List.lookup_cons, ih]

/-- Insertion changes what stands under the name alone. -/
theorem lookup_insert (table : Table α) (name : String) (value : α) (other : String) :
    (table.insert name value).lookup other
      = if other = name then some value else table.lookup other := by
  rw [insert, List.lookup_cons]
  by_cases h : other = name
  · rw [if_pos h, h, beq_self_eq_true]
  · rw [if_neg h, beq_false_of_ne h, lookup_filter_ne h]

end Table

end Criteria

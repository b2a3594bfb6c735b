/-
Finite sets of names, held in ascending order.

* `NameSet`: the set, an ascending list;
* `NameSet.insert`, `NameSet.ofList`: its construction;
* `NameSet.mem_insert`, `NameSet.mem_ofList`: what it holds, and `NameSet.ext`: a
  set is given by its names.
-/

namespace Criteria

/-- A set of names in ascending order, each one once. -/
structure NameSet where
  toList : List String
  ascending : toList.Pairwise (· < ·)
  deriving DecidableEq, Repr

namespace NameSet

/-- The set without names. -/
def empty : NameSet := ⟨[], .nil⟩

/-- Puts a name at its place in an ascending list. -/
def insertName (name : String) : List String → List String
  | [] => [name]
  | n :: ns =>
    if name < n then name :: n :: ns
    else if name = n then n :: ns
    else n :: insertName name ns

/-- Insertion adds exactly the name. -/
theorem mem_insertName {name x : String} {names : List String} :
    x ∈ insertName name names ↔ x = name ∨ x ∈ names := by
  induction names with
  | nil => simp [insertName]
  | cons n ns ih =>
    unfold insertName
    split
    · simp
    · split
      · rename_i h
        subst h
        simp
      · simp only [List.mem_cons, ih]
        constructor
        · rintro (h | h | h) <;> simp [h]
        · rintro (h | h | h) <;> simp [h]

/-- Insertion keeps the order. -/
theorem pairwise_insertName {name : String} {names : List String}
    (h : names.Pairwise (· < ·)) : (insertName name names).Pairwise (· < ·) := by
  induction names with
  | nil => simp [insertName]
  | cons n ns ih =>
    rw [List.pairwise_cons] at h
    unfold insertName
    split
    · rename_i hlt
      rw [List.pairwise_cons]
      refine ⟨fun x hx => ?_, List.pairwise_cons.mpr h⟩
      rcases List.mem_cons.mp hx with rfl | hx
      · exact hlt
      · exact String.lt_trans hlt (h.1 x hx)
    · split
      · exact List.pairwise_cons.mpr h
      · rename_i hlt hne
        rw [List.pairwise_cons]
        refine ⟨fun x hx => ?_, ih h.2⟩
        rcases mem_insertName.mp hx with rfl | hx
        · exact Std.lt_of_le_of_ne (String.not_lt.mp hlt) (Ne.symm hne)
        · exact h.1 x hx

/-- The set with one more name. -/
def insert (s : NameSet) (name : String) : NameSet :=
  ⟨insertName name s.toList, pairwise_insertName s.ascending⟩

/-- The set with more names. -/
def insertAll (s : NameSet) (names : List String) : NameSet := names.foldl insert s

/-- The set of the names of a list. -/
def ofList (names : List String) : NameSet := empty.insertAll names

/-- Whether a name is in the set. -/
def contains (s : NameSet) (name : String) : Bool := s.toList.contains name

/-- Whether the set has no names. -/
def isEmpty (s : NameSet) : Bool := s.toList.isEmpty

/-- Two sets with the same names are equal. -/
theorem ext {s t : NameSet} (h : s.toList = t.toList) : s = t := by
  cases s; cases t; cases h; rfl

/-- Insertion adds exactly the name. -/
@[simp] theorem mem_insert {s : NameSet} {name x : String} :
    x ∈ (s.insert name).toList ↔ x = name ∨ x ∈ s.toList :=
  mem_insertName

/-- Insertion of several names adds exactly these. -/
@[simp] theorem mem_insertAll {s : NameSet} {names : List String} {x : String} :
    x ∈ (s.insertAll names).toList ↔ x ∈ names ∨ x ∈ s.toList := by
  induction names generalizing s with
  | nil => simp [insertAll]
  | cons n ns ih =>
    have step : s.insertAll (n :: ns) = (s.insert n).insertAll ns := rfl
    rw [step, ih, mem_insert, List.mem_cons]
    constructor
    · rintro (h | h | h) <;> simp [h]
    · rintro ((h | h) | h) <;> simp [h]

/-- The set of a list holds exactly the names of the list. -/
@[simp] theorem mem_ofList {names : List String} {x : String} :
    x ∈ (ofList names).toList ↔ x ∈ names := by
  rw [ofList, mem_insertAll]
  simp [empty]

end NameSet

end Criteria

/-
The two views of a refusal: diagnostics by field, and those about no field.

* `Refusal.map_fst_addToGroup`: groups are entered under their names as names are
  into a set, so the names of the groups are a set in ascending order;
* `Refusal.lookup_addToGroup`: one group grows at its end, all others stay;
* `Refusal.perm_addToGroup`: nothing else is gained or lost;
* `Refusal.Groups`: what groups hold of a list of diagnostics, kept by each further
  diagnostic (`Refusal.Groups.add`) and so by all of them
  (`Refusal.groups_byField`);
* `Refusal.views_partition`: the groups and the rest make up the refusal.
-/
import Criteria.Condition.Refusal
import Criteria.Text.NameSet
import Mathlib.Algebra.GroupWithZero.Nat
import Mathlib.Data.List.Perm.Basic
import Mathlib.Tactic.Lemma

namespace Criteria

/-- The rejections of the diagnostics about a field, in the order of the
diagnostics. -/
def rejectionsAbout (name : String) (diagnostics : List Diagnostic) : List Rejection :=
  (diagnostics.filter fun d => d.field? = some name).map Diagnostic.rejection

lemma rejectionsAbout_concat (name : String) (diagnostics : List Diagnostic) (d : Diagnostic) :
    rejectionsAbout name (diagnostics ++ [d])
      = rejectionsAbout name diagnostics
        ++ if d.field? = some name then [d.rejection] else [] := by
  rw [rejectionsAbout, List.filter_append, List.map_append, ← rejectionsAbout]
  by_cases h : d.field? = some name <;> simp [h]

lemma rejectionsAbout_ne_nil_iff {name : String} {diagnostics : List Diagnostic} :
    rejectionsAbout name diagnostics ≠ [] ↔ ∃ d ∈ diagnostics, d.field? = some name := by
  simp [rejectionsAbout, List.filter_eq_nil_iff]

namespace Refusal

open scoped List

variable {name other : String} {rejection : Rejection} {groups : List (String × List Rejection)}
  {diagnostics : List Diagnostic}

/-! ### One rejection more in a group -/

/-- The names of groups grow as a set of names does. -/
lemma map_fst_addToGroup :
    (addToGroup name rejection groups).map Prod.fst
      = NameSet.insertName name (groups.map Prod.fst) := by
  induction groups with
  | nil => rfl
  | cons g groups ih =>
      rw [addToGroup, List.map_cons, NameSet.insertName]
      split
      · rfl
      · split
        · rfl
        · rw [List.map_cons, ih]

/-- The rejections of all groups together grow by the one that is added. -/
lemma perm_addToGroup :
    (addToGroup name rejection groups).flatMap Prod.snd
      ~ rejection :: groups.flatMap Prod.snd := by
  induction groups with
  | nil => exact .refl _
  | cons g groups ih =>
      rw [addToGroup]
      split
      · exact .refl _
      · split
        · simp only [List.flatMap_cons, List.append_assoc, List.singleton_append]
          exact List.perm_middle
        · simp only [List.flatMap_cons]
          exact (ih.append_left g.2).trans List.perm_middle

/-- A group is found under its own name, and under another name one looks on. -/
lemma lookup_cons_group (n : String) (group : List Rejection) :
    ((n, group) :: groups).lookup other
      = if other = n then some group else groups.lookup other := by
  rw [List.lookup_cons]
  by_cases h : other = n
  · simp [h]
  · simp [h, beq_false_of_ne h]

/-- There is no group under a name that comes before all of them. -/
lemma lookup_eq_none_of_lt (h : ∀ n ∈ groups.map Prod.fst, name < n) :
    groups.lookup name = none := by
  refine List.lookup_eq_none_iff.mpr fun g hg => ?_
  have hlt : name < g.1 := h g.1 (List.mem_map_of_mem hg)
  exact bne_iff_ne.mpr (Std.ne_of_lt hlt)

/-- The group with the name has the rejection at its end, and every other group is
as it was. A new group is put before the first one with a greater name; only because
the names ascend is there none with the same name behind it. -/
lemma lookup_addToGroup (h : (groups.map Prod.fst).Pairwise (· < ·)) :
    (addToGroup name rejection groups).lookup other
      = if other = name then some ((groups.lookup name).getD [] ++ [rejection])
        else groups.lookup other := by
  induction groups with
  | nil => rw [addToGroup, lookup_cons_group, List.lookup_nil, List.lookup_nil]; rfl
  | cons g groups ih =>
      obtain ⟨n, group⟩ := g
      obtain ⟨hfirst, hrest⟩ := List.pairwise_cons.mp h
      rw [addToGroup]
      split
      · rename_i hlt
        have hnone : ((n, group) :: groups).lookup name = none := by
          refine lookup_eq_none_of_lt fun m hm => ?_
          rcases List.mem_cons.mp hm with rfl | hm
          · exact hlt
          · exact String.lt_trans hlt (hfirst m hm)
        rw [lookup_cons_group, hnone, Option.getD_none, List.nil_append]
      · split
        · rename_i heq
          subst heq
          simp only [lookup_cons_group, if_true, Option.getD_some]
          split <;> rfl
        · rename_i hne
          rw [lookup_cons_group, lookup_cons_group, lookup_cons_group, if_neg hne, ih hrest]
          split
          · rename_i heq
            subst heq
            rw [if_neg (Ne.symm hne)]
          · rfl

/-! ### The groups of a list -/

/-- Groups hold the diagnostics of a list that are about a field: their names ascend,
under each name there are the rejections about it, and there is no empty group. -/
structure Groups (diagnostics : List Diagnostic) (groups : List (String × List Rejection)) :
    Prop where
  ascending : (groups.map Prod.fst).Pairwise (· < ·)
  mem_names_iff : ∀ name, name ∈ groups.map Prod.fst ↔ ∃ d ∈ diagnostics, d.field? = some name
  lookup_getD : ∀ name, (groups.lookup name).getD [] = rejectionsAbout name diagnostics
  perm : groups.flatMap Prod.snd
    ~ (diagnostics.filter fun d => !d.field?.isNone).map Diagnostic.rejection

namespace Groups

lemma nil : Groups [] [] :=
  ⟨.nil, by simp, fun _ => rfl, .refl _⟩

/-- A diagnostic about no field leaves the groups as they are. -/
lemma add_of_none (h : Groups diagnostics groups) {d : Diagnostic} (hd : d.field? = none) :
    Groups (diagnostics ++ [d]) groups := by
  refine ⟨h.ascending, fun name => ?_, fun name => ?_, ?_⟩
  · rw [h.mem_names_iff]
    simp [or_and_right, exists_or, hd]
  · rw [rejectionsAbout_concat, h.lookup_getD]
    simp [hd]
  · simpa [List.filter_append, hd] using h.perm

/-- A diagnostic about a field goes to the end of the group of that field. -/
lemma add_of_some (h : Groups diagnostics groups) {d : Diagnostic}
    (hd : d.field? = some name) :
    Groups (diagnostics ++ [d]) (addToGroup name d.rejection groups) := by
  refine ⟨?_, fun other => ?_, fun other => ?_, ?_⟩
  · rw [map_fst_addToGroup]
    exact NameSet.pairwise_insertName h.ascending
  · rw [map_fst_addToGroup, NameSet.mem_insertName, h.mem_names_iff]
    simp [or_and_right, exists_or, hd, eq_comm, or_comm]
  · rw [lookup_addToGroup h.ascending, rejectionsAbout_concat, hd]
    by_cases hother : other = name
    · subst hother
      simp [h.lookup_getD]
    · simp [hother, Ne.symm hother, h.lookup_getD]
  · calc (addToGroup name d.rejection groups).flatMap Prod.snd
        ~ d.rejection :: groups.flatMap Prod.snd := perm_addToGroup
      _ ~ d.rejection
            :: (diagnostics.filter fun d => !d.field?.isNone).map Diagnostic.rejection :=
          h.perm.cons d.rejection
      _ ~ (diagnostics.filter fun d => !d.field?.isNone).map Diagnostic.rejection
            ++ [d.rejection] := (List.perm_append_singleton _ _).symm
      _ = ((diagnostics ++ [d]).filter fun d => !d.field?.isNone).map Diagnostic.rejection := by
          simp [List.filter_append, hd]

/-- One diagnostic more. -/
lemma add (h : Groups diagnostics groups) (d : Diagnostic) :
    Groups (diagnostics ++ [d]) (addDiagnostic groups d) := by
  rw [addDiagnostic]
  cases hd : d.field? with
  | none => exact h.add_of_none hd
  | some name => exact h.add_of_some hd

/-- Several diagnostics more. -/
lemma foldl (h : Groups diagnostics groups) (more : List Diagnostic) :
    Groups (diagnostics ++ more) (more.foldl addDiagnostic groups) := by
  induction more generalizing diagnostics groups with
  | nil => rwa [List.append_nil]
  | cons d more ih =>
      have hmore := ih (h.add d)
      rwa [List.append_assoc] at hmore

/-- A group is found exactly under the names that diagnostics are about, and it
holds their rejections. -/
lemma lookup_eq_some_iff (h : Groups diagnostics groups) {group : List Rejection} :
    groups.lookup name = some group
      ↔ name ∈ groups.map Prod.fst ∧ group = rejectionsAbout name diagnostics := by
  have hgroup := h.lookup_getD name
  constructor
  · intro hfound
    obtain ⟨before, after, rfl, -⟩ := List.lookup_eq_some_iff.mp hfound
    rw [hfound] at hgroup
    exact ⟨by simp, hgroup⟩
  · rintro ⟨hname, rfl⟩
    rw [h.mem_names_iff, ← rejectionsAbout_ne_nil_iff, ← hgroup] at hname
    rw [← hgroup]
    cases hfound : groups.lookup name with
    | none => rw [hfound] at hname; exact absurd rfl hname
    | some group => rfl

end Groups

/-- The groups of a refusal hold its diagnostics. -/
theorem groups_byField (r : Refusal) : Groups r.diagnostics r.byField :=
  Groups.nil.foldl r.diagnostics

/-! ### Both views together -/

/-- A diagnostic about no field is listed as often as the refusal has it, and one
about a field is not listed. -/
lemma count_structural (r : Refusal) (d : Diagnostic) :
    r.structural.count d = if d.field?.isNone then r.diagnostics.count d else 0 := by
  rw [structural]
  split
  · rename_i hnone
    exact List.count_filter hnone
  · rename_i hfield
    exact List.count_eq_zero.mpr fun hmem => hfield (List.mem_filter.mp hmem).2

/-- The groups and the diagnostics about no field hold all rejections of a refusal,
each as often as the refusal has it. -/
lemma perm_views (r : Refusal) :
    r.byField.flatMap Prod.snd ++ r.structural.map Diagnostic.rejection
      ~ r.diagnostics.map Diagnostic.rejection := by
  calc r.byField.flatMap Prod.snd ++ r.structural.map Diagnostic.rejection
      ~ (r.diagnostics.filter fun d => !d.field?.isNone).map Diagnostic.rejection
          ++ r.structural.map Diagnostic.rejection := r.groups_byField.perm.append_right _
    _ ~ r.structural.map Diagnostic.rejection
          ++ (r.diagnostics.filter fun d => !d.field?.isNone).map Diagnostic.rejection :=
        List.perm_append_comm
    _ = (r.structural ++ r.diagnostics.filter fun d => !d.field?.isNone).map
          Diagnostic.rejection := List.map_append.symm
    _ ~ r.diagnostics.map Diagnostic.rejection :=
        (List.filter_append_perm (fun d => d.field?.isNone) r.diagnostics).map _

/-- **The two views part a refusal.** The groups ascend by name, there is one for each
field that some diagnostic is about, and it holds the rejections of exactly the
diagnostics about that field, in their order. The diagnostics about no field are
listed in their order too, each as often as the refusal has it. Together the two
views have as many entries as the refusal. -/
theorem views_partition (r : Refusal) :
    (r.byField.map Prod.fst).Pairwise (· < ·) ∧
    (∀ name, name ∈ r.byField.map Prod.fst ↔ ∃ d ∈ r.diagnostics, d.field? = some name) ∧
    (∀ name group, r.byField.lookup name = some group ↔
      name ∈ r.byField.map Prod.fst ∧
        group = (r.diagnostics.filter fun d => d.field? = some name).map Diagnostic.rejection) ∧
    r.structural.Sublist r.diagnostics ∧
    (∀ d, r.structural.count d = if d.field?.isNone then r.diagnostics.count d else 0) ∧
    (r.byField.map fun g => g.2.length).sum + r.structural.length = r.size := by
  have hgroups := r.groups_byField
  refine ⟨hgroups.ascending, hgroups.mem_names_iff, fun name group => hgroups.lookup_eq_some_iff,
    List.filter_sublist, r.count_structural, ?_⟩
  have hlength := r.perm_views.length_eq
  simpa [List.length_flatMap, size] using hlength

end Refusal

end Criteria

/-
Every leaf of a condition fits its field.

* `Leaf.WellTyped`: a leaf with a lookup of its field, a list exactly in the
  membership lookup, and scalars that the field takes and that exist;
* `Leaf.wellTyped_of_validate`: what a field accepts makes such a leaf;
* `Registry.Prepares`: the leaves that a registry can give, and
  `Registry.Denotes.prepares` for those of a condition that a document stands
  for;
* `Engine.leaves_wellTyped`: so all leaves that the standard engine finds over
  a registry that was built are well typed, each for a usable field.
-/
import Criteria.Proofs.Condition.Validity
import Criteria.Proofs.Registry.Build

namespace Criteria

/-! ### The leaves of a condition -/

namespace Condition

lemma mem_leavesList {l : Leaf} {cs : List Condition} :
    l ∈ leavesList cs ↔ ∃ c ∈ cs, l ∈ c.leaves := by
  induction cs with
  | nil => simp [leavesList]
  | cons c cs ih => simp [leavesList, ih]

end Condition

/-- A junction has the leaves of its children. -/
lemma Junction.leaves_join (j : Junction) (children : List Condition) :
    (j.join children).leaves = Condition.leavesList children := by
  cases j <;> rw [join, Condition.leaves]

/-- The leaves that a registry can give: one of its fields with a value that the
field has prepared for the lookup. -/
def Registry.Prepares (r : Registry) (l : Leaf) : Prop :=
  l.field ∈ r.fields ∧ ∃ raw, l.field.validate raw l.lookup = .ok l.value

/-- The registry of a document has prepared all leaves of its condition. -/
lemma Registry.Denotes.prepares {r : Registry} {document : Json} :
    ∀ {c : Condition}, r.Denotes document c → ∀ l ∈ c.leaves, r.Prepares l := by
  induction document using Json.junction_induct with
  | _ document ih =>
      rintro c h l hl
      cases h with
      | junction hj hchildren =>
          rw [Junction.leaves_join, Condition.mem_leavesList] at hl
          obtain ⟨child, hchild, hl⟩ := hl
          obtain ⟨item, hitem, hdenotes⟩ := exists_left_of_forall₂ hchildren hchild
          exact ih _ _ hj item hitem hdenotes l hl
      | lookup hlookup hfield hvalue =>
          obtain rfl := List.mem_singleton.mp hl
          exact ⟨hfield, _, hvalue⟩

/-! ### Well-typed leaves -/

/-- A leaf fits its field: the field has the lookup, the value is a list exactly
in the membership lookup, and each scalar is one that the field takes, whose
day, time and offset exist. -/
structure Leaf.WellTyped (l : Leaf) : Prop where
  lookup_mem : l.lookup ∈ l.field.lookups.toList
  many_iff : (∃ scalars, l.value = .many scalars) ↔ l.lookup = membershipLookup
  takes : ∀ s ∈ l.value.scalars, l.field.Takes s
  exist : ∀ s ∈ l.value.scalars, s.Exists

/-- What a field accepts makes a well-typed leaf. -/
theorem Leaf.wellTyped_of_validate {l : Leaf} {raw : Json}
    (h : l.field.validate raw l.lookup = .ok l.value) : l.WellTyped := by
  obtain ⟨hlookup, hvalue⟩ := Field.validate_eq_ok_iff.mp h
  have hscalar : ∀ s ∈ l.value.scalars, ∃ item, l.field.scalar item = .ok s := by
    intro s hs
    obtain ⟨-, items, scalars, -, hitems, hmany⟩ | ⟨-, s', hs', hsingle⟩ := hvalue
    · rw [← hmany] at hs
      obtain ⟨item, -, hitem⟩ := exists_left_of_forall₂ hitems hs
      exact ⟨item, hitem⟩
    · rw [← hsingle] at hs
      obtain rfl := List.mem_singleton.mp hs
      exact ⟨raw, hs'⟩
  refine ⟨hlookup, ?_, fun s hs => ?_, fun s hs => ?_⟩
  · obtain ⟨hmember, items, scalars, -, -, hmany⟩ | ⟨hmember, s, -, hsingle⟩ := hvalue
    · simp [hmember, ← hmany]
    · simp [hmember, ← hsingle]
  · obtain ⟨item, hitem⟩ := hscalar s hs
    exact (Field.takes_of_scalar hitem).1
  · obtain ⟨item, hitem⟩ := hscalar s hs
    exact (Field.takes_of_scalar hitem).2

/-! ### Conditions over a registry -/

/-- **Leaves are well typed.** Whatever document the standard engine resolves
over a registry that was built, each leaf of the condition has a usable field of
the registry and fits it. -/
theorem Engine.leaves_wellTyped {b : RegistryBuilder} {r : Registry} (hbuild : b.build = .ok r)
    {document : Json} {c : Condition}
    (h : (Engine.standard r).resolve document = some (.ok c)) :
    ∀ l ∈ c.leaves, l.field ∈ r.fields ∧ l.field.Usable ∧ l.WellTyped := by
  have husable := (RegistryBuilder.exists_build_iff.mp ⟨r, hbuild⟩).2
  have hfields := RegistryBuilder.fields_of_build hbuild
  have hdenotes := (r.verdict_found_eq_some_iff document c).mp (resolve_standard_eq_ok_iff.mp h)
  intro l hl
  obtain ⟨hfield, raw, hvalue⟩ := hdenotes.prepares l hl
  exact ⟨hfield, husable l.field (hfields ▸ hfield), Leaf.wellTyped_of_validate hvalue⟩

/-- A date and an hour. -/
def RegistryBuilder.deadlines : RegistryBuilder :=
  (RegistryBuilder.empty.field ((Field.ofKind "due" .date).withLookups ["exact", "in"])).field
    ((Field.ofKind "hour" .hour).withLookups ["lte"])

/-- The last day of the weeks of a year, or the day after the moment of
execution. -/
def Json.dueSample : Json :=
  .obj [("kind", .str "lookup"), ("field", .str "due"), ("lookup", .str "in"),
    ("value", .arr [.str "2020-W53-7", .str "P1D"])]

/-- No later than an hour of the day. -/
def Json.hourSample : Json :=
  .obj [("kind", .str "lookup"), ("field", .str "hour"), ("lookup", .str "lte"),
    ("value", .num (.int 23))]

/-- The week of the sample ends in the next year, on a day that exists. -/
theorem Engine.leaves_wellTyped_deadlines :
    ∃ r c l, RegistryBuilder.deadlines.build = .ok r ∧
      (Engine.standard r).resolve (.obj [("kind", .str "and"),
        ("conditions", .arr [.dueSample, .hourSample])]) = some (.ok c) ∧
      c.leaves.length = 2 ∧ l ∈ c.leaves ∧
      Scalar.date ⟨⟨2021, 1, 3⟩, .weekday⟩ ∈ l.value.scalars ∧ l.WellTyped := by
  obtain ⟨r, hbuild⟩ : ∃ r, RegistryBuilder.deadlines.build = .ok r := ⟨_, rfl⟩
  have hfields := RegistryBuilder.fields_of_build hbuild
  have hdue : r.Denotes .dueSample
      (.leaf ⟨(Field.ofKind "due" .date).withLookups ["exact", "in"], "in",
        .many [.date ⟨⟨2021, 1, 3⟩, .weekday⟩,
          .relative { Duration.empty with days := some 1 } .date]⟩) :=
    .lookup ⟨rfl, rfl, rfl⟩ (hfields ▸ .head _) rfl
  have hhour : r.Denotes .hourSample
      (.leaf ⟨(Field.ofKind "hour" .hour).withLookups ["lte"], "lte", .single (.integer 23)⟩) :=
    .lookup ⟨rfl, rfl, rfl⟩ (hfields ▸ .tail _ (.head _)) rfl
  have hjunction : Json.IsJunction (.obj [("kind", .str "and"),
      ("conditions", .arr [.dueSample, .hourSample])]) .all [.dueSample, .hourSample] :=
    ⟨rfl, rfl, by simp⟩
  have hresolve := resolve_standard_eq_ok_iff.mpr ((Registry.verdict_found_eq_some_iff _ _ _).mpr
    (.junction hjunction (.cons hdue (.cons hhour .nil))))
  refine ⟨_, _, _, hbuild, hresolve, rfl, .head _, .head _, ?_⟩
  exact (leaves_wellTyped hbuild hresolve _ (.head _)).2.2

end Criteria

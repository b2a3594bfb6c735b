/-
What becomes of the overrides in a configuration.

* `RegistryConfig.completed_toBuilder`: the fields that a configuration
  declares, one for each declaration;
* `FieldConfig.toField_eq`: the parts that a declaration gives its field, and
  `FieldConfig.constraint` the constraint among them;
* `FieldConfig.HonouredBy`: a field keeps the overrides of its declaration, and
  they are of the shape that the kind asks for;
* `Registry.ofConfig_overrides`: overrides are kept, save for a range beside
  choices, which is lost;
* `Registry.ofConfig_loses_range`: so a range on a kind without ranges can go
  unnoticed.
-/
import Criteria.Proofs.Registry.Build
import Criteria.Registry.Config

namespace Criteria

/-! ### Registries of configurations -/

namespace RegistryConfig

lemma foldl_field (entries : List FieldConfig) (b : RegistryBuilder) :
    entries.foldl (fun b entry => b.field entry.toField) b
      = ⟨b.fields ++ entries.map FieldConfig.toField, b.defaults⟩ := by
  induction entries generalizing b with
  | nil => simp
  | cons entry entries ih =>
      rw [List.foldl_cons, ih]
      simp [RegistryBuilder.field]

/-- A configuration declares its fields in their order, each with the lookups
that it ends up with. -/
lemma completed_toBuilder (c : RegistryConfig) :
    c.toBuilder.completed
      = c.fields.map fun entry => entry.toField.completed c.defaultLookups := by
  rw [toBuilder, foldl_field, RegistryBuilder.completed]
  simp [RegistryBuilder.empty, RegistryBuilder.defaultLookups]

end RegistryConfig

/-! ### Overrides -/

namespace FieldConfig

/-- The constraint that is declared: choices if any are given, or else a range,
or else that of the kind. -/
def constraint (entry : FieldConfig) : Constraint :=
  match entry.choices, entry.range with
  | some choices, _ => .choice choices
  | none, some bounds => .range bounds
  | none, none => entry.kind.defaultConstraint

/-- A declaration gives a field its parts, as far as they are declared. -/
lemma toField_eq (entry : FieldConfig) :
    entry.toField
      = { name := entry.name
          storage := entry.storage.getD entry.name
          label := entry.label.getD (Field.ofKind entry.name entry.kind).label
          kind := entry.kind
          lookups := .ofList entry.lookups
          constraint := entry.constraint } := by
  obtain ⟨name, kind, lookups, storage, label, range, choices⟩ := entry
  cases storage <;> cases label <;> cases range <;> cases choices <;> rfl

/-- A declaration has a usable field of its kind and with its constraint. -/
structure Declares (entry : FieldConfig) (f : Field) : Prop where
  usable : f.Usable
  kind_eq : f.kind = entry.kind
  constraint_eq : f.constraint = entry.constraint

/-- A field keeps the overrides of its declaration. A range is on a kind with
ranges, choices are on a kind with choices, and either is the constraint of the
field; without an override that is the constraint of the kind. -/
structure HonouredBy (entry : FieldConfig) (f : Field) : Prop where
  range : ∀ bounds, entry.range = some bounds →
    entry.kind.requiredShape = .range ∧ f.constraint = .range bounds
  choices : ∀ choices, entry.choices = some choices →
    entry.kind.requiredShape = .choice ∧ f.constraint = .choice choices
  default : entry.range = none → entry.choices = none →
    f.constraint = entry.kind.defaultConstraint

namespace Declares

variable {entry : FieldConfig} {f : Field}

lemma requiredShape_eq (h : entry.Declares f) :
    entry.kind.requiredShape = f.constraint.shape := by
  rw [h.usable.shape_eq, h.kind_eq]

/-- The choices of a declaration are those of its field, which is of a kind with
choices. -/
lemma choices_kept (h : entry.Declares f) {choices : List Choice}
    (hc : entry.choices = some choices) :
    entry.kind.requiredShape = .choice ∧ f.constraint = .choice choices := by
  have hf : f.constraint = .choice choices := by rw [h.constraint_eq, constraint, hc]
  exact ⟨by rw [h.requiredShape_eq, hf, Constraint.shape], hf⟩

/-- A range without choices is that of the field, which is of a kind with
ranges. -/
lemma range_kept (h : entry.Declares f) (hc : entry.choices = none) {bounds : Range}
    (hr : entry.range = some bounds) :
    entry.kind.requiredShape = .range ∧ f.constraint = .range bounds := by
  have hf : f.constraint = .range bounds := by rw [h.constraint_eq, constraint, hc, hr]
  exact ⟨by rw [h.requiredShape_eq, hf, Constraint.shape], hf⟩

/-- Without overrides the constraint is that of the kind. -/
lemma default_kept (h : entry.Declares f) (hr : entry.range = none)
    (hc : entry.choices = none) : f.constraint = entry.kind.defaultConstraint := by
  rw [h.constraint_eq, constraint, hc, hr]

/-- The field of a declaration keeps its overrides exactly when they are not a
range beside choices. -/
lemma honouredBy_iff (h : entry.Declares f) :
    entry.HonouredBy f ↔ entry.range = none ∨ entry.choices = none := by
  constructor
  · intro hkept
    cases hr : entry.range with
    | none => exact .inl rfl
    | some bounds =>
        cases hc : entry.choices with
        | none => exact .inr rfl
        | some choices =>
            -- one kind would have to ask for both shapes
            have hrange := (hkept.range bounds hr).1
            rw [(hkept.choices choices hc).1] at hrange
            exact absurd hrange (by simp)
  · rintro (hr | hc)
    · refine ⟨fun bounds hbounds => ?_, fun _ => h.choices_kept, h.default_kept⟩
      rw [hr] at hbounds
      exact absurd hbounds (by simp)
    · exact ⟨fun _ => h.range_kept hc, fun _ => h.choices_kept, h.default_kept⟩

end Declares

end FieldConfig

namespace Registry

variable {c : RegistryConfig} {r : Registry}

/-- Each declaration of a configuration has its field, under the name declared. -/
lemma exists_get?_of_ofConfig (h : ofConfig c = .ok r) {entry : FieldConfig}
    (hentry : entry ∈ c.fields) : ∃ f, r.get? entry.name = some f ∧ entry.Declares f := by
  have husable := (RegistryBuilder.exists_build_iff.mp ⟨r, h⟩).2
  have hfields := RegistryBuilder.fields_of_build h
  have hmem : entry.toField.completed c.defaultLookups ∈ c.toBuilder.completed := by
    rw [c.completed_toBuilder]
    exact List.mem_map_of_mem hentry
  have hfield := entry.toField_eq
  refine ⟨entry.toField.completed c.defaultLookups, ?_, husable _ hmem, ?_, ?_⟩
  · refine get?_eq_some_iff.mpr ⟨hfields ▸ hmem, ?_⟩
    rw [Field.name_completed, hfield]
  · rw [Field.completed, hfield]
  · rw [Field.completed, hfield]

/-- **Overrides.** In a registry that is made from a configuration each
declaration has its field. Choices are always kept, and so on a kind with
choices; all overrides of a declaration are kept unless it gives a range beside
choices. So choices on a kind without choices, or a range alone on a kind
without ranges, refuse the configuration. -/
theorem ofConfig_overrides (c : RegistryConfig) :
    (∀ r, ofConfig c = .ok r → ∀ entry ∈ c.fields, ∃ f, r.get? entry.name = some f ∧
      (∀ choices, entry.choices = some choices →
        entry.kind.requiredShape = .choice ∧ f.constraint = .choice choices) ∧
      (entry.HonouredBy f ↔ entry.range = none ∨ entry.choices = none)) ∧
    ((∃ entry ∈ c.fields, (entry.choices ≠ none ∧ entry.kind.requiredShape ≠ .choice) ∨
        (entry.choices = none ∧ entry.range ≠ none ∧ entry.kind.requiredShape ≠ .range)) →
      ∃ e, ofConfig c = .error e) := by
  constructor
  · intro r h entry hentry
    obtain ⟨f, hget, hf⟩ := exists_get?_of_ofConfig h hentry
    exact ⟨f, hget, fun _ => hf.choices_kept, hf.honouredBy_iff⟩
  · rintro ⟨entry, hentry, hwrong⟩
    cases h : ofConfig c with
    | error e => exact ⟨e, rfl⟩
    | ok r =>
        obtain ⟨f, -, hf⟩ := exists_get?_of_ofConfig h hentry
        rcases hwrong with ⟨hc, hshape⟩ | ⟨hc, hr, hshape⟩
        · obtain ⟨choices, hchoices⟩ := Option.ne_none_iff_exists'.mp hc
          exact absurd (hf.choices_kept hchoices).1 hshape
        · obtain ⟨bounds, hbounds⟩ := Option.ne_none_iff_exists'.mp hr
          exact absurd (hf.range_kept hc hbounds).1 hshape

end Registry

/-- Weeks of a quarter: a range in place of that of the kind. -/
def RegistryConfig.quarterWeeks : RegistryConfig :=
  ⟨["exact"], [{ FieldConfig.ofKind "week" .week with range := some ⟨1, 13⟩ }]⟩

/-- Choices on a kind with ranges. -/
def RegistryConfig.namedDays : RegistryConfig :=
  ⟨["exact"], [{ FieldConfig.ofKind "day" .day with choices := some [⟨1, "first"⟩] }]⟩

/-- The range of the weeks is that of their field, and the choices of the days
refuse their configuration. -/
theorem Registry.ofConfig_overrides_weeks_days :
    (∃ r f, Registry.ofConfig .quarterWeeks = .ok r ∧ r.get? "week" = some f ∧
      f.constraint = .range ⟨1, 13⟩) ∧
    ∃ e, Registry.ofConfig .namedDays = .error e := by
  constructor
  · obtain ⟨f, hget, -, hf⟩ := (ofConfig_overrides .quarterWeeks).1 _ rfl _ (.head _)
    exact ⟨_, f, rfl, hget, ((hf.mpr (.inr rfl)).range _ rfl).2⟩
  · exact (ofConfig_overrides .namedDays).2 ⟨_, .head _, .inl ⟨by simp, by decide⟩⟩

/-- Months with a range beside their choices. -/
def RegistryConfig.rangedMonths : RegistryConfig :=
  ⟨["exact"], [{ FieldConfig.ofKind "month" .month with
    range := some ⟨1, 3⟩, choices := some [⟨1, "January"⟩] }]⟩

/-- The range is lost: the configuration makes a registry, though the kind has
no ranges. -/
theorem Registry.ofConfig_loses_range :
    (∃ r, Registry.ofConfig .rangedMonths = .ok r) ∧
    ¬ ∀ c r, Registry.ofConfig c = .ok r →
      ∀ entry ∈ c.fields, ∃ f, r.get? entry.name = some f ∧ entry.HonouredBy f := by
  refine ⟨⟨_, rfl⟩, fun h => ?_⟩
  obtain ⟨f, -, hf⟩ := h .rangedMonths _ rfl _ (.head _)
  exact absurd (hf.range _ rfl).1 (by decide)

end Criteria

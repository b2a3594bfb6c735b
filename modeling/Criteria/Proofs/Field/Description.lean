/-
What the description of a field says about its values.

* `Description.constraint`: the constraint that a description publishes;
  `Field.constraint_describe` finds it to be that of the field, so a list of choices
  without any is not mistaken for none;
* `Field.describe_eq_iff`: fields with one description differ in their name in storage
  alone, and `Field.validate_withStorage` says that values are not looked up there;
* `Description.Admits`: the integers that a description promises to take;
* `Field.validate_described`: so the description determines what becomes of every value,
  and a field for integers takes what its description promises.
-/
import Criteria.Proofs.Field.Integers

namespace Criteria

namespace Description

/-- The constraint that a description publishes: a range, or else the choices. -/
def constraint (d : Description) : Constraint :=
  match d.range, d.choices with
  | some bounds, _ => .range bounds
  | none, some choices => .choice choices
  | none, none => .free

/-- An integer that a description promises to take: it lies in the described range, is a
described key, or there is neither a range nor a list of choices. -/
def Admits (d : Description) (n : Int) : Prop :=
  (∃ bounds, d.range = some bounds ∧ bounds.min.toInt ≤ n ∧ n ≤ bounds.max.toInt) ∨
    (∃ choices, d.choices = some choices ∧ ∃ c ∈ choices, c.key.toInt = n) ∨
    (d.range = none ∧ d.choices = none)

end Description

namespace Field

variable {f g : Field} {raw : Json} {lookup storage : String} {n : Int}

/-! ### What is published -/

/-- The constraint of a field is published as it is. -/
lemma constraint_describe : f.describe.constraint = f.constraint := by
  rw [describe, Description.constraint]
  cases f.constraint <;> rfl

/-- The integers that are promised are those that the constraint admits. -/
lemma admits_describe_iff : f.describe.Admits n ↔ f.constraint.Admits n := by
  rw [describe, Description.Admits]
  cases f.constraint <;> simp [Constraint.Admits]

/-- Fields with one description differ in their name in storage alone. -/
theorem describe_eq_iff : f.describe = g.describe ↔ g = f.withStorage g.storage := by
  constructor
  · intro h
    have hconstraint : f.constraint = g.constraint := by
      rw [← constraint_describe, h, constraint_describe]
    have hlookups : f.lookups = g.lookups := NameSet.ext (congrArg Description.lookups h)
    obtain ⟨hname, hlabel, -, hkind, -⟩ := Description.mk.inj h
    cases f
    cases g
    simp_all [withStorage]
  · intro h
    rw [h]
    rfl

/-! ### What is not published -/

/-- The name in storage does not matter for the values of a field. -/
theorem validate_withStorage :
    (f.withStorage storage).validate raw lookup = f.validate raw lookup := by
  have hscalar : (f.withStorage storage).scalar = f.scalar := rfl
  unfold validate
  cases raw with
  | arr items => simp only [scalarList_eq_mapM, hscalar]; rfl
  | _ => rfl

/-! ### What the description determines -/

/-- **The description determines validation.** Fields with the same description make the
same of every value in every lookup, errors included. A field for integers takes an
integer of 64 bits, in any of its lookups but that of membership, exactly when its
description promises so. -/
theorem validate_described :
    (∀ f g : Field, f.describe = g.describe →
      ∀ (raw : Json) (lookup : String), f.validate raw lookup = g.validate raw lookup) ∧
    ∀ (f : Field) (raw : Json) (lookup : String) (n : Int), f.kind.IsInteger →
      f.supports lookup = true → lookup ≠ membershipLookup → raw.IsWord n →
        ((∃ value, f.validate raw lookup = .ok value) ↔ f.describe.Admits n) := by
  refine ⟨fun f g h raw lookup => ?_, fun f raw lookup n hkind h hne hword => ?_⟩
  · rw [describe_eq_iff.mp h, validate_withStorage]
  · rw [validate_of_ne h hne, scalar_of_isInteger hkind, admits_describe_iff]
    simp only [except_map_eq_ok_iff, ofInteger_eq_ok_iff, Json.isWord_iff,
      Json.integer?_eq_some_iff] at hword ⊢
    obtain ⟨rfl, hfits⟩ := hword
    simp [hfits]

/-- A field for months whose lookups and names were given in two orders, with no choice
left: it says the same of itself, and takes no month. Without any constraint a field for
years takes the least word. -/
theorem validate_described_months :
    let month := ((ofKind "month" .month).withConstraint (.choice [])).withLookups ["in", "gte"]
    let stored := (((ofKind "month" .month).withStorage "released").withLookups
      ["gte"]).withLookups ["in", "gte"]
    let emptied := stored.withConstraint (.choice [])
    let year := (ofKind "year" .year).withLookups ["gte"]
    month.describe = emptied.describe ∧ month ≠ emptied ∧
      (∀ raw lookup, month.validate raw lookup = emptied.validate raw lookup) ∧
      (¬ ∃ value, month.validate (.num (.int 1)) "gte" = .ok value) ∧
      ∃ value, year.validate (.num (.int (-9223372036854775808))) "gte" = .ok value := by
  intro month stored emptied year
  obtain ⟨hsame, hpromised⟩ := validate_described
  have hmonth : month.kind.IsInteger := by
    simp [month, ofKind, withConstraint, withLookups, ValueKind.IsInteger]
  have hyear : year.kind.IsInteger := by simp [year, ofKind, withLookups, ValueKind.IsInteger]
  refine ⟨rfl, fun h => ?_, hsame _ _ rfl, ?_, ?_⟩
  · exact absurd (congrArg Field.storage h) (by decide)
  · rw [hpromised month _ _ 1 hmonth rfl (by decide) ⟨rfl, by decide⟩]
    simp [month, describe, withConstraint, withLookups, Description.Admits]
  · rw [hpromised year _ _ _ hyear rfl (by decide) ⟨rfl, by decide⟩]
    exact .inr (.inr ⟨rfl, rfl⟩)

end Field

end Criteria

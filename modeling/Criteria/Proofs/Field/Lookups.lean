/-
The lookups of a field beside each other.

* `Field.validate_of_not_supports`, `Field.validate_of_ne`, `Field.validate_arr`,
  `Field.validate_of_not_arr`: a lookup that the field does not allow is refused; any
  other takes one scalar, but that of membership takes the scalars of a list, one after
  the other, and refuses what is no list;
* `Field.validate_elementwise`: so a list is what the other lookups make of its items,
  with the error of the first item that they refuse, and these lookups agree.
-/
import Criteria.Proofs.Field.Values

namespace Criteria.Field

variable {f : Field} {raw : Json} {items : List Json} {lookup : String}

/-- The value is not looked at when the field does not allow the lookup. -/
lemma validate_of_not_supports (h : f.supports lookup = false) :
    f.validate raw lookup = .error (.unsupportedLookup f.name lookup) := by
  unfold validate
  rw [h, if_neg Bool.false_ne_true]

/-- A lookup other than that of membership takes one scalar. -/
lemma validate_of_ne (h : f.supports lookup = true) (hne : lookup ≠ membershipLookup) :
    f.validate raw lookup = (f.scalar raw).map .single := by
  unfold validate
  rw [if_pos h, if_neg hne]

/-- The lookup of membership takes the scalars of a list. -/
lemma validate_arr (h : f.supports membershipLookup = true) :
    f.validate (.arr items) membershipLookup = (items.mapM f.scalar).map .many := by
  rw [validate, if_pos h, if_pos rfl, scalarList_eq_mapM]

/-- What is no list is no value for the lookup of membership. -/
lemma validate_of_not_arr (h : f.supports membershipLookup = true)
    (hraw : ∀ items, raw ≠ .arr items) :
    f.validate raw membershipLookup = .error (.typeMismatch f.name (.list f.kind)) := by
  unfold validate
  rw [if_pos h, if_pos rfl]
  cases raw with
  | arr items => exact absurd rfl (hraw items)
  | _ => rfl

lemma validate_eq_ok_single_iff (h : f.supports lookup = true) (hne : lookup ≠ membershipLookup)
    {s : Scalar} : f.validate raw lookup = .ok (.single s) ↔ f.scalar raw = .ok s := by
  simp [validate_of_ne h hne, except_map_eq_ok_iff]

lemma validate_eq_error_iff_scalar (h : f.supports lookup = true)
    (hne : lookup ≠ membershipLookup) {e : FieldError} :
    f.validate raw lookup = .error e ↔ f.scalar raw = .error e := by
  rw [validate_of_ne h hne, except_map_eq_error_iff]

/-- **Lists are read item by item.** In the lookup of membership a list is accepted
exactly when each item is accepted in any other lookup, and its value are the scalars of
the items; otherwise the error is that of the first item that is refused there. What is
no list is refused, the other lookups do not differ from each other, and a lookup that
the field does not allow is refused whatever the value. -/
theorem validate_elementwise (f : Field) :
    (∀ lookup, f.supports membershipLookup = true → f.supports lookup = true →
      lookup ≠ membershipLookup → ∀ items : List Json,
        (∀ value, f.validate (.arr items) membershipLookup = .ok value
          ↔ ∃ scalars, value = .many scalars ∧
            List.Forall₂ (fun item s => f.validate item lookup = .ok (.single s))
              items scalars) ∧
        ∀ e, f.validate (.arr items) membershipLookup = .error e
          ↔ ∃ (k : ℕ) (item : Json), items[k]? = some item ∧ f.validate item lookup = .error e ∧
            ∀ j < k, ∀ earlier, items[j]? = some earlier →
              ∃ s, f.validate earlier lookup = .ok (.single s)) ∧
    (∀ raw lookup lookup', f.supports lookup = true → f.supports lookup' = true →
      lookup ≠ membershipLookup → lookup' ≠ membershipLookup →
        f.validate raw lookup = f.validate raw lookup') ∧
    (∀ raw, f.supports membershipLookup = true → (∀ items, raw ≠ .arr items) →
      f.validate raw membershipLookup = .error (.typeMismatch f.name (.list f.kind))) ∧
    ∀ raw lookup, f.supports lookup = false →
      f.validate raw lookup = .error (.unsupportedLookup f.name lookup) := by
  refine ⟨fun lookup hmember h hne items => ?_, fun raw lookup lookup' h h' hne hne' => ?_,
    fun _ => validate_of_not_arr, fun _ _ => validate_of_not_supports⟩
  · simp only [validate_eq_ok_single_iff h hne, validate_eq_error_iff_scalar h hne]
    rw [validate_arr hmember]
    refine ⟨fun value => ?_, fun e => ?_⟩
    · rw [except_map_eq_ok_iff]
      simp only [except_mapM_eq_ok_iff_forall₂]
      exact ⟨fun ⟨scalars, hscalars, hvalue⟩ => ⟨scalars, hvalue.symm, hscalars⟩,
        fun ⟨scalars, hvalue, hscalars⟩ => ⟨scalars, hscalars, hvalue.symm⟩⟩
    · rw [except_map_eq_error_iff, except_mapM_eq_error_iff_getElem?]
  · rw [validate_of_ne h hne, validate_of_ne h' hne']

/-- A list of days with two items that are no such days, of which the first is
reported; a list of lists; and a lookup that is not allowed. -/
theorem validate_elementwise_days :
    let day := (ofKind "day" .day).withLookups ["in", "lte", "gte"]
    day.validate (.arr [.num (.int 31), .num (.int 32), .str "1"]) "in"
        = .error (.outOfRange "day" 32 ⟨1, 31⟩) ∧
      day.validate (.arr [.num (.int 31), .num (.int 1)]) "in"
        = .ok (.many [.integer 31, .integer 1]) ∧
      day.validate (.num (.int 0)) "lte" = day.validate (.num (.int 0)) "gte" ∧
      day.validate (.num (.int 31)) "in" = .error (.typeMismatch "day" (.list .day)) ∧
      day.validate .null "exact" = .error (.unsupportedLookup "day" "exact") := by
  intro day
  obtain ⟨hitems, hagree, hlist, hsupported⟩ := validate_elementwise day
  obtain ⟨-, herror⟩ := hitems "lte" rfl rfl (by decide)
    [.num (.int 31), .num (.int 32), .str "1"]
  obtain ⟨hok, -⟩ := hitems "lte" rfl rfl (by decide) [.num (.int 31), .num (.int 1)]
  refine ⟨(herror _).mpr ⟨1, _, rfl, rfl, ?_⟩, (hok _).mpr ⟨_, rfl, .cons rfl (.cons rfl .nil)⟩,
    hagree _ _ _ rfl rfl (by decide) (by decide), hlist _ rfl (fun _ => by simp),
    hsupported _ _ rfl⟩
  intro j hj earlier hearlier
  obtain rfl : j = 0 := by omega
  obtain rfl : .num (.int 31) = earlier := Option.some.inj hearlier
  exact ⟨_, rfl⟩

end Criteria.Field

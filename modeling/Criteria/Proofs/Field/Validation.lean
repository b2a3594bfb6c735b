/-
Errors of fields carry the name of the field.

* `Field.field_of_scalar_error`, `Field.field_of_validate_error`: whatever a
  value is rejected for, the error names the field that rejects it.
-/
import Criteria.Field.Validation
import Criteria.Proofs.Result

namespace Criteria

lemma Constraint.field_of_check_error {c : Constraint} {name : String} {n : Int}
    {e : FieldError} (h : c.check name n = .error e) : e.field = name := by
  unfold check at h
  split at h
  · exact absurd h (by simp)
  · cases c with
    | free => exact absurd h (by simp)
    | range bounds => exact Except.error.inj h ▸ rfl
    | choice choices => exact Except.error.inj h ▸ rfl

namespace Field

variable {f : Field} {e : FieldError}

lemma field_of_ofLiteral_error {α : Type} {result : Except TemporalError α}
    {make : α → Scalar} (h : f.ofLiteral result make = .error e) : e.field = f.name := by
  cases result with
  | ok a => exact absurd h (by simp [ofLiteral])
  | error source => exact Except.error.inj h ▸ rfl

lemma field_of_ofLiteralOrDuration_error {α : Type} {s : String} {resolution : Resolution}
    {absolute : String → Except TemporalError α} {make : α → Scalar}
    (h : f.ofLiteralOrDuration s resolution absolute make = .error e) : e.field = f.name := by
  rw [ofLiteralOrDuration] at h
  split at h
  · exact absurd h (by simp)
  · exact field_of_ofLiteral_error h

lemma field_of_mismatch (h : (.error f.mismatch : Except FieldError Scalar) = .error e) :
    e.field = f.name := Except.error.inj h ▸ rfl

lemma field_of_ofInteger_error {raw : Json} (h : f.ofInteger raw = .error e) :
    e.field = f.name := by
  unfold ofInteger at h
  split at h
  · rename_i n _
    cases hcheck : f.constraint.check f.name n with
    | ok _ => rw [hcheck] at h; exact absurd h (by simp)
    | error e' =>
        rw [hcheck] at h
        exact Except.error.inj h ▸ Constraint.field_of_check_error hcheck
  · exact field_of_mismatch h

/-- An error about a single value names the field. -/
lemma field_of_scalar_error {raw : Json} (h : f.scalar raw = .error e) : e.field = f.name := by
  unfold scalar at h
  split at h
  -- numbers, texts and truth values
  case h_1 | h_2 | h_3 =>
    split at h
    · cases h
    · exact field_of_mismatch h
  -- dates and datetimes, which may be durations
  case h_4 | h_5 =>
    split at h
    · exact field_of_ofLiteralOrDuration_error h
    · exact field_of_mismatch h
  -- times of day
  case h_6 =>
    split at h
    · exact field_of_ofLiteral_error h
    · exact field_of_mismatch h
  all_goals exact field_of_ofInteger_error h

lemma field_of_scalarList_error {items : List Json} (h : f.scalarList items = .error e) :
    e.field = f.name := by
  induction items with
  | nil => exact absurd h (by simp [scalarList])
  | cons item items ih =>
      rw [scalarList] at h
      cases hitem : f.scalar item with
      | error e' =>
          rw [hitem] at h
          exact Except.error.inj h ▸ field_of_scalar_error hitem
      | ok s =>
          rw [hitem] at h
          cases hrest : f.scalarList items with
          | error e' =>
              rw [hrest] at h
              exact ih (Except.error.inj h ▸ hrest)
          | ok ss => rw [hrest] at h; exact absurd h (by simp)

/-- **An error names its field**, whatever the lookup and the value. -/
theorem field_of_validate_error {raw : Json} {lookup : String}
    (h : f.validate raw lookup = .error e) : e.field = f.name := by
  unfold validate at h
  split at h
  · split at h
    · split at h
      · exact field_of_scalarList_error (except_map_eq_error_iff.mp h)
      · exact Except.error.inj h ▸ rfl
    · exact field_of_scalar_error (except_map_eq_error_iff.mp h)
  · exact Except.error.inj h ▸ rfl

end Field

end Criteria

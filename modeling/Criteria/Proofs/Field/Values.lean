/-
The values that a field takes.

* `Json.integer?_eq_some_iff`: the integer of a document is the one that is written,
  when a word holds it, signed or unsigned;
* `Constraint.Admits`: the integers that a constraint admits, by its bounds or
  its keys; `Constraint.allows_iff` is the check of one;
* `Field.Takes`: the scalars of the form that the kind of a field dictates, and
  `Scalar.Exists` those whose day, time and offset are real;
* `Field.takes_of_scalar`: whatever document a field accepts, the scalar that it
  prepares is such a one;
* `Field.scalarList_eq_ok_iff`, `Field.validate_eq_ok_iff`: a membership lookup
  prepares the scalars of a list, one for each item, and any other lookup one
  scalar.
-/
import Criteria.Field.Validation
import Criteria.Proofs.Temporal.Literal
import Mathlib.Data.List.Forall2

namespace Criteria

/-! ### Integers -/

/-- The integer of a number is the one that is written, when a word holds it. -/
lemma Json.integer?_int_eq_some_iff {m n : Int} :
    integer? (.num (.int m)) = some n ↔ m = n ∧ Number.fitsWord n := by
  simp only [integer?, Number.signed?, Number.unsigned?, Option.or_eq_some_iff,
    Option.map_eq_some_iff, signedWord?_eq_some_iff, unsignedWord?_eq_some_iff, Number.fitsWord,
    Bool.and_eq_true, decide_eq_true_eq]
  constructor
  · rintro (⟨w, rfl, rfl⟩ | ⟨-, w, rfl, rfl⟩)
    · have hmin := w.le_toInt
      have hmax := w.toInt_lt
      exact ⟨rfl, by omega⟩
    · have hmax := w.toNat_lt
      exact ⟨rfl, by omega⟩
  · rintro ⟨rfl, hmin, hmax⟩
    cases hsigned : signedWord? m with
    | some w =>
        have hw := signedWord?_eq_some_iff.mp hsigned
        exact .inl ⟨w, hw, hw⟩
    | none =>
        have hpos : 0 ≤ m := by
          by_contra hneg
          rw [signedWord?, if_pos (by omega)] at hsigned
          cases hsigned
        obtain ⟨w, hw⟩ := Option.isSome_iff_exists.mp
          (show (unsignedWord? m).isSome by simp [unsignedWord?, hpos, hmax])
        rw [unsignedWord?_eq_some_iff] at hw
        exact .inr ⟨rfl, w, hw, hw⟩

/-- The integer of a document is the one that is written, when a word holds it. -/
theorem Json.integer?_eq_some_iff {raw : Json} {n : Int} :
    raw.integer? = some n ↔ raw = .num (.int n) ∧ Number.fitsWord n := by
  cases raw with
  | num number =>
      cases number with
      | float x => simp [integer?, Number.signed?, Number.unsigned?]
      | int m => simp [integer?_int_eq_some_iff]
  | _ => simp [integer?]

/-- A word is within bounds when its integer is. -/
lemma Range.contains_iff {r : Range} {w : Int64} :
    r.contains w = true ↔ r.min.toInt ≤ w.toInt ∧ w.toInt ≤ r.max.toInt := by
  simp [contains, Int64.le_iff_toInt_le]

namespace Constraint

/-- An integer that a constraint admits lies within the bounds of a range, or
is the key of a choice. -/
def Admits : Constraint → Int → Prop
  | free, _ => True
  | range bounds, n => bounds.min.toInt ≤ n ∧ n ≤ bounds.max.toInt
  | choice choices, n => ∃ c ∈ choices, c.key.toInt = n

/-- An integer between two words is that of a word. -/
lemma exists_word_of_between {a b : Int64} {n : Int} (ha : a.toInt ≤ n) (hb : n ≤ b.toInt) :
    ∃ w : Int64, w.toInt = n := by
  have hmin := a.le_toInt
  have hmax := b.toInt_lt
  exact ⟨Int64.ofInt n, Int64.toInt_ofInt_of_le (by omega) (by omega)⟩

lemma allows_iff {c : Constraint} {n : Int} : c.allows n = true ↔ c.Admits n := by
  cases c with
  | free => simp [allows, Admits]
  | range bounds =>
      simp only [allows, Admits, Option.any_eq_true, signedWord?_eq_some_iff, Range.contains_iff]
      constructor
      · rintro ⟨w, rfl, hw⟩
        exact hw
      · rintro ⟨hmin, hmax⟩
        obtain ⟨w, rfl⟩ := exists_word_of_between hmin hmax
        exact ⟨w, rfl, hmin, hmax⟩
  | choice choices =>
      simp only [allows, Admits, Option.any_eq_true, signedWord?_eq_some_iff, List.any_eq_true,
        decide_eq_true_eq]
      constructor
      · rintro ⟨w, rfl, c, hc, rfl⟩
        exact ⟨c, hc, rfl⟩
      · rintro ⟨c, hc, rfl⟩
        exact ⟨c.key, rfl, c, hc, rfl⟩

lemma check_eq_ok_iff {c : Constraint} {name : String} {n : Int} :
    c.check name n = .ok () ↔ c.Admits n := by
  unfold check
  rw [← allows_iff]
  split_ifs with h
  · simp [h]
  · cases c with
    | free => exact absurd rfl h
    | range | choice => simp [h]

end Constraint

/-! ### Scalars -/

/-- The days, times and offsets of a scalar exist. -/
def Scalar.Exists : Scalar → Prop
  | date d => d.date.Exists
  | time t => t.Exists
  | datetime t => t.Exists
  | _ => True

namespace Field

/-- A scalar has the form that the kind of a field dictates. A field for dates
or datetimes also takes what is relative to the moment of execution, and an
integer has to be one that the constraint admits. -/
def Takes (f : Field) (s : Scalar) : Prop :=
  match f.kind with
  | .float => ∃ x, s = .float x
  | .string => ∃ text, s = .string text
  | .boolean => ∃ b, s = .boolean b
  | .date => (∃ d, s = .date d) ∨ ∃ d, s = .relative d .date
  | .time => ∃ t, s = .time t
  | .datetime => (∃ t, s = .datetime t) ∨ ∃ d, s = .relative d .datetime
  | .int | .year | .month | .week | .day | .weekday | .hour | .minute | .second =>
    ∃ n, s = .integer n ∧ f.constraint.Admits n

variable {f : Field} {raw : Json} {s : Scalar} {lookup : String} {value : Prepared}

lemma ofLiteral_eq_ok_iff {α : Type} {result : Except TemporalError α} {make : α → Scalar} :
    f.ofLiteral result make = .ok s ↔ ∃ a, result = .ok a ∧ make a = s := by
  cases result <;> simp [ofLiteral]

lemma ofLiteralOrDuration_eq_ok_iff {α : Type} {text : String} {resolution : Resolution}
    {absolute : String → Except TemporalError α} {make : α → Scalar} :
    f.ofLiteralOrDuration text resolution absolute make = .ok s
      ↔ (∃ d, Duration.parse text = .ok d ∧ .relative d resolution = s) ∨
        (∃ e, Duration.parse text = .error e) ∧ ∃ a, absolute text = .ok a ∧ make a = s := by
  rw [ofLiteralOrDuration]
  cases Duration.parse text with
  | ok d => simp
  | error e => simp [ofLiteral_eq_ok_iff]

/-- Integers are prepared as they are, when they fit in a word and the
constraint admits them. -/
lemma ofInteger_eq_ok_iff :
    f.ofInteger raw = .ok s
      ↔ ∃ n, raw = .num (.int n) ∧ Number.fitsWord n ∧ f.constraint.Admits n ∧
        .integer n = s := by
  unfold ofInteger
  split
  · rename_i n hn
    have hcheck : f.constraint.check f.name n = .ok () ↔ f.constraint.Admits n :=
      Constraint.check_eq_ok_iff
    obtain ⟨rfl, hword⟩ := Json.integer?_eq_some_iff.mp hn
    cases h : f.constraint.check f.name n with
    | ok _ => simp [hword, ← hcheck, h]
    | error e => simp [hword, ← hcheck, h]
  · rename_i hnone
    simp only [reduceCtorEq, false_iff]
    rintro ⟨n, hraw, hword, -⟩
    rw [Json.integer?_eq_some_iff.mpr ⟨hraw, hword⟩] at hnone
    cases hnone

/-- The scalar that a field prepares has the form that its kind dictates, and
what it names exists. -/
theorem takes_of_scalar (h : f.scalar raw = .ok s) : f.Takes s ∧ s.Exists := by
  unfold scalar at h
  unfold Takes
  cases hkind : f.kind with
  | float | string | boolean =>
      simp only [hkind] at h
      split at h
      · obtain rfl := Except.ok.inj h
        exact ⟨⟨_, rfl⟩, trivial⟩
      · cases h
  | date =>
      simp only [hkind] at h
      split at h
      · obtain ⟨d, -, rfl⟩ | ⟨-, d, hd, rfl⟩ := ofLiteralOrDuration_eq_ok_iff.mp h
        · exact ⟨.inr ⟨d, rfl⟩, trivial⟩
        · exact ⟨.inl ⟨d, rfl⟩, WrittenDate.exists_of_parse hd⟩
      · cases h
  | datetime =>
      simp only [hkind] at h
      split at h
      · obtain ⟨d, -, rfl⟩ | ⟨-, t, ht, rfl⟩ := ofLiteralOrDuration_eq_ok_iff.mp h
        · exact ⟨.inr ⟨d, rfl⟩, trivial⟩
        · exact ⟨.inl ⟨t, rfl⟩, DateTime.exists_of_parse ht⟩
      · cases h
  | time =>
      simp only [hkind] at h
      split at h
      · obtain ⟨t, ht, rfl⟩ := ofLiteral_eq_ok_iff.mp h
        exact ⟨⟨t, rfl⟩, TimeOfDay.exists_of_parse ht⟩
      · cases h
  | int | year | month | week | day | weekday | hour | minute | second =>
      simp only [hkind] at h
      obtain ⟨n, -, -, hn, rfl⟩ := ofInteger_eq_ok_iff.mp h
      exact ⟨⟨n, rfl, hn⟩, trivial⟩

/-! ### Values -/

/-- The items of a list are looked at one after the other. -/
lemma scalarList_eq_mapM (items : List Json) : f.scalarList items = items.mapM f.scalar := by
  induction items with
  | nil => rfl
  | cons item items ih =>
      rw [scalarList, List.mapM_cons, ih]
      cases f.scalar item with
      | error e => rfl
      | ok s => cases items.mapM f.scalar <;> rfl

lemma scalarList_eq_ok_iff {items : List Json} {scalars : List Scalar} :
    f.scalarList items = .ok scalars
      ↔ List.Forall₂ (fun item s => f.scalar item = .ok s) items scalars := by
  rw [scalarList_eq_mapM, except_mapM_eq_ok_iff_forall₂]

/-- A supported lookup takes a list when it is that of membership, and then
prepares one scalar for each item; any other takes a single value. -/
lemma validate_eq_ok_iff :
    f.validate raw lookup = .ok value
      ↔ lookup ∈ f.lookups.toList ∧
        ((lookup = membershipLookup ∧ ∃ items scalars, raw = .arr items ∧
            List.Forall₂ (fun item s => f.scalar item = .ok s) items scalars ∧
            .many scalars = value) ∨
          (lookup ≠ membershipLookup ∧ ∃ s, f.scalar raw = .ok s ∧ .single s = value)) := by
  have hsupports : f.supports lookup = true ↔ lookup ∈ f.lookups.toList := by
    simp [supports, NameSet.contains]
  unfold validate
  rw [← hsupports]
  by_cases hlookup : f.supports lookup = true
  · by_cases hmember : lookup = membershipLookup
    · subst hmember
      rw [if_pos hlookup, if_pos rfl]
      simp only [hlookup]
      cases raw with
      | arr items => simp [except_map_eq_ok_iff, scalarList_eq_ok_iff]
      | _ => simp
    · simp [hlookup, hmember, except_map_eq_ok_iff]
  · simp [hlookup]

end Field

end Criteria

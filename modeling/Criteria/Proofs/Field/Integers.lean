/-
The fields for integers.

* `Constraint.Refuses`: what is said of an integer that a constraint does not admit;
  `Constraint.check_eq_error_iff` is the check of one, whatever its size;
* `Range.contains_halfOpen_iff`, `Range.admits_halfOpen_iff`: the bounds without their
  end, for words and for integers;
* `ValueKind.IsInteger`: the kinds whose values are integers, and `Json.IsWord` the
  documents that are integers of 64 bits, signed or unsigned;
* `Field.validate_integer_exact`: a field of such a kind takes exactly the words that its
  constraint admits, prepares them as they are, and says why it refuses any other value.
-/
import Criteria.Proofs.Field.Lookups
import Mathlib.Algebra.Ring.Int.Defs

namespace Criteria

/-! ### Constraints -/

namespace Constraint

variable {c : Constraint} {name : String} {n : Int} {e : FieldError}

/-- What is said of an integer that a constraint does not admit: it lies outside the
bounds, or is none of the keys. -/
inductive Refuses (name : String) (n : Int) : Constraint → FieldError → Prop where
  | outOfRange {bounds : Range} (h : n < bounds.min.toInt ∨ bounds.max.toInt < n) :
      Refuses name n (.range bounds) (.outOfRange name n bounds)
  | invalidChoice {choices : List Choice} (h : ∀ c ∈ choices, c.key.toInt ≠ n) :
      Refuses name n (.choice choices) (.invalidChoice name n (choices.map Choice.key))

/-- A constraint does not refuse what it admits. -/
lemma Refuses.not_admits (h : c.Refuses name n e) : ¬ c.Admits n := by
  cases h with
  | outOfRange h => rw [Admits]; omega
  | invalidChoice h =>
      rintro ⟨c, hc, hkey⟩
      exact h c hc hkey

/-- The check fails with what is said of an integer that is not admitted. -/
lemma check_eq_error_iff : c.check name n = .error e ↔ c.Refuses name n e := by
  constructor
  · intro h
    have hadmits : ¬ c.Admits n := by
      intro hadmits
      have hok : c.check name n = .ok () := check_eq_ok_iff.mpr hadmits
      rw [hok] at h
      cases h
    unfold check at h
    rw [if_neg (mt allows_iff.mp hadmits)] at h
    cases c with
    | free => cases h
    | range bounds =>
        obtain rfl := Except.error.inj h
        refine .outOfRange ?_
        rw [Admits] at hadmits
        omega
    | choice choices =>
        obtain rfl := Except.error.inj h
        exact .invalidChoice fun c hc hkey => hadmits ⟨c, hc, hkey⟩
  · intro h
    unfold check
    rw [if_neg (mt allows_iff.mp h.not_admits)]
    cases h <;> rfl

end Constraint

namespace Range

variable {start stop w : Int64} {n : Int}

/-- The end of bounds without their end, when there is a word before it. -/
lemma toInt_max_halfOpen (h : Int64.minValue < stop) :
    (halfOpen start stop).max.toInt = stop.toInt - 1 := by
  have hmax := stop.toInt_lt
  rw [Int64.lt_iff_toInt_lt, Int64.toInt_minValue] at h
  rw [halfOpen, Int64.toInt_sub, Int64.toInt_one, Int.bmod_eq_of_le] <;> omega

/-- The integers from the start up to, but not including, the end. -/
lemma admits_halfOpen_iff (h : Int64.minValue < stop) :
    (Constraint.range (halfOpen start stop)).Admits n ↔ start.toInt ≤ n ∧ n < stop.toInt := by
  rw [Constraint.Admits, toInt_max_halfOpen h, Int.le_sub_one_iff, halfOpen]

/-- The words from the start up to, but not including, the end. -/
lemma contains_halfOpen_iff (h : Int64.minValue < stop) :
    (halfOpen start stop).contains w = true ↔ start ≤ w ∧ w < stop := by
  rw [contains_iff, toInt_max_halfOpen h, Int.le_sub_one_iff, Int64.le_iff_toInt_le,
    Int64.lt_iff_toInt_lt, halfOpen]

end Range

/-! ### Values -/

/-- The kinds whose values are integers. -/
def ValueKind.IsInteger (k : ValueKind) : Prop :=
  k ∈ [int, year, month, week, day, weekday, hour, minute, second]

/-- These are the kinds that ask for an integer. -/
lemma ValueKind.isInteger_iff {k : ValueKind} : k.IsInteger ↔ k.inputKind = .int := by
  cases k <;> simp [IsInteger, inputKind]

/-- A document is an integer that a 64-bit word holds, signed or unsigned. -/
def Json.IsWord (raw : Json) (n : Int) : Prop :=
  raw = .num (.int n) ∧ -2 ^ 63 ≤ n ∧ n ≤ 2 ^ 64 - 1

/-- These are the documents with an integer. -/
lemma Json.isWord_iff {raw : Json} {n : Int} : raw.IsWord n ↔ raw.integer? = some n := by
  rw [integer?_eq_some_iff, IsWord, Number.fitsWord]
  simp only [Bool.and_eq_true, decide_eq_true_eq, and_congr_right_iff]
  omega

namespace Field

variable {f : Field} {raw : Json} {s : Scalar} {e : FieldError}

/-- A field for integers looks for an integer. -/
lemma scalar_of_isInteger (h : f.kind.IsInteger) : f.scalar raw = f.ofInteger raw := by
  unfold scalar
  rw [ValueKind.isInteger_iff] at h
  cases hkind : f.kind with
  | float | string | boolean | date | time | datetime =>
      rw [hkind] at h
      cases h
  | int | year | month | week | day | weekday | hour | minute | second => rfl

/-- Integers are refused by the constraint, and what is no integer for its type. -/
lemma ofInteger_eq_error_iff :
    f.ofInteger raw = .error e
      ↔ (∃ n, raw.IsWord n ∧ f.constraint.Refuses f.name n e) ∨
        (∀ n, ¬ raw.IsWord n) ∧ e = .typeMismatch f.name (.one f.kind) := by
  simp only [Json.isWord_iff, ← Constraint.check_eq_error_iff]
  unfold ofInteger
  cases raw.integer? with
  | none => simp [mismatch, eq_comm]
  | some n => cases h : f.constraint.check f.name n <;> simp [h]

/-- **Integers are taken exactly.** A field for integers accepts, in any lookup but that of
membership, the integers of 64 bits that its constraint admits, and its value is the very
integer; an integer that the constraint does not admit is reported as such, anything else
as a value of the wrong type. The check of a constraint obeys the same law for integers of
any size, and the bounds without their end admit what is before the end. -/
theorem validate_integer_exact :
    (∀ (f : Field) (raw : Json) (lookup : String), f.kind.IsInteger →
      f.supports lookup = true → lookup ≠ membershipLookup →
        (∀ value, f.validate raw lookup = .ok value
          ↔ ∃ n, raw.IsWord n ∧ f.constraint.Admits n ∧ value = .single (.integer n)) ∧
        ∀ e, f.validate raw lookup = .error e
          ↔ (∃ n, raw.IsWord n ∧ f.constraint.Refuses f.name n e) ∨
            (∀ n, ¬ raw.IsWord n) ∧ e = .typeMismatch f.name (.one f.kind)) ∧
    (∀ (c : Constraint) (name : String) (n : Int),
      (c.check name n = .ok () ↔ c.Admits n) ∧
        ∀ e, c.check name n = .error e ↔ c.Refuses name n e) ∧
    ∀ start stop : Int64, Int64.minValue < stop →
      (∀ w, (Range.halfOpen start stop).contains w = true ↔ start ≤ w ∧ w < stop) ∧
        ∀ name n, (Constraint.range (Range.halfOpen start stop)).check name n = .ok ()
          ↔ start.toInt ≤ n ∧ n < stop.toInt := by
  refine ⟨fun f raw lookup hkind h hne => ⟨fun value => ?_, fun e => ?_⟩,
    fun c name n => ⟨Constraint.check_eq_ok_iff, fun e => Constraint.check_eq_error_iff⟩,
    fun start stop hstop => ⟨fun w => Range.contains_halfOpen_iff hstop, fun name n => ?_⟩⟩
  · rw [validate_of_ne h hne, except_map_eq_ok_iff, scalar_of_isInteger hkind]
    simp only [ofInteger_eq_ok_iff, Json.isWord_iff, Json.integer?_eq_some_iff]
    constructor
    · rintro ⟨_, ⟨n, hraw, hword, hn, rfl⟩, rfl⟩
      exact ⟨n, ⟨hraw, hword⟩, hn, rfl⟩
    · rintro ⟨n, ⟨hraw, hword⟩, hn, rfl⟩
      exact ⟨_, ⟨n, hraw, hword, hn, rfl⟩, rfl⟩
  · rw [validate_eq_error_iff_scalar h hne, scalar_of_isInteger hkind, ofInteger_eq_error_iff]
  · rw [Constraint.check_eq_ok_iff, Range.admits_halfOpen_iff hstop]

/-- The greatest unsigned and the least signed word where there is no constraint, the
first integer after the signed words in bounds that have all of these, a number that is
not written as an integer, and bounds with one word. -/
theorem validate_integer_exact_limits :
    let year := (ofKind "year" .year).withLookups ["gte"]
    let bounds : Range := ⟨Int64.minValue, Int64.maxValue⟩
    let bounded := year.withConstraint (.range bounds)
    year.validate (.num (.int 18446744073709551615)) "gte"
        = .ok (.single (.integer 18446744073709551615)) ∧
      year.validate (.num (.int (-9223372036854775808))) "gte"
        = .ok (.single (.integer (-9223372036854775808))) ∧
      bounded.validate (.num (.int 9223372036854775808)) "gte"
        = .error (.outOfRange "year" 9223372036854775808 bounds) ∧
      year.validate (.num (.float 2000)) "gte" = .error (.typeMismatch "year" (.one .year)) ∧
      (Range.halfOpen Int64.minValue (Int64.minValue + 1)).contains Int64.minValue = true ∧
      (Constraint.range (Range.halfOpen 1 54)).check "week" 53 = .ok () := by
  intro year bounds bounded
  obtain ⟨hvalues, -, hbounds⟩ := validate_integer_exact
  have hkind : year.kind.IsInteger := by simp [year, ofKind, withLookups, ValueKind.IsInteger]
  refine ⟨(hvalues year _ _ hkind rfl (by decide)).1 _ |>.mpr ⟨_, ⟨rfl, by decide⟩, trivial, rfl⟩,
    (hvalues year _ _ hkind rfl (by decide)).1 _ |>.mpr ⟨_, ⟨rfl, by decide⟩, trivial, rfl⟩,
    (hvalues bounded _ _ hkind rfl (by decide)).2 _ |>.mpr
      (.inl ⟨_, ⟨rfl, by decide⟩, .outOfRange (.inr (by decide))⟩),
    (hvalues year _ _ hkind rfl (by decide)).2 _ |>.mpr (.inr ⟨fun n h => ?_, rfl⟩),
    (hbounds _ _ (by decide)).1 _ |>.mpr (by decide),
    (hbounds 1 54 (by decide)).2 _ _ |>.mpr (by decide)⟩
  cases h.1

end Field

end Criteria

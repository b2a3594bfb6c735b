/-
Values are read back from the JSON trees that they are written as.

* `ReadsBack`: a way to write values as trees together with a reader of them: the
  trees have a spelling, are not null and give back their values;
* `ReadsBack.string`, `ReadsBack.int64`, `ReadsBack.list`, `ReadsBack.name`:
  strings, integers, lists of values and cases by name;
* `Record.ofWritten?_record`: a record is read from the object that it is written
  as, when its names are distinct;
* `Record.given`: a record without the fields that have no value;
  `Record.find?_given` looks a field up in what is left.
-/
import Criteria.Json.Record
import Criteria.Proofs.Json.Pretty
import Mathlib.Data.List.Count
import Mathlib.Data.List.Nodup

namespace Criteria

/-! ### Strings and numbers -/

namespace StringUnit

@[simp] lemma decode?_map_char (cs : List Char) : decode? (cs.map char) = some cs := by
  induction cs with
  | nil => rfl
  | cons c cs ih => rw [List.map_cons, decode?, ih, Option.map_some]

/-- A text is read back from its units. -/
@[simp] lemma decode?_encode (s : String) : decode? (encode s) = some s.toList := by
  rw [encode, decode?_map_char]

lemma wellFormed_encode (s : String) : ∀ u ∈ encode s, u.WellFormed := by
  intro u hu
  obtain ⟨c, -, rfl⟩ := List.mem_map.mp hu
  trivial

end StringUnit

namespace Numeral

/-- An integer has a spelling. -/
lemma wellFormed_ofInt (n : Int) : (ofInt n).WellFormed where
  whole_ne_nil := Digit.ofNat_ne_nil _
  eq_nil_of_zero _ h := Digit.ofNat_eq_zero_cons h
  exponent_ne_nil _ _ h := absurd h (by simp [ofInt])

/-- An integer is read back from its numeral. -/
lemma toInt?_ofInt (n : Int) : (ofInt n).toInt? = some n := by
  rw [toInt?, ofInt, if_pos ⟨rfl, rfl⟩]
  simp only [Digit.value_ofNat, decide_eq_true_eq]
  split_ifs with hneg hzero
  · omega
  · rw [show -(n.natAbs : Int) = n by omega]
  · rw [show (n.natAbs : Int) = n by omega]

end Numeral

/-! ### Forms -/

/-- Values are read back from the trees that they are written as. The trees have a
spelling, and none of them is null. -/
structure ReadsBack {α : Type} (write : α → Written) (read : Written → Option α) : Prop where
  wellFormed : ∀ a, (write a).WellFormed
  ne_null : ∀ a, write a ≠ .null
  read_write : ∀ a, read (write a) = some a

namespace ReadsBack

variable {α : Type} {write : α → Written} {read : Written → Option α}

/-- A value that may be null is read back. -/
lemma nullable (h : ReadsBack write read) (a : α) :
    Record.nullable read (write a) = some (some a) := by
  rw [Record.nullable.eq_def]
  split
  · rename_i hnull
    exact absurd hnull (h.ne_null a)
  · rw [h.read_write, Option.map_some]

/-- Strings are read back. -/
lemma string : ReadsBack Written.ofString Written.text? where
  wellFormed s := .string (StringUnit.wellFormed_encode s)
  ne_null s := by simp [Written.ofString]
  read_write s := by simp [Written.ofString, Written.text?]

/-- Integers in 64 bits are read back. -/
lemma int64 : ReadsBack (fun n : Int64 => .ofInt n.toInt) Written.int64? where
  wellFormed n := .number (Numeral.wellFormed_ofInt n.toInt)
  ne_null n := by simp [Written.ofInt]
  read_write n := by
    have hlow := n.le_toInt
    have hhigh := n.toInt_lt
    rw [Written.int64?, Written.ofInt, Written.int?]
    simp only [Numeral.toInt?_ofInt]
    rw [if_pos ⟨by omega, by omega⟩, Option.map_some, Int64.ofInt_toInt]

/-- Lists are read back when their items are. -/
lemma list (h : ReadsBack write read) :
    ReadsBack (fun as => .array (as.map write)) (Written.list? read) where
  wellFormed as := by
    refine .array fun item hitem => ?_
    obtain ⟨a, -, rfl⟩ := List.mem_map.mp hitem
    exact h.wellFormed a
  ne_null as := by simp
  read_write as := by
    rw [Written.list?]
    induction as with
    | nil => rfl
    | cons a as ih =>
        rw [List.map_cons, List.mapM_cons, h.read_write, ih]
        rfl

/-- Cases are read back from their names, if these are told apart. -/
lemma name {name : α → String} {find : String → Option α} (h : ∀ a, find (name a) = some a) :
    ReadsBack (fun a => .ofString (name a)) (fun w => w.variant?.bind find) where
  wellFormed a := string.wellFormed (name a)
  ne_null a := string.ne_null (name a)
  read_write a := by simp [Written.ofString, Written.variant?, h]

/-! ### Fields of records -/

lemma wellFormed_map (h : ReadsBack write read) (a : Option α) :
    ∀ value ∈ a.map write, value.WellFormed := by
  intro value hvalue
  obtain ⟨a, -, rfl⟩ := Option.map_eq_some_iff.mp hvalue
  exact h.wellFormed a

section Fields

variable {r : Record} {name : String} {a : α}

lemma required (h : ReadsBack write read) (hfind : r.find? name = some (write a)) :
    r.required name read = some a := by
  rw [Record.required, hfind, Option.bind_some, h.read_write]

/-- A field that is left out without a value is read back. -/
lemma skippable (h : ReadsBack write read) {a : Option α} (hfind : r.find? name = a.map write) :
    r.skippable name read = some a := by
  rw [Record.skippable, hfind]
  cases a with
  | none => rfl
  | some a => exact h.nullable a

/-- A field that is left out when it has its default value is read back. -/
lemma defaulted (h : ReadsBack write read) {default : α} [Decidable (a = default)]
    (hfind : r.find? name = if a = default then none else some (write a)) :
    r.defaulted name default read = some a := by
  rw [Record.defaulted, hfind]
  split_ifs with heq
  · exact congrArg some heq.symm
  · exact h.read_write a

end Fields

end ReadsBack

/-! ### Records -/

namespace Record

@[simp] lemma decodeNames?_encode (fields : List (String × Written)) :
    decodeNames? (fields.map fun (name, value) => (StringUnit.encode name, value))
      = some fields := by
  induction fields with
  | nil => rfl
  | cons field fields ih => simp [decodeNames?, ih]

/-- Fields with distinct names are given at most once each. -/
lemma isUnambiguous_of_nodup {fields : List (String × Written)}
    (h : (fields.map Prod.fst).Nodup) (names : List String) :
    isUnambiguous names fields = true := by
  refine List.all_eq_true.mpr fun name _ => decide_eq_true ?_
  have hcount := List.nodup_iff_count_le_one.mp h name
  rw [List.count, List.countP_map] at hcount
  rw [← List.countP_eq_length_filter]
  simpa [Function.comp_def, ← beq_iff_eq] using hcount

/-- A record with distinct names is read from the object that it is written as. -/
theorem ofWritten?_record {fields : List (String × Written)} (h : (fields.map Prod.fst).Nodup)
    (names : List String) : ofWritten? names (.record fields) = some ⟨false, fields⟩ := by
  rw [Written.record, ofWritten?, decodeNames?_encode]
  exact if_pos (isUnambiguous_of_nodup h names)

lemma record_ne_null (fields : List (String × Written)) : Written.record fields ≠ .null := by
  simp [Written.record]

/-- A record has a spelling when its fields do. -/
lemma wellFormed_record {fields : List (String × Written)} (h : ∀ f ∈ fields, f.2.WellFormed) :
    (Written.record fields).WellFormed := by
  refine .object ?_ ?_
  all_goals
    intro member hmember
    obtain ⟨field, hfield, rfl⟩ := List.mem_map.mp hmember
  · exact StringUnit.wellFormed_encode field.1
  · exact h field hfield

/-! ### Fields that are left out -/

/-- The fields that have a value. -/
def given (fields : List (String × Option Written)) : List (String × Written) :=
  fields.filterMap fun f => f.2.map fun value => (f.1, value)

lemma given_append (fields fields' : List (String × Option Written)) :
    given (fields ++ fields') = given fields ++ given fields' :=
  List.filterMap_append

lemma given_some (name : String) (value : Written) (fields : List (String × Option Written)) :
    given ((name, some value) :: fields) = (name, value) :: given fields := rfl

lemma given_none (name : String) (fields : List (String × Option Written)) :
    given ((name, none) :: fields) = given fields := rfl

/-- The names of the fields that have a value are among all names, in their order. -/
lemma given_names_sublist (fields : List (String × Option Written)) :
    ((given fields).map Prod.fst).Sublist (fields.map Prod.fst) := by
  induction fields with
  | nil => exact .slnil
  | cons field fields ih =>
      obtain ⟨name, value | value⟩ := field
      · exact ih.cons name
      · exact ih.cons_cons name

variable {fields : List (String × Option Written)}

/-- Among fields with distinct names one is found with its value, if it has any. -/
lemma find?_given (h : (fields.map Prod.fst).Nodup) (name : String) :
    (⟨false, given fields⟩ : Record).find? name = (fields.lookup name).join := by
  rw [find?]
  induction fields with
  | nil => rfl
  | cons field fields ih =>
      obtain ⟨key, value⟩ := field
      obtain ⟨hkey, hfields⟩ := List.nodup_cons.mp h
      cases value with
      | some value =>
          rw [given_some, List.lookup_cons, List.lookup_cons, ih hfields]
          cases name == key <;> rfl
      | none =>
          rw [given_none, ih hfields, List.lookup_cons]
          by_cases heq : name = key
          · -- the name is not taken by a later field
            have hnone : fields.lookup name = none := by
              refine List.lookup_eq_none_iff.mpr fun f hf => ?_
              rw [heq, bne_iff_ne]
              rintro rfl
              exact hkey (List.mem_map.mpr ⟨f, hf, rfl⟩)
            rw [hnone, heq, beq_self_eq_true]
            rfl
          · rw [beq_eq_false_iff_ne.mpr heq]

/-- A record with distinct names is read from the fields that have a value. -/
lemma ofWritten?_given (h : (fields.map Prod.fst).Nodup) (names : List String) :
    ofWritten? names (.record (given fields)) = some ⟨false, given fields⟩ :=
  ofWritten?_record (h.sublist (given_names_sublist fields)) names

/-- A record has a spelling when the values that are given do. -/
lemma wellFormed_given (h : ∀ f ∈ fields, ∀ value ∈ f.2, value.WellFormed) :
    (Written.record (given fields)).WellFormed := by
  refine wellFormed_record fun field hfield => ?_
  obtain ⟨f, hf, hvalue⟩ := List.mem_filterMap.mp hfield
  obtain ⟨value, hsome, rfl⟩ := Option.map_eq_some_iff.mp hvalue
  exact h f hf value hsome

end Record

end Criteria

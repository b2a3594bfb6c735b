/-
Which declarations make a registry, and what the registry holds.

* `Declaration`: a call on a builder, and `RegistryBuilder.ofDeclarations` the
  builder after a sequence of them; `Declaration.completed` lists the declared
  fields, each with its own lookups or else the default ones;
* `Field.Usable`, `Field.Offence`: a field that a registry can hold, and the
  error that refuses a field which comes after others;
* `Registry.add_eq_ok_iff`, `Registry.add_eq_error_iff`: what one field does to
  a registry;
* `RegistryBuilder.exists_addAll_iff`, `RegistryBuilder.fields_of_addAll`,
  `RegistryBuilder.addAll_eq_error_iff`: what a list of fields does;
* `RegistryBuilder.exists_build_iff`, `RegistryBuilder.fields_of_build`,
  `RegistryBuilder.lookup_index_of_build`, `RegistryBuilder.build_eq_error_iff`: so
  when a builder makes a registry, what its list and its table then hold, and
  what it is refused for;
* `Field.Usable.exists_validate_ok`: a usable field takes some value in each of
  its lookups;
* `RegistryBuilder.build_declarations`: all of this for every sequence of
  declarations.
-/
import Criteria.Proofs.Field.Values
import Criteria.Proofs.Registry.Lookup
import Criteria.Registry.Builder
import Mathlib.Data.List.Induction

namespace Criteria

/-! ### Declarations -/

/-- A call on a builder. -/
inductive Declaration where
  | field (f : Field)
  | defaultLookups (names : List String)

namespace Declaration

/-- The field that is declared, if one is. -/
def field? : Declaration → Option Field
  | field f => some f
  | defaultLookups _ => none

/-- The default lookups that are declared, if they are. -/
def defaults? : Declaration → Option (List String)
  | field _ => none
  | defaultLookups names => some names

/-- The default lookups of the last declaration of such, none without one. -/
def defaults (ds : List Declaration) : List String := ((ds.filterMap defaults?).getLast?).getD []

end Declaration

/-- The field with its own lookups if it has any, and the default ones if it
has none. -/
def Field.completed (f : Field) (defaults : List String) : Field :=
  { f with lookups := if f.lookups.toList = [] then .ofList defaults else f.lookups }

/-- The declared fields, in order, each with the lookups that it ends up with. -/
def Declaration.completed (ds : List Declaration) : List Field :=
  (ds.filterMap field?).map (·.completed (defaults ds))

namespace RegistryBuilder

/-- The builder after one more call. -/
def declare (b : RegistryBuilder) : Declaration → RegistryBuilder
  | .field f => b.field f
  | .defaultLookups names => b.defaultLookups names

/-- The builder after a sequence of calls. -/
def ofDeclarations (ds : List Declaration) : RegistryBuilder := ds.foldl declare .empty

/-- A builder keeps the fields in their order and the last default lookups. -/
lemma ofDeclarations_eq (ds : List Declaration) :
    ofDeclarations ds = ⟨ds.filterMap Declaration.field?, Declaration.defaults ds⟩ := by
  induction ds using List.reverseRecOn with
  | nil => rfl
  | append_singleton ds d ih =>
      rw [ofDeclarations, List.foldl_append, ← ofDeclarations, ih]
      cases d <;>
        simp [declare, field, defaultLookups, Declaration.field?, Declaration.defaults?,
          Declaration.defaults]

end RegistryBuilder

/-! ### Usable fields -/

/-- The shape of the constraint that a kind asks for. -/
def ValueKind.requiredShape : ValueKind → Constraint.Shape
  | week | day | hour | minute | second => .range
  | month | weekday => .choice
  | int | float | string | boolean | date | time | datetime | year => .free

/-- Nothing is within the bounds, or there are no choices. -/
def Constraint.IsEmpty : Constraint → Prop
  | free => False
  | range bounds => bounds.max.toInt < bounds.min.toInt
  | choice choices => choices = []

/-- A field that a registry can hold: it allows a lookup, and its constraint
has the shape that its kind asks for and is not empty. -/
structure Field.Usable (f : Field) : Prop where
  lookups_ne_nil : f.lookups.toList ≠ []
  shape_eq : f.constraint.shape = f.kind.requiredShape
  not_isEmpty : ¬ f.constraint.IsEmpty

/-- The error that refuses a field which comes after others. A name that is
taken counts before a lack of lookups, that before a constraint of the wrong
shape, and that before an empty constraint. -/
inductive Field.Offence (before : List Field) (f : Field) : RegistryError → Prop
  | duplicate : f.name ∈ before.map Field.name → Offence before f (.duplicateField f.name)
  | noLookups : f.name ∉ before.map Field.name → f.lookups.toList = [] →
      Offence before f (.noLookups f.name)
  | mismatch : f.name ∉ before.map Field.name → f.lookups.toList ≠ [] →
      f.constraint.shape ≠ f.kind.requiredShape →
      Offence before f (.constraintMismatch f.name f.kind)
  | emptyRange {bounds : Range} : f.name ∉ before.map Field.name → f.lookups.toList ≠ [] →
      f.constraint.shape = f.kind.requiredShape → f.constraint = .range bounds →
      f.constraint.IsEmpty → Offence before f (.emptyRange f.name)
  | emptyChoices {choices : List Choice} : f.name ∉ before.map Field.name →
      f.lookups.toList ≠ [] → f.constraint.shape = f.kind.requiredShape →
      f.constraint = .choice choices → f.constraint.IsEmpty →
      Offence before f (.emptyChoices f.name)

lemma NameSet.isEmpty_iff {s : NameSet} : s.isEmpty = true ↔ s.toList = [] := List.isEmpty_iff

lemma Field.orDefaults_eq_completed (f : Field) (defaults : List String) :
    f.orDefaults defaults = f.completed defaults := by
  by_cases h : f.lookups.toList = []
  · have hempty : f.lookups = .empty := NameSet.ext h
    rw [orDefaults, completed, if_pos (NameSet.isEmpty_iff.mpr h), if_pos h, withLookups, hempty,
      NameSet.ofList]
  · rw [orDefaults, completed, if_neg (mt NameSet.isEmpty_iff.mp h), if_neg h]

lemma ValueKind.shape_defaultConstraint (k : ValueKind) :
    k.defaultConstraint.shape = k.requiredShape := by
  cases k <;> rfl

lemma ValueKind.accepts_iff {k : ValueKind} {c : Constraint} :
    k.accepts c = true ↔ c.shape = k.requiredShape := by
  rw [accepts, shape_defaultConstraint, decide_eq_true_iff]

namespace Field

variable {f : Field} {before : List Field} {e : RegistryError}

/-- A field has no defect exactly when it is usable. -/
lemma defect?_eq_none_iff : f.defect? = none ↔ f.Usable := by
  have haccepts := ValueKind.accepts_iff (k := f.kind) (c := f.constraint)
  constructor
  · intro h
    unfold defect? at h
    split_ifs at h with hlookups hshape
    refine ⟨mt NameSet.isEmpty_iff.mpr hlookups, haccepts.mp hshape, ?_⟩
    cases hc : f.constraint with
    | free => exact id
    | range bounds => simpa [hc, Range.isEmpty, Constraint.IsEmpty] using h
    | choice choices => simpa [hc, Constraint.IsEmpty] using h
  · rintro ⟨hlookups, hshape, hne⟩
    rw [defect?, if_neg (mt NameSet.isEmpty_iff.mp hlookups), if_pos (haccepts.mpr hshape)]
    cases hc : f.constraint with
    | free => rfl
    | range bounds => simpa [hc, Range.isEmpty, Constraint.IsEmpty] using hne
    | choice choices => simpa [hc, Constraint.IsEmpty] using hne

/-- The defect of a field is what refuses it under a name that is not taken. -/
lemma defect?_eq_some_iff (hfresh : f.name ∉ before.map Field.name) :
    f.defect? = some e ↔ f.Offence before e := by
  have haccepts := ValueKind.accepts_iff (k := f.kind) (c := f.constraint)
  constructor
  · intro h
    unfold defect? at h
    split_ifs at h with hlookups hshape
    · exact Option.some.inj h ▸ .noLookups hfresh (NameSet.isEmpty_iff.mp hlookups)
    · cases hc : f.constraint with
      | free => simp [hc] at h
      | range bounds =>
          simp only [hc, Option.ite_none_right_eq_some, Option.some.injEq] at h
          obtain ⟨hempty, rfl⟩ := h
          exact .emptyRange hfresh (mt NameSet.isEmpty_iff.mpr hlookups) (haccepts.mp hshape) hc
            (by simpa [hc, Range.isEmpty, Constraint.IsEmpty] using hempty)
      | choice choices =>
          simp only [hc, Option.ite_none_right_eq_some, Option.some.injEq] at h
          obtain ⟨hempty, rfl⟩ := h
          exact .emptyChoices hfresh (mt NameSet.isEmpty_iff.mpr hlookups) (haccepts.mp hshape) hc
            (by simpa [hc, Constraint.IsEmpty] using hempty)
    · exact Option.some.inj h ▸
        .mismatch hfresh (mt NameSet.isEmpty_iff.mpr hlookups) (mt haccepts.mpr hshape)
  · intro h
    unfold defect?
    cases h with
    | duplicate hname => exact absurd hname hfresh
    | noLookups _ hlookups => rw [if_pos (NameSet.isEmpty_iff.mpr hlookups)]
    | mismatch _ hlookups hshape =>
        rw [if_neg (mt NameSet.isEmpty_iff.mp hlookups), if_neg (mt haccepts.mp hshape)]
    | emptyRange _ hlookups hshape hc hempty =>
        rw [if_neg (mt NameSet.isEmpty_iff.mp hlookups), if_pos (haccepts.mpr hshape)]
        simpa [hc, Range.isEmpty, Constraint.IsEmpty] using hempty
    | emptyChoices _ hlookups hshape hc hempty =>
        rw [if_neg (mt NameSet.isEmpty_iff.mp hlookups), if_pos (haccepts.mpr hshape)]
        simpa [hc, Constraint.IsEmpty] using hempty

end Field

/-! ### Adding fields to a registry -/

@[simp] lemma Field.name_completed (f : Field) (defaults : List String) :
    (f.completed defaults).name = f.name := rfl

/-- Of distinct names none is taken by a field before. -/
lemma not_mem_names_of_nodup {before after : List Field} {f : Field}
    (h : ((before ++ f :: after).map Field.name).Nodup) : f.name ∉ before.map Field.name := by
  rw [List.map_append, List.nodup_append] at h
  intro hmem
  exact h.2.2 _ hmem f.name (by simp) rfl

namespace Registry

variable {r r' : Registry} {f : Field} {defaults : List String} {e : RegistryError}

/-- Under a free name only a defect keeps a field out. -/
lemma add_of_free (hfree : r.contains (f.completed defaults).name = false) :
    r.add defaults f = match (f.completed defaults).defect? with
      | some e => .error e
      | none => .ok (r.push (f.completed defaults) hfree) := by
  have hname : ¬ r.contains f.name = true := by simpa using hfree
  rw [add, dif_neg hname]
  cases hdefect : (f.completed defaults).defect? <;>
    simp only [f.orDefaults_eq_completed, hdefect]

/-- A field joins a registry when its name is free and it is usable with the
lookups that it ends up with. -/
lemma add_eq_ok_iff :
    r.add defaults f = .ok r'
      ↔ ∃ hfree : r.contains (f.completed defaults).name = false,
        (f.completed defaults).Usable ∧ r.push (f.completed defaults) hfree = r' := by
  rw [← Field.defect?_eq_none_iff]
  by_cases hfree : r.contains (f.completed defaults).name = false
  · rw [add_of_free hfree, exists_prop_of_true hfree]
    cases (f.completed defaults).defect? <;> simp
  · have htaken : r.contains f.name = true := by simpa using hfree
    simp [add, htaken]

/-- A field is refused for what is wrong with it, given the fields before. -/
lemma add_eq_error_iff :
    r.add defaults f = .error e ↔ (f.completed defaults).Offence r.fields e := by
  by_cases hfree : r.contains (f.completed defaults).name = false
  · rw [add_of_free hfree, ← Field.defect?_eq_some_iff (contains_eq_false_iff.mp hfree)]
    cases (f.completed defaults).defect? <;> simp
  · have htaken : r.contains f.name = true := by simpa using hfree
    have hname := contains_iff.mp htaken
    rw [add, dif_pos htaken]
    constructor
    · intro h
      exact Except.error.inj h ▸ .duplicate hname
    · intro h
      cases h with
      | duplicate => rfl
      | noLookups hfresh | mismatch hfresh | emptyRange hfresh | emptyChoices hfresh =>
          exact absurd hname hfresh

end Registry

namespace RegistryBuilder

variable {r r' : Registry} {f : Field} {fields : List Field} {defaults : List String}
  {e : RegistryError}

lemma addAll_cons_eq_ok_iff :
    addAll defaults r (f :: fields) = .ok r'
      ↔ ∃ r₁, r.add defaults f = .ok r₁ ∧ addAll defaults r₁ fields = .ok r' := by
  rw [addAll]
  cases r.add defaults f <;> simp

lemma addAll_cons_eq_error_iff :
    addAll defaults r (f :: fields) = .error e
      ↔ r.add defaults f = .error e ∨
        ∃ r₁, r.add defaults f = .ok r₁ ∧ addAll defaults r₁ fields = .error e := by
  rw [addAll]
  cases r.add defaults f <;> simp

/-- Fields that join a registry come behind its own, in their order. -/
theorem fields_of_addAll (h : addAll defaults r fields = .ok r') :
    r'.fields = r.fields ++ fields.map (·.completed defaults) := by
  induction fields generalizing r with
  | nil =>
      obtain rfl := Except.ok.inj h
      simp
  | cons f fields ih =>
      obtain ⟨r₁, hadd, hrest⟩ := addAll_cons_eq_ok_iff.mp h
      obtain ⟨hfree, -, rfl⟩ := Registry.add_eq_ok_iff.mp hadd
      rw [ih hrest, Registry.fields_push, List.append_assoc, List.singleton_append, List.map_cons]

/-- A list of fields joins a registry when all names are distinct and each field
is usable. -/
theorem exists_addAll_iff :
    (∃ r', addAll defaults r fields = .ok r')
      ↔ ((r.fields ++ fields.map (·.completed defaults)).map Field.name).Nodup ∧
        ∀ f ∈ fields.map (·.completed defaults), f.Usable := by
  induction fields generalizing r with
  | nil => simpa [addAll] using r.nodup_names
  | cons f fields ih =>
      constructor
      · rintro ⟨r', h⟩
        obtain ⟨r₁, hadd, hrest⟩ := addAll_cons_eq_ok_iff.mp h
        obtain ⟨hfree, husable, rfl⟩ := Registry.add_eq_ok_iff.mp hadd
        obtain ⟨hnodup, hfields⟩ := ih.mp ⟨r', hrest⟩
        exact ⟨by simpa using hnodup, List.forall_mem_cons.mpr ⟨husable, hfields⟩⟩
      · rintro ⟨hnodup, husable⟩
        obtain ⟨husable, hfields⟩ := List.forall_mem_cons.mp husable
        have hfree := Registry.contains_eq_false_iff.mpr (not_mem_names_of_nodup hnodup)
        have hadd := Registry.add_eq_ok_iff.mpr ⟨hfree, husable, rfl⟩
        obtain ⟨r', hrest⟩ := (ih (r := r.push _ hfree)).mpr ⟨by simpa using hnodup, hfields⟩
        exact ⟨r', addAll_cons_eq_ok_iff.mpr ⟨_, hadd, hrest⟩⟩

/-- A list of fields is refused for its first offence: the fields before it
have distinct names and are usable. -/
theorem addAll_eq_error_iff :
    addAll defaults r fields = .error e
      ↔ ∃ before f after, fields.map (·.completed defaults) = before ++ f :: after ∧
        ((r.fields ++ before).map Field.name).Nodup ∧ (∀ g ∈ before, g.Usable) ∧
        f.Offence (r.fields ++ before) e := by
  induction fields generalizing r with
  | nil => simp [addAll]
  | cons f fields ih =>
      rw [addAll_cons_eq_error_iff]
      constructor
      · rintro (hadd | ⟨r₁, hadd, hrest⟩)
        · refine ⟨[], f.completed defaults, fields.map (·.completed defaults), rfl, ?_, ?_, ?_⟩
          · simpa using r.nodup_names
          · simp
          · simpa using Registry.add_eq_error_iff.mp hadd
        · obtain ⟨hfree, husable, rfl⟩ := Registry.add_eq_ok_iff.mp hadd
          obtain ⟨before, g, after, hsplit, hnodup, hbefore, hg⟩ := ih.mp hrest
          refine ⟨f.completed defaults :: before, g, after, ?_, ?_, ?_, ?_⟩
          · rw [List.map_cons, hsplit, List.cons_append]
          · simpa using hnodup
          · exact List.forall_mem_cons.mpr ⟨husable, hbefore⟩
          · simpa using hg
      · rintro ⟨before, g, after, hsplit, hnodup, hbefore, hg⟩
        cases before with
        | nil =>
            obtain ⟨rfl, -⟩ := List.cons.inj hsplit
            rw [List.append_nil] at hg
            exact .inl (Registry.add_eq_error_iff.mpr hg)
        | cons first before =>
            obtain ⟨rfl, hrest⟩ := List.cons.inj hsplit
            obtain ⟨husable, hbefore⟩ := List.forall_mem_cons.mp hbefore
            have hfree := Registry.contains_eq_false_iff.mpr (not_mem_names_of_nodup hnodup)
            have hadd := Registry.add_eq_ok_iff.mpr ⟨hfree, husable, rfl⟩
            refine .inr ⟨_, hadd, ih.mpr ⟨before, g, after, hrest, ?_, hbefore, ?_⟩⟩
            · simpa using hnodup
            · simpa using hg

end RegistryBuilder

/-! ### Values for usable fields -/

/-- A word of 64 bits is an integer that documents can hold. -/
lemma Number.fitsWord_toInt (n : Int64) : Number.fitsWord n.toInt = true := by
  have h1 := n.le_toInt
  have h2 := n.toInt_lt
  simp only [fitsWord, Bool.and_eq_true, decide_eq_true_eq]
  omega

/-- A constraint that is not empty admits the number of some word. -/
lemma Constraint.exists_admits {c : Constraint} (h : ¬ c.IsEmpty) :
    ∃ n : Int64, c.Admits n.toInt := by
  cases c with
  | free => exact ⟨0, trivial⟩
  | range bounds => exact ⟨bounds.min, Int.le_refl _, Int.not_lt.mp h⟩
  | choice choices =>
      obtain ⟨first, rest, rfl⟩ := List.exists_cons_of_ne_nil h
      exact ⟨first.key, first, by simp, rfl⟩

namespace Field

variable {f : Field}

/-- A field with a constraint that is not empty takes the scalar of some
document. -/
lemma exists_scalar_ok (h : ¬ f.constraint.IsEmpty) : ∃ raw s, f.scalar raw = .ok s := by
  unfold scalar
  cases f.kind with
  | float => exact ⟨.num (.int 0), _, rfl⟩
  | string => exact ⟨.str "", _, rfl⟩
  | boolean => exact ⟨.bool true, _, rfl⟩
  | date | datetime =>
      have hparse : Duration.parse "P" = .ok .empty := rfl
      exact ⟨.str "P", _, ofLiteralOrDuration_eq_ok_iff.mpr (.inl ⟨.empty, hparse, rfl⟩)⟩
  | time =>
      have hparse : TimeOfDay.parse "00" = .ok .midnight := rfl
      exact ⟨.str "00", _, ofLiteral_eq_ok_iff.mpr ⟨.midnight, hparse, rfl⟩⟩
  | int | year | month | week | day | weekday | hour | minute | second =>
      obtain ⟨n, hn⟩ := Constraint.exists_admits h
      exact ⟨.num (.int n.toInt), _,
        ofInteger_eq_ok_iff.mpr ⟨n.toInt, rfl, Number.fitsWord_toInt n, hn, rfl⟩⟩

/-- A usable field takes some value in each of its lookups, and not only the
empty list. -/
theorem Usable.exists_validate_ok (h : f.Usable) {lookup : String}
    (hlookup : lookup ∈ f.lookups.toList) :
    ∃ raw value, f.validate raw lookup = .ok value ∧ value.scalars ≠ [] := by
  obtain ⟨raw, s, hs⟩ := exists_scalar_ok h.not_isEmpty
  by_cases hmember : lookup = membershipLookup
  · have hlist : List.Forall₂ (fun item s => f.scalar item = .ok s) [raw] [s] :=
      .cons hs .nil
    exact ⟨.arr [raw], .many [s],
      validate_eq_ok_iff.mpr ⟨hlookup, .inl ⟨hmember, [raw], [s], rfl, hlist, rfl⟩⟩, by
        simp [Prepared.scalars]⟩
  · exact ⟨raw, .single s, validate_eq_ok_iff.mpr ⟨hlookup, .inr ⟨hmember, s, hs, rfl⟩⟩, by
      simp [Prepared.scalars]⟩

end Field

/-! ### Registries -/

namespace RegistryBuilder

variable {b : RegistryBuilder} {r : Registry} {e : RegistryError}

/-- The fields of a builder, each with the lookups that it ends up with. -/
def completed (b : RegistryBuilder) : List Field := b.fields.map (·.completed b.defaults)

/-- A builder makes a registry when all names are distinct and each field is
usable. -/
theorem exists_build_iff :
    (∃ r, b.build = .ok r)
      ↔ (b.completed.map Field.name).Nodup ∧ ∀ f ∈ b.completed, f.Usable :=
  exists_addAll_iff

/-- The registry of a builder lists its fields, in their order. -/
theorem fields_of_build (h : b.build = .ok r) : r.fields = b.completed := fields_of_addAll h

/-- The table of the registry of a builder holds the position of each of its
fields under the name, and nothing else. -/
theorem lookup_index_of_build (h : b.build = .ok r) {name : String} {i : Nat} :
    r.index.lookup name = some i ↔ ∃ f, b.completed[i]? = some f ∧ f.name = name := by
  rw [Registry.lookup_index_iff, fields_of_build h]

/-- A builder is refused for the first offence among its fields. -/
theorem build_eq_error_iff :
    b.build = .error e
      ↔ ∃ before f after, b.completed = before ++ f :: after ∧ (before.map Field.name).Nodup ∧
        (∀ g ∈ before, g.Usable) ∧ f.Offence before e :=
  addAll_eq_error_iff

lemma completed_ofDeclarations (ds : List Declaration) :
    (ofDeclarations ds).completed = Declaration.completed ds := by
  rw [ofDeclarations_eq]
  rfl

/-- **Building a registry.** The declarations make a registry exactly when the
names of their fields are distinct and each field is usable with the lookups
that it ends up with. Otherwise the first field that is refused gives the
error. A registry that is made lists the declared fields in their order and
finds each by its name alone, and every field takes a value in each of its
lookups. -/
theorem build_declarations (ds : List Declaration) :
    ((∃ r, (ofDeclarations ds).build = .ok r) ↔
      ((Declaration.completed ds).map Field.name).Nodup ∧
      ∀ f ∈ Declaration.completed ds, f.Usable) ∧
    (∀ e, (ofDeclarations ds).build = .error e ↔
      ∃ before f after, Declaration.completed ds = before ++ f :: after ∧
        (before.map Field.name).Nodup ∧ (∀ g ∈ before, g.Usable) ∧ f.Offence before e) ∧
    (∀ r, (ofDeclarations ds).build = .ok r →
      r.fields = Declaration.completed ds ∧
      r.describeAll = (Declaration.completed ds).map Field.describe ∧
      (∀ name f, r.get? name = some f ↔ f ∈ Declaration.completed ds ∧ f.name = name) ∧
      ∀ f ∈ r.fields, ∀ lookup ∈ f.lookups.toList,
        ∃ raw value, f.validate raw lookup = .ok value ∧ value.scalars ≠ []) := by
  rw [← completed_ofDeclarations]
  refine ⟨exists_build_iff, fun e => build_eq_error_iff, fun r h => ?_⟩
  have husable := (exists_build_iff.mp ⟨r, h⟩).2
  have hfields := fields_of_build h
  refine ⟨hfields, by rw [Registry.describeAll, hfields], fun name f => ?_, ?_⟩
  · rw [Registry.get?_eq_some_iff, hfields]
  · rw [hfields]
    exact fun f hf lookup hlookup => (husable f hf).exists_validate_ok hlookup

end RegistryBuilder

/-- A field without lookups between two declarations of default lookups, and a
field with its own. -/
def Declaration.lateDefaults : List Declaration :=
  [.defaultLookups ["in"], .field (.ofKind "age" .int),
    .field ((Field.ofKind "hour" .hour).withLookups ["exact"]), .defaultLookups ["lte", "gte"]]

/-- The last default lookups hold for the field before them, which takes a value
in each; one more field of a taken name is refused for that, although it has no
lookups either. -/
theorem RegistryBuilder.build_declarations_lateDefaults :
    (∃ r, (ofDeclarations Declaration.lateDefaults).build = .ok r ∧
      r.fields.map (fun f => (f.name, f.lookups.toList))
        = [("age", ["gte", "lte"]), ("hour", ["exact"])] ∧
      ∃ f, r.get? "age" = some f ∧
        ∃ raw value, f.validate raw "gte" = .ok value ∧ value.scalars ≠ []) ∧
    (ofDeclarations [.field ((Field.ofKind "hour" .hour).withLookups ["exact"]),
        .field (.ofKind "hour" .week)]).build = .error (.duplicateField "hour") := by
  constructor
  · obtain ⟨r, hbuild⟩ : ∃ r, (ofDeclarations Declaration.lateDefaults).build = .ok r := ⟨_, rfl⟩
    obtain ⟨hfields, -, hget, htakes⟩ := (build_declarations Declaration.lateDefaults).2.2 r hbuild
    refine ⟨r, hbuild, by rw [hfields]; rfl, _, (hget "age" _).mpr ⟨.head _, rfl⟩, ?_⟩
    exact htakes _ (hfields ▸ .head _) "gte" (.head _)
  · refine ((build_declarations _).2.1 _).mpr
      ⟨[(Field.ofKind "hour" .hour).withLookups ["exact"]], .ofKind "hour" .week, [], rfl,
        by simp, ?_, .duplicate (by decide)⟩
    rintro g hg
    obtain rfl := List.mem_singleton.mp hg
    exact Field.defect?_eq_none_iff.mp rfl

end Criteria

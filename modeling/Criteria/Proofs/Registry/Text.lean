/-
Configurations are read back from their texts.

* `Range.readsBack`, `Choice.readsBack`, `ValueKind.readsBack`: so are the parts of
  a declaration;
* `FieldConfig.readsBack`: so are declarations, whichever parts are left out;
* `RegistryConfig.text_read_back`: so are whole configurations, and the text makes
  the registry that its configuration makes.
-/
import Criteria.Proofs.Json.Record
import Criteria.Registry.Config

namespace Criteria

/-! ### The parts of a declaration -/

lemma Range.readsBack : ReadsBack Range.toWritten Range.ofWritten? where
  wellFormed r := by
    refine Record.wellFormed_record ?_
    simp only [List.forall_mem_cons]
    exact ⟨ReadsBack.int64.wellFormed r.min, ReadsBack.int64.wellFormed r.max, by simp⟩
  ne_null _ := Record.record_ne_null _
  read_write r := by
    rw [Range.ofWritten?, Range.toWritten, Record.ofWritten?_record (by simp)]
    simp [Record.required, Record.find?, List.lookup_cons, ReadsBack.int64.read_write]

lemma Choice.readsBack : ReadsBack Choice.toWritten Choice.ofWritten? where
  wellFormed c := by
    refine Record.wellFormed_record ?_
    simp only [List.forall_mem_cons]
    exact ⟨ReadsBack.int64.wellFormed c.key, ReadsBack.string.wellFormed c.label, by simp⟩
  ne_null _ := Record.record_ne_null _
  read_write c := by
    rw [Choice.ofWritten?, Choice.toWritten, Record.ofWritten?_record (by simp)]
    simp [Record.required, Record.find?, List.lookup_cons, ReadsBack.int64.read_write,
      ReadsBack.string.read_write]

/-- A kind is the one that its own name stands for. -/
lemma ValueKind.ofExactName?_name (k : ValueKind) : ofExactName? k.name = some k := by
  cases k <;> decide

lemma ValueKind.readsBack : ReadsBack ValueKind.toWritten ValueKind.ofWritten? :=
  .name ofExactName?_name

/-! ### Declarations -/

namespace FieldConfig

/-- The fields of the form of a declaration, those that are left out included. -/
def parts (c : FieldConfig) : List (String × Option Written) :=
  [("name", some (.ofString c.name)), ("kind", some c.kind.toWritten),
    ("lookups", if c.lookups = [] then none else some (.array (c.lookups.map .ofString))),
    ("storage_name", c.storage.map .ofString), ("label", c.label.map .ofString),
    ("range", c.range.map Range.toWritten),
    ("choices", c.choices.map fun cs => .array (cs.map Choice.toWritten))]

lemma nodup_parts (c : FieldConfig) : (c.parts.map Prod.fst).Nodup := by
  simp [parts]

lemma member_eq {α : Type} (name : String) (write : α → Written) (a : Option α) :
    member name write a = Record.given [(name, a.map write)] := by
  cases a <;> rfl

/-- The form of a declaration has the parts that have a value. -/
lemma toWritten_eq (c : FieldConfig) : c.toWritten = .record (Record.given c.parts) := by
  have hnames : [("name", Written.ofString c.name), ("kind", c.kind.toWritten)]
      = Record.given [("name", some (.ofString c.name)), ("kind", some c.kind.toWritten)] := rfl
  have hlookups : (if c.lookups = [] then []
        else [("lookups", Written.array (c.lookups.map .ofString))])
      = Record.given [("lookups", if c.lookups = [] then none
          else some (.array (c.lookups.map .ofString)))] := by
    split_ifs <;> rfl
  rw [toWritten, hnames, hlookups, member_eq, member_eq, member_eq, member_eq]
  simp only [← Record.given_append]
  rfl

/-- Declarations are read back, whichever of their parts are left out. -/
lemma readsBack : ReadsBack toWritten ofWritten? where
  wellFormed c := by
    have hlookups : ∀ value ∈ (if c.lookups = [] then none
        else some (Written.array (c.lookups.map .ofString))), value.WellFormed := by
      split_ifs
      · simp
      · exact ReadsBack.string.list.wellFormed_map (some c.lookups)
    rw [toWritten_eq]
    refine Record.wellFormed_given ?_
    simp only [parts, List.forall_mem_cons]
    exact ⟨ReadsBack.string.wellFormed_map (some c.name),
      ValueKind.readsBack.wellFormed_map (some c.kind), hlookups,
      ReadsBack.string.wellFormed_map c.storage, ReadsBack.string.wellFormed_map c.label,
      Range.readsBack.wellFormed_map c.range, Choice.readsBack.list.wellFormed_map c.choices,
      by simp⟩
  ne_null _ := Record.record_ne_null _
  read_write c := by
    have hfind := Record.find?_given c.nodup_parts
    rw [ofWritten?, toWritten_eq, Record.ofWritten?_given c.nodup_parts]
    have hname := ReadsBack.string.required (hfind "name")
    have hkind := ValueKind.readsBack.required (hfind "kind")
    have hlookups := ReadsBack.string.list.defaulted (hfind "lookups")
    have hstorage := ReadsBack.string.skippable (hfind "storage_name")
    have hlabel := ReadsBack.string.skippable (hfind "label")
    have hrange := Range.readsBack.skippable (hfind "range")
    have hchoices := Choice.readsBack.list.skippable (hfind "choices")
    simp only [Option.bind_eq_bind, Option.bind_some, hname, hkind, hlookups, hstorage, hlabel,
      hrange, hchoices]

end FieldConfig

/-! ### Configurations -/

namespace RegistryConfig

lemma readsBack : ReadsBack toWritten ofWritten? where
  wellFormed c := by
    refine Record.wellFormed_record ?_
    simp only [List.forall_mem_cons]
    exact ⟨ReadsBack.string.list.wellFormed c.defaultLookups,
      FieldConfig.readsBack.list.wellFormed c.fields, by simp⟩
  ne_null _ := Record.record_ne_null _
  read_write c := by
    rw [ofWritten?, toWritten, Record.ofWritten?_record (by simp)]
    simp [Record.defaulted, Record.find?, List.lookup_cons, ReadsBack.string.list.read_write,
      FieldConfig.readsBack.list.read_write]

/-- The text of a configuration is that of its form. -/
lemma read?_text (c : RegistryConfig) : Written.read? c.text = some c.toWritten :=
  Written.read?_pretty (readsBack.wellFormed c)

lemma parse_text (c : RegistryConfig) : parse c.text = .ok c := by
  rw [parse, read?_text, Option.bind_some, readsBack.read_write]

/-- **The text of a configuration.** The text of every configuration is the JSON text
of its form, and the configuration is read back from it with all its declarations
and their parts in their order. So the text makes the registry that the
configuration makes, or is refused with the same error. -/
theorem text_read_back (c : RegistryConfig) :
    Written.read? c.text = some c.toWritten ∧ parse c.text = .ok c ∧
      Registry.parse c.text = Registry.ofConfig c := by
  have hparse := parse_text c
  refine ⟨read?_text c, hparse, ?_⟩
  rw [Registry.parse, hparse]

end RegistryConfig

end Criteria

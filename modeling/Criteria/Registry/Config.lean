/-
Registries as configuration texts.

* `FieldConfig`, `RegistryConfig`: the declarations of a configuration;
* `RegistryConfig.parse`: the configuration of a JSON text;
* `RegistryConfig.text`: the JSON text of a configuration;
* `Registry.ofConfig`, `Registry.parse`: the registry of a configuration.
-/
import Criteria.Json.Pretty
import Criteria.Json.Reader
import Criteria.Registry.Builder

namespace Criteria

/-- The declaration of one field. -/
structure FieldConfig where
  name : String
  kind : ValueKind
  /-- The lookups of the field; with none the default lookups hold. -/
  lookups : List String
  /-- The name in storage, if it is not the name of the field. -/
  storage : Option String
  /-- The label, if it is not made from the name. -/
  label : Option String
  /-- A range in place of the one that the kind starts with. -/
  range : Option Range
  /-- Choices in place of those that the kind starts with. -/
  choices : Option (List Choice)
  deriving DecidableEq, Repr

namespace FieldConfig

/-- A declaration of nothing but a name and a kind. -/
def ofKind (name : String) (kind : ValueKind) : FieldConfig :=
  ⟨name, kind, [], none, none, none, none⟩

/-- The field of a declaration; of a range and choices the latter hold. -/
def toField (c : FieldConfig) : Field :=
  let f := (Field.ofKind c.name c.kind).withLookups c.lookups
  let f := match c.storage with
    | some storage => f.withStorage storage
    | none => f
  let f := match c.label with
    | some label => f.withLabel label
    | none => f
  let f := match c.range with
    | some range => f.withConstraint (.range range)
    | none => f
  match c.choices with
  | some choices => f.withConstraint (.choice choices)
  | none => f

/-- A member of a form, left out when there is no value. -/
def member {α : Type} (name : String) (write : α → Written) :
    Option α → List (String × Written)
  | some a => [(name, write a)]
  | none => []

/-- The form of a declaration; what is not declared is left out. -/
def toWritten (c : FieldConfig) : Written :=
  .record
    ([("name", .ofString c.name), ("kind", c.kind.toWritten)]
      ++ (if c.lookups = [] then []
        else [("lookups", .array (c.lookups.map .ofString))])
      ++ member "storage_name" .ofString c.storage
      ++ member "label" .ofString c.label
      ++ member "range" Range.toWritten c.range
      ++ member "choices" (fun cs => .array (cs.map Choice.toWritten)) c.choices)

/-- The declaration of a form. -/
def ofWritten? (w : Written) : Option FieldConfig := do
  let r ← Record.ofWritten?
    ["name", "kind", "lookups", "storage_name", "label", "range", "choices"] w
  some
    { name := ← r.required "name" Written.text?
      kind := ← r.required "kind" ValueKind.ofWritten?
      lookups := ← r.defaulted "lookups" [] (Written.list? Written.text?)
      storage := ← r.skippable "storage_name" Written.text?
      label := ← r.skippable "label" Written.text?
      range := ← r.skippable "range" Range.ofWritten?
      choices := ← r.skippable "choices" (Written.list? Choice.ofWritten?) }

end FieldConfig

/-- The declarations of a registry. -/
structure RegistryConfig where
  defaultLookups : List String
  fields : List FieldConfig
  deriving DecidableEq, Repr

namespace RegistryConfig

/-- The lookups of a configuration that declares none. -/
def standardLookups : List String := ["exact", membershipLookup]

/-- The configuration without fields. -/
def empty : RegistryConfig := ⟨standardLookups, []⟩

/-- The form of a configuration. -/
def toWritten (c : RegistryConfig) : Written :=
  .record
    [("default_lookups", .array (c.defaultLookups.map .ofString)),
      ("fields", .array (c.fields.map FieldConfig.toWritten))]

/-- The configuration of a form. -/
def ofWritten? (w : Written) : Option RegistryConfig := do
  let r ← Record.ofWritten? ["default_lookups", "fields"] w
  some
    { defaultLookups :=
        ← r.defaulted "default_lookups" standardLookups (Written.list? Written.text?)
      fields := ← r.defaulted "fields" [] (Written.list? FieldConfig.ofWritten?) }

/-- The text of a configuration. -/
def text (c : RegistryConfig) : String := c.toWritten.pretty

/-- The configuration of a text. -/
def parse (text : String) : Except RegistryError RegistryConfig :=
  match (Written.read? text).bind ofWritten? with
  | some c => .ok c
  | none => .error .malformedConfig

/-- The builder with the declarations of a configuration. -/
def toBuilder (c : RegistryConfig) : RegistryBuilder :=
  c.fields.foldl (fun b f => b.field f.toField)
    (RegistryBuilder.empty.defaultLookups c.defaultLookups)

end RegistryConfig

/-- The registry of a configuration. -/
def Registry.ofConfig (c : RegistryConfig) : Except RegistryError Registry := c.toBuilder.build

/-- The registry of the text of a configuration. -/
def Registry.parse (text : String) : Except RegistryError Registry :=
  match RegistryConfig.parse text with
  | .ok c => Registry.ofConfig c
  | .error e => .error e

end Criteria

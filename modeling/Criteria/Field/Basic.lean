/-
Fields: the attributes that conditions may ask about.

* `Field`: a name, the name in storage, a label, a kind, the lookups it
  allows and a constraint;
* `Field.ofKind`: the field that a name and a kind alone declare, and
  `Field.withLookups` and its like for the rest;
* `Field.describe`: what the field tells about itself.
-/
import Criteria.Field.Kind
import Criteria.Text.NameSet

namespace Criteria

/-- The lookup whose value is a list. -/
def membershipLookup : String := "in"

/-- An attribute that conditions may ask about. -/
structure Field where
  name : String
  storage : String
  label : String
  kind : ValueKind
  lookups : NameSet
  constraint : Constraint
  deriving DecidableEq, Repr

namespace Field

/-- A field of a kind that is stored under its own name and labelled by it,
with blanks for underscores. It allows no lookup yet. -/
def ofKind (name : String) (kind : ValueKind) : Field :=
  { name := name
    storage := name
    label := name.map fun c => if c = '_' then ' ' else c
    kind := kind
    lookups := .empty
    constraint := kind.defaultConstraint }

/-- The field with more lookups. -/
def withLookups (f : Field) (names : List String) : Field :=
  { f with lookups := f.lookups.insertAll names }

/-- The field stored under another name. -/
def withStorage (f : Field) (storage : String) : Field := { f with storage := storage }

/-- The field with another label. -/
def withLabel (f : Field) (label : String) : Field := { f with label := label }

/-- The field with another constraint. -/
def withConstraint (f : Field) (constraint : Constraint) : Field :=
  { f with constraint := constraint }

/-- Whether the field allows a lookup. -/
def supports (f : Field) (lookup : String) : Bool := f.lookups.contains lookup

end Field

/-- What a field tells about itself. -/
structure Description where
  name : String
  label : String
  inputKind : InputKind
  valueKind : ValueKind
  lookups : List String
  choices : Option (List Choice)
  range : Option Range
  deriving DecidableEq, Repr

/-- What a field tells about itself: its names, kinds and lookups, and the
content of its constraint. -/
def Field.describe (f : Field) : Description :=
  { name := f.name
    label := f.label
    inputKind := f.kind.inputKind
    valueKind := f.kind
    lookups := f.lookups.toList
    choices := match f.constraint with
      | .choice choices => some choices
      | _ => none
    range := match f.constraint with
      | .range bounds => some bounds
      | _ => none }

namespace Description

/-- The form of a description; choices and range appear only when there are
some. -/
def toWritten (d : Description) : Written :=
  .record
    ([("name", .ofString d.name), ("label", .ofString d.label),
      ("input_kind", d.inputKind.toWritten), ("value_kind", d.valueKind.toWritten),
      ("lookups", .array (d.lookups.map .ofString))]
    ++ (match d.choices with
      | some choices => [("choices", .array (choices.map Choice.toWritten))]
      | none => [])
    ++ (match d.range with
      | some bounds => [("range", bounds.toWritten)]
      | none => []))

end Description

end Criteria

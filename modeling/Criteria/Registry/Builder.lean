/-
Building registries from declarations.

* `Field.defect?`: why a field cannot be used, if it cannot;
* `Registry.add`: the registry with one more field;
* `RegistryBuilder`: the declarations from which a registry is built;
* `RegistryBuilder.build`: the registry, or the error of the first field that
  cannot be used.
-/
import Criteria.Registry.Basic

namespace Criteria

/-- Why a field cannot be used: it allows no lookup, its kind cannot carry its
constraint, or its constraint lets nothing pass. -/
def Field.defect? (f : Field) : Option RegistryError :=
  if f.lookups.isEmpty then some (.noLookups f.name)
  else if f.kind.accepts f.constraint then
    match f.constraint with
    | .free => none
    | .range bounds => if bounds.isEmpty then some (.emptyRange f.name) else none
    | .choice choices => if choices.isEmpty then some (.emptyChoices f.name) else none
  else some (.constraintMismatch f.name f.kind)

/-- The field with the default lookups if it has none of its own. -/
def Field.orDefaults (f : Field) (defaults : List String) : Field :=
  if f.lookups.isEmpty then f.withLookups defaults else f

/-- Lookups do not change the name. -/
theorem Field.name_orDefaults (f : Field) (defaults : List String) :
    (f.orDefaults defaults).name = f.name := by
  unfold orDefaults
  split <;> rfl

/-- The registry with one more field. A name that is taken is refused before
anything else is checked. -/
def Registry.add (r : Registry) (defaults : List String) (f : Field) :
    Except RegistryError Registry :=
  if htaken : r.contains f.name then .error (.duplicateField f.name)
  else match (f.orDefaults defaults).defect? with
    | some e => .error e
    | none => .ok (r.push (f.orDefaults defaults) (by simpa [f.name_orDefaults] using htaken))

/-- The declarations from which a registry is built. -/
structure RegistryBuilder where
  fields : List Field
  defaults : List String
  deriving DecidableEq, Repr

namespace RegistryBuilder

/-- No declaration. -/
def empty : RegistryBuilder := ⟨[], []⟩

/-- Declares a field. -/
def field (b : RegistryBuilder) (f : Field) : RegistryBuilder :=
  { b with fields := b.fields ++ [f] }

/-- Declares the lookups of the fields that have none of their own; the last
declaration holds for all of them. -/
def defaultLookups (b : RegistryBuilder) (names : List String) : RegistryBuilder :=
  { b with defaults := names }

/-- Adds fields to a registry one after the other. -/
def addAll (defaults : List String) (r : Registry) : List Field → Except RegistryError Registry
  | [] => .ok r
  | f :: fs =>
    match r.add defaults f with
    | .ok r => addAll defaults r fs
    | .error e => .error e

/-- The registry of the declarations. -/
def build (b : RegistryBuilder) : Except RegistryError Registry :=
  addAll b.defaults .empty b.fields

end RegistryBuilder

end Criteria

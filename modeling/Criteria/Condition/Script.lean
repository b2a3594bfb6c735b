/-
Scripts: what the handler of a condition kind may do while a document is
resolved. A script can report a rejection, look at the place where it stands,
and have a document resolved at that place or below it; nothing else.

* `Script`: the steps of a handler, with the result of each visit handed to
  the next step;
* `Script.resolve`, `Script.resolveChild`, `Script.resolveConditions`,
  `Script.stringKey`, `Script.lookup`: the steps that handlers are made of;
* `Handler`: a script for each condition object.
-/
import Criteria.Condition.Basic
import Criteria.Condition.Refusal
import Criteria.Registry.Basic

namespace Criteria

/-- What a handler sees of the place where it stands. -/
structure Place where
  location : Pointer
  /-- The number of rejections reported so far. -/
  rejections : Nat
  registry : Registry

/-- The steps of a handler. -/
inductive Script (α : Type) where
  /-- Ends with a result. -/
  | done (a : α)
  /-- Reports a rejection of the current node. -/
  | report (rejection : Rejection) (next : Script α)
  /-- Looks at the current place. -/
  | look (next : Place → Script α)
  /-- Has a document resolved below the current place, under the segments. -/
  | visit (segments : List String) (document : Json) (next : Option Condition → Script α)

namespace Script

/-- One script after another. -/
def bind {α β : Type} : Script α → (α → Script β) → Script β
  | done a, f => f a
  | report rejection next, f => .report rejection (bind next f)
  | look next, f => .look fun place => bind (next place) f
  | visit segments document next, f =>
    .visit segments document fun found => bind (next found) f

instance : Monad Script where
  pure := done
  bind := bind

/-- Reports a rejection of the current node. -/
def reject (rejection : Rejection) : Script Unit := .report rejection (.done ())

/-- The current place. -/
def place : Script Place := .look .done

/-- Resolves a document at the current place. -/
def resolve (document : Json) : Script (Option Condition) := .visit [] document .done

/-- Resolves a document under a segment. -/
def resolveChild (segment : String) (document : Json) : Script (Option Condition) :=
  .visit [segment] document .done

/-- Resolves the items of a list of conditions, from an index on. Every item
is resolved, also after one that fails. -/
def resolveItems (index : Nat) : List Json → Script (Option (List Condition))
  | [] => pure (some [])
  | item :: items => do
    let first ← .visit ["conditions", toString index] item .done
    let rest ← resolveItems (index + 1) items
    match first, rest with
    | some c, some cs => pure (some (c :: cs))
    | _, _ => pure none

/-- Resolves the list of conditions of a body, which must not be empty. -/
def resolveConditions (body : List (String × Json)) : Script (Option (List Condition)) :=
  match Json.findMember "conditions" body with
  | some (.arr (item :: items)) => resolveItems 0 (item :: items)
  | _ => do
    reject .emptyConditions
    pure none

/-- The text under a key of a body. -/
def stringKey (body : List (String × Json)) (key : String) : Script (Option String) :=
  match Json.findMember key body with
  | some (.str s) => pure (some s)
  | _ => do
    reject (.missingKey key)
    pure none

/-- The leaf of a lookup, when the registry has the field and the field takes
the value. -/
def lookup (name lookup : String) (value : Json) : Script (Option Condition) := do
  match (← place).registry.get? name with
  | none =>
    reject (.unknownField name)
    pure none
  | some field =>
    match field.validate value lookup with
    | .ok prepared => pure (some (.leaf ⟨field, lookup, prepared⟩))
    | .error e =>
      reject (.field e)
      pure none

end Script

/-- The members of a condition object. -/
abbrev Body := List (String × Json)

namespace Body

/-- The value under a key, null when there is none. -/
def valueAt (body : Body) (key : String) : Json := (Json.findMember key body).getD .null

end Body

/-- How the conditions of a kind are resolved. -/
abbrev Handler := Body → Script (Option Condition)

end Criteria

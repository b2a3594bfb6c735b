/-
Further kinds of conditions, to be registered beside the built-in ones.

Kinds that shorten documents (`between`, `constant`, `wrap`, `inline`,
`reverse`), kinds that take part in the checking of documents (`never`,
`rejecting`, `probe`, `noted`) and kinds that let empty lists pass (`empty`,
`lenient`).
-/
import Criteria.Condition.Script

namespace Criteria.Handler

/-- A field within two bounds: both are looked up, also when the first fails. -/
def between : Handler := fun body => do
  match ← Script.stringKey body "field" with
  | none => pure none
  | some field =>
    let low ← Script.lookup field "gte" (Body.valueAt body "from")
    let high ← Script.lookup field "lte" (Body.valueAt body "to")
    match low, high with
    | some low, some high => pure (some (.all [low, high]))
    | _, _ => pure none

/-- A lookup that does not depend on the document. -/
def constant (field lookup : String) (value : Json) : Handler := fun _ =>
  Script.lookup field lookup value

/-- No condition, and no reason. -/
def never : Handler := fun _ => pure none

/-- The conjunction of nothing. -/
def empty : Handler := fun _ => pure (some (.all []))

/-- No condition, for the reason that the document gives. -/
def rejecting : Handler := fun body => do
  match ← Script.stringKey body "message" with
  | none => pure none
  | some reason =>
    Script.reject (.invalid reason)
    pure none

/-- No condition; the reason tells the place. -/
def probe : Handler := fun _ => do
  let place ← Script.place
  Script.reject (.invalid
    ("path=" ++ place.location.text ++ " errors=" ++ toString place.rejections
      ++ " fields=" ++ toString place.registry.size))
  pure none

/-- The inner condition, after a report that refuses the document all the same. -/
def noted : Handler := fun body => do
  Script.reject (.invalid "noted")
  Script.resolveChild "inner" (Body.valueAt body "inner")

/-- A conjunction of the inner condition, under a segment of its own. -/
def wrap : Handler := fun body => do
  match ← Script.stringKey body "segment" with
  | none => pure none
  | some segment =>
    return (← Script.resolveChild segment (Body.valueAt body "inner")).map fun c => .all [c]

/-- The inner condition, as if it stood at the place of the outer one. -/
def inline : Handler := fun body => Script.resolve (Body.valueAt body "inner")

/-- A disjunction of the listed conditions, last to first. -/
def reverse : Handler := fun body => do
  return (← Script.resolveConditions body).map fun cs => .any cs.reverse

/-- A conjunction of the listed conditions, or of nothing when they fail. -/
def lenient : Handler := fun body => do
  return some (.all ((← Script.resolveConditions body).getD []))

end Criteria.Handler

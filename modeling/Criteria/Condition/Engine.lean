/-
The engine that resolves condition documents.

* `Progress`: how far a resolution has come, the place and the diagnostics;
* `Script.run`: the steps of a handler;
* `Engine.resolveIn`: the resolution of a document from any progress, with a
  bound on how deep visits may nest;
* `Engine.standard`: the engine with the kinds `and`, `or` and `lookup`;
* `Engine.resolve`: the outcome of a whole document. The bound is one more
  than the depth of the document, which is enough for handlers that visit
  nothing but parts of what they are given.
-/
import Criteria.Condition.Script

namespace Criteria

/-- How far a resolution has come. -/
structure Progress where
  /-- The segments that lead to the current node, the innermost first. -/
  trail : List String
  /-- What has been reported so far, in order. -/
  diagnostics : List Diagnostic
  deriving DecidableEq, Repr

namespace Progress

/-- The start of a resolution. -/
def start : Progress := ⟨[], []⟩

/-- The place of the current node. -/
def location (p : Progress) : Pointer := ⟨p.trail.reverse⟩

/-- Goes down to a place below the current node. -/
def enter (p : Progress) (segments : List String) : Progress :=
  { p with trail := segments.reverse ++ p.trail }

/-- Goes up by a number of segments. -/
def leave (p : Progress) (count : Nat) : Progress := { p with trail := p.trail.drop count }

/-- Reports a rejection of the current node. -/
def report (p : Progress) (rejection : Rejection) : Progress :=
  { p with diagnostics := p.diagnostics ++ [⟨p.location, rejection⟩] }

end Progress

/-- Runs the steps of a script. The visits are those of `visit`, and where one
has no result the script has none. -/
def Script.run {α : Type} (registry : Registry)
    (visit : Json → Progress → Option (Option Condition × Progress)) :
    Script α → Progress → Option (α × Progress)
  | .done a, p => some (a, p)
  | .report rejection next, p => run registry visit next (p.report rejection)
  | .look next, p =>
    run registry visit (next ⟨p.location, p.diagnostics.length, registry⟩) p
  | .visit segments document next, p =>
    match visit document (p.enter segments) with
    | none => none
    | some (found, p') => run registry visit (next found) (p'.leave segments.length)

/-- The key that holds the kind of a condition. -/
def kindKey : String := "kind"

/-- A registry and the kinds of conditions with their handlers. -/
structure Engine where
  registry : Registry
  handlers : Table Handler

/-- The outcome of a resolution: a condition, or all that is wrong. -/
abbrev Outcome := Except Refusal Condition

namespace Engine

/-- The handler of a kind. -/
def handler? (e : Engine) (kind : String) : Option Handler := e.handlers.lookup kind

/-- Whether the engine has a kind. -/
def supports (e : Engine) (kind : String) : Bool := (e.handler? kind).isSome

/-- The kinds, in ascending order. -/
def kinds (e : Engine) : List String := (NameSet.ofList (e.handlers.map Prod.fst)).toList

/-- The engine with one more kind; a kind that it has already is replaced. -/
def register (e : Engine) (kind : String) (handler : Handler) : Engine :=
  { e with handlers := e.handlers.insert kind handler }

/-- Resolves a document at the current place, with visits nested no deeper
than a bound. A handler that gives no condition and reports nothing gets a
report of its own. There is no result when the bound is too small. -/
def resolveIn (e : Engine) : Nat → Json → Progress → Option (Option Condition × Progress)
  | 0, _, _ => none
  | bound + 1, .obj body, p =>
    match Json.findMember kindKey body with
    | some (.str kind) =>
      if kind = "" then some (none, p.report .missingKind)
      else match e.handler? kind with
        | none => some (none, p.report (.unknownKind kind))
        | some handler =>
          match (handler body).run e.registry (e.resolveIn bound) p with
          | none => none
          | some (none, p') =>
            if p'.diagnostics.length = p.diagnostics.length then
              some (none, p'.report (.invalid (kind ++ " condition could not be resolved")))
            else some (none, p')
          | some (some c, p') => some (some c, p')
    | _ => some (none, p.report .missingKind)
  | _ + 1, _, p => some (none, p.report .notAnObject)

/-- The outcome of what a resolution gives and reports: any report refuses the
document. -/
def outcome : Option Condition × Progress → Outcome
  | (found, p) =>
    if p.diagnostics = [] then
      match found with
      | some c => .ok c
      | none => .error ⟨[⟨.root, .invalid "no condition produced"⟩]⟩
    else .error ⟨p.diagnostics⟩

/-- The outcome of a document, with visits nested no deeper than a bound. -/
def resolveWithin (e : Engine) (bound : Nat) (document : Json) : Option Outcome :=
  (e.resolveIn bound document .start).map outcome

/-- The outcome of a document. -/
def resolve (e : Engine) (document : Json) : Option Outcome :=
  e.resolveWithin (document.depth + 1) document

/-- Whether a document resolves to a condition. -/
def isValid (e : Engine) (document : Json) : Bool :=
  match e.resolve document with
  | some (.ok _) => true
  | _ => false

/-- A short description of an engine. -/
def text (e : Engine) : String :=
  "ConditionEngine \x7b fields: " ++ toString e.registry.size ++ ", kinds: ["
    ++ String.intercalate ", " (e.kinds.map quote) ++ "] \x7d"

end Engine

/-! ### The built-in kinds -/

namespace Handler

/-- A conjunction of the listed conditions. -/
def conjunction : Handler := fun body => do
  return (← Script.resolveConditions body).map .all

/-- A disjunction of the listed conditions. -/
def disjunction : Handler := fun body => do
  return (← Script.resolveConditions body).map .any

/-- A lookup of a field; a value that is left out is null. -/
def lookup : Handler := fun body => do
  match ← Script.stringKey body "field" with
  | none => pure none
  | some field =>
    match ← Script.stringKey body "lookup" with
    | none => pure none
    | some lookup => Script.lookup field lookup (Body.valueAt body "value")

end Handler

/-- The engine with the built-in kinds. -/
def Engine.standard (registry : Registry) : Engine :=
  ⟨registry,
    [("and", Handler.conjunction), ("or", Handler.disjunction), ("lookup", Handler.lookup)]⟩

end Criteria

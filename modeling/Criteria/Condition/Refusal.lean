/-
Why documents are refused.

* `Rejection`: what is wrong with one node of a document;
* `Diagnostic`: a rejection and the place of the node;
* `Refusal`: all diagnostics of a document, by field (`Refusal.byField`) or
  about its shape alone (`Refusal.structural`).
-/
import Criteria.Field.Validation
import Criteria.Json.Pointer

namespace Criteria

/-- What is wrong with one node of a document. -/
inductive Rejection where
  | notAnObject
  | missingKind
  | unknownKind (kind : String)
  | emptyConditions
  | missingKey (key : String)
  | unknownField (name : String)
  | field (source : FieldError)
  | invalid (reason : String)
  deriving DecidableEq, Repr

namespace Rejection

/-- The wording of a rejection. -/
def message : Rejection → String
  | notAnObject => "condition must be a JSON object"
  | missingKind => "condition kind not specified"
  | unknownKind kind => "unsupported condition kind: " ++ kind
  | emptyConditions => "conditions must be a list with at least one element"
  | missingKey key => quote key ++ " must be specified as a string"
  | unknownField name => "unknown field: " ++ name
  | field source => source.message
  | invalid reason => "invalid condition: " ++ reason

/-- The field that a rejection is about, if it is about one. -/
def field? : Rejection → Option String
  | unknownField name => some name
  | field source => some source.field
  | _ => none

end Rejection

/-- A rejection and the place of the rejected node. -/
structure Diagnostic where
  location : Pointer
  rejection : Rejection
  deriving DecidableEq, Repr

namespace Diagnostic

/-- The written place of the node, empty for the root. -/
def path (d : Diagnostic) : String := d.location.text

/-- The field that a diagnostic is about, if it is about one. -/
def field? (d : Diagnostic) : Option String := d.rejection.field?

/-- The wording of a diagnostic. -/
def message (d : Diagnostic) : String :=
  "at " ++ (if d.path = "" then "root" else d.path) ++ ": " ++ d.rejection.message

/-- The diagnostic as it reads from a place that lies the given segments
further up. -/
def under (d : Diagnostic) (segments : List String) : Diagnostic :=
  { d with location := d.location.under segments }

end Diagnostic

/-- The diagnostics of a refused document, in the order of the document. -/
structure Refusal where
  diagnostics : List Diagnostic
  deriving DecidableEq, Repr

namespace Refusal

/-- The number of diagnostics. -/
def size (r : Refusal) : Nat := r.diagnostics.length

/-- The wording of a refusal. -/
def message (r : Refusal) : String :=
  "condition document rejected with " ++ toString r.size ++ " error(s)"

/-- Puts a rejection at the end of the group with a name, in groups that are
in ascending order of their names. -/
def addToGroup (name : String) (rejection : Rejection) :
    List (String × List Rejection) → List (String × List Rejection)
  | [] => [(name, [rejection])]
  | (n, group) :: groups =>
    if name < n then (name, [rejection]) :: (n, group) :: groups
    else if name = n then (n, group ++ [rejection]) :: groups
    else (n, group) :: addToGroup name rejection groups

/-- Puts the rejection of a diagnostic in the group of its field, if it is
about one. -/
def addDiagnostic (groups : List (String × List Rejection)) (d : Diagnostic) :
    List (String × List Rejection) :=
  match d.field? with
  | some name => addToGroup name d.rejection groups
  | none => groups

/-- The rejections that are about a field, grouped by its name. -/
def byField (r : Refusal) : List (String × List Rejection) :=
  r.diagnostics.foldl addDiagnostic []

/-- The diagnostics that are about no field. -/
def structural (r : Refusal) : List Diagnostic :=
  r.diagnostics.filter fun d => d.field?.isNone

end Refusal

end Criteria

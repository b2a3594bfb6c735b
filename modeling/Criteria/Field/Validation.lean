/-
The values that a field takes in a lookup.

* `FieldError`: why a field rejects a value, with `FieldError.message` its
  wording;
* `Constraint.check`: the integers that a constraint lets pass, with the error
  for the others;
* `Field.scalar`: the scalar that a document stands for in a field;
* `Field.validate`: the value that it stands for in a lookup, which is a list
  in the membership lookup and one scalar in any other.
-/
import Criteria.Field.Basic
import Criteria.Field.Prepared
import Criteria.Json.Basic
import Criteria.Temporal.Literal.DateTime
import Criteria.Temporal.Literal.Duration

namespace Criteria

/-! ### Why a field rejects a value -/

/-- What a field expected in place of a value of the wrong type. -/
inductive Expectation where
  /-- A single value of a kind. -/
  | one (kind : ValueKind)
  /-- A list of values of a kind. -/
  | list (kind : ValueKind)
  deriving DecidableEq, Repr

namespace Expectation

/-- The wording of an expectation. -/
def text : Expectation → String
  | one kind => kind.expected
  | list kind => "a list of " ++ kind.name ++ " values"

end Expectation

/-- Why a field rejects a value. -/
inductive FieldError where
  | unsupportedLookup (field lookup : String)
  | typeMismatch (field : String) (expected : Expectation)
  | outOfRange (field : String) (value : Int) (bound : Range)
  | invalidChoice (field : String) (value : Int) (allowed : List Int64)
  | temporal (field : String) (source : TemporalError)
  deriving DecidableEq, Repr

namespace FieldError

/-- The name of the field that rejects the value. -/
def field : FieldError → String
  | unsupportedLookup field _ | typeMismatch field _ | outOfRange field _ _
  | invalidChoice field _ _ | temporal field _ => field

/-- A list of numbers between brackets. -/
def keysText (keys : List Int64) : String :=
  "[" ++ String.intercalate ", " (keys.map fun k => toString k.toInt) ++ "]"

/-- The wording of a field error. -/
def message : FieldError → String
  | unsupportedLookup field lookup =>
    "unsupported lookup " ++ quote lookup ++ " for field " ++ quote field
  | typeMismatch field expected => "field " ++ quote field ++ " expects " ++ expected.text
  | outOfRange field value bound =>
    "value " ++ toString value ++ " for field " ++ quote field ++ " is outside " ++ bound.text
  | invalidChoice field value allowed =>
    "value " ++ toString value ++ " for field " ++ quote field ++ " is not one of "
      ++ keysText allowed
  | temporal field source => "field " ++ quote field ++ ": " ++ source.message

end FieldError

/-! ### Checking a value -/

/-- Checks an integer against a constraint, for the field with a name. -/
def Constraint.check (c : Constraint) (field : String) (n : Int) : Except FieldError Unit :=
  if c.allows n then .ok ()
  else match c with
    | .free => .ok ()
    | .range bounds => .error (.outOfRange field n bounds)
    | .choice choices => .error (.invalidChoice field n (choices.map Choice.key))

namespace Field

/-- The error for a value of the wrong type. -/
def mismatch (f : Field) : FieldError := .typeMismatch f.name (.one f.kind)

/-- The result of reading a literal, its error as an error of the field. -/
def ofLiteral {α : Type} (f : Field) (result : Except TemporalError α) (make : α → Scalar) :
    Except FieldError Scalar :=
  match result with
  | .ok a => .ok (make a)
  | .error e => .error (.temporal f.name e)

/-- A duration, or else an absolute literal. -/
def ofLiteralOrDuration {α : Type} (f : Field) (s : String) (resolution : Resolution)
    (absolute : String → Except TemporalError α) (make : α → Scalar) :
    Except FieldError Scalar :=
  match Duration.parse s with
  | .ok d => .ok (.relative d resolution)
  | .error _ => f.ofLiteral (absolute s) make

/-- An integer of a document that the constraint lets pass. -/
def ofInteger (f : Field) (raw : Json) : Except FieldError Scalar :=
  match raw.integer? with
  | some n =>
    match f.constraint.check f.name n with
    | .ok _ => .ok (.integer n)
    | .error e => .error e
  | none => .error f.mismatch

/-- The scalar that a document stands for in a field. -/
def scalar (f : Field) (raw : Json) : Except FieldError Scalar :=
  match f.kind with
  | .float =>
    match raw with
    | .num n => .ok (.float n.toFloat)
    | _ => .error f.mismatch
  | .string =>
    match raw with
    | .str s => .ok (.string s)
    | _ => .error f.mismatch
  | .boolean =>
    match raw with
    | .bool b => .ok (.boolean b)
    | _ => .error f.mismatch
  | .date =>
    match raw with
    | .str s => f.ofLiteralOrDuration s .date WrittenDate.parse .date
    | _ => .error f.mismatch
  | .datetime =>
    match raw with
    | .str s => f.ofLiteralOrDuration s .datetime DateTime.parse .datetime
    | _ => .error f.mismatch
  | .time =>
    match raw with
    | .str s => f.ofLiteral (TimeOfDay.parse s) .time
    | _ => .error f.mismatch
  | .int | .year | .month | .week | .day | .weekday | .hour | .minute | .second =>
    f.ofInteger raw

/-- The scalars that the items of a list stand for; the first item that is
rejected gives the error. -/
def scalarList (f : Field) : List Json → Except FieldError (List Scalar)
  | [] => .ok []
  | item :: items =>
    match f.scalar item with
    | .error e => .error e
    | .ok s =>
      match f.scalarList items with
      | .error e => .error e
      | .ok ss => .ok (s :: ss)

/-- The value that a document stands for in a lookup. The lookup is checked
before the value; in a membership lookup the value is a list, and each item
is checked by itself. -/
def validate (f : Field) (raw : Json) (lookup : String) : Except FieldError Prepared :=
  if f.supports lookup then
    if lookup = membershipLookup then
      match raw with
      | .arr items => (f.scalarList items).map .many
      | _ => .error (.typeMismatch f.name (.list f.kind))
    else (f.scalar raw).map .single
  else .error (.unsupportedLookup f.name lookup)

end Field

end Criteria

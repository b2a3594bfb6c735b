/-
The kinds of fields.

* `ValueKind`: the fifteen kinds, with their names;
* `ValueKind.ofName?`: the kind of a name in any letter case, and
  `ValueKind.ofWritten?` the kind of a name in a configuration, where case
  counts;
* `ValueKind.defaultConstraint`, `ValueKind.accepts`: the constraint that a
  kind starts with, and the constraints of the same shape.
-/
import Criteria.Field.Constraint

namespace Criteria

/-- The kind of JSON value that a field asks for. -/
inductive InputKind where
  | int
  | number
  | string
  | boolean
  deriving DecidableEq, Repr

namespace InputKind

/-- All input kinds. -/
def all : List InputKind := [.int, .number, .string, .boolean]

/-- The name of an input kind. -/
def name : InputKind → String
  | int => "int"
  | number => "number"
  | string => "string"
  | boolean => "boolean"

/-- The form of an input kind. -/
def toWritten (k : InputKind) : Written := .ofString k.name

/-- The input kind of a form. -/
def ofWritten? : Written → Option InputKind := Written.oneOf? all name

end InputKind

/-- The kind of the values of a field. -/
inductive ValueKind where
  | int
  | float
  | string
  | boolean
  | date
  | time
  | datetime
  | year
  | month
  | week
  | day
  | weekday
  | hour
  | minute
  | second
  deriving DecidableEq, Repr

namespace ValueKind

/-- All kinds. -/
def all : List ValueKind :=
  [.int, .float, .string, .boolean, .date, .time, .datetime, .year, .month, .week, .day,
    .weekday, .hour, .minute, .second]

/-- The name of a kind. -/
def name : ValueKind → String
  | int => "int"
  | float => "float"
  | string => "string"
  | boolean => "boolean"
  | date => "date"
  | time => "time"
  | datetime => "datetime"
  | year => "year"
  | month => "month"
  | week => "week"
  | day => "day"
  | weekday => "weekday"
  | hour => "hour"
  | minute => "minute"
  | second => "second"

/-- The other names that a kind answers to. -/
def aliases : ValueKind → List String
  | int => ["integer"]
  | boolean => ["bool"]
  | weekday => ["week_day"]
  | _ => []

/-- The kind with a name, by its own name or another. -/
def ofExactName? (s : String) : Option ValueKind :=
  all.find? fun k => k.name = s || k.aliases.contains s

/-- The lowercase letter of a letter, as far as it is one of ASCII; the sign
for kelvin is a capital K. -/
def foldCase (c : Char) : Char := if c = '\u212a' then 'k' else c.toLower

/-- The kind with a name in any letter case. -/
def ofName? (s : String) : Option ValueKind := ofExactName? (s.map foldCase)

/-- The form of a kind. -/
def toWritten (k : ValueKind) : Written := .ofString k.name

/-- The kind of a form. -/
def ofWritten? (w : Written) : Option ValueKind := w.variant?.bind ofExactName?

/-- The kind of JSON value that a kind asks for. -/
def inputKind : ValueKind → InputKind
  | float => .number
  | string | date | time | datetime => .string
  | boolean => .boolean
  | _ => .int

/-- The constraint that a field of a kind starts with. -/
def defaultConstraint : ValueKind → Constraint
  | month => .choice Choice.months
  | weekday => .choice Choice.weekdays
  | week => .range ⟨1, 53⟩
  | day => .range ⟨1, 31⟩
  | hour => .range ⟨0, 23⟩
  | minute | second => .range ⟨0, 59⟩
  | _ => .free

/-- Whether a kind can carry a constraint: the shape has to be that of its own
constraint, the content may differ. -/
def accepts (k : ValueKind) (c : Constraint) : Bool := c.shape = k.defaultConstraint.shape

/-- The wording of what a kind expects. -/
def expected : ValueKind → String
  | float => "a number"
  | string => "a string"
  | boolean => "a boolean"
  | date => "an ISO8601 date or duration"
  | time => "an ISO8601 time"
  | datetime => "an ISO8601 datetime or duration"
  | _ => "an integer"

end ValueKind

end Criteria

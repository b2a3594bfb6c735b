/-
The values that fields prepare.

* `Scalar`: a single value; dates and datetimes may be relative, a duration
  from the moment of execution;
* `Prepared`: one scalar, or the list of a membership lookup;
* `Prepared.resolve?`: the value with its relative scalars replaced by what
  they mean at an instant.
-/
import Criteria.Decimal.Shortest
import Criteria.Temporal.DateTime
import Criteria.Temporal.Duration

namespace Criteria

/-- What a relative value becomes at the moment of execution. -/
inductive Resolution where
  | date
  | datetime
  deriving DecidableEq, Repr

namespace Resolution

/-- The name of a resolution. -/
def name : Resolution → String
  | date => "date"
  | datetime => "datetime"

end Resolution

/-- A single prepared value. -/
inductive Scalar where
  | integer (n : Int)
  | float (x : Float)
  | string (s : String)
  | boolean (b : Bool)
  | date (d : WrittenDate)
  | time (t : TimeOfDay)
  | datetime (t : DateTime)
  /-- The moment of execution, moved by a duration. -/
  | relative (duration : Duration) (resolution : Resolution)

namespace Scalar

/-- The text of a scalar. -/
def text : Scalar → String
  | integer n => toString n
  | float x => floatText x
  | string s => quote s
  | boolean b => if b then "true" else "false"
  | date d => d.text
  | time t => t.text
  | datetime t => t.text
  | relative duration _ => "now+" ++ duration.text

/-- Whether a scalar is relative. -/
def isRelative : Scalar → Bool
  | relative _ _ => true
  | _ => false

/-- The scalar of an instant: its day, or its day and time in UTC. -/
def ofInstant (t : Instant) : Resolution → Scalar
  | .date => date ⟨t.date, .day⟩
  | .datetime => datetime (DateTime.ofInstant t)

/-- What a scalar means at an instant; there is none when the moved instant is
outside the calendar. -/
def resolve? (now : Instant) : Scalar → Option Scalar
  | relative duration resolution =>
    (duration.shift? now).map fun t => ofInstant t resolution
  | s => some s

end Scalar

/-- The value of a lookup: one scalar, or the list of a membership lookup. -/
inductive Prepared where
  | single (s : Scalar)
  | many (items : List Scalar)

namespace Prepared

/-- The scalars of a value. -/
def scalars : Prepared → List Scalar
  | single s => [s]
  | many items => items

/-- The text of a value. -/
def text : Prepared → String
  | single s => s.text
  | many items => "[" ++ String.intercalate ", " (items.map Scalar.text) ++ "]"

/-- Whether a value has a relative scalar. -/
def hasRelative (p : Prepared) : Bool := p.scalars.any Scalar.isRelative

/-- What a value means at an instant. -/
def resolve? (now : Instant) : Prepared → Option Prepared
  | single s => (s.resolve? now).map single
  | many items => (items.mapM (Scalar.resolve? now)).map many

end Prepared

end Criteria

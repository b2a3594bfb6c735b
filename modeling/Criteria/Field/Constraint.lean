/-
Constraints on the integers that a field takes.

* `Range`: inclusive bounds; `Choice`: an allowed number with its label;
* `Constraint`: no restriction, a range or a list of choices, each with a
  shape of its own (`Constraint.Shape`);
* `Constraint.allows`: the integers that a constraint lets pass.

Bounds and keys are 64-bit words; the integers that are checked may be any, and
are made into words first.
-/
import Criteria.Json.Number
import Criteria.Json.Record

namespace Criteria

/-- Inclusive bounds of an integer. -/
structure Range where
  min : Int64
  max : Int64
  deriving DecidableEq, Repr

namespace Range

/-- The numbers from `start` up to, but not including, `stop`. -/
def halfOpen (start stop : Int64) : Range := ⟨start, stop - 1⟩

/-- Whether a word is within the bounds. -/
def contains (r : Range) (w : Int64) : Bool := r.min ≤ w && w ≤ r.max

/-- Whether no integer is within the bounds. -/
def isEmpty (r : Range) : Bool := r.max.toInt < r.min.toInt

/-- The wording of the bounds. -/
def text (r : Range) : String := toString r.min.toInt ++ "..=" ++ toString r.max.toInt

/-- The form of the bounds. -/
def toWritten (r : Range) : Written :=
  .record [("min", .ofInt r.min.toInt), ("max", .ofInt r.max.toInt)]

/-- The bounds of a form. -/
def ofWritten? (w : Written) : Option Range := do
  let r ← Record.ofWritten? ["min", "max"] w
  some ⟨← r.required "min" Written.int64?, ← r.required "max" Written.int64?⟩

end Range

/-- An allowed number and the label it is shown with. -/
structure Choice where
  key : Int64
  label : String
  deriving DecidableEq, Repr

namespace Choice

/-- The form of a choice. -/
def toWritten (c : Choice) : Written :=
  .record [("key", .ofInt c.key.toInt), ("label", .ofString c.label)]

/-- The choice of a form. -/
def ofWritten? (w : Written) : Option Choice := do
  let r ← Record.ofWritten? ["key", "label"] w
  some ⟨← r.required "key" Written.int64?, ← r.required "label" Written.text?⟩

/-- The months of the year, from January. -/
def months : List Choice :=
  [⟨1, "January"⟩, ⟨2, "February"⟩, ⟨3, "March"⟩, ⟨4, "April"⟩, ⟨5, "May"⟩, ⟨6, "June"⟩,
    ⟨7, "July"⟩, ⟨8, "August"⟩, ⟨9, "September"⟩, ⟨10, "October"⟩, ⟨11, "November"⟩,
    ⟨12, "December"⟩]

/-- The days of the week, from Monday; Sunday has the number 1. -/
def weekdays : List Choice :=
  [⟨2, "Monday"⟩, ⟨3, "Tuesday"⟩, ⟨4, "Wednesday"⟩, ⟨5, "Thursday"⟩, ⟨6, "Friday"⟩,
    ⟨7, "Saturday"⟩, ⟨1, "Sunday"⟩]

end Choice

/-- A restriction on the integers that a field takes. -/
inductive Constraint where
  | free
  | range (bounds : Range)
  | choice (choices : List Choice)
  deriving DecidableEq, Repr

namespace Constraint

/-- The shapes of constraints. -/
inductive Shape where
  | free
  | range
  | choice
  deriving DecidableEq, Repr

/-- The shape of a constraint. -/
def shape : Constraint → Shape
  | free => .free
  | range _ => .range
  | choice _ => .choice

/-- Whether a constraint lets an integer pass. One that no signed word holds is
outside all bounds and no key. -/
def allows : Constraint → Int → Bool
  | free, _ => true
  | range bounds, n => (signedWord? n).any bounds.contains
  | choice choices, n => (signedWord? n).any fun w => choices.any fun c => c.key = w

end Constraint

end Criteria

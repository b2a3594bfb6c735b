/-
Conditions: predicate trees over the fields of a registry.

* `Leaf`: a lookup of a field with a prepared value;
* `Condition`: conjunctions and disjunctions over leaves;
* `Condition.depth`, `Condition.leaves`: the nesting and the leaves of a tree,
  in the order of the document.
-/
import Criteria.Field.Basic
import Criteria.Field.Prepared

namespace Criteria

/-- A lookup of a field with a prepared value. -/
structure Leaf where
  field : Field
  lookup : String
  value : Prepared

/-- A predicate tree. -/
inductive Condition where
  | all (children : List Condition)
  | any (children : List Condition)
  | leaf (l : Leaf)

namespace Condition

/-- The name of the kind of the topmost node. -/
def kind : Condition → String
  | all _ => "and"
  | any _ => "or"
  | leaf _ => "lookup"

mutual

/-- The nesting depth; a leaf has depth one. -/
def depth : Condition → Nat
  | all children => 1 + depthList children
  | any children => 1 + depthList children
  | leaf _ => 1

/-- The greatest depth of several trees. -/
def depthList : List Condition → Nat
  | [] => 0
  | c :: cs => max (depth c) (depthList cs)

end

mutual

/-- The leaves, in the order of the document. -/
def leaves : Condition → List Leaf
  | all children => leavesList children
  | any children => leavesList children
  | leaf l => [l]

/-- The leaves of several trees, one tree after the other. -/
def leavesList : List Condition → List Leaf
  | [] => []
  | c :: cs => leaves c ++ leavesList cs

end

end Condition

end Criteria

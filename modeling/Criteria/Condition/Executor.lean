/-
Executors: how a data source turns a condition into a predicate of its own.

* `Executor`: what to do at each node, in a monad of the executor's choice;
* `Condition.predicate`: the predicate of a tree, built from the leaves up.
  Children come before their parent and in their order, so the first failure
  ends the work.
-/
import Criteria.Condition.Basic

namespace Criteria

/-- What an executor does at each node of a tree. A node with children gets
the predicates of its children; a leaf gives the name of its field in storage,
its lookup and its value. -/
structure Executor (m : Type → Type) (π : Type) where
  onAll : List π → m π
  onAny : List π → m π
  onLeaf : (storage lookup : String) → Prepared → m π

namespace Condition

variable {m : Type → Type} {π : Type} [Monad m]

mutual

/-- The predicate of a tree: first those of its children, then its own. -/
def predicate (x : Executor m π) : Condition → m π
  | all children => do x.onAll (← predicates x children)
  | any children => do x.onAny (← predicates x children)
  | leaf l => x.onLeaf l.field.storage l.lookup l.value

/-- The predicates of several trees, one after the other. -/
def predicates (x : Executor m π) : List Condition → m (List π)
  | [] => pure []
  | c :: cs => do
    let p ← predicate x c
    let ps ← predicates x cs
    pure (p :: ps)

end

end Condition

end Criteria

/-
An executor that keeps a record of its work, and that can be told to fail.

* `Trace`: a computation with the events so far, which may end in an error;
* `tracing`: the executor. Its predicates tell the shape of a tree and the
  number of scalars at its leaves.
-/
import Criteria.Condition.Executor

namespace Criteria

/-- A computation that keeps events and may fail; the events remain. -/
abbrev Trace := ExceptT String (StateM (List String))

namespace Trace

/-- Keeps an event. -/
def event (e : String) : Trace Unit := modify (· ++ [e])

end Trace

/-- The visit of a node with children: an event with their number, and a
failure if that is the given one. -/
def traceJoin (operator : String) (failAt : Option Nat) (children : List String) :
    Trace String := do
  Trace.event (operator ++ " " ++ toString children.length)
  if failAt = some children.length then
    throw ("cannot " ++ operator ++ " " ++ toString children.length)
  else pure (operator ++ "(" ++ String.intercalate "," children ++ ")")

/-- The executor that keeps a record. It fails at a leaf with the storage name
`failOn` and at a node with `failAt` children. -/
def tracing (failOn : Option String) (failAt : Option Nat) : Executor Trace String where
  onAll := traceJoin "and" failAt
  onAny := traceJoin "or" failAt
  onLeaf storage lookup value := do
    Trace.event ("lookup " ++ storage ++ " " ++ lookup ++ " " ++ value.text)
    if failOn = some storage then throw ("no column " ++ storage)
    else pure (storage ++ ":" ++ toString value.scalars.length)

end Criteria

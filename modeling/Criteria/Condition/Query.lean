/-
Queries: a document with its outcome, decided once.
-/
import Criteria.Condition.Engine
import Criteria.Condition.Executor

namespace Criteria

/-- A document with its outcome. -/
structure Query where
  document : Json
  outcome : Outcome

namespace Query

/-- Whether the document resolved to a condition. -/
def isValid (q : Query) : Bool := q.outcome.isOk

/-- The condition of a valid query. -/
def condition? (q : Query) : Option Condition := q.outcome.toOption

/-- The refusal of an invalid query. -/
def refusal? (q : Query) : Option Refusal :=
  match q.outcome with
  | .ok _ => none
  | .error r => some r

/-- The predicate of an executor, for a valid query. -/
def predicate? {m : Type → Type} {π : Type} [Monad m] (q : Query) (x : Executor m π) :
    Option (m π) :=
  q.condition?.map fun c => c.predicate x

end Query

/-- The query of a document. -/
def Engine.query (e : Engine) (document : Json) : Option Query :=
  (e.resolve document).map (Query.mk document)

end Criteria

import Criteria.Condition.Kinds
import Criteria.Condition.Query
import Criteria.Condition.Text
import Criteria.Condition.Trace
import Criteria.Proofs.Condition.Agreement
import Criteria.Proofs.Condition.Refusals
import Criteria.Proofs.Condition.Typing
import Criteria.Proofs.Field.Resolution
import Criteria.Proofs.Registry.Config
import Criteria.Proofs.Registry.Text
import Criteria.Proofs.Temporal.Literal.Duration
import Criteria.Proofs.Temporal.Literal.Instant
import Criteria.Proofs.Temporal.Order
import Criteria.Temporal.Form
import Criteria.Proofs.Field.Lookups
import Criteria.Proofs.Field.Integers
import Criteria.Proofs.Field.Attempts
import Criteria.Proofs.Field.Description
import Criteria.Proofs.Condition.Pruning
import Criteria.Proofs.Condition.Visits
import Criteria.Proofs.Condition.Calls
import Criteria.Proofs.Field.Text
import Criteria.Proofs.Condition.Text
import Criteria.Proofs.Condition.Nesting
import Criteria.Proofs.Condition.Grouping

/-
Conditions in words: `storage lookup value` for a leaf, children joined by
`AND` or `OR` between parentheses, an only child as it is.

* `explain`: the executor that renders a tree in words;
* `Condition.text`: a tree in words.
-/
import Criteria.Condition.Executor

namespace Criteria

/-- The text of a node with children: an only child stands for itself. -/
def joinText (operator : String) : List String → String
  | [child] => child
  | children => "(" ++ String.intercalate operator children ++ ")"

/-- The executor that renders a tree in words. -/
def explain : Executor Id String where
  onAll children := joinText " AND " children
  onAny children := joinText " OR " children
  onLeaf storage lookup value := storage ++ " " ++ lookup ++ " " ++ value.text

/-- A condition in words. -/
def Condition.text (c : Condition) : String := c.predicate explain

end Criteria

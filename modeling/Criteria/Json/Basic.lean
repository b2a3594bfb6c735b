/-
JSON documents.

* `Json`: a document; `Json.get?` finds the member of an object by name, of
  several the last one;
* `Json.depth`: how deep arrays and objects are nested;
* `Written.toJson?`: the document that a tree stands for, none when a number
  is too large, a surrogate half stands alone or the nesting is too deep;
* `Json.read?`: the document of a text.
-/
import Criteria.Json.Number
import Criteria.Json.Reader

namespace Criteria

/-- A JSON document. The members of an object keep their order, and a name may
occur more than once. -/
inductive Json where
  | null
  | bool (b : Bool)
  | num (n : Number)
  | str (s : String)
  | arr (items : List Json)
  | obj (members : List (String × Json))

namespace Json

/-- The value of the last member with a name. -/
def findMember (name : String) : List (String × Json) → Option Json
  | [] => none
  | (key, value) :: members =>
    match findMember name members with
    | some found => some found
    | none => if key = name then some value else none

/-- The member of an object by name. -/
def get? : Json → String → Option Json
  | .obj members, name => findMember name members
  | _, _ => none

/-- The text of a string. -/
def str? : Json → Option String
  | .str s => some s
  | _ => none

/-- The integer of a number: that of a signed word, or else of an unsigned one. -/
def integer? : Json → Option Int
  | .num n => (n.signed?.map Int64.toInt).or (n.unsigned?.map fun w => (w.toNat : Int))
  | _ => none

/-- The items of an array. -/
def items? : Json → Option (List Json)
  | .arr items => some items
  | _ => none

mutual

/-- The nesting depth of a document: zero for a plain value. -/
def depth : Json → Nat
  | .arr items => itemsDepth items + 1
  | .obj members => membersDepth members + 1
  | _ => 0

/-- The greatest depth of the items of an array. -/
def itemsDepth : List Json → Nat
  | [] => 0
  | item :: items => max (depth item) (itemsDepth items)

/-- The greatest depth of the members of an object. -/
def membersDepth : List (String × Json) → Nat
  | [] => 0
  | (_, value) :: members => max (depth value) (membersDepth members)

end

/-- The deepest nesting of a document that is read from a text. -/
def maxDepth : Nat := 127

end Json

namespace Written

mutual

/-- The document that a tree stands for, nested no deeper than a limit. -/
def toJsonWithin (limit : Nat) : Written → Option Json
  | .null => some .null
  | .bool b => some (.bool b)
  | .number n => n.toNumber?.map .num
  | .string units => (StringUnit.decode? units).map fun cs => .str (String.ofList cs)
  | .array items =>
    match limit with
    | 0 => none
    | limit + 1 => (itemsWithin limit items).map .arr
  | .object members =>
    match limit with
    | 0 => none
    | limit + 1 => (membersWithin limit members).map .obj

/-- The documents that the items of an array stand for. -/
def itemsWithin (limit : Nat) : List Written → Option (List Json)
  | [] => some []
  | item :: items =>
    match toJsonWithin limit item, itemsWithin limit items with
    | some item, some items => some (item :: items)
    | _, _ => none

/-- The members that those of an object stand for. -/
def membersWithin (limit : Nat) :
    List (List StringUnit × Written) → Option (List (String × Json))
  | [] => some []
  | (name, value) :: members =>
    match StringUnit.decode? name, toJsonWithin limit value, membersWithin limit members with
    | some name, some value, some members => some ((String.ofList name, value) :: members)
    | _, _, _ => none

end

/-- The document that a tree stands for. -/
def toJson? (tree : Written) : Option Json := tree.toJsonWithin Json.maxDepth

end Written

/-- The document of a JSON text. -/
def Json.read? (text : String) : Option Json := (Written.read? text).bind Written.toJson?

end Criteria

/-
Writing JSON text over several lines, two spaces for each level. An array or
object without content stays on its line.

* `Written.pretty`: the text of a tree;
* `StringUnit.text`: how a unit of a string is spelled.
-/
import Criteria.Json.Written

namespace Criteria

namespace StringUnit

/-- Four hexadecimal digits. -/
def hexText4 (n : Nat) : List Char := List.leftpad 4 '0' (Nat.toDigits 16 n)

/-- The spelling of a unit. Quotation marks, backslashes and control characters
are escaped, five of the latter by a letter of their own. -/
def text : StringUnit → List Char
  | char c =>
    if c = '"' then ['\\', '"']
    else if c = '\\' then ['\\', '\\']
    else if c = '\x08' then ['\\', 'b']
    else if c = '\x0c' then ['\\', 'f']
    else if c = '\n' then ['\\', 'n']
    else if c = '\r' then ['\\', 'r']
    else if c = '\t' then ['\\', 't']
    else if c < ' ' then ['\\', 'u'] ++ hexText4 c.toNat
    else [c]
  | half n => ['\\', 'u'] ++ hexText4 n

/-- The spelling of a string between quotation marks. -/
def listText (units : List StringUnit) : List Char := '"' :: units.flatMap text ++ ['"']

end StringUnit

namespace Numeral

/-- The spelling of a number. -/
def text (n : Numeral) : List Char :=
  (if n.negative then ['-'] else []) ++ n.whole.map Digit.char
    ++ (if n.fraction = [] then [] else '.' :: n.fraction.map Digit.char)
    ++ (match n.exponent with
      | none => []
      | some (sign, digits) => 'e' :: Sign.text sign ++ digits.map Digit.char)

end Numeral

namespace Written

/-- A new line, indented to a level. -/
def newLine (level : Nat) : List Char := '\n' :: List.replicate (2 * level) ' '

mutual

/-- The text of a tree whose first line stands at a level. -/
def prettyAt (level : Nat) : Written → List Char
  | .null => ['n', 'u', 'l', 'l']
  | .bool true => ['t', 'r', 'u', 'e']
  | .bool false => ['f', 'a', 'l', 's', 'e']
  | .number n => n.text
  | .string units => StringUnit.listText units
  | .array [] => ['[', ']']
  | .array (item :: items) =>
    '[' :: newLine (level + 1) ++ prettyAt (level + 1) item
      ++ prettyItems (level + 1) items ++ newLine level ++ [']']
  | .object [] => ['\x7b', '\x7d']
  | .object ((name, value) :: members) =>
    '\x7b' :: newLine (level + 1) ++ StringUnit.listText name ++ [':', ' ']
      ++ prettyAt (level + 1) value ++ prettyMembers (level + 1) members
      ++ newLine level ++ ['\x7d']

/-- The text of the items of an array after the first. -/
def prettyItems (level : Nat) : List Written → List Char
  | [] => []
  | item :: items =>
    ',' :: newLine level ++ prettyAt level item ++ prettyItems level items

/-- The text of the members of an object after the first. -/
def prettyMembers (level : Nat) : List (List StringUnit × Written) → List Char
  | [] => []
  | (name, value) :: members =>
    ',' :: newLine level ++ StringUnit.listText name ++ [':', ' ']
      ++ prettyAt level value ++ prettyMembers level members

end

/-- The text of a tree. -/
def pretty (tree : Written) : String := String.ofList (prettyAt 0 tree)

end Written

end Criteria

/-
Quoted text: how a text is shown inside a message.

* `quote`: the text between quotation marks, with the marks, backslashes and
  hidden characters escaped;
* `quoteList`: the same on lists of characters.
-/
import Criteria.Text.Hidden

namespace Criteria

/-- The lowercase hexadecimal digits of a number, without padding. -/
def hexText (n : Nat) : List Char := Nat.toDigits 16 n

/-- How one character stands inside quoted text. A quotation mark and a
backslash get a backslash in front; line feed, carriage return, tabulator and
the null character have letters of their own; any other hidden character is
written by its number. -/
def quoteChar (c : Char) : List Char :=
  if c = '"' then ['\\', '"']
  else if c = '\\' then ['\\', '\\']
  else if c = '\n' then ['\\', 'n']
  else if c = '\r' then ['\\', 'r']
  else if c = '\t' then ['\\', 't']
  else if c = '\x00' then ['\\', '0']
  else if isHidden c then ['\\', 'u', '\x7b'] ++ hexText c.toNat ++ ['\x7d']
  else [c]

/-- The characters of a text between quotation marks. -/
def quoteList (cs : List Char) : List Char := '"' :: cs.flatMap quoteChar ++ ['"']

/-- A text between quotation marks, as messages show it. -/
def quote (s : String) : String := String.ofList (quoteList s.toList)

end Criteria

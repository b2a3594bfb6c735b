/-
Reading JSON text.

* `Written.read?`: the tree of a whole text, none when the text is not JSON;
* `Written.readValue`, `Written.readItems`, `Written.readMembers`: a value,
  the rest of an array and the rest of an object at the head of a text, with
  what follows them.

The readers of nested values take a bound on the number of their steps. Each
step takes a character or goes from an array to its first item, so twice the
length of the text is enough.
-/
import Criteria.Json.Written

namespace Criteria

/-- Whether a character may stand between the tokens of a JSON text. -/
def isBlank (c : Char) : Bool := c = ' ' || c = '\t' || c = '\n' || c = '\r'

/-- A text without the blanks at its head. -/
def skipBlanks (cs : List Char) : List Char := cs.dropWhile isBlank

namespace StringUnit

/-- The number that a hexadecimal digit writes. -/
def hexDigit? (c : Char) : Option Nat :=
  if '0' ≤ c ∧ c ≤ '9' then some (c.toNat - 48)
  else if 'a' ≤ c ∧ c ≤ 'f' then some (c.toNat - 87)
  else if 'A' ≤ c ∧ c ≤ 'F' then some (c.toNat - 55)
  else none

/-- The unit written by four hexadecimal digits. -/
def ofHex? (a b c d : Char) : Option StringUnit :=
  match hexDigit? a, hexDigit? b, hexDigit? c, hexDigit? d with
  | some a, some b, some c, some d =>
    let n := ((a * 16 + b) * 16 + c) * 16 + d
    some (if isHigh n || isLow n then half n else char (Char.ofNat n))
  | _, _, _, _ => none

/-- The character that stands for itself, or for a control character, after a
backslash. -/
def escape? : Char → Option Char
  | '"' => some '"'
  | '\\' => some '\\'
  | '/' => some '/'
  | 'b' => some '\x08'
  | 'f' => some '\x0c'
  | 'n' => some '\n'
  | 'r' => some '\r'
  | 't' => some '\t'
  | _ => none

/-- Reads a string after its opening quotation mark; the second part is what
follows the closing one. A control character has to be escaped. -/
def read : List Char → Option (List StringUnit × List Char)
  | [] => none
  | '"' :: cs => some ([], cs)
  | '\\' :: 'u' :: a :: b :: c :: d :: cs =>
    match ofHex? a b c d, read cs with
    | some u, some (us, rest) => some (u :: us, rest)
    | _, _ => none
  | '\\' :: e :: cs =>
    match escape? e, read cs with
    | some c, some (us, rest) => some (char c :: us, rest)
    | _, _ => none
  | c :: cs =>
    if c < ' ' ∨ c = '\\' then none
    else match read cs with
      | some (us, rest) => some (char c :: us, rest)
      | none => none

end StringUnit

namespace Numeral

/-- Reads the digits before the point: a zero stands alone. -/
def readWhole (cs : List Char) : Option (List Digit × List Char) :=
  match Digit.span cs with
  | ([], _) => none
  | (d :: ds, rest) => if d = Digit.zero ∧ ds ≠ [] then none else some (d :: ds, rest)

/-- Reads a fraction, which may be absent. -/
def readFraction : List Char → Option (List Digit × List Char)
  | '.' :: cs =>
    match Digit.span cs with
    | ([], _) => none
    | found => some found
  | cs => some ([], cs)

/-- Reads an exponent, which may be absent. -/
def readExponent (cs : List Char) :
    Option (Option (Option Sign × List Digit) × List Char) :=
  match cs with
  | [] => some (none, cs)
  | e :: rest =>
    if e = 'e' ∨ e = 'E' then
      match Digit.span (Sign.split rest).2 with
      | ([], _) => none
      | (ds, rest') => some (some ((Sign.split rest).1, ds), rest')
    else some (none, cs)

/-- Reads a number without its sign. -/
def readUnsigned (negative : Bool) (cs : List Char) : Option (Numeral × List Char) := do
  let (whole, cs) ← readWhole cs
  let (fraction, cs) ← readFraction cs
  let (exponent, cs) ← readExponent cs
  some (⟨negative, whole, fraction, exponent⟩, cs)

/-- Reads a number. -/
def read : List Char → Option (Numeral × List Char)
  | '-' :: cs => readUnsigned true cs
  | cs => readUnsigned false cs

end Numeral

namespace Written

mutual

/-- Reads a value that starts at the head of a text. -/
def readValue : Nat → List Char → Option (Written × List Char)
  | 0, _ => none
  | _ + 1, [] => none
  | bound + 1, c :: cs =>
    if c = '"' then
      (StringUnit.read cs).map fun (units, rest) => (.string units, rest)
    else if c = '[' then
      match skipBlanks cs with
      | ']' :: rest => some (.array [], rest)
      | cs => (readItems bound cs).map fun (items, rest) => (.array items, rest)
    else if c = '\x7b' then
      match skipBlanks cs with
      | '\x7d' :: rest => some (.object [], rest)
      | cs => (readMembers bound cs).map fun (members, rest) => (.object members, rest)
    else
      match c :: cs with
      | 'n' :: 'u' :: 'l' :: 'l' :: rest => some (.null, rest)
      | 't' :: 'r' :: 'u' :: 'e' :: rest => some (.bool true, rest)
      | 'f' :: 'a' :: 'l' :: 's' :: 'e' :: rest => some (.bool false, rest)
      | cs => (Numeral.read cs).map fun (n, rest) => (.number n, rest)

/-- Reads the items of an array up to its closing bracket. -/
def readItems : Nat → List Char → Option (List Written × List Char)
  | 0, _ => none
  | bound + 1, cs =>
    match readValue bound cs with
    | none => none
    | some (item, rest) =>
      match skipBlanks rest with
      | ']' :: rest => some ([item], rest)
      | ',' :: rest =>
        match readItems bound (skipBlanks rest) with
        | some (items, rest) => some (item :: items, rest)
        | none => none
      | _ => none

/-- Reads the members of an object up to its closing brace. -/
def readMembers : Nat → List Char → Option (List (List StringUnit × Written) × List Char)
  | bound + 1, '"' :: cs =>
    match StringUnit.read cs with
    | none => none
    | some (name, rest) =>
      match skipBlanks rest with
      | ':' :: rest =>
        match readValue bound (skipBlanks rest) with
        | none => none
        | some (value, rest) =>
          match skipBlanks rest with
          | '\x7d' :: rest => some ([(name, value)], rest)
          | ',' :: rest =>
            match readMembers bound (skipBlanks rest) with
            | some (members, rest) => some ((name, value) :: members, rest)
            | none => none
          | _ => none
      | _ => none
  | _, _ => none

end

/-- The tree of a whole JSON text. -/
def read? (text : String) : Option Written :=
  let cs := text.toList
  match readValue (2 * cs.length + 1) (skipBlanks cs) with
  | some (tree, rest) => if skipBlanks rest = [] then some tree else none
  | none => none

end Written

end Criteria

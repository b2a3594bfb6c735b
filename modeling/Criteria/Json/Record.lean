/-
Records as JSON trees. A record is read from an object, in which other names
are passed over and each of its own names occurs at most once, or from an
array of its fields in their order; it is written as an object.

* `Record`: the fields that are given, with `Record.ofWritten?`;
* `Record.required`, `Record.optional`, `Record.defaulted`, `Record.skippable`:
  the four ways in which a field may be left out;
* `Written.int?`, `Written.list?`, `Written.variant?`: the forms of single
  fields;
* `Written.record`: the tree that a record is written as.
-/
import Criteria.Json.Written

namespace Criteria

/-- The fields given in a record, each with its name. -/
structure Record where
  /-- Whether the record is written as an array. -/
  positional : Bool
  fields : List (String × Written)

namespace Record

/-- The members of an object, their names decoded. -/
def decodeNames? :
    List (List StringUnit × Written) → Option (List (String × Written))
  | [] => some []
  | (name, value) :: members =>
    match StringUnit.decode? name, decodeNames? members with
    | some name, some members => some ((String.ofList name, value) :: members)
    | _, _ => none

/-- Whether none of the given names occurs twice. -/
def isUnambiguous (names : List String) (members : List (String × Written)) : Bool :=
  names.all fun name => decide ((members.filter fun m => m.1 = name).length ≤ 1)

/-- The record with the given field names that a tree writes. -/
def ofWritten? (names : List String) : Written → Option Record
  | .object members =>
    match decodeNames? members with
    | some members => if isUnambiguous names members then some ⟨false, members⟩ else none
    | none => none
  | .array items =>
    if items.length ≤ names.length then some ⟨true, names.zip items⟩ else none
  | _ => none

/-- The field with a name, if it is given. -/
def find? (r : Record) (name : String) : Option Written := r.fields.lookup name

/-- A field that has to be given. -/
def required {α : Type} (r : Record) (name : String) (read : Written → Option α) : Option α :=
  (r.find? name).bind read

/-- Reads a value that may be null. -/
def nullable {α : Type} (read : Written → Option α) : Written → Option (Option α)
  | .null => some none
  | value => (read value).map some

/-- A field that may be null and, in an object, left out. -/
def optional {α : Type} (r : Record) (name : String) (read : Written → Option α) :
    Option (Option α) :=
  match r.find? name with
  | none => if r.positional then none else some none
  | some value => nullable read value

/-- A field that may be null or left out. -/
def skippable {α : Type} (r : Record) (name : String) (read : Written → Option α) :
    Option (Option α) :=
  match r.find? name with
  | none => some none
  | some value => nullable read value

/-- A field with a value to take when it is left out. -/
def defaulted {α : Type} (r : Record) (name : String) (default : α)
    (read : Written → Option α) : Option α :=
  match r.find? name with
  | none => some default
  | some value => read value

end Record

namespace Written

/-- An integer between two bounds, both included. -/
def int? (low high : Int) : Written → Option Int
  | .number n =>
    match n.toInt? with
    | some i => if low ≤ i ∧ i ≤ high then some i else none
    | none => none
  | _ => none

/-- A signed 64-bit integer. -/
def int64? (w : Written) : Option Int64 :=
  (w.int? (-9223372036854775808) 9223372036854775807).map Int64.ofInt

/-- A signed 32-bit integer. -/
def int32? (w : Written) : Option Int := w.int? (-2147483648) 2147483647

/-- An unsigned 32-bit integer. -/
def nat32? (w : Written) : Option Nat := (w.int? 0 4294967295).map Int.toNat

/-- A truth value. -/
def bool? : Written → Option Bool
  | .bool b => some b
  | _ => none

/-- An array with every item read the same way. -/
def list? {α : Type} (read : Written → Option α) : Written → Option (List α)
  | .array items => items.mapM read
  | _ => none

/-- The name of a case: a string, or an object with this one name and null. -/
def variant? : Written → Option String
  | .string units => (StringUnit.decode? units).map String.ofList
  | .object [(name, .null)] => (StringUnit.decode? name).map String.ofList
  | _ => none

/-- One of several cases by its name. -/
def oneOf? {α : Type} (cases : List α) (name : α → String) (w : Written) : Option α :=
  w.variant?.bind fun found => cases.find? fun c => name c = found

/-- A record with the given fields, in order. -/
def record (fields : List (String × Written)) : Written :=
  .object (fields.map fun (name, value) => (StringUnit.encode name, value))

/-- A value that may be absent: null stands for none. -/
def ofOption {α : Type} (write : α → Written) : Option α → Written
  | none => .null
  | some a => write a

end Written

end Criteria

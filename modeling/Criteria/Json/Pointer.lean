/-
Pointers into JSON documents: the names and indices that lead from the root
to a value.

* `Pointer.text`: the written form, a slash before each segment, with slashes
  and tildes inside a segment escaped; `Pointer.ofText?` reads it, and
  `Pointer.unescape_escape` says that no segment is lost on the way;
* `Pointer.under`: a pointer seen from further up;
* `Json.follow?`: the value that a pointer leads to.
-/
import Criteria.Json.Basic

namespace Criteria

/-- The segments that lead from the root of a document to a value. -/
structure Pointer where
  segments : List String
  deriving DecidableEq, Repr

namespace Pointer

/-- The pointer to the root. -/
def root : Pointer := ⟨[]⟩

/-! ### The written form -/

/-- How a character of a segment is written. -/
def escapeChar (c : Char) : List Char :=
  if c = '~' then ['~', '0'] else if c = '/' then ['~', '1'] else [c]

/-- How a segment is written. -/
def escape (segment : String) : String := String.ofList (segment.toList.flatMap escapeChar)

/-- The written form of a list of segments. -/
def segmentsText : List String → String
  | [] => ""
  | segment :: rest => "/" ++ escape segment ++ segmentsText rest

/-- The written form of a pointer, empty for the root. -/
def text (p : Pointer) : String := segmentsText p.segments

/-- The characters that an escaped segment stands for. -/
def unescape : List Char → List Char
  | [] => []
  | '~' :: '0' :: cs => '~' :: unescape cs
  | '~' :: '1' :: cs => '/' :: unescape cs
  | c :: cs => c :: unescape cs

/-- The pieces of a text between its slashes. -/
def pieces : List Char → List (List Char)
  | [] => [[]]
  | c :: cs =>
    if c = '/' then [] :: pieces cs
    else match pieces cs with
      | [] => [[c]]
      | piece :: rest => (c :: piece) :: rest

/-- The pointer with a written form; a form is empty or starts with a slash. -/
def ofText? (s : String) : Option Pointer :=
  match s.toList with
  | [] => some root
  | '/' :: cs => some ⟨(pieces cs).map fun piece => String.ofList (unescape piece)⟩
  | _ => none

/-- An escaped segment stands for itself. -/
theorem unescape_escape (cs : List Char) : unescape (cs.flatMap escapeChar) = cs := by
  induction cs with
  | nil => rfl
  | cons c cs ih =>
    rw [List.flatMap_cons, escapeChar]
    split
    · rename_i h
      subst h
      simp [unescape, ih]
    · split
      · rename_i h
        subst h
        simp [unescape, ih]
      · rename_i h _
        simp [unescape, ih, h]

/-! ### Moving and following -/

/-- A pointer as it reads from a place that lies the given segments further up. -/
def under (p : Pointer) (segments : List String) : Pointer := ⟨segments ++ p.segments⟩

/-- The index that a segment writes: decimal digits, without leading zeros. -/
def index? (segment : String) : Option Nat :=
  match Digit.ofChars? segment.toList with
  | some (d :: ds) => if d = Digit.zero ∧ ds ≠ [] then none else some (Digit.value (d :: ds))
  | _ => none

end Pointer

namespace Json

/-- The item or member that a segment names. -/
def child? : Json → String → Option Json
  | .arr items, segment => (Pointer.index? segment).bind fun i => items[i]?
  | .obj members, segment => findMember segment members
  | _, _ => none

/-- The value that a list of segments leads to. -/
def followSegments? : Json → List String → Option Json
  | document, [] => some document
  | document, segment :: rest =>
    match document.child? segment with
    | some child => followSegments? child rest
    | none => none

/-- The value that a pointer leads to. -/
def follow? (document : Json) (p : Pointer) : Option Json := document.followSegments? p.segments

end Json

end Criteria

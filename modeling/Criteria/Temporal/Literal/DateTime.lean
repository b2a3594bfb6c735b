/-
Datetime literals: a date literal that names a single day, the letter `T`, a
time literal and perhaps an offset literal. A date literal alone means its
midnight, with the offset left open.

No date literal holds a `T` and no time literal holds a character that starts
an offset, so a text is cut at the first of each.
-/
import Criteria.Temporal.Literal.Date
import Criteria.Temporal.Literal.Time
import Criteria.Temporal.Literal.Offset

namespace Criteria

/-- A datetime as it is written. -/
structure DateTimeLiteral where
  date : DateLiteral
  lowercase : Bool
  time : TimeLiteral
  offset : Option OffsetLiteral
  complete : date.tail.isComplete = true
  deriving DecidableEq, Repr

namespace DateTimeLiteral

/-- Whether a character separates a date from a time. -/
def isMark (c : Char) : Bool := c = 'T' || c = 't'

/-- The spelling of a datetime literal. -/
def text (l : DateTimeLiteral) : List Char :=
  l.date.text ++ (if l.lowercase then 't' else 'T') :: l.time.text
    ++ (match l.offset with
      | none => []
      | some o => o.text)

/-- Reads an offset that may be left out. -/
def readOffset? (cs : List Char) : Option (Option OffsetLiteral) :=
  if cs = [] then some none else (OffsetLiteral.read? cs).map some

/-- Reads a whole text as a datetime literal. -/
def read? (cs : List Char) : Option DateTimeLiteral :=
  match cs.dropWhile (fun c => !isMark c) with
  | [] => none
  | mark :: rest =>
    match DateLiteral.read? (cs.takeWhile fun c => !isMark c),
      TimeLiteral.read? (rest.takeWhile fun c => !OffsetLiteral.isStart c),
      readOffset? (rest.dropWhile fun c => !OffsetLiteral.isStart c) with
    | some date, some time, some offset =>
      if complete : date.tail.isComplete = true then
        some ⟨date, mark = 't', time, offset, complete⟩
      else none
    | _, _, _ => none

/-- The datetime that a literal means: the date is checked before the time and
the time before the offset. -/
def value (l : DateTimeLiteral) : Except TemporalError DateTime := do
  let date ← l.date.value
  let time ← l.time.value
  let offset ← match l.offset with
    | none => .ok none
    | some o => o.value.map some
  .ok ⟨date.date, time, offset⟩

end DateTimeLiteral

/-- The datetime that a text means as a datetime literal. -/
def DateTime.parse (input : String) : Except TemporalError DateTime :=
  if input.toList.any DateTimeLiteral.isMark then
    match DateTimeLiteral.read? input.toList with
    | none => .error (.malformed .datetime input)
    | some l => l.value
  else
    (WrittenDate.parse input).map fun d => ⟨d.date, .midnight, none⟩

end Criteria

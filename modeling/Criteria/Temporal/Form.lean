/-
The JSON forms of temporal values: each is a record of its parts, written in
their order, and a choice among names is written as the name.

For a type `T`, `T.toWritten` is the form of a value and `T.ofWritten?` the
value of a form; the parts are read within their words, not checked against
the calendar.
-/
import Criteria.Json.Record
import Criteria.Temporal.DateTime
import Criteria.Temporal.Duration

namespace Criteria

namespace Date

/-- The form of a day. -/
def toWritten (d : Date) : Written :=
  .record [("year", .ofInt d.year), ("month", .ofInt d.month), ("day", .ofInt d.day)]

/-- The day of a form. -/
def ofWritten? (w : Written) : Option Date := do
  let r ← Record.ofWritten? ["year", "month", "day"] w
  some ⟨← r.required "year" Written.int32?, ← r.required "month" Written.nat32?,
    ← r.required "day" Written.nat32?⟩

end Date

namespace TimeOfDay

/-- The form of a time of day. -/
def toWritten (t : TimeOfDay) : Written :=
  .record [("hour", .ofInt t.hour), ("minute", .ofInt t.minute), ("second", .ofInt t.second),
    ("micros", .ofInt t.micros)]

/-- The time of day of a form. -/
def ofWritten? (w : Written) : Option TimeOfDay := do
  let r ← Record.ofWritten? ["hour", "minute", "second", "micros"] w
  some ⟨← r.required "hour" Written.nat32?, ← r.required "minute" Written.nat32?,
    ← r.required "second" Written.nat32?, ← r.required "micros" Written.nat32?⟩

end TimeOfDay

namespace Offset

/-- The form of an offset. -/
def toWritten (o : Offset) : Written :=
  .record [("negative", .bool o.negative), ("hours", .ofInt o.hours),
    ("minutes", .ofInt o.minutes)]

/-- The offset of a form. -/
def ofWritten? (w : Written) : Option Offset := do
  let r ← Record.ofWritten? ["negative", "hours", "minutes"] w
  some ⟨← r.required "negative" Written.bool?, ← r.required "hours" Written.nat32?,
    ← r.required "minutes" Written.nat32?⟩

end Offset

namespace Precision

/-- The form of a precision. -/
def toWritten (p : Precision) : Written := .ofString p.name

/-- The precision of a form. -/
def ofWritten? : Written → Option Precision := Written.oneOf? all name

end Precision

namespace WrittenDate

/-- The form of a written date. -/
def toWritten (d : WrittenDate) : Written :=
  .record [("date", d.date.toWritten), ("precision", d.precision.toWritten)]

/-- The written date of a form. -/
def ofWritten? (w : Written) : Option WrittenDate := do
  let r ← Record.ofWritten? ["date", "precision"] w
  some ⟨← r.required "date" Date.ofWritten?, ← r.required "precision" Precision.ofWritten?⟩

end WrittenDate

namespace DateTime

/-- The form of a datetime. -/
def toWritten (t : DateTime) : Written :=
  .record [("date", t.date.toWritten), ("time", t.time.toWritten),
    ("offset", .ofOption Offset.toWritten t.offset)]

/-- The datetime of a form. -/
def ofWritten? (w : Written) : Option DateTime := do
  let r ← Record.ofWritten? ["date", "time", "offset"] w
  some ⟨← r.required "date" Date.ofWritten?, ← r.required "time" TimeOfDay.ofWritten?,
    ← r.optional "offset" Offset.ofWritten?⟩

end DateTime

namespace Duration

/-- The form of a count. -/
def countForm (c : Option Int64) : Written := .ofOption (fun n => .ofInt n.toInt) c

/-- The form of a duration. -/
def toWritten (d : Duration) : Written :=
  .record [("years", countForm d.years), ("months", countForm d.months),
    ("weeks", countForm d.weeks), ("days", countForm d.days), ("hours", countForm d.hours),
    ("minutes", countForm d.minutes), ("seconds", countForm d.seconds)]

/-- The duration of a form. -/
def ofWritten? (w : Written) : Option Duration := do
  let r ← Record.ofWritten?
    ["years", "months", "weeks", "days", "hours", "minutes", "seconds"] w
  some ⟨← r.optional "years" Written.int64?, ← r.optional "months" Written.int64?,
    ← r.optional "weeks" Written.int64?, ← r.optional "days" Written.int64?,
    ← r.optional "hours" Written.int64?, ← r.optional "minutes" Written.int64?,
    ← r.optional "seconds" Written.int64?⟩

end Duration

namespace Component

/-- The form of a component. -/
def toWritten (c : Component) : Written := .ofString c.key

/-- The component of a form. -/
def ofWritten? : Written → Option Component := Written.oneOf? all key

end Component

namespace Grammar

/-- The form of a grammar. -/
def toWritten (g : Grammar) : Written := .ofString g.name

/-- The grammar of a form. -/
def ofWritten? : Written → Option Grammar := Written.oneOf? all name

end Grammar

end Criteria

/-
What literals mean exists.

* `TimeOfDay.Exists`, `Offset.Exists`, `DateTime.Exists`: a time, an offset and
  a datetime whose own parts are accepted, as `Date.Exists` for a day;
* `WrittenDate.exists_of_parse`, `TimeOfDay.exists_of_parse`,
  `DateTime.exists_of_parse`: a text that is accepted as a literal means a value
  that exists.
-/
import Criteria.Temporal.Literal.DateTime
import Criteria.Proofs.Result
import Criteria.Proofs.Temporal.Calendar

namespace Criteria

/-! ### Values that exist -/

namespace TimeOfDay

/-- A time of day exists when its parts are accepted. -/
def Exists (t : TimeOfDay) : Prop := ofParts t.hour t.minute t.second t.micros = .ok t

lemma exists_iff {t : TimeOfDay} :
    t.Exists ↔ t.hour ≤ 23 ∧ t.minute ≤ 59 ∧ t.second ≤ 59 ∧ t.micros ≤ 999999 := by
  rw [Exists, ofParts]
  split_ifs <;> simp only [false_iff, true_iff] <;> omega

lemma exists_of_ofParts {hour minute second micros : Nat} {t : TimeOfDay}
    (h : ofParts hour minute second micros = .ok t) : t.Exists := by
  have hparts := h
  rw [ofParts] at h
  split_ifs at h
  obtain rfl := Except.ok.inj h
  exact hparts

lemma exists_midnight : midnight.Exists := rfl

end TimeOfDay

namespace Offset

/-- An offset exists when its parts are accepted. -/
def Exists (o : Offset) : Prop := ofParts o.negative o.hours o.minutes = .ok o

lemma exists_iff {o : Offset} : o.Exists ↔ o.hours ≤ 23 ∧ o.minutes ≤ 59 := by
  rw [Exists, ofParts]
  split_ifs <;> simp only [false_iff, true_iff] <;> omega

lemma exists_of_ofParts {negative : Bool} {hours minutes : Nat} {o : Offset}
    (h : ofParts negative hours minutes = .ok o) : o.Exists := by
  have hparts := h
  rw [ofParts] at h
  split_ifs at h
  obtain rfl := Except.ok.inj h
  exact hparts

end Offset

/-- A datetime exists when its day, its time and its offset do; an offset may
be left open. -/
structure DateTime.Exists (t : DateTime) : Prop where
  date : t.date.Exists
  time : t.time.Exists
  offset : ∀ o, t.offset = some o → o.Exists

/-! ### Values of literals -/

lemma DateLiteral.exists_of_value {l : DateLiteral} {d : WrittenDate} (h : l.value = .ok d) :
    d.date.Exists := by
  rw [value] at h
  cases htail : l.tail with
  | year | month | day =>
      rw [htail] at h
      obtain ⟨date, hdate, rfl⟩ := except_map_eq_ok_iff.mp h
      exact Date.exists_of_ofParts hdate
  | week | weekday =>
      rw [htail] at h
      obtain ⟨date, hdate, rfl⟩ := except_map_eq_ok_iff.mp h
      exact Date.exists_of_ofWeek hdate

/-- A date literal that is accepted means a day that exists. -/
theorem WrittenDate.exists_of_parse {s : String} {d : WrittenDate} (h : parse s = .ok d) :
    d.date.Exists := by
  rw [parse] at h
  split at h
  · exact absurd h (by simp)
  · exact DateLiteral.exists_of_value h

lemma TimeLiteral.exists_of_value {l : TimeLiteral} {t : TimeOfDay} (h : l.value = .ok t) :
    t.Exists := by
  cases l <;> exact TimeOfDay.exists_of_ofParts h

/-- A time literal that is accepted means a time that exists. -/
theorem TimeOfDay.exists_of_parse {s : String} {t : TimeOfDay} (h : parse s = .ok t) :
    t.Exists := by
  rw [parse] at h
  split at h
  · exact absurd h (by simp)
  · exact TimeLiteral.exists_of_value h

lemma OffsetLiteral.exists_of_value {l : OffsetLiteral} {o : Offset} (h : l.value = .ok o) :
    o.Exists := by
  cases l with
  | utc lowercase => exact Except.ok.inj h ▸ rfl
  | hours | minutes => exact Offset.exists_of_ofParts h

/-- A datetime literal means a datetime when its parts mean those of the
datetime, as far as there are any. -/
lemma DateTimeLiteral.value_eq_ok_iff {l : DateTimeLiteral} {t : DateTime} :
    l.value = .ok t
      ↔ (∃ d, l.date.value = .ok d ∧ d.date = t.date) ∧ l.time.value = .ok t.time ∧
        l.offset.map OffsetLiteral.value = t.offset.map .ok := by
  rw [value]
  cases l.date.value with
  | error e => simp [bind, Except.bind]
  | ok date =>
      cases l.time.value with
      | error e => simp [bind, Except.bind]
      | ok time =>
          cases l.offset with
          | none => cases t; simp [bind, Except.bind, eq_comm]
          | some o =>
              cases ho : o.value <;> cases t <;>
                simp [bind, Except.bind, Except.map, ho, eq_comm]

lemma DateTimeLiteral.exists_of_value {l : DateTimeLiteral} {t : DateTime}
    (h : l.value = .ok t) : t.Exists := by
  obtain ⟨⟨d, hdate, hd⟩, htime, hoffset⟩ := value_eq_ok_iff.mp h
  refine ⟨hd ▸ DateLiteral.exists_of_value hdate, TimeLiteral.exists_of_value htime, ?_⟩
  intro o ho
  rw [ho, Option.map_some, Option.map_eq_some_iff] at hoffset
  obtain ⟨written, -, hvalue⟩ := hoffset
  exact OffsetLiteral.exists_of_value hvalue

/-- A datetime literal that is accepted means a datetime that exists. -/
theorem DateTime.exists_of_parse {s : String} {t : DateTime} (h : parse s = .ok t) :
    t.Exists := by
  rw [parse] at h
  split_ifs at h
  · split at h
    · exact absurd h (by simp)
    · exact DateTimeLiteral.exists_of_value h
  · obtain ⟨d, hd, rfl⟩ := except_map_eq_ok_iff.mp h
    exact ⟨WrittenDate.exists_of_parse hd, TimeOfDay.exists_midnight, fun o ho => by simp at ho⟩

end Criteria

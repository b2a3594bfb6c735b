/-
What datetime literals mean.

* `DateTimeCut`: a text cut into a date, the letter `T`, a time and an offset;
  `DateTimeCut.WellFormed` when each piece has its form, `DateTimeCut.Means` when
  each piece means its part of a datetime, and `DateTimeCut.Fault` for the first
  error of the pieces;
* `DateTimeCut.exists_eq_cut`: the well-formed cuts are those that datetime
  literals spell, so a text has at most one (`DateTimeCut.eq_of_wellFormed`);
* `DateTimeLiteral.value_eq_ok_iff_means`, `DateTimeLiteral.value_eq_error_iff`:
  a datetime literal means what its pieces mean, read by the parsers of dates and
  times;
* `DateTime.parse_iff_cut`: so a text with a `T` is parsed by its one
  well-formed cut, and malformed without one.
-/
import Criteria.Proofs.Temporal.Literal
import Criteria.Proofs.Temporal.Literal.Date
import Criteria.Proofs.Temporal.Literal.Time
import Mathlib.Logic.ExistsUnique

namespace Criteria

/-! ### Texts cut into pieces -/

/-- The pieces of a text that is cut into a date, the letter behind the date, a
time and an offset. -/
structure DateTimeCut where
  date : String
  mark : Char
  time : String
  offset : String

namespace DateTimeCut

/-- The pieces make up a text, and the letter behind the date is a `T`, large or
small. -/
structure Of (c : DateTimeCut) (s : String) : Prop where
  toList_eq : s.toList = c.date.toList ++ c.mark :: (c.time.toList ++ c.offset.toList)
  mark_eq : c.mark = 'T' ∨ c.mark = 't'

/-- Each piece has its form: a date with a day or a weekday, a time, and an
offset or nothing. -/
structure WellFormed (c : DateTimeCut) : Prop where
  date : ∃ l : DateLiteral, c.date.toList = l.text ∧ (l.tail.precision = .day ∨
    l.tail.precision = .weekday)
  time : ∃ l : TimeLiteral, c.time.toList = l.text
  offset : ∃ o : Option OffsetLiteral, c.offset.toList = OffsetLiteral.optionText o

/-- Each piece means its part of a datetime: the date is parsed in the precision
of a day, the time is parsed, and the offset is spelled out, with at most 23
hours and 59 minutes. -/
structure Means (c : DateTimeCut) (t : DateTime) : Prop where
  date : ∃ d, WrittenDate.parse c.date = .ok d ∧
    (d.precision = .day ∨ d.precision = .weekday) ∧ t.date = d.date
  time : TimeOfDay.parse c.time = .ok t.time
  offset : ∃ o : Option OffsetLiteral, c.offset.toList = OffsetLiteral.optionText o ∧
    (∀ l, o = some l → l.spelled.hours ≤ 23 ∧ l.spelled.minutes ≤ 59) ∧
    t.offset = o.map OffsetLiteral.spelled

/-- The first error of the pieces: that of the date, or else of the time, or
else of the hours of the offset before its minutes. -/
inductive Fault (c : DateTimeCut) : TemporalError → Prop where
  | date {e : TemporalError} (h : WrittenDate.parse c.date = .error e) : Fault c e
  | time {d : WrittenDate} {e : TemporalError} (hdate : WrittenDate.parse c.date = .ok d)
    (h : TimeOfDay.parse c.time = .error e) : Fault c e
  | offsetHours {d : WrittenDate} {t : TimeOfDay} {l : OffsetLiteral}
    (hdate : WrittenDate.parse c.date = .ok d) (htime : TimeOfDay.parse c.time = .ok t)
    (htext : c.offset.toList = l.text) (h : 23 < l.spelled.hours) :
    Fault c (.invalid .offsetHours (toString l.spelled.hours) (.between 0 23))
  | offsetMinutes {d : WrittenDate} {t : TimeOfDay} {l : OffsetLiteral}
    (hdate : WrittenDate.parse c.date = .ok d) (htime : TimeOfDay.parse c.time = .ok t)
    (htext : c.offset.toList = l.text) (hhours : l.spelled.hours ≤ 23)
    (h : 59 < l.spelled.minutes) :
    Fault c (.invalid .offsetMinutes (toString l.spelled.minutes) (.between 0 59))

end DateTimeCut

/-! ### The cut of a literal -/

lemma DateTail.isComplete_iff {t : DateTail} :
    t.isComplete = true ↔ t.precision = .day ∨ t.precision = .weekday := by
  cases t <;> simp [isComplete, precision]

namespace DateTimeLiteral

/-- The pieces of the spelling of a datetime literal. -/
def cut (l : DateTimeLiteral) : DateTimeCut :=
  ⟨String.ofList l.date.text, l.mark, String.ofList l.time.text,
    String.ofList (OffsetLiteral.optionText l.offset)⟩

lemma of_cut {l : DateTimeLiteral} {s : String} (h : s.toList = l.text) : l.cut.Of s where
  toList_eq := by simp [cut, h, text_eq]
  mark_eq := isMark_iff.mp l.isMark_mark

lemma wellFormed_cut (l : DateTimeLiteral) : l.cut.WellFormed where
  date := ⟨l.date, String.toList_ofList, DateTail.isComplete_iff.mp l.complete⟩
  time := ⟨l.time, String.toList_ofList⟩
  offset := ⟨l.offset, String.toList_ofList⟩

end DateTimeLiteral

namespace DateTimeCut

variable {c : DateTimeCut} {s : String}

/-- A well-formed cut is that of a datetime literal. -/
theorem exists_eq_cut (h : c.Of s) (hc : c.WellFormed) :
    ∃ l : DateTimeLiteral, s.toList = l.text ∧ c = l.cut := by
  obtain ⟨dateText, mark, timeText, offsetText⟩ := c
  obtain ⟨⟨date, hdate, hcomplete⟩, ⟨time, htime⟩, ⟨offset, hoffset⟩⟩ := hc
  obtain ⟨hs, hmark⟩ := h
  simp only at hs hmark hdate htime hoffset
  have hread := DateTimeLiteral.read?_pieces date (DateTimeLiteral.isMark_iff.mpr hmark) time
    offset
  rw [dif_pos (DateTail.isComplete_iff.mpr hcomplete), ← hdate, ← htime, ← hoffset, ← hs] at hread
  refine ⟨_, DateTimeLiteral.read?_eq_some_iff.mp hread, ?_⟩
  rw [DateTimeLiteral.cut, ← hdate, ← htime, ← hoffset, DateTimeLiteral.mark]
  obtain rfl | rfl := hmark <;> simp

/-- The texts with a well-formed cut are the spellings of datetime literals. -/
lemma exists_wellFormed_iff :
    (∃ c : DateTimeCut, c.Of s ∧ c.WellFormed) ↔ ∃ l : DateTimeLiteral, s.toList = l.text := by
  constructor
  · rintro ⟨c, hc, hform⟩
    obtain ⟨l, hl, -⟩ := exists_eq_cut hc hform
    exact ⟨l, hl⟩
  · rintro ⟨l, hl⟩
    exact ⟨l.cut, DateTimeLiteral.of_cut hl, l.wellFormed_cut⟩

/-- A text has one well-formed cut at most. -/
theorem eq_of_wellFormed {c' : DateTimeCut} (h : c.Of s) (h' : c'.Of s) (hc : c.WellFormed)
    (hc' : c'.WellFormed) : c = c' := by
  obtain ⟨l, hl, rfl⟩ := exists_eq_cut h hc
  obtain ⟨l', hl', rfl⟩ := exists_eq_cut h' hc'
  have hread := DateTimeLiteral.read?_eq_some_iff.mpr hl
  rw [DateTimeLiteral.read?_eq_some_iff.mpr hl'] at hread
  rw [Option.some.inj hread]

end DateTimeCut

/-! ### What the pieces mean -/

namespace OffsetLiteral

lemma optionText_inj {o o' : Option OffsetLiteral} (h : optionText o = optionText o') :
    o = o' := by
  have hread := DateTimeLiteral.readOffset?_eq_some_iff.mpr h
  rw [DateTimeLiteral.readOffset?_eq_some_iff.mpr rfl] at hread
  exact Option.some.inj hread

lemma map_value_eq_iff {o : Option OffsetLiteral} {offset : Option Offset} :
    o.map value = offset.map .ok
      ↔ (∀ l, o = some l → l.spelled.hours ≤ 23 ∧ l.spelled.minutes ≤ 59) ∧
        offset = o.map spelled := by
  cases o with
  | none => cases offset <;> simp
  | some l => cases offset <;> simp [value_eq_ok_iff]

end OffsetLiteral

namespace DateTimeLiteral

variable {l : DateTimeLiteral}

lemma parse_date_cut (l : DateTimeLiteral) : WrittenDate.parse l.cut.date = l.date.value :=
  WrittenDate.parses.of_text String.toList_ofList

lemma parse_time_cut (l : DateTimeLiteral) : TimeOfDay.parse l.cut.time = l.time.value :=
  TimeOfDay.parses.of_text String.toList_ofList

/-- A datetime literal means what its pieces mean. -/
theorem value_eq_ok_iff_means {t : DateTime} : l.value = .ok t ↔ l.cut.Means t := by
  rw [value_eq_ok_iff, OffsetLiteral.map_value_eq_iff, ← parse_date_cut, ← parse_time_cut]
  constructor
  · rintro ⟨⟨d, hd, hdate⟩, htime, hrange, hoffset⟩
    refine ⟨⟨d, hd, ?_, hdate.symm⟩, htime, ⟨l.offset, String.toList_ofList, hrange, hoffset⟩⟩
    rw [((WrittenDate.parse_eq_ok_iff_of_text String.toList_ofList).mp hd).2.2]
    exact DateTail.isComplete_iff.mp l.complete
  · rintro ⟨⟨d, hd, -, hdate⟩, htime, o, ho, hrange, hoffset⟩
    obtain rfl := OffsetLiteral.optionText_inj (String.toList_ofList.symm.trans ho)
    exact ⟨⟨d, hd, hdate.symm⟩, htime, hrange, hoffset⟩

/-- Of the parts of a datetime literal the date is looked at first, then the
time, and then the offset. -/
lemma value_eq_error_iff {e : TemporalError} :
    l.value = .error e
      ↔ l.date.value = .error e ∨
        (∃ d, l.date.value = .ok d) ∧ (l.time.value = .error e ∨
          (∃ t, l.time.value = .ok t) ∧ ∃ o, l.offset = some o ∧ o.value = .error e) := by
  rw [value]
  cases l.date.value with
  | error e' => simp [bind, Except.bind]
  | ok d =>
      cases l.time.value with
      | error e' => simp [bind, Except.bind]
      | ok t =>
          cases l.offset with
          | none => simp [bind, Except.bind]
          | some o => cases ho : o.value <;> simp [bind, Except.bind, Except.map, ho]

/-- A datetime literal fails with the first error of its pieces. -/
theorem value_eq_error_iff_fault {e : TemporalError} : l.value = .error e ↔ l.cut.Fault e := by
  rw [value_eq_error_iff, ← parse_date_cut, ← parse_time_cut]
  constructor
  · rintro (hdate | ⟨⟨d, hdate⟩, htime | ⟨⟨t, htime⟩, o, ho, hvalue⟩⟩)
    · exact .date hdate
    · exact .time hdate htime
    · have htext : l.cut.offset.toList = o.text := by
        rw [cut, String.toList_ofList, ho, OffsetLiteral.optionText, Option.elim_some]
      obtain ⟨hhours, rfl⟩ | ⟨hhours, hminutes, rfl⟩ := OffsetLiteral.value_eq_error_iff.mp hvalue
      · exact .offsetHours hdate htime htext hhours
      · exact .offsetMinutes hdate htime htext hhours hminutes
  · have hoffset : ∀ {o : OffsetLiteral}, l.cut.offset.toList = o.text → l.offset = some o :=
      fun htext => OffsetLiteral.optionText_inj (String.toList_ofList.symm.trans htext)
    rintro (hdate | ⟨hdate, htime⟩ | ⟨hdate, htime, htext, hhours⟩ |
      ⟨hdate, htime, htext, hhours, hminutes⟩)
    · exact .inl hdate
    · exact .inr ⟨⟨_, hdate⟩, .inl htime⟩
    · exact .inr ⟨⟨_, hdate⟩, .inr ⟨⟨_, htime⟩, _, hoffset htext,
        OffsetLiteral.value_eq_error_iff.mpr (.inl ⟨hhours, rfl⟩)⟩⟩
    · exact .inr ⟨⟨_, hdate⟩, .inr ⟨⟨_, htime⟩, _, hoffset htext,
        OffsetLiteral.value_eq_error_iff.mpr (.inr ⟨hhours, hminutes, rfl⟩)⟩⟩

end DateTimeLiteral

namespace DateTimeCut

variable {c : DateTimeCut}

/-- Pieces that mean a datetime have their forms. -/
lemma Means.wellFormed {t : DateTime} (h : c.Means t) : c.WellFormed := by
  obtain ⟨⟨d, hdate, hprecision, -⟩, htime, o, ho, -⟩ := h
  obtain ⟨date, hdateText, -⟩ := WrittenDate.parses.exists_text_of_ok hdate
  obtain ⟨time, htimeText, -⟩ := TimeOfDay.parses.exists_text_of_ok htime
  obtain ⟨-, -, hd⟩ := (WrittenDate.parse_eq_ok_iff_of_text hdateText).mp hdate
  exact ⟨⟨date, hdateText, hd ▸ hprecision⟩, ⟨time, htimeText⟩, o, ho⟩

/-- The error of well-formed pieces names a part of them. -/
lemma WellFormed.component (h : c.WellFormed) {e : TemporalError} (he : c.Fault e) :
    e.component? ≠ none := by
  obtain ⟨⟨date, hdateText, -⟩, ⟨time, htimeText⟩, -⟩ := h
  cases he with
  | date hdate => exact WrittenDate.parses.component (WrittenDate.parses.of_text hdateText ▸ hdate)
  | time _ htime => exact TimeOfDay.parses.component (TimeOfDay.parses.of_text htimeText ▸ htime)
  | offsetHours | offsetMinutes => simp [TemporalError.component?]

end DateTimeCut

/-! ### Parsing -/

namespace DateTime

variable {s : String}

/-- A text with a `T` that spells a datetime literal is parsed to what the
literal means. -/
lemma parse_of_text {l : DateTimeLiteral} (h : s.toList = l.text) : parse s = l.value := by
  have hmark : s.toList.any DateTimeLiteral.isMark = true := by
    rw [h, l.text_eq, List.any_append, List.any_cons, l.isMark_mark]
    simp
  rw [parse, if_pos hmark, h, DateTimeLiteral.read?_text]

/-- A text with a `T` that spells no datetime literal is malformed. -/
lemma parse_of_not_text (hmark : 'T' ∈ s.toList ∨ 't' ∈ s.toList)
    (h : ¬ ∃ l : DateTimeLiteral, s.toList = l.text) :
    parse s = .error (.malformed .datetime s) := by
  rw [parse, if_pos (DateTimeLiteral.any_isMark_iff.mpr hmark)]
  cases hread : DateTimeLiteral.read? s.toList with
  | none => rfl
  | some l => exact absurd ⟨l, DateTimeLiteral.read?_eq_some_iff.mp hread⟩ h

/-- Well-formed pieces are parsed to what they mean. -/
lemma parse_eq_ok_iff_of_cut {c : DateTimeCut} (hc : c.Of s) (hform : c.WellFormed)
    {t : DateTime} : parse s = .ok t ↔ c.Means t := by
  obtain ⟨l, hl, rfl⟩ := DateTimeCut.exists_eq_cut hc hform
  rw [parse_of_text hl, DateTimeLiteral.value_eq_ok_iff_means]

/-- Otherwise the first error of the pieces is reported. -/
lemma parse_eq_error_iff_of_cut {c : DateTimeCut} (hc : c.Of s) (hform : c.WellFormed)
    {e : TemporalError} : parse s = .error e ↔ c.Fault e := by
  obtain ⟨l, hl, rfl⟩ := DateTimeCut.exists_eq_cut hc hform
  rw [parse_of_text hl, DateTimeLiteral.value_eq_error_iff_fault]

lemma parse_of_not_cut (hmark : 'T' ∈ s.toList ∨ 't' ∈ s.toList)
    (h : ¬ ∃ c : DateTimeCut, c.Of s ∧ c.WellFormed) :
    parse s = .error (.malformed .datetime s) :=
  parse_of_not_text hmark fun htext => h (DateTimeCut.exists_wellFormed_iff.mpr htext)

/-- **Parsing datetimes.** A text with a `T` is parsed exactly when it is cut, in
one way only, into pieces that mean a datetime, and to this datetime. No text
has two well-formed cuts. With a well-formed cut the error is the first one of
the pieces, and without one the whole text is malformed. -/
theorem parse_iff_cut (hmark : 'T' ∈ s.toList ∨ 't' ∈ s.toList) :
    (∀ t, parse s = .ok t ↔ ∃! c : DateTimeCut, c.Of s ∧ c.Means t) ∧
    (∀ c c' : DateTimeCut, c.Of s → c'.Of s → c.WellFormed → c'.WellFormed → c = c') ∧
    (∀ c : DateTimeCut, c.Of s → c.WellFormed → ∀ e, parse s = .error e ↔ c.Fault e) ∧
    ∀ grammar input, parse s = .error (.malformed grammar input)
      ↔ grammar = .datetime ∧ input = s ∧ ¬ ∃ c : DateTimeCut, c.Of s ∧ c.WellFormed := by
  refine ⟨fun t => ⟨fun ht => ?_, ?_⟩, fun _ _ => DateTimeCut.eq_of_wellFormed,
    fun c hc hform e => parse_eq_error_iff_of_cut hc hform, fun grammar input => ?_⟩
  · by_cases hcut : ∃ c : DateTimeCut, c.Of s ∧ c.WellFormed
    · obtain ⟨c, hc, hform⟩ := hcut
      refine ⟨c, ⟨hc, (parse_eq_ok_iff_of_cut hc hform).mp ht⟩, ?_⟩
      rintro c' ⟨hc', hmeans⟩
      exact DateTimeCut.eq_of_wellFormed hc' hc hmeans.wellFormed hform
    · rw [parse_of_not_cut hmark hcut] at ht
      exact absurd ht (by simp)
  · rintro ⟨c, ⟨hc, hmeans⟩, -⟩
    exact (parse_eq_ok_iff_of_cut hc hmeans.wellFormed).mpr hmeans
  · by_cases hcut : ∃ c : DateTimeCut, c.Of s ∧ c.WellFormed
    · obtain ⟨c, hc, hform⟩ := hcut
      rw [parse_eq_error_iff_of_cut hc hform]
      exact ⟨fun h => absurd rfl (hform.component h), fun h => absurd ⟨c, hc, hform⟩ h.2.2⟩
    · rw [parse_of_not_cut hmark hcut, Except.error.injEq, TemporalError.malformed.injEq]
      constructor
      · rintro ⟨rfl, rfl⟩
        exact ⟨rfl, rfl, hcut⟩
      · rintro ⟨rfl, rfl, -⟩
        exact ⟨rfl, rfl⟩

/-- A week date with a small letter behind it, an hour that is reported before
the offset, and a date without its day. -/
theorem parse_iff_cut_lastWeek :
    (∃! c : DateTimeCut, c.Of "2020W537t08:30\u22120545" ∧
      c.Means ⟨⟨2021, 1, 3⟩, ⟨8, 30, 0, 0⟩, some ⟨true, 5, 45⟩⟩) ∧
    parse "2020-12-31T24:00+24:00" = .error (.invalid .hour "24" (.between 0 23)) ∧
    ¬ ∃ c : DateTimeCut, c.Of "2020-12T10:00" ∧ c.WellFormed := by
  obtain ⟨hok, -⟩ := parse_iff_cut (s := "2020W537t08:30\u22120545") (.inr (by decide))
  obtain ⟨-, -, hfault, -⟩ := parse_iff_cut (s := "2020-12-31T24:00+24:00") (.inl (by decide))
  obtain ⟨-, -, -, hmalformed⟩ := parse_iff_cut (s := "2020-12T10:00") (.inl (by decide))
  have hform : DateTimeCut.WellFormed ⟨"2020-12-31", 'T', "24:00", "+24:00"⟩ :=
    ⟨⟨⟨none, ⟨⟨2, 0⟩, ⟨2, 0⟩⟩, .day ⟨1, 2⟩ ⟨3, 1⟩⟩, rfl, .inl rfl⟩,
      ⟨.minute ⟨2, 4⟩ ⟨0, 0⟩, rfl⟩, ⟨some (.minutes .plus ⟨2, 4⟩ true ⟨0, 0⟩), rfl⟩⟩
  exact ⟨(hok _).mp rfl, (hfault _ ⟨rfl, .inl rfl⟩ hform _).mpr (.time rfl rfl),
    ((hmalformed _ _).mp rfl).2.2⟩

end DateTime

end Criteria

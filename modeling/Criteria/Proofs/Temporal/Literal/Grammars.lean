/-
The grammars of literals beside each other.

* `Grammar.Accepts`: a text is accepted by the parser of a grammar;
* `Grammar.eq_ofStart_of_accepts`: but for dates alone, the first three characters of a
  text leave one grammar that can accept it, so no text is accepted by two of them
  (`Grammar.accepts_unique`);
* `DateTime.parse_of_date`, `WrittenDate.exists_of_parse_datetime`: the texts of dates are
  the texts of datetimes without a `T`, and mean midnight there.
-/
import Criteria.Proofs.Temporal.Literal.Duration
import Criteria.Proofs.Temporal.Literal.RoundTrip

namespace Criteria

/-! ### The start of a literal -/

lemma Digit.char_ne_durationMark (d : Digit) : d.char ≠ 'P' := by
  revert d
  decide

namespace Grammar

/-- The grammar that the start of a text leaves: durations start with the letter `P`, and
the third character is a digit in a year, with or without a sign, but not in a time. -/
def ofStart (cs : List Char) : Grammar :=
  if cs.head? = some 'P' then .duration
  else if (cs[2]?.bind Digit.ofChar?).isSome then .datetime
  else .time

lemma ofStart_duration (l : DurationLiteral) : ofStart l.text = .duration := by
  rw [l.text_eq, ofStart, List.head?_cons, if_pos rfl]

lemma ofStart_time (l : TimeLiteral) : ofStart l.text = .time := by
  have hcolon : Digit.ofChar? ':' = none := by decide
  cases l <;>
    simp [ofStart, TimeLiteral.text, TwoDigits.text, Digit.char_ne_durationMark, hcolon]

/-- What follows a date makes no difference. -/
lemma ofStart_date_append (l : DateLiteral) (rest : List Char) :
    ofStart (l.text ++ rest) = .datetime := by
  obtain ⟨sign, year, tail⟩ := l
  cases sign with
  | none =>
      simp [ofStart, DateLiteral.text, Sign.text, FourDigits.text, TwoDigits.text,
        Digit.char_ne_durationMark]
  | some sign =>
      have hsign : sign.char ≠ 'P' := by cases sign <;> decide
      simp [ofStart, DateLiteral.text, Sign.text, FourDigits.text, TwoDigits.text, hsign]

/-- The parser of a grammar accepts a text. -/
def Accepts : Grammar → String → Prop
  | date, s => ∃ d, WrittenDate.parse s = .ok d
  | time, s => ∃ t, TimeOfDay.parse s = .ok t
  | datetime, s => ∃ t, DateTime.parse s = .ok t
  | duration, s => ∃ d, Duration.parse s = .ok d

variable {g g' : Grammar} {s : String}

/-- A text is accepted by the grammar that its start leaves, or as a date. -/
theorem eq_ofStart_of_accepts (h : g.Accepts s) (hg : g ≠ .date) : g = ofStart s.toList := by
  cases g with
  | date => exact absurd rfl hg
  | time =>
      obtain ⟨t, ht⟩ := h
      obtain ⟨l, hl, -⟩ := TimeOfDay.parses.exists_text_of_ok ht
      rw [hl, ofStart_time]
  | datetime =>
      obtain ⟨t, ht⟩ := h
      obtain ⟨l, hl, -⟩ := DateTime.exists_named_of_parse ht
      have hcut : datePart s ++ s.toList.dropWhile (fun c => !DateTimeLiteral.isMark c)
          = s.toList := List.takeWhile_append_dropWhile
      rw [← hcut, hl, ofStart_date_append]
  | duration =>
      obtain ⟨d, hd⟩ := h
      obtain ⟨l, hl, -⟩ := Duration.parses.exists_text_of_ok hd
      rw [hl, ofStart_duration]

/-- Of the grammars for durations, times and datetimes at most one accepts a text. -/
theorem accepts_unique (hg : g ≠ .date) (hg' : g' ≠ .date) (h : g.Accepts s)
    (h' : g'.Accepts s) : g = g' :=
  (eq_ofStart_of_accepts h hg).trans (eq_ofStart_of_accepts h' hg').symm

end Grammar

/-! ### Dates as datetimes -/

variable {s : String}

/-- A text without a `T` is a datetime when it is a date, and means its midnight. -/
lemma DateTime.parse_of_not_mark (h : ¬ ('T' ∈ s.toList ∨ 't' ∈ s.toList)) :
    parse s = (WrittenDate.parse s).map fun d => ⟨d.date, .midnight, none⟩ := by
  rw [parse, if_neg (mt DateTimeLiteral.any_isMark_iff.mp h)]

/-- What is accepted as a date is accepted as a datetime, and means its midnight. -/
theorem DateTime.parse_of_date {d : WrittenDate} (h : WrittenDate.parse s = .ok d) :
    parse s = .ok ⟨d.date, .midnight, none⟩ := by
  obtain ⟨l, hl, -⟩ := WrittenDate.parses.exists_text_of_ok h
  rw [parse_of_not_mark, h]
  · rfl
  · rw [← DateTimeLiteral.any_isMark_iff, hl, Bool.not_eq_true, List.any_eq_false]
    exact fun c hc => Bool.eq_false_iff.mp (l.isMark_eq_false_of_mem c hc)

/-- What is accepted as a datetime and has no `T` is accepted as a date. -/
theorem WrittenDate.exists_of_parse_datetime (h : ¬ ('T' ∈ s.toList ∨ 't' ∈ s.toList))
    {t : DateTime} (ht : DateTime.parse s = .ok t) : ∃ d, parse s = .ok d := by
  rw [DateTime.parse_of_not_mark h] at ht
  obtain ⟨d, hd, -⟩ := except_map_eq_ok_iff.mp ht
  exact ⟨d, hd⟩

/-! ### Durations apart -/

/-- A duration is no datetime. -/
lemma Duration.parse_datetime_ne_ok {d : Duration} {t : DateTime} (h : parse s = .ok d) :
    DateTime.parse s ≠ .ok t := by
  intro ht
  have hsame : Grammar.duration = .datetime :=
    Grammar.accepts_unique (by simp) (by simp) ⟨d, h⟩ ⟨t, ht⟩
  cases hsame

/-- A duration is no date. -/
lemma Duration.parse_date_ne_ok {d : Duration} {d' : WrittenDate} (h : parse s = .ok d) :
    WrittenDate.parse s ≠ .ok d' :=
  fun hd' => parse_datetime_ne_ok h (DateTime.parse_of_date hd')

end Criteria

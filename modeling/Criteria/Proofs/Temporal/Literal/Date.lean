/-
What date literals mean.

* `NamedDay`: the day that a date literal names, by its month or by its week,
  whether there is such a day (`NamedDay.Exists`), which day of the calendar it
  is (`NamedDay.Is`) and which part of it is the first one wrong
  (`NamedDay.Fault`);
* `NamedDay.date_eq_ok_iff`, `NamedDay.date_eq_error_iff`: the calendar finds
  the days that exist and reports the first wrong part of the others;
* `DateLiteral.value_eq`: a date literal means the day that it names, in the
  precision of what is written, and so does its plain spelling
  (`DateLiteral.value_plain`);
* `WrittenDate.parse_iff`: so exactly the spellings of date literals are parsed,
  to the days that they name.
-/
import Criteria.Proofs.Result
import Criteria.Proofs.Temporal.Literal.Parsing
import Criteria.Proofs.Temporal.Literal.Spelling
import Criteria.Proofs.Temporal.Week

namespace Criteria

/-! ### Named days -/

/-- A day as it is named: by year, month and day, or by ISO year, week and
weekday. Neither need exist. -/
inductive NamedDay where
  | calendar (date : Date)
  | week (date : WeekDate)
  deriving DecidableEq, Repr

namespace NamedDay

/-- The year of a named day. -/
def year : NamedDay → Int
  | calendar d => d.year
  | week w => w.year

/-- There is such a day: the year has the month and the month has the day, or
the ISO year has the week and the week has the weekday. -/
def Exists : NamedDay → Prop
  | calendar d =>
    (1 ≤ d.month ∧ d.month ≤ 12) ∧ 1 ≤ d.day ∧ d.day ≤ daysInMonth d.year d.month
  | week w => (1 ≤ w.week ∧ w.week ≤ weeksOf w.year) ∧ 1 ≤ w.weekday ∧ w.weekday ≤ 7

/-- A day of the calendar is the one that is named. -/
def Is : NamedDay → Date → Prop
  | calendar d, date => date = d
  | week w, date => date.Exists ∧ date.weekDate? = some w

/-- The first part of a named day that is wrong: the month is looked at before
the day and the week before the weekday. -/
inductive Fault : NamedDay → TemporalError → Prop where
  | month {d : Date} (h : ¬ (1 ≤ d.month ∧ d.month ≤ 12)) :
    Fault (calendar d) (.invalid .month (toString d.month) (.between 1 12))
  | day {d : Date} (hmonth : 1 ≤ d.month ∧ d.month ≤ 12)
    (h : ¬ (1 ≤ d.day ∧ d.day ≤ daysInMonth d.year d.month)) :
    Fault (calendar d) (.invalid .day (toString d.day)
      (.dayOfMonth d.year d.month (daysInMonth d.year d.month)))
  | week {w : WeekDate} (h : ¬ (1 ≤ w.week ∧ w.week ≤ weeksOf w.year)) :
    Fault (week w) (.invalid .week (toString w.week) (.weekOfYear w.year (weeksOf w.year)))
  | weekday {w : WeekDate} (hweek : 1 ≤ w.week ∧ w.week ≤ weeksOf w.year)
    (h : ¬ (1 ≤ w.weekday ∧ w.weekday ≤ 7)) :
    Fault (week w) (.invalid .weekday (toString w.weekday) .dayOfWeek)

/-- A part that is wrong is never the year. -/
lemma Fault.exists_component {n : NamedDay} {e : TemporalError} (h : n.Fault e) :
    ∃ part, e.component? = some part ∧ part ≠ .year := by
  cases h <;> exact ⟨_, rfl, by decide⟩

/-- The day of the calendar that is named. -/
def date : NamedDay → Except TemporalError Date
  | calendar d => Date.ofParts d.year d.month d.day
  | week w => w.date

/-- The years that four digits write are well inside the calendar. -/
def IsShort (n : NamedDay) : Prop := -9999 ≤ n.year ∧ n.year ≤ 9999

lemma isCovered_of_isShort {w : WeekDate} (h : (week w).IsShort) : w.IsCovered := by
  obtain ⟨hmin, hmax⟩ := h
  rw [year] at hmin hmax
  exact ⟨by omega, by omega⟩

/-- The calendar finds the named days that exist. -/
theorem date_eq_ok_iff {n : NamedDay} (h : n.IsShort) {d : Date} :
    n.date = .ok d ↔ n.Exists ∧ n.Is d := by
  cases n with
  | calendar d' =>
      rw [date, Date.ofParts_eq_ok_iff, Exists, Is, ← and_assoc, @eq_comm _ d]
  | week w =>
      have hw := isCovered_of_isShort h
      rw [date, Is, ← WeekDate.date_eq_ok_iff_weekDate? hw]
      exact ⟨fun hd => ⟨((WeekDate.date_eq_ok_iff hw.isSupportedYear).mp hd).1, hd⟩, And.right⟩

/-- A named day that exists is a day of the calendar. -/
lemma exists_date {n : NamedDay} (h : n.IsShort) (hn : n.Exists) : ∃ d, n.date = .ok d := by
  cases n with
  | calendar d => exact ⟨d, Date.ofParts_eq_ok_iff.mpr ⟨hn.1, hn.2, rfl⟩⟩
  | week w =>
      have hw := (isCovered_of_isShort h).isSupportedYear
      exact ⟨_, (WeekDate.date_eq_ok_iff hw).mpr ⟨hn, rfl⟩⟩

/-- The calendar reports a part that is the first one wrong. -/
lemma Fault.date_eq {n : NamedDay} {e : TemporalError} (h : n.IsShort) (he : n.Fault e) :
    n.date = .error e := by
  cases he with
  | month hmonth => rw [date, Date.ofParts, if_pos (by omega)]
  | day hmonth hday => rw [date, Date.ofParts, if_neg (by omega), if_pos (by omega)]
  | week hweek =>
      rw [date, WeekDate.date_eq (isCovered_of_isShort h).isSupportedYear, if_pos (by omega)]
  | weekday hweek hweekday =>
      rw [date, WeekDate.date_eq (isCovered_of_isShort h).isSupportedYear, if_neg (by omega),
        if_pos (by omega)]

/-- What the calendar reports is the first wrong part. -/
lemma fault_of_date_eq {n : NamedDay} {e : TemporalError} (h : n.IsShort)
    (he : n.date = .error e) : n.Fault e := by
  cases n with
  | calendar d =>
      rw [date, Date.ofParts] at he
      split_ifs at he with hmonth hday
      · exact Except.error.inj he ▸ .month (by omega)
      · exact Except.error.inj he ▸ .day (by omega) (by omega)
  | week w =>
      rw [date, WeekDate.date_eq (isCovered_of_isShort h).isSupportedYear] at he
      split_ifs at he with hweek hweekday
      · exact Except.error.inj he ▸ .week (by omega)
      · exact Except.error.inj he ▸ .weekday (by omega) (by omega)

/-- The calendar reports the first wrong part of a named day. -/
theorem date_eq_error_iff {n : NamedDay} (h : n.IsShort) {e : TemporalError} :
    n.date = .error e ↔ n.Fault e :=
  ⟨fault_of_date_eq h, Fault.date_eq h⟩

end NamedDay

/-! ### Date literals -/

namespace DateTail

/-- How much of a date is written. -/
def precision : DateTail → Precision
  | year => .year
  | month _ => .month
  | day _ _ => .day
  | week _ _ => .week
  | weekday _ _ _ _ => .weekday

/-- The spelling with all dashes. -/
def plain : DateTail → DateTail
  | week _ w => week true w
  | weekday _ w _ d => weekday true w true d
  | t => t

end DateTail

namespace DateLiteral

/-- The day that a date literal names; the parts left out are the first. -/
def named (l : DateLiteral) : NamedDay :=
  match l.tail with
  | .year => .calendar ⟨l.yearValue, 1, 1⟩
  | .month m => .calendar ⟨l.yearValue, m.value, 1⟩
  | .day m d => .calendar ⟨l.yearValue, m.value, d.value⟩
  | .week _ w => .week ⟨l.yearValue, w.value, 1⟩
  | .weekday _ w _ d => .week ⟨l.yearValue, w.value, d.val⟩

/-- The spelling without a plus sign and with all dashes. -/
def plain (l : DateLiteral) : DateLiteral :=
  ⟨if l.sign = some .minus then some .minus else none, l.year, l.tail.plain⟩

lemma year_named (l : DateLiteral) : l.named.year = l.yearValue := by
  rw [named]
  cases l.tail <;> rfl

lemma isShort_named (l : DateLiteral) : l.named.IsShort := by
  have hvalue := l.year.value_lt
  rw [NamedDay.IsShort, year_named, yearValue, Sign.apply]
  split_ifs <;> omega

/-- A date literal means the day that it names, in the precision of what is
written. -/
theorem value_eq (l : DateLiteral) :
    l.value = l.named.date.map (WrittenDate.mk · l.tail.precision) := by
  rw [value, named]
  cases l.tail <;> rfl

/-- A date literal fails with the first wrong part of the day that it names. -/
theorem value_eq_error_iff {l : DateLiteral} {e : TemporalError} :
    l.value = .error e ↔ l.named.Fault e := by
  rw [value_eq, except_map_eq_error_iff, NamedDay.date_eq_error_iff l.isShort_named]

/-- The plain spelling means the same. -/
theorem value_plain (l : DateLiteral) : l.plain.value = l.value := by
  have hyear : l.plain.yearValue = l.yearValue := by
    rw [plain, yearValue, yearValue, Sign.apply, Sign.apply]
    split_ifs <;> simp_all
  have htail : l.plain.tail = l.tail.plain := rfl
  rw [value_eq, value_eq, named, named, hyear, htail]
  cases l.tail <;> rfl

end DateLiteral

namespace WrittenDate

/-- Dates are parsed by their literals. -/
theorem parses : Grammar.date.Parses parse DateLiteral.text DateLiteral.value := by
  refine Grammar.parses_of_read? (fun h => by rw [parse, h]) (fun h => by rw [parse, h])
    DateLiteral.read?_eq_some_iff fun {l _} h => ?_
  obtain ⟨part, hpart, -⟩ := (DateLiteral.value_eq_error_iff.mp h).exists_component
  rw [hpart]
  exact Option.some_ne_none part

variable {s : String} {l : DateLiteral}

/-- A spelling is parsed to the day that it names, if there is one. -/
theorem parse_eq_ok_iff_of_text (h : s.toList = l.text) {d : WrittenDate} :
    parse s = .ok d ↔ l.named.Exists ∧ l.named.Is d.date ∧ d.precision = l.tail.precision := by
  rw [parses.of_text h, DateLiteral.value_eq, except_map_eq_ok_iff]
  simp only [NamedDay.date_eq_ok_iff l.isShort_named]
  constructor
  · rintro ⟨date, ⟨hexists, his⟩, rfl⟩
    exact ⟨hexists, his, rfl⟩
  · rintro ⟨hexists, his, hprecision⟩
    exact ⟨d.date, ⟨hexists, his⟩, by rw [← hprecision]⟩

/-- Otherwise the first wrong part of the day is reported. -/
theorem parse_eq_error_iff_of_text (h : s.toList = l.text) {e : TemporalError} :
    parse s = .error e ↔ l.named.Fault e := by
  rw [parses.of_text h, DateLiteral.value_eq_error_iff]

lemma exists_parse_iff_of_text (h : s.toList = l.text) :
    (∃ d, parse s = .ok d) ↔ l.named.Exists := by
  constructor
  · rintro ⟨d, hd⟩
    exact ((parse_eq_ok_iff_of_text h).mp hd).1
  · intro hexists
    obtain ⟨date, hdate⟩ := NamedDay.exists_date l.isShort_named hexists
    exact ⟨_, by rw [parses.of_text h, DateLiteral.value_eq, hdate]; rfl⟩

/-- **Parsing dates.** A text is malformed exactly when it spells no date
literal. The spelling of a literal is parsed exactly when the day that it names
exists, to that day and in the precision of what is written; otherwise the error
is the first wrong part of the day, which is never the year. Dashes that may be
left out and a plus sign make no difference. -/
theorem parse_iff (s : String) :
    (∀ grammar input, parse s = .error (.malformed grammar input)
      ↔ grammar = .date ∧ input = s ∧ ¬ ∃ l : DateLiteral, s.toList = l.text) ∧
    (∀ l : DateLiteral, s.toList = l.text →
      weeksInYear? l.yearValue = some (weeksOf l.yearValue) ∧
      ((∃ d, parse s = .ok d) ↔ l.named.Exists) ∧
      (∀ d, parse s = .ok d → l.named.Is d.date ∧ d.precision = l.tail.precision) ∧
      (∀ e, parse s = .error e ↔ l.named.Fault e) ∧
      ∀ (t : String) (l' : DateLiteral), t.toList = l'.text → l'.plain = l.plain →
        parse t = parse s) ∧
    ∀ e, parse s = .error e → e.component? ≠ some .year := by
  refine ⟨fun _ _ => parses.eq_malformed_iff, fun l hl => ⟨?_, exists_parse_iff_of_text hl,
    fun d hd => ((parse_eq_ok_iff_of_text hl).mp hd).2, fun _ => parse_eq_error_iff_of_text hl,
    fun t l' hl' hplain => ?_⟩, fun e he => ?_⟩
  · have hcovered : WeekDate.IsCovered ⟨l.yearValue, 1, 1⟩ := by
      have hshort := l.isShort_named
      rw [NamedDay.IsShort, l.year_named] at hshort
      exact ⟨by simp only; omega, by simp only; omega⟩
    rw [weeksInYear?_eq, if_pos hcovered.isSupportedYear]
  · rw [parses.of_text hl, parses.of_text hl', ← l.value_plain, ← l'.value_plain, hplain]
  · by_cases htext : ∃ l : DateLiteral, s.toList = l.text
    · obtain ⟨l, hl⟩ := htext
      obtain ⟨part, hpart, hyear⟩ := ((parse_eq_error_iff_of_text hl).mp he).exists_component
      rw [hpart]
      exact fun heq => hyear (Option.some.inj heq)
    · rw [parses.of_not_text htext] at he
      rw [← Except.error.inj he]
      simp [TemporalError.component?]

/-- The last day of the weeks of 2020, written in two ways, and a day that the
weeks of 2021 do not have. -/
theorem parse_iff_lastWeek :
    (∃ d, parse "2020-W53-7" = .ok d) ∧
    parse "+2020W537" = parse "2020-W53-7" ∧
    parse "2021-W53-7" = .error (.invalid .week "53" (.weekOfYear 2021 52)) ∧
    parse "2021W53-" = .error (.malformed .date "2021W53-") := by
  obtain ⟨-, hspelled, -⟩ := parse_iff "2020-W53-7"
  obtain ⟨-, hexists, -, -, hplain⟩ :=
    hspelled ⟨none, ⟨⟨2, 0⟩, ⟨2, 0⟩⟩, .weekday true ⟨5, 3⟩ true 7⟩ rfl
  obtain ⟨-, hspelled', -⟩ := parse_iff "2021-W53-7"
  obtain ⟨-, -, -, hfault, -⟩ :=
    hspelled' ⟨none, ⟨⟨2, 0⟩, ⟨2, 1⟩⟩, .weekday true ⟨5, 3⟩ true 7⟩ rfl
  have hnone : DateLiteral.read? "2021W53-".toList = none := rfl
  refine ⟨hexists.mpr ⟨by decide, by decide⟩,
    hplain _ ⟨some .plus, ⟨⟨2, 0⟩, ⟨2, 0⟩⟩, .weekday false ⟨5, 3⟩ false 7⟩ rfl rfl,
    (hfault _).mpr (.week (by decide)), ?_⟩
  refine ((parse_iff "2021W53-").1 _ _).mpr ⟨rfl, rfl, fun ⟨l, hl⟩ => ?_⟩
  rw [DateLiteral.read?_eq_some_iff.mpr hl] at hnone
  exact absurd hnone (by simp)

end WrittenDate

end Criteria

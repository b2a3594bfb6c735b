/-
Written forms are parsed back.

* `Date.exists_literal`, `TimeOfDay.exists_literal`, `Offset.exists_literal`:
  the written form of a day of a four-digit year, of a time and of an offset is
  the spelling of a literal that means the same; only a negative offset of zero
  loses its sign (`Offset.normal`);
* `WrittenDate.parse_text_of_exists`, `TimeOfDay.parse_text_of_exists`,
  `DateTime.parse_text_of_exists`: so the written forms are parsed back;
* `DateLiteral.short_or_late`: a date literal means a day of a four-digit year,
  save for the two days of the weeks of 9999 that lie in the year 10000
  (`DateLiteral.IsLate`);
* `DateTime.parse_text_parse`: so parsing, writing and parsing again changes
  nothing but the sign of an offset of zero, and fails for these two days only.
-/
import Criteria.Proofs.Temporal.Literal.DateTime

namespace Criteria

/-! ### Written forms are spellings -/

namespace Date

lemma daysInMonth_le (year : Int) (month : Nat) : daysInMonth year month ≤ 31 := by
  unfold daysInMonth
  grind

/-- The written form of a day of a four-digit year spells that day. -/
theorem exists_literal {d : Date} (h : d.Exists) (hmin : -9999 ≤ d.year) (hmax : d.year ≤ 9999) :
    ∃ l : DateLiteral, d.text.toList = l.text ∧ l.named = .calendar d ∧
      l.tail.precision = .day := by
  obtain ⟨hmonth, hday⟩ := exists_iff.mp h
  have hlast := daysInMonth_le d.year d.month
  obtain ⟨year, hyearText, hyear⟩ := FourDigits.exists_padded (n := d.year.natAbs) (by omega)
  obtain ⟨month, hmonthText, hmonth⟩ := TwoDigits.exists_padded (n := d.month) (by omega)
  obtain ⟨day, hdayText, hday⟩ := TwoDigits.exists_padded (n := d.day) (by omega)
  refine ⟨⟨if d.year < 0 then some .minus else none, year, .day month day⟩, ?_, ?_, rfl⟩
  · rw [text, DateLiteral.text, DateTail.text]
    split_ifs <;> simp [hyearText, hmonthText, hdayText, Sign.text, Sign.char]
  · have hvalue : DateLiteral.yearValue
        ⟨if d.year < 0 then some .minus else none, year, .day month day⟩ = d.year := by
      rw [DateLiteral.yearValue, Sign.apply, hyear]
      by_cases hnegative : d.year < 0
      · rw [if_pos hnegative, if_pos rfl]
        omega
      · rw [if_neg hnegative, if_neg (by simp)]
        omega
    rw [DateLiteral.named]
    simp only [hvalue, hmonth, hday]

end Date

/-- The written form of a day of a four-digit year is parsed back. -/
theorem WrittenDate.parse_text_of_exists {d : Date} (h : d.Exists) (hmin : -9999 ≤ d.year)
    (hmax : d.year ≤ 9999) : parse d.text = .ok ⟨d, .day⟩ := by
  obtain ⟨l, htext, hnamed, hprecision⟩ := Date.exists_literal h hmin hmax
  rw [parse_eq_ok_iff_of_text htext, hnamed]
  exact ⟨Date.exists_iff.mp h, rfl, hprecision.symm⟩

namespace TimeOfDay

/-- The written form of a time spells that time. -/
theorem exists_literal {t : TimeOfDay} (h : t.Exists) :
    ∃ l : TimeLiteral, t.text.toList = l.text ∧ l.value = .ok t := by
  obtain ⟨hhour, hminute, hsecond, hmicros⟩ := exists_iff.mp h
  obtain ⟨hour, hhourText, hhour'⟩ := TwoDigits.exists_padded (n := t.hour) (by omega)
  obtain ⟨minute, hminuteText, hminute'⟩ := TwoDigits.exists_padded (n := t.minute) (by omega)
  obtain ⟨second, hsecondText, hsecond'⟩ := TwoDigits.exists_padded (n := t.second) (by omega)
  by_cases hzero : t.micros = 0
  · refine ⟨.second hour minute second, ?_, ?_⟩
    · simp [text, TimeLiteral.text, hzero, hhourText, hminuteText, hsecondText]
    · rw [TimeLiteral.value, hhour', hminute', hsecond', ← hzero]
      exact h
  · obtain ⟨digits, hdigitsText, hlength, hdigits⟩ :=
      Digit.exists_padded (n := t.micros) (w := 6) (by decide) (by omega)
    refine ⟨.fraction hour minute second digits (by omega), ?_, ?_⟩
    · simp [text, TimeLiteral.text, hzero, hhourText, hminuteText, hsecondText, hdigitsText]
    · rw [TimeLiteral.value, hhour', hminute', hsecond', TimeLiteral.micros_eq, hlength, hdigits,
        Nat.sub_self, Nat.pow_zero, Nat.mul_one]
      exact h

/-- The written form of a time is parsed back. -/
theorem parse_text_of_exists {t : TimeOfDay} (h : t.Exists) : parse t.text = .ok t := by
  obtain ⟨l, htext, hvalue⟩ := exists_literal h
  rw [parses.of_text htext, hvalue]

end TimeOfDay

namespace Offset

/-- The offset, without the sign when it is zero. -/
def normal (o : Offset) : Offset := if o.hours = 0 ∧ o.minutes = 0 then utc else o

lemma seconds_normal (o : Offset) : o.normal.seconds = o.seconds := by
  rw [normal]
  split_ifs with hzero
  · simp [seconds, utc, hzero]
  · rfl

lemma exists_normal {o : Offset} (h : o.Exists) : o.normal.Exists := by
  rw [normal]
  split_ifs
  · rfl
  · exact h

/-- The written form of an offset spells that offset, without the sign when it
is zero. -/
theorem exists_literal {o : Offset} (h : o.Exists) :
    ∃ l : OffsetLiteral, o.text.toList = l.text ∧ l.spelled = o.normal := by
  obtain ⟨hhours, hminutes⟩ := exists_iff.mp h
  obtain ⟨hours, hhoursText, hhours'⟩ := TwoDigits.exists_padded (n := o.hours) (by omega)
  obtain ⟨minutes, hminutesText, hminutes'⟩ := TwoDigits.exists_padded (n := o.minutes) (by omega)
  by_cases hzero : o.hours = 0 ∧ o.minutes = 0
  · refine ⟨.minutes .plus hours true minutes, ?_, ?_⟩
    · simp [text, OffsetLiteral.text, OffsetSign.char, hzero, ← hhoursText, ← hminutesText]
    · rw [OffsetLiteral.spelled, hhours', hminutes', hzero.1, hzero.2, normal, if_pos hzero]
      rfl
  · have hnonzero : o.hours = 0 → ¬ o.minutes = 0 := not_and.mp hzero
    rw [normal, if_neg hzero]
    cases hsign : o.negative with
    | true =>
        refine ⟨.minutes .hyphen hours true minutes, ?_, ?_⟩
        · have hshown : (o.hours != 0 || o.minutes != 0) = true := by
            simpa [Decidable.or_iff_not_imp_left] using hnonzero
          simp [text, OffsetLiteral.text, OffsetSign.char, hsign, hshown, hhoursText,
            hminutesText]
        · rw [OffsetLiteral.spelled, hhours', hminutes', OffsetSign.isNegative, ← hsign]
    | false =>
        refine ⟨.minutes .plus hours true minutes, ?_, ?_⟩
        · simp [text, OffsetLiteral.text, OffsetSign.char, hsign, hhoursText, hminutesText]
        · rw [OffsetLiteral.spelled, hhours', hminutes', OffsetSign.isNegative, ← hsign]

end Offset

namespace DateTime

lemma text_eq (t : DateTime) :
    t.text = t.date.text ++ "T" ++ t.time.text ++ t.offset.elim "" Offset.text := by
  obtain ⟨date, time, offset⟩ := t
  cases offset <;> rfl

/-- The written form of a datetime of a four-digit year spells that datetime, an
offset of zero without its sign. -/
theorem exists_literal {t : DateTime} (h : t.Exists) (hmin : -9999 ≤ t.date.year)
    (hmax : t.date.year ≤ 9999) :
    ∃ l : DateTimeLiteral, t.text.toList = l.text ∧
      l.value = .ok { t with offset := t.offset.map Offset.normal } := by
  obtain ⟨date, hdateText, hnamed, hprecision⟩ := Date.exists_literal h.date hmin hmax
  obtain ⟨time, htimeText, htime⟩ := TimeOfDay.exists_literal h.time
  have hdate : date.value = .ok ⟨t.date, .day⟩ := by
    rw [DateLiteral.value_eq, hnamed, hprecision, NamedDay.date, h.date]
    rfl
  obtain ⟨offset, hoffsetText, hoffset⟩ : ∃ offset : Option OffsetLiteral,
      (t.offset.elim "" Offset.text).toList = OffsetLiteral.optionText offset ∧
      offset.map OffsetLiteral.value = (t.offset.map Offset.normal).map .ok := by
    cases ho : t.offset with
    | none => exact ⟨none, rfl, rfl⟩
    | some o =>
        have hexists := h.offset o ho
        obtain ⟨l, htext, hspelled⟩ := Offset.exists_literal hexists
        refine ⟨some l, htext, ?_⟩
        rw [Option.map_some, Option.map_some, Option.map_some, OffsetLiteral.value_eq, hspelled,
          Offset.exists_normal hexists]
  refine ⟨⟨date, false, time, offset, DateTail.isComplete_iff.mpr (.inl hprecision)⟩, ?_, ?_⟩
  · rw [DateTimeLiteral.text_eq, text_eq]
    simp [hdateText, htimeText, hoffsetText, DateTimeLiteral.mark]
  · exact DateTimeLiteral.value_eq_ok_iff.mpr ⟨⟨_, hdate, rfl⟩, htime, hoffset⟩

/-- The written form of a datetime of a four-digit year is parsed back, an offset
of zero without its sign. -/
theorem parse_text_of_exists {t : DateTime} (h : t.Exists) (hmin : -9999 ≤ t.date.year)
    (hmax : t.date.year ≤ 9999) :
    parse t.text = .ok { t with offset := t.offset.map Offset.normal } := by
  obtain ⟨l, htext, hvalue⟩ := exists_literal h hmin hmax
  rw [parse_of_text htext, hvalue]

end DateTime

/-! ### The days that literals mean -/

/-- The weeks of four-digit years do not start before those years, and only two
days of them come after. -/
lemma WeekDate.dayNumber_bounds_of_isShort {w : WeekDate} (h : (NamedDay.week w).IsShort)
    (hw : w.Exists) :
    daysBeforeYear (-9999) < w.dayNumber ∧
      (w.dayNumber ≤ daysBeforeYear 10000 ∨ w = ⟨9999, 52, 6⟩ ∨ w = ⟨9999, 52, 7⟩) := by
  obtain ⟨hmin, hmax⟩ := h
  rw [NamedDay.year] at hmin hmax
  obtain ⟨hstart, hend⟩ := WeekDate.dayNumber_bounds hw
  have hfirst := firstMonday_mono hmin
  have hearliest : daysBeforeYear (-9999) < firstMonday (-9999) := by decide
  have hyear : daysBeforeYear 10000 = firstMonday 9999 + 361 := by decide
  refine ⟨by omega, ?_⟩
  by_cases hlast : w.year = 9999
  · obtain ⟨year, week, weekday⟩ := w
    obtain rfl : year = 9999 := hlast
    obtain ⟨hweek, hweekday⟩ := hw
    have hweeks : weeksOf 9999 = 52 := by decide
    simp only [hweeks] at hweek hweekday
    simp only [WeekDate.dayNumber, dayOfWeek, hyear, WeekDate.mk.injEq, true_and]
    omega
  · have hnext := firstMonday_mono (show w.year + 1 ≤ 9999 by omega)
    omega

namespace DateLiteral

/-- A date literal names one of the two days of the weeks of 9999 that lie in
the year 10000. -/
def IsLate (l : DateLiteral) : Prop :=
  l.named = .week ⟨9999, 52, 6⟩ ∨ l.named = .week ⟨9999, 52, 7⟩

/-- A date literal means a day of a four-digit year, unless it names a day of
the weeks of 9999 that lies in the year 10000. -/
theorem short_or_late {l : DateLiteral} {d : Date} (h : l.named.Exists) (hd : l.named.Is d) :
    (¬ l.IsLate ∧ -9999 ≤ d.year ∧ d.year ≤ 9999) ∨
      (l.IsLate ∧ (d = ⟨10000, 1, 1⟩ ∨ d = ⟨10000, 1, 2⟩)) := by
  have hshort := l.isShort_named
  cases hnamed : l.named with
  | calendar date =>
      rw [hnamed] at hshort hd
      obtain rfl : d = date := hd
      exact .inl ⟨by simp [IsLate, hnamed], hshort⟩
  | week w =>
      rw [hnamed] at hshort h hd
      have hdate : w.date = .ok d :=
        (WeekDate.date_eq_ok_iff_weekDate? (NamedDay.isCovered_of_isShort hshort)).mpr hd
      obtain ⟨-, rfl⟩ := (WeekDate.date_eq_ok_iff
        (NamedDay.isCovered_of_isShort hshort).isSupportedYear).mp hdate
      obtain ⟨hmin, hmax | rfl | rfl⟩ := WeekDate.dayNumber_bounds_of_isShort hshort h
      · refine .inl ⟨?_, Date.year_ofDayNumber_iff.mpr ⟨hmin, hmax⟩⟩
        rw [IsLate, hnamed, NamedDay.week.injEq, NamedDay.week.injEq]
        rintro (rfl | rfl)
        · exact absurd hmax (by decide)
        · exact absurd hmax (by decide)
      · exact .inr ⟨.inl hnamed, .inl rfl⟩
      · exact .inr ⟨.inr hnamed, .inr rfl⟩

end DateLiteral

/-! ### Parsing, writing and parsing again -/

/-- The part of a text before the letter `T`, large or small. -/
def datePart (s : String) : List Char := s.toList.takeWhile fun c => !DateTimeLiteral.isMark c

/-- The date in a text is one of the two days of the weeks of 9999 that lie in
the year 10000. -/
def SpellsLate (s : String) : Prop := ∃ l : DateLiteral, datePart s = l.text ∧ l.IsLate

lemma spellsLate_iff {s : String} {l : DateLiteral} (h : datePart s = l.text) :
    SpellsLate s ↔ l.IsLate := by
  refine ⟨fun ⟨l', hl', hlate⟩ => ?_, fun hlate => ⟨l, h, hlate⟩⟩
  have hread := DateLiteral.read?_eq_some_iff.mpr h
  rw [DateLiteral.read?_eq_some_iff.mpr hl'] at hread
  exact Option.some.inj hread ▸ hlate

lemma datePart_of_date {s : String} {l : DateLiteral} (h : s.toList = l.text) :
    datePart s = l.text := by
  have hcut := span_append [] l.isMark_eq_false_of_mem (by simp)
  rw [List.append_nil] at hcut
  rw [datePart, h, hcut.1]

lemma datePart_of_datetime {s : String} {l : DateTimeLiteral} (h : s.toList = l.text) :
    datePart s = l.date.text := by
  have hcut := span_append
    (l.mark :: (l.time.text ++ OffsetLiteral.optionText l.offset))
    l.date.isMark_eq_false_of_mem (fun _ hc => Option.some.inj hc ▸ l.isMark_mark)
  rw [datePart, h, l.text_eq, hcut.1]

/-- The date part of a text that is parsed as a date names its day. -/
lemma WrittenDate.exists_named_of_parse {s : String} {d : WrittenDate} (h : parse s = .ok d) :
    ∃ l : DateLiteral, datePart s = l.text ∧ l.named.Exists ∧ l.named.Is d.date := by
  obtain ⟨l, hl, -⟩ := parses.exists_text_of_ok h
  obtain ⟨hexists, his, -⟩ := (parse_eq_ok_iff_of_text hl).mp h
  exact ⟨l, datePart_of_date hl, hexists, his⟩

/-- The date part of a text that is parsed as a datetime names its day. -/
lemma DateTime.exists_named_of_parse {s : String} {t : DateTime} (h : parse s = .ok t) :
    ∃ l : DateLiteral, datePart s = l.text ∧ l.named.Exists ∧ l.named.Is t.date := by
  rw [parse] at h
  split_ifs at h
  · split at h
    · exact absurd h (by simp)
    · rename_i l hread
      have hl := DateTimeLiteral.read?_eq_some_iff.mp hread
      obtain ⟨⟨d, hd, hdate⟩, -⟩ := DateTimeLiteral.value_eq_ok_iff.mp h
      rw [← l.parse_date_cut] at hd
      obtain ⟨hexists, his, -⟩ :=
        (WrittenDate.parse_eq_ok_iff_of_text String.toList_ofList).mp hd
      exact ⟨l.date, datePart_of_datetime hl, hexists, hdate ▸ his⟩
  · obtain ⟨d, hd, rfl⟩ := except_map_eq_ok_iff.mp h
    exact WrittenDate.exists_named_of_parse hd

/-- The written forms of the two late days spell no date. -/
lemma Date.not_text_of_late {d : Date} (h : d = ⟨10000, 1, 1⟩ ∨ d = ⟨10000, 1, 2⟩) :
    d.text.toList.any DateTimeLiteral.isMark = false ∧
      DateLiteral.read? d.text.toList = none := by
  obtain rfl | rfl := h
  · exact ⟨rfl, rfl⟩
  · exact ⟨rfl, rfl⟩

lemma WrittenDate.parse_text_of_late {d : Date} (h : d = ⟨10000, 1, 1⟩ ∨ d = ⟨10000, 1, 2⟩) :
    parse d.text = .error (.malformed .date d.text) := by
  rw [parse, (Date.not_text_of_late h).2]

lemma DateTime.parse_text_of_late {t : DateTime}
    (h : t.date = ⟨10000, 1, 1⟩ ∨ t.date = ⟨10000, 1, 2⟩) :
    parse t.text = .error (.malformed .datetime t.text) := by
  obtain ⟨hmark, hread⟩ := Date.not_text_of_late h
  refine parse_of_not_text (.inl (by simp [text_eq])) fun ⟨l, hl⟩ => ?_
  have hpart := datePart_of_datetime hl
  have htext : t.text.toList = t.date.text.toList ++ 'T' :: (t.time.text.toList
      ++ (t.offset.elim "" Offset.text).toList) := by
    simp [text_eq]
  have hcut : datePart t.text = t.date.text.toList := by
    rw [datePart, htext]
    exact (span_append ('T' :: _)
      (fun c hc => Bool.eq_false_iff.mpr (List.any_eq_false.mp hmark c hc))
      fun _ hc => Option.some.inj hc ▸ rfl).1
  rw [hcut] at hpart
  rw [DateLiteral.read?_eq_some_iff.mpr hpart] at hread
  exact absurd hread (by simp)

/-- A date that is parsed, written and parsed again is the same day, unless it
is one of the two late days, whose written form is not parsed. -/
theorem WrittenDate.parse_text_parse {s : String} {d : WrittenDate} (h : parse s = .ok d) :
    (¬ SpellsLate s ∧ parse d.text = .ok ⟨d.date, .day⟩) ∨
      (SpellsLate s ∧ d.date.year = 10000 ∧ ∃ e, parse d.text = .error e) := by
  obtain ⟨l, hpart, hexists, his⟩ := exists_named_of_parse h
  rw [spellsLate_iff hpart]
  obtain ⟨hshort, hmin, hmax⟩ | ⟨hlate, hdate⟩ := DateLiteral.short_or_late hexists his
  · exact .inl ⟨hshort, parse_text_of_exists (exists_of_parse h) hmin hmax⟩
  · refine .inr ⟨hlate, ?_, _, parse_text_of_late hdate⟩
    obtain hdate | hdate := hdate <;> rw [hdate]

/-- A datetime that is parsed, written and parsed again has the same day, time
and distance from UTC, unless its day is one of the two late days. -/
theorem DateTime.parse_text_parse {s : String} {t : DateTime} (h : parse s = .ok t) :
    (¬ SpellsLate s ∧ ∃ t', parse t.text = .ok t' ∧ t'.date = t.date ∧ t'.time = t.time ∧
        t'.offset.map Offset.seconds = t.offset.map Offset.seconds) ∨
      (SpellsLate s ∧ t.date.year = 10000 ∧ ∃ e, parse t.text = .error e) := by
  obtain ⟨l, hpart, hexists, his⟩ := exists_named_of_parse h
  rw [spellsLate_iff hpart]
  obtain ⟨hshort, hmin, hmax⟩ | ⟨hlate, hdate⟩ := DateLiteral.short_or_late hexists his
  · refine .inl ⟨hshort, _, parse_text_of_exists (exists_of_parse h) hmin hmax, rfl, rfl, ?_⟩
    cases t.offset with
    | none => rfl
    | some o => rw [Option.map_some, Option.map_some, Option.map_some, Offset.seconds_normal]
  · refine .inr ⟨hlate, ?_, _, parse_text_of_late hdate⟩
    obtain hdate | hdate := hdate <;> rw [hdate]

/-- **Writing and parsing are inverse.** The written form of a day of a
four-digit year, of a time and of a datetime with such a day is parsed back,
save that an offset of zero loses its sign. So whatever text is parsed, its
written form is parsed to the same day, time and distance from UTC, with the two
days of the weeks of 9999 that lie in the year 10000 as the only exceptions:
their written forms are not parsed. -/
theorem DateTime.text_parse_inverse :
    (∀ d : Date, d.Exists → -9999 ≤ d.year → d.year ≤ 9999 →
      WrittenDate.parse d.text = .ok ⟨d, .day⟩) ∧
    (∀ t : TimeOfDay, t.Exists → TimeOfDay.parse t.text = .ok t) ∧
    (∀ t : DateTime, t.Exists → -9999 ≤ t.date.year → t.date.year ≤ 9999 →
      DateTime.parse t.text = .ok { t with offset := t.offset.map Offset.normal }) ∧
    (∀ (s : String) (d : WrittenDate), WrittenDate.parse s = .ok d →
      (¬ SpellsLate s ∧ WrittenDate.parse d.text = .ok ⟨d.date, .day⟩) ∨
      (SpellsLate s ∧ d.date.year = 10000 ∧ ∃ e, WrittenDate.parse d.text = .error e)) ∧
    ∀ (s : String) (t : DateTime), DateTime.parse s = .ok t →
      (¬ SpellsLate s ∧ ∃ t', DateTime.parse t.text = .ok t' ∧ t'.date = t.date ∧
        t'.time = t.time ∧ t'.offset.map Offset.seconds = t.offset.map Offset.seconds) ∨
      (SpellsLate s ∧ t.date.year = 10000 ∧ ∃ e, DateTime.parse t.text = .error e) :=
  ⟨fun _ => WrittenDate.parse_text_of_exists, fun _ => TimeOfDay.parse_text_of_exists,
    fun _ => DateTime.parse_text_of_exists, fun _ _ => WrittenDate.parse_text_parse,
    fun _ _ => DateTime.parse_text_parse⟩

/-- A day before the year 0, an evening with a negative offset of zero, and the
last day of the weeks of 9999. -/
theorem DateTime.text_parse_inverse_extremes :
    WrittenDate.parse (Date.text ⟨-44, 3, 15⟩) = .ok ⟨⟨-44, 3, 15⟩, .day⟩ ∧
    TimeOfDay.parse (TimeOfDay.text ⟨23, 59, 59, 250⟩) = .ok ⟨23, 59, 59, 250⟩ ∧
    DateTime.parse (DateTime.text ⟨⟨9999, 12, 31⟩, ⟨23, 59, 59, 250⟩, some ⟨true, 0, 0⟩⟩)
      = .ok ⟨⟨9999, 12, 31⟩, ⟨23, 59, 59, 250⟩, some .utc⟩ ∧
    (∃ e, WrittenDate.parse (Date.text ⟨10000, 1, 2⟩) = .error e) ∧
    ∃ e, DateTime.parse (DateTime.text ⟨⟨10000, 1, 2⟩, ⟨8, 0, 0, 0⟩, none⟩) = .error e := by
  obtain ⟨hdate, htime, hdatetime, hdate', hdatetime'⟩ := DateTime.text_parse_inverse
  have hlate : SpellsLate "9999-W52-7" :=
    ⟨⟨none, ⟨⟨9, 9⟩, ⟨9, 9⟩⟩, .weekday true ⟨5, 2⟩ true 7⟩, rfl, .inr rfl⟩
  have hlate' : SpellsLate "9999-W52-7T08" :=
    ⟨⟨none, ⟨⟨9, 9⟩, ⟨9, 9⟩⟩, .weekday true ⟨5, 2⟩ true 7⟩, rfl, .inr rfl⟩
  refine ⟨hdate _ rfl (by decide) (by decide), htime _ rfl,
    hdatetime _ ⟨rfl, rfl, fun o ho => Option.some.inj ho ▸ rfl⟩ (by decide) (by decide), ?_, ?_⟩
  · obtain ⟨hshort, -⟩ | ⟨-, -, herror⟩ := hdate' "9999-W52-7" ⟨⟨10000, 1, 2⟩, .weekday⟩ rfl
    · exact absurd hlate hshort
    · exact herror
  · obtain ⟨hshort, -⟩ | ⟨-, -, herror⟩ :=
      hdatetime' "9999-W52-7T08" ⟨⟨10000, 1, 2⟩, ⟨8, 0, 0, 0⟩, none⟩ rfl
    · exact absurd hlate' hshort
    · exact herror

end Criteria

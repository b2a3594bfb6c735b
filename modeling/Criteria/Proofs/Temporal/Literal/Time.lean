/-
What time literals and offset literals mean.

* `TimeLiteral.spelled`: the time that a time literal spells out, in range or not;
  `TimeLiteral.value_eq_ok_iff`, `TimeLiteral.value_eq_error_iff`: it is what the
  literal means when its hour, minute and second are in range, and otherwise the first
  of them out of range is reported (`TimeOfDay.Fault`);
* `TimeOfDay.parses`, `TimeOfDay.parse_iff_parts`: times are parsed by their literals,
  and zeros at the end of a fraction make no difference;
* `OffsetLiteral.spelled`: the offset that an offset literal spells out;
  `OffsetLiteral.value_eq_ok_iff`, `OffsetLiteral.value_eq_error_iff`: it is what
  the literal means when both of its parts are in range, and otherwise the first
  part out of range is reported.
-/
import Criteria.Proofs.Temporal.Literal.Parsing
import Criteria.Proofs.Temporal.Literal.Spelling

namespace Criteria

/-! ### Times -/

namespace TimeOfDay

/-- A part that makes no time is named in the error. -/
lemma component_of_ofParts_error {hour minute second micros : Nat} {e : TemporalError}
    (h : ofParts hour minute second micros = .error e) : e.component? ≠ none := by
  rw [ofParts] at h
  split_ifs at h <;> simp [← Except.error.inj h, TemporalError.component?]

/-- Times are parsed by their literals. -/
theorem parses : Grammar.time.Parses parse TimeLiteral.text TimeLiteral.value := by
  refine Grammar.parses_of_read? (fun h => by rw [parse, h]) (fun h => by rw [parse, h])
    TimeLiteral.read?_eq_some_iff fun {l _} h => ?_
  cases l <;> exact component_of_ofParts_error h

/-- The first part of a time that is out of range: the hour is looked at before the
minute and the minute before the second. -/
inductive Fault (t : TimeOfDay) : TemporalError → Prop where
  | hour (h : 23 < t.hour) : Fault t (.invalid .hour (toString t.hour) (.between 0 23))
  | minute (hhour : t.hour ≤ 23) (h : 59 < t.minute) :
    Fault t (.invalid .minute (toString t.minute) (.between 0 59))
  | second (hhour : t.hour ≤ 23) (hminute : t.minute ≤ 59) (h : 59 < t.second) :
    Fault t (.invalid .second (toString t.second) (.between 0 59))

/-- A part that is out of range is never the fraction. -/
lemma Fault.component_ne_fraction {t : TimeOfDay} {e : TemporalError} (h : t.Fault e) :
    e.component? ≠ some .fraction := by
  cases h <;> simp [TemporalError.component?]

/-- With fewer than a million microseconds, parts in range make a time. -/
lemma ofParts_eq_ok_iff {t t' : TimeOfDay} (h : t.micros ≤ 999999) :
    ofParts t.hour t.minute t.second t.micros = .ok t'
      ↔ (t.hour ≤ 23 ∧ t.minute ≤ 59 ∧ t.second ≤ 59) ∧ t' = t := by
  rw [ofParts]
  split_ifs with hhour hminute hsecond hmicros
  · simp only [false_iff]
    omega
  · simp only [false_iff]
    omega
  · simp only [false_iff]
    omega
  · omega
  · rw [Except.ok.injEq, and_iff_right (by omega), eq_comm]

/-- Otherwise the first part out of range is reported. -/
lemma ofParts_eq_error_iff {t : TimeOfDay} {e : TemporalError} (h : t.micros ≤ 999999) :
    ofParts t.hour t.minute t.second t.micros = .error e ↔ t.Fault e := by
  rw [ofParts]
  constructor
  · intro he
    split_ifs at he with hhour hminute hsecond hmicros
    · exact Except.error.inj he ▸ .hour hhour
    · exact Except.error.inj he ▸ .minute (by omega) hminute
    · exact Except.error.inj he ▸ .second (by omega) (by omega) hsecond
    · omega
  · intro he
    cases he with
    | hour hhour => rw [if_pos hhour]
    | minute hhour hminute => rw [if_neg (by omega), if_pos hminute]
    | second hhour hminute hsecond => rw [if_neg (by omega), if_neg (by omega), if_pos hsecond]

end TimeOfDay

namespace TimeLiteral

/-- The time that a time literal spells out, with parts in range or not. Parts that
are left out are zero, and the digits of a fraction count from the first, which stands
for tenths of a second. -/
def spelled : TimeLiteral → TimeOfDay
  | hour h => ⟨h.value, 0, 0, 0⟩
  | minute h m => ⟨h.value, m.value, 0, 0⟩
  | second h m s => ⟨h.value, m.value, s.value, 0⟩
  | fraction h m s digits _ =>
    ⟨h.value, m.value, s.value, Digit.value digits * 10 ^ (6 - digits.length)⟩

/-- Digits that are filled up to six are multiplied by a power of ten. -/
lemma micros_eq (digits : List Digit) :
    micros digits = Digit.value digits * 10 ^ (6 - digits.length) :=
  Digit.value_append_zeros digits (6 - digits.length)

lemma value_eq (l : TimeLiteral) :
    l.value = TimeOfDay.ofParts l.spelled.hour l.spelled.minute l.spelled.second
      l.spelled.micros := by
  cases l with
  | fraction => rw [value, micros_eq, spelled]
  | _ => rfl

/-- A fraction is less than a second. -/
lemma micros_spelled_le (l : TimeLiteral) : l.spelled.micros ≤ 999999 := by
  cases l with
  | fraction h m s digits size =>
      have hlength : digits.length + (6 - digits.length) = 6 := by omega
      have hlt : Digit.value digits * 10 ^ (6 - digits.length) < 10 ^ 6 := by
        calc Digit.value digits * 10 ^ (6 - digits.length)
            < 10 ^ digits.length * 10 ^ (6 - digits.length) :=
              Nat.mul_lt_mul_of_pos_right (Digit.value_lt digits) (Nat.pow_pos (by decide))
          _ = 10 ^ 6 := by rw [← Nat.pow_add, hlength]
      exact Nat.le_of_lt_succ hlt
  | _ => exact Nat.zero_le _

/-- A time literal means the time that it spells out, when its parts are in range. -/
theorem value_eq_ok_iff {l : TimeLiteral} {t : TimeOfDay} :
    l.value = .ok t
      ↔ (l.spelled.hour ≤ 23 ∧ l.spelled.minute ≤ 59 ∧ l.spelled.second ≤ 59) ∧
        t = l.spelled := by
  rw [value_eq, TimeOfDay.ofParts_eq_ok_iff l.micros_spelled_le]

/-- Otherwise the first part out of range is reported. -/
theorem value_eq_error_iff {l : TimeLiteral} {e : TemporalError} :
    l.value = .error e ↔ l.spelled.Fault e := by
  rw [value_eq, TimeOfDay.ofParts_eq_error_iff l.micros_spelled_le]

section Zeros

variable {h m s : TwoDigits} {digits : List Digit} {zeros : Nat}
  (size : 1 ≤ digits.length ∧ digits.length ≤ 6)
  (size' : 1 ≤ (digits ++ List.replicate zeros Digit.zero).length ∧
    (digits ++ List.replicate zeros Digit.zero).length ≤ 6)

/-- Zeros are written behind a fraction. -/
lemma text_append_zeros :
    (fraction h m s (digits ++ List.replicate zeros Digit.zero) size').text
      = (fraction h m s digits size).text ++ List.replicate zeros '0' := by
  have hzero : Digit.zero.char = '0' := rfl
  simp [text, hzero]

/-- Zeros behind a fraction do not change the time. -/
lemma spelled_append_zeros :
    (fraction h m s (digits ++ List.replicate zeros Digit.zero) size').spelled
      = (fraction h m s digits size).spelled := by
  have hroom : zeros + (6 - (digits.length + zeros)) = 6 - digits.length := by
    simp only [List.length_append, List.length_replicate] at size'
    omega
  rw [spelled, spelled, Digit.value_append_zeros, List.length_append, List.length_replicate,
    Nat.mul_assoc, ← Nat.pow_add, hroom]

end Zeros

end TimeLiteral

namespace TimeOfDay

/-- Zeros behind a fraction with room for them do not change what is parsed. -/
lemma parse_append_zeros {s : String} {h m sec : TwoDigits} {digits : List Digit}
    {size : 1 ≤ digits.length ∧ digits.length ≤ 6}
    (hs : s.toList = (TimeLiteral.fraction h m sec digits size).text) {zeros : Nat}
    (hroom : digits.length + zeros ≤ 6) :
    parse (s ++ String.ofList (List.replicate zeros '0')) = parse s := by
  have size' : 1 ≤ (digits ++ List.replicate zeros Digit.zero).length ∧
      (digits ++ List.replicate zeros Digit.zero).length ≤ 6 := by
    simp only [List.length_append, List.length_replicate]
    omega
  have hs' : (s ++ String.ofList (List.replicate zeros '0')).toList
      = (TimeLiteral.fraction h m sec _ size').text := by
    rw [String.toList_append, String.toList_ofList, hs, TimeLiteral.text_append_zeros size size']
  rw [parses.of_text hs', parses.of_text hs, TimeLiteral.value_eq, TimeLiteral.value_eq,
    TimeLiteral.spelled_append_zeros size size']

/-- **Parsing times.** A text is malformed exactly when it spells no time literal. The
spelling of a literal is parsed exactly when its hour, minute and second are in range,
to the time that it spells out; otherwise the error is the first of the three that is
out of range, and never the fraction. Zeros behind a fraction make no difference. -/
theorem parse_iff_parts (s : String) :
    (∀ grammar input, parse s = .error (.malformed grammar input)
      ↔ grammar = .time ∧ input = s ∧ ¬ ∃ l : TimeLiteral, s.toList = l.text) ∧
    (∀ l : TimeLiteral, s.toList = l.text →
      ((∃ t, parse s = .ok t)
        ↔ l.spelled.hour ≤ 23 ∧ l.spelled.minute ≤ 59 ∧ l.spelled.second ≤ 59) ∧
      (∀ t, parse s = .ok t → t = l.spelled) ∧
      ∀ e, parse s = .error e ↔ l.spelled.Fault e) ∧
    (∀ h m sec digits size, s.toList = (TimeLiteral.fraction h m sec digits size).text →
      ∀ zeros, digits.length + zeros ≤ 6 →
        parse (s ++ String.ofList (List.replicate zeros '0')) = parse s) ∧
    ∀ e, parse s = .error e → e.component? ≠ some .fraction := by
  refine ⟨fun _ _ => parses.eq_malformed_iff, fun l hl => ?_,
    fun _ _ _ _ _ hs _ hroom => parse_append_zeros hs hroom, fun e he => ?_⟩
  · rw [parses.of_text hl]
    refine ⟨⟨fun ⟨t, ht⟩ => (TimeLiteral.value_eq_ok_iff.mp ht).1, fun hparts => ?_⟩,
      fun t ht => (TimeLiteral.value_eq_ok_iff.mp ht).2,
      fun e => TimeLiteral.value_eq_error_iff⟩
    exact ⟨l.spelled, TimeLiteral.value_eq_ok_iff.mpr ⟨hparts, rfl⟩⟩
  · obtain rfl | ⟨l, -, hvalue⟩ := parses.eq_malformed_or_exists_text he
    · simp [TemporalError.component?]
    · exact (TimeLiteral.value_eq_error_iff.mp hvalue).component_ne_fraction

/-- Half of the last second of a day, also with zeros behind it; a minute that is
reported after the hour; and a fraction of a minute, which there is not. -/
theorem parse_iff_parts_lastSecond :
    parse "23:59:59.05" = .ok ⟨23, 59, 59, 50000⟩ ∧
    parse ("23:59:59.05" ++ "0000") = parse "23:59:59.05" ∧
    parse "24:60" = .error (.invalid .hour "24" (.between 0 23)) ∧
    parse "12:00.5" = .error (.malformed .time "12:00.5") := by
  obtain ⟨-, hspelled, hzeros, -⟩ := parse_iff_parts "23:59:59.05"
  obtain ⟨-, hspelled', -, -⟩ := parse_iff_parts "24:60"
  have htext : "23:59:59.05".toList
      = (TimeLiteral.fraction ⟨2, 3⟩ ⟨5, 9⟩ ⟨5, 9⟩ [0, 5] (by decide)).text := rfl
  obtain ⟨hexists, hvalue, -⟩ := hspelled _ htext
  obtain ⟨-, -, hfault⟩ := hspelled' (.minute ⟨2, 4⟩ ⟨6, 0⟩) rfl
  have hnone : TimeLiteral.read? "12:00.5".toList = none := rfl
  refine ⟨?_, hzeros _ _ _ _ _ htext 4 (by decide), (hfault _).mpr (.hour (by decide)), ?_⟩
  · obtain ⟨t, ht⟩ := hexists.mpr (by decide)
    rw [ht, hvalue t ht]
    rfl
  · refine ((parse_iff_parts "12:00.5").1 _ _).mpr ⟨rfl, rfl, fun ⟨l, hl⟩ => ?_⟩
    rw [TimeLiteral.read?_eq_some_iff.mpr hl] at hnone
    cases hnone

end TimeOfDay

/-! ### Offsets -/

namespace OffsetLiteral

/-- The offset that an offset literal spells out, with parts in range or not. -/
def spelled : OffsetLiteral → Offset
  | utc _ => .utc
  | hours sign h => ⟨sign.isNegative, h.value, 0⟩
  | minutes sign h _ m => ⟨sign.isNegative, h.value, m.value⟩

lemma value_eq (l : OffsetLiteral) :
    l.value = Offset.ofParts l.spelled.negative l.spelled.hours l.spelled.minutes := by
  cases l <;> rfl

/-- An offset literal means the offset that it spells out, when its hours and
minutes are in range. -/
theorem value_eq_ok_iff {l : OffsetLiteral} {o : Offset} :
    l.value = .ok o ↔ (l.spelled.hours ≤ 23 ∧ l.spelled.minutes ≤ 59) ∧ o = l.spelled := by
  rw [value_eq, Offset.ofParts]
  split_ifs with hhours hminutes
  · simp only [false_iff]
    omega
  · simp only [false_iff]
    omega
  · rw [Except.ok.injEq, and_iff_right ⟨by omega, by omega⟩, eq_comm]

/-- Otherwise the hours are reported, or the minutes when the hours are in
range. -/
theorem value_eq_error_iff {l : OffsetLiteral} {e : TemporalError} :
    l.value = .error e
      ↔ (23 < l.spelled.hours ∧
          e = .invalid .offsetHours (toString l.spelled.hours) (.between 0 23)) ∨
        (l.spelled.hours ≤ 23 ∧ 59 < l.spelled.minutes ∧
          e = .invalid .offsetMinutes (toString l.spelled.minutes) (.between 0 59)) := by
  rw [value_eq, Offset.ofParts]
  split_ifs with hhours hminutes
  · rw [Except.error.injEq, eq_comm]
    exact ⟨fun h => .inl ⟨hhours, h⟩, fun h => h.elim And.right fun h => by omega⟩
  · rw [Except.error.injEq, eq_comm]
    exact ⟨fun h => .inr ⟨by omega, hminutes, h⟩, fun h => h.elim (fun h => by omega) (·.2.2)⟩
  · simp only [false_iff]
    omega

end OffsetLiteral

end Criteria

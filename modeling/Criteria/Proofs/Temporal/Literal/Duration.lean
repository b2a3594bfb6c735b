/-
Duration literals.

* `CountLiteral.read?_text`, `CountLiteral.text_append_of_read?`: a count is read
  from its spelling and from no other text;
* `CountLiteral.take_partsText`, `CountLiteral.eq_append_of_take`: so is a count
  with its unit, among counts with other units;
* `DurationLiteral.read?_eq_some_iff`: a duration literal is read from its
  spelling and from no other text, and `Duration.parses` says that the parser
  works on these literals;
* `Duration.parse_iff_counts`: so exactly the spellings of duration literals are
  parsed, to what they mean, or fail with the first count that fits in no word;
* `Duration.exists_literal`: the written form of a duration is the spelling of a
  literal that means it;
* `Duration.parse_leftInverse_text`: so written forms are parsed back.
-/
import Criteria.Proofs.Temporal.Literal.Counts
import Criteria.Proofs.Temporal.Literal.Parsing
import Criteria.Proofs.Text.Group
import Mathlib.Tactic.SplitIfs

namespace Criteria

/-! ### Counts -/

namespace CountLiteral

/-- A count is read from its spelling, up to a character that is no digit. -/
lemma read?_text (l : CountLiteral) {cs : List Char}
    (h : ∀ c, cs.head? = some c → Digit.ofChar? c = none) :
    read? (l.text ++ cs) = some (l, cs) := by
  obtain ⟨sign, digits, hdigits⟩ := l
  obtain ⟨d, ds, rfl⟩ := List.exists_cons_of_ne_nil hdigits
  have hsplit : Sign.split (text ⟨sign, d :: ds, hdigits⟩ ++ cs)
      = (sign, (d :: ds).map Digit.char ++ cs) := by
    rw [text, List.append_assoc]
    refine Sign.split_append fun c hc => ?_
    obtain rfl : d.char = c := Option.some.inj hc
    exact ⟨Digit.char_ne rfl d, Digit.char_ne rfl d⟩
  rw [read?, hsplit]
  simp only [Digit.span_map_char h, dif_pos hdigits]

/-- What is read as a count spells it. -/
lemma text_append_of_read? {cs rest : List Char} {l : CountLiteral}
    (h : read? cs = some (l, rest)) : l.text ++ rest = cs := by
  have hsplit := Sign.text_append_split cs
  rw [read?] at h
  generalize Sign.split cs = parts at h hsplit
  obtain ⟨sign, digits⟩ := parts
  simp only at h hsplit
  split_ifs at h with hdigits
  obtain ⟨rfl, rfl⟩ := Prod.mk.inj (Option.some.inj h)
  rw [text, List.append_assoc, Digit.map_char_append_span, hsplit]

/-! ### Counts with units -/

/-- The spelling of counts with their units, one after the other. -/
def partsText (parts : List (Option CountLiteral × Char)) : List Char :=
  parts.flatMap fun part => unitText part.1 part.2

@[simp] lemma partsText_nil : partsText [] = [] := rfl

@[simp] lemma partsText_cons (l : Option CountLiteral) (unit : Char)
    (parts : List (Option CountLiteral × Char)) :
    partsText ((l, unit) :: parts) = unitText l unit ++ partsText parts := rfl

lemma read?_text_unit (l : CountLiteral) {unit : Char} (h : Digit.ofChar? unit = none)
    (cs : List Char) : read? (l.text ++ unit :: cs) = some (l, unit :: cs) :=
  l.read?_text fun _ hc => Option.some.inj hc ▸ h

/-- No count is taken where only counts with other units stand. -/
lemma take_partsText_of_ne {unit : Char} {parts : List (Option CountLiteral × Char)}
    (h : ∀ part ∈ parts, part.2 ≠ unit ∧ Digit.ofChar? part.2 = none) :
    take unit (partsText parts) = (none, partsText parts) := by
  induction parts with
  | nil => rfl
  | cons part parts ih =>
      obtain ⟨l, other⟩ := part
      obtain ⟨⟨hne, hdigit⟩, hparts⟩ := List.forall_mem_cons.mp h
      cases l with
      | none => exact ih hparts
      | some l =>
          have hread := l.read?_text_unit hdigit (partsText parts)
          rw [partsText_cons, unitText, List.append_assoc, List.singleton_append, take, hread]
          exact if_neg hne

/-- A count with its unit is taken from its spelling, in front of counts with
other units. -/
lemma take_partsText (unit : Char) (l : Option CountLiteral)
    (parts : List (Option CountLiteral × Char)) (hunit : Digit.ofChar? unit = none)
    (h : ∀ part ∈ parts, part.2 ≠ unit ∧ Digit.ofChar? part.2 = none) :
    take unit (unitText l unit ++ partsText parts) = (l, partsText parts) := by
  cases l with
  | none => exact take_partsText_of_ne h
  | some l =>
      have hread := l.read?_text_unit hunit (partsText parts)
      rw [unitText, List.append_assoc, List.singleton_append, take, hread]
      exact if_pos rfl

/-- The count that is taken and what follows it make up the text. -/
lemma eq_append_of_take {unit : Char} {cs rest : List Char} {l : Option CountLiteral}
    (h : take unit cs = (l, rest)) : cs = unitText l unit ++ rest := by
  rw [take.eq_def] at h
  split at h
  · rename_i count c tail hread
    split_ifs at h with hunit
    · obtain ⟨rfl, rfl⟩ := Prod.mk.inj h
      rw [← text_append_of_read? hread, hunit, unitText, List.append_assoc, List.singleton_append]
    · obtain ⟨rfl, rfl⟩ := Prod.mk.inj h
      rfl
  · obtain ⟨rfl, rfl⟩ := Prod.mk.inj h
    rfl

end CountLiteral

/-! ### Duration literals -/

namespace ClockLiteral

lemma text_eq (l : ClockLiteral) :
    l.text = CountLiteral.partsText [(l.hours, 'H'), (l.minutes, 'M'), (l.seconds, 'S')] := by
  simp [text]

lemma read?_text (l : ClockLiteral) : read? l.text = some l := by
  have hhours := CountLiteral.take_partsText 'H' l.hours
    [(l.minutes, 'M'), (l.seconds, 'S')] rfl (by simp [Digit.ofChar?])
  have hminutes := CountLiteral.take_partsText 'M' l.minutes
    [(l.seconds, 'S')] rfl (by simp [Digit.ofChar?])
  have hseconds := CountLiteral.take_partsText 'S' l.seconds
    [] rfl (by simp)
  simp only [CountLiteral.partsText_cons] at hhours hminutes hseconds
  rw [text_eq, read?]
  simp only [CountLiteral.partsText_cons, hhours, hminutes, hseconds]
  rfl

/-- A clock part is read from its spelling and from no other text. -/
lemma read?_eq_some_iff {cs : List Char} {l : ClockLiteral} : read? cs = some l ↔ cs = l.text := by
  constructor
  · intro h
    rcases hhours : CountLiteral.take 'H' cs with ⟨hours, cs₁⟩
    rcases hminutes : CountLiteral.take 'M' cs₁ with ⟨minutes, cs₂⟩
    rcases hseconds : CountLiteral.take 'S' cs₂ with ⟨seconds, cs₃⟩
    rw [read?] at h
    simp only [hhours, hminutes, hseconds] at h
    split_ifs at h with hnil
    obtain rfl := Option.some.inj h
    rw [CountLiteral.eq_append_of_take hhours, CountLiteral.eq_append_of_take hminutes,
      CountLiteral.eq_append_of_take hseconds, hnil]
    simp [text]
  · rintro rfl
    exact read?_text l

end ClockLiteral

namespace DurationLiteral

lemma dateText_eq (l : DurationLiteral) :
    l.dateText = CountLiteral.partsText
      [(l.years, 'Y'), (l.months, 'M'), (l.weeks, 'W'), (l.days, 'D')] := by
  simp [dateText]

lemma readDate?_dateText (l : DurationLiteral) : readDate? l.clock l.dateText = some l := by
  have hyears := CountLiteral.take_partsText 'Y' l.years
    [(l.months, 'M'), (l.weeks, 'W'), (l.days, 'D')] rfl (by simp [Digit.ofChar?])
  have hmonths := CountLiteral.take_partsText 'M' l.months
    [(l.weeks, 'W'), (l.days, 'D')] rfl (by simp [Digit.ofChar?])
  have hweeks := CountLiteral.take_partsText 'W' l.weeks
    [(l.days, 'D')] rfl (by simp [Digit.ofChar?])
  have hdays := CountLiteral.take_partsText 'D' l.days
    [] rfl (by simp)
  simp only [CountLiteral.partsText_cons] at hyears hmonths hweeks hdays
  rw [dateText_eq, readDate?]
  simp only [CountLiteral.partsText_cons, hyears, hmonths, hweeks, hdays]
  rfl

/-- What is read as a calendar part spells it, and the clock part is added. -/
lemma eq_dateText_of_readDate? {clock : Option ClockLiteral} {cs : List Char}
    {l : DurationLiteral} (h : readDate? clock cs = some l) :
    cs = l.dateText ∧ l.clock = clock := by
  rcases hyears : CountLiteral.take 'Y' cs with ⟨years, cs₁⟩
  rcases hmonths : CountLiteral.take 'M' cs₁ with ⟨months, cs₂⟩
  rcases hweeks : CountLiteral.take 'W' cs₂ with ⟨weeks, cs₃⟩
  rcases hdays : CountLiteral.take 'D' cs₃ with ⟨days, cs₄⟩
  rw [readDate?] at h
  simp only [hyears, hmonths, hweeks, hdays] at h
  split_ifs at h with hnil
  obtain rfl := Option.some.inj h
  rw [CountLiteral.eq_append_of_take hyears, CountLiteral.eq_append_of_take hmonths,
    CountLiteral.eq_append_of_take hweeks, CountLiteral.eq_append_of_take hdays, hnil]
  simp [dateText]

/-- The letter before the clock part is no character of a count. -/
lemma ne_mark_of_mem_countText (l : CountLiteral) : ∀ c ∈ l.text, c ≠ 'T' := by
  obtain ⟨sign, digits, -⟩ := l
  intro c hc
  rw [CountLiteral.text, List.mem_append] at hc
  obtain hsign | hdigit := hc
  · revert hsign c
    obtain _ | _ | _ := sign <;> simp [Sign.text, Sign.char]
  · obtain ⟨d, -, rfl⟩ := List.mem_map.mp hdigit
    exact Digit.char_ne rfl d

/-- The letter before the clock part does not occur in front of it. -/
lemma ne_mark_of_mem_dateText (l : DurationLiteral) : ∀ c ∈ l.dateText, c ≠ 'T' := by
  have hpart : ∀ (count : Option CountLiteral) (unit : Char), unit ≠ 'T' →
      ∀ c ∈ CountLiteral.unitText count unit, c ≠ 'T' := by
    intro count unit hunit c hc
    cases count with
    | none => simp [CountLiteral.unitText] at hc
    | some count =>
        rw [CountLiteral.unitText, List.mem_append, List.mem_singleton] at hc
        obtain hc | rfl := hc
        · exact ne_mark_of_mem_countText count c hc
        · exact hunit
  intro c hc
  simp only [dateText, List.mem_append] at hc
  obtain ((hc | hc) | hc) | hc := hc
  · exact hpart _ _ (by decide) c hc
  · exact hpart _ _ (by decide) c hc
  · exact hpart _ _ (by decide) c hc
  · exact hpart _ _ (by decide) c hc

/-- The spelling of the clock part with the letter before it. -/
def clockText (l : DurationLiteral) : List Char := l.clock.elim [] fun c => 'T' :: c.text

lemma text_eq (l : DurationLiteral) : l.text = 'P' :: (l.dateText ++ l.clockText) := by
  obtain ⟨years, months, weeks, days, clock⟩ := l
  cases clock <;> rfl

/-- The calendar part is cut off at the letter before the clock part. -/
lemma span_text (l : DurationLiteral) :
    (l.dateText ++ l.clockText).takeWhile (· ≠ 'T') = l.dateText ∧
      (l.dateText ++ l.clockText).dropWhile (· ≠ 'T') = l.clockText := by
  have hdate : ∀ c ∈ l.dateText, decide (c ≠ 'T') = true := by
    simpa using l.ne_mark_of_mem_dateText
  rw [List.takeWhile_append_of_pos hdate, List.dropWhile_append_of_pos hdate, clockText]
  cases l.clock <;> simp

lemma read?_text (l : DurationLiteral) : read? l.text = some l := by
  obtain ⟨htake, hdrop⟩ := l.span_text
  have hdate := l.readDate?_dateText
  rw [text_eq, read?, hdrop, htake]
  cases hclock : l.clock with
  | none =>
      rw [hclock] at hdate
      simpa [clockText, hclock] using hdate
  | some clock =>
      rw [hclock] at hdate
      simp [clockText, hclock, ClockLiteral.read?_text, hdate]

/-- A duration literal is read from its spelling and from no other text. -/
theorem read?_eq_some_iff {cs : List Char} {l : DurationLiteral} :
    read? cs = some l ↔ cs = l.text := by
  constructor
  · intro h
    rw [read?.eq_def] at h
    split at h
    · rename_i cs
      split at h
      · rename_i hdrop
        obtain ⟨rfl, hclock⟩ := eq_dateText_of_readDate? h
        simp [text_eq, clockText, hclock]
      · rename_i c rest hdrop
        have hcut := List.takeWhile_append_dropWhile (p := fun c => decide (c ≠ 'T')) (l := cs)
        have hmark := List.head?_dropWhile_not (fun c => decide (c ≠ 'T')) cs
        rw [hdrop] at hcut hmark
        obtain rfl : c = 'T' := by simpa using hmark
        split at h
        · rename_i clock hclock
          obtain ⟨hdate, hl⟩ := eq_dateText_of_readDate? h
          rw [text_eq, clockText, hl, ← hdate, Option.elim_some,
            ← ClockLiteral.read?_eq_some_iff.mp hclock, hcut]
        · exact absurd h (by simp)
    · exact absurd h (by simp)
  · rintro rfl
    exact read?_text l

/-- No text is the spelling of two literals. -/
lemma text_inj {l l' : DurationLiteral} (h : l.text = l'.text) : l = l' := by
  have hread := read?_eq_some_iff.mpr h
  rw [read?_text] at hread
  exact Option.some.inj hread

end DurationLiteral

/-! ### Parsing -/

/-- The parser works on duration literals. -/
theorem Duration.parses :
    Grammar.duration.Parses parse DurationLiteral.text DurationLiteral.value :=
  Grammar.parses_of_read? (fun h => by rw [parse, h]) (fun h => by rw [parse, h])
    DurationLiteral.read?_eq_some_iff DurationLiteral.component_of_value_error

/-- **Parsing durations.** A text is malformed exactly when it spells no duration
literal, and it spells one at most. The spelling of a literal is parsed exactly when
all numbers that are written fit in words, to the duration of these numbers, part by
part; otherwise the error is the first number that does not fit, as it is written. -/
theorem Duration.parse_iff_counts (s : String) :
    (∀ grammar input, parse s = .error (.malformed grammar input)
      ↔ grammar = .duration ∧ input = s ∧ ¬ ∃ l : DurationLiteral, s.toList = l.text) ∧
    ∀ l : DurationLiteral, s.toList = l.text →
      (∀ l' : DurationLiteral, s.toList = l'.text → l' = l) ∧
      ((∃ d, parse s = .ok d) ↔ l.Fits) ∧
      (∀ d, parse s = .ok d ↔ l.Means d) ∧
      ∀ e, parse s = .error e ↔ l.Fault e := by
  refine ⟨fun _ _ => parses.eq_malformed_iff, ?_⟩
  intro l hl
  rw [parses.of_text hl]
  exact ⟨fun l' hl' => DurationLiteral.text_inj (hl'.symm.trans hl),
    DurationLiteral.exists_value_eq_ok_iff, fun _ => DurationLiteral.value_eq_ok_iff,
    fun _ => DurationLiteral.value_eq_error_iff⟩

/-- Twelve months, written with a sign and a zero, and the least word of minutes; two
numbers that do not fit, of which the minutes come first; and a fraction, which no
count has. -/
theorem Duration.parse_iff_counts_limits :
    parse "P+012MT-9223372036854775808M"
      = .ok ⟨none, some 12, none, none, none, some (-9223372036854775808), none⟩ ∧
    parse "P1YT+9223372036854775808M99999999999999999999S"
      = .error (.invalid .minutes "+9223372036854775808" .wordSize) ∧
    parse "P1.5Y" = .error (.malformed .duration "P1.5Y") := by
  obtain ⟨-, hleast⟩ := parse_iff_counts "P+012MT-9223372036854775808M"
  obtain ⟨-, hover⟩ := parse_iff_counts "P1YT+9223372036854775808M99999999999999999999S"
  obtain ⟨-, -, hmeans, -⟩ := hleast ⟨none, some ⟨some .plus, [0, 1, 2], by decide⟩, none, none,
    some ⟨none, some ⟨some .minus, [9, 2, 2, 3, 3, 7, 2, 0, 3, 6, 8, 5, 4, 7, 7, 5, 8, 0, 8],
      by decide⟩, none⟩⟩ (by decide)
  obtain ⟨-, -, -, hfault⟩ := hover ⟨some ⟨none, [1], by decide⟩, none, none, none,
    some ⟨none, some ⟨some .plus, [9, 2, 2, 3, 3, 7, 2, 0, 3, 6, 8, 5, 4, 7, 7, 5, 8, 0, 8],
      by decide⟩, some ⟨none, List.replicate 20 9, by decide⟩⟩⟩ (by decide)
  have hnone : DurationLiteral.read? "P1.5Y".toList = none := rfl
  refine ⟨(hmeans _).mpr ?_, (hfault _).mpr ?_, ?_⟩
  · simp only [DurationLiteral.Means, DurationLiteral.counts, counts, List.forall₂_cons]
    exact ⟨by decide, by decide, by decide, by decide, by decide, by decide, by decide, .nil⟩
  · refine ⟨[(.years, _), (.months, _), (.weeks, _), (.days, _), (.hours, _)], .minutes,
      _, [_], rfl, ?_, by decide, by decide⟩
    simp only [List.mem_cons, List.not_mem_nil, or_false, forall_eq_or_imp, forall_eq,
      Option.bind_some, CountLiteral.fits_some, CountLiteral.fits_none, and_true]
    decide
  · refine ((parse_iff_counts "P1.5Y").1 _ _).mpr ⟨rfl, rfl, ?_⟩
    rintro ⟨l, hl⟩
    rw [DurationLiteral.read?_eq_some_iff.mpr hl] at hnone
    cases hnone

/-! ### Written forms -/

/-- The written form of a count spells it. -/
lemma CountLiteral.exists_literal (n : Int64) :
    ∃ l : CountLiteral, (toString n.toInt).toList = l.text ∧ n.toInt = l.number := by
  refine ⟨⟨Sign.ofInt n.toInt, Digit.ofNat n.toInt.natAbs, Digit.ofNat_ne_nil _⟩,
    Sign.toList_toString_int n.toInt, ?_⟩
  rw [number, Digit.value_ofNat, Sign.apply_ofInt]

/-- The written form of a count with its letter spells it, also when it is left
out. -/
lemma CountLiteral.exists_part (c : Option Int64) :
    ∃ l : Option CountLiteral,
      (∀ letter unit, letter.toList = [unit] →
        (Duration.partText c letter).toList = unitText l unit) ∧
      c.map Int64.toInt = l.map number := by
  cases c with
  | none => exact ⟨none, fun _ _ _ => rfl, rfl⟩
  | some n =>
      obtain ⟨l, htext, hnumber⟩ := exists_literal n
      refine ⟨some l, fun letter unit hletter => ?_, congrArg some hnumber⟩
      rw [Duration.partText, String.toList_append, htext, hletter, unitText]

/-- The written form of a clock part spells it, and nothing stands for one
without counts. -/
lemma ClockLiteral.exists_literal (hours minutes seconds : Option Int64) :
    ∃ clock : Option ClockLiteral,
      (if hours.isSome || minutes.isSome || seconds.isSome then
          "T" ++ Duration.partText hours "H" ++ Duration.partText minutes "M"
            ++ Duration.partText seconds "S"
        else "").toList = clock.elim [] (fun c => 'T' :: c.text) ∧
      hours.map Int64.toInt = (clock.bind ClockLiteral.hours).map CountLiteral.number ∧
      minutes.map Int64.toInt = (clock.bind ClockLiteral.minutes).map CountLiteral.number ∧
      seconds.map Int64.toInt = (clock.bind ClockLiteral.seconds).map CountLiteral.number := by
  by_cases hclock : (hours.isSome || minutes.isSome || seconds.isSome) = true
  · obtain ⟨h, hh, hhours⟩ := CountLiteral.exists_part hours
    obtain ⟨m, hm, hminutes⟩ := CountLiteral.exists_part minutes
    obtain ⟨s, hs, hseconds⟩ := CountLiteral.exists_part seconds
    refine ⟨some ⟨h, m, s⟩, ?_, hhours, hminutes, hseconds⟩
    rw [if_pos hclock]
    simp [text, hh "H" 'H' rfl, hm "M" 'M' rfl, hs "S" 'S' rfl]
  · obtain ⟨rfl, rfl, rfl⟩ : hours = none ∧ minutes = none ∧ seconds = none := by
      simpa [and_assoc] using hclock
    exact ⟨none, rfl, rfl, rfl, rfl⟩

namespace Duration

/-- The written form of a duration is the spelling of a literal that means it. -/
theorem exists_literal (d : Duration) :
    ∃ l : DurationLiteral, d.text.toList = l.text ∧ l.value = .ok d := by
  obtain ⟨years, hyears, hyears'⟩ := CountLiteral.exists_part d.years
  obtain ⟨months, hmonths, hmonths'⟩ := CountLiteral.exists_part d.months
  obtain ⟨weeks, hweeks, hweeks'⟩ := CountLiteral.exists_part d.weeks
  obtain ⟨days, hdays, hdays'⟩ := CountLiteral.exists_part d.days
  obtain ⟨clock, hclock, hhours, hminutes, hseconds⟩ :=
    ClockLiteral.exists_literal d.hours d.minutes d.seconds
  have hmeans : DurationLiteral.Means ⟨years, months, weeks, days, clock⟩ d :=
    .cons ⟨rfl, hyears'⟩ (.cons ⟨rfl, hmonths'⟩ (.cons ⟨rfl, hweeks'⟩ (.cons ⟨rfl, hdays'⟩
      (.cons ⟨rfl, hhours⟩ (.cons ⟨rfl, hminutes⟩ (.cons ⟨rfl, hseconds⟩ .nil))))))
  refine ⟨⟨years, months, weeks, days, clock⟩, ?_, DurationLiteral.value_eq_ok_iff.mpr hmeans⟩
  rw [DurationLiteral.text_eq, DurationLiteral.clockText, ← hclock, text]
  simp [DurationLiteral.dateText, hyears "Y" 'Y' rfl, hmonths "M" 'M' rfl, hweeks "W" 'W' rfl,
    hdays "D" 'D' rfl]

/-- The written form of a duration is parsed back. -/
theorem parse_text (d : Duration) : parse d.text = .ok d := by
  obtain ⟨l, htext, hvalue⟩ := d.exists_literal
  rw [parses.of_text htext, hvalue]

/-- **Durations are parsed back from their written forms,** whichever counts are
given and whatever words they are: the written form is the spelling of a literal
that means the duration. So a text that is parsed, written and parsed again means
what it meant at first. -/
theorem parse_leftInverse_text :
    (∀ d : Duration, (∃ l : DurationLiteral, d.text.toList = l.text ∧ l.value = .ok d) ∧
      parse d.text = .ok d) ∧
    ∀ (s : String) (d : Duration), parse s = .ok d → parse d.text = parse s := by
  refine ⟨fun d => ⟨d.exists_literal, parse_text d⟩, fun s d h => ?_⟩
  rw [h, parse_text]

end Duration

/-- Months and minutes, a negative count, one of zero, and signs and digits that
are written without need. -/
def DurationLiteral.mixedCounts : DurationLiteral :=
  ⟨some ⟨some .minus, [1, 2], by decide⟩, some ⟨some .minus, [0], by decide⟩, none, none,
    some ⟨none, some ⟨some .plus, [0, 0, 7], by decide⟩, none⟩⟩

/-- The counts are written without what they do not need, and so parsed back. -/
theorem Duration.parse_leftInverse_text_counts :
    parse "P-12Y-0MT+007M" = .ok ⟨some (-12), some 0, none, none, none, some 7, none⟩ ∧
    parse "P-12Y0MT7M" = parse "P-12Y-0MT+007M" := by
  have hparse : parse "P-12Y-0MT+007M"
      = .ok ⟨some (-12), some 0, none, none, none, some 7, none⟩ := by
    rw [parses.of_text (l := .mixedCounts) (by decide)]
    rfl
  have htext : text ⟨some (-12), some 0, none, none, none, some 7, none⟩ = "P-12Y0MT7M" := by
    decide
  exact ⟨hparse, htext ▸ parse_leftInverse_text.2 _ _ hparse⟩

end Criteria

/-
What the counts of duration literals mean.

* `DurationLiteral.counts`, `Duration.counts`: the counts of a literal and of a
  duration, from the years to the seconds;
* `CountLiteral.value?_eq_ok_iff`, `CountLiteral.value?_eq_error_iff`: a count means
  the number that is written when this fits in a word, and is reported as it is
  written otherwise;
* `DurationLiteral.value_eq_ok_iff`, `DurationLiteral.value_eq_error_iff`: a literal
  means the duration of its numbers (`DurationLiteral.Means`) or fails with the
  first of its counts that does not fit (`DurationLiteral.Fault`).
-/
import Criteria.Proofs.Result
import Criteria.Proofs.Temporal.Shift
import Criteria.Temporal.Literal.Duration

namespace Criteria

/-! ### Counts -/

namespace CountLiteral

variable {part : Component} {l : CountLiteral} {c : Option CountLiteral}

/-- A number that is written, if one is, fits in a word. -/
def Fits (c : Option CountLiteral) : Prop := ∀ l, c = some l → IsWord l.number

@[simp] lemma fits_none : Fits none := fun _ h => by cases h

@[simp] lemma fits_some : Fits (some l) ↔ IsWord l.number := by
  simp [Fits]

lemma value_of_isWord (h : IsWord l.number) : l.value part = .ok (Int64.ofInt l.number) := by
  rw [value, word?_eq_some_iff.mpr ⟨rfl, h⟩]

lemma value_of_not_isWord (h : ¬ IsWord l.number) :
    l.value part = .error (.invalid part (String.ofList l.text) .wordSize) := by
  rw [value, word?_eq_none_iff.mpr h]

lemma value_eq_ok_iff {n : Int64} : l.value part = .ok n ↔ n.toInt = l.number := by
  by_cases hfits : IsWord l.number
  · obtain ⟨hmin, hmax⟩ := hfits
    rw [value_of_isWord ⟨hmin, hmax⟩, Except.ok.injEq]
    constructor
    · rintro rfl
      exact Int64.toInt_ofInt_of_le (by omega) (by omega)
    · intro hn
      rw [← hn, Int64.ofInt_toInt]
  · rw [value_of_not_isWord hfits]
    simp only [reduceCtorEq, false_iff]
    intro hn
    exact hfits (hn ▸ isWord_toInt n)

lemma value_eq_error_iff {e : TemporalError} :
    l.value part = .error e
      ↔ ¬ IsWord l.number ∧ e = .invalid part (String.ofList l.text) .wordSize := by
  by_cases hfits : IsWord l.number
  · simp [value_of_isWord hfits, hfits]
  · simp [value_of_not_isWord hfits, hfits, eq_comm]

/-- A count that may be left out means the number that is written, if one is. -/
lemma value?_eq_ok_iff {n : Option Int64} :
    value? part c = .ok n ↔ n.map Int64.toInt = c.map number := by
  cases c with
  | none => cases n <;> simp [value?]
  | some l => cases n <;> simp [value?, except_map_eq_ok_iff, value_eq_ok_iff]

/-- Otherwise it is reported as it is written. -/
lemma value?_eq_error_iff {e : TemporalError} :
    value? part c = .error e
      ↔ ∃ l, c = some l ∧ ¬ IsWord l.number ∧
        e = .invalid part (String.ofList l.text) .wordSize := by
  cases c with
  | none => simp [value?]
  | some l => simp [value?, except_map_eq_error_iff, value_eq_error_iff]

end CountLiteral

/-! ### The counts of a literal and of a duration -/

/-- The counts that are given, with the parts of a duration that they count. -/
def Duration.counts (d : Duration) : List (Component × Option Int64) :=
  [(.years, d.years), (.months, d.months), (.weeks, d.weeks), (.days, d.days),
    (.hours, d.hours), (.minutes, d.minutes), (.seconds, d.seconds)]

/-- A duration is determined by its counts. -/
lemma Duration.counts_inj {d e : Duration} (h : d.counts = e.counts) : d = e := by
  obtain ⟨years, months, weeks, days, hours, minutes, seconds⟩ := d
  obtain ⟨years', months', weeks', days', hours', minutes', seconds'⟩ := e
  simpa [counts] using h

namespace DurationLiteral

variable {l : DurationLiteral} {d : Duration} {e : TemporalError}

/-- The counts that are written, with the parts of a duration that they count: those
in front of the letter `T` from the years to the days, and those behind it from the
hours to the seconds. -/
def counts (l : DurationLiteral) : List (Component × Option CountLiteral) :=
  [(.years, l.years), (.months, l.months), (.weeks, l.weeks), (.days, l.days),
    (.hours, l.clock.bind ClockLiteral.hours), (.minutes, l.clock.bind ClockLiteral.minutes),
    (.seconds, l.clock.bind ClockLiteral.seconds)]

/-- All numbers that are written fit in words. -/
def Fits (l : DurationLiteral) : Prop := ∀ c ∈ l.counts, CountLiteral.Fits c.2

/-- A duration has the numbers that are written as its counts, part by part, and no
count where none is written. -/
def Means (l : DurationLiteral) (d : Duration) : Prop :=
  List.Forall₂ (fun c c' => c'.1 = c.1 ∧ c'.2.map Int64.toInt = c.2.map CountLiteral.number)
    l.counts d.counts

/-- The first of the counts that does not fit in a word is reported as it is
written. -/
def Fault (l : DurationLiteral) (e : TemporalError) : Prop :=
  ∃ before part count after, l.counts = before ++ (part, some count) :: after ∧
    (∀ c ∈ before, CountLiteral.Fits c.2) ∧
    ¬ IsWord count.number ∧ e = .invalid part (String.ofList count.text) .wordSize

/-- The value of a count that is written, with its part. -/
def countValue (c : Component × Option CountLiteral) :
    Except TemporalError (Component × Option Int64) :=
  (CountLiteral.value? c.1 c.2).map (Prod.mk c.1)

lemma countValue_eq_ok_iff {c : Component × Option CountLiteral}
    {c' : Component × Option Int64} :
    countValue c = .ok c' ↔ c'.1 = c.1 ∧ c'.2.map Int64.toInt = c.2.map CountLiteral.number := by
  obtain ⟨part, n⟩ := c'
  rw [countValue, except_map_eq_ok_iff]
  simp only [CountLiteral.value?_eq_ok_iff, Prod.mk.injEq]
  constructor
  · rintro ⟨_, hn, rfl, rfl⟩
    exact ⟨rfl, hn⟩
  · rintro ⟨rfl, hn⟩
    exact ⟨n, hn, rfl, rfl⟩

/-- The counts of a literal are looked at one after the other. -/
lemma map_counts_value (l : DurationLiteral) :
    l.value.map Duration.counts = l.counts.mapM countValue := by
  simp only [value, counts, List.mapM_cons, List.mapM_nil, countValue]
  rcases CountLiteral.value? .years l.years with e | years
  · rfl
  rcases CountLiteral.value? .months l.months with e | months
  · rfl
  rcases CountLiteral.value? .weeks l.weeks with e | weeks
  · rfl
  rcases CountLiteral.value? .days l.days with e | days
  · rfl
  rcases CountLiteral.value? .hours (l.clock.bind ClockLiteral.hours) with e | hours
  · rfl
  rcases CountLiteral.value? .minutes (l.clock.bind ClockLiteral.minutes) with e | minutes
  · rfl
  rcases CountLiteral.value? .seconds (l.clock.bind ClockLiteral.seconds) with e | seconds
  · rfl
  rfl

/-- A literal means the duration of the numbers that are written. -/
theorem value_eq_ok_iff : l.value = .ok d ↔ l.Means d := by
  have hcounts : l.value = .ok d ↔ l.value.map Duration.counts = .ok d.counts := by
    rw [except_map_eq_ok_iff]
    exact ⟨fun h => ⟨d, h, rfl⟩, fun ⟨_, h, hd⟩ => Duration.counts_inj hd ▸ h⟩
  rw [hcounts, map_counts_value, except_mapM_eq_ok_iff_forall₂, Means]
  simp only [countValue_eq_ok_iff]

lemma countValue_eq_error_iff {c : Component × Option CountLiteral} :
    countValue c = .error e
      ↔ ∃ count, c.2 = some count ∧ ¬ IsWord count.number ∧
        e = .invalid c.1 (String.ofList count.text) .wordSize := by
  rw [countValue, except_map_eq_error_iff, CountLiteral.value?_eq_error_iff]

lemma exists_countValue_iff {c : Component × Option CountLiteral} :
    (∃ c', countValue c = .ok c') ↔ CountLiteral.Fits c.2 := by
  constructor
  · rintro ⟨c', hc⟩ count hcount
    obtain ⟨-, hn⟩ := countValue_eq_ok_iff.mp hc
    rw [hcount, Option.map_some, Option.map_eq_some_iff] at hn
    obtain ⟨n, -, hn⟩ := hn
    exact hn ▸ isWord_toInt n
  · intro hfits
    cases hvalue : countValue c with
    | ok c' => exact ⟨c', rfl⟩
    | error e =>
        obtain ⟨count, hcount, hnot, -⟩ := countValue_eq_error_iff.mp hvalue
        exact absurd (hfits count hcount) hnot

/-- A literal fails with the first count that does not fit in a word. -/
theorem value_eq_error_iff : l.value = .error e ↔ l.Fault e := by
  have hcounts : l.value = .error e ↔ l.value.map Duration.counts = .error e :=
    except_map_eq_error_iff.symm
  rw [hcounts, map_counts_value, except_mapM_eq_error_iff]
  constructor
  · rintro ⟨before, ⟨part, c⟩, after, hl, hbefore, hc⟩
    obtain ⟨count, rfl, hnot, rfl⟩ := countValue_eq_error_iff.mp hc
    exact ⟨before, part, count, after, hl,
      fun c hc => exists_countValue_iff.mp (hbefore c hc), hnot, rfl⟩
  · rintro ⟨before, part, count, after, hl, hbefore, hnot, rfl⟩
    exact ⟨before, _, after, hl, fun c hc => exists_countValue_iff.mpr (hbefore c hc),
      countValue_eq_error_iff.mpr ⟨count, rfl, hnot, rfl⟩⟩

/-- A literal means a duration when all numbers that are written fit in words. -/
lemma exists_value_eq_ok_iff : (∃ d, l.value = .ok d) ↔ l.Fits := by
  constructor
  · rintro ⟨d, hd⟩ c hc
    obtain ⟨c', -, hpart, hn⟩ := exists_left_of_forall₂ (value_eq_ok_iff.mp hd).flip hc
    exact exists_countValue_iff.mp ⟨c', countValue_eq_ok_iff.mpr ⟨hpart, hn⟩⟩
  · intro hfits
    cases hvalue : l.value with
    | ok d => exact ⟨d, rfl⟩
    | error e =>
        obtain ⟨before, part, count, after, hl, -, hnot, -⟩ := value_eq_error_iff.mp hvalue
        have hcount : (part, some count) ∈ l.counts := by simp [hl]
        exact absurd (hfits _ hcount count rfl) hnot

/-- A literal that means no duration has a count at fault. -/
lemma component_of_value_error (h : l.value = .error e) : e.component? ≠ none := by
  obtain ⟨-, part, count, -, -, -, -, rfl⟩ := value_eq_error_iff.mp h
  rw [TemporalError.component?]
  exact Option.some_ne_none part

end DurationLiteral

end Criteria

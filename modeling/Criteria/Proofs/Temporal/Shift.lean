/-
Instants moved by durations.

* `Duration.totalMonths?_eq_some_iff`, `Duration.totalSeconds?_eq_some_iff`: the
  parts of a duration are found when all steps towards them fit in words, and
  then they are those of exact arithmetic;
* `Duration.monthSpan?_eq_some`, `Duration.secondSpan?_eq_some`: the words for the
  spans are large enough for every shift that stays in the supported calendar;
* `Duration.shift?_eq_some_iff`: so an instant is moved by exactly the months and
  then by exactly the seconds.
-/
import Criteria.Proofs.Temporal.Instant
import Criteria.Temporal.Duration
import Mathlib.Algebra.Ring.Int.Defs

namespace Criteria

/-! ### Words -/

/-- An integer fits in a 64-bit signed word. -/
def IsWord (n : Int) : Prop := -9223372036854775808 ≤ n ∧ n < 9223372036854775808

instance (n : Int) : Decidable (IsWord n) := inferInstanceAs (Decidable (_ ∧ _))

lemma word?_eq_some_iff {n m : Int} : word? n = some m ↔ m = n ∧ IsWord n := by
  rw [word?, Option.ite_none_right_eq_some, Option.some.injEq, and_comm, eq_comm]
  rfl

lemma word?_eq_none_iff {n : Int} : word? n = none ↔ ¬ IsWord n := by
  rw [word?, ite_eq_right_iff]
  simp [IsWord]

lemma isWord_toInt (n : Int64) : IsWord n.toInt := by
  have hmin := n.le_toInt
  have hmax := n.toInt_lt
  exact ⟨by omega, by omega⟩

namespace Duration

variable {d : Duration}

/-! ### Months -/

/-- The calendar part in months. -/
def monthTotal (d : Duration) : Int := 12 * count d.years + count d.months

/-- The months are found when neither the product nor the sum leaves the words. -/
theorem totalMonths?_eq_some_iff {m : Int} :
    d.totalMonths? = some m
      ↔ m = d.monthTotal ∧ IsWord (12 * count d.years) ∧ IsWord d.monthTotal := by
  simp only [totalMonths?, Option.bind_eq_bind, Option.bind_eq_some_iff, word?_eq_some_iff]
  rw [monthTotal, Int.mul_comm]
  constructor
  · rintro ⟨_, ⟨rfl, hyears⟩, rfl, hsum⟩
    exact ⟨rfl, hyears, hsum⟩
  · rintro ⟨rfl, hyears, hsum⟩
    exact ⟨_, ⟨rfl, hyears⟩, rfl, hsum⟩

/-! ### Seconds -/

/-- The seconds of each count of the exact part. -/
def secondParts (d : Duration) : List Int :=
  [604800 * count d.weeks, 86400 * count d.days, 3600 * count d.hours, 60 * count d.minutes,
    count d.seconds]

/-- The exact part in seconds. -/
def secondTotal (d : Duration) : Int :=
  604800 * count d.weeks + 86400 * count d.days + 3600 * count d.hours + 60 * count d.minutes
    + count d.seconds

/-- No product leaves the words, and neither does a sum when the products are
added to it one after the other. -/
def SumsFit (sum : Int) (products : List Int) : Prop :=
  (∀ n ∈ products, IsWord n) ∧ ∀ first, first <+: products → IsWord (sum + first.sum)

lemma sumsFit_nil {sum : Int} : SumsFit sum [] ↔ IsWord sum := by
  simp [SumsFit]

lemma sumsFit_cons {sum n : Int} {products : List Int} :
    SumsFit sum (n :: products) ↔ IsWord sum ∧ IsWord n ∧ SumsFit (sum + n) products := by
  rw [SumsFit, SumsFit, List.forall_mem_cons]
  constructor
  · rintro ⟨⟨hn, hproducts⟩, hsums⟩
    refine ⟨by simpa using hsums [] List.nil_prefix, hn, hproducts, fun first hfirst => ?_⟩
    have hsum := hsums (n :: first) ((List.prefix_cons_inj n).mpr hfirst)
    rwa [List.sum_cons, ← Int.add_assoc] at hsum
  · rintro ⟨hsum, hn, hproducts, hsums⟩
    refine ⟨⟨hn, hproducts⟩, fun first hfirst => ?_⟩
    obtain rfl | ⟨first, rfl, hrest⟩ := List.prefix_cons_iff.mp hfirst
    · simpa using hsum
    · rw [List.sum_cons, ← Int.add_assoc]
      exact hsums first hrest

/-- One step of the sum: a product is found and added. -/
lemma addPart_eq_some_iff {sum next : Int} {part : Option Int64 × Int} :
    (do word? (sum + (← word? (count part.1 * part.2)))) = some next
      ↔ next = sum + count part.1 * part.2 ∧ IsWord (count part.1 * part.2) ∧ IsWord next := by
  simp only [Option.bind_eq_bind, Option.bind_eq_some_iff, word?_eq_some_iff]
  constructor
  · rintro ⟨_, ⟨rfl, hproduct⟩, rfl, hnext⟩
    exact ⟨rfl, hproduct, hnext⟩
  · rintro ⟨rfl, hproduct, hnext⟩
    exact ⟨_, ⟨rfl, hproduct⟩, rfl, hnext⟩

/-- All steps of the sum: it is found when no product and no sum on the way
leaves the words. -/
lemma addParts_eq_some_iff {parts : List (Option Int64 × Int)} {sum total : Int}
    (hsum : IsWord sum) :
    parts.foldlM (fun sum part => do word? (sum + (← word? (count part.1 * part.2)))) sum
        = some total
      ↔ total = sum + (parts.map fun part => count part.1 * part.2).sum ∧
        SumsFit sum (parts.map fun part => count part.1 * part.2) := by
  induction parts generalizing sum with
  | nil => simp [sumsFit_nil, hsum, eq_comm]
  | cons part parts ih =>
      rw [List.foldlM_cons, Option.bind_eq_bind, Option.bind_eq_some_iff, List.map_cons,
        List.sum_cons, sumsFit_cons, ← Int.add_assoc]
      constructor
      · rintro ⟨next, hstep, hrest⟩
        obtain ⟨rfl, hproduct, hnext⟩ := addPart_eq_some_iff.mp hstep
        obtain ⟨htotal, hsums⟩ := (ih hnext).mp hrest
        exact ⟨htotal, hsum, hproduct, hsums⟩
      · rintro ⟨htotal, -, hproduct, hsums⟩
        have hnext : IsWord (sum + count part.1 * part.2) := by
          simpa using hsums.2 [] List.nil_prefix
        exact ⟨_, addPart_eq_some_iff.mpr ⟨rfl, hproduct, hnext⟩, (ih hnext).mpr ⟨htotal, hsums⟩⟩

/-- The seconds are found when neither a product nor a sum on the way leaves the
words. -/
theorem totalSeconds?_eq_some_iff {s : Int} :
    d.totalSeconds? = some s ↔ s = d.secondTotal ∧ SumsFit 0 d.secondParts := by
  rw [totalSeconds?, addParts_eq_some_iff (by decide)]
  have hparts : (d.exactParts.map fun part => count part.1 * part.2) = d.secondParts := by
    simp [exactParts, secondParts, Int.mul_comm]
  have htotal : 0 + d.secondParts.sum = d.secondTotal := by
    simp only [secondParts, secondTotal, List.sum_cons, List.sum_nil]
    omega
  rw [hparts, htotal]

/-! ### Spans -/

lemma eq_of_monthSpan? {months m : Int} (h : monthSpan? months = some m) : months = m := by
  rw [monthSpan?] at h
  split_ifs at h
  exact Option.some.inj h

lemma eq_of_secondSpan? {seconds s : Int} (h : secondSpan? seconds = some s) : seconds = s := by
  rw [secondSpan?] at h
  split_ifs at h
  exact Option.some.inj h

/-- The months between two instants fit in the word for months. -/
lemma monthSpan?_eq_some {t u : Instant} {months : Int} (h : t.addMonths? months = some u) :
    monthSpan? months = some months := by
  obtain ⟨hmoves, -⟩ := Instant.addMonths?_eq_some_iff.mp h
  have hmonths := hmoves.monthIndex_eq
  have ht := Date.isSupportedYear_iff.mp t.isSupportedYear_date
  have hu := Date.isSupportedYear_iff.mp u.isSupportedYear_date
  obtain ⟨htmonth, -⟩ := Date.exists_iff.mp t.exists_date
  obtain ⟨humonth, -⟩ := Date.exists_iff.mp u.exists_date
  rw [Date.monthIndex, Date.monthIndex] at hmonths
  exact if_pos (by omega)

/-- The seconds between two instants fit in the word for milliseconds. -/
lemma secondSpan?_eq_some {t u : Instant} {seconds : Int}
    (h : t.addSeconds? seconds = some u) : secondSpan? seconds = some seconds := by
  have hseconds := Instant.addSeconds?_eq_some_iff.mp h
  have ht := And.intro t.min_le t.lt_max
  have hu := And.intro u.min_le u.lt_max
  rw [minSecond, maxSecond, nanosPerSecond] at ht hu
  rw [nanosPerSecond] at hseconds
  exact if_pos (by omega)

/-! ### Shifts -/

/-- An instant is moved by the months, to the day that many months later and at
the same time of day, and from there by the seconds. -/
theorem shift?_eq_some_iff {t u : Instant} :
    d.shift? t = some u
      ↔ ∃ months seconds, d.totalMonths? = some months ∧ d.totalSeconds? = some seconds ∧
        ∃ moved : Instant, t.date.Moves months moved.date ∧ moved.nanosOfDay = t.nanosOfDay ∧
          u.nanos = moved.nanos + seconds * nanosPerSecond := by
  simp only [shift?, Option.bind_eq_bind, Option.bind_eq_some_iff]
  constructor
  · rintro ⟨months, hmonths, months', hspan, moved, hmoved, seconds, hseconds, seconds', hspan', hu⟩
    obtain rfl : months = months' := eq_of_monthSpan? hspan
    obtain rfl : seconds = seconds' := eq_of_secondSpan? hspan'
    obtain ⟨hdate, htime⟩ := Instant.addMonths?_eq_some_iff.mp hmoved
    exact ⟨months, seconds, hmonths, hseconds, moved, hdate, htime,
      Instant.addSeconds?_eq_some_iff.mp hu⟩
  · rintro ⟨months, seconds, hmonths, hseconds, moved, hdate, htime, hu⟩
    have hmoved := Instant.addMonths?_eq_some_iff.mpr ⟨hdate, htime⟩
    have hshifted := Instant.addSeconds?_eq_some_iff.mpr hu
    exact ⟨months, hmonths, months, monthSpan?_eq_some hmoved, moved, hmoved, seconds, hseconds,
      seconds, secondSpan?_eq_some hshifted, hshifted⟩

/-- The nanosecond that a duration leads to by its seconds, from the time of day of
an instant on another day. -/
def endpoint (d : Duration) (t : Instant) (day : Date) : Int :=
  (day.dayNumber - epochDay) * nanosPerDay + t.nanosOfDay + d.secondTotal * nanosPerSecond

/-- The seconds of a duration do not change the part of a second. -/
lemma endpoint_mod_second (d : Duration) (t : Instant) (day : Date) :
    d.endpoint t day % nanosPerSecond = t.nanos % nanosPerSecond := by
  rw [endpoint, t.nanos_eq, nanosPerDay, secondsPerDay, nanosPerSecond]
  omega

/-- The shifts of an instant whose day, moved by the months, is known. -/
lemma shift?_eq_some_iff_of_moves {t u : Instant} {e : Date} (h : t.date.Moves d.monthTotal e) :
    d.shift? t = some u
      ↔ (∃ m, d.totalMonths? = some m) ∧ (∃ s, d.totalSeconds? = some s) ∧
        Date.isSupportedYear e.year = true ∧ u.nanos = d.endpoint t e := by
  rw [shift?_eq_some_iff]
  constructor
  · rintro ⟨m, s, hm, hs, moved, hmoves, htime, hu⟩
    obtain ⟨rfl, -⟩ := totalMonths?_eq_some_iff.mp hm
    obtain ⟨rfl, -⟩ := totalSeconds?_eq_some_iff.mp hs
    obtain rfl : moved.date = e := by
      rw [(Date.moves_iff t.exists_date).mp hmoves, (Date.moves_iff t.exists_date).mp h]
    refine ⟨⟨_, hm⟩, ⟨_, hs⟩, moved.isSupportedYear_date, ?_⟩
    rw [hu, moved.nanos_eq, htime, endpoint]
  · rintro ⟨⟨m, hm⟩, ⟨s, hs⟩, hyear, hu⟩
    obtain ⟨rfl, -⟩ := totalMonths?_eq_some_iff.mp hm
    obtain ⟨rfl, -⟩ := totalSeconds?_eq_some_iff.mp hs
    obtain ⟨moved, hdate, htime⟩ := Instant.exists_of_date h.exists_day t.nanosOfDay_lt hyear
    refine ⟨_, _, hm, hs, moved, hdate ▸ h, htime, ?_⟩
    rw [hu, moved.nanos_eq, hdate, htime, endpoint]

/-- **Shifts are exact.** The months and the seconds of a duration are found when
no step towards them leaves the words, and are then those of exact arithmetic. An
instant is moved when both are found, the day that lies as many months later, on
the same day of the month or on the last one of a shorter month, is in the
supported calendar, and so is the nanosecond that the seconds lead to from the
same time of that day; the result is that nanosecond, in the same part of a
second. -/
theorem shift?_exact (d : Duration) :
    (∀ m, d.totalMonths? = some m ↔
      m = d.monthTotal ∧ IsWord (12 * count d.years) ∧ IsWord d.monthTotal) ∧
    (∀ s, d.totalSeconds? = some s ↔ s = d.secondTotal ∧ SumsFit 0 d.secondParts) ∧
    (∀ t : Instant, ∃ e, ∀ e', t.date.Moves d.monthTotal e' ↔ e' = e) ∧
    ∀ (t : Instant) (e : Date), t.date.Moves d.monthTotal e →
      ((∃ u, d.shift? t = some u) ↔
        (∃ m, d.totalMonths? = some m) ∧ (∃ s, d.totalSeconds? = some s) ∧
        (-262143 ≤ e.year ∧ e.year ≤ 262142) ∧
        (minSecond * nanosPerSecond ≤ d.endpoint t e ∧
          d.endpoint t e < (maxSecond + 1) * nanosPerSecond)) ∧
      ∀ u, d.shift? t = some u →
        u.nanos = d.endpoint t e ∧ u.nanos % nanosPerSecond = t.nanos % nanosPerSecond := by
  refine ⟨fun _ => totalMonths?_eq_some_iff, fun _ => totalSeconds?_eq_some_iff,
    fun t => ⟨_, fun _ => Date.moves_iff t.exists_date⟩, fun t e h => ⟨?_, fun u hu => ?_⟩⟩
  · simp only [shift?_eq_some_iff_of_moves h, Date.isSupportedYear_iff]
    constructor
    · rintro ⟨u, hmonths, hseconds, hyear, hu⟩
      exact ⟨hmonths, hseconds, hyear, hu ▸ ⟨u.min_le, u.lt_max⟩⟩
    · rintro ⟨hmonths, hseconds, hyear, hmin, hmax⟩
      exact ⟨⟨_, hmin, hmax⟩, hmonths, hseconds, hyear, rfl⟩
  · obtain ⟨-, -, -, hnanos⟩ := (shift?_eq_some_iff_of_moves h).mp hu
    exact ⟨hnanos, hnanos ▸ d.endpoint_mod_second t e⟩

end Duration

/-- Half a second after noon on the 31st of January 2024. -/
def Instant.endOfJanuary : Instant := ⟨1706702400500000000, by decide, by decide⟩

/-- A month and a day, less a second. -/
def Duration.monthAndDay : Duration := ⟨none, some 1, none, some 1, none, none, some (-1)⟩

/-- February has 29 days in that year, so a month and a day later it is March. -/
theorem Duration.shift?_exact_leapDay :
    Instant.endOfJanuary.date.Moves monthAndDay.monthTotal ⟨2024, 2, 29⟩ ∧
    ∃ u, monthAndDay.shift? .endOfJanuary = some u ∧ u.nanos = 1709294399500000000 ∧
      u.nanos % nanosPerSecond = 500000000 := by
  have hmoves : Instant.endOfJanuary.date.Moves monthAndDay.monthTotal ⟨2024, 2, 29⟩ :=
    ⟨rfl, by decide, by decide⟩
  have hfit : SumsFit 0 monthAndDay.secondParts := by
    simp only [secondParts, sumsFit_cons, sumsFit_nil]
    decide
  obtain ⟨hmonths, hseconds, -, hshift⟩ := shift?_exact monthAndDay
  obtain ⟨hiff, hresult⟩ := hshift .endOfJanuary _ hmoves
  obtain ⟨u, hu⟩ := hiff.mpr ⟨⟨_, (hmonths _).mpr ⟨rfl, by decide, by decide⟩⟩,
    ⟨_, (hseconds _).mpr ⟨rfl, hfit⟩⟩, by decide, by decide⟩
  obtain ⟨hnanos, hpart⟩ := hresult u hu
  exact ⟨hmoves, u, hu, hnanos, hpart⟩

end Criteria

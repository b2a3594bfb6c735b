/-
The order of instants that are moved.

* `Date.before_iff_monthIndex`: the order of days is that of their months, and
  within a month that of the days of the month;
* `Date.Moves.not_before`, `Date.Moves.before`: days that are moved by the same
  months keep their order, though the end of a month may bring them together, and
  a day that is moved by more months comes later;
* `Instant.not_before_of_le`, `Instant.lt_of_before`: the order of instants against
  that of their days;
* `Duration.shift?_ordered`: so shifts by months keep the order of days, more
  months lead to a later instant, and shifts by seconds keep distances.
-/
import Criteria.Proofs.Temporal.Composition

namespace Criteria

/-! ### Days in the order of their months -/

namespace Date

variable {d e f g : Date} {m n : Int}

/-- A day comes before another in an earlier month, or earlier in the same
month. -/
lemma before_iff_monthIndex (hd : 1 ≤ d.month ∧ d.month ≤ 12) (he : 1 ≤ e.month ∧ e.month ≤ 12) :
    d.Before e
      ↔ d.monthIndex < e.monthIndex ∨ d.monthIndex = e.monthIndex ∧ d.day < e.day := by
  rw [Before, PartsBefore, monthIndex, monthIndex]
  simp only
  omega

namespace Moves

/-- Days that are moved by the same months keep their order. -/
theorem not_before (hd : d.Exists) (he : e.Exists) (hdf : d.Moves m f) (heg : e.Moves m g)
    (h : ¬ e.Before d) : ¬ g.Before f := by
  obtain ⟨hdmonth, -⟩ := exists_iff.mp hd
  obtain ⟨hemonth, -⟩ := exists_iff.mp he
  obtain ⟨hfmonth, -⟩ := exists_iff.mp hdf.exists_day
  obtain ⟨hgmonth, -⟩ := exists_iff.mp heg.exists_day
  have hf := hdf.monthIndex_eq
  have hg := heg.monthIndex_eq
  rw [before_iff_monthIndex hemonth hdmonth] at h
  rw [before_iff_monthIndex hgmonth hfmonth]
  rintro (hmonth | ⟨hmonth, hday⟩)
  · exact h (.inl (by omega))
  · -- both days end up in one month, so they were in one month, and its end clamps both
    obtain ⟨hyear, hmonth'⟩ := eq_of_monthIndex_eq hgmonth hfmonth hmonth
    have hsame : e.monthIndex = d.monthIndex := by omega
    have hle : d.day ≤ e.day := by
      by_contra hlt
      exact h (.inr ⟨hsame, by omega⟩)
    have hle' : f.day ≤ g.day := by
      calc f.day = min d.day (daysInMonth f.year f.month) := hdf.day_eq_min
        _ ≤ min e.day (daysInMonth f.year f.month) := by omega
        _ = g.day := by rw [heg.day_eq_min, hyear, hmonth']
    omega

/-- A day that is moved by more months comes later. -/
theorem before (hdf : d.Moves m f) (hdg : d.Moves n g) (h : m < n) : f.Before g := by
  obtain ⟨hfmonth, -⟩ := exists_iff.mp hdf.exists_day
  obtain ⟨hgmonth, -⟩ := exists_iff.mp hdg.exists_day
  rw [before_iff_monthIndex hfmonth hgmonth, hdf.monthIndex_eq, hdg.monthIndex_eq]
  exact .inl (by omega)

end Moves

end Date

/-! ### Instants in the order of their days -/

namespace Instant

variable {t u : Instant}

lemma not_before_of_le (h : t.nanos ≤ u.nanos) : ¬ u.date.Before t.date := by
  intro hbefore
  have hday := hbefore.dayNumber_lt u.exists_date t.exists_date
  have hstart := t.nanos_eq
  have hend := u.nanos_eq
  have htime := u.nanosOfDay_lt
  rw [nanosPerDay, secondsPerDay, nanosPerSecond] at hstart hend htime
  omega

lemma lt_of_before (hdate : t.date.Before u.date) (htime : t.nanosOfDay = u.nanosOfDay) :
    t.nanos < u.nanos := by
  have hday := hdate.dayNumber_lt t.exists_date u.exists_date
  rw [t.nanos_eq, u.nanos_eq, htime, nanosPerDay, secondsPerDay, nanosPerSecond]
  omega

end Instant

/-! ### Instants moved alike -/

namespace Duration

/-- **Shifts keep order.** Two instants that are moved by the same months keep the
order of their days; the later one may become the earlier one only within a day,
which the end of a month brings about. Of two durations with the same seconds the
one with more months moves an instant further. Two instants that are moved by the
same seconds keep their distance. -/
theorem shift?_ordered :
    (∀ (d : Duration) (x y u v : Instant), d.totalSeconds? = some 0 → x.nanos ≤ y.nanos →
      d.shift? x = some u → d.shift? y = some v → ¬ v.date.Before u.date) ∧
    (∀ (a b : Duration) (m n : Int) (t u v : Instant), a.totalSeconds? = b.totalSeconds? →
      a.totalMonths? = some m → b.totalMonths? = some n → m < n →
      a.shift? t = some u → b.shift? t = some v → u.nanos < v.nanos) ∧
    ∀ (d : Duration) (x y u v : Instant), d.totalMonths? = some 0 →
      d.shift? x = some u → d.shift? y = some v → v.nanos - u.nanos = y.nanos - x.nanos := by
  refine ⟨?_, ?_, ?_⟩
  · intro d x y u v hseconds hle hu hv
    obtain ⟨m, -, hm, -⟩ := shift?_eq_some_iff.mp hu
    have hmonths : d.IsMonths m := ⟨hm, hseconds⟩
    obtain ⟨hxu, -⟩ := hmonths.shift?_eq_some_iff.mp hu
    obtain ⟨hyv, -⟩ := hmonths.shift?_eq_some_iff.mp hv
    exact hxu.not_before x.exists_date y.exists_date hyv (Instant.not_before_of_le hle)
  · intro a b m n t u v hseconds hm hn hlt hu hv
    obtain ⟨m', s, hm', hs, moved, hdate, htime, hu⟩ := shift?_eq_some_iff.mp hu
    obtain ⟨n', s', hn', hs', moved', hdate', htime', hv⟩ := shift?_eq_some_iff.mp hv
    obtain rfl := Option.some.inj (hm.symm.trans hm')
    obtain rfl := Option.some.inj (hn.symm.trans hn')
    obtain rfl := Option.some.inj (hs.symm.trans (hseconds.trans hs'))
    have hmoved : moved.nanos < moved'.nanos :=
      Instant.lt_of_before (hdate.before hdate' hlt) (htime.trans htime'.symm)
    calc u.nanos = moved.nanos + s * nanosPerSecond := hu
      _ < moved'.nanos + s * nanosPerSecond := by omega
      _ = v.nanos := hv.symm
  · intro d x y u v hmonths hu hv
    obtain ⟨-, s, -, hs, -⟩ := shift?_eq_some_iff.mp hu
    have hseconds : d.IsSeconds s := ⟨hmonths, hs⟩
    rw [hseconds.shift?_eq_some_iff.mp hu, hseconds.shift?_eq_some_iff.mp hv]
    omega

end Duration

/-- Half a second after eleven in the evening of the 30th of January 2024. -/
def Instant.lateJanuary : Instant := ⟨1706655600500000000, by decide, by decide⟩

/-- Half a second after eleven in the evening of the 29th of February 2024. -/
def Instant.lateLeapDay : Instant := ⟨1709247600500000000, by decide, by decide⟩

/-- A month after the end of January it is the 29th of February: the 30th late in
the evening is moved behind noon of the 31st, but to the same day. A second month
leads on into March, and 29 days keep the distance of thirteen hours. -/
theorem Duration.shift?_ordered_leapDay :
    (∃ u v, (ofMonths 1).shift? .lateJanuary = some u ∧
      (ofMonths 1).shift? .endOfJanuary = some v ∧ v.nanos < u.nanos ∧
      ¬ v.date.Before u.date) ∧
    (∃ u v, (ofMonths 1).shift? .endOfJanuary = some u ∧
      (ofMonths 2).shift? .endOfJanuary = some v ∧ u.nanos < v.nanos) ∧
    ∃ u v, (ofDays 29).shift? .lateJanuary = some u ∧ (ofDays 29).shift? .endOfJanuary = some v ∧
      v.nanos - u.nanos = 46800000000000 := by
  obtain ⟨hdates, hmonths, hdistance⟩ := shift?_ordered
  have hone : (ofMonths 1).IsMonths 1 := ⟨rfl, rfl⟩
  have htwo : (ofMonths 2).IsMonths 2 := ⟨rfl, rfl⟩
  have hdays : (ofDays 29).IsSeconds 2505600 := ⟨rfl, rfl⟩
  have hlate : (ofMonths 1).shift? .lateJanuary = some .lateLeapDay :=
    hone.shift?_eq_some_iff.mpr ⟨⟨rfl, by decide, by decide⟩, by decide⟩
  have hnoon : (ofMonths 1).shift? .endOfJanuary = some .leapDay :=
    hone.shift?_eq_some_iff.mpr ⟨⟨rfl, by decide, by decide⟩, by decide⟩
  refine ⟨⟨_, _, hlate, hnoon, by decide,
    hdates (ofMonths 1) _ _ _ _ rfl (by decide) hlate hnoon⟩, ?_, ?_⟩
  · obtain ⟨v, hv⟩ := htwo.exists_shift? (t := .endOfJanuary) (e := ⟨2024, 3, 31⟩)
      ⟨rfl, by decide, by decide⟩ rfl
    exact ⟨_, v, hnoon, hv,
      hmonths (ofMonths 1) (ofMonths 2) 1 2 _ _ _ rfl rfl rfl (by decide) hnoon hv⟩
  · obtain ⟨u, hu⟩ : ∃ u, (ofDays 29).shift? .lateJanuary = some u :=
      ⟨⟨1709161200500000000, by decide, by decide⟩, hdays.shift?_eq_some_iff.mpr rfl⟩
    obtain ⟨v, hv⟩ : ∃ v, (ofDays 29).shift? .endOfJanuary = some v :=
      ⟨.leapDay, hdays.shift?_eq_some_iff.mpr rfl⟩
    exact ⟨u, v, hu, hv, hdistance (ofDays 29) .lateJanuary .endOfJanuary u v rfl hu hv⟩

end Criteria

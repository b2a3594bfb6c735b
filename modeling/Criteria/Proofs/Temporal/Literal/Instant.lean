/-
The instants of datetime literals.

* `Date.year_bounds_of_parse`: the days that datetime literals mean, also those of
  week dates, lie in the years from -9999 to 10000;
* `DateTime.exists_instant`: a datetime of these years has an instant, whatever its
  time and its offset are;
* `DateTime.toInstant?_of_parse`: so every datetime literal has one, the day, the
  time and the offset added up in microseconds.
-/
import Criteria.Proofs.Temporal.DateTime
import Criteria.Proofs.Temporal.Literal.RoundTrip

namespace Criteria

/-- The start of the count of days and seconds: the first of January 1970. -/
def Date.epoch : Date := ⟨1970, 1, 1⟩

lemma Date.exists_epoch : epoch.Exists := rfl

lemma Date.dayNumber_epoch : epoch.dayNumber = epochDay := by
  decide

namespace DateTime

variable {s : String} {t : DateTime} {assumed o : Offset}

/-- A datetime literal means a day of the years from -9999 to 10000. -/
lemma year_bounds_of_parse (h : parse s = .ok t) : -9999 ≤ t.date.year ∧ t.date.year ≤ 10000 := by
  obtain ⟨l, -, hexists, his⟩ := exists_named_of_parse h
  rcases DateLiteral.short_or_late hexists his with ⟨-, hmin, hmax⟩ | ⟨-, hlate | hlate⟩
  · exact ⟨hmin, by omega⟩
  · rw [hlate]
    decide
  · rw [hlate]
    decide

/-- The microsecond of a datetime of these years is in the supported calendar,
whatever its time and its offset are. -/
lemma microsAt_bounds (ht : t.Exists) (ho : o.Exists)
    (hyear : -9999 ≤ t.date.year ∧ t.date.year ≤ 10000) :
    minSecond * nanosPerSecond ≤ 1000 * t.microsAt o ∧
      1000 * t.microsAt o < (maxSecond + 1) * nanosPerSecond := by
  obtain ⟨hstart, hend⟩ := Date.dayNumber_bounds ht.date
  have hfirst := daysBeforeYear_mono hyear.1
  have hlast := daysBeforeYear_mono (show t.date.year + 1 ≤ 10001 by omega)
  have hmin : daysBeforeYear (-9999) = -3652425 := by decide
  have hmax : daysBeforeYear 10001 = 3652425 := by decide
  have htime := TimeOfDay.exists_iff.mp ht.time
  have hoffset := Offset.signedSeconds_bounds ho
  rw [microsAt, TimeOfDay.microsOfDay, minSecond, maxSecond, nanosPerSecond, epochDay]
  omega

/-- **Datetime literals name instants.** Whatever offset is assumed for them, each
has an instant: so many microseconds from the start of 1970 as there are in the
days up to its day and in its time of day, less those of its own offset, or of the
assumed one when it has none. The offset is less than a day. -/
theorem toInstant?_of_parse (h : parse s = .ok t) (hassumed : assumed.Exists) :
    ∃ (i : Instant) (days : Int) (o : Offset), t.toInstant? assumed = some i ∧
      t.date.Follows days .epoch ∧
      (t.offset = some o ∨ t.offset = none ∧ o = assumed) ∧
      (-86400 < o.signedSeconds ∧ o.signedSeconds < 86400) ∧
      i.unixMicros
        = 86400000000 * days + t.time.microsOfDay - 1000000 * o.signedSeconds ∧
      i.nanos = 1000 * i.unixMicros := by
  have ht := exists_of_parse h
  have hyear := year_bounds_of_parse h
  obtain ⟨o, ho, hof⟩ : ∃ o, o.Exists ∧ (t.offset = some o ∨ t.offset = none ∧ o = assumed) := by
    cases hoffset : t.offset with
    | none => exact ⟨assumed, hassumed, .inr ⟨rfl, rfl⟩⟩
    | some o => exact ⟨o, ht.offset o hoffset, .inl rfl⟩
  have hgetD : t.offset.getD assumed = o := by
    rcases hof with hof | ⟨hof, rfl⟩ <;> rw [hof] <;> rfl
  obtain ⟨hmin, hmax⟩ := microsAt_bounds ht ho hyear
  have hsupported : t.date.isSupported = true := by
    rw [Date.isSupported_iff, Date.minYear, Date.maxYear]
    exact ⟨by omega, ht.date⟩
  have hinstant : t.toInstant? assumed = some ⟨_, hmin, hmax⟩ :=
    (toInstant?_eq_some_iff ht.time (hgetD ▸ ho)).mpr ⟨hsupported, by rw [hgetD]⟩
  have hmicros : (1000 * t.microsAt o) / 1000 = t.microsAt o := by omega
  refine ⟨_, _, o, hinstant, (Date.follows_iff Date.exists_epoch ht.date).mpr rfl, hof,
    Offset.signedSeconds_bounds ho, ?_, ?_⟩
  · rw [Instant.unixMicros, hmicros, microsAt, Date.dayNumber_epoch]
  · rw [Instant.unixMicros, hmicros]

end DateTime

/-- The last day of the weeks of 9999, which is in the year 10000, with an offset
of almost a day that leads on to the next day, and a date alone in an assumed
offset. -/
theorem DateTime.toInstant?_of_parse_lateWeek :
    (∃ t i, parse "9999W527T23:59:59.5-23:59" = .ok t ∧
      t.toInstant? .utc = some i ∧ i.unixMicros = 253402559939500000) ∧
    ∃ t i, parse "1970-W01-4" = .ok t ∧
      t.toInstant? ⟨false, 5, 30⟩ = some i ∧ i.unixMicros = -19800000000 := by
  have hlate : parse "9999W527T23:59:59.5-23:59"
      = .ok ⟨⟨10000, 1, 2⟩, ⟨23, 59, 59, 500000⟩, some ⟨true, 23, 59⟩⟩ := rfl
  have hdate : parse "1970-W01-4" = .ok ⟨⟨1970, 1, 1⟩, .midnight, none⟩ := rfl
  have hutc : Offset.utc.Exists := rfl
  have heast : Offset.Exists ⟨false, 5, 30⟩ := rfl
  obtain ⟨i, days, o, hi, hdays, hoffset, -, hmicros, -⟩ := toInstant?_of_parse hlate hutc
  obtain ⟨i', days', o', hi', hdays', hoffset', -, hmicros', -⟩ :=
    toInstant?_of_parse hdate heast
  refine ⟨⟨_, i, hlate, hi, ?_⟩, _, i', hdate, hi', ?_⟩
  · obtain rfl : ⟨true, 23, 59⟩ = o := by simpa using hoffset
    rw [hmicros, (Date.follows_iff Date.exists_epoch (exists_of_parse hlate).date).mp hdays]
    decide
  · obtain rfl : o' = ⟨false, 5, 30⟩ := by simpa using hoffset'
    rw [hmicros', (Date.follows_iff Date.exists_epoch (exists_of_parse hdate).date).mp hdays']
    decide

end Criteria

/-
Datetimes and the instants that they name.

* `TimeOfDay.microsOfDay`, `Offset.signedSeconds`: a time as microseconds since
  midnight and an offset as seconds with its sign; `Offset.seconds_eq`: the words
  for an offset never wrap when its parts are in range;
* `DateTime.toInstant?_eq_some_iff`: a datetime whose parts exist names the
  microsecond that its day, its time and its offset add up to, when this
  microsecond is in the supported calendar;
* `Instant.IsOn`: an instant lies in a day; `Instant.isOn_iff`: in its calendar day
  and in no other; `Instant.truncate`: an instant without the rest of its
  microsecond;
* `DateTime.toInstant?_ofInstant`: so the reading of an instant names this instant
  again, to the microsecond.
-/
import Criteria.Proofs.Temporal.Instant
import Criteria.Proofs.Temporal.Literal

namespace Criteria

/-! ### Times and offsets as numbers -/

namespace TimeOfDay

variable {t : TimeOfDay}

/-- Microseconds since midnight. -/
def microsOfDay (t : TimeOfDay) : ℕ :=
  1000000 * (3600 * t.hour + 60 * t.minute + t.second) + t.micros

lemma isClock_of_exists (h : t.Exists) : t.isClock = true := by
  obtain ⟨hhour, hminute, hsecond, hmicros⟩ := exists_iff.mp h
  simp [isClock]
  omega

end TimeOfDay

namespace Offset

variable {o : Offset}

/-- Seconds east of UTC, negative for the offsets to the west. -/
def signedSeconds (o : Offset) : Int :=
  if o.negative then -(3600 * o.hours + 60 * o.minutes) else 3600 * o.hours + 60 * o.minutes

/-- An offset is less than a day in either direction. -/
lemma signedSeconds_bounds (h : o.Exists) :
    -86400 < o.signedSeconds ∧ o.signedSeconds < 86400 := by
  obtain ⟨hhours, hminutes⟩ := exists_iff.mp h
  rw [signedSeconds]
  split_ifs <;> omega

/-- The words for the seconds of an offset do not wrap. -/
lemma seconds_eq (h : o.Exists) : o.seconds = o.signedSeconds := by
  have hbounds := signedSeconds_bounds h
  rw [signedSeconds] at hbounds ⊢
  rw [seconds]
  exact Int.bmod_eq_of_le (by omega) (by omega)

lemma isFixed_of_exists (h : o.Exists) : o.isFixed = true := by
  obtain ⟨hmin, hmax⟩ := signedSeconds_bounds h
  rw [isFixed, seconds_eq h, Bool.and_eq_true, decide_eq_true_eq, decide_eq_true_eq]
  exact ⟨hmin, hmax⟩

end Offset

/-! ### The instant of a datetime -/

namespace DateTime

variable {t : DateTime} {assumed o : Offset} {i : Instant}

/-- The microsecond of UTC, since the start of 1970, at which a clock with the
given offset shows a datetime. -/
def microsAt (t : DateTime) (o : Offset) : Int :=
  86400000000 * (t.date.dayNumber - epochDay) + t.time.microsOfDay - 1000000 * o.signedSeconds

lemma secondAt_eq (h : o.Exists) :
    t.secondAt o * nanosPerSecond + t.time.micros * 1000 = 1000 * t.microsAt o := by
  rw [secondAt, microsAt, Offset.seconds_eq h, TimeOfDay.microsOfDay, TimeOfDay.seconds,
    secondsPerDay, nanosPerSecond]
  omega

/-- A datetime with a time and an offset that exist names the microsecond at which
a clock shows it, when its day and that microsecond are in the supported
calendar. -/
theorem toInstant?_eq_some_iff (htime : t.time.Exists) (ho : (t.offset.getD assumed).Exists) :
    t.toInstant? assumed = some i
      ↔ t.date.isSupported = true ∧ i.nanos = 1000 * t.microsAt (t.offset.getD assumed) := by
  have hsecond := secondAt_eq (t := t) ho
  have hmicros := (TimeOfDay.exists_iff.mp htime).2.2.2
  rw [toInstant?, utcSecond?, isSupported, TimeOfDay.isClock_of_exists htime,
    Offset.isFixed_of_exists ho, Bool.and_true, Bool.and_true]
  constructor
  · intro h
    split_ifs at h with hdate
    · rw [← hsecond]
      exact ⟨hdate, Instant.ofNanos?_eq_some_iff.mp h⟩
    · cases h
    · cases h
  · rintro ⟨hdate, hi⟩
    have hmin := i.min_le
    have hmax := i.lt_max
    rw [hi, ← hsecond, nanosPerSecond] at hmin hmax
    rw [if_pos hdate, if_pos (by omega)]
    exact Instant.ofNanos?_eq_some_iff.mpr (hi.trans hsecond.symm)

end DateTime

/-! ### The reading of an instant -/

namespace Instant

/-- An instant lies in a day, from its start on and before that of the next. -/
structure IsOn (t : Instant) (d : Date) : Prop where
  exists_day : d.Exists
  start_le : (d.dayNumber - epochDay) * nanosPerDay ≤ t.nanos
  lt_end : t.nanos < (d.dayNumber + 1 - epochDay) * nanosPerDay

lemma unixMicros_bounds (t : Instant) :
    minSecond * nanosPerSecond ≤ 1000 * t.unixMicros ∧
      1000 * t.unixMicros < (maxSecond + 1) * nanosPerSecond := by
  have hmin := t.min_le
  have hmax := t.lt_max
  rw [minSecond, nanosPerSecond] at *
  rw [unixMicros]
  omega

/-- An instant without the rest of its microsecond. -/
def truncate (t : Instant) : Instant :=
  ⟨1000 * t.unixMicros, t.unixMicros_bounds.1, t.unixMicros_bounds.2⟩

variable {t : Instant}

/-- The calendar day of an instant is the only one that it lies in. -/
theorem isOn_iff {d : Date} : t.IsOn d ↔ d = t.date := by
  constructor
  · rintro ⟨hd, hstart, hend⟩
    obtain ⟨n, hn⟩ := Int.le.dest hstart
    have htime : (n : Int) < nanosPerDay := by
      rw [nanosPerDay, secondsPerDay, nanosPerSecond] at *
      omega
    exact (eq_of_nanos_eq_day hd htime hn.symm).1.symm
  · rintro rfl
    have htime := t.nanosOfDay_lt
    have hnanos := t.nanos_eq
    refine ⟨t.exists_date, by omega, ?_⟩
    rw [nanosPerDay, secondsPerDay, nanosPerSecond] at *
    omega

lemma exists_timeOfDay (t : Instant) : t.timeOfDay.Exists := by
  have htime := t.nanosOfDay_lt
  rw [nanosPerDay, secondsPerDay, nanosPerSecond] at htime
  rw [TimeOfDay.exists_iff, timeOfDay]
  simp only
  omega

lemma microsOfDay_timeOfDay (t : Instant) : t.timeOfDay.microsOfDay = t.nanosOfDay / 1000 := by
  rw [TimeOfDay.microsOfDay, timeOfDay]
  simp only
  omega

/-- The parts of the reading of an instant add up to its microsecond. -/
lemma microsAt_ofInstant (t : Instant) : (DateTime.ofInstant t).microsAt .utc = t.unixMicros := by
  have hutc : Offset.utc.signedSeconds = 0 := rfl
  rw [DateTime.microsAt, DateTime.ofInstant, microsOfDay_timeOfDay, hutc, unixMicros, t.nanos_eq,
    nanosPerDay, secondsPerDay, nanosPerSecond]
  simp only
  omega

end Instant

/-- The reading of an instant names this instant again, to the microsecond, whatever
offset is assumed for datetimes without one. -/
theorem DateTime.toInstant?_ofInstant (t : Instant) (assumed : Offset) :
    (ofInstant t).toInstant? assumed = some t.truncate := by
  have hutc : ((ofInstant t).offset.getD assumed).Exists := rfl
  refine (toInstant?_eq_some_iff t.exists_timeOfDay hutc).mpr ⟨?_, ?_⟩
  · exact Date.isSupported_iff.mpr
      ⟨Date.isSupportedYear_iff.mp t.isSupportedYear_date, t.exists_date⟩
  · exact congrArg (1000 * ·) t.microsAt_ofInstant.symm

end Criteria

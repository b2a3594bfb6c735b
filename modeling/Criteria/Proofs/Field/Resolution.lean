/-
What prepared values mean at an instant.

* `Scalar.ResolvesTo`, `Prepared.ResolvesTo`: an absolute scalar stays, and a
  relative one becomes the day of the moved instant or a datetime that names this
  instant, each scalar of a list in its place;
* `Scalar.resolve?_eq_none_iff`, `Scalar.ResolvesTo.of_resolve?`: the resolution of
  a scalar;
* `Prepared.resolve?_resolvesTo`: so a value is resolved unless one of its durations
  leads out of the calendar, and the result is absolute: it means the same at every
  later instant.
-/
import Criteria.Field.Prepared
import Criteria.Proofs.Result
import Criteria.Proofs.Temporal.DateTime

namespace Criteria

/-! ### Scalars -/

namespace Scalar

variable {now : Instant} {s s' : Scalar}

/-- What a scalar may become at an instant: itself, when it is absolute, and
otherwise the day of the instant that its duration leads to, or a datetime that
names this instant to the microsecond, whatever offset is assumed. -/
inductive ResolvesTo (now : Instant) : Scalar → Scalar → Prop
  | absolute {s : Scalar} (h : s.isRelative = false) : ResolvesTo now s s
  | date {duration : Duration} {t : Instant} {d : Date} (ht : duration.shift? now = some t)
    (hd : t.IsOn d) : ResolvesTo now (.relative duration .date) (.date ⟨d, .day⟩)
  | datetime {duration : Duration} {t : Instant} {v : DateTime}
    (ht : duration.shift? now = some t) (hv : ∀ o, v.toInstant? o = some t.truncate) :
    ResolvesTo now (.relative duration .datetime) (.datetime v)

/-- What a scalar becomes is absolute. -/
lemma ResolvesTo.isRelative_eq_false (h : ResolvesTo now s s') : s'.isRelative = false := by
  cases h with
  | absolute h => exact h
  | date => rfl
  | datetime => rfl

lemma resolve?_of_absolute (h : s.isRelative = false) : s.resolve? now = some s := by
  cases s with
  | relative => cases h
  | _ => rfl

/-- Only a duration that leads out of the calendar is not resolved. -/
lemma resolve?_eq_none_iff :
    s.resolve? now = none ↔ ∃ d r, s = .relative d r ∧ d.shift? now = none := by
  cases s with
  | relative d r => simp [resolve?]
  | _ => simp [resolve?]

lemma ResolvesTo.of_resolve? (h : s.resolve? now = some s') : ResolvesTo now s s' := by
  cases s with
  | relative duration resolution =>
      obtain ⟨t, ht, rfl⟩ := Option.map_eq_some_iff.mp h
      cases resolution with
      | date => exact .date ht (Instant.isOn_iff.mpr rfl)
      | datetime => exact .datetime ht (DateTime.toInstant?_ofInstant t)
  | _ =>
      obtain rfl := Option.some.inj h
      exact .absolute rfl

end Scalar

/-! ### Values -/

namespace Prepared

variable {now : Instant} {p q : Prepared}

/-- What a value may become at an instant: a value of the same shape, with each
scalar resolved in its place. -/
inductive ResolvesTo (now : Instant) : Prepared → Prepared → Prop
  | single {s s' : Scalar} (h : s.ResolvesTo now s') : ResolvesTo now (single s) (single s')
  | many {items items' : List Scalar} (h : List.Forall₂ (Scalar.ResolvesTo now) items items') :
    ResolvesTo now (many items) (many items')

lemma hasRelative_eq_false_iff : p.hasRelative = false ↔ ∀ s ∈ p.scalars, s.isRelative = false := by
  simp [hasRelative]

lemma ResolvesTo.hasRelative_eq_false (h : ResolvesTo now p q) : q.hasRelative = false := by
  rw [hasRelative_eq_false_iff]
  cases h with
  | single h =>
      intro s hs
      obtain rfl := List.mem_singleton.mp hs
      exact h.isRelative_eq_false
  | many h =>
      intro s hs
      obtain ⟨_, -, hs⟩ := exists_left_of_forall₂ h hs
      exact hs.isRelative_eq_false

/-- An absolute value means the same at every instant. -/
lemma resolve?_of_absolute (h : p.hasRelative = false) (now : Instant) :
    p.resolve? now = some p := by
  rw [hasRelative_eq_false_iff] at h
  cases p with
  | single s => rw [resolve?, Scalar.resolve?_of_absolute (h s (List.mem_singleton_self s)),
      Option.map_some]
  | many items =>
      have hitems : items.mapM (Scalar.resolve? now) = some items :=
        (mapM_eq_some_iff_forall₂ fun _ _ _ => Iff.rfl).mpr
          (List.forall₂_same.mpr fun s hs => Scalar.resolve?_of_absolute (h s hs))
      rw [resolve?, hitems, Option.map_some]

lemma ResolvesTo.of_resolve? (h : p.resolve? now = some q) : ResolvesTo now p q := by
  cases p with
  | single s =>
      obtain ⟨s', hs, rfl⟩ := Option.map_eq_some_iff.mp h
      exact .single (.of_resolve? hs)
  | many items =>
      obtain ⟨items', hitems, rfl⟩ := Option.map_eq_some_iff.mp h
      have heach := (mapM_eq_some_iff_forall₂ fun _ _ _ => Iff.rfl).mp hitems
      exact .many (heach.imp fun _ _ => .of_resolve?)

/-- **Resolving relative values.** A value is not resolved exactly when one of its
durations leads out of the calendar. Otherwise the result has the same shape, with
absolute scalars as they were and relative ones replaced by days and datetimes of
the instants that they mean. It is absolute, so to resolve it again, at any
instant, changes nothing. -/
theorem resolve?_resolvesTo (p : Prepared) (now : Instant) :
    (p.resolve? now = none
      ↔ ∃ d r, Scalar.relative d r ∈ p.scalars ∧ d.shift? now = none) ∧
    ∀ q, p.resolve? now = some q →
      p.ResolvesTo now q ∧ q.hasRelative = false ∧ ∀ later, q.resolve? later = some q := by
  refine ⟨?_, ?_⟩
  · cases p with
    | single s =>
        rw [resolve?, Option.map_eq_none_iff, Scalar.resolve?_eq_none_iff]
        simp [scalars, eq_comm]
    | many items =>
        rw [resolve?, Option.map_eq_none_iff, mapM_eq_none_iff]
        simp [scalars, Scalar.resolve?_eq_none_iff]
  · intro q hq
    have hresolves := ResolvesTo.of_resolve? hq
    have habsolute := hresolves.hasRelative_eq_false
    exact ⟨hresolves, habsolute, resolve?_of_absolute habsolute⟩

end Prepared

/-- Half a microsecond before the start of 1970. -/
def Instant.eveOfEpoch : Instant := ⟨-500, by decide, by decide⟩

/-- A million years. -/
def Duration.millionYears : Duration := { empty with years := some 1000000 }

/-- A number and the present moment, which is the last microsecond of 1969 for ever
after; and the day that is a million years away, which there is not. -/
theorem Prepared.resolve?_resolvesTo_eveOfEpoch :
    (∃ q, resolve? .eveOfEpoch (many [.integer 7, .relative .empty .datetime]) = some q ∧
      ResolvesTo .eveOfEpoch (many [.integer 7, .relative .empty .datetime]) q ∧
      q.hasRelative = false ∧ ∀ later, q.resolve? later = some q) ∧
    resolve? .eveOfEpoch (many [.integer 7, .relative .millionYears .date]) = none := by
  have hresolved : resolve? .eveOfEpoch (many [.integer 7, .relative .empty .datetime])
      = some (many [.integer 7,
        .datetime ⟨⟨1969, 12, 31⟩, ⟨23, 59, 59, 999999⟩, some .utc⟩]) := rfl
  obtain ⟨hresolves, habsolute, hlater⟩ := (resolve?_resolvesTo _ _).2 _ hresolved
  exact ⟨⟨_, hresolved, hresolves, habsolute, hlater⟩, (resolve?_resolvesTo _ _).1.mpr
    ⟨.millionYears, .date, by simp [scalars], rfl⟩⟩

end Criteria

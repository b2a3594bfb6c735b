/-
The order in which a field tries the grammars.

* `Field.validateWith`: the value for a lookup when the scalars are read in some other
  way, and `Field.validateWith_of_scalar`: a reading that accepts what another one accepts
  does so in every lookup;
* `Field.scalarAbsoluteFirst`: dates and datetimes are tried before durations;
  `Field.scalarAbsoluteFirst_eq_ok_iff`: this accepts the same, since no text is both;
* `Scalar.asDatetime`: the scalars of a field for dates as those of a field for datetimes,
  which `Field.scalar_datetime_of_date` says are accepted there;
* `Field.attempts_exclusive`: so the order of the two attempts does not matter, and a field
  for datetimes takes what a field for dates takes.
-/
import Criteria.Proofs.Field.Lookups
import Criteria.Proofs.Temporal.Literal.Grammars

namespace Criteria

/-- The scalar of a field for dates as one of a field for datetimes: a day is its
midnight, with the offset left open, and what is relative becomes a datetime. -/
def Scalar.asDatetime : Scalar → Scalar
  | date d => datetime ⟨d.date, .midnight, none⟩
  | relative duration _ => relative duration .datetime
  | s => s

/-- The value with each of its scalars replaced. -/
def Prepared.map (change : Scalar → Scalar) : Prepared → Prepared
  | single s => single (change s)
  | many items => many (items.map change)

@[simp] lemma Prepared.map_id (value : Prepared) : value.map id = value := by
  cases value <;> simp [map]

namespace Field

variable {f g : Field} {raw : Json} {s : Scalar} {text lookup : String} {value : Prepared}

/-! ### Other readings of scalars -/

/-- The value that a document stands for in a lookup, when its scalars are read in the
given way. -/
def validateWith (f : Field) (scalar : Json → Except FieldError Scalar) (raw : Json)
    (lookup : String) : Except FieldError Prepared :=
  if f.supports lookup then
    if lookup = membershipLookup then
      match raw with
      | .arr items => (items.mapM scalar).map .many
      | _ => .error (.typeMismatch f.name (.list f.kind))
    else (scalar raw).map .single
  else .error (.unsupportedLookup f.name lookup)

/-- A field reads its scalars in its own way. -/
lemma validateWith_scalar : f.validateWith f.scalar raw lookup = f.validate raw lookup := by
  unfold validateWith validate
  cases raw with
  | arr items => simp only [scalarList_eq_mapM]
  | _ => rfl

/-- When one reading accepts the scalars of another, changed or not, it does so in every
lookup of fields with the same lookups. -/
lemma validateWith_of_scalar {scalar scalar' : Json → Except FieldError Scalar}
    {change : Scalar → Scalar} (hlookups : g.lookups = f.lookups)
    (hscalar : ∀ {raw s}, scalar raw = .ok s → scalar' raw = .ok (change s))
    (h : f.validateWith scalar raw lookup = .ok value) :
    g.validateWith scalar' raw lookup = .ok (value.map change) := by
  unfold validateWith at h ⊢
  rw [supports, hlookups, ← supports]
  split_ifs at h ⊢ with hsupports hmember
  · cases raw with
    | arr items =>
        obtain ⟨scalars, hscalars, rfl⟩ := except_map_eq_ok_iff.mp h
        rw [except_mapM_eq_ok_iff_forall₂] at hscalars
        refine except_map_eq_ok_iff.mpr ⟨scalars.map change, ?_, rfl⟩
        rw [except_mapM_eq_ok_iff_forall₂, List.forall₂_map_right_iff]
        exact hscalars.imp fun _ _ => hscalar
    | _ => cases h
  · obtain ⟨s, hs, rfl⟩ := except_map_eq_ok_iff.mp h
    exact except_map_eq_ok_iff.mpr ⟨change s, hscalar hs, rfl⟩

/-- A reading that accepts more gives the values of the other. -/
lemma validateWith_mono {scalar scalar' : Json → Except FieldError Scalar}
    (hscalar : ∀ {raw s}, scalar raw = .ok s → scalar' raw = .ok s)
    (h : f.validateWith scalar raw lookup = .ok value) :
    f.validateWith scalar' raw lookup = .ok value := by
  rw [← value.map_id]
  exact validateWith_of_scalar rfl hscalar h

/-! ### Absolute literals first -/

/-- An absolute literal, or else a duration. -/
def ofAbsoluteOrDuration {α : Type} (f : Field) (text : String) (resolution : Resolution)
    (absolute : String → Except TemporalError α) (make : α → Scalar) :
    Except FieldError Scalar :=
  match absolute text with
  | .ok a => .ok (make a)
  | .error _ => f.ofLiteral (Duration.parse text) fun d => .relative d resolution

/-- The scalar that a document stands for in a field, dates and datetimes being tried
before durations. -/
def scalarAbsoluteFirst (f : Field) (raw : Json) : Except FieldError Scalar :=
  match f.kind, raw with
  | .date, .str text => f.ofAbsoluteOrDuration text .date WrittenDate.parse .date
  | .datetime, .str text => f.ofAbsoluteOrDuration text .datetime DateTime.parse .datetime
  | _, raw => f.scalar raw

/-- The value that a document stands for in a lookup, dates and datetimes being tried
before durations. -/
def validateAbsoluteFirst (f : Field) (raw : Json) (lookup : String) :
    Except FieldError Prepared :=
  f.validateWith f.scalarAbsoluteFirst raw lookup

/-- Two grammars that do not accept the same text can be tried in either order. -/
lemma ofAbsoluteOrDuration_eq_ok_iff {α : Type} {resolution : Resolution}
    {absolute : String → Except TemporalError α} {make : α → Scalar}
    (hexclusive : ∀ {d a}, Duration.parse text = .ok d → absolute text ≠ .ok a) :
    f.ofAbsoluteOrDuration text resolution absolute make = .ok s
      ↔ f.ofLiteralOrDuration text resolution absolute make = .ok s := by
  unfold ofAbsoluteOrDuration ofLiteralOrDuration
  cases hduration : Duration.parse text with
  | ok d =>
      cases habsolute : absolute text with
      | ok a => exact absurd habsolute (hexclusive hduration)
      | error e => rfl
  | error e =>
      cases absolute text with
      | ok a => rfl
      | error e' => simp [ofLiteral]

/-- A field accepts the same scalars in either order. -/
theorem scalarAbsoluteFirst_eq_ok_iff :
    f.scalarAbsoluteFirst raw = .ok s ↔ f.scalar raw = .ok s := by
  unfold scalarAbsoluteFirst
  split
  · rename_i text hkind
    simp only [scalar, hkind]
    exact ofAbsoluteOrDuration_eq_ok_iff Duration.parse_date_ne_ok
  · rename_i text hkind
    simp only [scalar, hkind]
    exact ofAbsoluteOrDuration_eq_ok_iff Duration.parse_datetime_ne_ok
  · rfl

/-- A date literal is taken by a field for dates. -/
lemma scalar_of_parse_date (hkind : f.kind = .date) {d : WrittenDate}
    (h : WrittenDate.parse text = .ok d) : f.scalar (.str text) = .ok (.date d) := by
  simp only [scalar, hkind]
  rw [← ofAbsoluteOrDuration_eq_ok_iff Duration.parse_date_ne_ok, ofAbsoluteOrDuration, h]

/-- A datetime literal is taken by a field for datetimes. -/
lemma scalar_of_parse_datetime (hkind : f.kind = .datetime) {t : DateTime}
    (h : DateTime.parse text = .ok t) : f.scalar (.str text) = .ok (.datetime t) := by
  simp only [scalar, hkind]
  rw [← ofAbsoluteOrDuration_eq_ok_iff Duration.parse_datetime_ne_ok, ofAbsoluteOrDuration, h]

/-! ### Dates as datetimes -/

/-- A field for datetimes takes the scalars of a field for dates. -/
lemma scalar_datetime_of_date (hf : f.kind = .date) (hg : g.kind = .datetime)
    (h : f.scalar raw = .ok s) : g.scalar raw = .ok s.asDatetime := by
  simp only [scalar, hf] at h
  split at h
  · rename_i text
    obtain ⟨d, hd, rfl⟩ | ⟨-, d, hd, rfl⟩ := ofLiteralOrDuration_eq_ok_iff.mp h
    · simp only [scalar, hg]
      exact ofLiteralOrDuration_eq_ok_iff.mpr (.inl ⟨d, hd, rfl⟩)
    · exact scalar_of_parse_datetime hg (DateTime.parse_of_date hd)
  · cases h

/-- **The order of the attempts does not matter.** No text is accepted by two of the
grammars for durations, times and datetimes. A date is accepted as a datetime, and means
its midnight there, and a datetime without a `T` is accepted as a date. So a literal for a
date or a datetime is taken for what it is although durations are tried first, the values
that are accepted and prepared are those of the opposite order, and a field for datetimes
takes what a field for dates takes in its lookups. -/
theorem attempts_exclusive :
    (∀ (text : String) (g g' : Grammar), g ≠ .date → g' ≠ .date →
      g.Accepts text → g'.Accepts text → g = g') ∧
    (∀ text d, WrittenDate.parse text = .ok d →
      DateTime.parse text = .ok ⟨d.date, .midnight, none⟩) ∧
    (∀ text t, 'T' ∉ text.toList → 't' ∉ text.toList → DateTime.parse text = .ok t →
      ∃ d, WrittenDate.parse text = .ok d) ∧
    (∀ (f : Field) (text : String),
      (∀ d, f.kind = .date → WrittenDate.parse text = .ok d →
        f.scalar (.str text) = .ok (.date d)) ∧
      ∀ t, f.kind = .datetime → DateTime.parse text = .ok t →
        f.scalar (.str text) = .ok (.datetime t)) ∧
    (∀ (f : Field) (raw : Json) (lookup : String) (value : Prepared),
      f.validateAbsoluteFirst raw lookup = .ok value ↔ f.validate raw lookup = .ok value) ∧
    ∀ f g : Field, f.kind = .date → g.kind = .datetime → g.lookups = f.lookups →
      ∀ (raw : Json) (lookup : String) (value : Prepared),
        f.validate raw lookup = .ok value →
          g.validate raw lookup = .ok (value.map Scalar.asDatetime) := by
  refine ⟨fun _ _ _ => Grammar.accepts_unique, fun _ _ => DateTime.parse_of_date,
    fun _ _ hT ht => WrittenDate.exists_of_parse_datetime (not_or.mpr ⟨hT, ht⟩),
    fun _ _ => ⟨fun _ hkind => scalar_of_parse_date hkind,
      fun _ hkind => scalar_of_parse_datetime hkind⟩,
    fun f raw lookup value => ?_, fun f g hf hg hlookups raw lookup value h => ?_⟩
  · rw [validateAbsoluteFirst, ← validateWith_scalar]
    exact ⟨validateWith_mono scalarAbsoluteFirst_eq_ok_iff.mp,
      validateWith_mono scalarAbsoluteFirst_eq_ok_iff.mpr⟩
  · rw [← validateWith_scalar] at h ⊢
    exact validateWith_of_scalar hlookups (scalar_datetime_of_date hf hg) h

/-- A duration that is no datetime, a week and a year as datetimes and as dates, and a list
of a duration and a leap day in both orders and for both kinds of fields. -/
theorem attempts_exclusive_leapDay :
    let date := (ofKind "due" .date).withLookups ["in"]
    let datetime := (ofKind "due" .datetime).withLookups ["in"]
    let leapDay : Date := ⟨2020, 2, 29⟩
    let raw : Json := .arr [.str "P1D", .str "2020-02-29"]
    let day : Duration := ⟨none, none, none, some 1, none, none, none⟩
    ¬ Grammar.datetime.Accepts "P1D" ∧
      DateTime.parse "2020-W53" = .ok ⟨⟨2020, 12, 28⟩, .midnight, none⟩ ∧
      (∃ d, WrittenDate.parse "+2020" = .ok d) ∧
      date.scalar (.str "2020-02-29") = .ok (.date ⟨leapDay, .day⟩) ∧
      date.validateAbsoluteFirst raw "in"
        = .ok (.many [.relative day .date, .date ⟨leapDay, .day⟩]) ∧
      datetime.validate raw "in"
        = .ok (.many [.relative day .datetime, .datetime ⟨leapDay, .midnight, none⟩]) := by
  intro date datetime leapDay raw day
  obtain ⟨hunique, hmidnight, hdate, htaken, horder, hdatetime⟩ := attempts_exclusive
  have hvalue : date.validate raw "in"
      = .ok (.many [.relative day .date, .date ⟨leapDay, .day⟩]) := rfl
  have hduration : Duration.parse "P1D" = .ok ⟨none, none, none, some 1, none, none, none⟩ := by
    decide
  refine ⟨fun hboth => ?_, hmidnight _ ⟨_, .week⟩ rfl,
    hdate _ _ (by decide) (by decide) rfl, (htaken date _).1 _ rfl rfl,
    (horder _ _ _ _).mpr hvalue, hdatetime date datetime rfl rfl rfl _ _ _ hvalue⟩
  have hsame : Grammar.duration = .datetime :=
    hunique _ _ _ (by simp) (by simp) ⟨_, hduration⟩ hboth
  cases hsame

end Field

end Criteria

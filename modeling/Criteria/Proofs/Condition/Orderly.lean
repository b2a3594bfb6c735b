/-
What no handler can break.

A handler sees a resolution only through the steps of a script. Whatever
script it gives, the calls that resolve a document, a child or a list of
conditions leave the trail as it was, keep what has been reported before, and
report only on the node they are about and on nodes below it; a call without a
result has reported something.

* `Progress.Extends`: the growth of a resolution below a place, a preorder
  that reports and visits respect;
* `Script.run_extends`: every script runs in this order, when the visits do;
* `Progress.Orderly`: growth, with a report for a missing result;
* `Engine.resolveIn_orderly`, `Engine.run_resolveConditions_orderly`: the calls
  are orderly, by induction on the bound and on the list;
* `Engine.calls_orderly`: all of this, with the report of the engine on a
  silent handler and what it means for the outcome of a document.
-/
import Criteria.Condition.Kinds
import Criteria.Proofs.Condition.Run

namespace Criteria

variable {α : Type} {registry : Registry}
  {visit : Json → Progress → Option (Option Condition × Progress)}

namespace Progress

/-! ### Growth below a place -/

/-- A resolution that stood at `p` has come to `q` and worked only below a
place: the trail is the same, and new diagnostics follow the earlier ones, each
located at the place or below it. -/
structure Extends (place : List String) (p q : Progress) : Prop where
  trail_eq : q.trail = p.trail
  appended : ∃ new, q.diagnostics = p.diagnostics ++ new ∧
    ∀ d ∈ new, place <+: d.location.segments

namespace Extends

variable {place : List String} {p q r : Progress}

lemma refl (place : List String) (p : Progress) : Extends place p p :=
  ⟨rfl, [], by simp, by simp⟩

lemma trans (h : Extends place p q) (h' : Extends place q r) : Extends place p r := by
  obtain ⟨new, heq, hnew⟩ := h.appended
  obtain ⟨new', heq', hnew'⟩ := h'.appended
  refine ⟨h'.trail_eq.trans h.trail_eq, new ++ new', ?_, ?_⟩
  · rw [heq', heq, List.append_assoc]
  · intro d hd
    rcases List.mem_append.mp hd with hd | hd
    · exact hnew d hd
    · exact hnew' d hd

/-- A place further up holds what a place below it holds. -/
lemma mono {place' : List String} (h : Extends place p q) (hle : place' <+: place) :
    Extends place' p q := by
  obtain ⟨new, heq, hnew⟩ := h.appended
  exact ⟨h.trail_eq, new, heq, fun d hd => hle.trans (hnew d hd)⟩

/-- A report is located at the current node. -/
lemma report (p : Progress) (rejection : Rejection) :
    Extends p.location.segments p (p.report rejection) :=
  ⟨rfl, [⟨p.location, rejection⟩], rfl, by simp⟩

/-- What grows between going down and going up grows all the same. -/
lemma leave {segments : List String} (h : Extends place (p.enter segments) q) :
    Extends place p (q.leave segments.length) :=
  ⟨trail_leave_of_enter h.trail_eq, by simpa using h.appended⟩

/-- The current node is the same after growth. -/
lemma location_eq (h : Extends place p q) : q.location = p.location := by
  rw [location, location, h.trail_eq]

lemma length_le (h : Extends place p q) : p.diagnostics.length ≤ q.diagnostics.length := by
  obtain ⟨new, heq, -⟩ := h.appended
  simp [heq]

/-- Growth without a new diagnostic is none. -/
lemma eq_of_length_eq (h : Extends place p q)
    (hlen : q.diagnostics.length = p.diagnostics.length) : q = p := by
  obtain ⟨new, heq, -⟩ := h.appended
  have hnil : new = [] := by simpa [heq] using hlen
  have htrail := h.trail_eq
  cases p
  cases q
  simp_all

end Extends

/-- A call that was made at `p` has ended at `q` in good order: it worked only
below its place, and if it found nothing it has reported something. -/
structure Orderly (place : List String) (p : Progress) (found : Option α) (q : Progress) : Prop
    extends Extends place p q where
  reported : found = none → p.diagnostics.length < q.diagnostics.length

namespace Orderly

variable {place : List String} {p q : Progress}

/-- A report on the current node accounts for a missing result. -/
lemma report (p : Progress) (rejection : Rejection) :
    Orderly p.location.segments p (none : Option α) (p.report rejection) :=
  ⟨.report p rejection, fun _ => by simp⟩

/-- A call below the current node, made after going down and before going up. -/
lemma leave {segments : List String} {found : Option α}
    (h : Orderly place (p.enter segments) found q) :
    Orderly place p found (q.leave segments.length) :=
  ⟨h.toExtends.leave, h.reported⟩

/-- The settlement puts a result in good order. -/
lemma settle (h : Extends p.location.segments p q) (kind : String)
    (found : Option Condition) :
    Orderly p.location.segments p (p.settle kind (found, q)).1
      (p.settle kind (found, q)).2 := by
  cases found with
  | some c => exact ⟨h, fun hnone => absurd hnone (by simp [Progress.settle])⟩
  | none =>
      rw [Progress.settle]
      split
      · rename_i hlen
        rw [h.eq_of_length_eq hlen]
        exact .report p _
      · rename_i hlen
        exact ⟨h, fun _ => Nat.lt_of_le_of_ne h.length_le (Ne.symm hlen)⟩

end Orderly

end Progress

open Progress

/-! ### Runs of scripts -/

namespace Script

/-- Any script works only below the current node, when its visits work only
below theirs. -/
theorem run_extends
    (hvisit : ∀ document p found q, visit document p = some (found, q) →
      Extends p.location.segments p q)
    (s : Script α) {p q : Progress} {a : α} (h : s.run registry visit p = some (a, q)) :
    Extends p.location.segments p q := by
  induction s generalizing p with
  | done a =>
      obtain ⟨-, rfl⟩ := Prod.mk.inj (Option.some.inj h)
      exact .refl _ _
  | report rejection next ih => exact (Extends.report p rejection).trans (ih h)
  | look next ih => exact ih _ h
  | visit segments document next ih =>
      obtain ⟨⟨found, q'⟩, hresult, hrest⟩ := run_visit_eq_some_iff.mp h
      have hgrow := hvisit document _ _ _ hresult
      rw [segments_location_enter] at hgrow
      have hback := (hgrow.mono (List.prefix_append _ _)).leave
      refine hback.trans ?_
      rw [← hback.location_eq]
      exact ih _ hrest

/-- A child is resolved in good order below its segment. -/
lemma run_resolveChild_orderly
    (hvisit : ∀ document p found q, visit document p = some (found, q) →
      Orderly p.location.segments p found q)
    {segments : List String} {document : Json} {p q : Progress} {found : Option Condition}
    (h : (Script.visit segments document .done).run registry visit p = some (found, q)) :
    Orderly (p.location.segments ++ segments) p found q := by
  rw [run_visit] at h
  obtain ⟨⟨found', q'⟩, hd, heq⟩ := Option.map_eq_some_iff.mp h
  obtain ⟨rfl, rfl⟩ := Prod.mk.inj heq
  have horder := hvisit document _ _ _ hd
  rw [segments_location_enter] at horder
  exact horder.leave

/-- The items of a list are resolved in good order: one that fails has
reported, and what follows it only adds to that. -/
lemma run_resolveItems_orderly
    (hvisit : ∀ document p found q, visit document p = some (found, q) →
      Orderly p.location.segments p found q)
    (items : List Json) {index : Nat} {p q : Progress} {found : Option (List Condition)}
    (h : (resolveItems index items).run registry visit p = some (found, q)) :
    Orderly p.location.segments p found q := by
  refine ⟨run_extends (fun d p f q hd => (hvisit d p f q hd).toExtends) _ h, ?_⟩
  -- what is left is that a missing list was reported on the way
  induction items generalizing index p found with
  | nil =>
      obtain ⟨rfl, -⟩ := Prod.mk.inj (Option.some.inj h)
      exact fun hnone => absurd hnone (by simp)
  | cons item items ih =>
      rw [resolveItems, run_bind] at h
      obtain ⟨⟨first, q₁⟩, hfirst, h⟩ := Option.bind_eq_some_iff.mp h
      rw [run_bind] at h
      obtain ⟨⟨rest, q₂⟩, hrest, h⟩ := Option.bind_eq_some_iff.mp h
      have hone := run_resolveChild_orderly hvisit hfirst
      have hmore := run_extends (fun d p f q hd => (hvisit d p f q hd).toExtends) _ hrest
      cases first with
      | none =>
          obtain ⟨-, rfl⟩ := Prod.mk.inj (Option.some.inj h)
          exact fun _ => Nat.lt_of_lt_of_le (hone.reported rfl) hmore.length_le
      | some c =>
          cases rest with
          | none =>
              obtain ⟨-, rfl⟩ := Prod.mk.inj (Option.some.inj h)
              exact fun _ => Nat.lt_of_le_of_lt hone.length_le (ih hrest rfl)
          | some cs =>
              obtain ⟨rfl, -⟩ := Prod.mk.inj (Option.some.inj h)
              exact fun hnone => absurd hnone (by simp)

/-- The list of conditions of a body is resolved in good order, also when the
body has none. -/
lemma run_resolveConditions_orderly
    (hvisit : ∀ document p found q, visit document p = some (found, q) →
      Orderly p.location.segments p found q)
    {body : Body} {p q : Progress} {found : Option (List Condition)}
    (h : (resolveConditions body).run registry visit p = some (found, q)) :
    Orderly p.location.segments p found q := by
  rw [resolveConditions] at h
  split at h
  · exact run_resolveItems_orderly hvisit _ h
  · obtain ⟨rfl, rfl⟩ := Prod.mk.inj (Option.some.inj h)
    exact .report p _

end Script

/-! ### Calls of an engine -/

namespace Engine

/-- A document is resolved in good order, whatever the handlers do. The
induction is on the bound: the visits of a handler run with a smaller one. -/
theorem resolveIn_orderly (e : Engine) {bound : Nat} {document : Json} {p q : Progress}
    {found : Option Condition} (h : e.resolveIn bound document p = some (found, q)) :
    Orderly p.location.segments p found q := by
  induction bound generalizing document p found q with
  | zero => exact absurd h (by simp [resolveIn])
  | succ bound ih =>
      obtain ⟨rejection, -, heq⟩ | ⟨kind, script, ⟨found', q'⟩, -, hrun, heq⟩ :=
        resolveIn_succ_eq_some_iff.mp h
      · obtain ⟨rfl, rfl⟩ := Prod.mk.inj heq
        exact .report p rejection
      · have hgrow := Script.run_extends (fun d p f q hd => (ih hd).toExtends) _ hrun
        have horder := Orderly.settle hgrow kind found'
        rwa [heq] at horder

/-- The steps of a handler work only below the current node. -/
lemma run_extends (e : Engine) {bound : Nat} {s : Script α} {p q : Progress} {a : α}
    (h : s.run e.registry (e.resolveIn bound) p = some (a, q)) :
    Extends p.location.segments p q :=
  Script.run_extends (fun _ _ _ _ hcall => (e.resolveIn_orderly hcall).toExtends) s h

/-- A handler that gives no condition and reports nothing gets the report of
the engine; the result of any other handler stands. -/
lemma resolveIn_of_handler (e : Engine) {bound : Nat} {body : Body} {kind : String}
    {handler : Handler} {p q : Progress} {found : Option Condition}
    (hkind : Json.findMember kindKey body = some (.str kind)) (hne : kind ≠ "")
    (hhandler : e.handler? kind = some handler)
    (hrun : (handler body).run e.registry (e.resolveIn bound) p = some (found, q)) :
    (found = none ∧ q.diagnostics = p.diagnostics →
      e.resolveIn (bound + 1) (.obj body) p
        = some (none, p.report (.invalid (kind ++ " condition could not be resolved")))) ∧
    (¬ (found = none ∧ q.diagnostics = p.diagnostics) →
      e.resolveIn (bound + 1) (.obj body) p = some (found, q)) := by
  have hgrow := e.run_extends hrun
  have hdispatch : e.dispatch (.obj body) = .ok (kind, handler body) := by
    simp [dispatch, Body.text?_eq_some_iff.mpr hkind, hne, hhandler]
  rw [resolveIn_succ, hdispatch]
  simp only [hrun, Option.map_some, Option.some.injEq]
  constructor
  · rintro ⟨rfl, hsame⟩
    rw [hgrow.eq_of_length_eq (congrArg List.length hsame), settle, if_pos rfl]
  · intro hnot
    cases found with
    | some c => rfl
    | none =>
        have hlen : ¬ q.diagnostics.length = p.diagnostics.length := fun hlen =>
          hnot ⟨rfl, by rw [hgrow.eq_of_length_eq hlen]⟩
        rw [settle, if_neg hlen]

/-- The outcome of a document is the condition that was found, when nothing
was reported, and else the list of all reports. -/
lemma resolveWithin_cases (e : Engine) {bound : Nat} {document : Json} {outcome : Outcome}
    (h : e.resolveWithin bound document = some outcome) :
    ∃ found q, e.resolveIn bound document .start = some (found, q) ∧
      ((∃ c, found = some c ∧ q.diagnostics = [] ∧ outcome = .ok c) ∨
        (q.diagnostics ≠ [] ∧ outcome = .error ⟨q.diagnostics⟩)) := by
  obtain ⟨⟨found, q⟩, hrun, rfl⟩ := Option.map_eq_some_iff.mp h
  refine ⟨found, q, hrun, ?_⟩
  by_cases hnil : q.diagnostics = []
  · cases found with
    | some c => exact .inl ⟨c, rfl, hnil, by simp [Engine.outcome, hnil]⟩
    | none =>
        have hreported := (e.resolveIn_orderly hrun).reported rfl
        exact absurd hreported (by simp [hnil])
  · exact .inr ⟨hnil, by simp [Engine.outcome, hnil]⟩

/-- **Calls are orderly.** Whatever the handlers of an engine do, and wherever
a resolution stands, a call that returns has left the trail as it was, kept
the earlier diagnostics, and added only diagnostics at its node or below it, at
least one when it gives nothing. The engine reports on a handler exactly when
that gives nothing and has added nothing. So a document has a condition exactly
when nothing was reported on the way, a refusal is never empty, and there is no
end without a condition and without a report. -/
theorem calls_orderly (e : Engine) (bound : Nat) (p : Progress) :
    (∀ document found q, e.resolveIn bound document p = some (found, q) →
      Orderly p.location.segments p found q) ∧
    (∀ segment document found q,
      (Script.resolveChild segment document).run e.registry (e.resolveIn bound) p
        = some (found, q) →
      Orderly (p.location.segments ++ [segment]) p found q) ∧
    (∀ body found q,
      (Script.resolveConditions body).run e.registry (e.resolveIn bound) p = some (found, q) →
      Orderly p.location.segments p found q) ∧
    (∀ body kind handler found q, Json.findMember kindKey body = some (.str kind) →
      kind ≠ "" → e.handler? kind = some handler →
      (handler body).run e.registry (e.resolveIn bound) p = some (found, q) →
      (found = none ∧ q.diagnostics = p.diagnostics →
        e.resolveIn (bound + 1) (.obj body) p
          = some (none, p.report (.invalid (kind ++ " condition could not be resolved")))) ∧
      (¬ (found = none ∧ q.diagnostics = p.diagnostics) →
        e.resolveIn (bound + 1) (.obj body) p = some (found, q))) ∧
    (∀ document outcome, e.resolveWithin bound document = some outcome →
      (∀ bound' outcome', e.resolveWithin bound' document = some outcome' →
        outcome' = outcome) ∧
      ∃ found q, e.resolveIn bound document .start = some (found, q) ∧
        ((∃ c, outcome = .ok c) ↔ q.diagnostics = []) ∧
        (∀ c, outcome = .ok c → found = some c) ∧
        (∀ refusal, outcome = .error refusal →
          refusal.diagnostics = q.diagnostics ∧ refusal.diagnostics ≠ []) ∧
        ¬ (found = none ∧ q.diagnostics = [])) := by
  have hvisit : ∀ document p found q, e.resolveIn bound document p = some (found, q) →
      Orderly p.location.segments p found q := fun _ _ _ _ h => e.resolveIn_orderly h
  refine ⟨fun document found q h => hvisit document p found q h,
    fun segment document found q h => Script.run_resolveChild_orderly hvisit h,
    fun body found q h => Script.run_resolveConditions_orderly hvisit h,
    fun body kind handler found q hkind hne hhandler hrun =>
      e.resolveIn_of_handler hkind hne hhandler hrun,
    fun document outcome h => ⟨fun bound' outcome' h' => ?_, ?_⟩⟩
  · exact e.resolveWithin_unique h' h
  · obtain ⟨found, q, hrun, hcases⟩ := e.resolveWithin_cases h
    refine ⟨found, q, hrun, ?_⟩
    rcases hcases with ⟨c, rfl, hnil, rfl⟩ | ⟨hne, rfl⟩
    · simp [hnil]
    · simp [hne]

/-- An engine with a kind that gives up in silence and a kind that reports and
goes on all the same. -/
def reporting : Engine :=
  ((Engine.standard .empty).register "never" Handler.never).register "noted" Handler.noted

/-- The calls of such an engine on a silent document, on a child, in a list and
inside a document that was reported already. -/
theorem calls_orderly_reporting :
    Orderly [] .start (none : Option Condition)
      ⟨[], [⟨.root, .invalid "noted"⟩,
        ⟨⟨["inner"]⟩, .invalid "never condition could not be resolved"⟩]⟩ ∧
    Orderly ["inner"] .start (none : Option Condition)
      ⟨[], [⟨⟨["inner"]⟩, .invalid "never condition could not be resolved"⟩]⟩ ∧
    Orderly [] .start (none : Option (List Condition))
      ⟨[], [⟨⟨["conditions", "0"]⟩, .invalid "never condition could not be resolved"⟩]⟩ ∧
    reporting.resolveIn 2 (.obj [("kind", .str "never")]) .start
      = some (none, ⟨[], [⟨.root, .invalid "never condition could not be resolved"⟩]⟩) ∧
    ∃ found q, reporting.resolveIn 2
        (.obj [("kind", .str "noted"), ("inner", .obj [("kind", .str "never")])]) .start
        = some (found, q) ∧ q.diagnostics ≠ [] := by
  have h := calls_orderly reporting 2 .start
  have h' := calls_orderly reporting 1 .start
  refine ⟨h.1 (.obj [("kind", .str "noted"), ("inner", .obj [("kind", .str "never")])]) none _ rfl,
    h.2.1 "inner" (.obj [("kind", .str "never")]) none _ rfl,
    h.2.2.1 [("conditions", .arr [.obj [("kind", .str "never")]])] none _ rfl,
    (h'.2.2.2.1 [("kind", .str "never")] "never" Handler.never none .start rfl (by decide) rfl
      rfl).1 ⟨rfl, rfl⟩, ?_⟩
  obtain ⟨-, found, q, hrun, -, -, hrefusal, -⟩ := h.2.2.2.2
    (.obj [("kind", .str "noted"), ("inner", .obj [("kind", .str "never")])]) _ rfl
  exact ⟨found, q, hrun, (hrefusal _ rfl).1 ▸ (hrefusal _ rfl).2⟩

end Engine

end Criteria

/-
How scripts run and how documents reach their handlers.

* `Script.run_bind`: two scripts in a row run one on what the other leaves;
* `Engine.dispatch`: what the table of kinds holds for a document, the script
  of a handler or the rejection of a document that reaches none;
* `Progress.settle`: the report of the engine itself on a handler that gives
  up in silence;
* `Engine.resolveIn_succ`: a resolution is a dispatch, a run of the script and
  the settlement of its result. Later proofs rest on this equation, or on
  `Engine.resolveIn_succ_eq_some_iff`, and do not unfold `Engine.resolveIn`;
* `Engine.resolveIn_mono`: a result does not depend on the bound.
-/
import Criteria.Condition.Engine
import Mathlib.Tactic.Lemma

namespace Criteria

variable {α β : Type} {registry : Registry}
  {visit : Json → Progress → Option (Option Condition × Progress)}

/-! ### The progress of a resolution -/

namespace Progress

@[simp] lemma diagnostics_report (p : Progress) (rejection : Rejection) :
    (p.report rejection).diagnostics = p.diagnostics ++ [⟨p.location, rejection⟩] := rfl

@[simp] lemma diagnostics_enter (p : Progress) (segments : List String) :
    (p.enter segments).diagnostics = p.diagnostics := rfl

@[simp] lemma diagnostics_leave (p : Progress) (count : Nat) :
    (p.leave count).diagnostics = p.diagnostics := rfl

/-- Going down appends the segments to the location. -/
@[simp] lemma segments_location_enter (p : Progress) (segments : List String) :
    (p.enter segments).location.segments = p.location.segments ++ segments := by
  simp [enter, location]

/-- Going down twice is going down by the segments of both. -/
lemma enter_enter (p : Progress) (segments segments' : List String) :
    (p.enter segments).enter segments' = p.enter (segments ++ segments') := by
  simp [enter]

/-- Going up undoes going down. -/
lemma trail_leave_of_enter {p q : Progress} {segments : List String}
    (h : q.trail = (p.enter segments).trail) : (q.leave segments.length).trail = p.trail := by
  simp [leave, h, enter]

/-- What a resolution makes of the result of a handler: one that gives no
condition and has reported nothing since `p` gets a report of its own. -/
def settle (p : Progress) (kind : String) :
    Option Condition × Progress → Option Condition × Progress
  | (some c, q) => (some c, q)
  | (none, q) =>
    if q.diagnostics.length = p.diagnostics.length then
      (none, q.report (.invalid (kind ++ " condition could not be resolved")))
    else (none, q)

end Progress

/-! ### Runs of scripts -/

namespace Script

@[simp] lemma run_pure (a : α) (p : Progress) :
    (pure a : Script α).run registry visit p = some (a, p) := rfl

/-- Two scripts in a row run one on what the other leaves. -/
@[simp] lemma run_bind (s : Script α) (f : α → Script β) (p : Progress) :
    (s >>= f).run registry visit p
      = (s.run registry visit p).bind fun r => (f r.1).run registry visit r.2 := by
  change (bind s f).run registry visit p = _
  induction s generalizing p with
  | done a => rfl
  | report rejection next ih => exact ih (p.report rejection)
  | look next ih => exact ih _ p
  | visit segments document next ih =>
      rw [bind, run, run]
      cases visit document (p.enter segments) with
      | none => rfl
      | some r => exact ih r.1 (r.2.leave segments.length)

@[simp] lemma run_place (p : Progress) :
    place.run registry visit p
      = some (⟨p.location, p.diagnostics.length, registry⟩, p) := rfl

/-- A visit resolves the document below the current place and comes back. -/
@[simp] lemma run_visit (segments : List String) (document : Json) (p : Progress) :
    (Script.visit segments document .done).run registry visit p
      = (visit document (p.enter segments)).map fun r => (r.1, r.2.leave segments.length) := by
  rw [run]
  cases visit document (p.enter segments) <;> rfl

/-- A script that begins with a visit ends when the visit does, and then the rest
of the script, at the place where it began. -/
lemma run_visit_eq_some_iff {segments : List String} {document : Json}
    {next : Option Condition → Script α} {p : Progress} {r : α × Progress} :
    (Script.visit segments document next).run registry visit p = some r
      ↔ ∃ result, visit document (p.enter segments) = some result ∧
        (next result.1).run registry visit (result.2.leave segments.length) = some r := by
  rw [run]
  cases visit document (p.enter segments) with
  | none => simp
  | some result => simp

end Script

/-! ### From a document to its handler -/

namespace Body

/-- The text under a key of a body. -/
def text? (body : Body) (key : String) : Option String :=
  (Json.findMember key body).bind Json.str?

lemma text?_eq_some_iff {body : Body} {key s : String} :
    body.text? key = some s ↔ Json.findMember key body = some (.str s) := by
  rw [text?, Option.bind_eq_some_iff]
  constructor
  · rintro ⟨value, hvalue, hs⟩
    cases value with
    | str s' => rw [hvalue, Option.some.inj hs]
    | _ => exact absurd hs (by simp [Json.str?])
  · intro h
    exact ⟨.str s, h, rfl⟩

end Body

/-- A key is read, or reported when there is no text under it. -/
@[simp] lemma Script.run_stringKey (body : Body) (key : String) (p : Progress) :
    (Script.stringKey body key).run registry visit p
      = match body.text? key with
        | some s => some (some s, p)
        | none => some (none, p.report (.missingKey key)) := by
  rw [stringKey, Body.text?]
  cases Json.findMember key body with
  | none => rfl
  | some value => cases value <;> rfl

namespace Engine

/-- What the table of kinds holds for a document: the kind with the script of
its handler, or the rejection of a document that reaches no handler. -/
def dispatch (e : Engine) : Json → Except Rejection (String × Script (Option Condition))
  | .obj body =>
    match Body.text? body kindKey with
    | some kind =>
      if kind = "" then .error .missingKind
      else match e.handler? kind with
        | none => .error (.unknownKind kind)
        | some handler => .ok (kind, handler body)
    | none => .error .missingKind
  | _ => .error .notAnObject

/-- A resolution is a dispatch, a run of the script and the settlement of its
result. -/
theorem resolveIn_succ (e : Engine) (bound : Nat) (document : Json) (p : Progress) :
    e.resolveIn (bound + 1) document p
      = match e.dispatch document with
        | .error rejection => some (none, p.report rejection)
        | .ok (kind, script) =>
          (script.run e.registry (e.resolveIn bound) p).map (p.settle kind) := by
  cases document with
  | obj body =>
      rw [resolveIn, dispatch, Body.text?]
      cases Json.findMember kindKey body with
      | none => rfl
      | some found =>
          cases found with
          | str kind =>
              by_cases hkind : kind = ""
              · simp [hkind, Json.str?]
              · simp only [Option.bind_some, Json.str?, hkind, if_false]
                cases e.handler? kind with
                | none => rfl
                | some handler =>
                    simp only
                    generalize (handler body).run e.registry (e.resolveIn bound) p = result
                    rcases result with _ | ⟨_ | c, q⟩
                    · rfl
                    · simp only [Option.map_some, Progress.settle]
                      split <;> rfl
                    · rfl
          | _ => rfl
  | _ => rfl

/-- A call that ends was rejected at the dispatch, or else its handler has ended and
the result is settled. -/
theorem resolveIn_succ_eq_some_iff {e : Engine} {bound : Nat} {document : Json} {p : Progress}
    {r : Option Condition × Progress} :
    e.resolveIn (bound + 1) document p = some r
      ↔ (∃ rejection, e.dispatch document = .error rejection ∧ (none, p.report rejection) = r) ∨
        ∃ kind script result, e.dispatch document = .ok (kind, script) ∧
          script.run e.registry (e.resolveIn bound) p = some result ∧
          p.settle kind result = r := by
  rw [resolveIn_succ]
  cases e.dispatch document with
  | error rejection => simp
  | ok handler =>
      obtain ⟨kind, script⟩ := handler
      constructor
      · intro h
        obtain ⟨result, hrun, hsettle⟩ := Option.map_eq_some_iff.mp h
        exact .inr ⟨kind, script, result, rfl, hrun, hsettle⟩
      · rintro (⟨_, hdispatch, -⟩ | ⟨_, _, result, hdispatch, hrun, hsettle⟩)
        · cases hdispatch
        · cases hdispatch
          exact Option.map_eq_some_iff.mpr ⟨result, hrun, hsettle⟩

end Engine

/-! ### The bound -/

/-- A script has the same result with visits that answer more often. -/
lemma Script.run_mono {visit' : Json → Progress → Option (Option Condition × Progress)}
    (hvisit : ∀ document p r, visit document p = some r → visit' document p = some r)
    (s : Script α) {p : Progress} {r : α × Progress} (h : s.run registry visit p = some r) :
    s.run registry visit' p = some r := by
  induction s generalizing p with
  | done a => exact h
  | report rejection next ih => exact ih h
  | look next ih => exact ih _ h
  | visit segments document next ih =>
      obtain ⟨result, hresult, hrest⟩ := run_visit_eq_some_iff.mp h
      exact run_visit_eq_some_iff.mpr ⟨result, hvisit _ _ _ hresult, ih _ hrest⟩

/-- A result does not depend on the bound: a greater one gives it too. -/
theorem Engine.resolveIn_mono (e : Engine) {bound bound' : Nat} (hle : bound ≤ bound')
    {document : Json} {p : Progress} {r : Option Condition × Progress}
    (h : e.resolveIn bound document p = some r) : e.resolveIn bound' document p = some r := by
  induction bound generalizing bound' document p r with
  | zero => exact absurd h (by simp [resolveIn])
  | succ bound ih =>
      obtain ⟨bound', rfl⟩ : ∃ n, bound' = n + 1 := ⟨bound' - 1, by omega⟩
      have hmore : ∀ d p r, e.resolveIn bound d p = some r → e.resolveIn bound' d p = some r :=
        fun d p r hr => ih (by omega) hr
      rw [resolveIn_succ_eq_some_iff] at h ⊢
      rcases h with hrejected | ⟨kind, script, result, hdispatch, hrun, hsettle⟩
      · exact .inl hrejected
      · exact .inr ⟨kind, script, result, hdispatch, Script.run_mono hmore _ hrun, hsettle⟩

/-- A document has at most one outcome, whatever the bound. -/
lemma Engine.resolveWithin_unique (e : Engine) {bound bound' : Nat} {document : Json}
    {outcome outcome' : Outcome} (h : e.resolveWithin bound document = some outcome)
    (h' : e.resolveWithin bound' document = some outcome') : outcome = outcome' := by
  obtain ⟨r, hr, rfl⟩ := Option.map_eq_some_iff.mp h
  obtain ⟨r', hr', rfl⟩ := Option.map_eq_some_iff.mp h'
  have hmax := e.resolveIn_mono (Nat.le_max_left bound bound') hr
  have hmax' := e.resolveIn_mono (Nat.le_max_right bound bound') hr'
  rw [Option.some.inj (hmax.symm.trans hmax')]

end Criteria

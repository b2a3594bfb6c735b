/-
Nested calls and the paths that spell them.

A handler has documents resolved below its own place, and the handlers of these
do the same. What the calls around a moment have asked for, segment by segment,
is told here apart from the trail that the resolution itself keeps, which goes
down and up with every call.

* `Engine.Stands`: the moments of a resolution, with the segments of the calls
  around each of them and the progress at that moment;
* `Engine.Stands.segments_eq`: one step at a time, the trail is these segments,
  also after calls that have come back;
* `Engine.Reports`: what is reported at a moment, by a handler or by the engine;
  `Engine.exists_reports_of_resolveIn` finds the moment of each diagnostic of a
  run, by induction on the bound and on the steps of a handler;
* `Engine.paths_spell_calls`: the path of a moment is decoded to the segments of
  the calls around it, so paths tell the places of reports apart.
-/
import Criteria.Condition.Kinds
import Criteria.Proofs.Condition.Orderly
import Criteria.Proofs.Json.Pointer

namespace Criteria

/-! ### Moments -/

/-- What comes next in a resolution. -/
inductive Moment where
  /-- A document is resolved. -/
  | call (document : Json)
  /-- A handler goes on with its steps. -/
  | steps (script : Script (Option Condition))

/-- The moments of the resolutions of an engine. At each of them the engine
stands inside of nested calls, whose segments are listed from the outermost on,
and has come to some progress. -/
inductive Engine.Stands (e : Engine) : List String → Moment → Progress → Prop
  /-- A resolution begins outside of all calls. -/
  | start (document : Json) : Stands e [] (.call document) .start
  /-- A document is handed to the handler of its kind. -/
  | handle {calls : List String} {document : Json} {kind : String}
      {script : Script (Option Condition)} {p : Progress} :
      Stands e calls (.call document) p → e.dispatch document = .ok (kind, script) →
      Stands e calls (.steps script) p
  /-- A handler reports a rejection. -/
  | report {calls : List String} {rejection : Rejection} {next : Script (Option Condition)}
      {p : Progress} :
      Stands e calls (.steps (.report rejection next)) p →
      Stands e calls (.steps next) (p.report rejection)
  /-- A handler looks at its place. -/
  | look {calls : List String} {next : Place → Script (Option Condition)} {p : Progress} :
      Stands e calls (.steps (.look next)) p →
      Stands e calls (.steps (next ⟨p.location, p.diagnostics.length, e.registry⟩)) p
  /-- A handler calls for a document below its place. -/
  | enter {calls segments : List String} {document : Json}
      {next : Option Condition → Script (Option Condition)} {p : Progress} :
      Stands e calls (.steps (.visit segments document next)) p →
      Stands e (calls ++ segments) (.call document) (p.enter segments)
  /-- The call has come back, and the handler goes on. -/
  | leave {calls segments : List String} {document : Json}
      {next : Option Condition → Script (Option Condition)} {p q : Progress} {bound : Nat}
      {found : Option Condition} :
      Stands e calls (.steps (.visit segments document next)) p →
      e.resolveIn bound document (p.enter segments) = some (found, q) →
      Stands e calls (.steps (next found)) (q.leave segments.length)

/-- What is reported inside of nested calls. -/
inductive Engine.Reports (e : Engine) (calls : List String) : Diagnostic → Prop
  /-- A document that reaches no handler is rejected. -/
  | unhandled {document : Json} {rejection : Rejection} {p : Progress} :
      e.Stands calls (.call document) p → e.dispatch document = .error rejection →
      Reports e calls ⟨p.location, rejection⟩
  /-- A handler reports a rejection. -/
  | handler {rejection : Rejection} {next : Script (Option Condition)} {p : Progress} :
      e.Stands calls (.steps (.report rejection next)) p → Reports e calls ⟨p.location, rejection⟩
  /-- A handler has ended without a condition and without a report. -/
  | silent {document : Json} {kind : String} {script : Script (Option Condition)}
      {p q : Progress} {bound : Nat} :
      e.Stands calls (.call document) p → e.dispatch document = .ok (kind, script) →
      script.run e.registry (e.resolveIn bound) p = some (none, q) →
      q.diagnostics.length = p.diagnostics.length →
      Reports e calls ⟨q.location, .invalid (kind ++ " condition could not be resolved")⟩

namespace Engine

variable {e : Engine} {calls : List String} {moment : Moment} {p q : Progress} {bound : Nat}

/-! ### The trail at a moment -/

/-- The trail is made of the segments of the calls around a moment: a call adds
its own, and has taken them back when the handler goes on. -/
theorem Stands.segments_eq (h : e.Stands calls moment p) : p.location.segments = calls := by
  induction h with
  | start document => rfl
  | handle _ _ ih => exact ih
  | report _ ih => exact ih
  | look _ ih => exact ih
  | enter _ ih => rw [Progress.segments_location_enter, ih]
  | leave _ hcall ih =>
      have hback := (e.resolveIn_orderly hcall).toExtends.leave
      rw [hback.location_eq, ih]

/-- A report is located at the calls around it. -/
lemma Reports.segments_eq {d : Diagnostic} (h : e.Reports calls d) :
    d.location.segments = calls := by
  cases h with
  | unhandled hstands _ => exact hstands.segments_eq
  | handler hstands => exact hstands.segments_eq
  | silent hstands _ hrun _ =>
      rw [(e.run_extends hrun).location_eq]
      exact hstands.segments_eq

/-- The path of a moment is decoded to the calls around it. -/
lemma Stands.decode_eq (h : e.Stands calls moment p) :
    Pointer.decode p.location.text = calls := by
  rw [Pointer.decode_text, h.segments_eq]

lemma Reports.decode_eq {d : Diagnostic} (h : e.Reports calls d) :
    Pointer.decode d.path = calls := by
  rw [Diagnostic.path, Pointer.decode_text, h.segments_eq]

/-! ### The moments of the diagnostics -/

/-- What a resolution has reported on the way from `p` to `q` was reported at some
of its moments. -/
def Accounts (e : Engine) (p q : Progress) : Prop :=
  ∀ d ∈ q.diagnostics, d ∈ p.diagnostics ∨ ∃ calls, e.Reports calls d

lemma accounts_refl (e : Engine) (p : Progress) : e.Accounts p p := fun _ hd => .inl hd

lemma Accounts.trans {r : Progress} (h : e.Accounts p q) (h' : e.Accounts q r) :
    e.Accounts p r := fun d hd => (h' d hd).elim (h d) .inr

/-- Going down and up adds nothing that is to be accounted for. -/
lemma Accounts.leave {segments : List String} (h : e.Accounts (p.enter segments) q) :
    e.Accounts p (q.leave segments.length) := h

/-- A report accounts for the one diagnostic that it adds. -/
lemma accounts_report {rejection : Rejection} (h : e.Reports calls ⟨p.location, rejection⟩) :
    e.Accounts p (p.report rejection) := by
  intro d hd
  rw [Progress.diagnostics_report, List.mem_append, List.mem_singleton] at hd
  rcases hd with hold | rfl
  · exact .inl hold
  · exact .inr ⟨calls, h⟩

/-- The steps of a handler account for what they report, when the calls on the way
do. -/
lemma accounts_run
    (hcall : ∀ {calls : List String} {document : Json} {p q : Progress}
      {found : Option Condition}, e.Stands calls (.call document) p →
      e.resolveIn bound document p = some (found, q) → e.Accounts p q)
    {script : Script (Option Condition)} {found : Option Condition}
    (hstands : e.Stands calls (.steps script) p)
    (hrun : script.run e.registry (e.resolveIn bound) p = some (found, q)) :
    e.Accounts p q := by
  induction script generalizing p with
  | done a =>
      obtain ⟨-, rfl⟩ := Prod.mk.inj (Option.some.inj hrun)
      exact e.accounts_refl p
  | report rejection next ih =>
      exact (accounts_report (.handler hstands)).trans (ih hstands.report hrun)
  | look next ih => exact ih _ hstands.look hrun
  | visit segments document next ih =>
      obtain ⟨⟨found', q'⟩, hvisit, hrest⟩ := Script.run_visit_eq_some_iff.mp hrun
      have hinner := hcall hstands.enter hvisit
      exact hinner.leave.trans (ih _ (hstands.leave hvisit) hrest)

/-- The settlement of a result accounts for the report on a silent handler. -/
lemma accounts_settle {document : Json} {kind : String} {script : Script (Option Condition)}
    {found : Option Condition} (hstands : e.Stands calls (.call document) p)
    (hdispatch : e.dispatch document = .ok (kind, script))
    (hrun : script.run e.registry (e.resolveIn bound) p = some (found, q)) :
    e.Accounts q (p.settle kind (found, q)).2 := by
  cases found with
  | some c => exact e.accounts_refl q
  | none =>
      rw [Progress.settle]
      split
      · rename_i hlen
        exact accounts_report (.silent hstands hdispatch hrun hlen)
      · exact e.accounts_refl q

/-- Calls account for what they report. The induction is on the bound: the calls
that a handler makes run with a smaller one. -/
theorem accounts_resolveIn {document : Json} {found : Option Condition}
    (hstands : e.Stands calls (.call document) p)
    (hrun : e.resolveIn bound document p = some (found, q)) : e.Accounts p q := by
  induction bound generalizing calls document p q found with
  | zero => exact absurd hrun (by simp [resolveIn])
  | succ bound ih =>
      obtain ⟨rejection, hdispatch, heq⟩ | ⟨kind, script, ⟨found', q'⟩, hdispatch, hsteps, heq⟩ :=
        resolveIn_succ_eq_some_iff.mp hrun
      · obtain ⟨-, rfl⟩ := Prod.mk.inj heq
        exact accounts_report (.unhandled hstands hdispatch)
      · have hhandler := accounts_run ih (hstands.handle hdispatch) hsteps
        have hend := accounts_settle hstands hdispatch hsteps
        rw [heq] at hend
        exact hhandler.trans hend

/-- Each diagnostic of a refused document was reported under the calls that its
path spells. -/
lemma reports_of_resolveWithin {document : Json} {refusal : Refusal}
    (h : e.resolveWithin bound document = some (.error refusal)) {d : Diagnostic}
    (hd : d ∈ refusal.diagnostics) : e.Reports (Pointer.decode d.path) d := by
  obtain ⟨found, q, hrun, hcases⟩ := e.resolveWithin_cases h
  rcases hcases with ⟨c, -, -, hok⟩ | ⟨-, herror⟩
  · cases hok
  · obtain rfl := Except.error.inj herror
    rcases accounts_resolveIn (.start document) hrun d hd with hold | ⟨calls, hreports⟩
    · cases hold
    · rwa [hreports.decode_eq]

end Engine

/-! ### Calls under any segments -/

/-- A document inside of others that have it resolved under one segment each. -/
def Json.wrapped (segments : List String) (inner : Json) : Json :=
  segments.foldr (fun segment document =>
    .obj [("kind", .str "wrap"), ("segment", .str segment), ("inner", document)]) inner

namespace Engine

/-- An engine without fields and with a kind that has a document resolved under a
segment of its own. -/
def wrapping : Engine := (Engine.standard .empty).register "wrap" Handler.wrap

/-- The calls for a wrapped document are nested, one for each segment. -/
lemma stands_wrapped {segments calls : List String} {inner : Json} {p : Progress}
    (h : wrapping.Stands calls (.call (.wrapped segments inner)) p) :
    wrapping.Stands (calls ++ segments) (.call inner) (p.enter segments) := by
  induction segments generalizing calls p with
  | nil => rwa [List.append_nil]
  | cons segment segments ih =>
      have hdispatch : wrapping.dispatch (.wrapped (segment :: segments) inner)
          = .ok ("wrap", Handler.wrap [("kind", .str "wrap"), ("segment", .str segment),
            ("inner", .wrapped segments inner)]) := rfl
      have hinner := ih (Stands.enter (h.handle hdispatch))
      rwa [List.append_assoc, Progress.enter_enter] at hinner

/-- A report can be made under any segments. -/
lemma reports_wrapped (segments : List String) :
    wrapping.Reports segments ⟨⟨segments⟩, .notAnObject⟩ := by
  have hstands : wrapping.Stands segments (.call .null) (Progress.start.enter segments) :=
    stands_wrapped (.start (.wrapped segments .null))
  have hlocation : (Progress.start.enter segments).location = ⟨segments⟩ :=
    congrArg Pointer.mk hstands.segments_eq
  have hreports := Reports.unhandled hstands rfl
  rwa [hlocation] at hreports

/-- **Paths spell calls.** Whatever the handlers of an engine do, and at every
moment of a resolution, the written path is decoded to the segments of the calls
around that moment, of which there may be any. Each diagnostic of a refused
document was reported inside of the calls that its path spells, and diagnostics
that were reported inside of different calls, also by two engines, never have the
same path. -/
theorem paths_spell_calls :
    (∀ (e : Engine) calls moment p, e.Stands calls moment p →
      Pointer.decode p.location.text = calls) ∧
    (∀ segments, wrapping.Reports segments ⟨⟨segments⟩, .notAnObject⟩) ∧
    (∀ (e : Engine) bound document refusal,
      e.resolveWithin bound document = some (.error refusal) →
      ∀ d ∈ refusal.diagnostics, e.Reports (Pointer.decode d.path) d) ∧
    (∀ (e e' : Engine) calls calls' d d', e.Reports calls d → e'.Reports calls' d' →
      calls ≠ calls' → d.path ≠ d'.path) := by
  refine ⟨fun e calls moment p h => h.decode_eq, reports_wrapped,
    fun e bound document refusal h d hd => reports_of_resolveWithin h hd,
    fun e e' calls calls' d d' h h' hne hpath => hne ?_⟩
  rw [← h.decode_eq, hpath, h'.decode_eq]

/-- Segments with slashes, tildes and escapes of their own, and an empty one: the
path at the innermost of four nested calls, the diagnostic of a document, and two
reports whose segments differ by a slash only. -/
theorem paths_spell_calls_escapes :
    Pointer.decode (Progress.start.enter ["a/b", "~1", "~~0/", ""]).location.text
      = ["a/b", "~1", "~~0/", ""] ∧
    wrapping.Reports (Pointer.decode "/~01/a~1b") ⟨⟨["~1", "a/b"]⟩, .notAnObject⟩ ∧
    (⟨⟨["a/b"]⟩, .notAnObject⟩ : Diagnostic).path
      ≠ (⟨⟨["a", "b"]⟩, .notAnObject⟩ : Diagnostic).path := by
  obtain ⟨hmoment, hreports, hrefused, hdistinct⟩ := paths_spell_calls
  have hstands : wrapping.Stands ["a/b", "~1", "~~0/", ""] (.call .null)
      (Progress.start.enter ["a/b", "~1", "~~0/", ""]) :=
    stands_wrapped (.start (.wrapped ["a/b", "~1", "~~0/", ""] .null))
  refine ⟨hmoment _ _ _ _ hstands,
    hrefused wrapping 3 (.wrapped ["~1", "a/b"] .null)
      ⟨[⟨⟨["~1", "a/b"]⟩, .notAnObject⟩]⟩ rfl _ (.head _),
    hdistinct _ _ _ _ _ _ (hreports ["a/b"]) (hreports ["a", "b"]) (by decide)⟩

end Engine

end Criteria

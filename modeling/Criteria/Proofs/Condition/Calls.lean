/-
The calls of an executor with a state that may fail.

* `Stateful`: computations with a state that may fail;
* `Executor.calls`: the visits that are made from a state, with their answers,
  up to the first that fails; `Executor.recording` keeps them;
* `Executor.calls_visits`: a tree whose predicate is found has been visited in
  post-order; `Executor.calls_of_error`: a failure ends the calls;
* `Executor.predicate_calls`: an executor is called with exactly the visits of
  the tree up to the first that fails.
-/
import Criteria.Condition.Trace
import Criteria.Proofs.Condition.Visits
import Criteria.Proofs.Result

namespace Criteria

/-! ### Computations with a state that may fail -/

/-- A computation with a state that may fail. -/
abbrev Stateful (σ ε : Type) := ExceptT ε (StateM σ)

namespace Stateful

variable {σ ε α β : Type}

/-- What a computation gives from a state, and the state that it leaves. -/
def outcome (w : Stateful σ ε α) (s : σ) : Except ε α × σ := w.run.run s

@[simp] lemma outcome_pure (a : α) (s : σ) : outcome (pure a : Stateful σ ε α) s = (.ok a, s) := rfl

lemma outcome_map (f : α → β) (w : Stateful σ ε α) (s : σ) :
    (f <$> w).outcome s = ((w.outcome s).1.map f, (w.outcome s).2) := by
  simp only [outcome, ExceptT.run_map, StateT.run_map]
  rfl

lemma outcome_bind_of_ok {w : Stateful σ ε α} {s s' : σ} {a : α} (h : w.outcome s = (.ok a, s'))
    (f : α → Stateful σ ε β) : (w >>= f).outcome s = (f a).outcome s' := by
  have hrun : StateT.run (ExceptT.run w) s = (.ok a, s') := h
  simp only [outcome, ExceptT.run_bind, StateT.run_bind, hrun]
  rfl

lemma outcome_bind_of_error {w : Stateful σ ε α} {s s' : σ} {e : ε}
    (h : w.outcome s = (.error e, s')) (f : α → Stateful σ ε β) :
    (w >>= f).outcome s = (.error e, s') := by
  have hrun : StateT.run (ExceptT.run w) s = (.error e, s') := h
  simp only [outcome, ExceptT.run_bind, StateT.run_bind, hrun]
  rfl

/-- Of two steps that give a result the first one gives one too. -/
lemma exists_of_outcome_bind {w : Stateful σ ε α} {f : α → Stateful σ ε β} {s s' : σ} {b : β}
    (h : (w >>= f).outcome s = (.ok b, s')) :
    ∃ a s₁, w.outcome s = (.ok a, s₁) ∧ (f a).outcome s₁ = (.ok b, s') := by
  cases hw : w.outcome s with
  | mk r s₁ =>
  cases r with
  | error e =>
      rw [outcome_bind_of_error hw] at h
      cases h
  | ok a => exact ⟨a, s₁, rfl, by rwa [outcome_bind_of_ok hw] at h⟩

lemma outcome_pure_eq_iff {a b : α} {s s' : σ} :
    outcome (pure a : Stateful σ ε α) s = (.ok b, s') ↔ a = b ∧ s = s' := by
  rw [outcome_pure, Prod.mk.injEq, Except.ok.injEq]

end Stateful

/-- A visit that was made, with its answer. -/
abbrev Answered (ε π : Type) := Visit (List π) × Except ε π

/-- A visit that succeeded. -/
def Made.answered {ε π : Type} (made : Made π) : Answered ε π := (made.1, .ok made.2)

namespace Executor

variable {σ ε π : Type}

/-- The visits that are made one after the other from a state, over a stack of
predicates, with their answers. The first one that fails is the last. -/
def calls (x : Executor (Stateful σ ε) π) : List (Visit ℕ) → List π → σ → List (Answered ε π)
  | [], _, _ => []
  | v :: vs, stack, s =>
    match (x.answer (v.call stack)).outcome s with
    | (.ok p, s') => (v.call stack, .ok p) :: calls x vs (p :: v.rest stack) s'
    | (.error e, _) => [(v.call stack, .error e)]

/-- A visit that is kept together with its answer. -/
def recorded (x : Executor (Stateful σ ε) π) (v : Visit (List π)) :
    Stateful (σ × List (Answered ε π)) ε π :=
  ExceptT.mk fun (s, record) =>
    let (r, s') := (x.answer v).outcome s
    (r, s', record ++ [(v, r)])

/-- An executor that also keeps its visits and its answers, in order. -/
def recording (x : Executor (Stateful σ ε) π) :
    Executor (Stateful (σ × List (Answered ε π)) ε) π where
  onAll children := x.recorded (.join .all children)
  onAny children := x.recorded (.join .any children)
  onLeaf storage lookup value := x.recorded (.leaf storage lookup value)

variable (x : Executor (Stateful σ ε) π)

lemma outcome_answer_recording (v : Visit (List π)) (s : σ) (record : List (Answered ε π)) :
    (x.recording.answer v).outcome (s, record)
      = (((x.answer v).outcome s).1, ((x.answer v).outcome s).2,
          record ++ [(v, ((x.answer v).outcome s).1)]) := by
  cases v with
  | leaf => rfl
  | join j children => cases j <;> rfl

/-- An executor that keeps its visits does the same as without, and keeps
exactly the visits that are made. -/
lemma outcome_foldlM_recording (vs : List (Visit ℕ)) :
    ∀ (stack : List π) (s : σ) (record : List (Answered ε π)),
      (vs.foldlM x.recording.step stack).outcome (s, record)
        = (((vs.foldlM x.step stack).outcome s).1, ((vs.foldlM x.step stack).outcome s).2,
            record ++ x.calls vs stack s) := by
  induction vs with
  | nil => simp [calls]
  | cons v vs ih =>
      intro stack s record
      have hrecording := x.outcome_answer_recording (v.call stack) s record
      simp only [List.foldlM_cons, step, bind_assoc, pure_bind]
      cases h : (x.answer (v.call stack)).outcome s with
      | mk r s' =>
      rw [h] at hrecording
      cases r with
      | error e =>
          rw [Stateful.outcome_bind_of_error hrecording, Stateful.outcome_bind_of_error h, calls, h]
      | ok p =>
          rw [Stateful.outcome_bind_of_ok hrecording, Stateful.outcome_bind_of_ok h, ih, calls, h]
          simp

/-- Where a run of visits fails, the failure is the last answer and the only one of
its kind. -/
lemma calls_of_error {e : ε} {s' : σ} (vs : List (Visit ℕ)) :
    ∀ {stack : List π} {s : σ}, (vs.foldlM x.step stack).outcome s = (.error e, s') →
      ∃ (made : List (Made π)) (call : Visit (List π)),
        x.calls vs stack s = made.map Made.answered ++ [(call, .error e)] := by
  induction vs with
  | nil =>
      intro stack s h
      rw [List.foldlM_nil, Stateful.outcome_pure] at h
      cases h
  | cons v vs ih =>
      intro stack s h
      simp only [List.foldlM_cons, step, bind_assoc, pure_bind] at h
      rw [calls]
      cases hv : (x.answer (v.call stack)).outcome s with
      | mk r s'' =>
      cases r with
      | error e' =>
          rw [Stateful.outcome_bind_of_error hv] at h
          cases h
          exact ⟨[], v.call stack, rfl⟩
      | ok p =>
          rw [Stateful.outcome_bind_of_ok hv] at h
          obtain ⟨made, call, hcalls⟩ := ih h
          exact ⟨(v.call stack, p) :: made, call, by simp only [hcalls]; rfl⟩

/-- Over a stack that is high enough the calls are the first of the visits that
were asked for. -/
lemma ofCall_calls_prefix (vs : List (Visit ℕ)) :
    ∀ {stack : List π} (s : σ), Suffices stack.length vs →
      (x.calls vs stack s).map (fun r => r.1.ofCall) <+: vs := by
  induction vs with
  | nil => simp [calls]
  | cons v vs ih =>
      intro stack s h
      obtain ⟨harity, hrest⟩ := h
      rw [calls]
      cases (x.answer (v.call stack)).outcome s with
      | mk r s' =>
      cases r with
      | error e => simp [Visit.ofCall_call harity]
      | ok p =>
          rw [List.map_cons, Visit.ofCall_call harity, List.prefix_cons_inj]
          refine ih s' ?_
          rwa [List.length_cons, Visit.rest, List.length_drop]

/-! ### The visits of a tree -/

/-- Once the visits of the children of a junction are in post-order, so are those
of the junction. -/
lemma calls_visits_join {children : List Condition}
    (ih : ∀ {s s' : σ} {ps : List π},
      (Condition.predicates x children).outcome s = (.ok ps, s') →
        ∃ made, PostOrders children made ps ∧ ∀ vs stack,
          x.calls (Condition.visitsList children ++ vs) stack s
            = made.map Made.answered ++ x.calls vs (ps.reverse ++ stack) s')
    (j : Junction) {s s' : σ} {p : π}
    (h : ((j.join children).predicate x).outcome s = (.ok p, s')) :
    ∃ made, PostOrder (j.join children) made p ∧ ∀ vs stack,
      x.calls ((j.join children).visits ++ vs) stack s
        = made.map Made.answered ++ x.calls vs (p :: stack) s' := by
  rw [predicate_join] at h
  obtain ⟨ps, s₁, hps, hp⟩ := Stateful.exists_of_outcome_bind h
  obtain ⟨made, hmade, hcalls⟩ := ih hps
  refine ⟨_, .join j p hmade, fun vs stack => ?_⟩
  rw [Junction.visits_join, List.append_assoc, hcalls, List.singleton_append, calls,
    ← PostOrder.length_eq hmade, Visit.call_join, Visit.rest_join, hp, List.map_append,
    List.append_assoc]
  rfl

mutual

/-- A tree whose predicate is found has been visited in post-order, and the
visits after it are made over its predicate. -/
lemma calls_visits : ∀ (c : Condition) {s s' : σ} {p : π},
    (c.predicate x).outcome s = (.ok p, s') →
      ∃ made, PostOrder c made p ∧ ∀ vs stack,
        x.calls (c.visits ++ vs) stack s
          = made.map Made.answered ++ x.calls vs (p :: stack) s'
  | .all children, _, _, _, h => calls_visits_join x (calls_visitsList children) .all h
  | .any children, _, _, _, h => calls_visits_join x (calls_visitsList children) .any h
  | .leaf l, s, s', p, h => by
      refine ⟨_, .leaf l p, fun vs stack => ?_⟩
      have hanswer : (x.answer l.visit).outcome s = (.ok p, s') := h
      rw [Condition.visits, List.singleton_append, calls, Visit.call_leaf, Visit.rest_leaf, hanswer]
      rfl

lemma calls_visitsList : ∀ (cs : List Condition) {s s' : σ} {ps : List π},
    (Condition.predicates x cs).outcome s = (.ok ps, s') →
      ∃ made, PostOrders cs made ps ∧ ∀ vs stack,
        x.calls (Condition.visitsList cs ++ vs) stack s
          = made.map Made.answered ++ x.calls vs (ps.reverse ++ stack) s'
  | [], s, s', ps, h => by
      rw [Condition.predicates] at h
      obtain ⟨rfl, rfl⟩ := Stateful.outcome_pure_eq_iff.mp h
      exact ⟨[], .nil, fun vs stack => rfl⟩
  | c :: cs, s, s', ps, h => by
      rw [Condition.predicates] at h
      obtain ⟨p, s₁, hp, h⟩ := Stateful.exists_of_outcome_bind h
      obtain ⟨ps', s₂, hps, h⟩ := Stateful.exists_of_outcome_bind h
      obtain ⟨rfl, rfl⟩ := Stateful.outcome_pure_eq_iff.mp h
      obtain ⟨made, hmade, hcalls⟩ := calls_visits c hp
      obtain ⟨made', hmade', hcalls'⟩ := calls_visitsList cs hps
      refine ⟨_, .cons hmade hmade', fun vs stack => ?_⟩
      rw [Condition.visitsList, List.append_assoc, hcalls, hcalls', List.map_append,
        List.append_assoc, List.reverse_cons, List.append_assoc, List.singleton_append]

end

/-- The leaves that are visited are the first of those of a tree when the visits
are the first of its visits. -/
lemma leaf?_calls_prefix (c : Condition) {made : List (Answered ε π)}
    (h : made.map (fun r => r.1.ofCall) <+: c.visits) :
    made.filterMap (fun r => r.1.leaf?) <+: c.leaves.map Leaf.told := by
  have hleaf := h.filterMap Visit.leaf?
  rw [c.leaf?_visits, List.filterMap_map] at hleaf
  simpa only [Function.comp_def, Visit.leaf?_ofCall] using hleaf

/-- **An executor is called in post-order.** The calls are those of the visits of
the tree, over a stack of predicates, up to and including the first that fails,
whose error is that of the whole. They ask for no more than the tree has: their
kinds and numbers of children are the first of its visits, and the leaves among
them the first of its leaves. When none fails, every leaf and every junction has
been visited once, the junctions after their children and with their predicates
in order, and the predicate is the fold of the tree over the answers. -/
theorem predicate_calls (x : Executor (Stateful σ ε) π) (c : Condition) (s : σ) :
    (c.predicate x.recording).outcome (s, [])
        = (((c.predicate x).outcome s).1, ((c.predicate x).outcome s).2, x.calls c.visits [] s) ∧
      (x.calls c.visits [] s).map (fun r => r.1.ofCall) <+: c.visits ∧
      (x.calls c.visits [] s).filterMap (fun r => r.1.leaf?) <+: c.leaves.map Leaf.told ∧
      (∀ p, ((c.predicate x).outcome s).1 = .ok p →
        ∃ made : List (Made π), x.calls c.visits [] s = made.map Made.answered ∧
          PostOrder c made p ∧ made.map (fun r => r.1.ofCall) = c.visits ∧
          made.filterMap (fun r => r.1.leaf?) = c.leaves.map Leaf.told ∧
          ∀ a : Executor Id π, (∀ r ∈ made, a.answer r.1 = r.2) → c.predicate a = p) ∧
      ∀ e, ((c.predicate x).outcome s).1 = .error e →
        ∃ (made : List (Made π)) (call : Visit (List π)),
          x.calls c.visits [] s = made.map Made.answered ++ [(call, .error e)] := by
  have hprefix : (x.calls c.visits [] s).map (fun r => r.1.ofCall) <+: c.visits := by
    have hsuffices : Suffices 0 (c.visits ++ []) := suffices_visits c [] trivial
    rw [List.append_nil] at hsuffices
    exact x.ofCall_calls_prefix c.visits s hsuffices
  refine ⟨?_, hprefix, leaf?_calls_prefix c hprefix, fun p hp => ?_, fun e he => ?_⟩
  · -- The runs over a stack are those of the trees, which leave one predicate each.
    have hrun := x.outcome_foldlM_recording c.visits [] s []
    rw [foldlM_visits_nil, foldlM_visits_nil, Stateful.outcome_map, Stateful.outcome_map,
      List.nil_append, Prod.mk.injEq] at hrun
    exact Prod.ext (except_map_injective List.singleton_injective hrun.1) hrun.2
  · obtain ⟨made, hmade, hcalls⟩ := x.calls_visits c (s := s) (Prod.ext hp rfl)
    have hall : x.calls c.visits [] s = made.map Made.answered := by
      have h := hcalls [] []
      rwa [List.append_nil, calls, List.append_nil] at h
    refine ⟨made, hall, hmade, hmade.ofCall_eq, ?_, fun a => hmade.predicate_eq a⟩
    rw [← c.leaf?_visits, ← hmade.ofCall_eq, List.filterMap_map]
    simp only [Function.comp_def, Visit.leaf?_ofCall]
  · have hfold := congrArg (Stateful.outcome · s) (x.foldlM_visits_nil c)
    simp only [Stateful.outcome_map, he] at hfold
    exact x.calls_of_error c.visits hfold

end Executor

/-- An hour of a weekday or of the first of a month. -/
def Condition.hoursSample : Condition :=
  .all [.any [.leaf ⟨.ofKind "weekday" .weekday, "exact", .single (.integer 1)⟩,
      .leaf ⟨.ofKind "day" .day, "exact", .single (.integer 1)⟩],
    .leaf ⟨.ofKind "hour" .hour, "in", .many [.integer 8, .integer 9]⟩]

/-- An executor without the last field is asked for both leaves of the
disjunction, for the disjunction and for the field, and for nothing more. -/
theorem Executor.predicate_calls_hoursSample :
    (Stateful.outcome (Condition.hoursSample.predicate (tracing none none)) []).1
        = .ok "and(or(weekday:1,day:1),hour:2)" ∧
      (∃ made, PostOrder Condition.hoursSample made "and(or(weekday:1,day:1),hour:2)") ∧
      (Stateful.outcome (Condition.hoursSample.predicate (tracing (some "hour") none)) []).1
        = .error "no column hour" ∧
      ((tracing (some "hour") none).calls Condition.hoursSample.visits [] []).length = 4 ∧
      ∃ (made : List (Made String)) (call : Visit (List String)),
        (tracing (some "hour") none).calls Condition.hoursSample.visits [] []
          = made.map Made.answered ++ [(call, .error "no column hour")] := by
  have hok : (Stateful.outcome (Condition.hoursSample.predicate (tracing none none)) []).1
      = .ok "and(or(weekday:1,day:1),hour:2)" := by rfl
  have herror :
      (Stateful.outcome (Condition.hoursSample.predicate (tracing (some "hour") none)) []).1
        = .error "no column hour" := by rfl
  obtain ⟨-, -, -, hmade, -⟩ := predicate_calls (tracing none none) Condition.hoursSample []
  obtain ⟨-, -, -, -, hfailed⟩ :=
    predicate_calls (tracing (some "hour") none) Condition.hoursSample []
  obtain ⟨made, -, hpost, -⟩ := hmade _ hok
  exact ⟨hok, ⟨made, hpost⟩, herror, rfl, hfailed _ herror⟩

end Criteria

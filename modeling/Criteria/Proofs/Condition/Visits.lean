/-
The visits of a condition.

* `Visit`: a visit of a node, with what is known of its children;
  `Executor.answer`: what an executor does on it;
* `Condition.visits`: the visits that a tree asks for, in post-order, each
  junction with the number of its children; `Condition.leaf?_visits`: those of
  leaves are the leaves of the tree;
* `Executor.foldlM_visits`: in any lawful monad the predicate of a tree is what
  is left when its visits are made one after the other over a stack of
  predicates;
* `Suffices`, `suffices_visits`: the visits of a tree never take more than the
  stack has;
* `PostOrder`: visits with their answers that make up a tree, a junction after
  all its children and with their predicates in order, and
  `PostOrder.predicate_eq`: the predicate of the tree is its fold over the
  answers.
-/
import Criteria.Condition.Executor
import Criteria.Proofs.Condition.Reading

namespace Criteria

/-- A visit of a node. What is known of the children of a junction is an `α`:
their number before the visit, their predicates when it is made. -/
inductive Visit (α : Type) where
  | join (j : Junction) (children : α)
  | leaf (storage lookup : String) (value : Prepared)

/-- What an executor is told of a leaf. -/
def Leaf.told (l : Leaf) : String × String × Prepared := (l.field.storage, l.lookup, l.value)

/-- The visit of a leaf. -/
def Leaf.visit {α : Type} (l : Leaf) : Visit α := .leaf l.field.storage l.lookup l.value

namespace Visit

variable {α β π : Type}

/-- A visit with something else known of the children. -/
def map (f : α → β) : Visit α → Visit β
  | join j children => .join j (f children)
  | leaf storage lookup value => .leaf storage lookup value

/-- What a visit of a leaf is about. -/
def leaf? : Visit α → Option (String × String × Prepared)
  | join _ _ => none
  | leaf storage lookup value => some (storage, lookup, value)

lemma leaf?_map (f : α → β) (v : Visit α) : (v.map f).leaf? = v.leaf? := by
  cases v <;> rfl

/-- The visit of a call: the predicates of the children forgotten. -/
def ofCall (call : Visit (List π)) : Visit ℕ := call.map List.length

@[simp] lemma leaf?_ofCall (call : Visit (List π)) : call.ofCall.leaf? = call.leaf? :=
  leaf?_map List.length call

/-- The visit over a stack of predicates, the last one on top: a junction gets
the topmost ones, in the order in which they were made. -/
def call (v : Visit ℕ) (stack : List π) : Visit (List π) := v.map fun n => (stack.take n).reverse

/-- The number of predicates that a visit takes. -/
def arity : Visit ℕ → ℕ
  | join _ n => n
  | leaf _ _ _ => 0

/-- The stack without the predicates that a visit takes. -/
def rest (v : Visit ℕ) (stack : List π) : List π := stack.drop v.arity

/-- The call of a junction over the predicates of its children. -/
lemma call_join (j : Junction) (ps stack : List π) :
    (join j ps.length).call (ps.reverse ++ stack) = .join j ps := by
  have htake : (ps.reverse ++ stack).take ps.length = ps.reverse := by
    rw [← List.length_reverse, List.take_left]
  rw [call, map, htake, List.reverse_reverse]

lemma rest_join (j : Junction) (ps stack : List π) :
    (join j ps.length).rest (ps.reverse ++ stack) = stack := by
  rw [rest, arity, ← List.length_reverse, List.drop_left]

lemma call_leaf (l : Leaf) (stack : List π) : l.visit.call stack = l.visit := rfl

lemma rest_leaf (l : Leaf) (stack : List π) : l.visit.rest stack = stack := rfl

/-- Over a stack that is high enough a call has its number of children. -/
lemma ofCall_call {v : Visit ℕ} {stack : List π} (h : v.arity ≤ stack.length) :
    ofCall (v.call stack) = v := by
  cases v with
  | leaf => rfl
  | join j n =>
      rw [arity] at h
      simp only [ofCall, call, map, List.length_reverse, List.length_take_of_le h]

end Visit

namespace Condition

mutual

/-- The visits that a tree asks for, in post-order. -/
def visits : Condition → List (Visit ℕ)
  | all children => visitsList children ++ [.join .all children.length]
  | any children => visitsList children ++ [.join .any children.length]
  | leaf l => [l.visit]

/-- The visits of several trees, one tree after the other. -/
def visitsList : List Condition → List (Visit ℕ)
  | [] => []
  | c :: cs => visits c ++ visitsList cs

end

end Condition

lemma Junction.visits_join (j : Junction) (children : List Condition) :
    (j.join children).visits = Condition.visitsList children ++ [.join j children.length] := by
  cases j <;> rw [join, Condition.visits]

namespace Condition

mutual

/-- The visits of leaves are those of the leaves of the tree, in order. -/
lemma leaf?_visits :
    ∀ c : Condition, c.visits.filterMap Visit.leaf?
      = c.leaves.map Leaf.told
  | all children => by simp [visits, leaves, leaf?_visitsList, Visit.leaf?]
  | any children => by simp [visits, leaves, leaf?_visitsList, Visit.leaf?]
  | leaf l => rfl

lemma leaf?_visitsList :
    ∀ cs : List Condition, (visitsList cs).filterMap Visit.leaf?
      = (leavesList cs).map Leaf.told
  | [] => rfl
  | c :: cs => by
      rw [visitsList, leavesList, List.filterMap_append, List.map_append, leaf?_visits,
        leaf?_visitsList]

end

end Condition

/-! ### The predicate over a stack -/

namespace Executor

variable {m : Type → Type} {π : Type}

/-- What an executor does on a visit. -/
def answer (x : Executor m π) : Visit (List π) → m π
  | .join .all children => x.onAll children
  | .join .any children => x.onAny children
  | .leaf storage lookup value => x.onLeaf storage lookup value

section Monad

variable [Monad m]

/-- A visit over a stack of predicates: it takes those of the children and puts
its own in their place. -/
def step (x : Executor m π) (stack : List π) (v : Visit ℕ) : m (List π) := do
  let p ← x.answer (v.call stack)
  pure (p :: v.rest stack)

lemma predicate_join (x : Executor m π) (j : Junction) (children : List Condition) :
    (j.join children).predicate x
      = Condition.predicates x children >>= fun ps => x.answer (.join j ps) := by
  cases j <;> rw [Junction.join, Condition.predicate] <;> rfl

/-- The visit of a junction over the predicates of its children. -/
lemma step_join (x : Executor m π) (j : Junction) (ps stack : List π) :
    x.step (ps.reverse ++ stack) (.join j ps.length)
      = x.answer (.join j ps) >>= fun p => pure (p :: stack) := by
  rw [step, Visit.call_join, Visit.rest_join]

variable [LawfulMonad m]

/-- What follows the predicates of several trees may rely on their number. -/
lemma predicates_bind_congr {β : Type} (x : Executor m π) (cs : List Condition) :
    ∀ {f g : List π → m β}, (∀ ps, ps.length = cs.length → f ps = g ps) →
      Condition.predicates x cs >>= f = Condition.predicates x cs >>= g := by
  induction cs with
  | nil =>
      intro f g h
      simpa [Condition.predicates] using h [] rfl
  | cons c cs ih =>
      intro f g h
      simp only [Condition.predicates, bind_assoc, pure_bind]
      refine bind_congr fun p => ih fun ps hps => ?_
      exact h (p :: ps) (by rw [List.length_cons, List.length_cons, hps])

/-- Of the visits of a junction those of the children come first. -/
lemma foldlM_visits_join (x : Executor m π) {children : List Condition}
    (ih : ∀ vs stack, (Condition.visitsList children ++ vs).foldlM x.step stack
      = Condition.predicates x children >>= fun ps => vs.foldlM x.step (ps.reverse ++ stack))
    (j : Junction) (vs : List (Visit ℕ)) (stack : List π) :
    ((j.join children).visits ++ vs).foldlM x.step stack
      = (j.join children).predicate x >>= fun p => vs.foldlM x.step (p :: stack) := by
  rw [Junction.visits_join, List.append_assoc, ih, predicate_join, bind_assoc]
  refine predicates_bind_congr x children fun ps hps => ?_
  rw [List.singleton_append, List.foldlM_cons, ← hps, step_join, bind_assoc]
  simp only [pure_bind]

mutual

/-- The visits of a tree leave its predicate on the stack. -/
theorem foldlM_visits (x : Executor m π) :
    ∀ (c : Condition) (vs : List (Visit ℕ)) (stack : List π),
      (c.visits ++ vs).foldlM x.step stack
        = c.predicate x >>= fun p => vs.foldlM x.step (p :: stack)
  | .all children => foldlM_visits_join x (foldlM_visitsList x children) .all
  | .any children => foldlM_visits_join x (foldlM_visitsList x children) .any
  | .leaf l => by
      intro vs stack
      rw [Condition.visits, List.singleton_append, List.foldlM_cons, step, Visit.call_leaf,
        Visit.rest_leaf, bind_assoc, Condition.predicate]
      simp only [pure_bind]
      rfl

/-- The visits of several trees leave their predicates on the stack, the last
one on top. -/
theorem foldlM_visitsList (x : Executor m π) :
    ∀ (cs : List Condition) (vs : List (Visit ℕ)) (stack : List π),
      (Condition.visitsList cs ++ vs).foldlM x.step stack
        = Condition.predicates x cs >>= fun ps => vs.foldlM x.step (ps.reverse ++ stack)
  | [] => by
      intro vs stack
      rw [Condition.visitsList, Condition.predicates, pure_bind]
      rfl
  | c :: cs => by
      intro vs stack
      rw [Condition.visitsList, Condition.predicates, List.append_assoc, foldlM_visits x c,
        bind_assoc]
      refine bind_congr fun p => ?_
      rw [foldlM_visitsList x cs, bind_assoc]
      refine bind_congr fun ps => ?_
      rw [pure_bind, List.reverse_cons, List.append_assoc, List.singleton_append]

end

/-- The visits of a tree alone. -/
lemma foldlM_visits_nil (x : Executor m π) (c : Condition) :
    c.visits.foldlM x.step [] = (fun p => [p]) <$> c.predicate x := by
  have h := foldlM_visits x c [] []
  rw [List.append_nil] at h
  simpa only [List.foldlM_nil, map_eq_pure_bind] using h

end Monad

end Executor

/-! ### Stacks that are high enough -/

/-- A stack of some height has what each of the visits takes. -/
def Suffices : ℕ → List (Visit ℕ) → Prop
  | _, [] => True
  | height, v :: vs => v.arity ≤ height ∧ Suffices (height - v.arity + 1) vs

/-- The visit of a junction takes what the visits of its children have added. -/
lemma suffices_visits_join {children : List Condition}
    (ih : ∀ (vs : List (Visit ℕ)) {height : ℕ}, Suffices (height + children.length) vs →
      Suffices height (Condition.visitsList children ++ vs))
    (j : Junction) (vs : List (Visit ℕ)) {height : ℕ} (h : Suffices (height + 1) vs) :
    Suffices height ((j.join children).visits ++ vs) := by
  rw [Junction.visits_join, List.append_assoc]
  refine ih _ ⟨Nat.le_add_left _ _, ?_⟩
  rwa [Visit.arity, Nat.add_sub_cancel]

mutual

/-- The visits of a tree take nothing from the stack and add one predicate. -/
lemma suffices_visits :
    ∀ (c : Condition) (vs : List (Visit ℕ)) {height : ℕ},
      Suffices (height + 1) vs → Suffices height (c.visits ++ vs)
  | .all children, vs, _, h => suffices_visits_join (suffices_visitsList children) .all vs h
  | .any children, vs, _, h => suffices_visits_join (suffices_visitsList children) .any vs h
  | .leaf _, _, _, h => ⟨Nat.zero_le _, h⟩

/-- The visits of several trees add one predicate for each. -/
lemma suffices_visitsList :
    ∀ (cs : List Condition) (vs : List (Visit ℕ)) {height : ℕ},
      Suffices (height + cs.length) vs → Suffices height (Condition.visitsList cs ++ vs)
  | [], _, _, h => h
  | c :: cs, vs, height, h => by
      rw [Condition.visitsList, List.append_assoc]
      refine suffices_visits c _ (suffices_visitsList cs vs ?_)
      rwa [List.length_cons, Nat.add_comm cs.length, ← Nat.add_assoc] at h

end

/-! ### Post-order -/

/-- A visit that was made, with the predicate that was its answer. -/
abbrev Made (π : Type) := Visit (List π) × π

mutual

/-- Visits of a tree that all succeed, with their answers, and the predicate of
the tree: the one visit of a leaf, or the visits of the children of a junction
one after the other and then that of the junction with their predicates. -/
inductive PostOrder {π : Type} : Condition → List (Made π) → π → Prop
  | leaf (l : Leaf) (p : π) : PostOrder (.leaf l) [(l.visit, p)] p
  | join (j : Junction) {children : List Condition} {made : List (Made π)}
      {ps : List π} (p : π) :
      PostOrders children made ps → PostOrder (j.join children) (made ++ [(.join j ps, p)]) p

/-- Visits of several trees, one tree after the other, and their predicates. -/
inductive PostOrders {π : Type} : List Condition → List (Made π) → List π → Prop
  | nil : PostOrders [] [] []
  | cons {c : Condition} {cs : List Condition} {made made' : List (Made π)} {p : π}
      {ps : List π} :
      PostOrder c made p → PostOrders cs made' ps → PostOrders (c :: cs) (made ++ made') (p :: ps)

end

namespace PostOrder

variable {π : Type}

lemma length_eq : ∀ {cs : List Condition} {made : List (Made π)} {ps : List π},
    PostOrders cs made ps → ps.length = cs.length
  | _, _, _, .nil => rfl
  | _, _, _, .cons _ hs => by rw [List.length_cons, List.length_cons, length_eq hs]

mutual

/-- The visits are those that the tree asks for. -/
lemma ofCall_eq : ∀ {c : Condition} {made : List (Made π)} {p : π},
    PostOrder c made p → made.map (fun r => r.1.ofCall) = c.visits
  | _, _, _, .leaf _ _ => rfl
  | _, _, _, .join j _ h => by
      rw [List.map_append, ofCall_eq_list h, Junction.visits_join, ← length_eq h]
      rfl

lemma ofCall_eq_list : ∀ {cs : List Condition} {made : List (Made π)} {ps : List π},
    PostOrders cs made ps → made.map (fun r => r.1.ofCall) = Condition.visitsList cs
  | _, _, _, .nil => rfl
  | _, _, _, .cons h hs => by
      rw [List.map_append, ofCall_eq h, ofCall_eq_list hs, Condition.visitsList]

end

mutual

/-- An executor without a state that gives the same answers gives the same
predicate. -/
lemma predicate_eq (x : Executor Id π) :
    ∀ {c : Condition} {made : List (Made π)} {p : π},
      PostOrder c made p → (∀ r ∈ made, x.answer r.1 = r.2) → c.predicate x = p
  | _, _, _, .leaf l p, h => h (l.visit, p) (by simp)
  | _, _, _, .join j p hs, h => by
      rw [Executor.predicate_join, predicates_eq x hs fun r hr => h r (by simp [hr])]
      exact h (.join j _, p) (by simp)

lemma predicates_eq (x : Executor Id π) :
    ∀ {cs : List Condition} {made : List (Made π)} {ps : List π},
      PostOrders cs made ps → (∀ r ∈ made, x.answer r.1 = r.2) → Condition.predicates x cs = ps
  | _, _, _, .nil, _ => rfl
  | _, _, _, .cons hc hcs, h => by
      rw [Condition.predicates, predicate_eq x hc fun r hr => h r (by simp [hr]),
        predicates_eq x hcs fun r hr => h r (by simp [hr])]
      rfl

end

end PostOrder

end Criteria

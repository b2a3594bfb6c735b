/-
Results that may be absent or errors.

* `except_map_eq_ok_iff`, `except_map_eq_error_iff`, `except_map_injective`,
  `except_bind_eq_error_iff`: what a mapped computation gives and from what, and at
  which of two steps an error arises;
* `map_eq_of_forall₂`, `mapM_eq_of_forall₂`: lists with the same results, one by one,
  have the same result;
* `mapM_eq_some_iff_forall₂`, `mapM_eq_none_iff`: a list of results is found when each
  of them is, and not found when one of them is not;
* `except_mapM_eq_ok_iff_forall₂`, `except_mapM_eq_error_iff`: for results that may be
  errors, the first error is that of the list, and `except_mapM_eq_error_iff_getElem?`
  says so by its index.
-/
import Mathlib.Data.List.Forall2
import Mathlib.Tactic.Lemma

namespace Criteria

lemma except_map_eq_ok_iff {ε α β : Type} {x : Except ε α} {f : α → β} {b : β} :
    x.map f = .ok b ↔ ∃ a, x = .ok a ∧ f a = b := by
  cases x <;> simp [Except.map]

lemma except_map_eq_error_iff {ε α β : Type} {x : Except ε α} {f : α → β} {e : ε} :
    x.map f = .error e ↔ x = .error e := by
  cases x <;> simp [Except.map]

lemma except_map_injective {ε α β : Type} {f : α → β} (hf : Function.Injective f) :
    Function.Injective (Except.map f : Except ε α → Except ε β)
  | .error _, .error _, h => congrArg _ (Except.error.inj h)
  | .ok _, .ok _, h => congrArg _ (hf (Except.ok.inj h))

lemma except_bind_eq_error_iff {ε α β : Type} {x : Except ε α} {f : α → Except ε β} {e : ε} :
    x >>= f = .error e ↔ x = .error e ∨ ∃ a, x = .ok a ∧ f a = .error e := by
  cases x <;> simp [bind, Except.bind]

/-! ### Lists of results -/

/-- Of two related lists each element on the right has one on the left. -/
lemma exists_left_of_forall₂ {α β : Type} {R : α → β → Prop} {as : List α} {bs : List β}
    (h : List.Forall₂ R as bs) {b : β} (hb : b ∈ bs) : ∃ a ∈ as, R a b := by
  induction h with
  | nil => exact absurd hb (by simp)
  | cons hfirst _ ih =>
      rcases List.mem_cons.mp hb with rfl | hb
      · exact ⟨_, by simp, hfirst⟩
      · obtain ⟨a, ha, hab⟩ := ih hb
        exact ⟨a, by simp [ha], hab⟩

lemma isSome_mapM_iff {α β : Type} {f : α → Option β} {l : List α} :
    (l.mapM f).isSome ↔ ∀ a ∈ l, (f a).isSome := by
  induction l with
  | nil => simp
  | cons a l ih =>
      rw [List.mapM_cons, List.forall_mem_cons, ← ih]
      cases f a with
      | none => simp
      | some b => cases l.mapM f <;> simp

lemma mapM_eq_none_iff {α β : Type} {f : α → Option β} {l : List α} :
    l.mapM f = none ↔ ∃ a ∈ l, f a = none := by
  rw [← Option.not_isSome_iff_eq_none, isSome_mapM_iff]
  simp

lemma map_eq_of_forall₂ {α β γ : Type} {f : α → γ} {g : β → γ} {as : List α} {bs : List β}
    (h : List.Forall₂ (fun a b => f a = g b) as bs) : as.map f = bs.map g := by
  induction h with
  | nil => rfl
  | cons hfirst _ ih => rw [List.map_cons, List.map_cons, hfirst, ih]

/-- Two lists give the same when their elements do, one by one. -/
lemma mapM_eq_of_forall₂ {m : Type → Type} [Monad m] [LawfulMonad m] {α β γ : Type}
    {f : α → m γ} {g : β → m γ} {as : List α} {bs : List β}
    (h : List.Forall₂ (fun a b => f a = g b) as bs) : as.mapM f = bs.mapM g := by
  induction h with
  | nil => rfl
  | cons hfirst _ ih => rw [List.mapM_cons, List.mapM_cons, hfirst, ih]

/-- A list is found exactly when its elements are, one by one. -/
lemma mapM_eq_some_iff_forall₂ {α β : Type} {f : α → Option β} {R : α → β → Prop}
    {l : List α} (h : ∀ a ∈ l, ∀ b, f a = some b ↔ R a b) {bs : List β} :
    l.mapM f = some bs ↔ List.Forall₂ R l bs := by
  induction l generalizing bs with
  | nil => simp [eq_comm]
  | cons a l ih =>
      have hrest : ∀ {bs}, l.mapM f = some bs ↔ List.Forall₂ R l bs :=
        ih fun other hother => h other (by simp [hother])
      rw [List.forall₂_cons_left_iff]
      simp only [List.mapM_cons, Option.bind_eq_bind, Option.bind_eq_some_iff, Option.pure_def,
        Option.some.injEq, h a (by simp), hrest]
      constructor
      · rintro ⟨b, hb, bs', hbs', rfl⟩
        exact ⟨b, bs', hb, hbs', rfl⟩
      · rintro ⟨b, bs', hb, hbs', rfl⟩
        exact ⟨b, hb, bs', hbs', rfl⟩

lemma except_mapM_eq_ok_iff_forall₂ {ε α β : Type} {f : α → Except ε β} {l : List α}
    {bs : List β} : l.mapM f = .ok bs ↔ List.Forall₂ (fun a b => f a = .ok b) l bs := by
  induction l generalizing bs with
  | nil => simp [pure, Except.pure, eq_comm]
  | cons a l ih =>
      rw [List.mapM_cons, List.forall₂_cons_left_iff]
      cases ha : f a with
      | error e => simp [bind, Except.bind]
      | ok b =>
          cases hl : l.mapM f with
          | error e => simp [bind, Except.bind, ← ih, hl]
          | ok bs' => simp [bind, Except.bind, pure, Except.pure, ← ih, hl, eq_comm]

/-- The error of a list is that of its first element with one. -/
lemma except_mapM_eq_error_iff {ε α β : Type} {f : α → Except ε β} {l : List α} {e : ε} :
    l.mapM f = .error e
      ↔ ∃ before a after, l = before ++ a :: after ∧ (∀ b ∈ before, ∃ x, f b = .ok x) ∧
        f a = .error e := by
  induction l with
  | nil => simp [pure, Except.pure]
  | cons first l ih =>
      rw [List.mapM_cons]
      constructor
      · intro h
        rcases except_bind_eq_error_iff.mp h with hfirst | ⟨x, hx, h⟩
        · exact ⟨[], first, l, rfl, by simp, hfirst⟩
        · rcases except_bind_eq_error_iff.mp h with hrest | ⟨_, -, h⟩
          · obtain ⟨before, a, after, rfl, hbefore, ha⟩ := ih.mp hrest
            exact ⟨first :: before, a, after, rfl,
              List.forall_mem_cons.mpr ⟨⟨x, hx⟩, hbefore⟩, ha⟩
          · cases h
      · rintro ⟨before, a, after, hl, hbefore, ha⟩
        cases before with
        | nil =>
            obtain ⟨rfl, rfl⟩ := List.cons.inj hl
            exact except_bind_eq_error_iff.mpr (.inl ha)
        | cons b before =>
            obtain ⟨rfl, rfl⟩ := List.cons.inj hl
            obtain ⟨⟨x, hx⟩, hbefore⟩ := List.forall_mem_cons.mp hbefore
            refine except_bind_eq_error_iff.mpr (.inr ⟨x, hx, except_bind_eq_error_iff.mpr ?_⟩)
            exact .inl (ih.mpr ⟨before, a, after, rfl, hbefore, ha⟩)

/-- The error of a list is that of its element with the least index among those with
one. -/
lemma except_mapM_eq_error_iff_getElem? {ε α β : Type} {f : α → Except ε β} {l : List α} {e : ε} :
    l.mapM f = .error e
      ↔ ∃ (k : ℕ) (a : α), l[k]? = some a ∧ f a = .error e ∧
        ∀ j < k, ∀ b, l[j]? = some b → ∃ x, f b = .ok x := by
  rw [except_mapM_eq_error_iff]
  constructor
  · rintro ⟨before, a, after, rfl, hbefore, ha⟩
    refine ⟨before.length, a, by simp, ha, fun j hj b hb => ?_⟩
    rw [List.getElem?_append_left hj] at hb
    exact hbefore b (List.mem_of_getElem? hb)
  · rintro ⟨k, a, hk, ha, hbefore⟩
    obtain ⟨hlt, rfl⟩ := List.getElem?_eq_some_iff.mp hk
    refine ⟨l.take k, l[k], l.drop (k + 1), ?_, fun b hb => ?_, ha⟩
    · rw [List.getElem_cons_drop, List.take_append_drop]
    · obtain ⟨j, hj, rfl⟩ := List.mem_take_iff_getElem.mp hb
      have hj' : j < l.length := by omega
      exact hbefore j (by omega) l[j] (List.getElem?_eq_getElem hj')

end Criteria

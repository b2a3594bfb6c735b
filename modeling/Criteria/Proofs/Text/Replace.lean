/-
Texts with a pattern replaced.

* `replace`: every occurrence of a pattern gives way to other characters;
* `replace_single`: a pattern of one character is replaced character by
  character;
* `not_infix_replace`: once a character is always followed by a certain other
  one, it is followed by no third one;
* `replace_replace`: a replacement of a character by a pair is undone by the
  replacement of the pair, unless the text held that pair from the start.
-/
import Mathlib.Data.List.Infix
import Mathlib.Tactic.Lemma

namespace Criteria

/-- The text with every occurrence of a pattern replaced, from left to right;
what is put in is not searched again. The pattern is given by its first
character and the rest. -/
def replace (first : Char) (more new : List Char) : List Char → List Char
  | [] => []
  | c :: cs =>
    if first :: more <+: c :: cs then new ++ replace first more new (cs.drop more.length)
    else c :: replace first more new cs
  termination_by cs => cs.length
  decreasing_by
    · rw [List.length_drop, List.length_cons]
      omega
    · exact Nat.lt_succ_self cs.length

variable {first : Char} {more new : List Char}

@[simp] lemma replace_nil : replace first more new [] = [] := by
  rw [replace]

/-- An occurrence is replaced. -/
lemma replace_append (cs : List Char) :
    replace first more new (first :: more ++ cs) = new ++ replace first more new cs := by
  have hprefix : first :: more <+: first :: (more ++ cs) := List.prefix_append (first :: more) cs
  rw [List.cons_append, replace, if_pos hprefix, List.drop_left]

/-- A character at which no occurrence starts is kept. -/
lemma replace_cons_of_not_prefix {c : Char} {cs : List Char} (h : ¬ first :: more <+: c :: cs) :
    replace first more new (c :: cs) = c :: replace first more new cs := by
  rw [replace, if_neg h]

/-! ### Patterns of one character -/

lemma replace_single_cons_self (c : Char) (new cs : List Char) :
    replace c [] new (c :: cs) = new ++ replace c [] new cs :=
  replace_append cs

lemma replace_single_cons_of_ne {c x : Char} (h : x ≠ c) (new cs : List Char) :
    replace c [] new (x :: cs) = x :: replace c [] new cs :=
  replace_cons_of_not_prefix fun hprefix => h (List.cons_prefix_cons.mp hprefix).1.symm

/-- A pattern of one character is replaced character by character. -/
lemma replace_single (c : Char) (new cs : List Char) :
    replace c [] new cs = cs.flatMap fun x => if x = c then new else [x] := by
  induction cs with
  | nil => rw [replace_nil, List.flatMap_nil]
  | cons x cs ih =>
      rw [List.flatMap_cons, ← ih]
      by_cases hx : x = c
      · rw [if_pos hx, hx, replace_single_cons_self]
      · rw [if_neg hx, replace_single_cons_of_ne hx, List.singleton_append]

/-! ### A character replaced by a pair -/

section Pair

variable {a b c d : Char}

/-- Where each `a` has become `ab`, no `a` is followed by anything but `b`. -/
lemma not_infix_replace (hab : a ≠ b) (hdb : d ≠ b) (cs : List Char) :
    ¬ [a, d] <:+: replace a [] [a, b] cs := by
  induction cs with
  | nil => simp
  | cons x cs ih =>
      by_cases hx : x = a
      · subst hx
        simp [replace_single_cons_self, List.infix_cons_iff, ih, hab, hdb]
      · simp [replace_single_cons_of_ne hx, List.infix_cons_iff, ih, Ne.symm hx]

/-- No `b` comes first where `c` has become `ab`, unless it came first before. -/
lemma exists_cons_of_replace (hab : a ≠ b) {cs rest : List Char}
    (h : replace c [] [a, b] cs = b :: rest) : ∃ cs', cs = b :: cs' := by
  cases cs with
  | nil => simp at h
  | cons x cs =>
      by_cases hx : x = c
      · subst hx
        rw [replace_single_cons_self] at h
        exact absurd (List.cons.inj h).1 hab
      · rw [replace_single_cons_of_ne hx] at h
        exact ⟨cs, by rw [(List.cons.inj h).1]⟩

/-- **Replacing is undone by replacing back**: a character that became a pair
comes back from it, when the text did not hold the pair before. Where the
character is the first of the pair, such a pair in the text would have been
broken up, so any text will do. -/
theorem replace_replace (hab : a ≠ b) {cs : List Char} (h : a ≠ c → ¬ [a, b] <:+: cs) :
    replace a [b] [c] (replace c [] [a, b] cs) = cs := by
  induction cs with
  | nil => simp
  | cons x cs ih =>
      have hback : replace a [b] [c] (replace c [] [a, b] cs) = cs :=
        ih fun hac hinfix => h hac (List.infix_cons hinfix)
      by_cases hx : x = c
      · subst hx
        have hpair : replace a [b] [x] ([a, b] ++ replace x [] [a, b] cs)
            = [x] ++ replace a [b] [x] (replace x [] [a, b] cs) := replace_append _
        rw [replace_single_cons_self, hpair, hback, List.singleton_append]
      · have hnot : ¬ [a, b] <+: x :: replace c [] [a, b] cs := by
          intro hprefix
          obtain ⟨rfl, rest, hrest⟩ := List.cons_prefix_cons.mp hprefix
          obtain ⟨cs', rfl⟩ := exists_cons_of_replace hab hrest.symm
          exact h hx (List.prefix_append [a, b] cs').isInfix
        rw [replace_single_cons_of_ne hx, replace_cons_of_not_prefix hnot, hback]

end Pair

end Criteria

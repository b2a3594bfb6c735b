/-
Texts that can be told from what follows them.

* `span_append`: a text is cut off behind its characters without a property;
* `isStop`, `Stops`: the characters that may follow a rendered value or
  condition, and the texts that start with one;
* `Delimits`: something is told from others by its text in front of a stop;
* `Delimits.flatMap`, `Delimits.intercalate`: so are lists between separators
  and a closing bracket, one by one;
* `eq_of_quoteList_append`: quoted texts are told from each other in front of
  anything.
-/
import Criteria.Text.Quoted
import Mathlib.Data.List.Forall2
import Mathlib.Tactic.SplitIfs

namespace Criteria

/-- A text is cut off behind the characters without a property, when the next one
has it. -/
lemma span_append {p : Char → Bool} {cs : List Char} (rest : List Char)
    (hcs : ∀ c ∈ cs, p c = false) (hrest : ∀ c, rest.head? = some c → p c = true) :
    (cs ++ rest).takeWhile (fun c => !p c) = cs ∧
      (cs ++ rest).dropWhile (fun c => !p c) = rest := by
  have hcs' : ∀ c ∈ cs, (!p c) = true := fun c hc => by simp [hcs c hc]
  rw [List.takeWhile_append_of_pos hcs', List.dropWhile_append_of_pos hcs']
  cases rest with
  | nil => simp
  | cons c rest => simp [hrest c rfl]

/-- Texts without a property are equal when equal texts follow from the first
character that has it. -/
lemma eq_of_append_eq {p : Char → Bool} {cs cs' rest rest' : List Char}
    (hcs : ∀ c ∈ cs, p c = false) (hcs' : ∀ c ∈ cs', p c = false)
    (hrest : ∀ c, rest.head? = some c → p c = true)
    (hrest' : ∀ c, rest'.head? = some c → p c = true) (h : cs ++ rest = cs' ++ rest') :
    cs = cs' ∧ rest = rest' := by
  obtain ⟨htake, hdrop⟩ := span_append rest hcs hrest
  obtain ⟨htake', hdrop'⟩ := span_append rest' hcs' hrest'
  rw [h] at htake hdrop
  exact ⟨htake.symm.trans htake', hdrop.symm.trans hdrop'⟩

/-! ### Stops -/

/-- The characters that may follow a value or a condition. -/
def isStop (c : Char) : Bool := c = ' ' || c = ',' || c = ')' || c = ']'

/-- What may follow a value or a condition: nothing, or a text that starts with a
stop. -/
def Stops (cs : List Char) : Prop := ∀ c, cs.head? = some c → isStop c = true

lemma stops_nil : Stops [] := by
  intro c hc
  cases hc

lemma stops_cons {c : Char} (h : isStop c = true) (cs : List Char) : Stops (c :: cs) := by
  intro c' hc'
  obtain rfl := Option.some.inj hc'
  exact h

/-- In front of stops something is told by its text from all others with a
property, up to a relation. -/
def Delimits {α : Type} (text : α → List Char) (P : α → Prop) (R : α → α → Prop) (a : α) : Prop :=
  ∀ ⦃b : α⦄ ⦃rest rest' : List Char⦄, P b → Stops rest → Stops rest' →
    text a ++ rest = text b ++ rest' → R a b ∧ rest = rest'

/-- A list between separators, written item by item. -/
lemma intercalate_cons_eq_flatMap {α : Type} (text : α → List Char) (separator : List Char)
    (a : α) (as : List α) :
    separator.intercalate ((a :: as).map text)
      = text a ++ as.flatMap fun a => separator ++ text a := by
  induction as generalizing a with
  | nil => simp
  | cons b as ih =>
      rw [List.map_cons, List.map_cons, List.intercalate_cons_cons, ← List.map_cons, ih,
        List.flatMap_cons, List.append_assoc, List.append_assoc]

namespace Delimits

variable {α : Type} {text : α → List Char} {P : α → Prop} {R : α → α → Prop}
variable {as bs : List α} {s close : Char} {separator rest rest' : List Char}

/-- What follows an item of a list starts with a stop. -/
lemma stops_flatMap (hs : isStop s = true) (hclose : isStop close = true) (as : List α)
    (rest : List Char) :
    Stops (as.flatMap (fun a => s :: separator ++ text a) ++ close :: rest) := by
  cases as with
  | nil => exact stops_cons hclose rest
  | cons a as => exact stops_cons hs _

/-- Lists of items that are told apart, each behind a separator, are told apart
item by item when a closing bracket follows them. -/
lemma flatMap (hs : isStop s = true) (hclose : isStop close = true) (hne : s ≠ close)
    (has : ∀ a ∈ as, Delimits text P R a) (hbs : ∀ b ∈ bs, P b)
    (h : as.flatMap (fun a => s :: separator ++ text a) ++ close :: rest
      = bs.flatMap (fun b => s :: separator ++ text b) ++ close :: rest') :
    List.Forall₂ R as bs ∧ rest = rest' := by
  induction as generalizing bs with
  | nil =>
      cases bs with
      | nil => exact ⟨.nil, (List.cons.inj h).2⟩
      | cons b bs => exact absurd (List.cons.inj h).1.symm hne
  | cons a as ih =>
      cases bs with
      | nil => exact absurd (List.cons.inj h).1 hne
      | cons b bs =>
          simp only [List.flatMap_cons, List.append_assoc] at h
          have hab := has a (by simp) (hbs b (by simp)) (stops_flatMap hs hclose as rest)
            (stops_flatMap hs hclose bs rest') (List.append_cancel_left h)
          obtain ⟨hR, hrest⟩ := hab
          obtain ⟨hRs, hrest⟩ := ih (fun a' ha' => has a' (by simp [ha']))
            (fun b' hb' => hbs b' (by simp [hb'])) hrest
          exact ⟨.cons hR hRs, hrest⟩

/-- Lists of items that are told apart are told apart item by item when there
are separators between them and a closing bracket follows them. -/
lemma intercalate (hs : isStop s = true) (hclose : isStop close = true) (hne : s ≠ close)
    (has : ∀ a ∈ as, Delimits text P R a) (hbs : ∀ b ∈ bs, P b) (hnil : as ≠ []) (hnil' : bs ≠ [])
    (h : (s :: separator).intercalate (as.map text) ++ close :: rest
      = (s :: separator).intercalate (bs.map text) ++ close :: rest') :
    List.Forall₂ R as bs ∧ rest = rest' := by
  obtain ⟨a, as, rfl⟩ := List.exists_cons_of_ne_nil hnil
  obtain ⟨b, bs, rfl⟩ := List.exists_cons_of_ne_nil hnil'
  rw [intercalate_cons_eq_flatMap, intercalate_cons_eq_flatMap, List.append_assoc,
    List.append_assoc] at h
  obtain ⟨hR, hrest⟩ := has a (by simp) (hbs b (by simp)) (stops_flatMap hs hclose as rest)
    (stops_flatMap hs hclose bs rest') h
  obtain ⟨hRs, hrest⟩ := flatMap hs hclose hne (fun a' ha' => has a' (by simp [ha']))
    (fun b' hb' => hbs b' (by simp [hb'])) hrest
  exact ⟨.cons hR hRs, hrest⟩

end Delimits

/-! ### Quoted text -/

/-- What follows the closing quotation mark, read from behind the opening one. -/
def afterQuote : List Char → List Char
  | [] => []
  | '"' :: cs => cs
  | '\\' :: _ :: cs => afterQuote cs
  | _ :: cs => afterQuote cs

lemma afterQuote_cons {c : Char} (hquote : c ≠ '"') (hslash : c ≠ '\\') (cs : List Char) :
    afterQuote (c :: cs) = afterQuote cs := by
  rw [afterQuote]
  · exact hquote
  · intro _ _ h
    exact absurd h hslash

/-- Characters that are neither a quotation mark nor a backslash are passed over. -/
lemma afterQuote_append {cs : List Char} (h : ∀ c ∈ cs, c ≠ '"' ∧ c ≠ '\\') (rest : List Char) :
    afterQuote (cs ++ rest) = afterQuote rest := by
  induction cs with
  | nil => rfl
  | cons c cs ih =>
      obtain ⟨⟨hquote, hslash⟩, hcs⟩ := List.forall_mem_cons.mp h
      rw [List.cons_append, afterQuote_cons hquote hslash, ih hcs]

/-- The digits of a number to a base are written by the characters below it. -/
lemma exists_of_mem_toDigits {base n : ℕ} (hbase : 1 < base) {c : Char}
    (h : c ∈ Nat.toDigits base n) : ∃ d < base, c = Nat.digitChar d := by
  induction n using Nat.strongRecOn with
  | ind n ih =>
      by_cases hlt : n < base
      · rw [Nat.toDigits_of_lt_base hlt] at h
        exact ⟨n, hlt, List.mem_singleton.mp h⟩
      · rw [Nat.toDigits_of_base_le hbase (by omega)] at h
        rcases List.mem_append.mp h with hquotient | hlast
        · exact ih (n / base) (Nat.div_lt_self (by omega) hbase) hquotient
        · exact ⟨n % base, Nat.mod_lt n (by omega), List.mem_singleton.mp hlast⟩

lemma hexText_plain {n : ℕ} {c : Char} (h : c ∈ hexText n) : c ≠ '"' ∧ c ≠ '\\' := by
  obtain ⟨d, hd, rfl⟩ := exists_of_mem_toDigits (by decide) h
  have hall : ∀ d < 16, Nat.digitChar d ≠ '"' ∧ Nat.digitChar d ≠ '\\' := by decide
  exact hall d hd

/-- A character inside quoted text does not end it. -/
lemma afterQuote_quoteChar (c : Char) (rest : List Char) :
    afterQuote (quoteChar c ++ rest) = afterQuote rest := by
  rw [quoteChar]
  split_ifs with hquote hslash hn hr ht h0 hhidden
  · rfl
  · rfl
  · rfl
  · rfl
  · rfl
  · rfl
  · -- behind the backslash and its letter stands the number between braces
    have hbraces : ∀ d ∈ '\x7b' :: hexText c.toNat ++ ['\x7d'], d ≠ '"' ∧ d ≠ '\\' := by
      intro d hd
      simp only [List.cons_append, List.mem_cons, List.mem_append, List.not_mem_nil,
        or_false] at hd
      rcases hd with rfl | hd | rfl
      · decide
      · exact hexText_plain hd
      · decide
    exact afterQuote_append hbraces rest
  · exact afterQuote_cons hquote hslash rest

/-- Behind the opening quotation mark stands what is quoted, behind the closing one
what follows. -/
lemma afterQuote_quoteList (cs rest : List Char) :
    afterQuote (cs.flatMap quoteChar ++ '"' :: rest) = rest := by
  induction cs with
  | nil => rfl
  | cons c cs ih => rw [List.flatMap_cons, List.append_assoc, afterQuote_quoteChar, ih]

/-- Quoted texts are told from each other in front of anything. -/
theorem eq_of_quoteList_append {cs cs' rest rest' : List Char}
    (h : quoteList cs ++ rest = quoteList cs' ++ rest') :
    quoteList cs = quoteList cs' ∧ rest = rest' := by
  have hrest : rest = rest' := by
    have htail : cs.flatMap quoteChar ++ '"' :: rest = cs'.flatMap quoteChar ++ '"' :: rest' := by
      simpa [quoteList] using h
    have hafter := congrArg afterQuote htail
    rwa [afterQuote_quoteList, afterQuote_quoteList] at hafter
  subst hrest
  exact ⟨List.append_cancel_right h, rfl⟩

end Criteria

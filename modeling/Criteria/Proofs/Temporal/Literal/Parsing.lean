/-
Parsers that work on literals.

* `Grammar.Parses`: a parser takes the value of the literal that a text spells,
  and finds a text that spells none malformed;
* `Grammar.parses_of_read?`: a parser that reads a literal from a text, and takes
  its value, is one;
* `Grammar.Parses.eq_malformed_iff`: then exactly the texts that spell no literal
  are malformed.
-/
import Criteria.Temporal.Error
import Mathlib.Tactic.Lemma

namespace Criteria

namespace Grammar

variable {L α : Type} {g : Grammar} {parse : String → Except TemporalError α}
  {text : L → List Char} {value : L → Except TemporalError α}

/-- The parser of a grammar takes the value of the literal that a text spells,
in which only a part can be wrong. A text that spells no literal is malformed. -/
structure Parses (g : Grammar) (parse : String → Except TemporalError α)
    (text : L → List Char) (value : L → Except TemporalError α) : Prop where
  of_text : ∀ {s : String} {l : L}, s.toList = text l → parse s = value l
  of_not_text : ∀ {s : String}, (¬ ∃ l, s.toList = text l) → parse s = .error (.malformed g s)
  component : ∀ {l : L} {e : TemporalError}, value l = .error e → e.component? ≠ none

/-- A parser that reads a literal and takes its value works on the spellings of
literals. -/
lemma parses_of_read? {read? : List Char → Option L}
    (hsome : ∀ {s l}, read? s.toList = some l → parse s = value l)
    (hnone : ∀ {s}, read? s.toList = none → parse s = .error (.malformed g s))
    (hread : ∀ {cs : List Char} {l : L}, read? cs = some l ↔ cs = text l)
    (hvalue : ∀ {l : L} {e : TemporalError}, value l = .error e → e.component? ≠ none) :
    g.Parses parse text value where
  of_text h := hsome (hread.mpr h)
  of_not_text {s} h := by
    cases hs : read? s.toList with
    | none => exact hnone hs
    | some l => exact absurd ⟨l, hread.mp hs⟩ h
  component := hvalue

namespace Parses

variable (h : g.Parses parse text value) {s : String}

include h

/-- A text is malformed exactly when it spells no literal. -/
theorem eq_malformed_iff {grammar : Grammar} {input : String} :
    parse s = .error (.malformed grammar input)
      ↔ grammar = g ∧ input = s ∧ ¬ ∃ l, s.toList = text l := by
  by_cases htext : ∃ l, s.toList = text l
  · obtain ⟨l, hl⟩ := htext
    rw [h.of_text hl]
    constructor
    · intro hvalue
      exact absurd rfl (h.component hvalue)
    · rintro ⟨-, -, hnone⟩
      exact absurd ⟨l, hl⟩ hnone
  · rw [h.of_not_text htext, Except.error.injEq, TemporalError.malformed.injEq]
    constructor
    · rintro ⟨rfl, rfl⟩
      exact ⟨rfl, rfl, htext⟩
    · rintro ⟨rfl, rfl, -⟩
      exact ⟨rfl, rfl⟩

/-- What is parsed is spelled by a literal that means it. -/
lemma exists_text_of_ok {a : α} (hok : parse s = .ok a) :
    ∃ l, s.toList = text l ∧ value l = .ok a := by
  by_cases htext : ∃ l, s.toList = text l
  · obtain ⟨l, hl⟩ := htext
    exact ⟨l, hl, h.of_text hl ▸ hok⟩
  · rw [h.of_not_text htext] at hok
    exact absurd hok (by simp)

/-- What is refused is malformed, or spelled by a literal that has no meaning. -/
lemma eq_malformed_or_exists_text {e : TemporalError} (herror : parse s = .error e) :
    e = .malformed g s ∨ ∃ l, s.toList = text l ∧ value l = .error e := by
  by_cases htext : ∃ l, s.toList = text l
  · obtain ⟨l, hl⟩ := htext
    exact .inr ⟨l, hl, h.of_text hl ▸ herror⟩
  · rw [h.of_not_text htext] at herror
    exact .inl (Except.error.inj herror).symm

end Parses

end Grammar

end Criteria

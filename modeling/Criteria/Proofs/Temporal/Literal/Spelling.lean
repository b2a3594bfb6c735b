/-
Literals are read from their spellings and from no other texts.

* `DateLiteral.read?_eq_some_iff`, `TimeLiteral.read?_eq_some_iff`,
  `OffsetLiteral.read?_eq_some_iff`: the literal that is read from a text is the
  one that the text spells;
* `DateLiteral.isMark_eq_false_of_mem`, `TimeLiteral.isStart_eq_false_of_mem`:
  no date holds the letter before a time, and no time holds a character that
  starts an offset;
* `DateTimeLiteral.read?_eq_some_iff`: so a datetime literal, too, is read from
  its spelling and from no other text.
-/
import Criteria.Proofs.Text.Delimited
import Criteria.Proofs.Text.Group
import Criteria.Temporal.Literal.DateTime
import Mathlib.Tactic.SplitIfs

namespace Criteria

/-! ### Dates -/

namespace DateTail

/-- What is read after the letter `W` spells a week. -/
lemma eq_text_of_readWeek? {dash : Bool} {cs : List Char} {t : DateTail}
    (h : readWeek? dash cs = some t) : dashText dash ++ 'W' :: cs = t.text := by
  rw [readWeek?.eq_def] at h
  split at h
  · obtain ⟨w, hw, rfl⟩ := Option.map_eq_some_iff.mp h
    rw [text, ← TwoDigits.read?_eq_some_iff.mp hw]
  · split at h
    · rename_i w d hw hd
      obtain rfl := Option.some.inj h
      rw [text, ← TwoDigits.read?_eq_some_iff.mp hw, ← Digit.ofChar?_eq_some_iff.mp hd]
      simp [dashText]
    · exact absurd h (by simp)
  · split at h
    · rename_i w d hw hd
      obtain rfl := Option.some.inj h
      rw [text, ← TwoDigits.read?_eq_some_iff.mp hw, ← Digit.ofChar?_eq_some_iff.mp hd]
      simp [dashText]
    · exact absurd h (by simp)
  · exact absurd h (by simp)

lemma read?_text (t : DateTail) : read? t.text = some t := by
  have hW : ∀ d : Digit, d.char ≠ 'W' := Digit.char_ne rfl
  cases t with
  | year => rfl
  | month m => simp [read?, text, TwoDigits.text, hW]
  | day m d => simp [read?, text, TwoDigits.text, hW]
  | week dash w => cases dash <;> simp [read?, readWeek?, text, TwoDigits.text, dashText]
  | weekday dash w innerDash d =>
      cases dash <;> cases innerDash <;>
        simp [read?, readWeek?, text, TwoDigits.text, dashText]

/-- What may follow a year is read from its spelling and from no other text. -/
theorem read?_eq_some_iff {cs : List Char} {t : DateTail} : read? cs = some t ↔ cs = t.text := by
  constructor
  · intro h
    rw [read?.eq_def] at h
    split at h
    · rw [← Option.some.inj h, text]
    · exact eq_text_of_readWeek? h
    · exact eq_text_of_readWeek? h
    · obtain ⟨m, hm, rfl⟩ := Option.map_eq_some_iff.mp h
      rw [text, ← TwoDigits.read?_eq_some_iff.mp hm]
    · split at h
      · rename_i m d hm hd
        obtain rfl := Option.some.inj h
        rw [text, ← TwoDigits.read?_eq_some_iff.mp hm, ← TwoDigits.read?_eq_some_iff.mp hd]
        rfl
      · exact absurd h (by simp)
    · exact absurd h (by simp)
  · rintro rfl
    exact read?_text t

end DateTail

namespace DateLiteral

lemma read?_text (l : DateLiteral) : read? l.text = some l := by
  have hplus : l.year.high.tens.char ≠ '+' := Digit.char_ne rfl _
  have hminus : l.year.high.tens.char ≠ '-' := Digit.char_ne rfl _
  have hsplit : Sign.split l.text = (l.sign, l.year.text ++ l.tail.text) := by
    rw [text, List.append_assoc]
    refine Sign.split_append fun c hc => ?_
    obtain rfl : l.year.high.tens.char = c := Option.some.inj hc
    exact ⟨hplus, hminus⟩
  rw [read?, hsplit]
  simp [FourDigits.text, TwoDigits.text, DateTail.read?_text]

/-- A date literal is read from its spelling and from no other text. -/
theorem read?_eq_some_iff {cs : List Char} {l : DateLiteral} : read? cs = some l ↔ cs = l.text := by
  constructor
  · intro h
    have hsplit := Sign.text_append_split cs
    rw [read?] at h
    generalize Sign.split cs = parts at h hsplit
    obtain ⟨sign, rest⟩ := parts
    simp only at h hsplit
    split at h
    · split at h
      · rename_i year tail hyear htail
        obtain rfl := Option.some.inj h
        rw [← hsplit, text, ← FourDigits.read?_eq_some_iff.mp hyear,
          ← DateTail.read?_eq_some_iff.mp htail]
        simp
      · exact absurd h (by simp)
    · exact absurd h (by simp)
  · rintro rfl
    exact read?_text l

end DateLiteral

/-! ### Times -/

namespace TimeLiteral

lemma read?_text (l : TimeLiteral) : read? l.text = some l := by
  cases l with
  | hour h => simp [read?, text, TwoDigits.text]
  | minute h m => simp [read?, text, TwoDigits.text]
  | second h m s => simp [read?, text, TwoDigits.text]
  | fraction h m s digits size =>
      have hdigits := Digit.ofChars?_eq_some_iff.mpr (Eq.refl (digits.map Digit.char))
      simp [read?, text, TwoDigits.text, readFraction?, hdigits, size]

/-- A time literal is read from its spelling and from no other text. -/
theorem read?_eq_some_iff {cs : List Char} {l : TimeLiteral} : read? cs = some l ↔ cs = l.text := by
  constructor
  · intro h
    rw [read?.eq_def] at h
    split at h
    · obtain ⟨hour, hh, rfl⟩ := Option.map_eq_some_iff.mp h
      rw [text, ← TwoDigits.read?_eq_some_iff.mp hh]
    · split at h
      · rename_i hour minute hh hm
        obtain rfl := Option.some.inj h
        rw [text, ← TwoDigits.read?_eq_some_iff.mp hh, ← TwoDigits.read?_eq_some_iff.mp hm]
        rfl
      · exact absurd h (by simp)
    · split at h
      · rename_i hour minute second hh hm hs
        obtain rfl := Option.some.inj h
        rw [text, ← TwoDigits.read?_eq_some_iff.mp hh, ← TwoDigits.read?_eq_some_iff.mp hm,
          ← TwoDigits.read?_eq_some_iff.mp hs]
        rfl
      · exact absurd h (by simp)
    · split at h
      · rename_i hour minute second hh hm hs
        rw [readFraction?] at h
        split at h
        · rename_i digits hdigits
          split at h
          · obtain rfl := Option.some.inj h
            rw [text, ← TwoDigits.read?_eq_some_iff.mp hh, ← TwoDigits.read?_eq_some_iff.mp hm,
              ← TwoDigits.read?_eq_some_iff.mp hs, ← Digit.ofChars?_eq_some_iff.mp hdigits]
            rfl
          · exact absurd h (by simp)
        · exact absurd h (by simp)
      · exact absurd h (by simp)
    · exact absurd h (by simp)
  · rintro rfl
    exact read?_text l

end TimeLiteral

/-! ### Offsets -/

/-- A sign is read from its own character and from no other. -/
lemma OffsetSign.ofChar?_eq_some_iff {c : Char} {sign : OffsetSign} :
    ofChar? c = some sign ↔ c = sign.char := by
  constructor
  · intro h
    unfold ofChar? at h
    split at h
    · rw [← Option.some.inj h, char]
    · rw [← Option.some.inj h, char]
    · rw [← Option.some.inj h, char]
    · exact absurd h (by simp)
  · rintro rfl
    cases sign <;> rfl

namespace OffsetLiteral

lemma eq_text_of_readSigned? {sign : OffsetSign} {cs : List Char} {l : OffsetLiteral}
    (h : readSigned? sign cs = some l) : sign.char :: cs = l.text := by
  rw [readSigned?.eq_def] at h
  split at h
  · obtain ⟨hour, hh, rfl⟩ := Option.map_eq_some_iff.mp h
    rw [text, ← TwoDigits.read?_eq_some_iff.mp hh]
  · split at h
    · rename_i hour minute hh hm
      obtain rfl := Option.some.inj h
      rw [text, ← TwoDigits.read?_eq_some_iff.mp hh, ← TwoDigits.read?_eq_some_iff.mp hm]
      rfl
    · exact absurd h (by simp)
  · split at h
    · rename_i hour minute hh hm
      obtain rfl := Option.some.inj h
      rw [text, ← TwoDigits.read?_eq_some_iff.mp hh, ← TwoDigits.read?_eq_some_iff.mp hm]
      rfl
    · exact absurd h (by simp)
  · exact absurd h (by simp)

lemma readSigned?_hours (sign : OffsetSign) (h : TwoDigits) :
    readSigned? sign h.text = some (hours sign h) := by
  simp [readSigned?, TwoDigits.text]

lemma readSigned?_minutes (sign : OffsetSign) (h : TwoDigits) (colon : Bool) (m : TwoDigits) :
    readSigned? sign (h.text ++ (if colon then [':'] else []) ++ m.text)
      = some (minutes sign h colon m) := by
  cases colon <;> simp [readSigned?, TwoDigits.text]

/-- After a sign the reading is that of hours and minutes. -/
lemma read?_sign (sign : OffsetSign) (cs : List Char) :
    read? (sign.char :: cs) = readSigned? sign cs := by
  cases sign <;> simp [read?, OffsetSign.char, OffsetSign.ofChar?]

lemma read?_text (l : OffsetLiteral) : read? l.text = some l := by
  cases l with
  | utc lowercase => cases lowercase <;> rfl
  | hours sign h => rw [text, read?_sign, readSigned?_hours]
  | minutes sign h colon m =>
      rw [text, List.cons_append, List.cons_append, read?_sign, readSigned?_minutes]

/-- An offset literal is read from its spelling and from no other text. -/
theorem read?_eq_some_iff {cs : List Char} {l : OffsetLiteral} :
    read? cs = some l ↔ cs = l.text := by
  constructor
  · intro h
    unfold read? at h
    split at h
    · exact absurd h (by simp)
    · rename_i c cs
      split_ifs at h with hupper hlower
      · obtain ⟨rfl, rfl⟩ := hupper
        rw [← Option.some.inj h]
        rfl
      · obtain ⟨rfl, rfl⟩ := hlower
        rw [← Option.some.inj h]
        rfl
      · split at h
        · rename_i sign hsign
          rw [OffsetSign.ofChar?_eq_some_iff.mp hsign]
          exact eq_text_of_readSigned? h
        · exact absurd h (by simp)
  · rintro rfl
    exact read?_text l

/-- The spelling of an offset literal that may be left out. -/
def optionText (o : Option OffsetLiteral) : List Char := o.elim [] text

lemma exists_isStart (l : OffsetLiteral) : ∃ c cs, l.text = c :: cs ∧ isStart c = true := by
  cases l with
  | utc lowercase => cases lowercase <;> exact ⟨_, _, rfl, rfl⟩
  | hours sign h => cases sign <;> exact ⟨_, _, rfl, rfl⟩
  | minutes sign h colon m => cases sign <;> exact ⟨_, _, rfl, rfl⟩

end OffsetLiteral

/-! ### Datetimes -/

/-- No date literal holds a letter that separates a date from a time. -/
lemma DateLiteral.isMark_eq_false_of_mem (l : DateLiteral) :
    ∀ c ∈ l.text, DateTimeLiteral.isMark c = false := by
  have hdigit : ∀ d : Digit, DateTimeLiteral.isMark d.char = false := by decide
  have hsign : ∀ c ∈ Sign.text l.sign, DateTimeLiteral.isMark c = false := by
    obtain ⟨sign, year, tail⟩ := l
    obtain _ | _ | _ := sign <;> simp [Sign.text, Sign.char, DateTimeLiteral.isMark]
  have htail : ∀ c ∈ l.tail.text, DateTimeLiteral.isMark c = false := by
    have hdash : DateTimeLiteral.isMark '-' = false := by decide
    have hW : DateTimeLiteral.isMark 'W' = false := by decide
    cases l.tail with
    | year | month | day => simp [DateTail.text, TwoDigits.text, hdigit, hdash]
    | week dash w =>
        cases dash <;> simp [DateTail.text, TwoDigits.text, dashText, hdigit, hdash, hW]
    | weekday dash w innerDash d =>
        cases dash <;> cases innerDash <;>
          simp [DateTail.text, TwoDigits.text, dashText, hdigit, hdash, hW]
  intro c hc
  simp only [text, List.mem_append] at hc
  obtain (hc | hc) | hc := hc
  · exact hsign c hc
  · revert hc c
    simp [FourDigits.text, TwoDigits.text, hdigit]
  · exact htail c hc

/-- No time literal holds a character that starts an offset. -/
lemma TimeLiteral.isStart_eq_false_of_mem (l : TimeLiteral) :
    ∀ c ∈ l.text, OffsetLiteral.isStart c = false := by
  have hdigit : ∀ d : Digit, OffsetLiteral.isStart d.char = false := by decide
  have hcolon : OffsetLiteral.isStart ':' = false := by decide
  have hpoint : OffsetLiteral.isStart '.' = false := by decide
  cases l <;> simp [text, TwoDigits.text, hdigit, hcolon, hpoint]

namespace DateTimeLiteral

lemma isMark_iff {c : Char} : isMark c = true ↔ c = 'T' ∨ c = 't' := by
  rw [isMark, Bool.or_eq_true, decide_eq_true_eq, decide_eq_true_eq]

lemma any_isMark_iff {cs : List Char} : cs.any isMark = true ↔ 'T' ∈ cs ∨ 't' ∈ cs := by
  simp only [List.any_eq_true, isMark_iff]
  constructor
  · rintro ⟨c, hc, rfl | rfl⟩
    · exact .inl hc
    · exact .inr hc
  · rintro (h | h)
    · exact ⟨_, h, .inl rfl⟩
    · exact ⟨_, h, .inr rfl⟩

/-- The letter between the date and the time of a datetime literal. -/
def mark (l : DateTimeLiteral) : Char := if l.lowercase then 't' else 'T'

lemma text_eq (l : DateTimeLiteral) :
    l.text = l.date.text ++ l.mark :: (l.time.text ++ OffsetLiteral.optionText l.offset) := by
  obtain ⟨date, lowercase, time, offset, complete⟩ := l
  cases offset <;> simp [text, mark, OffsetLiteral.optionText]

lemma readOffset?_eq_some_iff {cs : List Char} {o : Option OffsetLiteral} :
    readOffset? cs = some o ↔ cs = OffsetLiteral.optionText o := by
  rw [readOffset?]
  cases o with
  | none =>
      split_ifs with hnil
      · simp [hnil, OffsetLiteral.optionText]
      · simp [hnil, OffsetLiteral.optionText]
  | some l =>
      obtain ⟨c, rest, htext, -⟩ := l.exists_isStart
      split_ifs with hnil
      · simp [hnil, OffsetLiteral.optionText, htext]
      · simp [OffsetLiteral.optionText, OffsetLiteral.read?_eq_some_iff]

/-- The spellings of a date, a time and an offset are cut apart again. -/
lemma read?_pieces (date : DateLiteral) {c : Char} (hc : isMark c = true) (time : TimeLiteral)
    (offset : Option OffsetLiteral) :
    read? (date.text ++ c :: (time.text ++ OffsetLiteral.optionText offset))
      = if complete : date.tail.isComplete = true then
          some ⟨date, c = 't', time, offset, complete⟩
        else none := by
  obtain ⟨hdate, hrest⟩ := span_append
    (c :: (time.text ++ OffsetLiteral.optionText offset)) date.isMark_eq_false_of_mem
    (fun _ hmark => Option.some.inj hmark ▸ hc)
  have hstart : ∀ c, (OffsetLiteral.optionText offset).head? = some c →
      OffsetLiteral.isStart c = true := by
    intro c hhead
    cases offset with
    | none => simp [OffsetLiteral.optionText] at hhead
    | some o =>
        obtain ⟨first, cs, htext, hfirst⟩ := o.exists_isStart
        simp only [OffsetLiteral.optionText, Option.elim_some, htext, List.head?_cons] at hhead
        exact Option.some.inj hhead ▸ hfirst
  obtain ⟨htime, hoffset⟩ := span_append _ time.isStart_eq_false_of_mem hstart
  rw [read?, hdate, hrest]
  simp only
  rw [htime, hoffset, DateLiteral.read?_text, TimeLiteral.read?_text,
    readOffset?_eq_some_iff.mpr rfl]

lemma isMark_mark (l : DateTimeLiteral) : isMark l.mark = true := by
  rw [mark]
  split_ifs <;> rfl

lemma read?_text (l : DateTimeLiteral) : read? l.text = some l := by
  rw [text_eq, read?_pieces _ l.isMark_mark, dif_pos l.complete]
  obtain ⟨date, lowercase, time, offset, complete⟩ := l
  cases lowercase <;> simp [mark]

/-- A datetime literal is read from its spelling and from no other text. -/
theorem read?_eq_some_iff {cs : List Char} {l : DateTimeLiteral} :
    read? cs = some l ↔ cs = l.text := by
  constructor
  · intro h
    have hcut := List.takeWhile_append_dropWhile (p := fun c => !isMark c) (l := cs)
    have hmark := List.head?_dropWhile_not (fun c => !isMark c) cs
    rw [read?] at h
    split at h
    · exact absurd h (by simp)
    · rename_i c rest hrest
      rw [hrest] at hcut hmark
      have hmark' : isMark c = true := by simpa using hmark
      split at h
      · rename_i date time offset hdate htime hoffset
        split_ifs at h with hcomplete
        obtain rfl := Option.some.inj h
        have htimeCut := List.takeWhile_append_dropWhile
          (p := fun c => !OffsetLiteral.isStart c) (l := rest)
        have hc : c = (if c = 't' then 't' else 'T') := by
          obtain rfl | rfl := isMark_iff.mp hmark' <;> rfl
        simp only [text_eq, mark, decide_eq_true_eq]
        rw [← DateLiteral.read?_eq_some_iff.mp hdate,
          ← TimeLiteral.read?_eq_some_iff.mp htime, ← readOffset?_eq_some_iff.mp hoffset,
          htimeCut, ← hc, hcut]
      · exact absurd h (by simp)
  · rintro rfl
    exact read?_text l

end DateTimeLiteral

end Criteria

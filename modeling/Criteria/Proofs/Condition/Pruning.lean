/-
What the built-in kinds read of a document.

* `Json.Same`: documents that differ at most in the order of their members;
  `Registry.verdict_eq_of_same`: the verdict is the same for both, since each of its steps
  looks at members by name (`Field.validate_eq_of_same`, `Registry.reading_of_same`);
* `Json.pruned`: a document without the members that the kinds of its nodes do not read,
  and with the values that lookups leave out;
* `Registry.reading_pruned`, `Registry.verdict_pruned`: a pruned document reads as before,
  up to the pruning of its items, and so has the same verdict;
* `Engine.resolve_of_pruned`: so documents that are the same once they are pruned have one
  outcome.
-/
import Criteria.Proofs.Condition.Agreement
import Criteria.Proofs.Field.Lookups

namespace Criteria

/-! ### Documents that are the same -/

namespace Json

/-- Two documents are the same when they have the same items in the same order, and the
same members in any order. Of several members with one name the last one counts. -/
inductive Same : Json → Json → Prop
  | null : Same .null .null
  | bool (b : Bool) : Same (.bool b) (.bool b)
  | num (n : Number) : Same (.num n) (.num n)
  | str (s : String) : Same (.str s) (.str s)
  | arr {items items' : List Json} :
      List.Forall₂ Same items items' → Same (.arr items) (.arr items')
  | obj {members members' : List (String × Json)} :
      (∀ key, Option.Rel Same (findMember key members) (findMember key members')) →
      Same (.obj members) (.obj members')

variable {document document' : Json} {members members' : List (String × Json)} {key : String}

/-- Under one name there is no member, or members that are the same. -/
lemma Same.member_cases (h : Same (.obj members) (.obj members')) (key : String) :
    (findMember key members = none ∧ findMember key members' = none) ∨
      ∃ value value', findMember key members = some value ∧
        findMember key members' = some value' ∧ value.Same value' := by
  cases h with
  | obj hmembers =>
      have hkey := hmembers key
      generalize findMember key members = found at hkey ⊢
      generalize findMember key members' = found' at hkey ⊢
      cases hkey with
      | none => exact .inl ⟨rfl, rfl⟩
      | some hsame => exact .inr ⟨_, _, rfl, rfl, hsame⟩

theorem Same.refl (document : Json) : document.Same document := by
  induction hn : document.depth using Nat.strongRecOn generalizing document with
  | ind n ih =>
      subst hn
      cases document with
      | null => exact .null
      | bool b => exact .bool b
      | num n => exact .num n
      | str s => exact .str s
      | arr items =>
          refine .arr (List.forall₂_same.mpr fun item hitem => ih _ ?_ item rfl)
          exact Nat.lt_succ_of_le (depth_le_itemsDepth hitem)
      | obj members =>
          refine .obj fun key => ?_
          cases hvalue : findMember key members with
          | none => exact .none
          | some value =>
              exact .some (ih _ (Nat.lt_succ_of_le (depth_le_membersDepth hvalue)) value rfl)

end Json

/-! ### Readings that correspond -/

/-- Two readings say the same, up to items that are related one by one. -/
inductive Reading.Corresponds (R : Json → Json → Prop) :
    Except Rejection Reading → Except Rejection Reading → Prop
  | error (rejection : Rejection) : Corresponds R (.error rejection) (.error rejection)
  | leaf (l : Leaf) : Corresponds R (.ok (.leaf l)) (.ok (.leaf l))
  | junction (j : Junction) {items items' : List Json} : List.Forall₂ R items items' →
      Corresponds R (.ok (.junction j items)) (.ok (.junction j items'))

/-- Nodes have one verdict when they read alike, up to items that have one verdict. -/
lemma Registry.verdict_eq_of_corresponds {r : Registry} {document document' : Json}
    {R : Json → Json → Prop}
    (hread : Reading.Corresponds R (r.reading document) (r.reading document'))
    (hitems : ∀ j items, document.IsJunction j items → ∀ item ∈ items, ∀ item',
      R item item' → r.verdict item = r.verdict item') :
    r.verdict document = r.verdict document' := by
  rw [verdict_eq r document, verdict_eq r document']
  generalize hreading : r.reading document = reading at hread ⊢
  generalize r.reading document' = reading' at hread ⊢
  cases hread with
  | error rejection => rfl
  | leaf l => rfl
  | junction j hrelated =>
      have hverdicts := hitems j _ (reading_eq_junction_iff.mp hreading)
      refine Verdict.ofReading_junction_congr ?_ j
      exact ((List.forall₂_and_left _ _).mpr ⟨hverdicts, hrelated⟩).imp
        fun item item' ⟨hverdict, hitem⟩ => hverdict item' hitem

/-! ### Documents that are the same have one verdict -/

section Same

variable {f : Field} {r : Registry} {raw raw' document document' : Json}

/-- A field takes the same scalar from documents that are the same. -/
lemma Field.scalar_eq_of_same (h : raw.Same raw') : f.scalar raw = f.scalar raw' := by
  cases h with
  | arr | obj => unfold scalar; cases f.kind <;> rfl
  | _ => rfl

/-- A field makes the same of documents that are the same. -/
lemma Field.validate_eq_of_same (h : raw.Same raw') (lookup : String) :
    f.validate raw lookup = f.validate raw' lookup := by
  by_cases hsupports : f.supports lookup = true
  · by_cases hmember : lookup = membershipLookup
    · subst hmember
      cases h with
      | arr hitems =>
          rw [validate_arr hsupports, validate_arr hsupports]
          exact congrArg _ (mapM_eq_of_forall₂ (hitems.imp fun _ _ => scalar_eq_of_same))
      | _ => simp [validate_of_not_arr hsupports]
    · rw [validate_of_ne hsupports hmember, validate_of_ne hsupports hmember, scalar_eq_of_same h]
  · rw [Bool.not_eq_true] at hsupports
    rw [validate_of_not_supports hsupports, validate_of_not_supports hsupports]

namespace Body

variable {body body' : Body}

/-- Bodies with the same members have the same texts. -/
lemma text?_eq_of_same (h : Json.Same (.obj body) (.obj body')) (key : String) :
    body.text? key = body'.text? key := by
  obtain ⟨hnone, hnone'⟩ | ⟨value, value', hvalue, hvalue', hsame⟩ := h.member_cases key
  · rw [text?, text?, hnone, hnone']
  · rw [text?, text?, hvalue, hvalue']
    cases hsame <;> rfl

/-- Bodies with the same members have the same value under a key. -/
lemma same_valueAt (h : Json.Same (.obj body) (.obj body')) (key : String) :
    (body.valueAt key).Same (body'.valueAt key) := by
  obtain ⟨hnone, hnone'⟩ | ⟨value, value', hvalue, hvalue', hsame⟩ := h.member_cases key
  · rw [valueAt, valueAt, hnone, hnone']
    exact .null
  · rw [valueAt, valueAt, hvalue, hvalue']
    exact hsame

lemma leaf_eq_of_same (h : Json.Same (.obj body) (.obj body')) : body.leaf r = body'.leaf r := by
  have hvalidate : ∀ (f : Field) (lookup : String),
      f.validate (body.valueAt "value") lookup = f.validate (body'.valueAt "value") lookup :=
    fun f lookup => Field.validate_eq_of_same (same_valueAt h "value") lookup
  unfold leaf leafOf
  simp only [text?_eq_of_same h, hvalidate]

lemma corresponds_conditions (h : Json.Same (.obj body) (.obj body')) (j : Junction) :
    Reading.Corresponds Json.Same (body.conditions.map (.junction j))
      (body'.conditions.map (.junction j)) := by
  obtain ⟨hnone, hnone'⟩ | ⟨value, value', hvalue, hvalue', hsame⟩ := h.member_cases "conditions"
  · rw [conditions, conditions, hnone, hnone']
    exact .error _
  · rw [conditions, conditions, hvalue, hvalue']
    cases hsame with
    | arr hitems =>
        cases hitems with
        | nil => exact .error _
        | cons hfirst hrest => exact .junction j (.cons hfirst hrest)
    | _ => exact .error _

end Body

/-- Documents that are the same read alike, up to items that are the same. -/
theorem Registry.reading_of_same (h : document.Same document') :
    Reading.Corresponds Json.Same (r.reading document) (r.reading document') := by
  cases h with
  | @obj body body' hmembers =>
      have h : Json.Same (.obj body) (.obj body') := .obj hmembers
      rw [reading, reading, Body.text?_eq_of_same h kindKey, Body.leaf_eq_of_same h]
      cases Body.text? body' kindKey with
      | none => exact .error _
      | some kind =>
          simp only
          split_ifs
          · exact .error _
          · exact Body.corresponds_conditions h .all
          · exact Body.corresponds_conditions h .any
          · cases Body.leaf body' r with
            | ok l => exact .leaf l
            | error rejection => exact .error rejection
          · exact .error _
  | _ => exact .error _

/-- Documents that are the same have one verdict. -/
theorem Registry.verdict_eq_of_same (h : document.Same document') :
    r.verdict document = r.verdict document' := by
  induction document using Json.junction_induct generalizing document' with
  | _ document ih =>
      exact verdict_eq_of_corresponds (reading_of_same h)
        fun j items hj item hitem item' hsame => ih j items hj item hitem hsame

end Same

/-! ### Pruning -/

/-- The keys that a node reads, by its kind: a junction its kind and its conditions, a
lookup its kind, field, lookup and value. Of a node of no built-in kind every key counts
as read. -/
def readsKey (kind : Option String) (key : String) : Bool :=
  if kind = some "and" ∨ kind = some "or" then key ∈ ["kind", "conditions"]
  else if kind = some "lookup" then key ∈ ["kind", "field", "lookup", "value"]
  else true

lemma readsKey_kindKey (kind : Option String) : readsKey kind kindKey = true := by
  rw [readsKey]
  split_ifs <;> rfl

/-- The members with a value among them, which is null when there is none. -/
def Body.withValue (body : Body) : Body :=
  match Json.findMember "value" body with
  | some _ => body
  | none => body ++ [("value", .null)]

namespace Json

mutual

/-- A document without the members that its nodes do not read: at each node that is
reached through lists of conditions the keys that its kind does not read are dropped, and
a lookup without a value gets null. -/
def pruned : Json → Json
  | .obj body =>
    let kept := prunedMembers (readsKey (Body.text? body kindKey)) body
    .obj (if Body.text? body kindKey = some "lookup" then Body.withValue kept else kept)
  | document => document

/-- The members with certain keys, the conditions pruned in turn. -/
def prunedMembers (keeps : String → Bool) : List (String × Json) → List (String × Json)
  | [] => []
  | (key, value) :: members =>
    if keeps key then
      (key, if key = "conditions" then prunedConditions value else value)
        :: prunedMembers keeps members
    else prunedMembers keeps members

/-- The conditions of a node, pruned when they are a list. -/
def prunedConditions : Json → Json
  | .arr items => .arr (prunedItems items)
  | value => value

/-- Documents, each of them pruned. -/
def prunedItems : List Json → List Json
  | [] => []
  | item :: items => pruned item :: prunedItems items

end

/-! ### The members that are left -/

lemma findMember_cons (name key : String) (value : Json) (members : List (String × Json)) :
    findMember name ((key, value) :: members)
      = (findMember name members).or (if key = name then some value else none) := by
  rw [findMember]
  cases findMember name members <;> rfl

lemma findMember_append (name : String) (members more : List (String × Json)) :
    findMember name (members ++ more) = (findMember name more).or (findMember name members) := by
  induction members with
  | nil => simp [findMember]
  | cons member members ih =>
      rw [List.cons_append, findMember_cons, findMember_cons, ih, Option.or_assoc]

/-- A member that is kept stays as it is, save that conditions are pruned. -/
lemma findMember_prunedMembers (keeps : String → Bool) (name : String)
    (members : List (String × Json)) :
    findMember name (prunedMembers keeps members)
      = if keeps name then
          (findMember name members).map fun value =>
            if name = "conditions" then prunedConditions value else value
        else none := by
  induction members with
  | nil => simp [prunedMembers, findMember]
  | cons member members ih =>
      rw [prunedMembers]
      split_ifs <;> grind [findMember_cons]

lemma prunedItems_eq_map (items : List Json) : prunedItems items = items.map pruned := by
  induction items with
  | nil => rfl
  | cons item items ih => rw [prunedItems, ih, List.map_cons]

end Json

namespace Body

variable {body : Body} {r : Registry} {keeps : String → Bool}

/-- A value is added under its own name, and only when there is none. -/
lemma findMember_withValue (name : String) :
    Json.findMember name body.withValue
      = if name = "value" then some (body.valueAt "value") else Json.findMember name body := by
  rw [withValue, valueAt]
  cases hvalue : Json.findMember "value" body with
  | some value => split_ifs with hname <;> simp [hname, hvalue]
  | none =>
      rw [Json.findMember_append]
      split_ifs with hname
      · simp [hname, Json.findMember]
      · simp [Json.findMember, Ne.symm hname]

lemma text?_withValue {key : String} (hkey : key ≠ "value") :
    body.withValue.text? key = body.text? key := by
  rw [text?, findMember_withValue, if_neg hkey, text?]

/-- A text that is kept stays as it is. -/
lemma text?_prunedMembers {key : String} (hkeeps : keeps key = true) (hkey : key ≠ "conditions") :
    text? (Json.prunedMembers keeps body) key = body.text? key := by
  simp [text?, Json.findMember_prunedMembers, hkeeps, hkey]

/-- The leaf of a lookup is left by its pruning. -/
lemma leaf_pruned :
    leaf (withValue (Json.prunedMembers (readsKey (some "lookup")) body)) r = body.leaf r := by
  have hvalue : valueAt (withValue (Json.prunedMembers (readsKey (some "lookup")) body)) "value"
      = body.valueAt "value" := by
    rw [valueAt, findMember_withValue, if_pos rfl, Option.getD_some, valueAt, valueAt,
      Json.findMember_prunedMembers, if_pos (by decide)]
    simp
  have htext : ∀ key ∈ ["field", "lookup"],
      text? (withValue (Json.prunedMembers (readsKey (some "lookup")) body)) key
        = body.text? key := by
    intro key hkey
    rw [text?_withValue (by rintro rfl; exact absurd hkey (by decide)),
      text?_prunedMembers (by revert key; decide) (by rintro rfl; exact absurd hkey (by decide))]
  rw [leaf, leaf, htext _ (by decide), htext _ (by decide), hvalue]

/-- The conditions that are kept are those from before, each of them pruned. -/
lemma corresponds_conditions_pruned (hkeeps : keeps "conditions" = true) (j : Junction) :
    Reading.Corresponds (fun item item' => item' = item.pruned)
      (body.conditions.map (.junction j))
      ((conditions (Json.prunedMembers keeps body)).map (.junction j)) := by
  rw [conditions, conditions, Json.findMember_prunedMembers, if_pos hkeeps]
  cases Json.findMember "conditions" body with
  | none => exact .error _
  | some value =>
      cases value with
      | arr items =>
          cases items with
          | nil => exact .error _
          | cons item items =>
              refine .junction j (.cons rfl ?_)
              rw [Json.prunedItems_eq_map, List.forall₂_map_right_iff, List.forall₂_same]
              exact fun _ _ => rfl
      | _ => exact .error _

end Body

/-! ### Pruning does not matter -/

section Pruning

variable {r : Registry} {document document' : Json}

/-- A document reads as it does when it is pruned, up to the pruning of its items. -/
theorem Registry.reading_pruned (r : Registry) (document : Json) :
    Reading.Corresponds (fun item item' => item' = item.pruned) (r.reading document)
      (r.reading document.pruned) := by
  cases document with
  | obj body =>
      have hkept :
          Body.text? (Json.prunedMembers (readsKey (Body.text? body kindKey)) body) kindKey
            = Body.text? body kindKey :=
        Body.text?_prunedMembers (readsKey_kindKey (Body.text? body kindKey)) (by decide)
      by_cases hlookup : Body.text? body kindKey = some "lookup"
      · rw [Json.pruned, if_pos hlookup, reading, reading, Body.text?_withValue (by decide), hkept,
          hlookup]
        simp only [Body.leaf_pruned]
        cases Body.leaf body r with
        | ok l => exact .leaf l
        | error rejection => exact .error rejection
      · rw [Json.pruned, if_neg hlookup, reading, reading, hkept]
        cases hkind : Body.text? body kindKey with
        | none => exact .error _
        | some kind =>
            rw [hkind, Option.some.injEq] at hlookup
            simp only [hlookup, if_false]
            split_ifs with hempty hall hany
            · exact .error _
            · subst hall
              exact Body.corresponds_conditions_pruned rfl .all
            · subst hany
              exact Body.corresponds_conditions_pruned rfl .any
            · exact .error _
  | _ => exact .error _

/-- A document has the verdict that it has when it is pruned. -/
theorem Registry.verdict_pruned (r : Registry) (document : Json) :
    r.verdict document = r.verdict document.pruned := by
  induction document using Json.junction_induct with
  | _ document ih =>
      refine verdict_eq_of_corresponds (r.reading_pruned document) ?_
      rintro j items hj item hitem _ rfl
      exact ih j items hj item hitem

/-- **Members that are not read do not matter.** Take two documents that are the same once
each node of a built-in kind is left with the members that its kind reads, and once the
values that lookups leave out are null. Over any registry the standard engine has one
outcome for both, a condition or all diagnostics. -/
theorem Engine.resolve_of_pruned (r : Registry) (h : document.pruned.Same document'.pruned) :
    ∃ outcome, (Engine.standard r).resolve document = some outcome ∧
      (Engine.standard r).resolve document' = some outcome := by
  have hverdict : r.verdict document = r.verdict document' := by
    rw [r.verdict_pruned document, r.verdict_pruned document', Registry.verdict_eq_of_same h]
  rw [resolve_standard_eq, resolve_standard_eq, hverdict]
  exact ⟨_, rfl, rfl⟩

end Pruning

/-- A lookup with a note and without a value, beside what is no condition, under a title. -/
def Json.notedSample : Json :=
  .obj [("title", .str "colours"), ("kind", .str "and"), ("conditions", .arr
    [.obj [("kind", .str "lookup"), ("field", .str "colour"), ("note", .arr [.null]),
      ("lookup", .str "exact")], .bool true])]

/-- The same conditions, named before their kind, with a value that is null and without
the notes. -/
def Json.bareSample : Json :=
  .obj [("conditions", .arr
    [.obj [("kind", .str "lookup"), ("field", .str "colour"), ("lookup", .str "exact"),
      ("value", .null)], .bool true]), ("kind", .str "and")]

/-- In a registry without fields both documents are refused, for the same two reasons. -/
theorem Engine.resolve_of_pruned_notes :
    ∃ refusal, (Engine.standard .empty).resolve .notedSample = some (.error refusal) ∧
      (Engine.standard .empty).resolve .bareSample = some (.error refusal) ∧
      refusal.diagnostics.map (fun d => (d.path, d.rejection))
        = [("/conditions/0", .unknownField "colour"), ("/conditions/1", .notAnObject)] := by
  have hsame : Json.notedSample.pruned.Same Json.bareSample.pruned := by
    refine .obj fun key => ?_
    by_cases hkind : key = "kind"
    · subst hkind
      exact .some (.str "and")
    · by_cases hconditions : key = "conditions"
      · subst hconditions
        exact .some (.refl _)
      · change Option.Rel Json.Same (Json.findMember key [("kind", _), ("conditions", _)])
          (Json.findMember key [("conditions", _), ("kind", _)])
        simp [Json.findMember, Ne.symm hkind, Ne.symm hconditions]
  obtain ⟨outcome, hnoted, hbare⟩ := resolve_of_pruned .empty hsame
  have hrefused : (Engine.standard .empty).resolve .bareSample
      = some (.error ⟨[⟨⟨["conditions", "0"]⟩, .unknownField "colour"⟩,
        ⟨⟨["conditions", "1"]⟩, .notAnObject⟩]⟩) := rfl
  obtain rfl := Option.some.inj (hbare.symm.trans hrefused)
  exact ⟨_, hnoted, hbare, rfl⟩

end Criteria

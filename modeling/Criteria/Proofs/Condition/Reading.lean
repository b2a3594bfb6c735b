/-
How the built-in kinds read a document.

* `Json.IsJunction`, `Json.IsLookup`: the documents of the built-in kinds that
  are complete, said by their members alone;
* `Registry.reading`: what the topmost node of a document says, the items of a
  junction or a leaf, or the rejection of a node that says neither, and
  `Registry.reading_cases`, all that a reading can be;
* `Json.junction_induct`: a property holds of every document once each
  junction inherits it from its items;
* `Engine.resolveIn_of_dispatch`, `Engine.resolveIn_standard`: a resolution by
  the standard engine follows the reading of the node, and so does one by any
  engine that takes the node alike.
-/
import Criteria.Proofs.Condition.Orderly
import Criteria.Proofs.Field.Validation
import Criteria.Proofs.Registry.Lookup
import Mathlib.Tactic.SplitIfs

namespace Criteria

/-! ### Documents of the built-in kinds -/

/-- The kinds that join conditions. -/
inductive Junction where
  | all
  | any
  deriving DecidableEq, Repr

namespace Junction

/-- The name of the kind. -/
def kind : Junction → String
  | all => "and"
  | any => "or"

/-- The handler of the kind. -/
def handler : Junction → Handler
  | all => Handler.conjunction
  | any => Handler.disjunction

/-- The node over a list of children. -/
def join : Junction → List Condition → Condition
  | all => .all
  | any => .any

end Junction

/-- Only objects have members. -/
lemma Json.exists_obj_of_get? {document value : Json} {key : String}
    (h : document.get? key = some value) : ∃ body, document = .obj body := by
  cases document with
  | obj body => exact ⟨body, rfl⟩
  | _ => exact absurd h (by simp [get?])

/-- A document joins a list of items: it is of a joining kind, and its
conditions are that list, which is not empty. -/
structure Json.IsJunction (document : Json) (j : Junction) (items : List Json) : Prop where
  kind_eq : document.get? kindKey = some (.str j.kind)
  conditions_eq : document.get? "conditions" = some (.arr items)
  ne_nil : items ≠ []

/-- A document looks up a field by name. -/
structure Json.IsLookup (document : Json) (name lookup : String) : Prop where
  kind_eq : document.get? kindKey = some (.str "lookup")
  field_eq : document.get? "field" = some (.str name)
  lookup_eq : document.get? "lookup" = some (.str lookup)

/-- What the topmost node of a document says. -/
inductive Reading where
  | junction (j : Junction) (items : List Json)
  | leaf (l : Leaf)

namespace Body

/-- The list of conditions of a body. -/
def conditions (body : Body) : Except Rejection (List Json) :=
  match Json.findMember "conditions" body with
  | some (.arr (item :: items)) => .ok (item :: items)
  | _ => .error .emptyConditions

/-- The leaf of a field that is looked up by name. -/
def leafOf (r : Registry) (name lookup : String) (value : Json) : Except Rejection Leaf :=
  match r.get? name with
  | none => .error (.unknownField name)
  | some field =>
    match field.validate value lookup with
    | .ok prepared => .ok ⟨field, lookup, prepared⟩
    | .error e => .error (.field e)

/-- The leaf of a body: its field and lookup are texts, read in this order. -/
def leaf (body : Body) (r : Registry) : Except Rejection Leaf :=
  match body.text? "field" with
  | some name =>
    match body.text? "lookup" with
    | some lookup => leafOf r name lookup (valueAt body "value")
    | none => .error (.missingKey "lookup")
  | none => .error (.missingKey "field")

end Body

/-- What the topmost node of a document says to the built-in kinds over a
registry, or why it is rejected. -/
def Registry.reading (r : Registry) : Json → Except Rejection Reading
  | .obj body =>
    match Body.text? body kindKey with
    | some kind =>
      if kind = "" then .error .missingKind
      else if kind = "and" then (Body.conditions body).map (.junction .all)
      else if kind = "or" then (Body.conditions body).map (.junction .any)
      else if kind = "lookup" then (Body.leaf body r).map .leaf
      else .error (.unknownKind kind)
    | none => .error .missingKind
  | _ => .error .notAnObject

/-! ### What a reading means -/

section Meaning

variable {r : Registry} {document : Json}

lemma Body.conditions_eq_ok_iff {body : Body} {items : List Json} :
    Body.conditions body = .ok items
      ↔ Json.findMember "conditions" body = some (.arr items) ∧ items ≠ [] := by
  rw [Body.conditions]
  constructor
  · intro h
    split at h
    · rename_i item rest heq
      obtain rfl := Except.ok.inj h
      exact ⟨heq, by simp⟩
    · exact absurd h (by simp)
  · rintro ⟨heq, hne⟩
    obtain ⟨item, rest, rfl⟩ := List.exists_cons_of_ne_nil hne
    rw [heq]

lemma Body.leafOf_eq_ok_iff {name lookup : String} {value : Json} {l : Leaf} :
    Body.leafOf r name lookup value = .ok l
      ↔ (l.field ∈ r.fields ∧ l.field.name = name) ∧ l.lookup = lookup ∧
        l.field.validate value lookup = .ok l.value := by
  rw [← Registry.get?_eq_some_iff, Body.leafOf]
  constructor
  · intro h
    split at h
    · exact absurd h (by simp)
    · rename_i field hfield
      split at h
      · rename_i prepared hvalue
        obtain rfl := Except.ok.inj h
        exact ⟨hfield, rfl, hvalue⟩
      · exact absurd h (by simp)
  · rintro ⟨hfield, rfl, hvalue⟩
    simp [hfield, hvalue]

/-- What a reading can be: that of the conditions of a joining kind, that of a
leaf, or a rejection that concerns no field. -/
theorem Registry.reading_cases (r : Registry) (document : Json) :
    (∃ body j, document = .obj body ∧ Body.text? body kindKey = some (Junction.kind j) ∧
      r.reading document = (Body.conditions body).map (.junction j)) ∨
    (∃ body, document = .obj body ∧ Body.text? body kindKey = some "lookup" ∧
      r.reading document = (Body.leaf body r).map .leaf) ∨
    (∃ rejection, r.reading document = .error rejection ∧ rejection.field? = none) := by
  cases document with
  | obj body =>
      rw [reading]
      cases hkind : Body.text? body kindKey with
      | none => exact .inr (.inr ⟨_, rfl, rfl⟩)
      | some kind =>
          simp only
          split_ifs with hempty hall hany hlookup
          · exact .inr (.inr ⟨_, rfl, rfl⟩)
          · exact .inl ⟨body, .all, rfl, hkind.trans (congrArg some hall), rfl⟩
          · exact .inl ⟨body, .any, rfl, hkind.trans (congrArg some hany), rfl⟩
          · exact .inr (.inl ⟨body, rfl, hkind.trans (congrArg some hlookup), rfl⟩)
          · exact .inr (.inr ⟨_, rfl, rfl⟩)
  | _ => exact .inr (.inr ⟨_, rfl, rfl⟩)

/-- A node reads as a junction exactly when the document is one. -/
theorem Registry.reading_eq_junction_iff {j : Junction} {items : List Json} :
    r.reading document = .ok (.junction j items) ↔ document.IsJunction j items := by
  constructor
  · intro h
    obtain ⟨body, j', rfl, hkind, hread⟩ | ⟨body, -, -, hread⟩ | ⟨rejection, hread, -⟩ :=
      r.reading_cases document
    · rw [hread, except_map_eq_ok_iff] at h
      obtain ⟨items', hc, heq⟩ := h
      obtain ⟨rfl, rfl⟩ := Reading.junction.inj heq
      obtain ⟨hitems, hne⟩ := Body.conditions_eq_ok_iff.mp hc
      exact ⟨Body.text?_eq_some_iff.mp hkind, hitems, hne⟩
    · rw [hread, except_map_eq_ok_iff] at h
      obtain ⟨l, -, heq⟩ := h
      exact absurd heq (by simp)
    · exact absurd (hread.symm.trans h) (by simp)
  · intro h
    obtain ⟨body, rfl⟩ := Json.exists_obj_of_get? h.kind_eq
    have hkind := Body.text?_eq_some_iff.mpr h.kind_eq
    have hc := Body.conditions_eq_ok_iff.mpr ⟨h.conditions_eq, h.ne_nil⟩
    rw [reading, hkind]
    cases j <;> simp [Junction.kind, hc, Except.map]

lemma Body.leaf_eq_ok_iff {body : Body} {l : Leaf} :
    Body.leaf body r = .ok l
      ↔ body.text? "field" = some l.field.name ∧ body.text? "lookup" = some l.lookup ∧
        l.field ∈ r.fields ∧
        l.field.validate (Body.valueAt body "value") l.lookup = .ok l.value := by
  rw [Body.leaf]
  constructor
  · intro h
    split at h
    · rename_i name hname
      split at h
      · rename_i lookup hlookup
        obtain ⟨⟨hfield, rfl⟩, rfl, hvalue⟩ := Body.leafOf_eq_ok_iff.mp h
        exact ⟨hname, hlookup, hfield, hvalue⟩
      · exact absurd h (by simp)
    · exact absurd h (by simp)
  · rintro ⟨hname, hlookup, hfield, hvalue⟩
    simp only [hname, hlookup]
    exact Body.leafOf_eq_ok_iff.mpr ⟨⟨hfield, rfl⟩, rfl, hvalue⟩

/-- A node reads as a leaf exactly when the document looks up a field of the
registry with a value that the field takes; a value that is left out is null. -/
theorem Registry.reading_eq_leaf_iff {l : Leaf} :
    r.reading document = .ok (.leaf l)
      ↔ document.IsLookup l.field.name l.lookup ∧ l.field ∈ r.fields ∧
        l.field.validate ((document.get? "value").getD .null) l.lookup = .ok l.value := by
  constructor
  · intro h
    obtain ⟨body, j, -, -, hread⟩ | ⟨body, rfl, hkind, hread⟩ | ⟨rejection, hread, -⟩ :=
      r.reading_cases document
    · rw [hread, except_map_eq_ok_iff] at h
      obtain ⟨items, -, heq⟩ := h
      exact absurd heq (by simp)
    · rw [hread, except_map_eq_ok_iff] at h
      obtain ⟨l', hl, heq⟩ := h
      obtain rfl := Reading.leaf.inj heq
      obtain ⟨hname, hlookup, hfield, hvalue⟩ := Body.leaf_eq_ok_iff.mp hl
      exact ⟨⟨Body.text?_eq_some_iff.mp hkind, Body.text?_eq_some_iff.mp hname,
        Body.text?_eq_some_iff.mp hlookup⟩, hfield, hvalue⟩
    · exact absurd (hread.symm.trans h) (by simp)
  · rintro ⟨h, hfield, hvalue⟩
    obtain ⟨body, rfl⟩ := Json.exists_obj_of_get? h.kind_eq
    have hkind := Body.text?_eq_some_iff.mpr h.kind_eq
    have hname := Body.text?_eq_some_iff.mpr h.field_eq
    have hlookup := Body.text?_eq_some_iff.mpr h.lookup_eq
    have hl := Body.leaf_eq_ok_iff.mpr ⟨hname, hlookup, hfield, hvalue⟩
    rw [reading, hkind]
    simp [hl, Except.map]

end Meaning

/-! ### The depth of documents -/

namespace Json

lemma depth_le_membersDepth {name : String} {value : Json} {members : List (String × Json)}
    (h : findMember name members = some value) : value.depth ≤ membersDepth members := by
  induction members with
  | nil => exact absurd h (by simp [findMember])
  | cons member members ih =>
      obtain ⟨key, first⟩ := member
      rw [findMember] at h
      rw [membersDepth]
      cases hrest : findMember name members with
      | some found =>
          simp only [hrest, Option.some.injEq] at h
          exact Nat.le_trans (ih (h ▸ hrest)) (Nat.le_max_right _ _)
      | none =>
          simp only [hrest, Option.ite_none_right_eq_some, Option.some.injEq] at h
          exact h.2 ▸ Nat.le_max_left _ _

lemma depth_le_itemsDepth {item : Json} {items : List Json} (h : item ∈ items) :
    item.depth ≤ itemsDepth items := by
  induction items with
  | nil => exact absurd h (by simp)
  | cons first items ih =>
      rw [itemsDepth]
      rcases List.mem_cons.mp h with rfl | h
      · exact Nat.le_max_left _ _
      · exact Nat.le_trans (ih h) (Nat.le_max_right _ _)

/-- The items of a junction are nested less deeply than the junction. -/
lemma IsJunction.depth_lt {document : Json} {j : Junction} {items : List Json}
    (h : document.IsJunction j items) {item : Json} (hitem : item ∈ items) :
    item.depth < document.depth := by
  obtain ⟨body, rfl⟩ := exists_obj_of_get? h.kind_eq
  have hmember := depth_le_membersDepth h.conditions_eq
  have hitems := depth_le_itemsDepth hitem
  rw [depth] at hmember
  rw [depth]
  omega

/-- A property holds of every document once each junction inherits it from its
items. -/
@[elab_as_elim]
theorem junction_induct {P : Json → Prop}
    (h : ∀ document, (∀ j items, document.IsJunction j items → ∀ item ∈ items, P item) →
      P document) (document : Json) : P document := by
  induction hn : document.depth using Nat.strongRecOn generalizing document with
  | ind n ih =>
      subst hn
      exact h document fun j items hj item hitem => ih _ (hj.depth_lt hitem) item rfl

end Json

/-! ### A resolution follows the reading -/

section Standard

variable {r : Registry} {visit : Json → Progress → Option (Option Condition × Progress)}
  {p : Progress}

lemma Script.run_lookup (name lookup : String) (value : Json) :
    (Script.lookup name lookup value).run r visit p
      = match Body.leafOf r name lookup value with
        | .ok l => some (some (.leaf l), p)
        | .error rejection => some (none, p.report rejection) := by
  rw [Script.lookup, run_bind, run_place, Option.bind_some, Body.leafOf]
  cases r.get? name with
  | none => rfl
  | some field =>
      simp only
      cases field.validate value lookup <;> rfl

/-- The handler of lookups gives the leaf of the body, or reports why there is
none. -/
lemma Handler.run_lookup (body : Body) :
    (Handler.lookup body).run r visit p
      = match Body.leaf body r with
        | .ok l => some (some (.leaf l), p)
        | .error rejection => some (none, p.report rejection) := by
  rw [Handler.lookup, Script.run_bind, Script.run_stringKey, Body.leaf]
  cases body.text? "field" with
  | none => rfl
  | some name =>
      simp only [Option.bind_some]
      rw [Script.run_bind, Script.run_stringKey]
      cases body.text? "lookup" with
      | none => rfl
      | some lookup => exact Script.run_lookup _ _ _

/-- The handler of a joining kind joins the items of the body, or reports that
there are none. -/
lemma Junction.run_handler (j : Junction) (body : Body) :
    (j.handler body).run r visit p
      = match Body.conditions body with
        | .ok items => ((Script.resolveItems 0 items).run r visit p).map
            fun found => (found.1.map j.join, found.2)
        | .error rejection => some (none, p.report rejection) := by
  have hrun : (j.handler body).run r visit p
      = ((Script.resolveConditions body).run r visit p).map
          fun found => (found.1.map j.join, found.2) := by
    cases j <;> exact (Script.run_bind _ _ p).trans (Option.map_eq_bind ..).symm
  rw [hrun, Script.resolveConditions, Body.conditions]
  cases Json.findMember "conditions" body with
  | none => rfl
  | some value =>
      cases value with
      | arr items => cases items <;> rfl
      | _ => rfl

/-- The kinds of the standard engine. -/
lemma Engine.handler?_standard (r : Registry) (kind : String) :
    (Engine.standard r).handler? kind
      = if kind = "and" then some (Junction.handler .all)
        else if kind = "or" then some (Junction.handler .any)
        else if kind = "lookup" then some Handler.lookup
        else none := by
  rw [handler?, standard]
  split_ifs with hall hany hlookup
  · subst hall; rfl
  · subst hany; rfl
  · subst hlookup; rfl
  · simp [List.lookup_cons, beq_false_of_ne, hall, hany, hlookup]

/-- A result in good order needs no settlement. -/
lemma Progress.settle_of_orderly {place : List String} {q : Progress}
    {found : Option Condition} (h : Progress.Orderly place p found q) (kind : String) :
    p.settle kind (found, q) = (found, q) := by
  cases found with
  | some c => rfl
  | none => rw [Progress.settle, if_neg (Nat.ne_of_gt (h.reported rfl))]

/-- The handler of a joining kind is never silent. -/
lemma Junction.settle_run_handler (e : Engine) (bound : Nat) (j : Junction) (body : Body)
    (kind : String) :
    ((j.handler body).run r (e.resolveIn bound) p).map (p.settle kind)
      = (j.handler body).run r (e.resolveIn bound) p := by
  rw [run_handler]
  cases Body.conditions body with
  | error rejection => exact congrArg some (p.settle_of_orderly (.report p rejection) kind)
  | ok items =>
      simp only [Option.map_map]
      refine Option.map_congr fun found hrun => ?_
      have horder := Script.run_resolveItems_orderly
        (fun _ _ _ _ h => e.resolveIn_orderly h) items hrun
      have hjoin : Progress.Orderly p.location.segments p (found.1.map j.join) found.2 :=
        ⟨horder.toExtends, fun hnone => horder.reported (Option.map_eq_none_iff.mp hnone)⟩
      exact p.settle_of_orderly hjoin kind

/-- An engine that takes a node as the standard engine does follows the reading
of the node: a rejected node is reported, a leaf stands, and a junction joins
its items when all of them are found. -/
theorem Engine.resolveIn_of_dispatch (e : Engine) {document : Json}
    (h : e.dispatch document = (Engine.standard e.registry).dispatch document)
    (bound : Nat) (p : Progress) :
    e.resolveIn (bound + 1) document p
      = match e.registry.reading document with
        | .error rejection => some (none, p.report rejection)
        | .ok (.leaf l) => some (some (.leaf l), p)
        | .ok (.junction j items) =>
          ((Script.resolveItems 0 items).run e.registry (e.resolveIn bound) p).map
            fun found => (found.1.map j.join, found.2) := by
  rw [resolveIn_succ, h]
  cases document with
  | obj body =>
      rw [dispatch, Registry.reading]
      cases Body.text? body kindKey with
      | none => rfl
      | some kind =>
          by_cases hempty : kind = ""
          · simp [hempty]
          · simp only [hempty, if_false, handler?_standard]
            split_ifs with hall hany hlookup
            · refine (Junction.settle_run_handler _ bound .all body kind).trans ?_
              rw [Junction.run_handler]
              cases Body.conditions body <;> rfl
            · refine (Junction.settle_run_handler _ bound .any body kind).trans ?_
              rw [Junction.run_handler]
              cases Body.conditions body <;> rfl
            · simp only [Handler.run_lookup]
              cases Body.leaf body e.registry with
              | error rejection =>
                  exact congrArg some (p.settle_of_orderly (.report p rejection) kind)
              | ok l => rfl
            · rfl
  | _ => rfl

/-- A resolution by the standard engine follows the reading of the node. -/
theorem Engine.resolveIn_standard (r : Registry) (bound : Nat) (document : Json) (p : Progress) :
    (Engine.standard r).resolveIn (bound + 1) document p
      = match r.reading document with
        | .error rejection => some (none, p.report rejection)
        | .ok (.leaf l) => some (some (.leaf l), p)
        | .ok (.junction j items) =>
          ((Script.resolveItems 0 items).run r ((Engine.standard r).resolveIn bound) p).map
            fun found => (found.1.map j.join, found.2) :=
  (Engine.standard r).resolveIn_of_dispatch rfl bound p

end Standard

end Criteria

/-
What a resolution depends on.

* `Json.Holds`, `Json.Mentions`: the documents that stand anywhere in a
  document, and the texts that they have under a key;
* `Engine.PlainFor`: an engine with the built-in handlers and a document without
  its other kinds; `Engine.PlainFor.resolveIn_eq`: the engine resolves the
  document as the standard engine does;
* `Registry.verdict_congr`: of a registry only the fields that a document
  mentions count for its verdict;
* `RegistryBuilder.get?_eq_of_perm`, `Engine.handler?_register`: what the order
  of registration, more fields and one more kind change, which is nothing that
  the document mentions;
* `Engine.resolve_agree`: so two engines that agree on what a document mentions
  have the same outcome for it.
-/
import Criteria.Condition.Kinds
import Criteria.Proofs.Condition.Verdict
import Criteria.Proofs.Registry.Build

namespace Criteria

/-! ### What a document mentions -/

namespace Json

/-- A document holds itself and whatever its items and members hold. Of several
members with one name the last one counts. -/
inductive Holds : Json → Json → Prop
  | self (document : Json) : Holds document document
  | item {items : List Json} {item part : Json} : item ∈ items → Holds item part →
      Holds (.arr items) part
  | member {members : List (String × Json)} {key : String} {value part : Json} :
      findMember key members = some value → Holds value part → Holds (.obj members) part

/-- A text stands under a key somewhere in a document. -/
def Mentions (document : Json) (key text : String) : Prop :=
  ∃ part, document.Holds part ∧ part.get? key = some (.str text)

variable {document part inner : Json} {key text : String}

lemma Holds.trans (h : document.Holds part) (hinner : part.Holds inner) :
    document.Holds inner := by
  induction h with
  | self => exact hinner
  | item hitem _ ih => exact .item hitem (ih hinner)
  | member hmember _ ih => exact .member hmember (ih hinner)

/-- What a part mentions the whole document mentions. -/
lemma Mentions.of_holds (h : part.Mentions key text) (hpart : document.Holds part) :
    document.Mentions key text := by
  obtain ⟨inner, hinner, htext⟩ := h
  exact ⟨inner, hpart.trans hinner, htext⟩

/-- Plain values mention nothing. -/
lemma Mentions.depth_pos (h : document.Mentions key text) : 0 < document.depth := by
  obtain ⟨part, hpart, htext⟩ := h
  cases hpart with
  | self =>
      obtain ⟨body, rfl⟩ := exists_obj_of_get? htext
      exact Nat.succ_pos _
  | item | member => exact Nat.succ_pos _

/-- A flat document mentions no more than what it has itself. -/
lemma Mentions.get?_of_depth_le_one (h : document.Mentions key text) (hdepth : document.depth ≤ 1) :
    document.get? key = some (.str text) := by
  obtain ⟨part, hpart, htext⟩ := h
  cases hpart with
  | self => exact htext
  | item hitem hpart =>
      have hpos := Mentions.depth_pos ⟨part, hpart, htext⟩
      have hle := depth_le_itemsDepth hitem
      rw [depth] at hdepth
      omega
  | member hmember hpart =>
      have hpos := Mentions.depth_pos ⟨part, hpart, htext⟩
      have hle := depth_le_membersDepth hmember
      rw [depth] at hdepth
      omega

lemma IsJunction.holds {j : Junction} {items : List Json} (h : document.IsJunction j items)
    {item : Json} (hitem : item ∈ items) : document.Holds item := by
  obtain ⟨body, rfl⟩ := exists_obj_of_get? h.kind_eq
  exact .member h.conditions_eq (.item hitem (.self item))

end Json

/-! ### Plain engines -/

/-- The names of the built-in kinds. -/
def builtinKinds : List String := ["and", "or", "lookup"]

namespace Engine

variable {e : Engine} {document : Json}

/-- An engine has the built-in handlers for the built-in kinds. -/
structure HasBuiltins (e : Engine) : Prop where
  and_eq : e.handler? "and" = some Handler.conjunction
  or_eq : e.handler? "or" = some Handler.disjunction
  lookup_eq : e.handler? "lookup" = some Handler.lookup

/-- A kind is custom when the engine has it and it is not built in. -/
def IsCustom (e : Engine) (kind : String) : Prop := e.supports kind = true ∧ kind ∉ builtinKinds

/-- An engine is plain for a document: it has the built-in handlers, and the
document mentions none of its custom kinds. -/
structure PlainFor (e : Engine) (document : Json) : Prop where
  builtins : e.HasBuiltins
  not_custom : ∀ kind, document.Mentions kindKey kind → ¬ e.IsCustom kind

/-- The standard engine has no custom kinds. -/
lemma plainFor_standard (r : Registry) (document : Json) :
    (Engine.standard r).PlainFor document := by
  refine ⟨⟨rfl, rfl, rfl⟩, ?_⟩
  rintro kind - ⟨hsupports, hcustom⟩
  rw [supports, handler?_standard] at hsupports
  simp only [builtinKinds, List.mem_cons, List.not_mem_nil, or_false, not_or] at hcustom
  simp [hcustom] at hsupports

lemma PlainFor.of_holds (h : e.PlainFor document) {part : Json} (hpart : document.Holds part) :
    e.PlainFor part :=
  ⟨h.builtins, fun kind hkind => h.not_custom kind (hkind.of_holds hpart)⟩

/-- Apart from its custom kinds an engine has the handlers of the standard
engine. -/
lemma HasBuiltins.handler?_eq (h : e.HasBuiltins) {kind : String} (hkind : ¬ e.IsCustom kind) :
    e.handler? kind = (Engine.standard e.registry).handler? kind := by
  rw [handler?_standard]
  split_ifs with hand hor hlookup
  · rw [hand, h.and_eq, Junction.handler]
  · rw [hor, h.or_eq, Junction.handler]
  · rw [hlookup, h.lookup_eq]
  · by_contra hsome
    exact hkind ⟨Option.isSome_iff_ne_none.mpr hsome, by simp [builtinKinds, hand, hor, hlookup]⟩

/-- A plain engine takes a document as the standard engine does. -/
lemma PlainFor.dispatch_eq (h : e.PlainFor document) :
    e.dispatch document = (Engine.standard e.registry).dispatch document := by
  cases document with
  | obj body =>
      rw [dispatch, dispatch]
      cases hkind : Body.text? body kindKey with
      | none => rfl
      | some kind =>
          have hmentions : (Json.obj body).Mentions kindKey kind :=
            ⟨_, .self _, Body.text?_eq_some_iff.mp hkind⟩
          simp only [h.builtins.handler?_eq (h.not_custom kind hmentions)]
  | _ => rfl

end Engine

/-- Items are resolved alike by visits that agree on them. -/
lemma Script.run_resolveItems_congr {r : Registry}
    {visit visit' : Json → Progress → Option (Option Condition × Progress)} {items : List Json}
    (hvisit : ∀ item ∈ items, ∀ p, visit item p = visit' item p) (index : Nat) (p : Progress) :
    (resolveItems index items).run r visit p = (resolveItems index items).run r visit' p := by
  induction items generalizing index p with
  | nil => rfl
  | cons item items ih =>
      have hrest := ih fun other hother => hvisit other (by simp [hother])
      simp only [resolveItems, run_bind, run_visit, hvisit item (by simp), hrest]
      refine congrArg (Option.bind _) (funext fun first => ?_)
      refine congrArg (Option.bind _) (funext fun rest => ?_)
      cases first.1 <;> cases rest.1 <;> rfl

/-- A plain engine resolves a document as the standard engine over its registry
does, from any progress and with any bound. -/
theorem Engine.PlainFor.resolveIn_eq {e : Engine} {document : Json} (h : e.PlainFor document)
    (bound : Nat) (p : Progress) :
    e.resolveIn bound document p = (Engine.standard e.registry).resolveIn bound document p := by
  induction bound generalizing document p with
  | zero => rfl
  | succ bound ih =>
      rw [e.resolveIn_of_dispatch h.dispatch_eq, resolveIn_standard]
      cases hread : e.registry.reading document with
      | error rejection => rfl
      | ok reading =>
          cases reading with
          | leaf l => rfl
          | junction j items =>
              have hj := Registry.reading_eq_junction_iff.mp hread
              have hitems : ∀ item ∈ items, ∀ p, e.resolveIn bound item p
                  = (Engine.standard e.registry).resolveIn bound item p :=
                fun item hitem => ih (h.of_holds (hj.holds hitem))
              simp only [Script.run_resolveItems_congr hitems]

lemma Engine.PlainFor.resolve_eq {e : Engine} {document : Json} (h : e.PlainFor document) :
    e.resolve document = (Engine.standard e.registry).resolve document := by
  rw [resolve, resolveWithin, h.resolveIn_eq]
  rfl

/-! ### Registries that agree -/

section Registries

variable {r r' : Registry} {document : Json}

lemma Registry.reading_congr
    (h : ∀ name, document.get? "field" = some (.str name) → r.get? name = r'.get? name) :
    r.reading document = r'.reading document := by
  cases document with
  | obj body =>
      have hleaf : Body.leaf body r = Body.leaf body r' := by
        rw [Body.leaf, Body.leaf]
        cases hname : Body.text? body "field" with
        | none => rfl
        | some name => simp only [Body.leafOf, h name (Body.text?_eq_some_iff.mp hname)]
      simp only [reading, hleaf]
  | _ => rfl

/-- The verdict on a document depends on the fields that it mentions alone. -/
theorem Registry.verdict_congr
    (h : ∀ name, document.Mentions "field" name → r.get? name = r'.get? name) :
    r.verdict document = r'.verdict document := by
  induction document using Json.junction_induct with
  | _ document ih =>
      have hread : r.reading document = r'.reading document :=
        reading_congr fun name hname => h name ⟨document, .self document, hname⟩
      rw [verdict_eq r, verdict_eq r', hread]
      cases hread' : r'.reading document with
      | error rejection => rfl
      | ok reading =>
          cases reading with
          | leaf l => rfl
          | junction j items =>
              have hj := reading_eq_junction_iff.mp hread'
              refine Verdict.ofReading_junction_congr
                (List.forall₂_same.mpr fun item hitem => ?_) j
              exact ih j items hj item hitem fun name hname =>
                h name (hname.of_holds (hj.holds hitem))

/-- The registry of a builder with the same fields in any order, and more, finds
the same under a name that none of the further fields has. -/
lemma RegistryBuilder.get?_eq_of_perm {b b' : RegistryBuilder} {more : List Field}
    (hb : b.build = .ok r) (hb' : b'.build = .ok r') (hdefaults : b'.defaults = b.defaults)
    (hfields : b'.fields.Perm (b.fields ++ more)) {name : String}
    (hmore : ∀ f ∈ more, f.name ≠ name) : r.get? name = r'.get? name := by
  have hcompleted : b'.completed.Perm (b.completed ++ more.map (·.completed b.defaults)) := by
    rw [completed, completed, ← List.map_append, hdefaults]
    exact hfields.map _
  ext f
  rw [Registry.get?_eq_some_iff, Registry.get?_eq_some_iff, fields_of_build hb,
    fields_of_build hb', hcompleted.mem_iff, List.mem_append]
  constructor
  · rintro ⟨hf, hname⟩
    exact ⟨.inl hf, hname⟩
  · rintro ⟨hf | hf, hname⟩
    · exact ⟨hf, hname⟩
    · obtain ⟨g, hg, rfl⟩ := List.mem_map.mp hf
      exact absurd hname (hmore g hg)

end Registries

/-! ### Engines that agree -/

namespace Engine

variable {e e' : Engine} {document : Json}

/-- One more kind changes the handler of that kind alone. -/
lemma handler?_register (e : Engine) (kind : String) (handler : Handler) (other : String) :
    (e.register kind handler).handler? other
      = if other = kind then some handler else e.handler? other :=
  e.handlers.lookup_insert kind handler other

/-- A kind that is neither built in nor mentioned leaves an engine plain. -/
lemma PlainFor.register (h : e.PlainFor document) {kind : String} (handler : Handler)
    (hkind : kind ∉ builtinKinds) (hmentions : ¬ document.Mentions kindKey kind) :
    (e.register kind handler).PlainFor document := by
  have hother : ∀ other, other ≠ kind →
      (e.register kind handler).handler? other = e.handler? other := by
    intro other hne
    rw [handler?_register, if_neg hne]
  have hbuiltin : ∀ other ∈ builtinKinds, other ≠ kind := by
    rintro other hmem rfl
    exact hkind hmem
  constructor
  · constructor
    · rw [hother _ (hbuiltin _ (by decide)), h.builtins.and_eq]
    · rw [hother _ (hbuiltin _ (by decide)), h.builtins.or_eq]
    · rw [hother _ (hbuiltin _ (by decide)), h.builtins.lookup_eq]
  · rintro other hother' ⟨hsupports, hcustom⟩
    have hne : other ≠ kind := by
      rintro rfl
      exact hmentions hother'
    rw [supports, hother other hne] at hsupports
    exact h.not_custom other hother' ⟨hsupports, hcustom⟩

/-- Two engines have one outcome for a document. -/
def Agree (e e' : Engine) (document : Json) : Prop :=
  ∃ outcome, e.resolve document = some outcome ∧ e'.resolve document = some outcome

/-- Plain engines agree when their registries do on what the document mentions. -/
lemma PlainFor.agree (h : e.PlainFor document) (h' : e'.PlainFor document)
    (hget : ∀ name, document.Mentions "field" name →
      e.registry.get? name = e'.registry.get? name) :
    e.Agree e' document := by
  rw [Agree, h.resolve_eq, h'.resolve_eq, resolve_standard_eq, resolve_standard_eq,
    Registry.verdict_congr hget]
  exact ⟨_, rfl, rfl⟩

/-- **Resolution depends on what is mentioned.** Take a document and two engines
with the built-in handlers, none of whose other kinds the document mentions.
When their registries find the same under every name that the document mentions
as a field, they have the same outcome, a condition or all diagnostics. So it
does not matter in which order the fields were registered, nor which other
fields there are; and neither does one more kind that the document does not
mention. -/
theorem resolve_agree (h : e.PlainFor document) (h' : e'.PlainFor document) :
    ((∀ name, document.Mentions "field" name →
        e.registry.get? name = e'.registry.get? name) → e.Agree e' document) ∧
    (∀ (b b' : RegistryBuilder) (more : List Field), b.build = .ok e.registry →
      b'.build = .ok e'.registry → b'.defaults = b.defaults →
      b'.fields.Perm (b.fields ++ more) → (∀ f ∈ more, ¬ document.Mentions "field" f.name) →
      e.Agree e' document) ∧
    (∀ kind handler, kind ∉ builtinKinds → ¬ document.Mentions kindKey kind →
      e.Agree (e.register kind handler) document) := by
  refine ⟨h.agree h', fun b b' more hb hb' hdefaults hfields hmore => ?_,
    fun kind handler hkind hmentions => ?_⟩
  · refine h.agree h' fun name hname => ?_
    refine RegistryBuilder.get?_eq_of_perm hb hb' hdefaults hfields ?_
    rintro f hf rfl
    exact hmore f hf hname
  · exact h.agree (h.register handler hkind hmentions) fun name _ => rfl

end Engine

/-- An age, and behind it an hour. -/
def RegistryBuilder.ages : RegistryBuilder :=
  (RegistryBuilder.empty.field ((Field.ofKind "age" .int).withLookups ["exact"])).field
    ((Field.ofKind "hour" .hour).withLookups ["lte"])

/-- The same fields the other way round, between them a title. -/
def RegistryBuilder.titledAges : RegistryBuilder :=
  ⟨[(Field.ofKind "hour" .hour).withLookups ["lte"],
    (Field.ofKind "title" .string).withLookups ["exact"],
    (Field.ofKind "age" .int).withLookups ["exact"]], []⟩

/-- An age of so many years. -/
def Json.ageSample : Json :=
  .obj [("kind", .str "lookup"), ("field", .str "age"), ("lookup", .str "exact"),
    ("value", .num (.int 21))]

/-- The order of the fields, the title and a further kind make no difference for
a document about ages, which has its condition either way. -/
theorem Engine.resolve_agree_ageSample :
    ∃ r r' c, RegistryBuilder.ages.build = .ok r ∧ RegistryBuilder.titledAges.build = .ok r' ∧
      ((Engine.standard r').register "never" Handler.never).supports "never" = true ∧
      (Engine.standard r).resolve .ageSample = some (.ok c) ∧
      ((Engine.standard r').register "never" Handler.never).resolve .ageSample
        = some (.ok c) := by
  obtain ⟨r, hages⟩ : ∃ r, RegistryBuilder.ages.build = .ok r := ⟨_, rfl⟩
  obtain ⟨r', htitled⟩ : ∃ r', RegistryBuilder.titledAges.build = .ok r' := ⟨_, rfl⟩
  have hflat : Json.ageSample.depth ≤ 1 := by decide
  have hkind : ¬ Json.ageSample.Mentions kindKey "never" := by
    intro h
    have hget := h.get?_of_depth_le_one hflat
    simp [Json.ageSample, Json.get?, Json.findMember, kindKey] at hget
  have hfield : ¬ Json.ageSample.Mentions "field" "title" := by
    intro h
    have hget := h.get?_of_depth_le_one hflat
    simp [Json.ageSample, Json.get?, Json.findMember] at hget
  have hplain := plainFor_standard r .ageSample
  have hplain' := (plainFor_standard r' .ageSample).register Handler.never (by decide) hkind
  obtain ⟨outcome, hresolve, hresolve'⟩ := (resolve_agree hplain hplain').2.1 _ _
    [(Field.ofKind "title" .string).withLookups ["exact"]] hages htitled rfl
    (List.perm_append_singleton _ [_, _]) fun f hf => List.mem_singleton.mp hf ▸ hfield
  have hread : r.reading .ageSample
      = .ok (.leaf ⟨(Field.ofKind "age" .int).withLookups ["exact"], "exact",
        .single (.integer 21)⟩) :=
    Registry.reading_eq_leaf_iff.mpr
      ⟨⟨rfl, rfl, rfl⟩, RegistryBuilder.fields_of_build hages ▸ .head _, rfl⟩
  have hfound := resolve_standard_eq r .ageSample
  rw [Registry.verdict_eq, hread, Verdict.ofReading] at hfound
  obtain rfl := Option.some.inj (hresolve.symm.trans hfound)
  exact ⟨_, _, _, hages, htitled, rfl, hresolve, hresolve'⟩

end Criteria

import Typings.Proofs.ContextReferences

/-! # Scopes of templates

What an object documents of its use decides in which contexts it stands, and nothing else does: the
order of the objects, the order of the templates that they list and repetitions leave no trace.
-/

namespace Typings

open Docs Context

/-- The object lists the template among those that it can be used in. -/
def Docs.Object.Lists (o : Object) (template : String) : Prop :=
  ∃ access templates, o.access = some access ∧ access.template = some templates ∧
    template ∈ templates

/-- The object says nothing of its use, or that it can be used everywhere. -/
def Docs.Object.UsedEverywhere (o : Object) : Prop :=
  o.access = none ∨ ∃ access, o.access = some access ∧ access.global = some true

theorem mem_templates_iff {o : Object} {t : String} : t ∈ o.templates ↔ o.Lists t := by
  unfold Object.templates Object.Lists
  cases o.access with
  | none => simp
  | some access => cases htemplate : access.template <;> simp [Access.templates, htemplate]

theorem isGlobal_iff {o : Object} : o.isGlobal = true ↔ o.UsedEverywhere := by
  unfold Object.isGlobal Object.UsedEverywhere
  cases o.access with
  | none => simp
  | some access => simp

/-- Objects of one name that can be used in the same templates, in whichever order and however often
they list them. -/
structure UsedAlike (o p : Object) : Prop where
  name : o.name = p.name
  lists : ∀ t, o.Lists t ↔ p.Lists t
  everywhere : o.UsedEverywhere ↔ p.UsedEverywhere

/-- Every object of one documentation has one in the other that is used alike. -/
structure SameUse (objects others : List Object) : Prop where
  forth : ∀ o ∈ objects, ∃ p ∈ others, UsedAlike o p
  back : ∀ p ∈ others, ∃ o ∈ objects, UsedAlike o p

theorem usedAlike_iff {o p : Object} : UsedAlike o p ↔ o.name = p.name ∧
    sortedTexts o.templates = sortedTexts p.templates ∧ o.isGlobal = p.isGlobal := by
  constructor
  · rintro ⟨hname, hlists, heverywhere⟩
    refine ⟨hname, sortedTexts_congr fun t => ?_, ?_⟩
    · rw [mem_templates_iff, mem_templates_iff, hlists]
    · rw [Bool.eq_iff_iff, isGlobal_iff, isGlobal_iff, heverywhere]
  · rintro ⟨hname, htemplates, hglobal⟩
    refine ⟨hname, fun t => ?_, ?_⟩
    · rw [← mem_templates_iff, ← mem_templates_iff, ← mem_sortedTexts, htemplates, mem_sortedTexts]
    · rw [← isGlobal_iff, ← isGlobal_iff, hglobal]

instance (o p : Object) : Decidable (UsedAlike o p) := decidable_of_iff' _ usedAlike_iff

instance (objects others : List Object) : Decidable (SameUse objects others) :=
  decidable_of_iff
    ((∀ o ∈ objects, ∃ p ∈ others, UsedAlike o p) ∧ ∀ p ∈ others, ∃ o ∈ objects, UsedAlike o p)
    ⟨fun h => ⟨h.1, h.2⟩, fun h => ⟨h.forth, h.back⟩⟩

section Use

variable {objects others : List Object}

theorem SameUse.listed (h : SameUse objects others) (t : String) :
    (∃ o ∈ objects, o.Lists t) ↔ ∃ p ∈ others, p.Lists t := by
  constructor
  · rintro ⟨o, ho, ht⟩
    obtain ⟨p, hp, halike⟩ := h.forth o ho
    exact ⟨p, hp, (halike.lists t).mp ht⟩
  · rintro ⟨p, hp, ht⟩
    obtain ⟨o, ho, halike⟩ := h.back p hp
    exact ⟨o, ho, (halike.lists t).mpr ht⟩

theorem SameUse.used (h : SameUse objects others) (t name : String) :
    (∃ o ∈ objects, o.name = name ∧ (o.Lists t ∨ o.UsedEverywhere)) ↔
      ∃ p ∈ others, p.name = name ∧ (p.Lists t ∨ p.UsedEverywhere) := by
  constructor
  · rintro ⟨o, ho, hname, huse⟩
    obtain ⟨p, hp, halike⟩ := h.forth o ho
    exact ⟨p, hp, halike.name ▸ hname, huse.imp (halike.lists t).mp halike.everywhere.mp⟩
  · rintro ⟨p, hp, hname, huse⟩
    obtain ⟨o, ho, halike⟩ := h.back p hp
    exact ⟨o, ho, halike.name.trans hname,
      huse.imp (halike.lists t).mpr halike.everywhere.mpr⟩

theorem mem_contextTemplates {t : String} :
    t ∈ (ofObjects objects).map (·.template) ↔ ∃ o ∈ objects, o.Lists t := by
  rw [ofObjects_eq, List.map_map]
  simp [Function.comp_def, mem_sortedTexts, mem_templates_iff]

theorem mem_objectsIn_iff {t name : String} :
    name ∈ objectsIn objects t ↔
      ∃ o ∈ objects, o.name = name ∧ (o.Lists t ∨ o.UsedEverywhere) := by
  simp only [mem_objectsIn, mem_templates_iff, isGlobal_iff]

theorem ofObjects_ordered (objects : List Object) : Ordered (ofObjects objects) where
  templates := by
    rw [ofObjects_eq, List.map_map]
    simpa [Function.comp_def] using sortedTexts_increasing _
  objects := by
    rw [ofObjects_eq]
    exact List.forall_mem_map.mpr fun t _ => sortedTexts_increasing _

/-- Contexts depend on the use of the objects alone. -/
theorem SameUse.ofObjects (h : SameUse objects others) : ofObjects others = ofObjects objects := by
  have htemplates : sortedTexts (others.flatMap (·.templates)) =
      sortedTexts (objects.flatMap (·.templates)) := by
    refine sortedTexts_congr fun t => ?_
    simpa only [List.mem_flatMap, mem_templates_iff] using (h.listed t).symm
  have hobjects : ∀ t, objectsIn others t = objectsIn objects t := by
    intro t
    refine (sortedTexts_increasing _).eq_of_mem_iff (sortedTexts_increasing _) fun name => ?_
    change name ∈ objectsIn others t ↔ name ∈ objectsIn objects t
    rw [mem_objectsIn_iff, mem_objectsIn_iff, h.used]
  rw [ofObjects_eq, ofObjects_eq, htemplates]
  simp only [hobjects]

end Use

/-- The declaration is an interface under the name of the template's context, with one required
member for every object of the context. -/
structure DeclaresScope (c : Context) (d : Declaration) : Prop where
  name : d.name = contextName c.template
  members : ∃ members, d.body = .interface members ∧ members.map (·.name) = c.objects ∧
    ∀ m ∈ members, m.optional = false

theorem declaration_declaresScope (c : Context) : DeclaresScope c c.declaration where
  name := rfl
  members := by
    refine ⟨_, rfl, ?_, List.forall_mem_map.mpr fun _ _ => rfl⟩
    simp [Function.comp_def, Context.member]

/-- A template has a context exactly if some object lists it, and in its context stand the names of
the objects that list it and of those that can be used everywhere. Templates and names stand in
increasing order, so none is repeated. Objects that are used alike give the same contexts, in
whichever order and however often they and their templates are listed. Every context is declared
as an interface whose members are its objects. -/
theorem contexts_follow_use (objects : List Object) :
    (∀ t, t ∈ (ofObjects objects).map (·.template) ↔ ∃ o ∈ objects, o.Lists t) ∧
    (∀ c ∈ ofObjects objects, ∀ name, name ∈ c.objects ↔
      (∃ o ∈ objects, o.name = name ∧ o.Lists c.template) ∨
        ∃ o ∈ objects, o.name = name ∧ o.UsedEverywhere) ∧
    Ordered (ofObjects objects) ∧
    (∀ others, SameUse objects others → ofObjects others = ofObjects objects) ∧
    ∀ declarations, contextDeclarations (ofObjects objects) = .ok declarations →
      List.Forall₂ DeclaresScope (ofObjects objects) declarations := by
  refine ⟨fun _ => mem_contextTemplates, ?_, ofObjects_ordered objects,
    fun _ => SameUse.ofObjects, ?_⟩
  · intro c hc name
    rw [ofObjects_eq] at hc
    obtain ⟨t, _, rfl⟩ := List.mem_map.mp hc
    rw [mem_objectsIn_iff]
    simp only [and_or_left, exists_or]
  · intro declarations hok
    obtain ⟨_, rfl⟩ := contextDeclarations_eq_ok_iff.mp hok
    rw [List.forall₂_map_right_iff]
    exact List.forall₂_same.mpr fun c _ => declaration_declaresScope c

/-- The documentation of two templates in another order, with an object and a template repeated. -/
def repeatedDocumentation : List Object :=
  [{ name := "cart", access := some { template := some ["gift_card.liquid", "cart", "cart"] } },
   { name := "shop", access := some { global := some true } },
   { name := "gift_card", access := some { template := some ["gift_card.liquid"] } },
   { name := "shop", access := some { global := some true } }]

theorem contexts_follow_use_repeated :
    SameUse sharedDocumentation repeatedDocumentation ∧
    ofObjects repeatedDocumentation = ofObjects sharedDocumentation ∧
    (∃ o ∈ sharedDocumentation, o.name = "gift_card" ∧ o.Lists "gift_card.liquid" ∨
      o.name = "gift_card" ∧ o.UsedEverywhere) ∧
    ∃ declarations, contextDeclarations (ofObjects sharedDocumentation) = .ok declarations ∧
      List.Forall₂ DeclaresScope (ofObjects sharedDocumentation) declarations := by
  obtain ⟨_, hscope, _, hsame, hdeclare⟩ := contexts_follow_use sharedDocumentation
  have huse : SameUse sharedDocumentation repeatedDocumentation := by decide +kernel
  have hcontext : ⟨"gift_card.liquid", ["cart", "gift_card", "shop"]⟩ ∈
      ofObjects sharedDocumentation := by decide +kernel
  have hdeclared : contextDeclarations (ofObjects sharedDocumentation) =
      .ok ((ofObjects sharedDocumentation).map Context.declaration) :=
    contextDeclarations_eq_ok_iff.mpr ⟨by decide +kernel, rfl⟩
  have hmember := (hscope _ hcontext "gift_card").mp (by decide)
  refine ⟨huse, hsame _ huse, ?_, _, hdeclared, hdeclare _ hdeclared⟩
  simpa only [and_or_left, exists_or] using hmember

end Typings

import Typings.Proofs.SortedTexts

/-! # Gathering of contexts

Contexts are gathered listing by listing, and the global objects are put into all of them at the
end. What comes out has a description by membership: the templates in increasing order, and in the
context of each the objects that list it or are global.
-/

namespace Typings

open Docs Context

/-- The name stands in the context of the template. -/
def InContext (contexts : List Context) (template name : String) : Prop :=
  ∃ c ∈ contexts, c.template = template ∧ name ∈ c.objects

/-- Templates and names of objects stand in increasing order. -/
structure Ordered (contexts : List Context) : Prop where
  templates : (contexts.map (·.template)).Pairwise (· < ·)
  objects : ∀ c ∈ contexts, c.objects.Pairwise (· < ·)

theorem inContext_cons {c : Context} {rest : List Context} {template name : String} :
    InContext (c :: rest) template name ↔
      c.template = template ∧ name ∈ c.objects ∨ InContext rest template name := by
  simp [InContext]

/-! ## One listing -/

section Step

variable {contexts : List Context} {template object : String}

theorem inContext_addObject {t name : String} :
    InContext (addObject contexts template object) t name ↔
      t = template ∧ name = object ∨ InContext contexts t name := by
  induction contexts with
  | nil => simp [addObject, InContext, eq_comm]
  | cons c rest ih =>
      unfold addObject
      split
      next heq =>
        subst heq
        simp only [inContext_cons, mem_insertText]
        rw [← or_assoc, and_or_left, eq_comm (a := t)]
      split
      next => simp [inContext_cons, eq_comm]
      next =>
        rw [inContext_cons, inContext_cons, ih]
        exact or_left_comm

/-- A listing makes a context exactly if its template has none. -/
theorem addObject_templates :
    (addObject contexts template object).map (·.template) =
      insertText template (contexts.map (·.template)) := by
  induction contexts with
  | nil => rfl
  | cons c rest ih =>
      rw [List.map_cons, insertText, addObject]
      split
      next heq =>
        subst heq
        simp
      split
      next => rfl
      next => rw [List.map_cons, ih]

theorem addObject_ordered (h : Ordered contexts) : Ordered (addObject contexts template object) where
  templates := by
    rw [addObject_templates]
    exact insertText_increasing h.templates
  objects := by
    have hobjects := h.objects
    clear h
    induction contexts with
    | nil => simp [addObject]
    | cons c rest ih =>
        obtain ⟨hc, hrest⟩ := List.forall_mem_cons.mp hobjects
        unfold addObject
        split
        next => exact List.forall_mem_cons.mpr ⟨insertText_increasing hc, hrest⟩
        split
        next => exact List.forall_mem_cons.mpr ⟨List.pairwise_singleton _ _, hobjects⟩
        next => exact List.forall_mem_cons.mpr ⟨hc, ih hrest⟩

end Step

/-! ## All listings -/

section Run

variable {objects : List Object} {template name : String}

/-- A name stands in a context if it was there before or some listing has put it there. The contexts
to begin with are general for the induction. -/
theorem inContext_foldl (listings : List (String × String)) (contexts : List Context) :
    InContext (listings.foldl (fun cs listing => addObject cs listing.1 listing.2) contexts)
        template name ↔
      (template, name) ∈ listings ∨ InContext contexts template name := by
  induction listings generalizing contexts with
  | nil => simp
  | cons listing rest ih =>
      rw [List.foldl_cons, ih, inContext_addObject, List.mem_cons, Prod.ext_iff]
      exact or_left_comm.trans or_assoc.symm

theorem inContext_ofListings {listings : List (String × String)} :
    InContext (ofListings listings) template name ↔ (template, name) ∈ listings := by
  rw [ofListings, inContext_foldl]
  simp [InContext]

theorem ofListings_ordered (listings : List (String × String)) : Ordered (ofListings listings) := by
  refine List.foldlRecOn listings _ ⟨List.Pairwise.nil, by simp⟩ ?_
  intro contexts hordered listing _
  exact addObject_ordered hordered

theorem mem_templates_foldl (listings : List (String × String)) (contexts : List Context) :
    template ∈ (listings.foldl (fun cs listing => addObject cs listing.1 listing.2) contexts).map
        (·.template) ↔
      template ∈ listings.map (·.1) ∨ template ∈ contexts.map (·.template) := by
  induction listings generalizing contexts with
  | nil => simp
  | cons listing rest ih =>
      rw [List.foldl_cons, ih, addObject_templates, mem_insertText, List.map_cons, List.mem_cons]
      exact or_left_comm.trans or_assoc.symm

theorem mem_listings : (template, name) ∈ listings objects ↔
    ∃ o ∈ objects, o.name = name ∧ template ∈ o.templates := by
  simp only [listings, List.mem_flatMap, List.mem_map, Prod.mk.injEq]
  constructor
  · rintro ⟨o, ho, t, ht, rfl, rfl⟩
    exact ⟨o, ho, rfl, ht⟩
  · rintro ⟨o, ho, rfl, ht⟩
    exact ⟨o, ho, template, ht, rfl, rfl⟩

theorem listings_templates : (listings objects).map (·.1) = objects.flatMap (·.templates) := by
  simp [listings, List.map_flatMap, Function.comp_def]

theorem templates_ofListings : (ofListings (listings objects)).map (·.template) =
    sortedTexts (objects.flatMap (·.templates)) := by
  refine (ofListings_ordered _).templates.eq_of_mem_iff (sortedTexts_increasing _) fun t => ?_
  rw [ofListings, mem_templates_foldl, listings_templates, mem_sortedTexts]
  simp

theorem mem_addAll {c : Context} {names : List String} :
    name ∈ (c.addAll names).objects ↔ name ∈ names ∨ name ∈ c.objects := by
  unfold addAll
  induction names with
  | nil => simp
  | cons first rest ih => rw [List.foldr_cons, mem_insertText, ih, List.mem_cons, or_assoc]

theorem addAll_increasing {c : Context} (names : List String) (h : c.objects.Pairwise (· < ·)) :
    (c.addAll names).objects.Pairwise (· < ·) := by
  unfold addAll
  induction names with
  | nil => exact h
  | cons first rest ih => exact insertText_increasing ih

/-- Where templates are increasing, no template has two contexts. -/
theorem Ordered.mem_objects {contexts : List Context} (h : Ordered contexts) {c : Context}
    (hc : c ∈ contexts) : name ∈ c.objects ↔ InContext contexts c.template name := by
  refine ⟨fun hname => ⟨c, hc, rfl, hname⟩, ?_⟩
  rintro ⟨other, hother, heq, hname⟩
  have hnodup : (contexts.map (·.template)).Nodup := h.templates.imp ne_of_lt
  rwa [List.inj_on_of_nodup_map hnodup hother hc heq] at hname

/-- A context with the global objects in it has the objects of its template. -/
theorem addAll_globalNames {c : Context} (hc : c ∈ ofListings (listings objects)) :
    c.addAll (globalNames objects) = ⟨c.template, objectsIn objects c.template⟩ := by
  have hordered := ofListings_ordered (listings objects)
  have hobjects : (c.addAll (globalNames objects)).objects = objectsIn objects c.template := by
    refine (addAll_increasing _ (hordered.objects c hc)).eq_of_mem_iff
      (sortedTexts_increasing _) fun n => ?_
    rw [mem_addAll, hordered.mem_objects hc, inContext_ofListings, mem_listings, objectsIn,
      globalNames, mem_sortedTexts, mem_sortedTexts]
    simp only [List.mem_map, List.mem_filter, Bool.or_eq_true, List.contains_iff_mem]
    constructor
    · rintro (⟨o, ⟨ho, hglobal⟩, rfl⟩ | ⟨o, ho, rfl, ht⟩)
      · exact ⟨o, ⟨ho, Or.inr hglobal⟩, rfl⟩
      · exact ⟨o, ⟨ho, Or.inl ht⟩, rfl⟩
    · rintro ⟨o, ⟨ho, ht | hglobal⟩, rfl⟩
      · exact Or.inr ⟨o, ho, rfl, ht⟩
      · exact Or.inl ⟨o, ⟨ho, hglobal⟩, rfl⟩
  rw [← hobjects]
  rfl

/-- The gathered contexts, described by membership alone. -/
theorem Context.ofObjects_eq (objects : List Object) :
    ofObjects objects = (sortedTexts (objects.flatMap (·.templates))).map fun t =>
      ⟨t, objectsIn objects t⟩ := by
  rw [← templates_ofListings, List.map_map]
  exact List.map_congr_left fun c hc => addAll_globalNames hc

end Run

end Typings

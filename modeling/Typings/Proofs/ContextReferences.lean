import Typings.Proofs.DocumentationErasure

/-! # References of contexts

The interface of a context refers to objects by their type names without a look at the objects. In
a built file such a reference has one declaration that it can mean, that of the object whose name
the member has: all objects were declared before, each under a name of its own.
-/

namespace Typings

open Docs

/-- All declarations of the file, the markers first. -/
def DeclarationFile.declared (f : DeclarationFile) : List Declaration :=
  f.preamble ++ f.declarations

/-- The member has the name of an object and refers to a type that is declared once, by this
object. -/
structure ResolvesIn (objects : List Object) (file : DeclarationFile) (m : Member) : Prop where
  type : m.type = .reference (typeName m.name)
  valid : isTypeName (typeName m.name) = true
  target : ∃ o, objects.filter (·.name = m.name) = [o] ∧
    file.declared.filter (·.name = typeName m.name) = [o.declaration (typeName m.name)]

/-- Where keys are distinct, an entry is the only one with its key. -/
theorem filter_key_eq {α : Type} {key : α → String} {entries : List α}
    (hdistinct : (entries.map key).Nodup) {entry : α} (hentry : entry ∈ entries) :
    entries.filter (key · = key entry) = [entry] := by
  induction entries with
  | nil => cases hentry
  | cons first rest ih =>
      obtain ⟨hfirst, hrest⟩ := List.nodup_cons.mp hdistinct
      rcases List.mem_cons.mp hentry with rfl | hentry
      · have hnone : rest.filter (key · = key entry) = [] := by
          refine List.filter_eq_nil_iff.mpr fun other hother => ?_
          have hne : key other ≠ key entry := fun heq => hfirst (heq ▸ List.mem_map_of_mem hother)
          simpa using hne
        simp [hnone]
      · have hne : key first ≠ key entry := fun heq => hfirst (heq ▸ List.mem_map_of_mem hentry)
        simp [hne, ih hrest hentry]

section Build

variable {objects : List Object} {options : Options}

/-- No name is declared twice in a built file. -/
theorem built_names_distinct (hdeclarable : Declarable objects options) :
    ((builtFrom objects (wantedTemplates objects options)).file.declared.map (·.name)).Nodup := by
  have hobjects := (objectsNamed_iff.mp hdeclarable.objectsNamed).new
  have hcontexts := (contextsNamed_iff.mp hdeclarable.contextsNamed).2
  have hall : (markerNames ++ (objectNames objects ++
      (wantedTemplates objects options).map contextName)).Nodup :=
    (newNames_append.mpr ⟨hobjects, hcontexts⟩).nodup_append (by decide)
  have hmarkers : DeclarationFile.withMarkers.preamble.map (·.name) = markerNames := rfl
  have hnames : (objectDeclarations objects).map (·.name) = objectNames objects := by
    simp [objectDeclarations, objectNames, object_declaration_name]
  simp only [DeclarationFile.declared, builtFrom, List.map_append]
  rwa [contextNames_eq, hnames, hmarkers]

/-- In a built file a reference to the type name of an object means the object's declaration. -/
theorem resolvesIn_object (hdeclarable : Declarable objects options) {o : Object}
    (ho : o ∈ objects) :
    ResolvesIn objects (builtFrom objects (wantedTemplates objects options)).file
      (Context.member o.name) where
  type := rfl
  valid := hdeclarable.objectsNamed.valid o ho
  target := by
    have hdistinct : (objects.map (·.name)).Nodup := by
      refine List.Nodup.of_map typeName ?_
      simpa [Function.comp_def] using hdeclarable.objectsNamed.distinct
    have hdeclared : o.declaration (typeName o.name) ∈
        (builtFrom objects (wantedTemplates objects options)).file.declared := by
      refine List.mem_append_right _ (List.mem_append_left _ ?_)
      exact List.mem_map.mpr ⟨o, ho, rfl⟩
    have hunique := filter_key_eq (built_names_distinct hdeclarable) hdeclared
    rw [object_declaration_name] at hunique
    exact ⟨o, filter_key_eq hdistinct ho, hunique⟩

/-- Whether contexts can be declared depends on their templates alone. The objects are referred to
under whatever type names they have. -/
theorem contextDeclarations_eq_ok_iff {contexts : List Context} {declarations : List Declaration} :
    contextDeclarations contexts = .ok declarations ↔
      (∀ c ∈ contexts, isTypeName (contextName c.template) = true) ∧
        declarations = contexts.map Context.declaration := by
  constructor
  · intro hok
    have hvalid : ∀ c ∈ contexts, isTypeName (contextName c.template) = true := by
      have hsplit := exists_first_break
        (fun cs : List Context => ∀ c ∈ cs, isTypeName (contextName c.template) = true)
        (by simp) contexts
      rcases hsplit with hvalid | ⟨before, c, after, rfl, hbefore, hbreak⟩
      · exact hvalid
      · have hinvalid : ¬ isTypeName (contextName c.template) = true := by
          intro hc
          exact hbreak (List.forall_mem_append.mpr ⟨hbefore, by simpa using hc⟩)
        rw [contextDeclarations_invalid after hbefore hinvalid] at hok
        cases hok
    rw [contextDeclarations_valid hvalid] at hok
    cases hok
    exact ⟨hvalid, rfl⟩
  · rintro ⟨hvalid, rfl⟩
    exact contextDeclarations_valid hvalid

/-- Contexts never dangle. In a built file the members of every context stand for the objects that
its template can use, and each of them refers to the one declaration of its object, though the
declaration of contexts looks at no name of an object. -/
theorem context_members_resolve {built : Build}
    (hbuilt : build objects { templateContexts := true } = .ok built) :
    built.file.declarations = objectDeclarations objects ++
      (listedTemplates objects).map (fun t => (contextOf objects t).declaration) ∧
    (∀ t ∈ listedTemplates objects, ∃ members,
      (contextOf objects t).declaration.body = .interface members ∧
      (∀ name, name ∈ members.map (·.name) ↔
        ∃ o ∈ objects, o.name = name ∧ (t ∈ o.templates ∨ o.isGlobal = true)) ∧
      ∀ m ∈ members, ResolvesIn objects built.file m) ∧
    ∀ contexts declarations, contextDeclarations contexts = .ok declarations ↔
      (∀ c ∈ contexts, isTypeName (contextName c.template) = true) ∧
        declarations = contexts.map Context.declaration := by
  have hdeclarable := declarable_of_build hbuilt
  rw [build_of_declarable hdeclarable] at hbuilt
  cases hbuilt
  refine ⟨?_, fun t _ => ⟨_, rfl, fun name => ?_, List.forall_mem_map.mpr fun name hname => ?_⟩,
    fun _ _ => contextDeclarations_eq_ok_iff⟩
  · simp [builtFrom, wantedTemplates, Function.comp_def]
  · rw [← mem_objectsIn]
    simp [contextOf, Context.member]
  · -- A context names no object that the documentation lacks, and all of those are declared.
    obtain ⟨o, ho, rfl, _⟩ := mem_objectsIn.mp hname
    exact resolvesIn_object hdeclarable ho

end Build

/-- A documentation of two templates that share a global object. -/
def sharedDocumentation : List Object :=
  [{ name := "shop", access := some { global := some true } },
   { name := "gift_card", access := some { template := some ["gift_card.liquid"] } },
   { name := "cart", access := some { template := some ["cart", "gift_card.liquid"] } }]

theorem context_members_resolve_shared :
    ∃ built, build sharedDocumentation { templateContexts := true } = .ok built ∧
      ∃ members,
        (contextOf sharedDocumentation "gift_card.liquid").declaration.body =
          .interface members ∧
        members.map (·.name) = ["cart", "gift_card", "shop"] ∧
        ∀ m ∈ members, ResolvesIn sharedDocumentation built.file m := by
  have hlisted : "gift_card.liquid" ∈ listedTemplates sharedDocumentation := by decide +kernel
  have hobjects : Context.objectsIn sharedDocumentation "gift_card.liquid" =
      ["cart", "gift_card", "shop"] := by decide +kernel
  obtain ⟨built, hbuilt⟩ := exists_built (show (build sharedDocumentation
    { templateContexts := true }).isOk = true by decide +kernel)
  obtain ⟨_, hresolve, _⟩ := context_members_resolve hbuilt
  obtain ⟨members, hbody, _, hmembers⟩ := hresolve _ hlisted
  refine ⟨built, hbuilt, members, hbody, ?_, hmembers⟩
  simp only [contextOf, Context.declaration, hobjects, Body.interface.injEq] at hbody
  rw [← hbody]
  rfl

end Typings

import Typings.Proofs.ContextGathering
import Typings.Proofs.Declaring

/-! # The outcome of a build

When a documentation gives a declaration file, what the file then declares, and which fault is
reported otherwise. The conditions speak of all names at once; the build looks at one name after
the other and stops at the first that it cannot declare.
-/

namespace Typings

open Docs

def markerNames : List String := ["Untyped", "ShopifyBug", "Unimplemented"]

/-- Some object lists the template. -/
def Listed (objects : List Object) (template : String) : Prop :=
  ∃ o ∈ objects, template ∈ o.templates

/-- The objects can all be declared: their type names are valid, distinct and no marker's. -/
structure ObjectsNamed (objects : List Object) : Prop where
  valid : ∀ o ∈ objects, isTypeName (typeName o.name) = true
  distinct : (objects.map fun o => typeName o.name).Nodup
  unmarked : ∀ o ∈ objects, typeName o.name ∉ markerNames

/-- The contexts of all listed templates can be declared beside the objects. -/
structure ContextsNamed (objects : List Object) : Prop where
  valid : ∀ t, Listed objects t → isTypeName (contextName t) = true
  distinct : ∀ t u, Listed objects t → Listed objects u → contextName t = contextName u → t = u
  unmarked : ∀ t, Listed objects t → contextName t ∉ markerNames
  objectless : ∀ t, Listed objects t → ∀ o ∈ objects, contextName t ≠ typeName o.name

/-- Everything that the options ask for can be declared. -/
structure Declarable (objects : List Object) (options : Options) : Prop where
  objectsNamed : ObjectsNamed objects
  contextsNamed : options.templateContexts = true → ContextsNamed objects

/-- The declaration is the one of the object: under its type name, a synonym for a collection and
an interface for any other object. -/
structure DeclaresObject (o : Object) (d : Declaration) : Prop where
  name : d.name = typeName o.name
  synonym_iff : (∃ type, d.body = .synonym type) ↔ o.isDictionary = true
  content : d = o.declaration d.name

/-- The declaration is the interface of the template's context. -/
structure DeclaresContext (objects : List Object) (t : String) (d : Declaration) : Prop where
  name : d.name = contextName t
  interface : ∃ members, d.body = .interface members
  content : d = (Context.mk t (Context.objectsIn objects t)).declaration

/-- The file declares the markers as synonyms of `any`, then every object in the order of the
documentation, then the context of every template that is asked for, in the order of the
templates. -/
structure DeclaresAll (objects : List Object) (options : Options) (file : DeclarationFile) :
    Prop where
  markers : file.preamble.map (·.name) = markerNames
  markerBodies : ∀ d ∈ file.preamble, d.body = .synonym (.reference "any")
  declarations : ∃ objectPart contextPart templates,
    file.declarations = objectPart ++ contextPart ∧
    List.Forall₂ DeclaresObject objects objectPart ∧
    templates.Pairwise (· < ·) ∧
    (∀ t, t ∈ templates ↔ options.templateContexts = true ∧ Listed objects t) ∧
    List.Forall₂ (DeclaresContext objects) templates contextPart

/-- A marker or an object of the list has the name. -/
def Taken (objects : List Object) (name : String) : Prop :=
  name ∈ markerNames ∨ ∃ o ∈ objects, typeName o.name = name

/-- A marker, an object or the context of a smaller template has the name of the template's
context. -/
def ContextTaken (objects : List Object) (t : String) : Prop :=
  Taken objects (contextName t) ∨ ∃ u < t, Listed objects u ∧ contextName u = contextName t

/-- The fault that is met first. The objects come in the order of the documentation, and of one
object its own name comes before its conflicts. The contexts follow in the order of their
templates, first all of their names and then all of their conflicts. -/
inductive FirstFault (objects : List Object) (options : Options) : BuildError → Prop
  | objectInvalid (before : List Object) (o : Object) (after : List Object)
      (split : objects = before ++ o :: after) (named : ObjectsNamed before)
      (invalid : ¬ isTypeName (typeName o.name) = true) :
      FirstFault objects options (.invalidTypeName o.name (typeName o.name))
  | objectTaken (before : List Object) (o : Object) (after : List Object)
      (split : objects = before ++ o :: after) (named : ObjectsNamed before)
      (valid : isTypeName (typeName o.name) = true) (taken : Taken before (typeName o.name)) :
      FirstFault objects options (.duplicateName o.name (typeName o.name))
  | contextInvalid (t : String) (wanted : options.templateContexts = true)
      (named : ObjectsNamed objects) (listed : Listed objects t)
      (invalid : ¬ isTypeName (contextName t) = true)
      (first : ∀ u < t, Listed objects u → isTypeName (contextName u) = true) :
      FirstFault objects options (.invalidContextName t (contextName t))
  | contextTaken (t : String) (wanted : options.templateContexts = true)
      (named : ObjectsNamed objects) (listed : Listed objects t)
      (valid : ∀ u, Listed objects u → isTypeName (contextName u) = true)
      (taken : ContextTaken objects t)
      (first : ∀ u < t, Listed objects u → ¬ ContextTaken objects u) :
      FirstFault objects options (.duplicateName (contextName t) (contextName t))

/-! ## Names beside names -/

theorem objectsNamed_iff {objects : List Object} :
    ObjectsNamed objects ↔ Nameable markerNames objects := by
  constructor
  · rintro ⟨hvalid, hdistinct, hunmarked⟩
    refine ⟨hvalid, hdistinct, ?_⟩
    intro name hname
    obtain ⟨o, ho, rfl⟩ := List.mem_map.mp hname
    exact hunmarked o ho
  · rintro ⟨hvalid, hdistinct, hnew⟩
    exact ⟨hvalid, hdistinct, fun o ho => hnew _ (List.mem_map_of_mem ho)⟩

/-- The names declared once every object of a list has its name. -/
def namesAfter (objects : List Object) : List String :=
  (objectNames objects).reverse ++ markerNames

theorem mem_namesAfter {objects : List Object} {name : String} :
    name ∈ namesAfter objects ↔ Taken objects name := by
  simp [namesAfter, objectNames, Taken, or_comm]

/-- The listed templates in increasing order. -/
def listedTemplates (objects : List Object) : List String :=
  sortedTexts (objects.flatMap (·.templates))

theorem mem_listedTemplates {objects : List Object} {t : String} :
    t ∈ listedTemplates objects ↔ Listed objects t := by
  simp [listedTemplates, mem_sortedTexts, Listed]

/-- The context of a template. -/
def contextOf (objects : List Object) (t : String) : Context :=
  ⟨t, Context.objectsIn objects t⟩

theorem valid_contexts (objects : List Object) {templates : List String}
    (hvalid : ∀ t ∈ templates, isTypeName (contextName t) = true) :
    ∀ c ∈ templates.map (contextOf objects), isTypeName (contextName c.template) = true := by
  intro c hc
  obtain ⟨t, ht, rfl⟩ := List.mem_map.mp hc
  simpa only [contextOf] using hvalid t ht

/-- The templates whose contexts the options ask for. -/
def wantedTemplates (objects : List Object) (options : Options) : List String :=
  if options.templateContexts then listedTemplates objects else []

theorem mem_wantedTemplates {objects : List Object} {options : Options} {t : String} :
    t ∈ wantedTemplates objects options ↔
      options.templateContexts = true ∧ Listed objects t := by
  unfold wantedTemplates
  split
  next hwanted => simp [hwanted, mem_listedTemplates]
  next hunwanted => simp [hunwanted]

theorem wantedTemplates_increasing (objects : List Object) (options : Options) :
    (wantedTemplates objects options).Pairwise (· < ·) := by
  unfold wantedTemplates
  split
  · exact sortedTexts_increasing _
  · exact List.Pairwise.nil

/-- The declarations of the contexts that the options ask for. -/
theorem wantedContexts_eq (objects : List Object) (options : Options) :
    (if options.templateContexts then contextDeclarations (Context.ofObjects objects)
      else .ok []) =
      contextDeclarations ((wantedTemplates objects options).map (contextOf objects)) := by
  unfold wantedTemplates
  split
  · rw [Context.ofObjects_eq]
    rfl
  · rfl

theorem contextOf_name (objects : List Object) (t : String) :
    (contextOf objects t).declaration.name = contextName t := by
  simp only [contextOf, Context.declaration]

theorem contextNames_eq (objects : List Object) (templates : List String) :
    ((templates.map (contextOf objects)).map Context.declaration).map (·.name) =
      templates.map contextName := by
  simp [Context.declaration, contextOf]

/-- Contexts can be declared beside the objects exactly when their names are valid and can be
declared one after the other. -/
theorem contextsNamed_iff {objects : List Object} {options : Options} :
    (options.templateContexts = true → ContextsNamed objects) ↔
      (∀ t ∈ wantedTemplates objects options, isTypeName (contextName t) = true) ∧
        NewNames (namesAfter objects) ((wantedTemplates objects options).map contextName) := by
  have hnodup : (wantedTemplates objects options).Nodup :=
    (wantedTemplates_increasing objects options).imp ne_of_lt
  simp only [NewNames, List.nodup_map_iff_inj_on hnodup, List.forall_mem_map,
    mem_wantedTemplates, mem_namesAfter]
  constructor
  · intro h
    refine ⟨fun t ht => (h ht.1).valid t ht.2,
      fun t ht u hu => (h ht.1).distinct t u ht.2 hu.2, ?_⟩
    rintro t ⟨hwanted, hlisted⟩ (hmarked | ⟨o, ho, heq⟩)
    · exact (h hwanted).unmarked t hlisted hmarked
    · exact (h hwanted).objectless t hlisted o ho heq.symm
  · rintro ⟨hvalid, hdistinct, hnew⟩ hwanted
    exact ⟨fun t ht => hvalid t ⟨hwanted, ht⟩,
      fun t u ht hu => hdistinct t ⟨hwanted, ht⟩ u ⟨hwanted, hu⟩,
      fun t ht hmarked => hnew t ⟨hwanted, ht⟩ (Or.inl hmarked),
      fun t ht o ho heq => hnew t ⟨hwanted, ht⟩ (Or.inr ⟨o, ho, heq.symm⟩)⟩

section Split

variable {objects : List Object} {t : String} {before after : List String}

/-- Where the listed templates are cut, the smaller ones stand before the cut. -/
theorem mem_before_listed (hsplit : listedTemplates objects = before ++ t :: after) {u : String} :
    u ∈ before ↔ Listed objects u ∧ u < t := by
  have hsorted : (before ++ t :: after).Pairwise (· < ·) := by
    rw [← hsplit]
    exact sortedTexts_increasing _
  rw [mem_before_iff hsorted, ← hsplit, mem_listedTemplates]

theorem contextTaken_iff (hsplit : listedTemplates objects = before ++ t :: after) :
    ContextTaken objects t ↔
      contextName t ∈ namesAfter objects ∨ contextName t ∈ before.map contextName := by
  unfold ContextTaken
  rw [mem_namesAfter, List.mem_map]
  refine or_congr_right (exists_congr fun u => ?_)
  rw [mem_before_listed hsplit, and_assoc, and_left_comm]

/-- The contexts before a cut can all be declared exactly when none of their names is taken. -/
theorem newNames_before_iff (hsplit : listedTemplates objects = before ++ t :: after) :
    NewNames (namesAfter objects) (before.map contextName) ↔
      ∀ u < t, Listed objects u → ¬ ContextTaken objects u := by
  have hmem : ∀ u, u ∈ before ↔ Listed objects u ∧ u < t := fun u => mem_before_listed hsplit
  have hnodup : before.Nodup := by
    have hsorted := sortedTexts_increasing (objects.flatMap (·.templates))
    change (listedTemplates objects).Pairwise _ at hsorted
    rw [hsplit] at hsorted
    exact (List.pairwise_append.mp hsorted).1.imp ne_of_lt
  rw [NewNames, List.nodup_map_iff_inj_on hnodup, List.forall_mem_map]
  constructor
  · rintro ⟨hdistinct, hnew⟩ u hlt hlisted (htaken | ⟨v, hvu, hv, heq⟩)
    · exact hnew u ((hmem u).mpr ⟨hlisted, hlt⟩) (mem_namesAfter.mpr htaken)
    · have hsame : v = u := hdistinct v ((hmem v).mpr ⟨hv, hvu.trans hlt⟩) u
        ((hmem u).mpr ⟨hlisted, hlt⟩) heq
      exact absurd hsame hvu.ne
  · intro hfree
    refine ⟨?_, fun u hu htaken => ?_⟩
    · intro u hu v hv heq
      obtain ⟨hu, hut⟩ := (hmem u).mp hu
      obtain ⟨hv, hvt⟩ := (hmem v).mp hv
      rcases lt_trichotomy u v with hlt | hsame | hlt
      · exact absurd (Or.inr ⟨u, hlt, hu, heq⟩) (hfree v hvt hv)
      · exact hsame
      · exact absurd (Or.inr ⟨v, hlt, hv, heq.symm⟩) (hfree u hut hu)
    · obtain ⟨hlisted, hlt⟩ := (hmem u).mp hu
      exact hfree u hlt hlisted (Or.inl (mem_namesAfter.mp htaken))

end Split

/-! ## The build -/

/-- What a build makes of the objects and the templates whose contexts it declares. -/
def builtFrom (objects : List Object) (templates : List String) : Build where
  file := { DeclarationFile.withMarkers with
    declarations := objectDeclarations objects ++
      (templates.map (contextOf objects)).map Context.declaration }
  stats := { (objectDeclarations objects).foldl Stats.record {} with
    contexts := templates.length }

/-- A build is a sequence of three checks: of the objects, of the names of the contexts, and of the
conflicts of the contexts. -/
theorem build_steps (objects : List Object) (options : Options) :
    build objects options = (do
      let declared ← declareObjects markerNames objects
      let contexts ← contextDeclarations
        ((wantedTemplates objects options).map (contextOf objects))
      reserveAll declared.2 contexts
      return {
        file := { DeclarationFile.withMarkers with declarations := declared.1 ++ contexts }
        stats := { declared.1.foldl Stats.record {} with contexts := contexts.length } }) := by
  rw [← wantedContexts_eq]
  obtain ⟨wanted⟩ := options
  cases wanted <;> rfl

theorem exists_built {objects : List Object} {options : Options}
    (hok : (build objects options).isOk = true) : ∃ built, build objects options = .ok built := by
  cases hbuilt : build objects options with
  | error error =>
      rw [hbuilt] at hok
      cases hok
  | ok built => exact ⟨built, rfl⟩

/-- Objects that cannot all be declared stop the build. -/
theorem build_of_object_error {objects : List Object} {error : BuildError}
    (herror : declareObjects markerNames objects = .error error) (options : Options) :
    build objects options = .error error := by
  rw [build_steps, herror]
  rfl

/-- Behind objects that can be declared, the names of contexts are checked first, then reserved. -/
theorem build_of_named {objects : List Object} (hnamed : ObjectsNamed objects)
    (options : Options) :
    build objects options = (do
      let contexts ← contextDeclarations
        ((wantedTemplates objects options).map (contextOf objects))
      reserveAll (namesAfter objects) contexts
      return {
        file := { DeclarationFile.withMarkers with
          declarations := objectDeclarations objects ++ contexts }
        stats := { (objectDeclarations objects).foldl Stats.record {} with
          contexts := contexts.length } }) := by
  rw [build_steps, declareObjects_nameable (objectsNamed_iff.mp hnamed)]
  rfl

theorem build_of_declarable {objects : List Object} {options : Options}
    (hdeclarable : Declarable objects options) :
    build objects options = .ok (builtFrom objects (wantedTemplates objects options)) := by
  obtain ⟨hvalid, hnew⟩ := contextsNamed_iff.mp hdeclarable.contextsNamed
  have hcontexts := contextDeclarations_valid (valid_contexts objects hvalid)
  rw [← contextNames_eq objects] at hnew
  rw [build_of_named hdeclarable.objectsNamed, hcontexts]
  change reserveAll _ _ >>= _ = _
  rw [reserveAll_new hnew]
  change Except.ok _ = Except.ok _
  simp [builtFrom]

/-- A context whose name cannot be declared is reported before any conflict of contexts. -/
theorem build_of_invalid_context {objects : List Object} {options : Options}
    {before after : List String} {t : String} (hnamed : ObjectsNamed objects)
    (hsplit : wantedTemplates objects options = before ++ t :: after)
    (hbefore : ∀ u ∈ before, isTypeName (contextName u) = true)
    (hinvalid : ¬ isTypeName (contextName t) = true) :
    build objects options = .error (.invalidContextName t (contextName t)) := by
  have herror : contextDeclarations (before.map (contextOf objects) ++
      contextOf objects t :: after.map (contextOf objects)) =
        .error (.invalidContextName t (contextName t)) :=
    contextDeclarations_invalid _ (valid_contexts objects hbefore) hinvalid
  rw [build_of_named hnamed, hsplit, List.map_append, List.map_cons, herror]
  rfl

/-- With all names of contexts in order, the first conflict of a context is reported. -/
theorem build_of_taken_context {objects : List Object} {options : Options}
    {before after : List String} {t : String} (hnamed : ObjectsNamed objects)
    (hvalid : ∀ u ∈ wantedTemplates objects options, isTypeName (contextName u) = true)
    (hsplit : wantedTemplates objects options = before ++ t :: after)
    (hnew : NewNames (namesAfter objects) (before.map contextName))
    (htaken : contextName t ∈ namesAfter objects ∨ contextName t ∈ before.map contextName) :
    build objects options = .error (.duplicateName (contextName t) (contextName t)) := by
  have hcontexts := contextDeclarations_valid (valid_contexts objects hvalid)
  rw [← contextNames_eq objects] at hnew
  rw [← contextOf_name objects, ← contextNames_eq objects] at htaken
  have herror := reserveAll_taken
    ((after.map (contextOf objects)).map Context.declaration) hnew htaken
  rw [contextOf_name] at herror
  rw [build_of_named hnamed, hcontexts, hsplit, List.map_append, List.map_append, List.map_cons,
    List.map_cons]
  change reserveAll _ _ >>= _ = _
  rw [herror]
  rfl

/-- The fault that is met first is the one reported. -/
theorem build_of_firstFault {objects : List Object} {options : Options} {error : BuildError}
    (hfault : FirstFault objects options error) : build objects options = .error error := by
  cases hfault with
  | objectInvalid before o after hsplit hnamed hinvalid =>
      refine build_of_object_error ?_ options
      rw [hsplit]
      exact declareObjects_invalid after (objectsNamed_iff.mp hnamed) hinvalid
  | objectTaken before o after hsplit hnamed hvalid htaken =>
      refine build_of_object_error ?_ options
      rw [hsplit]
      refine declareObjects_taken after (objectsNamed_iff.mp hnamed) hvalid ?_
      simpa [Taken, objectNames] using htaken
  | contextInvalid t hwanted hnamed hlisted hinvalid hfirst =>
      obtain ⟨before, after, hsplit⟩ := List.append_of_mem (mem_listedTemplates.mpr hlisted)
      have hwantedSplit : wantedTemplates objects options = before ++ t :: after := by
        rw [wantedTemplates, if_pos hwanted, hsplit]
      refine build_of_invalid_context hnamed hwantedSplit ?_ hinvalid
      intro u hu
      obtain ⟨hlisted, hlt⟩ := (mem_before_listed hsplit).mp hu
      exact hfirst u hlt hlisted
  | contextTaken t hwanted hnamed hlisted hvalid htaken hfirst =>
      obtain ⟨before, after, hsplit⟩ := List.append_of_mem (mem_listedTemplates.mpr hlisted)
      exact build_of_taken_context hnamed (fun u hu => hvalid u (mem_wantedTemplates.mp hu).2)
        (by rw [wantedTemplates, if_pos hwanted, hsplit])
        ((newNames_before_iff hsplit).mpr hfirst) ((contextTaken_iff hsplit).mp htaken)

/-- Objects can be declared, or one of them is the first at fault. -/
theorem objectsNamed_or_fault (objects : List Object) (options : Options) :
    ObjectsNamed objects ∨ ∃ error, FirstFault objects options error := by
  rcases exists_first_break (Nameable markerNames) (Nameable.nil _) objects with
    hnamed | ⟨before, o, after, hsplit, hbefore, hbreak⟩
  · exact Or.inl (objectsNamed_iff.mpr hnamed)
  have hnamed := objectsNamed_iff.mpr hbefore
  right
  by_cases hvalid : isTypeName (typeName o.name) = true
  · refine ⟨_, .objectTaken before o after hsplit hnamed hvalid ?_⟩
    -- A name that is not taken would prolong the objects that can be declared.
    by_contra hfree
    refine hbreak ⟨?_, ?_⟩
    · intro other hother
      rcases List.mem_append.mp hother with hother | hother
      · exact hbefore.valid other hother
      · rwa [List.mem_singleton.mp hother]
    · rw [objectNames, List.map_append, List.map_singleton, newNames_concat]
      refine ⟨hbefore.new, fun hmarked => hfree (Or.inl hmarked), fun hmem => hfree (Or.inr ?_)⟩
      simpa using hmem
  · exact ⟨_, .objectInvalid before o after hsplit hnamed hvalid⟩

/-- Beside objects that can be declared, the contexts can be declared too, or one of them is the
first at fault. -/
theorem declarable_or_fault {objects : List Object} (hnamed : ObjectsNamed objects)
    (options : Options) :
    Declarable objects options ∨ ∃ error, FirstFault objects options error := by
  by_cases hwanted : options.templateContexts = true
  swap
  · exact Or.inl ⟨hnamed, fun h => absurd h hwanted⟩
  -- All names are looked at before any conflict, so an invalid name is met first wherever it is.
  rcases exists_first_break (fun templates => ∀ t ∈ templates, isTypeName (contextName t) = true)
    (by simp) (listedTemplates objects) with hvalid | ⟨before, t, after, hsplit, hvalid, hbreak⟩
  swap
  · have hlisted : Listed objects t := mem_listedTemplates.mp (by simp [hsplit])
    refine Or.inr ⟨_, .contextInvalid t hwanted hnamed hlisted ?_ ?_⟩
    · intro ht
      exact hbreak (List.forall_mem_append.mpr ⟨hvalid, by simpa using ht⟩)
    · intro u hlt hu
      exact hvalid u ((mem_before_listed hsplit).mpr ⟨hu, hlt⟩)
  rcases exists_first_break
    (fun templates => NewNames (namesAfter objects) (templates.map contextName))
    (NewNames.nil _) (listedTemplates objects) with
    hnew | ⟨before, t, after, hsplit, hnew, hbreak⟩
  · refine Or.inl ⟨hnamed, contextsNamed_iff.mpr ?_⟩
    rw [wantedTemplates, if_pos hwanted]
    exact ⟨hvalid, hnew⟩
  · have hlisted : Listed objects t := mem_listedTemplates.mp (by simp [hsplit])
    refine Or.inr ⟨_, .contextTaken t hwanted hnamed hlisted
      (fun u hu => hvalid u (mem_listedTemplates.mpr hu)) ?_ ((newNames_before_iff hsplit).mp hnew)⟩
    rw [contextTaken_iff hsplit]
    by_contra hfree
    rw [not_or] at hfree
    refine hbreak ?_
    rw [List.map_append, List.map_singleton]
    exact newNames_concat.mpr ⟨hnew, hfree⟩

/-- A file built from objects and templates declares all of them. -/
theorem builtFrom_declaresAll (objects : List Object) (options : Options) :
    DeclaresAll objects options
      (builtFrom objects (wantedTemplates objects options)).file where
  markers := rfl
  markerBodies := by
    intro d hd
    obtain ⟨m, _, rfl⟩ := List.mem_map.mp hd
    rfl
  declarations := by
    refine ⟨objectDeclarations objects, _, wantedTemplates objects options, rfl, ?_,
      wantedTemplates_increasing objects options, fun t => mem_wantedTemplates, ?_⟩
    · rw [objectDeclarations, List.forall₂_map_right_iff, List.forall₂_same]
      intro o _
      by_cases hdictionary : o.isDictionary = true
      · constructor <;>
          simp [Object.declaration, hdictionary, Object.dictionaryDeclaration]
      · constructor <;>
          simp [Object.declaration, hdictionary, Object.interfaceDeclaration]
    · rw [List.map_map, List.forall₂_map_right_iff, List.forall₂_same]
      intro t _
      exact ⟨contextOf_name objects t, ⟨_, rfl⟩, rfl⟩

theorem declarable_or_firstFault (objects : List Object) (options : Options) :
    Declarable objects options ∨ ∃ error, FirstFault objects options error := by
  rcases objectsNamed_or_fault objects options with hnamed | hfault
  · exact declarable_or_fault hnamed options
  · exact Or.inr hfault

theorem declarable_of_build {objects : List Object} {options : Options} {built : Build}
    (hbuilt : build objects options = .ok built) : Declarable objects options := by
  rcases declarable_or_firstFault objects options with hdeclarable | ⟨error, hfault⟩
  · exact hdeclarable
  · rw [build_of_firstFault hfault] at hbuilt
    cases hbuilt

/-- A build makes what the objects and the templates that are asked for give. -/
theorem eq_builtFrom_of_build {objects : List Object} {options : Options} {built : Build}
    (hbuilt : build objects options = .ok built) :
    built = builtFrom objects (wantedTemplates objects options) := by
  rw [build_of_declarable (declarable_of_build hbuilt)] at hbuilt
  cases hbuilt
  rfl

theorem firstFault_of_build {objects : List Object} {options : Options} {error : BuildError}
    (herror : build objects options = .error error) : FirstFault objects options error := by
  rcases declarable_or_firstFault objects options with hdeclarable | ⟨first, hfault⟩
  · rw [build_of_declarable hdeclarable] at herror
    cases herror
  · rw [build_of_firstFault hfault] at herror
    cases herror
    exact hfault

/-- A build succeeds exactly when everything asked for can be declared, its file then declares
exactly that, and it fails with exactly the fault that is met first. -/
theorem build_outcome (objects : List Object) (options : Options) :
    ((∃ built, build objects options = .ok built) ↔ Declarable objects options) ∧
    (∀ built, build objects options = .ok built → DeclaresAll objects options built.file) ∧
    (∀ error, build objects options = .error error ↔ FirstFault objects options error) := by
  refine ⟨⟨?_, fun h => ⟨_, build_of_declarable h⟩⟩, ?_, fun error => ?_⟩
  · rintro ⟨built, hbuilt⟩
    exact declarable_of_build hbuilt
  · intro built hbuilt
    rw [build_of_declarable (declarable_of_build hbuilt)] at hbuilt
    cases hbuilt
    exact builtFrom_declaresAll objects options
  · exact ⟨firstFault_of_build, build_of_firstFault⟩

end Typings

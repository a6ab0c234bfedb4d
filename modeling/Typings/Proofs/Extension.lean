import Typings.Proofs.FileBlocks

/-! # Extending the input

Further objects behind those of a documentation, and the contexts of its templates, come after
everything else: their names are looked at when all earlier names are declared, and their
declarations are written behind all earlier text. They can only add text at the end, and they cannot
hide a fault that is met without them.
-/

namespace Typings

open Docs

variable {objects more : List Object} {options : Options}

/-! ## Names -/

theorem ObjectsNamed.of_append (hnamed : ObjectsNamed (objects ++ more)) :
    ObjectsNamed objects where
  valid := fun o ho => hnamed.valid o (List.mem_append_left _ ho)
  distinct := by
    have hdistinct := hnamed.distinct
    rw [List.map_append] at hdistinct
    exact hdistinct.of_append_left
  unmarked := fun o ho => hnamed.unmarked o (List.mem_append_left _ ho)

/-- What can be declared with more objects and with contexts can be declared without them. -/
theorem Declarable.of_append (hdeclarable : Declarable (objects ++ more) options) :
    Declarable objects {} where
  objectsNamed := hdeclarable.objectsNamed.of_append
  contextsNamed := fun hwanted => by cases hwanted

/-- The first fault of objects is the first fault with more objects and with contexts, too. -/
theorem FirstFault.extend {error : BuildError} (hfault : FirstFault objects {} error)
    (more : List Object) (options : Options) : FirstFault (objects ++ more) options error := by
  cases hfault with
  | objectInvalid before o after hsplit hnamed hinvalid =>
      exact .objectInvalid before o (after ++ more) (by simp [hsplit]) hnamed hinvalid
  | objectTaken before o after hsplit hnamed hvalid htaken =>
      exact .objectTaken before o (after ++ more) (by simp [hsplit]) hnamed hvalid htaken
  | contextInvalid _ hwanted => cases hwanted
  | contextTaken _ hwanted => cases hwanted

/-! ## Builds -/

/-- The text of a file begins with the text for the first of its objects. -/
theorem builtFrom_text_append (objects more : List Object) (templates : List String) :
    ∃ tail, (builtFrom (objects ++ more) templates).file.text =
      (builtFrom objects []).file.text ++ tail := by
  have hdeclarations : (builtFrom (objects ++ more) templates).file.declarations =
      (builtFrom objects []).file.declarations ++ (objectDeclarations more ++
        (templates.map (contextOf (objects ++ more))).map Context.declaration) := by
    simp [builtFrom, objectDeclarations]
  rw [builtFrom_text, builtFrom_text, hdeclarations, blocksText_append, ← String.append_assoc]
  exact ⟨_, rfl⟩

theorem build_of_extended {built : Build} (hbuilt : build (objects ++ more) options = .ok built) :
    ∃ tail, build objects {} = .ok (builtFrom objects []) ∧
      built.file.text = (builtFrom objects []).file.text ++ tail := by
  obtain ⟨tail, htail⟩ := builtFrom_text_append objects more
    (wantedTemplates (objects ++ more) options)
  rw [← eq_builtFrom_of_build hbuilt] at htail
  exact ⟨tail, build_of_declarable (declarable_of_build hbuilt).of_append, htail⟩

theorem build_extended_error {error : BuildError} (herror : build objects {} = .error error)
    (more : List Object) (options : Options) : build (objects ++ more) options = .error error :=
  build_of_firstFault ((firstFault_of_build herror).extend more options)

theorem render_eq (objects : List Object) :
    render objects = (build objects {}).map (·.file.text) := by
  rw [render]
  cases build objects {} <;> rfl

/-- Output only grows at its end. More objects behind a documentation leave its text as the
beginning of theirs and its error as their error. The same holds of asking for contexts, which
leaves all numbers but that of the contexts as they are. -/
theorem output_grows :
    (∀ objects more text, render (objects ++ more) = .ok text →
      ∃ front tail, render objects = .ok front ∧ text = front ++ tail) ∧
    (∀ objects more error, render objects = .error error →
      render (objects ++ more) = .error error) ∧
    (∀ objects error, build objects { templateContexts := false } = .error error →
      build objects { templateContexts := true } = .error error) ∧
    ∀ objects built, build objects { templateContexts := true } = .ok built →
      ∃ bare tail, build objects { templateContexts := false } = .ok bare ∧
        built.file.text = bare.file.text ++ tail ∧
        bare.stats = { built.stats with contexts := 0 } := by
  refine ⟨fun objects more text htext => ?_, fun objects more error herror => ?_,
    fun objects error herror => ?_, fun objects built hbuilt => ?_⟩
  · rw [render_eq] at htext
    cases hbuilt : build (objects ++ more) {} with
    | error error =>
        rw [hbuilt] at htext
        cases htext
    | ok built =>
        rw [hbuilt] at htext
        cases htext
        obtain ⟨tail, hbare, htail⟩ := build_of_extended hbuilt
        refine ⟨_, tail, ?_, htail⟩
        rw [render_eq, hbare]
        rfl
  · rw [render_eq] at herror ⊢
    cases hbuilt : build objects {} with
    | error fault =>
        rw [hbuilt] at herror
        rw [build_extended_error hbuilt more]
        exact herror
    | ok built =>
        rw [hbuilt] at herror
        cases herror
  · have hextended := build_extended_error herror [] { templateContexts := true }
    rwa [List.append_nil] at hextended
  · have heq := eq_builtFrom_of_build hbuilt
    rw [← List.append_nil objects] at hbuilt
    obtain ⟨tail, hbare, htail⟩ := build_of_extended hbuilt
    refine ⟨_, tail, hbare, htail, ?_⟩
    rw [heq]
    rfl

/-- An object and a collection of two templates. -/
def shortDocumentation : List Object :=
  [{ name := "shop", summary := some "The shop." },
   { name := "all_products"
     access := some { global := some true, template := some ["index", "cart"] }
     returnType := some [{ type := "array", arrayValue := "product" }] }]

theorem output_grows_short :
    (∃ text front tail,
      render (shortDocumentation ++ [{ name := "product" }]) = .ok text ∧
      render shortDocumentation = .ok front ∧ text = front ++ tail) ∧
    (∃ error, render (shortDocumentation ++ [{ name := "Shop" }]) = .error error ∧
      render (shortDocumentation ++ [{ name := "Shop" }] ++ [{ name := "" }]) = .error error) ∧
    (∃ error, build [{ name := "" }] { templateContexts := false } = .error error ∧
      build [{ name := "" }] { templateContexts := true } = .error error) ∧
    ∃ built bare tail, build shortDocumentation { templateContexts := true } = .ok built ∧
      build shortDocumentation { templateContexts := false } = .ok bare ∧
      built.file.text = bare.file.text ++ tail ∧
      bare.stats = { built.stats with contexts := 0 } := by
  obtain ⟨hlonger, hfault, hcontextFault, hcontexts⟩ := output_grows
  refine ⟨?_, ?_, ?_, ?_⟩
  · obtain ⟨built, hbuilt⟩ := exists_built (show
      (build (shortDocumentation ++ [{ name := "product" }]) {}).isOk = true by decide +kernel)
    have htext := render_eq (shortDocumentation ++ [{ name := "product" }])
    rw [hbuilt] at htext
    obtain ⟨front, tail, hfront, htail⟩ := hlonger _ _ _ htext
    exact ⟨_, front, tail, htext, hfront, htail⟩
  · have herror : render (shortDocumentation ++ [{ name := "Shop" }]) =
        .error (.duplicateName "Shop" "Shop") := by decide +kernel
    exact ⟨_, herror, hfault _ _ _ herror⟩
  · have hnamed : ObjectsNamed [] := ⟨by simp, List.nodup_nil, by simp⟩
    have herror : build [{ name := "" }] { templateContexts := false } = .error _ :=
      build_of_firstFault (.objectInvalid [] { name := "" } [] rfl hnamed (by decide +kernel))
    exact ⟨_, herror, hcontextFault _ _ herror⟩
  · obtain ⟨built, hbuilt⟩ := exists_built (show
      (build shortDocumentation { templateContexts := true }).isOk = true by decide +kernel)
    obtain ⟨bare, tail, hbare, htail, hstats⟩ := hcontexts _ _ hbuilt
    exact ⟨built, bare, tail, hbuilt, hbare, htail, hstats⟩

end Typings

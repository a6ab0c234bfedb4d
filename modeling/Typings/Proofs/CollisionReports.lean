import Typings.Proofs.BuildOutcome
import Typings.Proofs.ContextNames
import Typings.Proofs.Success

/-! # Reports of collisions

A build that stops at a type name that is declared already reports what asks for the name beside the
name itself. Objects are reported by their documented names. The context of a template is reserved
under its own name, so the report has this name twice and the template is not in it.
-/

namespace Typings

open Docs

/-- Something documented gives a type name that is declared before its turn: an object, where a
marker or an earlier object has the name, or a listed template, where a marker, an object or an
earlier template has it. -/
inductive DocumentedCollision (objects : List Object) (options : Options) :
    String → String → Prop
  | object (before : List Object) (o : Object) (after : List Object)
      (split : objects = before ++ o :: after) (taken : Taken before (typeName o.name)) :
      DocumentedCollision objects options o.name (typeName o.name)
  | template (t : String) (wanted : options.templateContexts = true) (listed : Listed objects t)
      (taken : ContextTaken objects t) : DocumentedCollision objects options t (contextName t)

theorem DocumentedCollision.documented {objects : List Object} {options : Options}
    {name declared : String} (hcollision : DocumentedCollision objects options name declared) :
    (∃ o ∈ objects, o.name = name) ∨ Listed objects name := by
  cases hcollision with
  | object before o after hsplit htaken => exact .inl ⟨o, by simp [hsplit], rfl⟩
  | template t hwanted hlisted htaken => exact .inr hlisted

/-- Objects that can all be declared do not collide among themselves. -/
theorem ObjectsNamed.not_taken {before after : List Object} {o : Object}
    (hnamed : ObjectsNamed (before ++ o :: after)) : ¬ Taken before (typeName o.name) := by
  rintro (hmarked | ⟨other, hother, heq⟩)
  · exact hnamed.unmarked o (by simp) hmarked
  · have hdistinct := hnamed.distinct
    rw [List.map_append, List.nodup_append] at hdistinct
    exact hdistinct.2.2 _ (List.mem_map_of_mem hother) _ (by simp) heq

/-- Beside objects that can all be declared only the contexts of templates collide, and no template
is called like its context. -/
theorem DocumentedCollision.name_ne {objects : List Object} {options : Options}
    {name declared : String} (hcollision : DocumentedCollision objects options name declared)
    (hnamed : ObjectsNamed objects)
    (hvalid : ∀ t, Listed objects t → isTypeName (contextName t) = true) : name ≠ declared := by
  cases hcollision with
  | object before o after hsplit htaken =>
      rw [hsplit] at hnamed
      exact absurd htaken hnamed.not_taken
  | template _ hwanted hlisted htaken => exact (contextName_ne_self (hvalid _ hlisted)).symm

/-- A build that reports a collision has met one of something documented. The report names what
collides exactly if the objects cannot all be declared, and repeats the type name otherwise. -/
theorem collision_report {objects : List Object} {options : Options} {name declared : String}
    (herror : build objects options = .error (.duplicateName name declared)) :
    (∃ culprit, DocumentedCollision objects options culprit declared) ∧
    (DocumentedCollision objects options name declared ↔ ¬ ObjectsNamed objects) ∧
    (ObjectsNamed objects → name = declared) := by
  cases firstFault_of_build herror with
  | objectTaken before o after hsplit hnamed hvalid htaken =>
      have hcollision : DocumentedCollision objects options o.name (typeName o.name) :=
        .object before o after hsplit htaken
      have hclash : ¬ ObjectsNamed objects := by
        rw [hsplit]
        exact fun hall => hall.not_taken htaken
      exact ⟨⟨_, hcollision⟩, iff_of_true hcollision hclash, fun hall => absurd hall hclash⟩
  | contextTaken t hwanted hnamed hlisted hvalid htaken hfirst =>
      refine ⟨⟨t, .template t hwanted hlisted htaken⟩, ?_, fun _ => rfl⟩
      exact iff_of_false (fun hcollision => hcollision.name_ne hnamed hvalid rfl)
        (not_not_intro hnamed)

/-- Two gift cards, the second with an underscore more. -/
def twoGiftCards : List Object := [{ name := "gift_card" }, { name := "gift__card" }]

theorem collision_report_gift_cards :
    build twoGiftCards ⟨true⟩ = .error (.duplicateName "gift__card" "GiftCard") ∧
    DocumentedCollision twoGiftCards ⟨true⟩ "gift__card" "GiftCard" := by
  have herror : build twoGiftCards ⟨true⟩ = .error (.duplicateName "gift__card" "GiftCard") :=
    map_eq_error.mp (show Except.map (·.stats) _ = _ by decide +kernel)
  obtain ⟨_, hnames, _⟩ := collision_report herror
  refine ⟨herror, hnames.mpr fun hnamed => ?_⟩
  exact absurd hnamed.distinct (by decide +kernel)

/-- The context of a cart as an object, and an object of the template `cart`. -/
def cartContexts : List Object :=
  [{ name := "cart_context" },
    { name := "line_item", access := some { template := some ["cart"] } }]

/-- The template `cart` collides with the first object, and the report names nothing that is
documented. -/
theorem template_not_reported :
    build cartContexts ⟨true⟩ = .error (.duplicateName "CartContext" "CartContext") ∧
    DocumentedCollision cartContexts ⟨true⟩ "cart" "CartContext" ∧
    (∀ o ∈ cartContexts, o.name ≠ "CartContext" ∧ "CartContext" ∉ o.templates) ∧
    ¬ DocumentedCollision cartContexts ⟨true⟩ "CartContext" "CartContext" := by
  have herror : build cartContexts ⟨true⟩ = .error (.duplicateName "CartContext" "CartContext") :=
    map_eq_error.mp (show Except.map (·.stats) _ = _ by decide +kernel)
  have hforeign : ∀ o ∈ cartContexts, o.name ≠ "CartContext" ∧ "CartContext" ∉ o.templates := by
    decide
  have hcontext : contextName "cart" = "CartContext" := by decide +kernel
  have hcollision : DocumentedCollision cartContexts ⟨true⟩ "cart" (contextName "cart") := by
    refine .template "cart" rfl ⟨cartContexts[1], by simp [cartContexts], by decide⟩ ?_
    exact .inl (.inr ⟨cartContexts[0], by simp [cartContexts], by decide +kernel⟩)
  refine ⟨herror, hcontext ▸ hcollision, hforeign, fun hreported => ?_⟩
  obtain ⟨o, ho, hname⟩ | ⟨o, ho, hlists⟩ := hreported.documented
  · exact (hforeign o ho).1 hname
  · exact (hforeign o ho).2 hlists

end Typings

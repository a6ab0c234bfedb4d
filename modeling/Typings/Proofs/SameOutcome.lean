import Mathlib.Data.List.Forall2
import Typings.Proofs.BuildOutcome

/-! # What decides the outcome

Of an object, only its name and its access have a part in whether a documentation can be declared,
in the fault that is reported and in the names that are declared. Two documentations that agree on
these are built side by side, each step with the same outcome in both.
-/

namespace Typings

open Docs

/-- Both computations fail with the same error, or both give values, which are then related. -/
inductive SameOutcome {ε α β : Type} (related : α → β → Prop) : Except ε α → Except ε β → Prop
  | value {a : α} {b : β} (h : related a b) : SameOutcome related (.ok a) (.ok b)
  | fault (error : ε) : SameOutcome related (.error error) (.error error)

namespace SameOutcome

variable {ε α β γ δ : Type}

theorem refl (result : Except ε α) : SameOutcome Eq result result := by
  cases result with
  | error error => exact .fault error
  | ok a => exact .value rfl

/-- Steps with the same outcome on related values keep the outcome the same. -/
theorem bind {related : α → β → Prop} {relatedNext : γ → δ → Prop} {first : Except ε α}
    {second : Except ε β} {firstNext : α → Except ε γ} {secondNext : β → Except ε δ}
    (h : SameOutcome related first second)
    (hnext : ∀ a b, related a b → SameOutcome relatedNext (firstNext a) (secondNext b)) :
    SameOutcome relatedNext (first >>= firstNext) (second >>= secondNext) := by
  cases h with
  | fault error => exact .fault error
  | value h => exact hnext _ _ h

theorem value_right {related : α → β → Prop} {a : α} {second : Except ε β}
    (h : SameOutcome related (.ok a) second) : ∃ b, second = .ok b ∧ related a b := by
  cases h with
  | value h => exact ⟨_, rfl, h⟩

theorem fault_right {related : α → β → Prop} {error : ε} {second : Except ε β}
    (h : SameOutcome related (.error error) second) : second = .error error := by
  cases h with
  | fault => rfl

theorem value_left {related : α → β → Prop} {first : Except ε α} {b : β}
    (h : SameOutcome related first (.ok b)) : ∃ a, first = .ok a ∧ related a b := by
  cases h with
  | value h => exact ⟨_, rfl, h⟩

end SameOutcome

/-! ## Objects -/

/-- The objects have one name and one access. -/
structure AddressedAlike (first second : Object) : Prop where
  name : first.name = second.name
  access : first.access = second.access

theorem AddressedAlike.templates {first second : Object} (h : AddressedAlike first second) :
    first.templates = second.templates := by
  simp only [Object.templates, h.access]

theorem AddressedAlike.isGlobal {first second : Object} (h : AddressedAlike first second) :
    first.isGlobal = second.isGlobal := by
  simp only [Object.isGlobal, h.access]

theorem AddressedAlike.checkedTypeName {first second : Object}
    (h : AddressedAlike first second) : first.checkedTypeName = second.checkedTypeName := by
  simp only [Object.checkedTypeName, h.name]

theorem object_declaration_name (name : String) (o : Object) : (o.declaration name).name = name := by
  unfold Object.declaration
  split <;> rfl

section Alike

variable {first second : List Object}

theorem listedTemplates_alike (h : List.Forall₂ AddressedAlike first second) :
    listedTemplates first = listedTemplates second := by
  unfold listedTemplates
  congr 1
  induction h with
  | nil => rfl
  | cons hhead _ ih => rw [List.flatMap_cons, List.flatMap_cons, hhead.templates, ih]

theorem wantedTemplates_alike (h : List.Forall₂ AddressedAlike first second)
    (options : Options) : wantedTemplates first options = wantedTemplates second options := by
  simp only [wantedTemplates, listedTemplates_alike h]

theorem objectsIn_alike (h : List.Forall₂ AddressedAlike first second) (template : String) :
    Context.objectsIn first template = Context.objectsIn second template := by
  unfold Context.objectsIn
  congr 1
  induction h with
  | nil => rfl
  | cons hhead _ ih =>
      simp only [List.filter_cons, hhead.templates, hhead.isGlobal]
      split
      · rw [List.map_cons, List.map_cons, hhead.name, ih]
      · exact ih

theorem contextOf_alike (h : List.Forall₂ AddressedAlike first second) :
    contextOf first = contextOf second := by
  funext template
  rw [contextOf, objectsIn_alike h, contextOf]

/-! ## Builds -/

/-- The same names are declared, in the same order, or the same object is at fault. -/
theorem declareObjects_alike (h : List.Forall₂ AddressedAlike first second)
    (declared : List String) :
    SameOutcome (fun a b => a.1.map (·.name) = b.1.map (·.name) ∧ a.2 = b.2)
      (declareObjects declared first) (declareObjects declared second) := by
  -- Both runs have declared the same names whenever they come to the next two objects.
  induction h generalizing declared with
  | nil => exact .value ⟨rfl, rfl⟩
  | cons hhead _ ih =>
      rw [declareObjects, declareObjects, hhead.checkedTypeName, hhead.name]
      apply (SameOutcome.refl _).bind
      rintro name _ rfl
      apply (SameOutcome.refl _).bind
      rintro declared _ rfl
      apply (ih declared).bind
      rintro ⟨declarations, declared⟩ ⟨others, _⟩ ⟨hnames, rfl⟩
      refine .value ⟨?_, rfl⟩
      rw [List.map_cons, List.map_cons, object_declaration_name, object_declaration_name, hnames]

/-- The files declare the same names in the same order. -/
def DeclareSameNames (first second : Build) : Prop :=
  first.file.declarations.map (·.name) = second.file.declarations.map (·.name)

/-- Documentations that agree on the name and the access of every object have the same outcome:
both can be built, into files with the same names, or both fail with the same error. -/
theorem build_alike (h : List.Forall₂ AddressedAlike first second) (options : Options) :
    SameOutcome DeclareSameNames (build first options) (build second options) := by
  rw [build_steps, build_steps, wantedTemplates_alike h, contextOf_alike h]
  apply (declareObjects_alike h _).bind
  rintro ⟨declarations, declared⟩ ⟨others, _⟩ ⟨hnames, rfl⟩
  apply (SameOutcome.refl _).bind
  rintro contexts _ rfl
  apply (SameOutcome.refl _).bind
  rintro _ _ _
  apply SameOutcome.value
  simp only [DeclareSameNames, List.map_append, hnames]

/-- Whether a documentation can be declared is a matter of names and access. -/
theorem declarable_alike (h : List.Forall₂ AddressedAlike first second) {options : Options} :
    Declarable first options ↔ Declarable second options := by
  have hsame := build_alike h options
  constructor
  · intro hfirst
    rw [build_of_declarable hfirst] at hsame
    obtain ⟨_, hsecond, _⟩ := hsame.value_right
    exact declarable_of_build hsecond
  · intro hsecond
    rw [build_of_declarable hsecond] at hsame
    obtain ⟨_, hfirst, _⟩ := hsame.value_left
    exact declarable_of_build hfirst

end Alike

end Typings

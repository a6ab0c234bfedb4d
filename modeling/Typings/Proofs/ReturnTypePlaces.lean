import Typings.Proofs.TypeShapes
import Typings.Proofs.TypeWords

/-! # Return types in different places

A return type can be the only one of a property, one of several, or that of a collection. It stands
for the same type wherever it is, with three exceptions. Among several return types, a literal and a
literal name without a shape stand for themselves, and arrays have scalars for elements; alone, a
literal is taken for no type, and the elements of arrays are always declared.
-/

namespace Typings

open Docs

/-- The return type stands for one type among others and for another one alone. -/
inductive DependsOnPlace (rt : ReturnType) : Prop
  | literal (value : String) (kind : LiteralKind) (shape : classify rt = .enumeration value kind)
  | scalars (kind : Primitive) (isArray : rt.type = some "array")
      (element : rt.arrayValue = some kind.name)
  | token (name : String) (shape : classify rt = .unrecognized) (named : rt.nameText = some name)
      (spelled : isIdentifier name = true ∨ isNumericLiteral name = true)

/-- The member of a union at a position. -/
def Ty.memberAt? (t : Ty) (i : Nat) : Option Ty :=
  match t with
  | .union members => members[i]?
  | _ => none

theorem classify_isArray {rt : ReturnType} {element : Option String}
    (hclass : classify rt = .array element) : rt.type = some "array" := by
  unfold classify at hclass
  grind

theorem ofName?_name (kind : Primitive) : Primitive.ofName? kind.name = some kind := by
  cases kind <;> decide

theorem classify_scalars {rt : ReturnType} {kind : Primitive} (htype : rt.type = some "array")
    (helement : rt.arrayValue = some kind.name) : classify rt = .array (some kind.name) := by
  have hink : Text.hasInk kind.name.toList = true := by cases kind <;> decide
  simp [classify, htype, helement, hink]

theorem referenceTo_ne_primitive (documented : String) (kind : Primitive) :
    referenceTo documented ≠ .primitive kind := by
  have hshape := referenceTo_shape documented
  generalize referenceTo documented = t at hshape
  cases hshape <;> simp

/-- A return type stands for the same type alone and among others unless it depends on its place. -/
theorem unionMember_eq_singleType_iff (rt : ReturnType) :
    unionMember rt = singleType rt ↔ ¬ DependsOnPlace rt := by
  constructor
  · intro hsame hplace
    cases hplace with
    | literal value kind hclass => cases kind <;> simp [unionMember, singleType, hclass] at hsame
    | scalars kind htype helement =>
        have hclass := classify_scalars htype helement
        have hne := referenceTo_ne_primitive kind.name kind
        simp only [unionMember, singleType, hclass, ofName?_name, arrayOf, Ty.array.injEq] at hsame
        exact hne hsame.symm
    | token name hclass hname hspelled =>
        have hbare : isBareToken name = true := Bool.or_eq_true_iff.mpr hspelled
        rw [unionMember_bare hclass hname hbare] at hsame
        simp [singleType, hclass] at hsame
  · intro hplace
    unfold unionMember singleType
    cases hclass : classify rt with
    | enumeration value kind => exact absurd (.literal value kind hclass) hplace
    | other type => rfl
    | array element =>
        cases element with
        | none => rfl
        | some word =>
            cases hkind : Primitive.ofName? word with
            | none => simp only [hkind]
            | some kind =>
                rw [ofName?_eq_some hkind] at hclass
                have helement := classify_array hclass kind.name rfl
                exact absurd (.scalars kind (classify_isArray hclass) helement) hplace
    | unrecognized =>
        cases hname : rt.nameText with
        | none => rfl
        | some token =>
            have hbare : ¬ isBareToken token = true := fun hbare =>
              hplace (.token token hclass hname (Bool.or_eq_true_iff.mp hbare))
            simp [hbare]

theorem memberAt?_typeOf {rts : List ReturnType} (hseveral : 2 ≤ rts.length) (i : Nat) :
    (typeOf rts).memberAt? i = rts[i]?.map unionMember := by
  rcases rts with _ | ⟨rt, _ | ⟨second, rest⟩⟩
  · simp at hseveral
  · simp at hseveral
  · exact List.getElem?_map

theorem dictionaryType_eq_singleType {o : Object} {rt : ReturnType}
    (hfirst : o.returnTypes.head? = some rt) (harray : (classify rt).isArray = true) :
    o.dictionaryType = singleType rt := by
  unfold Object.dictionaryType singleType
  rw [hfirst, Option.map_some]
  cases hclass : classify rt <;> simp_all [Shape.isArray]

/-- Collections are declared as what their return type stands for alone. A member of a union is
decided by its own return type, and it is what this return type stands for alone exactly if the
return type does not depend on its place. -/
theorem return_type_places :
    (∀ (o : Object) (p : Property) (rt : ReturnType), o.returnTypes.head? = some rt →
      (classify rt).isArray = true → p.returnTypes = [rt] →
      ∀ name, (o.dictionaryDeclaration name).body = .synonym p.type) ∧
    ∀ (p : Property) (i : Nat) (rt : ReturnType), 2 ≤ p.returnTypes.length →
      p.returnTypes[i]? = some rt → ∃ member, p.type.memberAt? i = some member ∧
        (∀ (q : Property) (j : Nat), 2 ≤ q.returnTypes.length → q.returnTypes[j]? = some rt →
          q.type.memberAt? j = some member) ∧
        ∀ q : Property, q.returnTypes = [rt] → (member = q.type ↔ ¬ DependsOnPlace rt) := by
  refine ⟨fun o p rt hfirst harray hp name => ?_, fun p i rt hseveral hrt => ?_⟩
  · have hsingle : p.type = singleType rt := by rw [Property.type, hp, typeOf]
    rw [hsingle, ← dictionaryType_eq_singleType hfirst harray]
    rfl
  · have hmember : ∀ (q : Property) (j : Nat), 2 ≤ q.returnTypes.length →
        q.returnTypes[j]? = some rt → q.type.memberAt? j = some (unionMember rt) := by
      intro q j hseveral hrt
      rw [Property.type, memberAt?_typeOf hseveral, hrt, Option.map_some]
    refine ⟨unionMember rt, hmember p i hseveral hrt, hmember, fun q hq => ?_⟩
    rw [Property.type, hq, typeOf]
    exact unionMember_eq_singleType_iff rt

/-- The property has the return type and no other. -/
def onlyProperty (rt : ReturnType) : Property where
  name := "value"
  returnType := some [rt]

/-- An array of products is the same array everywhere, and an array of strings is not. -/
theorem return_type_places_arrays :
    let products : ReturnType := { type := some "array", arrayValue := some "product" }
    let strings : ReturnType := { type := some "array", arrayValue := some "string" }
    let both : Property := { returnType := some [strings, products] }
    (productCollection.dictionaryDeclaration "AllProducts").body =
      .synonym (onlyProperty products).type ∧
    both.type.memberAt? 1 = some (onlyProperty products).type ∧
    ∃ member, both.type.memberAt? 0 = some member ∧ member ≠ (onlyProperty strings).type := by
  intro products strings both
  obtain ⟨hcollection, hunion⟩ := return_type_places
  obtain ⟨product, hproduct, _, hsame⟩ := hunion both 1 products (by decide) rfl
  obtain ⟨string, hstring, _, hother⟩ := hunion both 0 strings (by decide) rfl
  refine ⟨hcollection productCollection _ products rfl (by decide) rfl _, ?_, string, hstring, ?_⟩
  · rw [hproduct, (hsame (onlyProperty products) rfl).mpr]
    have hclass : classify products = .array (some "product") := by decide
    rintro (⟨_, _, hliteral⟩ | ⟨kind, _, helement⟩ | ⟨_, htoken, _, _⟩)
    · cases hclass.symm.trans hliteral
    · cases kind <;> exact absurd helement (by decide)
    · cases hclass.symm.trans htoken
  · intro hequal
    exact (hother (onlyProperty strings) rfl).mp hequal (.scalars .string rfl rfl)

end Typings

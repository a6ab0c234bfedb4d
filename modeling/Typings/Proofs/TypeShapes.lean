import Typings.Proofs.Counting
import Typings.Proofs.Spelling

/-! # Shapes of documented types

What a list of return types can stand for: a marker where nothing is documented, one type that is
neither a literal nor a union, or a flat union with a member for every return type. The names in it
are made of documented words and can be declared; only a member of a union may be a literal name
that stands as it is.
-/

namespace Typings

open Docs

/-- The name is made of the documented word, and it can be declared. -/
def NamedAfter (word : Option String) (name : String) : Prop :=
  isTypeName name = true ∧ ∃ documented, word = some documented ∧ name = typeName documented

/-- What a documented word can stand for as the name of a type: a reference or a marker. -/
inductive ReferenceShape (word : Option String) : Ty → Prop
  | reference (name : String) (named : NamedAfter word name) : ReferenceShape word (.reference name)
  | marker (gap : Marker) : ReferenceShape word (.marker gap)

/-- What a return type can stand for on its own. -/
inductive SingleShape (rt : ReturnType) : Ty → Prop
  | primitive (kind : Primitive) (documented : rt.type = some kind.name) :
      SingleShape rt (.primitive kind)
  | named (t : Ty) (shape : ReferenceShape rt.type t) : SingleShape rt t
  | array (element : Ty) (shape : ReferenceShape rt.arrayValue element) :
      SingleShape rt (.array element)

/-- What a return type can stand for beside others. Literals, arrays of scalars and literal names
stand in unions only. -/
inductive MemberShape (rt : ReturnType) : Ty → Prop
  | single (t : Ty) (shape : SingleShape rt t) : MemberShape rt t
  | scalars (kind : Primitive) (documented : rt.arrayValue = some kind.name) :
      MemberShape rt (.array (.primitive kind))
  | text (value : String) (documented : rt.nameText = some value) :
      MemberShape rt (.literal (.string value))
  | number (spelling : String) (documented : rt.nameText = some spelling)
      (numeric : isNumericLiteral spelling = true) : MemberShape rt (.literal (.number spelling))
  | token (name : String) (documented : rt.nameText = some name)
      (spelled : isIdentifier name = true ∨ isNumericLiteral name = true) :
      MemberShape rt (.reference name)

/-- What a list of return types can stand for. The members of a union are those of its return types,
in their order. -/
inductive TypeShape : List ReturnType → Ty → Prop
  | undocumented : TypeShape [] (.marker .missingData)
  | single (rt : ReturnType) (t : Ty) (shape : SingleShape rt t) : TypeShape [rt] t
  | union (rts : List ReturnType) (several : 2 ≤ rts.length)
      (shapes : ∀ rt ∈ rts, MemberShape rt (unionMember rt)) :
      TypeShape rts (.union (rts.map unionMember))

/-! ## Classification -/

theorem classify_array {rt : ReturnType} {element : Option String}
    (hclass : classify rt = .array element) (word : String) (hword : element = some word) :
    rt.arrayValue = some word := by
  unfold classify at hclass
  grind [Option.filter_eq_some_iff]

theorem classify_other {rt : ReturnType} {type : String} (hclass : classify rt = .other type) :
    rt.type = some type := by
  unfold classify at hclass
  grind

theorem classify_enumeration {rt : ReturnType} {literal : String} {kind : LiteralKind}
    (hclass : classify rt = .enumeration literal kind) : rt.nameText = some literal := by
  unfold classify at hclass
  grind

/-! ## Types -/

theorem referenceTo_shape (documented : String) :
    ReferenceShape (some documented) (referenceTo documented) := by
  simp only [referenceTo]
  split
  next hname => exact .reference _ ⟨hname, documented, rfl, rfl⟩
  next => exact .marker _

/-- Elements have their name from the documented word, if there is one at all. -/
theorem arrayOf_shape {element word : Option String}
    (hword : ∀ documented, element = some documented → word = some documented) :
    ∃ t, arrayOf element = .array t ∧ ReferenceShape word t := by
  cases element with
  | none => exact ⟨_, rfl, .marker _⟩
  | some documented =>
      rw [hword documented rfl]
      exact ⟨_, rfl, referenceTo_shape documented⟩

theorem plainType_shape {rt : ReturnType} {type : String} (htype : rt.type = some type) :
    SingleShape rt (plainType type) := by
  unfold plainType
  split
  next kind hkind => exact .primitive kind (by rw [htype, ofName?_eq_some hkind])
  split
  next => exact .named _ (.marker _)
  next =>
    refine .named _ ?_
    rw [htype]
    exact referenceTo_shape type

theorem singleType_shape (rt : ReturnType) : SingleShape rt (singleType rt) := by
  unfold singleType
  split
  next element hclass =>
    obtain ⟨t, harray, hshape⟩ := arrayOf_shape (classify_array hclass)
    rw [harray]
    exact .array t hshape
  next type hclass => exact plainType_shape (classify_other hclass)
  -- a literal on its own is taken for no type, like a return type without a shape
  next => exact .named _ (.marker _)
  next => exact .named _ (.marker _)

theorem unionMember_shape (rt : ReturnType) : MemberShape rt (unionMember rt) := by
  unfold unionMember
  split
  next hclass => exact .text _ (classify_enumeration hclass)
  next hclass => exact .number _ (classify_enumeration hclass) (classify_number hclass)
  next element hclass =>
    split
    next kind hkind =>
      refine .scalars kind ?_
      rw [classify_array hclass element rfl, ofName?_eq_some hkind]
    next =>
      obtain ⟨t, harray, hshape⟩ := arrayOf_shape (classify_array hclass)
      rw [harray]
      exact .single _ (.array t hshape)
  next => exact .single _ (.array _ (.marker _))
  next type hclass => exact .single _ (plainType_shape (classify_other hclass))
  next =>
    split
    next token hname =>
      split
      next hbare => exact .token token hname (Bool.or_eq_true_iff.mp hbare)
      next => exact .single _ (.named _ (.marker _))
    next => exact .single _ (.named _ (.marker _))

theorem typeOf_shape (rts : List ReturnType) : TypeShape rts (typeOf rts) := by
  rcases rts with _ | ⟨rt, _ | ⟨second, rest⟩⟩
  · exact .undocumented
  · exact .single rt _ (singleType_shape rt)
  · exact .union _ (by simp) fun rt _ => unionMember_shape rt

theorem dictionaryType_shape (o : Object) :
    ∃ element, o.dictionaryType = .array element ∧
      ReferenceShape (o.returnTypes.head?.bind (·.arrayValue)) element := by
  unfold Object.dictionaryType
  split
  next element hclass =>
    obtain ⟨rt, hrt, hclass⟩ := Option.map_eq_some_iff.mp hclass
    rw [hrt]
    exact arrayOf_shape (classify_array hclass)
  next => exact ⟨_, rfl, .marker _⟩

/-! ## Unions -/

section Unions

variable {rt : ReturnType} {t : Ty}

theorem ReferenceShape.nodes {word : Option String} (hshape : ReferenceShape word t) :
    ∀ node ∈ t.nodes, node.isUnion = false := by
  cases hshape <;> simp [Ty.nodes, Ty.isUnion]

theorem SingleShape.nodes (hshape : SingleShape rt t) : ∀ node ∈ t.nodes, node.isUnion = false := by
  cases hshape with
  | primitive kind _ => simp [Ty.nodes, Ty.isUnion]
  | named t hnamed => exact hnamed.nodes
  | array element helement => exact List.forall_mem_cons.mpr ⟨rfl, helement.nodes⟩

theorem MemberShape.nodes (hshape : MemberShape rt t) : ∀ node ∈ t.nodes, node.isUnion = false := by
  cases hshape with
  | single t hsingle => exact hsingle.nodes
  | scalars kind _ => simp [Ty.nodes, Ty.isUnion]
  | text value _ => simp [Ty.nodes, Ty.isUnion]
  | number spelling _ _ => simp [Ty.nodes, Ty.isUnion]
  | token name _ _ => simp [Ty.nodes, Ty.isUnion]

/-- A union in a type is the type itself, with a member for each of several return types and no
union in any of them. -/
structure OutermostUnion (rts : List ReturnType) (t : Ty) (members : List Ty) : Prop where
  outermost : t = .union members
  length : members.length = rts.length
  several : 2 ≤ members.length
  flat : ∀ member ∈ members, ∀ node ∈ member.nodes, node.isUnion = false

theorem TypeShape.unions {rts : List ReturnType} (hshape : TypeShape rts t) {members : List Ty}
    (hunion : .union members ∈ t.nodes) : OutermostUnion rts t members := by
  cases hshape with
  | undocumented => simp [Ty.nodes] at hunion
  | single rt t hsingle => exact absurd (hsingle.nodes _ hunion) (by simp [Ty.isUnion])
  | union rts hseveral hshapes =>
      have hflat : ∀ member ∈ rts.map unionMember, ∀ node ∈ member.nodes, node.isUnion = false :=
        List.forall_mem_map.mpr fun rt hrt => (hshapes rt hrt).nodes
      rw [Ty.nodes, Ty.nodesOfAll_eq, List.mem_cons, List.mem_flatMap] at hunion
      rcases hunion with heq | ⟨member, hmember, hnode⟩
      · obtain rfl := Ty.union.inj heq
        exact ⟨rfl, List.length_map _, by simpa using hseveral, hflat⟩
      · exact absurd (hflat member hmember _ hnode) (by simp [Ty.isUnion])

end Unions

/-- Every property has a type of the shape that its return types allow, every union in it is the
outermost type and flat, and every collection is declared as an array of references or markers. -/
theorem documented_types_shaped (p : Property) (o : Object) :
    TypeShape p.returnTypes p.type ∧
    (∀ members, .union members ∈ p.type.nodes → OutermostUnion p.returnTypes p.type members) ∧
    ∀ name, ∃ element, (o.dictionaryDeclaration name).body = .synonym (.array element) ∧
      ReferenceShape (o.returnTypes.head?.bind (·.arrayValue)) element := by
  refine ⟨typeOf_shape _, fun members => (typeOf_shape p.returnTypes).unions, fun name => ?_⟩
  obtain ⟨element, harray, helement⟩ := dictionaryType_shape o
  refine ⟨element, ?_, helement⟩
  rw [← harray]
  rfl

/-- A number, a text, an array of a scalar, an array without elements and a literal name. -/
def mixedProperty : Property where
  name := "value"
  returnType := some
    [{ type := some "number", name := some (.text "1") },
      { type := some "string", name := some (.text "none") },
      { type := some "array", arrayValue := some "string" },
      { type := some "array", arrayValue := some " " },
      { type := some "nil", name := some (.text "nil") }]

/-- A collection of products. -/
def productCollection : Object where
  name := "all_products"
  access := some { global := some true }
  returnType := some [{ type := some "array", arrayValue := some "product" }]

theorem documented_types_shaped_mixed :
    mixedProperty.type.text = "1 | \"none\" | string[] | ShopifyBug[] | nil" ∧
    TypeShape mixedProperty.returnTypes mixedProperty.type ∧
    (∃ members, Ty.union members ∈ mixedProperty.type.nodes ∧
      OutermostUnion mixedProperty.returnTypes mixedProperty.type members) ∧
    ∃ element,
      (productCollection.dictionaryDeclaration "AllProducts").body = .synonym (.array element) ∧
      ReferenceShape (some "product") element := by
  obtain ⟨hshape, hunions, hdictionary⟩ :=
    documented_types_shaped mixedProperty productCollection
  have hmember : Ty.union (mixedProperty.returnTypes.map unionMember) ∈
      mixedProperty.type.nodes := List.mem_cons_self
  exact ⟨by decide +kernel, hshape, ⟨_, hmember, hunions _ hmember⟩, hdictionary "AllProducts"⟩

end Typings

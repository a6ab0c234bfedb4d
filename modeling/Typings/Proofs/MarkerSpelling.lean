import Typings.Proofs.Counting
import Typings.Proofs.TypeWords

/-! # Words that are spelled like markers

Someone who reads the declarations takes every `Untyped`, `ShopifyBug` and `Unimplemented` in them
for a gap of the documentation, and the numbers count the markers themselves. Both agree on what is
documented as untyped, left out or unmapped. But documented names become references without a look
at the names of the markers: an array of `untyped` values, a type documented as `shopify_bug` and
a literal name `Unimplemented` give references that look like markers and are not counted.
-/

namespace Typings

open Docs

/-! ## Leaves of types -/

namespace Ty

/-- The type is written without another type inside of it. -/
def isLeaf : Ty → Bool
  | array _ => false
  | union _ => false
  | _ => true

/-- The types inside of a type that have no type inside of them, each as often as it occurs. -/
def leaves (t : Ty) : List Ty := t.nodes.filter isLeaf

theorem leaves_of_isLeaf {t : Ty} (ht : t.isLeaf = true) : t.leaves = [t] := by
  cases t <;> first | rfl | cases ht

theorem leaves_array (element : Ty) : (array element).leaves = element.leaves := by
  simp [leaves, nodes, isLeaf]

theorem leaves_union (members : List Ty) : (union members).leaves = members.flatMap leaves := by
  rw [leaves, nodes, List.filter_cons_of_neg (by simp [isLeaf]), nodesOfAll_eq,
    List.filter_flatMap]
  rfl

/-- A leaf of the type is spelled like the marker and is not the marker. -/
def Disguises (gap : Marker) (t : Ty) : Prop :=
  ∃ leaf ∈ t.leaves, leaf.text = gap.typeName ∧ leaf ≠ marker gap

variable {gap : Marker}

theorem disguises_of_isLeaf {t : Ty} (ht : t.isLeaf = true) :
    t.Disguises gap ↔ t.text = gap.typeName ∧ t ≠ marker gap := by
  simp [Disguises, leaves_of_isLeaf ht]

theorem disguises_array {element : Ty} : (array element).Disguises gap ↔ element.Disguises gap := by
  rw [Disguises, leaves_array, Disguises]

theorem disguises_union {members : List Ty} :
    (union members).Disguises gap ↔ ∃ member ∈ members, member.Disguises gap := by
  simp only [Disguises, leaves_union, List.mem_flatMap]
  tauto

theorem disguises_reference {name : String} :
    (reference name).Disguises gap ↔ name = gap.typeName := by
  simp [disguises_of_isLeaf (t := reference name) rfl, text]

theorem not_disguises_marker (m : Marker) : ¬ (marker m).Disguises gap := by
  rw [disguises_of_isLeaf rfl]
  cases m <;> cases gap <;> simp [text, Marker.typeName]

theorem not_disguises_primitive (kind : Primitive) : ¬ (primitive kind).Disguises gap := by
  rw [disguises_of_isLeaf rfl]
  cases kind <;> cases gap <;> simp [text, Primitive.name, Marker.typeName]

/-- A literal of text stands between quotes. -/
theorem not_disguises_string (value : String) : ¬ (literal (.string value)).Disguises gap := by
  rw [disguises_of_isLeaf rfl]
  rintro ⟨htext, _⟩
  have hhead := congrArg (·.toList.head?) htext
  cases gap <;> simp [text, Literal.text, quoteLiteral, Marker.typeName] at hhead

theorem not_disguises_number {spelling : String} (hnumber : isNumericLiteral spelling = true) :
    ¬ (literal (.number spelling)).Disguises gap := by
  rw [disguises_of_isLeaf rfl]
  rintro ⟨htext, _⟩
  have hname : isNumericLiteral gap.typeName = false := by cases gap <;> decide
  rw [← htext, text, Literal.text, hnumber] at hname
  cases hname

end Ty

/-! ## Documented names -/

section Names

variable {gap : Marker}

theorem isTypeName_marker (gap : Marker) : isTypeName gap.typeName = true := by
  unfold isTypeName
  cases gap <;> decide

/-- Names of scalars do not become names of markers. -/
theorem typeName_of_primitive {s : String} {kind : Primitive}
    (h : Primitive.ofName? s = some kind) : typeName s ≠ gap.typeName := by
  rw [ofName?_eq_some h]
  cases kind <;> cases gap <;> decide +kernel

theorem disguises_referenceTo {documented : String} :
    (referenceTo documented).Disguises gap ↔ typeName documented = gap.typeName := by
  simp only [referenceTo]
  split
  next _ => exact Ty.disguises_reference
  next hname =>
    refine ⟨fun h => absurd h (Ty.not_disguises_marker _), fun h => ?_⟩
    rw [h] at hname
    exact absurd (isTypeName_marker gap) hname

theorem disguises_arrayOf {element : Option String} :
    (arrayOf element).Disguises gap ↔
      ∃ name, element = some name ∧ typeName name = gap.typeName := by
  cases element with
  | none => simp [arrayOf, Ty.disguises_array, Ty.not_disguises_marker]
  | some name => simp [arrayOf, Ty.disguises_array, disguises_referenceTo]

theorem disguises_plainType {type : String} :
    (plainType type).Disguises gap ↔ type ≠ "untyped" ∧ typeName type = gap.typeName := by
  unfold plainType
  split
  next kind hkind =>
    have hname : typeName type ≠ gap.typeName := typeName_of_primitive hkind
    simp [Ty.not_disguises_primitive, hname]
  split
  next huntyped => simp [Ty.not_disguises_marker, huntyped]
  next htyped => simp [disguises_referenceTo, htyped]

/-- The return type documents a word for which the given name stands as a reference: the elements of
an array, or a plain type other than `untyped`. -/
def Docs.ReturnType.Refers (rt : ReturnType) (name : String) : Prop :=
  match classify rt with
  | .array (some element) => typeName element = name
  | .other type => type ≠ "untyped" ∧ typeName type = name
  | _ => False

instance (rt : ReturnType) (name : String) : Decidable (rt.Refers name) :=
  match h : classify rt with
  | .array (some element) =>
    decidable_of_iff (typeName element = name) (by simp [ReturnType.Refers, h])
  | .other type =>
    decidable_of_iff (type ≠ "untyped" ∧ typeName type = name) (by simp [ReturnType.Refers, h])
  | .array none => isFalse (by simp [ReturnType.Refers, h])
  | .enumeration _ _ => isFalse (by simp [ReturnType.Refers, h])
  | .unrecognized => isFalse (by simp [ReturnType.Refers, h])

theorem disguises_singleType {rt : ReturnType} :
    (singleType rt).Disguises gap ↔ rt.Refers gap.typeName := by
  unfold singleType
  split
  next element hclass => cases element <;> simp [disguises_arrayOf, ReturnType.Refers, hclass]
  next type hclass => simp [disguises_plainType, ReturnType.Refers, hclass]
  next hclass => simp [Ty.not_disguises_marker, ReturnType.Refers, hclass]
  next hclass => simp [Ty.not_disguises_marker, ReturnType.Refers, hclass]

/-- A member of a union may also be a literal name that stands as it is. -/
theorem disguises_unionMember {rt : ReturnType} :
    (unionMember rt).Disguises gap ↔ rt.Refers gap.typeName ∨
      classify rt = .unrecognized ∧ rt.nameText = some gap.typeName := by
  unfold unionMember
  split
  -- literals are no names
  next hclass => simp [Ty.not_disguises_string, ReturnType.Refers, hclass]
  next hclass =>
    simp [Ty.not_disguises_number (classify_number hclass), ReturnType.Refers, hclass]
  -- elements of scalars are kept apart only here, but their names are no marker's name anyway
  next element hclass =>
    split
    next kind hkind =>
      have hname : typeName element ≠ gap.typeName := typeName_of_primitive hkind
      simp [Ty.disguises_array, Ty.not_disguises_primitive, ReturnType.Refers, hclass, hname]
    next => simp [disguises_arrayOf, ReturnType.Refers, hclass]
  next hclass => simp [disguises_arrayOf, ReturnType.Refers, hclass]
  next type hclass => simp [disguises_plainType, ReturnType.Refers, hclass]
  next hclass =>
    simp only [ReturnType.Refers, hclass, true_and, false_or]
    split
    next token hname =>
      rw [hname, Option.some.injEq]
      split
      next => exact Ty.disguises_reference
      next hloose =>
        refine ⟨fun h => absurd h (Ty.not_disguises_marker _), fun h => ?_⟩
        rw [h] at hloose
        exact absurd (isBareToken_marker gap) hloose
    next hname => simp [Ty.not_disguises_marker, hname]

/-- Some reference that the return types give rise to is spelled like the marker. -/
def Imitated (gap : Marker) (rts : List ReturnType) : Prop :=
  (∃ rt ∈ rts, rt.Refers gap.typeName) ∨ LooseName rts gap.typeName

instance (gap : Marker) (rts : List ReturnType) : Decidable (Imitated gap rts) :=
  inferInstanceAs (Decidable (_ ∨ _ ∧ _))

theorem disguises_typeOf {rts : List ReturnType} :
    (typeOf rts).Disguises gap ↔ Imitated gap rts := by
  rcases rts with _ | ⟨rt, _ | ⟨second, rest⟩⟩
  · simp [typeOf, Ty.not_disguises_marker, Imitated, LooseName]
  · simp [typeOf, disguises_singleType, Imitated, LooseName]
  · rw [typeOf, Ty.disguises_union, Imitated, LooseName]
    · simp only [List.mem_map, exists_exists_and_eq_and, disguises_unionMember]
      constructor
      · rintro ⟨member, hmember, hrefers | hloose⟩
        · exact Or.inl ⟨member, hmember, hrefers⟩
        · exact Or.inr ⟨by simp, member, hmember, hloose⟩
      · rintro (⟨member, hmember, hrefers⟩ | ⟨_, member, hmember, hloose⟩)
        · exact ⟨member, hmember, Or.inl hrefers⟩
        · exact ⟨member, hmember, Or.inr hloose⟩
    · simp
    · simp

/-- Some reference in the declaration of the object is spelled like the marker. -/
def Docs.Object.Imitates (o : Object) (gap : Marker) : Prop :=
  if o.isDictionary then ∃ rt ∈ o.returnTypes.head?, rt.Refers gap.typeName
  else ∃ p ∈ o.propertyList, Imitated gap p.returnTypes

instance (o : Object) (gap : Marker) : Decidable (o.Imitates gap) :=
  inferInstanceAs <| Decidable <|
    if o.isDictionary then ∃ rt ∈ o.returnTypes.head?, rt.Refers gap.typeName
    else ∃ p ∈ o.propertyList, Imitated gap p.returnTypes

theorem disguises_dictionaryType {o : Object} (hdictionary : o.isDictionary = true) :
    o.dictionaryType.Disguises gap ↔ ∃ rt ∈ o.returnTypes.head?, rt.Refers gap.typeName := by
  unfold Object.isDictionary at hdictionary
  unfold Object.dictionaryType
  cases hhead : o.returnTypes.head? with
  | none => simp [hhead] at hdictionary
  | some rt =>
      cases hclass : classify rt with
      | array element =>
          cases element <;> simp [hclass, disguises_arrayOf, ReturnType.Refers]
      | enumeration literal kind => simp [hhead, hclass, Shape.isArray] at hdictionary
      | other type => simp [hhead, hclass, Shape.isArray] at hdictionary
      | unrecognized => simp [hhead, hclass, Shape.isArray] at hdictionary

end Names

/-! ## Declarations of objects -/

/-- The leaves of all types that a declaration writes out. -/
def Declaration.leaves (d : Declaration) : List Ty :=
  d.types.flatMap Ty.leaves

/-- The declaration of an object has a leaf that is spelled like the marker and is none exactly if
the object documents a word to this effect. -/
theorem disguised_object_iff {o : Object} {name : String} {gap : Marker} :
    (∃ leaf ∈ (o.declaration name).leaves, leaf.text = gap.typeName ∧ leaf ≠ .marker gap) ↔
      o.Imitates gap := by
  have htypes : (∃ leaf ∈ (o.declaration name).leaves,
      leaf.text = gap.typeName ∧ leaf ≠ .marker gap) ↔
        ∃ t ∈ (o.declaration name).types, t.Disguises gap := by
    simp only [Declaration.leaves, List.mem_flatMap, Ty.Disguises]
    tauto
  rw [htypes, Object.Imitates, Object.declaration]
  split
  next hdictionary =>
    rw [← disguises_dictionaryType hdictionary]
    simp [Declaration.types, Object.dictionaryDeclaration]
  next =>
    simp [Declaration.types, Object.interfaceDeclaration, Property.member, Property.type,
      disguises_typeOf]

/-! ## What a reader finds and what is counted -/

theorem Ty.isMarker_iff {m : Marker} {t : Ty} : t.isMarker m = true ↔ t = .marker m := by
  cases t <;> simp [Ty.isMarker]

/-- The leaf is spelled like the marker. -/
def Ty.spells (gap : Marker) (leaf : Ty) : Bool :=
  leaf.text == gap.typeName

theorem Ty.spells_of_isMarker {gap : Marker} {t : Ty} (ht : t.isMarker gap = true) :
    t.spells gap = true := by
  rw [Ty.isMarker_iff.mp ht, Ty.spells, Ty.text, beq_self_eq_true]

/-- Markers are leaves, so none is lost with the nodes that are no leaves. -/
theorem countP_leaves (m : Marker) (t : Ty) :
    t.leaves.countP (Ty.isMarker m) = t.nodes.countP (Ty.isMarker m) := by
  rw [Ty.leaves, List.countP_filter]
  refine List.countP_congr fun node _ => ?_
  rw [Bool.and_eq_true]
  refine ⟨fun h => h.1, fun h => ⟨h, ?_⟩⟩
  rw [Ty.isMarker_iff.mp h]
  rfl

theorem count_leaves (m : Marker) (declarations : List Declaration) :
    (declarations.flatMap Declaration.markers).count m =
      (declarations.flatMap Declaration.leaves).countP (Ty.isMarker m) := by
  refine countP_flatMap_congr fun d _ => ?_
  calc d.markers.count m
    _ = d.nodes.countP (Ty.isMarker m) := count_declaration_markers m d
    _ = d.leaves.countP (Ty.isMarker m) :=
      countP_flatMap_congr fun t _ => (countP_leaves m t).symm

/-- The leaves that are spelled like a marker are as many as the markers exactly if they are the
markers. -/
theorem countP_spells_iff {gap : Marker} (leaves : List Ty) :
    leaves.countP (Ty.spells gap) = leaves.countP (Ty.isMarker gap) ↔
      ∀ leaf ∈ leaves, leaf.text = gap.typeName → leaf = .marker gap := by
  induction leaves with
  | nil => simp
  | cons leaf rest ih =>
      have hle : rest.countP (Ty.isMarker gap) ≤ rest.countP (Ty.spells gap) :=
        List.countP_mono_left fun _ _ => Ty.spells_of_isMarker
      rw [List.forall_mem_cons, ← ih, List.countP_cons, List.countP_cons]
      cases hmarker : leaf.isMarker gap with
      | true =>
          have hleaf : leaf = .marker gap := Ty.isMarker_iff.mp hmarker
          rw [if_pos (Ty.spells_of_isMarker hmarker), if_pos rfl, Nat.add_right_cancel_iff]
          simp only [hleaf, implies_true, true_and]
      | false =>
          have hleaf : leaf ≠ .marker gap := fun h => by simp [Ty.isMarker_iff.mpr h] at hmarker
          cases hspells : leaf.spells gap with
          | true =>
              -- this leaf is spelled like the marker, and the rest has no marker too many to make
              -- up for it
              have htext : leaf.text = gap.typeName := beq_iff_eq.mp hspells
              simp only [htext, hleaf, if_true, Bool.false_eq_true, if_false, forall_const,
                false_and, iff_false]
              omega
          | false =>
              have htext : leaf.text ≠ gap.typeName := beq_eq_false_iff_ne.mp hspells
              simp [htext]

/-- In the declarations of objects, what is spelled like a marker is that marker and is counted,
exactly as long as no object documents another word that gives a reference of this spelling. Only
then a reader of the text finds as many gaps as the numbers report. -/
theorem gaps_recorded_iff {objects : List Object} {options : Options} {built : Build}
    (hbuilt : build objects options = .ok built) :
    built.file.declarations = objectDeclarations objects ++
      (wantedTemplates objects options).map (fun t => (contextOf objects t).declaration) ∧
    ∀ gap,
      let leaves := (objectDeclarations objects).flatMap Declaration.leaves
      built.stats.markerCount gap = leaves.countP (Ty.isMarker gap) ∧
      ((∀ leaf ∈ leaves, leaf.text = gap.typeName → leaf = .marker gap) ↔
        ∀ o ∈ objects, ¬ o.Imitates gap) ∧
      (leaves.countP (Ty.spells gap) = built.stats.markerCount gap ↔
        ∀ o ∈ objects, ¬ o.Imitates gap) := by
  rw [eq_builtFrom_of_build hbuilt]
  refine ⟨by simp [builtFrom, Function.comp_def], fun gap => ?_⟩
  intro leaves
  have hcount : (builtFrom objects (wantedTemplates objects options)).stats.markerCount gap =
      leaves.countP (Ty.isMarker gap) := by
    rw [Stats.markerCount, builtFrom_stats, Tally.count_addAll, Tally.count_empty, Nat.zero_add,
      count_leaves]
  have hspelled : (∀ leaf ∈ leaves, leaf.text = gap.typeName → leaf = .marker gap) ↔
      ∀ o ∈ objects, ¬ o.Imitates gap := by
    have himitated : ∀ o : Object, o.Imitates gap ↔
        ∃ leaf ∈ (o.declaration (typeName o.name)).leaves,
          leaf.text = gap.typeName ∧ leaf ≠ .marker gap :=
      fun o => disguised_object_iff.symm
    simp only [himitated, leaves, objectDeclarations, List.flatMap_map, List.mem_flatMap]
    grind
  exact ⟨hcount, hspelled, by rw [hcount, countP_spells_iff, hspelled]⟩

/-- A cart with an array of untyped items and a note without a type. -/
def untypedItems : List Object :=
  [{ name := "cart"
     properties := some
       [{ name := "items"
          returnType := some [{ type := some "array", arrayValue := some "untyped" }] },
        { name := "note" }] }]

/-- The missing type of the note is found and counted, the items are found and not counted. -/
theorem gaps_recorded_items :
    ∃ built, build untypedItems ⟨false⟩ = .ok built ∧
      let leaves := (objectDeclarations untypedItems).flatMap Declaration.leaves
      leaves.countP (Ty.spells .missingData) = built.stats.markerCount .missingData ∧
      leaves.countP (Ty.spells .untyped) ≠ built.stats.markerCount .untyped := by
  obtain ⟨built, hbuilt⟩ := exists_built (show (build untypedItems ⟨false⟩).isOk = true by
    decide +kernel)
  obtain ⟨_, hgaps⟩ := gaps_recorded_iff hbuilt
  obtain ⟨_, _, hmissing⟩ := hgaps .missingData
  obtain ⟨_, _, huntyped⟩ := hgaps .untyped
  exact ⟨built, hbuilt, hmissing.mpr (by decide +kernel),
    fun hequal => absurd (huntyped.mp hequal) (by decide +kernel)⟩

/-- The items of the cart are a leaf that reads `Untyped` and is no marker, and the numbers report
nothing untyped. -/
theorem untyped_items_not_counted :
    ∃ built, build untypedItems ⟨false⟩ = .ok built ∧
      (∃ leaf ∈ (objectDeclarations untypedItems).flatMap Declaration.leaves,
        leaf.text = "Untyped" ∧ leaf ≠ .marker .untyped) ∧
      built.stats.markerCount .untyped = 0 := by
  obtain ⟨built, hbuilt⟩ := exists_built (show (build untypedItems ⟨false⟩).isOk = true by
    decide +kernel)
  refine ⟨built, hbuilt, ?_, ?_⟩
  · obtain ⟨cart, hcart, himitates⟩ : ∃ cart ∈ untypedItems, cart.Imitates .untyped := by
      decide +kernel
    obtain ⟨leaf, hleaf, hspelled⟩ := disguised_object_iff.mpr himitates
    exact ⟨leaf, List.mem_flatMap.mpr ⟨_, List.mem_map_of_mem hcart, hleaf⟩, hspelled⟩
  · rw [eq_builtFrom_of_build hbuilt]
    decide +kernel

end Typings

import Typings.Proofs.FileBlocks

/-! # The place of a property

What the documentation says of one property appears in one place of the file: the comment and the
line of its member. A documentation with a gap where the property stands therefore fixes all of the
text around the member, and it fixes whether there is a file at all.
-/

namespace Typings

open Docs

/-! ## A documentation with a gap -/

/-- A documentation in which one property of one object is left open. -/
structure PropertySlot where
  before : List Object
  object : Object
  earlier : List Property
  later : List Property
  after : List Object

namespace PropertySlot

/-- The object with the property in the gap. -/
def host (slot : PropertySlot) (p : Property) : Object :=
  { slot.object with properties := some (slot.earlier ++ p :: slot.later) }

/-- The documentation with the property in the gap. -/
def fill (slot : PropertySlot) (p : Property) : List Object :=
  slot.before ++ slot.host p :: slot.after

variable (slot : PropertySlot) (p q : Property)

theorem host_isDictionary : (slot.host p).isDictionary = slot.object.isDictionary :=
  rfl

theorem fill_alike : List.Forall₂ AddressedAlike (slot.fill p) (slot.fill q) := by
  have hrefl : ∀ objects : List Object, List.Forall₂ AddressedAlike objects objects :=
    fun _ => List.forall₂_same.mpr fun _ _ => ⟨rfl, rfl⟩
  exact List.rel_append (hrefl slot.before) (.cons ⟨rfl, rfl⟩ (hrefl slot.after))

end PropertySlot

/-! ## The text around a member -/

/-- The text of an interface that has members. -/
theorem interface_text_of_ne_nil {d : Declaration} {members : List Member}
    (hbody : d.body = .interface members) (hmembers : members ≠ []) :
    d.text = docLines "" d.doc ++ (if d.exported then "export " else "") ++ "interface " ++
      d.name ++ " \x7b\n" ++ String.join (members.map Member.lines) ++ "\x7d\n" := by
  unfold Declaration.text
  rw [hbody]
  cases members with
  | nil => exact absurd rfl hmembers
  | cons m members => rfl

namespace PropertySlot

variable (slot : PropertySlot) (p q : Property)

/-- The text of the host up to the member in the gap. -/
def opening : String :=
  docLines "" slot.object.doc ++ "export interface " ++ typeName slot.object.name ++ " \x7b\n" ++
    String.join (slot.earlier.map (·.member.lines))

/-- The text of the host behind the member in the gap. -/
def closing : String :=
  String.join (slot.later.map (·.member.lines)) ++ "\x7d\n"

theorem host_text (hobject : slot.object.isDictionary = false) :
    ((slot.host p).declaration (typeName slot.object.name)).text =
      slot.opening ++ p.member.lines ++ slot.closing := by
  have hbody : ((slot.host p).interfaceDeclaration (typeName slot.object.name)).body =
      .interface ((slot.earlier ++ p :: slot.later).map Property.member) := rfl
  rw [Object.declaration, host_isDictionary, hobject, if_neg Bool.false_ne_true,
    interface_text_of_ne_nil hbody (by simp)]
  simp only [List.map_append, List.map_cons, List.map_map, Function.comp_def, String.join_append,
    String.join_cons, opening, closing, String.append_assoc]
  rfl

/-- A collection does not look at its properties. -/
theorem host_declaration_dictionary (hobject : slot.object.isDictionary = true) :
    (slot.host p).declaration (typeName slot.object.name) =
      (slot.host q).declaration (typeName slot.object.name) := by
  rw [Object.declaration, Object.declaration, host_isDictionary, host_isDictionary, hobject]
  rfl

/-- The blocks before the host. -/
def front : String := preambleText ++ blocksText (objectDeclarations slot.before) ++ "\n"

/-- The blocks behind the host. The contexts are those of any filled documentation. -/
def back (templates : List String) : String :=
  blocksText (objectDeclarations slot.after) ++
    blocksText ((templates.map (contextOf (slot.fill {}))).map Context.declaration)

theorem fill_text (templates : List String) :
    (builtFrom (slot.fill p) templates).file.text = slot.front ++
      ((slot.host p).declaration (typeName slot.object.name)).text ++ slot.back templates := by
  have hdeclarations : (builtFrom (slot.fill p) templates).file.declarations =
      objectDeclarations slot.before ++ (slot.host p).declaration (typeName slot.object.name) ::
        (objectDeclarations slot.after ++
          (templates.map (contextOf (slot.fill {}))).map Context.declaration) := by
    rw [← contextOf_alike (slot.fill_alike p {})]
    simp [builtFrom, fill, objectDeclarations, host]
  rw [builtFrom_text, hdeclarations, blocksText_append, blocksText_cons, blocksText_append]
  simp only [front, back, String.append_assoc]

end PropertySlot

/-! ## Builds -/

/-- Bad documentation degrades locally. Names and access alone decide whether there is a file and
which error there is otherwise. What a property says changes its own comment and its own line of the
file, and nothing in the file of a collection. -/
theorem property_stays_local (options : Options) :
    (∀ first second, List.Forall₂ AddressedAlike first second →
      SameOutcome DeclareSameNames (build first options) (build second options)) ∧
    ∀ (slot : PropertySlot) (p : Property) (built : Build),
      build (slot.fill p) options = .ok built →
      (slot.object.isDictionary = false → ∃ front back,
        built.file.text = front ++ p.member.lines ++ back ∧
        ∀ q, ∃ other, build (slot.fill q) options = .ok other ∧
          other.file.text = front ++ q.member.lines ++ back) ∧
      (slot.object.isDictionary = true →
        ∀ q, ∃ other, build (slot.fill q) options = .ok other ∧
          other.file.text = built.file.text) := by
  refine ⟨fun _ _ halike => build_alike halike options, fun slot p built hbuilt => ?_⟩
  have hdeclarable := declarable_of_build hbuilt
  rw [build_of_declarable hdeclarable] at hbuilt
  cases hbuilt
  -- Whatever stands in the gap, the same templates are listed and the same names declared.
  have hother : ∀ q, build (slot.fill q) options =
      .ok (builtFrom (slot.fill q) (wantedTemplates (slot.fill p) options)) := by
    intro q
    have halike := slot.fill_alike p q
    rw [wantedTemplates_alike halike]
    exact build_of_declarable ((declarable_alike halike).mp hdeclarable)
  constructor
  · intro hobject
    have htext : ∀ q, (builtFrom (slot.fill q)
        (wantedTemplates (slot.fill p) options)).file.text =
          (slot.front ++ slot.opening) ++ q.member.lines ++
            (slot.closing ++ slot.back (wantedTemplates (slot.fill p) options)) := by
      intro q
      rw [slot.fill_text, slot.host_text q hobject]
      simp only [String.append_assoc]
    exact ⟨_, _, htext p, fun q => ⟨_, hother q, htext q⟩⟩
  · intro hobject q
    refine ⟨_, hother q, ?_⟩
    rw [slot.fill_text, slot.fill_text, slot.host_declaration_dictionary q p hobject]

/-- A property that tries to close its interface. -/
def unrulyProperty : Property where
  name := "id: any;\n\x7d\n"
  summary := some "*/ \x7d\n\ninterface Forged \x7b\x7d"
  returnType := some [{ type := "array" }, { type := "class", name := some (.text "\"") }]
  deprecated := some true

/-- A cart whose second property is open, beside a collection. -/
def cartSlot : PropertySlot where
  before := [{ name := "pages", access := some { global := some true } }]
  object := { name := "cart", access := some { template := some ["cart"] } }
  earlier := [{ name := "items" }]
  later := [{ name := "total_price" }]
  after := [{ name := "line_item" }]

/-- A collection that documents a property, which is left open. -/
def collectionSlot : PropertySlot where
  before := []
  object :=
    { name := "all_products"
      access := some { global := some true }
      returnType := some [{ type := "array", arrayValue := "product" }] }
  earlier := []
  later := []
  after := [{ name := "product" }]

theorem property_stays_local_cart :
    (∃ built other front back,
      build (cartSlot.fill unrulyProperty) ⟨true⟩ = .ok built ∧
      build (cartSlot.fill {}) ⟨true⟩ = .ok other ∧
      built.file.text = front ++ unrulyProperty.member.lines ++ back ∧
      other.file.text = front ++ ({} : Property).member.lines ++ back) ∧
    (∃ built other, build (collectionSlot.fill unrulyProperty) ⟨true⟩ = .ok built ∧
      build (collectionSlot.fill {}) ⟨true⟩ = .ok other ∧
      other.file.text = built.file.text) ∧
    ∃ error, build [{ name := "", properties := some [unrulyProperty] }] ⟨true⟩ = .error error ∧
      build [{ name := "" }] ⟨true⟩ = .error error := by
  obtain ⟨hsame, hlocal⟩ := property_stays_local ⟨true⟩
  refine ⟨?_, ?_, ?_⟩
  · obtain ⟨built, hbuilt⟩ := exists_built (show (build (cartSlot.fill unrulyProperty)
      ⟨true⟩).isOk = true by decide +kernel)
    obtain ⟨front, back, htext, hothers⟩ := (hlocal _ _ _ hbuilt).1 (by decide +kernel)
    obtain ⟨other, hother, hotherText⟩ := hothers {}
    exact ⟨built, other, front, back, hbuilt, hother, htext, hotherText⟩
  · obtain ⟨built, hbuilt⟩ := exists_built (show (build (collectionSlot.fill unrulyProperty)
      ⟨true⟩).isOk = true by decide +kernel)
    obtain ⟨other, hother, htext⟩ := (hlocal _ _ _ hbuilt).2 (by decide +kernel) {}
    exact ⟨built, other, hbuilt, hother, htext⟩
  · have hnameless := hsame [{ name := "", properties := some [unrulyProperty] }] [{ name := "" }]
      (.cons ⟨rfl, rfl⟩ .nil)
    cases hfirst : build [{ name := "", properties := some [unrulyProperty] }] ⟨true⟩ with
    | ok built =>
        have hvalid := (declarable_of_build hfirst).objectsNamed.valid _ List.mem_cons_self
        exact absurd hvalid (by decide +kernel)
    | error error =>
        rw [hfirst] at hnameless
        exact ⟨error, rfl, hnameless.fault_right⟩

end Typings

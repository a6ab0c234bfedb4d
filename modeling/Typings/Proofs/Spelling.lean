import Mathlib.Data.List.Basic
import Typings.Declaration.Text
import Typings.Text.Blank
import Typings.Typing

/-! # Spelling of types

Outside literals, the text of a type consists of words: identifiers and numeric literals. Types
whose names and numbers are words, and whose unions have members, are well formed; every type that
is made of documentation is, whatever the documentation says.
-/

namespace Typings

open Docs Text

/-! ## Words -/

/-- The character can stand in an identifier or a numeric literal. -/
def isWordChar (c : Char) : Bool :=
  isIdentifierRest c || c == '.' || c == '-'

/-- A character of a word differs from every character that stands in no word. -/
theorem isWordChar_ne {c d : Char} (hc : isWordChar c = true) (hd : isWordChar d = false) :
    c ≠ d := by
  rintro rfl
  rw [hc] at hd
  cases hd

/-- Word characters are visible ASCII characters. -/
theorem isWordChar_visible {c : Char} (hc : isWordChar c = true) :
    0x21 ≤ c.toNat ∧ c.toNat ≤ 0x7E := by
  unfold isWordChar isIdentifierRest Char.isAlphanum Char.isAlpha Char.isUpper Char.isLower
    Char.isDigit at hc
  simp only [Bool.or_eq_true, Bool.and_eq_true, decide_eq_true_eq, beq_iff_eq, ge_iff_le,
    UInt32.le_iff_toNat_le] at hc
  change _ ≤ c.val.toNat ∧ c.val.toNat ≤ _
  rcases hc with (((((hc | hc) | hc) | rfl) | rfl) | rfl) | rfl
  all_goals first
    | decide
    | exact ⟨Nat.le_trans (by decide) hc.1, Nat.le_trans hc.2 (by decide)⟩

theorem isBlank_of_isWordChar {c : Char} (hc : isWordChar c = true) : isBlank c = false := by
  have hcode := isWordChar_visible hc
  simp only [isBlank]
  grind

theorem isIdentifierRest_of_start {c : Char} (hc : isIdentifierStart c = true) :
    isIdentifierRest c = true := by
  unfold isIdentifierStart at hc
  unfold isIdentifierRest Char.isAlphanum
  grind

theorem isIdentifier_iff {name : String} :
    isIdentifier name = true ↔ ∃ c rest, name.toList = c :: rest ∧ isIdentifierStart c = true ∧
      ∀ d ∈ rest, isIdentifierRest d = true := by
  unfold isIdentifier
  split
  next hnil => simp [hnil]
  next c rest hcons => simp [hcons]

theorem isIdentifier_chars {name : String} (hname : isIdentifier name = true) :
    ∀ c ∈ name.toList, isIdentifierRest c = true := by
  obtain ⟨c, rest, heq, hstart, hrest⟩ := isIdentifier_iff.mp hname
  rw [heq]
  exact List.forall_mem_cons.mpr ⟨isIdentifierRest_of_start hstart, hrest⟩

theorem isTypeName_identifier {name : String} (hname : isTypeName name = true) :
    isIdentifier name = true := by
  unfold isTypeName at hname
  exact (Bool.and_eq_true_iff.mp hname).1

theorem isPlainDecimal_chars {cs : List Char} (hcs : isPlainDecimal cs = true) :
    cs ≠ [] ∧ ∀ c ∈ cs, isWordChar c = true := by
  simp only [isPlainDecimal, Bool.and_eq_true, List.all_eq_true, List.any_eq_true] at hcs
  obtain ⟨⟨hall, c, hmem, _⟩, _⟩ := hcs
  refine ⟨List.ne_nil_of_mem hmem, fun d hd => ?_⟩
  have hdigit := hall d hd
  unfold isWordChar isIdentifierRest Char.isAlphanum
  grind

theorem isNumericLiteral_chars {s : String} (hs : isNumericLiteral s = true) :
    s.toList ≠ [] ∧ ∀ c ∈ s.toList, isWordChar c = true := by
  unfold isNumericLiteral at hs
  split at hs
  next rest heq =>
    obtain ⟨_, hrest⟩ := isPlainDecimal_chars (Bool.and_eq_true_iff.mp hs).2
    rw [heq]
    exact ⟨List.cons_ne_nil _ _, List.forall_mem_cons.mpr ⟨by decide, hrest⟩⟩
  next => exact isPlainDecimal_chars (Bool.and_eq_true_iff.mp hs).2

/-- A word is not empty and consists of word characters. -/
theorem isBareToken_chars {s : String} (hs : isBareToken s = true) :
    s.toList ≠ [] ∧ ∀ c ∈ s.toList, isWordChar c = true := by
  unfold isBareToken at hs
  rcases Bool.or_eq_true_iff.mp hs with hs | hs
  · obtain ⟨c, rest, heq, _, _⟩ := isIdentifier_iff.mp hs
    refine ⟨by simp [heq], fun d hd => ?_⟩
    simp [isWordChar, isIdentifier_chars hs d hd]
  · exact isNumericLiteral_chars hs

theorem isBareToken_of_isIdentifier {s : String} (hs : isIdentifier s = true) :
    isBareToken s = true := by
  simp [isBareToken, hs]

theorem ofName?_eq_some {s : String} {kind : Primitive} (h : Primitive.ofName? s = some kind) :
    s = kind.name := by
  unfold Primitive.ofName? at h
  grind [Primitive.name]

theorem isBareToken_primitive (kind : Primitive) : isBareToken kind.name = true := by
  cases kind <;> decide

theorem isBareToken_marker (gap : Marker) : isBareToken gap.typeName = true := by
  cases gap <;> decide

/-! ## Well-formed types -/

mutual

/-- References and numbers are words, and unions have members. -/
def Ty.WellFormed : Ty → Prop
  | .primitive _ => True
  | .array element => element.WellFormed
  | .union members => members ≠ [] ∧ Ty.AllWellFormed members
  | .literal (.string _) => True
  | .literal (.number spelling) => isBareToken spelling = true
  | .reference name => isBareToken name = true
  | .marker _ => True

/-- Every type of a list is well formed. -/
def Ty.AllWellFormed : List Ty → Prop
  | [] => True
  | member :: rest => member.WellFormed ∧ Ty.AllWellFormed rest

end

theorem Ty.allWellFormed_iff {members : List Ty} :
    Ty.AllWellFormed members ↔ ∀ t ∈ members, t.WellFormed := by
  induction members with
  | nil => simp [Ty.AllWellFormed]
  | cons member rest ih => simp [Ty.AllWellFormed, ih]

/-! ## Texts of types -/

/-- The character stands between the words and literals of a type. -/
def isTypeMark (c : Char) : Bool :=
  c == '(' || c == ')' || c == '[' || c == ']' || c == '|' || c == ' '

/-- The property holds of words, of literals and of the marks between them, and with two texts it
holds of both put together. -/
structure HoldsOfParts (P : List Char → Prop) : Prop where
  word : ∀ word, isBareToken word = true → P word.toList
  literal : ∀ value, P (quoteLiteral value).toList
  marks : ∀ marks : String, marks.toList.all isTypeMark = true → P marks.toList
  append : ∀ first second, P first → P second → P (first ++ second)

theorem HoldsOfParts.intercalate {P : List Char → Prop} (hP : HoldsOfParts P)
    {separator : List Char} (hseparator : P separator) {parts : List (List Char)}
    (hparts : ∀ part ∈ parts, P part) : P (separator.intercalate parts) := by
  induction parts with
  | nil => exact hP.marks "" (by decide)
  | cons part parts ih =>
      obtain ⟨hpart, hrest⟩ := List.forall_mem_cons.mp hparts
      cases parts with
      | nil => simpa using hpart
      | cons next parts =>
          rw [List.intercalate_cons_cons]
          exact hP.append _ _ (hP.append _ _ hpart hseparator) (ih hrest)

mutual

/-- What holds of the parts of types holds of the text of every well-formed type. -/
theorem HoldsOfParts.type {P : List Char → Prop} (hP : HoldsOfParts P) (t : Ty)
    (ht : t.WellFormed) : P t.text.toList := by
  match t with
  | .primitive kind => exact hP.word _ (isBareToken_primitive kind)
  | .array element =>
      have helement := hP.type element ht
      rw [Ty.text]
      split
      · have hopen := hP.marks "(" (by decide)
        have hclose := hP.marks ")[]" (by decide)
        rw [String.toList_append, String.toList_append]
        exact hP.append _ _ (hP.append _ _ hopen helement) hclose
      · rw [String.toList_append]
        exact hP.append _ _ helement (hP.marks "[]" (by decide))
  | .union members =>
      rw [Ty.text, String.toList_intercalate]
      refine hP.intercalate (hP.marks " | " (by decide)) (List.forall_mem_map.mpr ?_)
      exact hP.types members ht.2
  | .literal (.string value) => exact hP.literal value
  | .literal (.number spelling) => exact hP.word _ ht
  | .reference name => exact hP.word _ ht
  | .marker gap => exact hP.word _ (isBareToken_marker gap)

theorem HoldsOfParts.types {P : List Char → Prop} (hP : HoldsOfParts P) (members : List Ty)
    (hmembers : Ty.AllWellFormed members) : ∀ text ∈ Ty.textOfAll members, P text.toList := by
  match members with
  | [] => simp [Ty.textOfAll]
  | member :: rest =>
      rw [Ty.textOfAll]
      refine List.forall_mem_cons.mpr ⟨hP.type member hmembers.1, ?_⟩
      exact hP.types rest hmembers.2

end

/-! ## Types of documented values -/

theorem referenceTo_wellFormed (documented : String) : (referenceTo documented).WellFormed := by
  simp only [referenceTo]
  split
  next hname => exact isBareToken_of_isIdentifier (isTypeName_identifier hname)
  next => trivial

theorem arrayOf_wellFormed (element : Option String) : (arrayOf element).WellFormed := by
  cases element with
  | none => trivial
  | some element => exact referenceTo_wellFormed element

theorem plainType_wellFormed (type : String) : (plainType type).WellFormed := by
  unfold plainType
  split
  · trivial
  split
  · trivial
  · exact referenceTo_wellFormed type

theorem singleType_wellFormed (rt : ReturnType) : (singleType rt).WellFormed := by
  unfold singleType
  split
  · exact arrayOf_wellFormed _
  · exact plainType_wellFormed _
  · trivial
  · trivial

/-- A literal is taken for a number only where it is spelled like one. -/
theorem classify_number {rt : ReturnType} {literal : String}
    (hclass : classify rt = .enumeration literal .number) : isNumericLiteral literal = true := by
  unfold classify at hclass
  grind

theorem unionMember_wellFormed (rt : ReturnType) : (unionMember rt).WellFormed := by
  unfold unionMember
  split
  · trivial
  next hclass => simp [Ty.WellFormed, isBareToken, classify_number hclass]
  · split
    · trivial
    · exact arrayOf_wellFormed _
  · exact arrayOf_wellFormed none
  · exact plainType_wellFormed _
  · split
    · split
      next htoken => exact htoken
      next => trivial
    · trivial

/-- Every type that is made of return types is well formed. -/
theorem typeOf_wellFormed (rts : List ReturnType) : (typeOf rts).WellFormed := by
  unfold typeOf
  split
  · trivial
  · exact singleType_wellFormed _
  next rts hnil _ =>
    refine ⟨by simpa using hnil, Ty.allWellFormed_iff.mpr ?_⟩
    intro t ht
    obtain ⟨rt, _, rfl⟩ := List.mem_map.mp ht
    exact unionMember_wellFormed rt

theorem dictionaryType_wellFormed (o : Object) : o.dictionaryType.WellFormed := by
  unfold Object.dictionaryType
  split
  · exact arrayOf_wellFormed _
  · exact arrayOf_wellFormed none

end Typings

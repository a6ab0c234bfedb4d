import Mathlib.Data.List.Basic
import Typings.Proofs.Spelling

/-! # Words of types

The words of a type are its names, its keywords and its numbers. A word is legal if it names a
declared type, is a keyword that is a type of its own, or is a numeric literal; the keywords of
statements are not. Documented names are checked wherever they become references, but the literal
name of a return type without a shape stands in a union as it is, and there it may be a keyword of
a statement. Every other word of every documented type is legal.
-/

namespace Typings

open Docs

/-! ## Reserved words -/

/-- The reserved words that are types of their own. -/
def typeKeywords : List String :=
  ["any", "boolean", "false", "never", "null", "number", "object", "string", "symbol", "this",
    "true", "undefined", "unknown", "void"]

/-- The reserved words that cannot stand where a type is expected. -/
def statementKeywords : List String :=
  ["break", "case", "catch", "class", "const", "continue", "debugger", "default", "delete", "do",
    "else", "enum", "export", "extends", "finally", "for", "function", "if", "import", "in",
    "instanceof", "new", "return", "super", "switch", "throw", "try", "typeof", "var", "while",
    "with"]

theorem reservedWords_perm : reservedWords.Perm (typeKeywords ++ statementKeywords) := by
  decide +kernel

/-- A reserved word is either a type of its own or a keyword of statements. -/
theorem mem_reservedWords {w : String} :
    w ∈ reservedWords ↔ w ∈ typeKeywords ∨ w ∈ statementKeywords := by
  rw [reservedWords_perm.mem_iff, List.mem_append]

theorem statementKeywords_typeless : ∀ w ∈ statementKeywords, w ∉ typeKeywords := by
  decide +kernel

theorem statementKeywords_identifiers :
    ∀ w ∈ statementKeywords, isIdentifier w = true ∧ isNumericLiteral w = false := by
  decide +kernel

/-! ## Legal words -/

/-- The word can stand where a type is expected. -/
def LegalWord (w : String) : Prop :=
  isTypeName w = true ∨ w ∈ typeKeywords ∨ isNumericLiteral w = true

theorem isTypeName_unreserved {w : String} (hw : isTypeName w = true) : w ∉ reservedWords := by
  unfold isTypeName at hw
  simpa using (Bool.and_eq_true_iff.mp hw).2

theorem LegalWord.no_statement {w : String} (hw : LegalWord w) : w ∉ statementKeywords := by
  intro hkeyword
  rcases hw with hname | htype | hnumber
  · exact isTypeName_unreserved hname (mem_reservedWords.mpr (Or.inr hkeyword))
  · exact statementKeywords_typeless w hkeyword htype
  · rw [(statementKeywords_identifiers w hkeyword).2] at hnumber
    cases hnumber

/-- A text that can stand in a union as it is is legal unless it is a keyword of statements. -/
theorem legalWord_iff {w : String} (hw : isBareToken w = true) :
    LegalWord w ↔ w ∉ statementKeywords := by
  refine ⟨LegalWord.no_statement, fun hstatement => ?_⟩
  unfold isBareToken at hw
  rcases Bool.or_eq_true_iff.mp hw with hidentifier | hnumber
  · by_cases hreserved : w ∈ reservedWords
    · exact Or.inr (Or.inl ((mem_reservedWords.mp hreserved).resolve_right hstatement))
    · refine Or.inl ?_
      unfold isTypeName
      simp [hidentifier, hreserved]
  · exact Or.inr (Or.inr hnumber)

theorem legalWord_primitive (kind : Primitive) : LegalWord kind.name := by
  rw [legalWord_iff (isBareToken_primitive kind)]
  cases kind <;> decide

theorem legalWord_marker (gap : Marker) : LegalWord gap.typeName := by
  rw [legalWord_iff (isBareToken_marker gap)]
  cases gap <;> decide

/-! ## Words of documented types -/

mutual

/-- The words of a type, in order of appearance. A literal of text has none. -/
def Ty.words : Ty → List String
  | .primitive kind => [kind.name]
  | .array element => element.words
  | .union members => Ty.wordsOfAll members
  | .literal (.string _) => []
  | .literal (.number spelling) => [spelling]
  | .reference name => [name]
  | .marker gap => [gap.typeName]

/-- The words of the members of a union. -/
def Ty.wordsOfAll : List Ty → List String
  | [] => []
  | member :: rest => member.words ++ Ty.wordsOfAll rest

end

theorem Ty.mem_wordsOfAll {w : String} {members : List Ty} :
    w ∈ Ty.wordsOfAll members ↔ ∃ t ∈ members, w ∈ t.words := by
  induction members with
  | nil => simp [Ty.wordsOfAll]
  | cons member rest ih => simp [Ty.wordsOfAll, ih]

theorem referenceTo_words (documented : String) :
    ∀ w ∈ (referenceTo documented).words, LegalWord w := by
  intro w hw
  simp only [referenceTo] at hw
  split at hw
  next hname =>
    rw [List.mem_singleton.mp hw]
    exact Or.inl hname
  next =>
    rw [List.mem_singleton.mp hw]
    exact legalWord_marker .unmapped

theorem arrayOf_words (element : Option String) : ∀ w ∈ (arrayOf element).words, LegalWord w := by
  intro w hw
  cases element with
  | none =>
      rw [List.mem_singleton.mp hw]
      exact legalWord_marker .missingData
  | some element => exact referenceTo_words element w hw

theorem plainType_words (type : String) : ∀ w ∈ (plainType type).words, LegalWord w := by
  intro w hw
  unfold plainType at hw
  split at hw
  next kind _ =>
    rw [List.mem_singleton.mp hw]
    exact legalWord_primitive kind
  split at hw
  next =>
    rw [List.mem_singleton.mp hw]
    exact legalWord_marker .untyped
  next => exact referenceTo_words type w hw

theorem singleType_words (rt : ReturnType) : ∀ w ∈ (singleType rt).words, LegalWord w := by
  intro w hw
  unfold singleType at hw
  split at hw
  · exact arrayOf_words _ w hw
  · exact plainType_words _ w hw
  all_goals
    rw [List.mem_singleton.mp hw]
    exact legalWord_marker .unmapped

/-- The words of a member of a union are legal, or the member is a literal name that stands as it
is. -/
theorem unionMember_words {rt : ReturnType} {w : String} (hw : w ∈ (unionMember rt).words) :
    LegalWord w ∨
      classify rt = .unrecognized ∧ rt.nameText = some w ∧ isBareToken w = true := by
  unfold unionMember at hw
  split at hw
  next => cases hw
  next hclass =>
    rw [List.mem_singleton.mp hw]
    exact Or.inl (Or.inr (Or.inr (classify_number hclass)))
  next =>
    split at hw
    next kind _ =>
      rw [List.mem_singleton.mp hw]
      exact Or.inl (legalWord_primitive kind)
    next => exact Or.inl (arrayOf_words _ w hw)
  next => exact Or.inl (arrayOf_words none w hw)
  next => exact Or.inl (plainType_words _ w hw)
  next hclass =>
    split at hw
    next token hname =>
      split at hw
      next hbare =>
        rw [List.mem_singleton.mp hw]
        exact Or.inr ⟨hclass, hname, hbare⟩
      next =>
        rw [List.mem_singleton.mp hw]
        exact Or.inl (legalWord_marker .unmapped)
    next =>
      rw [List.mem_singleton.mp hw]
      exact Or.inl (legalWord_marker .unmapped)

/-- A literal name that can stand in a union as it is does so, where its return type has no
shape. -/
theorem unionMember_bare {rt : ReturnType} {w : String} (hclass : classify rt = .unrecognized)
    (hname : rt.nameText = some w) (hw : isBareToken w = true) :
    unionMember rt = .reference w := by
  simp [unionMember, hclass, hname, hw]

/-- Of several return types one has no shape, and the word is its literal name. -/
def LooseName (rts : List ReturnType) (w : String) : Prop :=
  2 ≤ rts.length ∧ ∃ rt ∈ rts, classify rt = .unrecognized ∧ rt.nameText = some w

/-- The words of a documented type that are not legal are the keywords of statements among the
literal names of return types without a shape. -/
theorem illegal_word_iff {rts : List ReturnType} {w : String} :
    w ∈ (typeOf rts).words ∧ ¬ LegalWord w ↔ w ∈ statementKeywords ∧ LooseName rts w := by
  rcases rts with _ | ⟨rt, _ | ⟨second, rest⟩⟩
  · have hlegal := legalWord_marker .missingData
    simpa [typeOf, Ty.words, LooseName] using fun h => h ▸ hlegal
  · have hlegal := singleType_words rt w
    simpa [typeOf, LooseName] using hlegal
  · constructor
    · rintro ⟨hw, hillegal⟩
      obtain ⟨t, ht, hw⟩ := Ty.mem_wordsOfAll.mp hw
      obtain ⟨member, hmember, rfl⟩ := List.mem_map.mp ht
      rcases unionMember_words hw with hlegal | ⟨hclass, hname, hbare⟩
      · exact absurd hlegal hillegal
      · rw [legalWord_iff hbare, not_not] at hillegal
        exact ⟨hillegal, by simp, member, hmember, hclass, hname⟩
    · rintro ⟨hkeyword, _, member, hmember, hclass, hname⟩
      have hbare := isBareToken_of_isIdentifier (statementKeywords_identifiers w hkeyword).1
      refine ⟨?_, fun hlegal => hlegal.no_statement hkeyword⟩
      refine Ty.mem_wordsOfAll.mpr ⟨unionMember member, List.mem_map_of_mem hmember, ?_⟩
      rw [unionMember_bare hclass hname hbare]
      exact List.mem_singleton_self w

/-- The words of the type of a property can all stand where a type is expected, and none is a
keyword of statements, exactly when no keyword of statements is the literal name of one of several
return types that has no shape. -/
theorem property_words_legal_iff (p : Property) :
    (∀ w ∈ p.type.words, LegalWord w ∧ w ∉ statementKeywords) ↔
      ∀ w ∈ statementKeywords, ¬ LooseName p.returnTypes w := by
  constructor
  · intro hlegal w hkeyword hloose
    obtain ⟨hw, hillegal⟩ := illegal_word_iff.mpr ⟨hkeyword, hloose⟩
    exact hillegal (hlegal w hw).1
  · intro hnone w hw
    have hlegal : LegalWord w := by
      by_contra hillegal
      obtain ⟨hkeyword, hloose⟩ := illegal_word_iff.mp ⟨hw, hillegal⟩
      exact hnone w hkeyword hloose
    exact ⟨hlegal, hlegal.no_statement⟩

/-- A union of a text and the word `class`, for which there is no type. -/
theorem class_stands_in_union :
    let p : Property :=
      { name := "p"
        returnType := some
          [{ type := some "string", name := some (.text "a") },
            { type := some "boolean", name := some (.text "class") }] }
    p.type.text = "\"a\" | class" ∧
      ¬ ∀ w ∈ p.type.words, LegalWord w ∧ w ∉ statementKeywords := by
  refine ⟨by decide +kernel, fun hlegal => ?_⟩
  exact (hlegal "class" (by decide +kernel)).2 (by decide)

end Typings

import Mathlib.Computability.Language
import Typings.Proofs.Json.Writing
import Typings.Proofs.TypeShapes
import Typings.Proofs.TypeWords

/-! # Numeric literals

The regular language of the numbers that are written out as they are documented: decimals with at
most one sign, a minus in front, and at most one point, without an exponent and without zeros ahead
of another digit. The test for numeric literals accepts this language, so whatever word of a type is
not an identifier belongs to it, and so does every integer.
-/

namespace Typings

open Computability Docs

/-! ## The language -/

def decimalDigit : Language Char := {cs | ∃ c, c.isDigit = true ∧ cs = [c]}

def nonzeroDigit : Language Char := {cs | ∃ c, c.isDigit = true ∧ c ≠ '0' ∧ cs = [c]}

/-- The digits before a point. -/
def wholeNumerals : Language Char := {['0']} + nonzeroDigit * decimalDigit∗

/-- A point stands behind a whole numeral, or it has digits behind it. -/
def unsignedNumerals : Language Char :=
  wholeNumerals * (1 + {['.']} * decimalDigit∗) + {['.']} * (decimalDigit * decimalDigit∗)

/-- The spellings of numeric literals. -/
def numericLiterals : Language Char := (1 + {['-']}) * unsignedNumerals

theorem mem_char_mul {c : Char} {L : Language Char} {cs : List Char} :
    cs ∈ {[c]} * L ↔ ∃ rest ∈ L, cs = c :: rest := by
  rw [Language.mem_mul]
  constructor
  · rintro ⟨_, rfl, rest, hrest, rfl⟩
    exact ⟨rest, hrest, rfl⟩
  · rintro ⟨rest, hrest, rfl⟩
    exact ⟨[c], rfl, rest, hrest, rfl⟩

theorem mem_digits_iff {cs : List Char} : cs ∈ decimalDigit∗ ↔ ∀ c ∈ cs, c.isDigit = true := by
  rw [Language.mem_kstar]
  constructor
  · rintro ⟨digits, rfl, hdigits⟩ c hc
    obtain ⟨digit, hdigit, hc⟩ := List.mem_flatten.mp hc
    obtain ⟨d, hd, rfl⟩ := hdigits digit hdigit
    rwa [List.mem_singleton.mp hc]
  · intro hdigits
    refine ⟨cs.map ([·]), by simp [← List.flatMap_def], ?_⟩
    exact List.forall_mem_map.mpr fun c hc => ⟨c, hdigits c hc, rfl⟩

theorem mem_digit_digits_iff {cs : List Char} :
    cs ∈ decimalDigit * decimalDigit∗ ↔ cs ≠ [] ∧ ∀ c ∈ cs, c.isDigit = true := by
  rw [Language.mem_mul]
  constructor
  · rintro ⟨_, ⟨c, hc, rfl⟩, rest, hrest, rfl⟩
    exact ⟨by simp, List.forall_mem_cons.mpr ⟨hc, mem_digits_iff.mp hrest⟩⟩
  · rintro ⟨hne, hdigits⟩
    obtain ⟨c, rest, rfl⟩ := List.exists_cons_of_ne_nil hne
    obtain ⟨hc, hrest⟩ := List.forall_mem_cons.mp hdigits
    exact ⟨[c], ⟨c, hc, rfl⟩, rest, mem_digits_iff.mpr hrest, rfl⟩

theorem mem_wholeNumerals_iff {cs : List Char} : cs ∈ wholeNumerals ↔
    cs ≠ [] ∧ (∀ c ∈ cs, c.isDigit = true) ∧ hasLeadingZero cs = false := by
  rw [wholeNumerals, Language.mem_add, Language.mem_mul]
  constructor
  · rintro (hzero | ⟨_, ⟨c, hc, hnonzero, rfl⟩, rest, hrest, rfl⟩)
    · obtain rfl : cs = ['0'] := hzero
      exact ⟨by simp, by simp, rfl⟩
    · refine ⟨by simp, List.forall_mem_cons.mpr ⟨hc, mem_digits_iff.mp hrest⟩, ?_⟩
      simp [hasLeadingZero, hnonzero]
  · rintro ⟨hne, hdigits, hzero⟩
    obtain ⟨c, rest, rfl⟩ := List.exists_cons_of_ne_nil hne
    obtain ⟨hc, hrest⟩ := List.forall_mem_cons.mp hdigits
    by_cases hnonzero : c = '0'
    · left
      subst hnonzero
      cases rest with
      | nil => rfl
      | cons d rest => simp_all [hasLeadingZero]
    · exact .inr ⟨[c], ⟨c, hc, hnonzero, rfl⟩, rest, mem_digits_iff.mpr hrest, rfl⟩

/-! ## The test -/

theorem isPlainDecimal_chars_iff {cs : List Char} : isPlainDecimal cs = true ↔
    (∀ c ∈ cs, c.isDigit = true ∨ c = '.') ∧ (∃ c ∈ cs, c.isDigit = true) ∧ cs.count '.' ≤ 1 := by
  simp [isPlainDecimal, and_assoc]

theorem count_point_digits {digits : List Char} (hdigits : ∀ c ∈ digits, c.isDigit = true) :
    digits.count '.' = 0 := by
  refine List.count_eq_zero.mpr fun hpoint => ?_
  cases hdigits '.' hpoint

theorem isPlainDecimal_digits {digits : List Char} (hne : digits ≠ [])
    (hdigits : ∀ c ∈ digits, c.isDigit = true) : isPlainDecimal digits = true := by
  obtain ⟨c, hc⟩ := List.exists_mem_of_ne_nil digits hne
  refine isPlainDecimal_chars_iff.mpr ⟨fun c hc => .inl (hdigits c hc), ⟨c, hc, hdigits c hc⟩, ?_⟩
  rw [count_point_digits hdigits]
  exact Nat.zero_le 1

theorem isPlainDecimal_point {whole fraction : List Char}
    (hwhole : ∀ c ∈ whole, c.isDigit = true) (hfraction : ∀ c ∈ fraction, c.isDigit = true)
    (hne : whole ≠ [] ∨ fraction ≠ []) : isPlainDecimal (whole ++ '.' :: fraction) = true := by
  refine isPlainDecimal_chars_iff.mpr ⟨?_, ?_, ?_⟩
  · refine List.forall_mem_append.mpr ⟨fun c hc => .inl (hwhole c hc), ?_⟩
    exact List.forall_mem_cons.mpr ⟨.inr rfl, fun c hc => .inl (hfraction c hc)⟩
  · rcases hne with hne | hne
    · obtain ⟨c, hc⟩ := List.exists_mem_of_ne_nil whole hne
      exact ⟨c, by simp [hc], hwhole c hc⟩
    · obtain ⟨c, hc⟩ := List.exists_mem_of_ne_nil fraction hne
      exact ⟨c, by simp [hc], hfraction c hc⟩
  · rw [List.count_append, List.count_cons_self, count_point_digits hwhole,
      count_point_digits hfraction]

/-- A plain decimal has digits and may have a point with further digits behind it; there is a digit
on one side of the point at least. -/
theorem isPlainDecimal_iff {cs : List Char} : isPlainDecimal cs = true ↔
    ∃ whole, (∀ c ∈ whole, c.isDigit = true) ∧ (whole ≠ [] ∧ cs = whole ∨
      ∃ fraction, (∀ c ∈ fraction, c.isDigit = true) ∧ (whole ≠ [] ∨ fraction ≠ []) ∧
        cs = whole ++ '.' :: fraction) := by
  constructor
  · intro hdecimal
    obtain ⟨hchars, ⟨d, hd, hdigit⟩, hpoints⟩ := isPlainDecimal_chars_iff.mp hdecimal
    by_cases hpoint : '.' ∈ cs
    · obtain ⟨whole, fraction, rfl⟩ := List.append_of_mem hpoint
      rw [List.count_append, List.count_cons_self] at hpoints
      -- the one point is the one between the two parts
      have hwhole : '.' ∉ whole := List.count_eq_zero.mp (by omega)
      have hfraction : '.' ∉ fraction := List.count_eq_zero.mp (by omega)
      obtain ⟨hwholeChars, hrestChars⟩ := List.forall_mem_append.mp hchars
      obtain ⟨_, hfractionChars⟩ := List.forall_mem_cons.mp hrestChars
      refine ⟨whole, fun c hc => (hwholeChars c hc).resolve_right (ne_of_mem_of_not_mem hc hwhole),
        .inr ⟨fraction, fun c hc => ?_, ?_, rfl⟩⟩
      · exact (hfractionChars c hc).resolve_right (ne_of_mem_of_not_mem hc hfraction)
      · by_contra hempty
        obtain ⟨rfl, rfl⟩ : whole = [] ∧ fraction = [] := by simpa using hempty
        obtain rfl : d = '.' := by simpa using hd
        cases hdigit
    · have hdigits : ∀ c ∈ cs, c.isDigit = true :=
        fun c hc => (hchars c hc).resolve_right (ne_of_mem_of_not_mem hc hpoint)
      exact ⟨cs, hdigits, .inl ⟨List.ne_nil_of_mem hd, rfl⟩⟩
  · rintro ⟨whole, hwhole, ⟨hne, rfl⟩ | ⟨fraction, hfraction, hne, rfl⟩⟩
    · exact isPlainDecimal_digits hne hwhole
    · exact isPlainDecimal_point hwhole hfraction hne

/-- A point behind digits makes no zero a leading one. -/
theorem hasLeadingZero_point (whole fraction : List Char) :
    hasLeadingZero (whole ++ '.' :: fraction) = hasLeadingZero whole := by
  rcases whole with _ | ⟨c, _ | ⟨d, rest⟩⟩
  · rfl
  · by_cases hc : c = '0' <;> simp [hasLeadingZero, hc]
  · by_cases hc : c = '0' <;> simp [hasLeadingZero, hc]

theorem mem_unsignedNumerals_iff {cs : List Char} : cs ∈ unsignedNumerals ↔
    hasLeadingZero cs = false ∧ isPlainDecimal cs = true := by
  rw [unsignedNumerals, Language.mem_add, mul_add, mul_one, Language.mem_add, mem_char_mul,
    isPlainDecimal_iff]
  constructor
  · rintro ((hcs | hcs) | ⟨fraction, hfraction, rfl⟩)
    · obtain ⟨hne, hdigits, hzero⟩ := mem_wholeNumerals_iff.mp hcs
      exact ⟨hzero, cs, hdigits, .inl ⟨hne, rfl⟩⟩
    · obtain ⟨whole, hwhole, _, htail, rfl⟩ := Language.mem_mul.mp hcs
      obtain ⟨fraction, hfraction, rfl⟩ := mem_char_mul.mp htail
      obtain ⟨hne, hdigits, hzero⟩ := mem_wholeNumerals_iff.mp hwhole
      refine ⟨by rw [hasLeadingZero_point, hzero], whole, hdigits, .inr ?_⟩
      exact ⟨fraction, mem_digits_iff.mp hfraction, .inl hne, rfl⟩
    · obtain ⟨hne, hdigits⟩ := mem_digit_digits_iff.mp hfraction
      exact ⟨rfl, [], by simp, .inr ⟨fraction, hdigits, .inr hne, rfl⟩⟩
  · rintro ⟨hzero, whole, hwhole, ⟨hne, rfl⟩ | ⟨fraction, hfraction, hne, rfl⟩⟩
    · exact .inl (.inl (mem_wholeNumerals_iff.mpr ⟨hne, hwhole, hzero⟩))
    · rw [hasLeadingZero_point] at hzero
      by_cases hempty : whole = []
      · subst hempty
        exact .inr ⟨fraction, mem_digit_digits_iff.mpr ⟨by simpa using hne, hfraction⟩, rfl⟩
      · have hmem := mem_wholeNumerals_iff.mpr ⟨hempty, hwhole, hzero⟩
        have htail : '.' :: fraction ∈ {['.']} * decimalDigit∗ :=
          mem_char_mul.mpr ⟨fraction, mem_digits_iff.mpr hfraction, rfl⟩
        exact .inl (.inr (Language.mem_mul.mpr ⟨whole, hmem, _, htail, rfl⟩))

theorem mem_numericLiterals_iff {cs : List Char} : cs ∈ numericLiterals ↔
    cs ∈ unsignedNumerals ∨ ∃ rest ∈ unsignedNumerals, cs = '-' :: rest := by
  rw [numericLiterals, add_mul, one_mul, Language.mem_add, mem_char_mul]

theorem unsignedNumerals_ne_minus {cs : List Char} (hcs : cs ∈ unsignedNumerals)
    (rest : List Char) : cs ≠ '-' :: rest := by
  rintro rfl
  have hdecimal := (mem_unsignedNumerals_iff.mp hcs).2
  simp [isPlainDecimal] at hdecimal

/-- The test accepts the language of numeric literals. -/
theorem isNumericLiteral_iff {s : String} :
    isNumericLiteral s = true ↔ s.toList ∈ numericLiterals := by
  rw [mem_numericLiterals_iff]
  unfold isNumericLiteral
  split
  next rest heq =>
    simp only [heq, List.cons.injEq, true_and, exists_eq_right', Bool.and_eq_true,
      Bool.not_eq_true', ← mem_unsignedNumerals_iff]
    exact ⟨.inr, fun h => h.resolve_left fun hcs => unsignedNumerals_ne_minus hcs rest rfl⟩
  next cs hne =>
    simp only [Bool.and_eq_true, Bool.not_eq_true', ← mem_unsignedNumerals_iff]
    refine ⟨.inl, fun h => h.resolve_right ?_⟩
    rintro ⟨rest, _, heq⟩
    exact hne rest heq

/-- What the language leaves no room for: letters and a plus sign, a minus behind the front, a
second point, a text without digits, and a zero ahead of another digit. -/
structure PlainlySpelled (cs : List Char) : Prop where
  chars : ∀ c ∈ cs, c.isDigit = true ∨ c = '.' ∨ c = '-'
  minus : '-' ∉ cs.tail
  point : cs.count '.' ≤ 1
  digit : ∃ c ∈ cs, c.isDigit = true
  zero : hasLeadingZero cs = false ∧ ∀ rest, cs = '-' :: rest → hasLeadingZero rest = false

theorem plainlySpelled_of_mem {cs : List Char} (hcs : cs ∈ numericLiterals) :
    PlainlySpelled cs := by
  -- without its sign the literal is a plain decimal, which has no minus in it
  have hunsigned : ∀ {ds : List Char}, ds ∈ unsignedNumerals →
      (∀ c ∈ ds, c.isDigit = true ∨ c = '.') ∧ (∃ c ∈ ds, c.isDigit = true) ∧
      ds.count '.' ≤ 1 ∧ '-' ∉ ds ∧ hasLeadingZero ds = false := by
    intro ds hds
    obtain ⟨hzero, hdecimal⟩ := mem_unsignedNumerals_iff.mp hds
    obtain ⟨hchars, hdigit, hpoint⟩ := isPlainDecimal_chars_iff.mp hdecimal
    refine ⟨hchars, hdigit, hpoint, fun hminus => ?_, hzero⟩
    rcases hchars '-' hminus with h | h <;> cases h
  rcases mem_numericLiterals_iff.mp hcs with hcs | ⟨rest, hrest, rfl⟩
  · obtain ⟨hchars, hdigit, hpoint, hminus, hzero⟩ := hunsigned hcs
    refine ⟨fun c hc => (hchars c hc).imp_right .inl, fun h => hminus (List.mem_of_mem_tail h),
      hpoint, hdigit, hzero, fun rest heq => ?_⟩
    exact absurd heq (unsignedNumerals_ne_minus hcs rest)
  · obtain ⟨hchars, ⟨d, hd, hdigit⟩, hpoint, hminus, hzero⟩ := hunsigned hrest
    refine ⟨List.forall_mem_cons.mpr ⟨.inr (.inr rfl), fun c hc => (hchars c hc).imp_right .inl⟩,
      hminus, by simpa using hpoint, ⟨d, List.mem_cons_of_mem _ hd, hdigit⟩, rfl, ?_⟩
    rintro _ ⟨⟩
    exact hzero

/-! ## Numbers in types -/

section Types

variable {rt : ReturnType} {t : Ty} {spelling : String}

theorem ReferenceShape.no_number {word : Option String} (hshape : ReferenceShape word t) :
    .literal (.number spelling) ∉ t.nodes := by
  cases hshape <;> simp [Ty.nodes]

theorem SingleShape.no_number (hshape : SingleShape rt t) :
    .literal (.number spelling) ∉ t.nodes := by
  cases hshape with
  | primitive kind _ => simp [Ty.nodes]
  | named t hnamed => exact hnamed.no_number
  | array element helement => simpa [Ty.nodes] using helement.no_number

theorem MemberShape.number_spelled (hshape : MemberShape rt t)
    (hnumber : .literal (.number spelling) ∈ t.nodes) : isNumericLiteral spelling = true := by
  cases hshape with
  | single t hsingle => exact absurd hnumber hsingle.no_number
  | scalars kind _ => simp [Ty.nodes] at hnumber
  | text value _ => simp [Ty.nodes] at hnumber
  | number written _ hnumeric =>
      obtain rfl : spelling = written := by simpa [Ty.nodes] using hnumber
      exact hnumeric
  | token name _ _ => simp [Ty.nodes] at hnumber

/-- A number in a documented type passes the test. -/
theorem TypeShape.number_spelled {rts : List ReturnType} (hshape : TypeShape rts t)
    (hnumber : .literal (.number spelling) ∈ t.nodes) : isNumericLiteral spelling = true := by
  cases hshape with
  | undocumented => simp [Ty.nodes] at hnumber
  | single rt t hsingle => exact absurd hnumber hsingle.no_number
  | union rts _ hshapes =>
      rw [Ty.nodes, Ty.nodesOfAll_eq, List.mem_cons, List.mem_flatMap] at hnumber
      obtain ⟨_, hmember, hnode⟩ := hnumber.resolve_left Ty.noConfusion
      obtain ⟨rt, hrt, rfl⟩ := List.mem_map.mp hmember
      exact (hshapes rt hrt).number_spelled hnode

end Types

mutual

theorem Ty.WellFormed.words {t : Ty} (ht : t.WellFormed) {w : String} (hw : w ∈ t.words) :
    isBareToken w = true := by
  match t with
  | .primitive kind =>
      rw [List.mem_singleton.mp hw]
      exact isBareToken_primitive kind
  | .array element => exact Ty.WellFormed.words (t := element) ht hw
  | .union members => exact Ty.AllWellFormed.words ht.2 hw
  | .literal (.string value) => cases hw
  | .literal (.number spelling) =>
      rw [List.mem_singleton.mp hw]
      exact ht
  | .reference name =>
      rw [List.mem_singleton.mp hw]
      exact ht
  | .marker gap =>
      rw [List.mem_singleton.mp hw]
      exact isBareToken_marker gap

theorem Ty.AllWellFormed.words {members : List Ty} (hmembers : Ty.AllWellFormed members)
    {w : String} (hw : w ∈ Ty.wordsOfAll members) : isBareToken w = true := by
  match members with
  | [] => cases hw
  | member :: rest =>
      rcases List.mem_append.mp hw with hw | hw
      · exact Ty.WellFormed.words hmembers.1 hw
      · exact Ty.AllWellFormed.words hmembers.2 hw

end

/-- A word of a documented type is an identifier or a number. -/
theorem Ty.WellFormed.word_spelled {t : Ty} (ht : t.WellFormed) {w : String} (hw : w ∈ t.words) :
    isIdentifier w = true ∨ w.toList ∈ numericLiterals := by
  have hbare := ht.words hw
  rw [isBareToken, Bool.or_eq_true, isNumericLiteral_iff] at hbare
  exact hbare

/-! ## Integers -/

namespace Json

theorem WholeDigits.mem_wholeNumerals (w : WholeDigits) : w.chars ∈ wholeNumerals := by
  refine mem_wholeNumerals_iff.mpr ⟨w.ne_nil, w.areDigits, ?_⟩
  unfold hasLeadingZero
  split
  next c rest heq =>
    have hzero := w.no_leading_zero (by rw [heq, List.head?_cons])
    rw [heq] at hzero
    cases hzero
  next => rfl

/-- A number of a document is a numeric literal as it is written, if it has no exponent. -/
theorem NumberText.mem_numericLiterals {n : NumberText} (hexponent : n.exponent = none) :
    n.chars ∈ numericLiterals := by
  have hunsigned : n.whole.chars ++ NumberText.fractionChars n.fraction ∈ unsignedNumerals := by
    rw [unsignedNumerals]
    refine .inl (Language.mem_mul.mpr ⟨_, n.whole.mem_wholeNumerals, _, ?_, rfl⟩)
    cases n.fraction with
    | none => exact .inl rfl
    | some digits => exact .inr (mem_char_mul.mpr ⟨_, mem_digits_iff.mpr digits.areDigits, rfl⟩)
  rw [NumberText.chars, hexponent, NumberText.exponentChars, List.append_nil]
  cases n.negative with
  | false => exact mem_numericLiterals_iff.mpr (.inl hunsigned)
  | true => exact mem_numericLiterals_iff.mpr (.inr ⟨_, hunsigned, rfl⟩)

/-- The integer is shown as it is written. -/
theorem NumberText.IsInteger.chars {n : NumberText} {i : Int} (h : n.IsInteger i) :
    n.chars = (toString i).toList := by
  rw [NumberText.chars, h.negative, h.whole, h.fraction, h.exponent, Int.toString_eq_repr]
  cases i with
  | ofNat m => simp [Int.repr, NumberText.fractionChars, NumberText.exponentChars,
      Nat.repr_eq_ofList_toDigits]
  | negSucc m => simp [Int.repr, NumberText.fractionChars, NumberText.exponentChars,
      Nat.repr_eq_ofList_toDigits, Int.negSucc_lt_zero]

end Json

theorem isNumericLiteral_toString (n : Int) : isNumericLiteral (toString n) = true := by
  rw [isNumericLiteral_iff, ← (Json.NumberText.ofInt_isInteger n).chars]
  exact Json.NumberText.mem_numericLiterals rfl

theorem classify_numericLiteral {rt : ReturnType} {literal : String}
    (htype : rt.type = some "number") (hname : rt.nameText = some literal)
    (hliteral : isNumericLiteral literal = true) :
    classify rt = .enumeration literal .number := by
  have hne : literal.isEmpty = false := by
    rw [Bool.eq_false_iff]
    rintro hempty
    rw [String.isEmpty_iff.mp hempty] at hliteral
    cases hliteral
  simp [classify, htype, hname, hne, hliteral]

/-- The least integer of 64 bits, as a number. -/
def leastInteger : ReturnType where
  type := some "number"
  name := some (.number (.integer (-9223372036854775808)))

end Typings

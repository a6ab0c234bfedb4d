import Typings.Proofs.Json.Grammar

/-! # Texts for values

A text for every string, every integer and every value.
-/

namespace Typings.Json

theorem Spaced.flat (ps : List Piece) : Spaced ps (ps.flatMap Piece.chars) := by
  induction ps with
  | nil => exact .nil
  | cons p ps ih =>
      have hspace : IsSpace [] := by simp [IsSpace]
      exact .cons p hspace ih

/-! ## Strings -/

/-- The character itself where this is allowed, and an escape of the form `\u` otherwise. -/
def Glyph.ofChar (c : Char) : Glyph :=
  if h : IsPlain c then .plain c h
  else .unit ⟨0, false⟩ ⟨0, false⟩ ⟨Fin.ofNat 16 (c.toNat / 16), false⟩
    ⟨Fin.ofNat 16 (c.toNat % 16), false⟩

def TextLiteral.ofString (s : String) : TextLiteral := s.toList.map Glyph.ofChar

theorem toNat_lt_of_not_plain {c : Char} (hc : ¬ IsPlain c) : c.toNat < 256 := by
  refine Decidable.byContradiction fun hle => hc ⟨by omega, ?_, ?_⟩
  · rintro rfl
    exact hle (by decide)
  · rintro rfl
    exact hle (by decide)

theorem TextLiteral.Means.ofChar (c : Char) {l : TextLiteral} {s : List Char} (h : l.Means s) :
    TextLiteral.Means (Glyph.ofChar c :: l) (c :: s) := by
  unfold Glyph.ofChar
  split
  next hplain => exact .plain hplain h
  next hplain =>
    have hlt := toNat_lt_of_not_plain hplain
    refine .unit ?_ h
    simp only [codeUnit, Fin.ofNat, Fin.val_zero]
    omega

theorem TextLiteral.ofString_denotes (s : String) : (TextLiteral.ofString s).Denotes s := by
  have hmeans : ∀ cs : List Char, TextLiteral.Means (cs.map Glyph.ofChar) cs := by
    intro cs
    induction cs with
    | nil => exact .nil
    | cons c cs ih => exact ih.ofChar c
  exact hmeans s.toList

/-! ## Integers -/

theorem head_toDigits {n : Nat} (hn : 0 < n) : (Nat.toDigits 10 n).head? ≠ some '0' := by
  induction n using Nat.strongRecOn with
  | _ n ih =>
      by_cases hlt : n < 10
      · rw [Nat.toDigits_of_lt_base hlt, List.head?_cons]
        have hdigit : ∀ d, d < 10 → Nat.digitChar d = '0' → d = 0 := by decide
        intro hzero
        exact Nat.ne_of_gt hn (hdigit n hlt (Option.some.inj hzero))
      · have hfront := ih (n / 10) (by omega) (by omega)
        rw [Nat.toDigits_of_base_le (by decide) (by omega), List.head?_append]
        cases hhead : (Nat.toDigits 10 (n / 10)).head? with
        | none => exact absurd (List.head?_eq_none_iff.mp hhead) Nat.toDigits_ne_nil
        | some c => rwa [hhead] at hfront

/-- The digits of a number. -/
def WholeDigits.ofNat (n : Nat) : WholeDigits where
  chars := Nat.toDigits 10 n
  areDigits _ hc := Nat.isDigit_of_mem_toDigits (by decide) (by decide) hc
  ne_nil := Nat.toDigits_ne_nil
  no_leading_zero := by
    intro hzero
    rcases Nat.eq_zero_or_pos n with rfl | hn
    · rfl
    · exact absurd hzero (head_toDigits hn)

def NumberText.ofInt (i : Int) : NumberText where
  negative := decide (i < 0)
  whole := .ofNat i.natAbs
  fraction := none
  exponent := none

theorem le_ofDigitChars (cs : List Char) (n : Nat) : n ≤ Nat.ofDigitChars 10 cs n := by
  rw [Nat.ofDigitChars_eq_ofDigitChars_zero]
  have hpos : 0 < 10 ^ cs.length := Nat.pow_pos (by decide)
  exact Nat.le_trans (Nat.le_mul_of_pos_left n hpos) (Nat.le_add_right _ _)

theorem wholeDigits_eq {cs : List Char} {significand : Nat}
    (hfits : Nat.ofDigitChars 10 cs significand ≤ maxSignificand) :
    wholeDigits significand cs = (Nat.ofDigitChars 10 cs significand, 0) := by
  induction cs generalizing significand with
  | nil => rfl
  | cons c cs ih =>
      rw [Nat.ofDigitChars_cons, Nat.mul_comm] at hfits
      -- further digits make a number no smaller, so the limit is not passed on the way
      have hnext := Nat.le_trans (le_ofDigitChars cs _) hfits
      rw [wholeDigits, digitValue, if_neg (by omega), ih hfits, Nat.ofDigitChars_cons, Nat.mul_comm]

/-- The integer fits 64 bits, with a sign or without one. -/
def FitsNumber (i : Int) : Prop :=
  -(Nat.pow 2 63 : Nat) ≤ i ∧ i < (Nat.pow 2 64 : Nat)

/-- The number is written as an integer usually is. -/
structure NumberText.IsInteger (n : NumberText) (i : Int) : Prop where
  negative : n.negative = decide (i < 0)
  whole : n.whole.chars = Nat.toDigits 10 i.natAbs
  fraction : n.fraction = none
  exponent : n.exponent = none

theorem NumberText.ofInt_isInteger (i : Int) : (NumberText.ofInt i).IsInteger i :=
  ⟨rfl, rfl, rfl, rfl⟩

theorem NumberText.IsInteger.value {n : NumberText} {i : Int} (h : n.IsInteger i)
    (hfits : FitsNumber i) : n.numeral.value = .ok (.integer i) := by
  obtain ⟨hlower, hupper⟩ := hfits
  have hdigits : wholeDigits 0 (Nat.toDigits 10 i.natAbs) = (i.natAbs, 0) := by
    rw [wholeDigits_eq, Nat.ofDigitChars_ten_toDigits]
    rw [Nat.ofDigitChars_ten_toDigits, maxSignificand]
    have h63 : Nat.pow 2 63 = 9223372036854775808 := by decide
    have h64 : Nat.pow 2 64 = 18446744073709551616 := by decide
    omega
  have hinteger : n.numeral.integer? = some i := by
    simp only [Numeral.integer?, NumberText.numeral, h.fraction, h.exponent, h.whole,
      Option.map_none, hdigits, h.negative]
    by_cases hi : i < 0
    · simp only [hi, decide_true, Bool.not_true, Bool.false_eq_true, if_false]
      rw [if_pos (by omega)]
      congr 1
      omega
    · simp only [hi, decide_false, Bool.not_false, if_true]
      congr 1
      omega
  rw [Numeral.value, hinteger]

end Typings.Json

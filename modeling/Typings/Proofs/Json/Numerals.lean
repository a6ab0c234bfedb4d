import Mathlib.Data.List.TakeWhile
import Typings.Proofs.Json.Grammar

/-! # Numbers of a document

A number is read in three parts, each as far as its digits go. So every number of the grammar is
read to its end where nothing follows that it could go on with, and what is read is a number of the
grammar.
-/

namespace Typings.Json

/-- The text does not go on with a number. -/
def EndsNumber (rest : List Char) : Prop :=
  ∀ c, rest.head? = some c → c.isDigit = false ∧ c ≠ '.' ∧ c ≠ 'e' ∧ c ≠ 'E'

/-- The text does not go on with a digit. -/
def EndsDigits (rest : List Char) : Prop := ∀ c, rest.head? = some c → c.isDigit = false

/-! ## Digits -/

theorem takeWhile_digits (d : Digits) {rest : List Char} (hrest : EndsDigits rest) :
    (d.chars ++ rest).takeWhile Char.isDigit = d.chars := by
  rw [List.takeWhile_append_of_pos d.areDigits]
  cases rest with
  | nil => simp
  | cons c rest => simp [hrest c rfl]

theorem dropWhile_digits (d : Digits) {rest : List Char} (hrest : EndsDigits rest) :
    (d.chars ++ rest).dropWhile Char.isDigit = rest := by
  rw [List.dropWhile_append_of_pos d.areDigits]
  cases rest with
  | nil => simp
  | cons c rest => simp [hrest c rfl]

theorem ne_of_isDigit {c d : Char} (hc : c.isDigit = true) (hd : d.isDigit = false) : c ≠ d := by
  rintro rfl
  exact Bool.false_ne_true (hd.symm.trans hc)

theorem Digits.exists_cons (d : Digits) :
    ∃ c cs, d.chars = c :: cs ∧ c.isDigit = true := by
  obtain ⟨c, cs, hchars⟩ := List.exists_cons_of_ne_nil d.ne_nil
  exact ⟨c, cs, hchars, d.areDigits c (hchars ▸ List.mem_cons_self)⟩

/-- The digits at the head of a text that begins with one. -/
def leadingDigits (c : Char) (rest : List Char) (hc : c.isDigit = true) : Digits where
  chars := (c :: rest).takeWhile Char.isDigit
  areDigits _ := List.mem_takeWhile_imp
  ne_nil := by simp [hc]

theorem leadingDigits_append (c : Char) (rest : List Char) (hc : c.isDigit = true) :
    c :: rest = (leadingDigits c rest hc).chars ++ (c :: rest).dropWhile Char.isDigit :=
  List.takeWhile_append_dropWhile.symm

/-! ## The digits before the point -/

theorem readWhole_digits (w : WholeDigits) (p : Position) {rest : List Char}
    (hrest : EndsDigits rest) :
    ∃ p', readWhole p (w.chars ++ rest) = .ok (w.chars, ⟨p', rest⟩) := by
  have htake := takeWhile_digits w.toDigits hrest
  have hdrop := dropWhile_digits w.toDigits hrest
  have hnil := w.ne_nil
  have hdigits := w.areDigits
  have hzero := w.no_leading_zero
  generalize w.chars = cs at *
  cases cs with
  | nil => exact absurd rfl hnil
  | cons c cs =>
      by_cases hc : c = '0'
      · subst hc
        obtain rfl : cs = [] := by simpa using hzero rfl
        have hnext : rest.head?.any Char.isDigit = false := by
          cases hhead : rest.head? with
          | none => rfl
          | some d => exact hrest d hhead
        exact ⟨p.skip 1, by simp [readWhole, hnext]⟩
      · have hdigit := hdigits c List.mem_cons_self
        refine ⟨p.skip (c :: cs).length, ?_⟩
        simp only [List.cons_append] at htake hdrop ⊢
        simp only [readWhole, hdigit, if_true, htake, hdrop]

theorem readWhole_sound {p : Position} {cs ds : List Char} {c : Cursor}
    (hread : readWhole p cs = .ok (ds, c)) :
    ∃ w : WholeDigits, w.chars = ds ∧ cs = w.chars ++ c.rest := by
  unfold readWhole at hread
  split at hread
  · cases hread
  · split at hread
    · cases hread
    · cases hread
      exact ⟨⟨⟨['0'], by simp, by simp⟩, fun _ => rfl⟩, rfl, rfl⟩
  next d rest hzero =>
    split at hread
    next hd =>
      cases hread
      refine ⟨⟨leadingDigits d rest hd, fun hhead => ?_⟩, rfl, leadingDigits_append d rest hd⟩
      have hfirst : d = '0' := by simpa [leadingDigits, hd] using hhead
      exact absurd hfirst hzero
    next => cases hread

/-! ## The fraction -/

theorem readFraction_digits (fraction : Option Digits) (p : Position) {rest : List Char}
    (hrest : EndsDigits rest) (hpoint : rest.head? ≠ some '.') :
    ∃ p', readFraction p (NumberText.fractionChars fraction ++ rest) =
      .ok (fraction.map (·.chars), ⟨p', rest⟩) := by
  cases fraction with
  | none =>
      refine ⟨p, ?_⟩
      cases rest with
      | nil => rfl
      | cons c rest =>
          have hc : c ≠ '.' := fun h => hpoint (by rw [h]; rfl)
          simp [NumberText.fractionChars, readFraction, hc]
  | some digits =>
      refine ⟨p.skip (digits.chars.length + 1), ?_⟩
      simp [NumberText.fractionChars, readFraction, takeWhile_digits digits hrest,
        dropWhile_digits digits hrest, digits.ne_nil]

theorem readFraction_sound {p : Position} {cs : List Char} {fraction : Option (List Char)}
    {c : Cursor} (hread : readFraction p cs = .ok (fraction, c)) :
    ∃ f : Option Digits, f.map (·.chars) = fraction ∧
      cs = NumberText.fractionChars f ++ c.rest := by
  unfold readFraction at hread
  split at hread
  next rest =>
    cases rest with
    | nil => cases hread
    | cons d rest =>
      simp only at hread
      split at hread
      · cases hread
      next hne =>
        cases hread
        have hd : d.isDigit = true := by
          by_contra hd
          simp [hd] at hne
        refine ⟨some (leadingDigits d rest hd), rfl, ?_⟩
        exact congrArg ('.' :: ·) (leadingDigits_append d rest hd)
  next =>
    cases hread
    exact ⟨none, rfl, rfl⟩

/-! ## The exponent -/

/-- The digits of an exponent, whose sign has been read. -/
def readExponentDigits (p : Position) (down : Bool) :
    List Char → Except NumeralFailure (Option (Bool × List Char) × Cursor)
  | [] => .error (.atEnd p)
  | c :: rest =>
    if c.isDigit then
      let digits := (c :: rest).takeWhile Char.isDigit
      .ok (some (down, digits), ⟨p.skip digits.length, (c :: rest).dropWhile Char.isDigit⟩)
    else .error (.invalid (p.into c))

theorem readExponent_cons (p : Position) (c : Char) (rest : List Char) :
    readExponent p (c :: rest) =
      if c = 'e' ∨ c = 'E' then
        match rest with
        | '+' :: rest => readExponentDigits (p.skip 2) false rest
        | '-' :: rest => readExponentDigits (p.skip 2) true rest
        | rest => readExponentDigits (p.skip 1) false rest
      else .ok (none, ⟨p, c :: rest⟩) :=
  rfl

theorem readExponentDigits_digits (digits : Digits) (p : Position) (down : Bool)
    {rest : List Char} (hrest : EndsDigits rest) :
    ∃ p', readExponentDigits p down (digits.chars ++ rest) =
      .ok (some (down, digits.chars), ⟨p', rest⟩) := by
  have htake := takeWhile_digits digits hrest
  have hdrop := dropWhile_digits digits hrest
  have hdigits := digits.areDigits
  have hnil := digits.ne_nil
  generalize digits.chars = cs at *
  cases cs with
  | nil => exact absurd rfl hnil
  | cons c cs =>
      refine ⟨p.skip (c :: cs).length, ?_⟩
      simp only [List.cons_append] at htake hdrop ⊢
      simp only [readExponentDigits, hdigits c List.mem_cons_self, if_true, htake, hdrop]

theorem readExponentDigits_sound {p : Position} {down : Bool} {cs : List Char}
    {exponent : Option (Bool × List Char)} {c : Cursor}
    (hread : readExponentDigits p down cs = .ok (exponent, c)) :
    ∃ digits : Digits, exponent = some (down, digits.chars) ∧ cs = digits.chars ++ c.rest := by
  cases cs with
  | nil => cases hread
  | cons d rest =>
      rw [readExponentDigits] at hread
      split at hread
      next hd =>
        cases hread
        exact ⟨leadingDigits d rest hd, rfl, leadingDigits_append d rest hd⟩
      next => cases hread

theorem readExponent_digits (exponent : Option ExponentText) (p : Position) {rest : List Char}
    (hrest : EndsNumber rest) :
    ∃ p', readExponent p (NumberText.exponentChars exponent ++ rest) =
      .ok (exponent.map fun e => (e.sign.isMinus, e.digits.chars), ⟨p', rest⟩) := by
  have hdigits : EndsDigits rest := fun c hc => (hrest c hc).1
  cases exponent with
  | none =>
      refine ⟨p, ?_⟩
      cases rest with
      | nil => rfl
      | cons c rest =>
          obtain ⟨_, _, he, hE⟩ := hrest c rfl
          simp [NumberText.exponentChars, readExponent_cons, he, hE]
  | some exponent =>
      obtain ⟨isUpper, sign, digits⟩ := exponent
      have hletter : (if isUpper then 'E' else 'e') = 'e' ∨
          (if isUpper then 'E' else 'e') = 'E' := by
        cases isUpper <;> simp
      simp only [NumberText.exponentChars, ExponentText.chars, List.cons_append, List.append_assoc,
        readExponent_cons, if_pos hletter, Option.map_some]
      cases sign with
      | plus => exact readExponentDigits_digits digits _ false hdigits
      | minus => exact readExponentDigits_digits digits _ true hdigits
      | none =>
          -- the first digit is no sign
          obtain ⟨p', hp'⟩ := readExponentDigits_digits digits (p.skip 1) false hdigits
          refine ⟨p', ?_⟩
          obtain ⟨d, ds, hchars, hd⟩ := digits.exists_cons
          rw [hchars] at hp' ⊢
          simpa [ExponentSign.chars, ExponentSign.isMinus,
            ne_of_isDigit hd (show '+'.isDigit = false from rfl),
            ne_of_isDigit hd (show '-'.isDigit = false from rfl)] using hp'

theorem readExponent_sound {p : Position} {cs : List Char}
    {exponent : Option (Bool × List Char)} {c : Cursor}
    (hread : readExponent p cs = .ok (exponent, c)) :
    ∃ e : Option ExponentText, (e.map fun e => (e.sign.isMinus, e.digits.chars)) = exponent ∧
      cs = NumberText.exponentChars e ++ c.rest := by
  cases cs with
  | nil =>
      cases hread
      exact ⟨none, rfl, rfl⟩
  | cons d rest =>
      rw [readExponent_cons] at hread
      split at hread
      next hletter =>
        obtain ⟨isUpper, rfl⟩ : ∃ isUpper : Bool, d = if isUpper then 'E' else 'e' := by
          rcases hletter with rfl | rfl
          · exact ⟨false, rfl⟩
          · exact ⟨true, rfl⟩
        split at hread
        · obtain ⟨digits, rfl, rfl⟩ := readExponentDigits_sound hread
          exact ⟨some ⟨isUpper, .plus, digits⟩, rfl, rfl⟩
        · obtain ⟨digits, rfl, rfl⟩ := readExponentDigits_sound hread
          exact ⟨some ⟨isUpper, .minus, digits⟩, rfl, rfl⟩
        · obtain ⟨digits, rfl, rfl⟩ := readExponentDigits_sound hread
          exact ⟨some ⟨isUpper, .none, digits⟩, rfl, rfl⟩
      next =>
        cases hread
        exact ⟨none, rfl, rfl⟩

/-! ## The whole number -/

theorem head_exponentChars (exponent : Option ExponentText) {rest : List Char}
    (hrest : EndsNumber rest) :
    EndsDigits (NumberText.exponentChars exponent ++ rest) ∧
      (NumberText.exponentChars exponent ++ rest).head? ≠ some '.' := by
  cases exponent with
  | none =>
      refine ⟨fun c hc => (hrest c hc).1, fun hpoint => ?_⟩
      exact (hrest '.' hpoint).2.1 rfl
  | some exponent =>
      cases hupper : exponent.isUpper <;>
        simp [NumberText.exponentChars, ExponentText.chars, EndsDigits, hupper]

theorem head_fractionChars (fraction : Option Digits) {rest : List Char}
    (hrest : EndsDigits rest) : EndsDigits (NumberText.fractionChars fraction ++ rest) := by
  cases fraction with
  | none => exact hrest
  | some digits => simp [NumberText.fractionChars, EndsDigits]

/-- A number behind its sign. -/
def readUnsigned (negative : Bool) (p : Position) (cs : List Char) :
    Except NumeralFailure (Numeral × Cursor) := do
  let (integer, c) ← readWhole p cs
  let (fraction, c) ← readFraction c.position c.rest
  let (exponent, c) ← readExponent c.position c.rest
  return (⟨negative, integer, fraction, exponent⟩, c)

theorem readNumeral_minus (p : Position) (rest : List Char) :
    readNumeral p ('-' :: rest) = readUnsigned true (p.skip 1) rest :=
  rfl

theorem readNumeral_unsigned (p : Position) {cs : List Char} (hcs : ∀ rest, cs ≠ '-' :: rest) :
    readNumeral p cs = readUnsigned false p cs :=
  readNumeral.eq_2 p cs hcs

theorem readUnsigned_chars (n : NumberText) (p : Position) {rest : List Char}
    (hrest : EndsNumber rest) :
    ∃ p', readUnsigned n.negative p (n.whole.chars ++ (NumberText.fractionChars n.fraction ++
      (NumberText.exponentChars n.exponent ++ rest))) = .ok (n.numeral, ⟨p', rest⟩) := by
  obtain ⟨hexponent, hpoint⟩ := head_exponentChars n.exponent hrest
  obtain ⟨p₁, hwhole⟩ := readWhole_digits n.whole p
    (head_fractionChars n.fraction hexponent)
  obtain ⟨p₂, hfraction⟩ := readFraction_digits n.fraction p₁ hexponent hpoint
  obtain ⟨p₃, hexp⟩ := readExponent_digits n.exponent p₂ hrest
  refine ⟨p₃, ?_⟩
  simp only [readUnsigned, hwhole, hfraction, hexp, bind, Except.bind]
  rfl

/-- A number is read to its end, where nothing follows that it could go on with. -/
theorem readNumeral_chars (n : NumberText) (p : Position) {rest : List Char}
    (hrest : EndsNumber rest) :
    ∃ p', readNumeral p (n.chars ++ rest) = .ok (n.numeral, ⟨p', rest⟩) := by
  cases hnegative : n.negative with
  | true =>
      obtain ⟨p', hread⟩ := readUnsigned_chars n (p.skip 1) hrest
      refine ⟨p', ?_⟩
      rw [hnegative] at hread
      simp only [NumberText.chars, hnegative, if_true, List.cons_append, List.nil_append,
        List.append_assoc, readNumeral_minus, hread]
  | false =>
      obtain ⟨p', hread⟩ := readUnsigned_chars n p hrest
      refine ⟨p', ?_⟩
      obtain ⟨c, cs, hchars, hc⟩ := n.whole.exists_cons
      have hminus : c ≠ '-' := ne_of_isDigit hc rfl
      rw [hnegative] at hread
      simp only [NumberText.chars, hnegative, Bool.false_eq_true, if_false, List.nil_append,
        List.append_assoc]
      rw [readNumeral_unsigned, hread]
      simp [hchars, hminus]

theorem readUnsigned_sound {negative : Bool} {p : Position} {cs : List Char} {m : Numeral}
    {c : Cursor} (hread : readUnsigned negative p cs = .ok (m, c)) :
    ∃ n : NumberText, n.negative = negative ∧ n.numeral = m ∧
      cs = n.whole.chars ++ (NumberText.fractionChars n.fraction ++
        (NumberText.exponentChars n.exponent ++ c.rest)) := by
  simp only [readUnsigned, bind, Except.bind] at hread
  split at hread
  · cases hread
  next first hwhole =>
    split at hread
    · cases hread
    next second hfraction =>
      split at hread
      · cases hread
      next third hexponent =>
        obtain ⟨w, hw, hcs⟩ := readWhole_sound hwhole
        obtain ⟨f, hf, hbehind⟩ := readFraction_sound hfraction
        obtain ⟨e, he, hrest⟩ := readExponent_sound hexponent
        cases hread
        refine ⟨⟨negative, w, f, e⟩, rfl, ?_, ?_⟩
        · simp only [NumberText.numeral, hw, hf, he]
        · rw [hcs, hbehind, hrest]

theorem readNumeral_sound {p : Position} {cs : List Char} {m : Numeral} {c : Cursor}
    (hread : readNumeral p cs = .ok (m, c)) :
    ∃ n : NumberText, n.numeral = m ∧ cs = n.chars ++ c.rest := by
  by_cases hminus : ∃ rest, cs = '-' :: rest
  · obtain ⟨rest, rfl⟩ := hminus
    obtain ⟨n, hnegative, hn, rfl⟩ := readUnsigned_sound (readNumeral_minus p rest ▸ hread)
    exact ⟨n, hn, by simp [NumberText.chars, hnegative]⟩
  · rw [readNumeral_unsigned p fun rest h => hminus ⟨rest, h⟩] at hread
    obtain ⟨n, hnegative, hn, rfl⟩ := readUnsigned_sound hread
    exact ⟨n, hn, by simp [NumberText.chars, hnegative]⟩

end Typings.Json

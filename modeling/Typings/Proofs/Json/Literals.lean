import Typings.Proofs.Json.Grammar

/-! # Texts of a document

A literal can be passed exactly if it consists of glyphs up to its closing quote. Reading it finds
the characters that the glyphs stand for, and fails where they stand for nothing.
-/

namespace Typings.Json

/-! ## Escapes -/

theorem hexDigit?_char (d : HexDigit) : hexDigit? d.char = some d.value.val := by
  obtain ⟨value, isUpper⟩ := d
  revert value isUpper
  decide

theorem hexDigit_char_decimal :
    ∀ value : Fin 16, value < 10 → (HexDigit.mk value false).char = Char.ofNat (value + 48) := by
  decide

theorem hexDigit_char_lower :
    ∀ value : Fin 16, 10 ≤ value → (HexDigit.mk value false).char = Char.ofNat (value + 87) := by
  decide

theorem hexDigit_char_upper :
    ∀ value : Fin 16, 10 ≤ value → (HexDigit.mk value true).char = Char.ofNat (value + 55) := by
  decide

theorem exists_hexDigit {c : Char} {n : Nat} (hread : hexDigit? c = some n) :
    ∃ d : HexDigit, d.char = c := by
  have hrange : (48 ≤ c.toNat ∧ c.toNat ≤ 57) ∨ (97 ≤ c.toNat ∧ c.toNat ≤ 102) ∨
      (65 ≤ c.toNat ∧ c.toNat ≤ 70) := by
    simp only [hexDigit?, Char.le_def, UInt32.le_iff_toNat_le] at hread
    change (if 48 ≤ c.toNat ∧ c.toNat ≤ 57 then _ else if 97 ≤ c.toNat ∧ c.toNat ≤ 102 then _ else
      if 65 ≤ c.toNat ∧ c.toNat ≤ 70 then _ else _) = _ at hread
    grind
  rw [← Char.ofNat_toNat c]
  rcases hrange with ⟨hlow, hhigh⟩ | ⟨hlow, hhigh⟩ | ⟨hlow, hhigh⟩
  · refine ⟨_, (hexDigit_char_decimal ⟨c.toNat - 48, by omega⟩ ?_).trans ?_⟩
    · exact Fin.lt_def.mpr (by simp; omega)
    · simp only [Nat.sub_add_cancel hlow]
  · refine ⟨_, (hexDigit_char_lower ⟨c.toNat - 87, by omega⟩ ?_).trans ?_⟩
    · exact Fin.le_def.mpr (by simp; omega)
    · simp only [Nat.sub_add_cancel (show 87 ≤ c.toNat by omega)]
  · refine ⟨_, (hexDigit_char_upper ⟨c.toNat - 55, by omega⟩ ?_).trans ?_⟩
    · exact Fin.le_def.mpr (by simp; omega)
    · simp only [Nat.sub_add_cancel (show 55 ≤ c.toNat by omega)]

theorem hexUnit?_chars (a b c d : HexDigit) :
    hexUnit? a.char b.char c.char d.char = some (codeUnit a b c d) := by
  simp only [hexUnit?, hexDigit?_char, codeUnit, Option.bind_eq_bind, Option.bind_some,
    Option.pure_def]

theorem codeUnit_lt (a b c d : HexDigit) : codeUnit a b c d < 0x10000 := by
  have ha := a.value.isLt
  have hb := b.value.isLt
  have hc := c.value.isLt
  have hd := d.value.isLt
  simp only [codeUnit]
  omega

theorem exists_hexDigits {a b c d : Char} {unit : Nat} (hread : hexUnit? a b c d = some unit) :
    ∃ w x y z : HexDigit, w.char = a ∧ x.char = b ∧ y.char = c ∧ z.char = d := by
  simp only [hexUnit?, Option.bind_eq_bind, Option.bind_eq_some_iff] at hread
  obtain ⟨_, ha, _, hb, _, hc, _, hd, _⟩ := hread
  obtain ⟨w, hw⟩ := exists_hexDigit ha
  obtain ⟨x, hx⟩ := exists_hexDigit hb
  obtain ⟨y, hy⟩ := exists_hexDigit hc
  obtain ⟨z, hz⟩ := exists_hexDigit hd
  exact ⟨w, x, y, z, hw, hx, hy, hz⟩

theorem exists_shortEscape {c value : Char} (hread : shortEscape? c = some value) :
    ∃ e : ShortEscape, e.letter = c := by
  unfold shortEscape? at hread
  split at hread
  next h => exact ⟨.quote, h.symm⟩
  split at hread
  next h => exact ⟨.backslash, h.symm⟩
  split at hread
  next h => exact ⟨.slash, h.symm⟩
  split at hread
  next h => exact ⟨.backspace, h.symm⟩
  split at hread
  next h => exact ⟨.formFeed, h.symm⟩
  split at hread
  next h => exact ⟨.lineFeed, h.symm⟩
  split at hread
  next h => exact ⟨.carriageReturn, h.symm⟩
  split at hread
  next h => exact ⟨.tab, h.symm⟩
  · cases hread

theorem isControl_eq_false {c : Char} : isControl c = false ↔ 0x20 ≤ c.toNat := by
  simp [isControl]

/-! ## Passing a text -/

attribute [local simp] skipText

theorem skipText_glyph (g : Glyph) (p : Position) (cs : List Char) :
    ∃ p', skipText p (g.chars ++ cs) = skipText p' cs := by
  cases g with
  | plain c hc =>
      obtain ⟨hcontrol, _, hbackslash⟩ := hc
      refine ⟨p.after c, ?_⟩
      simp [Glyph.chars, hbackslash, isControl_eq_false.mpr hcontrol]
  | short e =>
      refine ⟨p.skip 2, ?_⟩
      cases e <;> simp [Glyph.chars, ShortEscape.letter, shortEscape?]
  | unit a b c d =>
      refine ⟨p.skip 6, ?_⟩
      simp [Glyph.chars, hexUnit?_chars]

theorem skipText_glyphs (l : TextLiteral) (p : Position) (rest : List Char) :
    ∃ p', skipText p (l.flatMap Glyph.chars ++ '"' :: rest) = .ok ⟨p', rest⟩ := by
  induction l generalizing p with
  | nil => exact ⟨p.skip 1, by simp⟩
  | cons g l ih =>
      obtain ⟨p', hp'⟩ := skipText_glyph g p (l.flatMap Glyph.chars ++ '"' :: rest)
      rw [List.flatMap_cons, List.append_assoc, hp']
      exact ih p'

theorem glyphs_of_skipText {p : Position} {cs : List Char} {c : Cursor}
    (hskip : skipText p cs = .ok c) :
    ∃ l : TextLiteral, cs = l.flatMap Glyph.chars ++ '"' :: c.rest := by
  fun_induction skipText p cs with
  | case1 => cases hskip
  | case2 =>
      cases hskip
      exact ⟨[], rfl⟩
  | case3 => cases hskip
  | case4 p a b c d rest unit hunit ih =>
      obtain ⟨l, rfl⟩ := ih hskip
      obtain ⟨w, x, y, z, rfl, rfl, rfl, rfl⟩ := exists_hexDigits hunit
      exact ⟨.unit w x y z :: l, rfl⟩
  | case5 => cases hskip
  | case6 => cases hskip
  | case7 => cases hskip
  | case8 p c rest _ _ value hvalue ih =>
      obtain ⟨l, rfl⟩ := ih hskip
      obtain ⟨e, rfl⟩ := exists_shortEscape hvalue
      exact ⟨.short e :: l, rfl⟩
  | case9 => cases hskip
  | case10 p c rest hquote _ _ hlast hescape hcontrol ih =>
      have hbackslash : c ≠ '\\' := by
        intro hc
        cases rest with
        | nil => exact hlast hc rfl
        | cons d rest => exact hescape d rest hc rfl
      have hplain : IsPlain c :=
        ⟨isControl_eq_false.mp (Bool.eq_false_iff.mpr hcontrol), hquote, hbackslash⟩
      obtain ⟨l, rfl⟩ := ih hskip
      exact ⟨.plain c hplain :: l, rfl⟩

/-! ## Reading a text -/

attribute [local simp] readText

theorem isLeading_iff {unit : Nat} : isLeading unit = true ↔ 0xD800 ≤ unit ∧ unit ≤ 0xDBFF := by
  simp [isLeading]

theorem isTrailing_iff {unit : Nat} : isTrailing unit = true ↔ 0xDC00 ≤ unit ∧ unit ≤ 0xDFFF := by
  simp [isTrailing]

/-- A character is no surrogate. -/
theorem toNat_not_surrogate (x : Char) : x.toNat < 0xD800 ∨ 0xDFFF < x.toNat := by
  rcases x.valid with hlow | hhigh
  · exact .inl hlow
  · exact .inr hhigh.1

theorem toNat_ofNat {n : Nat} (hn : n < 0xD800 ∨ 0xDFFF < n ∧ n < 0x110000) :
    (Char.ofNat n).toNat = n := by
  rw [Char.ofNat, dif_pos hn]
  rfl

theorem readText_plain {c : Char} (hc : IsPlain c) (p : Position) (cs : List Char) :
    readText p (c :: cs) = (readText (p.after c) cs).map (c :: ·) := by
  obtain ⟨hcontrol, _, hbackslash⟩ := hc
  simp [hbackslash, isControl_eq_false.mpr hcontrol]

theorem readText_short (e : ShortEscape) (p : Position) (cs : List Char) :
    readText p ('\\' :: e.letter :: cs) = (readText (p.skip 2) cs).map (e.value :: ·) := by
  cases e <;> simp [ShortEscape.letter, ShortEscape.value, shortEscape?]

section Units

variable {a b c d : HexDigit}

theorem not_trailing_of_leading {unit : Nat} (hleading : isLeading unit = true) :
    isTrailing unit = false := by
  rw [isLeading_iff] at hleading
  rw [← Bool.not_eq_true, isTrailing_iff]
  omega

theorem readText_trailing (htrailing : isTrailing (codeUnit a b c d) = true) (p : Position)
    (cs s : List Char) : readText p ((Glyph.unit a b c d).chars ++ cs) ≠ .ok s := by
  simp [Glyph.chars, hexUnit?_chars, htrailing]

theorem readText_single (htrailing : isTrailing (codeUnit a b c d) = false)
    (hleading : isLeading (codeUnit a b c d) = false) (p : Position) (cs : List Char) :
    readText p ((Glyph.unit a b c d).chars ++ cs) =
      (readText (p.skip 6) cs).map (Char.ofNat (codeUnit a b c d) :: ·) := by
  simp [Glyph.chars, hexUnit?_chars, htrailing, hleading]

theorem readText_pair {a' b' c' d' : HexDigit} (hleading : isLeading (codeUnit a b c d) = true)
    (htrailing : isTrailing (codeUnit a' b' c' d') = true) (p : Position) (cs : List Char) :
    readText p ((Glyph.unit a b c d).chars ++ ((Glyph.unit a' b' c' d').chars ++ cs)) =
      (readText (p.skip 12) cs).map
        (pairedChar (codeUnit a b c d) (codeUnit a' b' c' d') :: ·) := by
  simp [Glyph.chars, hexUnit?_chars, hleading, htrailing,
    not_trailing_of_leading hleading]

/-- Behind a leading surrogate, only an escape of a trailing one can follow. -/
theorem readText_unpaired (hleading : isLeading (codeUnit a b c d) = true) {l : TextLiteral}
    (hnext : ∀ a' b' c' d' l', l = .unit a' b' c' d' :: l' →
      isTrailing (codeUnit a' b' c' d') = false) (p : Position) (rest s : List Char) :
    readText p ((Glyph.unit a b c d).chars ++ (l.flatMap Glyph.chars ++ '"' :: rest)) ≠ .ok s := by
  have hsingle := not_trailing_of_leading hleading
  cases l with
  | nil => simp [Glyph.chars, hexUnit?_chars, hleading, hsingle]
  | cons g l =>
      cases g with
      | plain x hx =>
          simp [Glyph.chars, hexUnit?_chars, hleading, hsingle, hx.2.2]
      | short e =>
          cases e <;>
            simp [Glyph.chars, hexUnit?_chars, hleading, hsingle, ShortEscape.letter]
      | unit a' b' c' d' =>
          simp [Glyph.chars, hexUnit?_chars, hleading, hsingle,
            hnext a' b' c' d' l rfl]

/-! ### What code units stand for -/

theorem means_trailing (htrailing : isTrailing (codeUnit a b c d) = true) {l : TextLiteral}
    {s : List Char} : ¬ TextLiteral.Means (.unit a b c d :: l) s := by
  rw [isTrailing_iff] at htrailing
  intro hmeans
  cases hmeans with
  | @unit _ _ _ _ x _ _ hunit _ =>
      have := toNat_not_surrogate x
      omega
  | pair _ hhigh => omega

theorem means_single_iff (htrailing : isTrailing (codeUnit a b c d) = false)
    (hleading : isLeading (codeUnit a b c d) = false) {l : TextLiteral} {s : List Char} :
    TextLiteral.Means (.unit a b c d :: l) s ↔
      ∃ s', l.Means s' ∧ s = Char.ofNat (codeUnit a b c d) :: s' := by
  rw [← Bool.not_eq_true, isTrailing_iff] at htrailing
  rw [← Bool.not_eq_true, isLeading_iff] at hleading
  have hbound := codeUnit_lt a b c d
  constructor
  · intro hmeans
    cases hmeans with
    | @unit _ _ _ _ x _ s' hunit hmeans => exact ⟨s', hmeans, by rw [hunit, Char.ofNat_toNat]⟩
    | pair hlow hhigh => exact absurd ⟨hlow, hhigh⟩ hleading
  · rintro ⟨s', hmeans, rfl⟩
    exact .unit (toNat_ofNat (by omega)).symm hmeans

theorem means_pair_iff {a' b' c' d' : HexDigit} (hleading : isLeading (codeUnit a b c d) = true)
    (htrailing : isTrailing (codeUnit a' b' c' d') = true) {l : TextLiteral} {s : List Char} :
    TextLiteral.Means (.unit a b c d :: .unit a' b' c' d' :: l) s ↔
      ∃ s', l.Means s' ∧
        s = pairedChar (codeUnit a b c d) (codeUnit a' b' c' d') :: s' := by
  rw [isLeading_iff] at hleading
  rw [isTrailing_iff] at htrailing
  constructor
  · intro hmeans
    cases hmeans with
    | @unit _ _ _ _ x _ _ hunit _ =>
        have := toNat_not_surrogate x
        omega
    | @pair _ _ _ _ _ _ _ _ x _ s' _ _ _ _ hx hmeans =>
        refine ⟨s', hmeans, ?_⟩
        rw [pairedChar, show (codeUnit a b c d - 0xD800) * 0x400 +
          (codeUnit a' b' c' d' - 0xDC00) + 0x10000 = x.toNat by omega, Char.ofNat_toNat]
  · rintro ⟨s', hmeans, rfl⟩
    refine .pair hleading.1 hleading.2 htrailing.1 htrailing.2 ?_ hmeans
    rw [pairedChar, toNat_ofNat (by omega)]
    omega

theorem means_unpaired (hleading : isLeading (codeUnit a b c d) = true) {l : TextLiteral}
    (hnext : ∀ a' b' c' d' l', l = .unit a' b' c' d' :: l' →
      isTrailing (codeUnit a' b' c' d') = false) {s : List Char} :
    ¬ TextLiteral.Means (.unit a b c d :: l) s := by
  rw [isLeading_iff] at hleading
  intro hmeans
  cases hmeans with
  | @unit _ _ _ _ x _ _ hunit _ =>
      have := toNat_not_surrogate x
      omega
  | pair _ _ hlow hhigh =>
      have htrailing := hnext _ _ _ _ _ rfl
      rw [← Bool.not_eq_true, isTrailing_iff] at htrailing
      exact htrailing ⟨hlow, hhigh⟩

end Units

theorem map_cons_eq_ok_iff {result : Except Failure (List Char)} {x : Char} {s : List Char} :
    result.map (x :: ·) = .ok s ↔ ∃ s', result = .ok s' ∧ s = x :: s' := by
  cases result with
  | error failure => simp [Except.map]
  | ok s' => simp [Except.map, eq_comm]

/-- Reading a literal finds the characters that its glyphs stand for, and nothing else. -/
theorem readText_glyphs_iff : ∀ (l : TextLiteral) (p : Position) (rest s : List Char),
    readText p (l.flatMap Glyph.chars ++ '"' :: rest) = .ok s ↔ l.Means s
  | [], p, rest, s => by
      simp only [List.flatMap_nil, List.nil_append, readText, Except.ok.injEq]
      constructor
      · rintro rfl
        exact .nil
      · rintro ⟨⟩
        rfl
  | .plain c hc :: l, p, rest, s => by
      simp only [List.flatMap_cons, Glyph.chars, List.cons_append, List.nil_append,
        readText_plain hc, map_cons_eq_ok_iff, readText_glyphs_iff l]
      constructor
      · rintro ⟨s', hs', rfl⟩
        exact .plain hc hs'
      · rintro ⟨⟩
        exact ⟨_, ‹_›, rfl⟩
  | .short e :: l, p, rest, s => by
      simp only [List.flatMap_cons, Glyph.chars, List.cons_append, List.nil_append,
        readText_short, map_cons_eq_ok_iff, readText_glyphs_iff l]
      constructor
      · rintro ⟨s', hs', rfl⟩
        exact .short e hs'
      · rintro ⟨⟩
        exact ⟨_, ‹_›, rfl⟩
  | .unit a b c d :: l, p, rest, s => by
      rw [List.flatMap_cons, List.append_assoc]
      cases htrailing : isTrailing (codeUnit a b c d) with
      | true => simp [readText_trailing htrailing, means_trailing htrailing]
      | false =>
          cases hleading : isLeading (codeUnit a b c d) with
          | false =>
              simp only [readText_single htrailing hleading, map_cons_eq_ok_iff,
                readText_glyphs_iff l, means_single_iff htrailing hleading]
          | true =>
              -- a leading surrogate stands for something only with the next glyph
              by_cases hpaired : ∃ a' b' c' d' l', l = .unit a' b' c' d' :: l' ∧
                  isTrailing (codeUnit a' b' c' d') = true
              · obtain ⟨a', b', c', d', l', rfl, htrailing'⟩ := hpaired
                rw [List.flatMap_cons, List.append_assoc]
                simp only [readText_pair hleading htrailing', map_cons_eq_ok_iff,
                  readText_glyphs_iff l', means_pair_iff hleading htrailing']
              · have hnext : ∀ a' b' c' d' l', l = .unit a' b' c' d' :: l' →
                    isTrailing (codeUnit a' b' c' d') = false :=
                  fun a' b' c' d' l' hl => Bool.eq_false_iff.mpr fun htrailing' =>
                    hpaired ⟨a', b', c', d', l', hl, htrailing'⟩
                simp [readText_unpaired hleading hnext, means_unpaired hleading hnext]
termination_by l => l.length
decreasing_by all_goals (subst_vars; simp only [List.length_cons]; omega)

theorem TextLiteral.Denotes.unique {l : TextLiteral} {s t : String} (hs : l.Denotes s)
    (ht : l.Denotes t) : s = t := by
  have hread := (readText_glyphs_iff l {} [] s.toList).mpr hs
  rw [(readText_glyphs_iff l {} [] t.toList).mpr ht] at hread
  exact String.toList_inj.mp (Except.ok.inj hread).symm

end Typings.Json

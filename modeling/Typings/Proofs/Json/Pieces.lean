import Mathlib.Data.List.Chain
import Mathlib.Data.List.Forall2
import Typings.Json.Document
import Typings.Proofs.Json.Literals
import Typings.Proofs.Json.Numerals

/-! # Pieces and tokens

The tokens of a text are the pieces that it consists of: every piece gives one token, whatever
whitespace stands before it, and every token but the last one comes from a piece.
-/

namespace Typings.Json

/-! ## One piece -/

/-- What a scalar is read as: its value, or some failure where it has none. -/
def Scalar.Shows : Scalar → Lexeme → Prop
  | .null, lexeme => lexeme = .null
  | .boolean value, lexeme => lexeme = .boolean value
  | .number n, lexeme =>
    ∃ value, lexeme = .number value ∧ value.toOption = n.numeral.value.toOption
  | .text l, lexeme => ∃ value, lexeme = .text value ∧ ∀ s, value = .ok s ↔ l.Denotes s

def Piece.Shows : Piece → Lexeme → Prop
  | .mark m, lexeme => lexeme = .mark m
  | .scalar s, lexeme => s.Shows lexeme

/-- Only a number can be longer or shorter, depending on what follows. -/
def Piece.EndsBefore (rest : List Char) : Piece → Prop
  | .scalar (.number _) => EndsNumber rest
  | _ => True

theorem Scalar.Shows.not_last {s : Scalar} {lexeme : Lexeme} (h : s.Shows lexeme) :
    lexeme.isLast = false := by
  cases s with
  | null | boolean _ =>
      rw [show lexeme = _ from h]
      rfl
  | number _ | text _ =>
      obtain ⟨_, rfl, _⟩ := h
      rfl

theorem Piece.Shows.not_last {p : Piece} {lexeme : Lexeme} (h : p.Shows lexeme) :
    lexeme.isLast = false := by
  cases p with
  | mark m =>
      rw [show lexeme = _ from h]
      rfl
  | scalar s => exact Scalar.Shows.not_last h

theorem numeralValue_toOption (n : Numeral) (stop : Position) :
    (numeralValue n stop).toOption = n.value.toOption := by
  unfold numeralValue
  cases n.value <;> rfl

theorem passWord_append (p : Position) (letters rest : List Char) :
    ∃ p', passWord p letters (letters ++ rest) = .ok ⟨p', rest⟩ := by
  induction letters generalizing p with
  | nil => exact ⟨p, rfl⟩
  | cons letter letters ih =>
      obtain ⟨p', hp'⟩ := ih (p.skip 1)
      exact ⟨p', by simp [passWord, hp']⟩

theorem passWord_sound {p : Position} {letters cs : List Char} {c : Cursor}
    (hpass : passWord p letters cs = .ok c) : cs = letters ++ c.rest := by
  induction letters generalizing p cs with
  | nil =>
      cases hpass
      rfl
  | cons letter letters ih =>
      cases cs with
      | nil => cases hpass
      | cons d cs =>
          rw [passWord] at hpass
          split at hpass
          next hd =>
            rw [hd, ih hpass]
            rfl
          next => cases hpass

theorem wordLexeme_sound {value : Lexeme} {word : String} {p : Position} {cs : List Char}
    {lexeme : Lexeme} {c : Cursor} (hword : wordLexeme value word p cs = (lexeme, c))
    (hlast : lexeme.isLast = false) : lexeme = value ∧ cs = word.toList ++ c.rest := by
  unfold wordLexeme at hword
  split at hword
  next hpass =>
    cases hword
    exact ⟨rfl, passWord_sound hpass⟩
  next =>
    cases hword
    cases hlast

theorem nextLexeme_mark (m : Mark) (p : Position) (rest : List Char) :
    nextLexeme p (m.char :: rest) = (.mark m, ⟨p.skip 1, rest⟩) := by
  cases m <;> rfl

theorem wordLexeme_append (value : Lexeme) (word : String) (p : Position) (rest : List Char) :
    ∃ p', wordLexeme value word p (word.toList ++ rest) = (value, ⟨p', rest⟩) := by
  obtain ⟨p', hp'⟩ := passWord_append p word.toList rest
  exact ⟨p', by rw [wordLexeme, hp']⟩

theorem readText_denotes (l : TextLiteral) (p : Position) (rest : List Char) (s : String) :
    (readText p (l.flatMap Glyph.chars ++ '"' :: rest)).map String.ofList = .ok s ↔
      l.Denotes s := by
  rw [TextLiteral.Denotes, ← readText_glyphs_iff l p rest]
  cases readText p (l.flatMap Glyph.chars ++ '"' :: rest) with
  | error failure => simp [Except.map]
  | ok cs =>
      simp only [Except.map, Except.ok.injEq]
      exact ⟨fun h => by rw [← h, String.toList_ofList], fun h => by rw [h, String.ofList_toList]⟩

theorem nextLexeme_text (l : TextLiteral) (p : Position) (rest : List Char) :
    ∃ value p', nextLexeme p (l.chars ++ rest) = (.text value, ⟨p', rest⟩) ∧
      ∀ s, value = .ok s ↔ l.Denotes s := by
  obtain ⟨p', hskip⟩ := skipText_glyphs l (p.skip 1) rest
  have hchars : l.chars ++ rest = '"' :: (l.flatMap Glyph.chars ++ '"' :: rest) := by
    simp [TextLiteral.chars]
  refine ⟨_, p', ?_, readText_denotes l (p.skip 1) rest⟩
  simp only [hchars, nextLexeme, hskip]

theorem nextLexeme_numeral {c : Char} (hc : c = '-' ∨ c.isDigit = true) (p : Position)
    (rest : List Char) :
    nextLexeme p (c :: rest) =
      match readNumeral p (c :: rest) with
      | .ok (n, after) => (.number (numeralValue n after.position), after)
      | .error failure => (.broken failure.skipping failure.reading, ⟨p, []⟩) := by
  have hne : ∀ d, d.isDigit = false → d ≠ '-' → c ≠ d := by
    rintro d hdigit hminus rfl
    rcases hc with hc | hc
    · exact hminus hc
    · exact Bool.false_ne_true (hdigit.symm.trans hc)
  have hread := nextLexeme.eq_12 p c rest (hne _ rfl (by decide)) (hne _ rfl (by decide))
    (hne _ rfl (by decide)) (hne _ rfl (by decide)) (hne _ rfl (by decide)) (hne _ rfl (by decide))
    (hne _ rfl (by decide)) (hne _ rfl (by decide)) (hne _ rfl (by decide))
    (hne _ rfl (by decide))
  rw [if_pos hc] at hread
  exact hread

theorem NumberText.exists_cons (n : NumberText) :
    ∃ c cs, n.chars = c :: cs ∧ (c = '-' ∨ c.isDigit = true) := by
  obtain ⟨c, cs, hchars, hc⟩ := n.whole.exists_cons
  cases hnegative : n.negative <;> simp [NumberText.chars, hnegative, hchars, hc]

theorem nextLexeme_number (n : NumberText) (p : Position) {rest : List Char}
    (hrest : EndsNumber rest) :
    ∃ value p', nextLexeme p (n.chars ++ rest) = (.number value, ⟨p', rest⟩) ∧
      value.toOption = n.numeral.value.toOption := by
  obtain ⟨p', hread⟩ := readNumeral_chars n p hrest
  obtain ⟨c, cs, hchars, hc⟩ := n.exists_cons
  refine ⟨numeralValue n.numeral p', p', ?_, numeralValue_toOption _ _⟩
  rw [hchars, List.cons_append] at hread ⊢
  rw [nextLexeme_numeral hc, hread]

/-- A piece gives one token, which shows it. -/
theorem nextLexeme_piece (x : Piece) (p : Position) {rest : List Char} (hrest : x.EndsBefore rest) :
    ∃ lexeme p', nextLexeme p (x.chars ++ rest) = (lexeme, ⟨p', rest⟩) ∧ x.Shows lexeme := by
  cases x with
  | mark m => exact ⟨.mark m, p.skip 1, nextLexeme_mark m p rest, rfl⟩
  | scalar s =>
      cases s with
      | null =>
          obtain ⟨p', hp'⟩ := wordLexeme_append .null "null" p rest
          exact ⟨_, p', hp', rfl⟩
      | boolean value =>
          cases value with
          | true =>
              obtain ⟨p', hp'⟩ := wordLexeme_append (.boolean true) "true" p rest
              exact ⟨_, p', hp', rfl⟩
          | false =>
              obtain ⟨p', hp'⟩ := wordLexeme_append (.boolean false) "false" p rest
              exact ⟨_, p', hp', rfl⟩
      | number n =>
          obtain ⟨value, p', hp', hvalue⟩ := nextLexeme_number n p hrest
          exact ⟨_, p', hp', value, rfl, hvalue⟩
      | text l =>
          obtain ⟨value, p', hp', hvalue⟩ := nextLexeme_text l p rest
          exact ⟨_, p', hp', value, rfl, hvalue⟩

/-- Every token but the last one comes from a piece. -/
theorem nextLexeme_sound {p : Position} {cs : List Char} {lexeme : Lexeme} {c : Cursor}
    (hnext : nextLexeme p cs = (lexeme, c)) (hlast : lexeme.isLast = false) :
    ∃ x : Piece, x.Shows lexeme ∧ cs = x.chars ++ c.rest := by
  unfold nextLexeme at hnext
  split at hnext
  · cases hnext
    cases hlast
  · cases hnext
    exact ⟨.mark .openList, rfl, rfl⟩
  · cases hnext
    exact ⟨.mark .closeList, rfl, rfl⟩
  · cases hnext
    exact ⟨.mark .openObject, rfl, rfl⟩
  · cases hnext
    exact ⟨.mark .closeObject, rfl, rfl⟩
  · cases hnext
    exact ⟨.mark .comma, rfl, rfl⟩
  · cases hnext
    exact ⟨.mark .colon, rfl, rfl⟩
  · obtain ⟨rfl, hcs⟩ := wordLexeme_sound hnext hlast
    exact ⟨.scalar .null, rfl, hcs⟩
  · obtain ⟨rfl, hcs⟩ := wordLexeme_sound hnext hlast
    exact ⟨.scalar (.boolean true), rfl, hcs⟩
  · obtain ⟨rfl, hcs⟩ := wordLexeme_sound hnext hlast
    exact ⟨.scalar (.boolean false), rfl, hcs⟩
  next rest =>
    cases hskip : skipText (p.skip 1) rest with
    | error failure =>
        cases hread : readText (p.skip 1) rest <;>
          simp only [hskip, hread, Except.map] at hnext <;>
          cases hnext <;>
          cases hlast
    | ok after =>
        simp only [hskip] at hnext
        cases hnext
        obtain ⟨l, rfl⟩ := glyphs_of_skipText hskip
        exact ⟨.scalar (.text l), ⟨_, rfl, readText_denotes l _ _⟩,
          by simp [Piece.chars, Scalar.chars, TextLiteral.chars]⟩
  next d rest _ _ _ _ _ _ _ _ _ _ =>
    split at hnext
    next hd =>
      split at hnext
      next n after hread =>
        cases hnext
        obtain ⟨m, rfl, hcs⟩ := readNumeral_sound hread
        exact ⟨.scalar (.number m), ⟨_, rfl, numeralValue_toOption _ _⟩, hcs⟩
      next =>
        cases hnext
        cases hlast
    next =>
      cases hnext
      cases hlast

/-! ## Whitespace -/

theorem passSpace_space {space rest : List Char} (hspace : IsSpace space)
    (hrest : ∀ c, rest.head? = some c → Cursor.isSpace c = false) (p : Position) :
    ∃ p', Cursor.passSpace p (space ++ rest) = ⟨p', rest⟩ := by
  induction space generalizing p with
  | nil =>
      refine ⟨p, ?_⟩
      cases rest with
      | nil => rfl
      | cons c rest => simp [Cursor.passSpace, hrest c rfl]
  | cons c space ih =>
      obtain ⟨p', hp'⟩ := ih (fun d hd => hspace d (List.mem_cons_of_mem c hd)) (p.after c)
      exact ⟨p', by simp [Cursor.passSpace, hspace c List.mem_cons_self, hp']⟩

theorem passSpace_sound (p : Position) (cs : List Char) :
    ∃ space, IsSpace space ∧ cs = space ++ (Cursor.passSpace p cs).rest := by
  induction cs generalizing p with
  | nil => exact ⟨[], by simp [IsSpace], rfl⟩
  | cons c cs ih =>
      rw [Cursor.passSpace]
      split
      next hc =>
        obtain ⟨space, hspace, hcs⟩ := ih (p.after c)
        refine ⟨c :: space, ?_, ?_⟩
        · intro d hd
          rcases List.mem_cons.mp hd with rfl | hd
          · exact hc
          · exact hspace d hd
        · rw [List.cons_append, ← hcs]
      next => exact ⟨[], by simp [IsSpace], rfl⟩

theorem isSpace_of_isDigit {c : Char} (hc : c.isDigit = true) : Cursor.isSpace c = false := by
  have h1 := ne_of_isDigit hc (show ' '.isDigit = false from rfl)
  have h2 := ne_of_isDigit hc (show '\n'.isDigit = false from rfl)
  have h3 := ne_of_isDigit hc (show '\t'.isDigit = false from rfl)
  have h4 := ne_of_isDigit hc (show '\r'.isDigit = false from rfl)
  simp [Cursor.isSpace, h1, h2, h3, h4]

/-- No piece begins with whitespace. -/
theorem Piece.head_not_space (x : Piece) (rest : List Char) :
    ∀ c, (x.chars ++ rest).head? = some c → Cursor.isSpace c = false := by
  intro c hc
  cases x with
  | mark m => cases m <;> cases hc <;> rfl
  | scalar s =>
      cases s with
      | null => cases hc; rfl
      | boolean value => cases value <;> cases hc <;> rfl
      | text l => cases hc; rfl
      | number n =>
          obtain ⟨d, cs, hchars, hd⟩ := n.exists_cons
          rw [Piece.chars, Scalar.chars, hchars] at hc
          cases hc
          rcases hd with rfl | hd
          · rfl
          · exact isSpace_of_isDigit hd

/-! ## The tokens of a text -/

/-- The tokens of a text from some place on. -/
def Cursor.tokens (c : Cursor) : List Token := tokensWithin (c.rest.length + 1) c.position c.rest

theorem nextLexeme_shorter {p : Position} {cs : List Char} {lexeme : Lexeme} {c : Cursor}
    (hnext : nextLexeme (Cursor.passSpace p cs).position (Cursor.passSpace p cs).rest = (lexeme, c))
    (hlast : lexeme.isLast = false) : c.rest.length < cs.length := by
  obtain ⟨space, _, hcs⟩ := passSpace_sound p cs
  obtain ⟨x, _, hx⟩ := nextLexeme_sound hnext hlast
  have hpos : 0 < x.chars.length := List.length_pos_iff.mpr x.chars_ne_nil
  have hlength := congrArg List.length hcs
  rw [hx] at hlength
  simp only [List.length_append] at hlength
  omega

/-- A higher limit finds no other tokens. -/
theorem tokensWithin_limit {limit limit' : Nat} {p : Position} {cs : List Char}
    (hlimit : cs.length < limit) (hlimit' : cs.length < limit') :
    tokensWithin limit p cs = tokensWithin limit' p cs := by
  induction limit generalizing limit' p cs with
  | zero => omega
  | succ limit ih =>
      cases limit' with
      | zero => omega
      | succ limit' =>
          rw [tokensWithin, tokensWithin]
          rcases hnext : nextLexeme (Cursor.passSpace p cs).position (Cursor.passSpace p cs).rest
            with ⟨lexeme, next⟩
          cases hlast : lexeme.isLast with
          | true => simp only [hlast, if_true]
          | false =>
              -- each token takes a character at least, so both limits still suffice
              have hshorter := nextLexeme_shorter hnext hlast
              simp only [hlast, Bool.false_eq_true, if_false, List.cons.injEq, true_and]
              exact ih (by omega) (by omega)

theorem tokens_eq (cs : List Char) : tokens cs = (Cursor.mk ⟨1, 0⟩ cs).tokens :=
  rfl

theorem Cursor.tokens_last {c : Cursor} {lexeme : Lexeme} {next : Cursor}
    (hnext : nextLexeme (passSpace c.position c.rest).position (passSpace c.position c.rest).rest =
      (lexeme, next)) (hlast : lexeme.isLast = true) :
    c.tokens = [⟨lexeme, (passSpace c.position c.rest).position, next.position⟩] := by
  simp only [Cursor.tokens, tokensWithin, hnext, hlast, if_true]

theorem Cursor.tokens_cons {c : Cursor} {lexeme : Lexeme} {next : Cursor}
    (hnext : nextLexeme (passSpace c.position c.rest).position (passSpace c.position c.rest).rest =
      (lexeme, next)) (hlast : lexeme.isLast = false) :
    c.tokens = ⟨lexeme, (passSpace c.position c.rest).position, next.position⟩ :: next.tokens := by
  have hshorter := nextLexeme_shorter hnext hlast
  rw [Cursor.tokens, tokensWithin, hnext]
  simp only [hlast, Bool.false_eq_true, if_false, List.cons.injEq, true_and]
  exact tokensWithin_limit hshorter (Nat.lt_succ_self _)

/-- A piece at the head of a text is its first token. -/
theorem Cursor.tokens_piece (x : Piece) (p : Position) {space rest : List Char}
    (hspace : IsSpace space) (hrest : x.EndsBefore rest) :
    ∃ t p', Cursor.tokens ⟨p, space ++ (x.chars ++ rest)⟩ = t :: Cursor.tokens ⟨p', rest⟩ ∧
      x.Shows t.lexeme := by
  obtain ⟨p₁, hpass⟩ := passSpace_space hspace (x.head_not_space rest) p
  obtain ⟨lexeme, p₂, hnext, hshows⟩ := nextLexeme_piece x p₁ hrest
  refine ⟨⟨lexeme, p₁, p₂⟩, p₂, ?_, hshows⟩
  have hstart : nextLexeme (passSpace p (space ++ (x.chars ++ rest))).position
      (passSpace p (space ++ (x.chars ++ rest))).rest = (lexeme, ⟨p₂, rest⟩) := by
    rw [hpass, hnext]
  rw [Cursor.tokens_cons hstart hshows.not_last, hpass]

/-- The first token of a text is its last one, or it comes from a piece. -/
theorem Cursor.tokens_step (c : Cursor) :
    (∃ t, c.tokens = [t] ∧ t.lexeme.isLast = true) ∨
      ∃ t, ∃ x : Piece, ∃ space next, c.tokens = t :: Cursor.tokens next ∧ x.Shows t.lexeme ∧
        IsSpace space ∧ c.rest = space ++ (x.chars ++ next.rest) := by
  rcases hnext : nextLexeme (passSpace c.position c.rest).position
    (passSpace c.position c.rest).rest with ⟨lexeme, next⟩
  cases hlast : lexeme.isLast with
  | true => exact .inl ⟨_, Cursor.tokens_last hnext hlast, hlast⟩
  | false =>
      obtain ⟨space, hspace, hrest⟩ := passSpace_sound c.position c.rest
      obtain ⟨x, hshows, hx⟩ := nextLexeme_sound hnext hlast
      exact .inr ⟨_, x, space, next, Cursor.tokens_cons hnext hlast, hshows, hspace, hx ▸ hrest⟩

theorem nextLexeme_finish {p : Position} {cs : List Char} {c : Cursor}
    (hnext : nextLexeme p cs = (.finish, c)) : cs = [] := by
  unfold nextLexeme at hnext
  split at hnext
  case h_1 => rfl
  case h_8 | h_9 | h_10 =>
    unfold wordLexeme at hnext
    split at hnext <;> cases hnext
  case h_11 =>
    simp only at hnext
    split at hnext <;> cases hnext
  case h_12 =>
    split at hnext
    · split at hnext <;> cases hnext
    · cases hnext
  all_goals cases hnext

/-- A text is over exactly if its first token is the end. -/
theorem Cursor.tokens_finish_iff (c : Cursor) :
    (∃ t rest, c.tokens = t :: rest ∧ t.isFinish = true) ↔ IsSpace c.rest := by
  constructor
  · rintro ⟨t, rest, htokens, hfinish⟩
    rcases hnext : nextLexeme (passSpace c.position c.rest).position
      (passSpace c.position c.rest).rest with ⟨lexeme, next⟩
    have ht : t.lexeme = lexeme := by
      cases hlast : lexeme.isLast with
      | true =>
          rw [tokens_last hnext hlast] at htokens
          cases htokens
          rfl
      | false =>
          rw [tokens_cons hnext hlast] at htokens
          cases htokens
          rfl
    obtain rfl : lexeme = .finish := by
      rw [Token.isFinish, ht] at hfinish
      cases lexeme <;> first | rfl | cases hfinish
    obtain ⟨space, hspace, hrest⟩ := passSpace_sound c.position c.rest
    rw [nextLexeme_finish hnext, List.append_nil] at hrest
    exact hrest ▸ hspace
  · intro hspace
    have hhead : ∀ d, ([] : List Char).head? = some d → Cursor.isSpace d = false := by simp
    obtain ⟨p, hpass⟩ := passSpace_space hspace hhead c.position
    rw [List.append_nil] at hpass
    have hnext : nextLexeme (passSpace c.position c.rest).position
        (passSpace c.position c.rest).rest = (.finish, ⟨p, []⟩) := by
      rw [hpass]
      rfl
    exact ⟨_, [], tokens_last hnext rfl, rfl⟩

/-! ## Spaced pieces -/

def Piece.IsMark : Piece → Prop
  | .mark _ => True
  | .scalar _ => False

/-- Of any two neighbours one is a mark, so that no number is made longer by what follows it. -/
def Apart (ps : List Piece) : Prop := ps.IsChain fun x y => x.IsMark ∨ y.IsMark

theorem endsNumber_of_isSpace {c : Char} (hc : Cursor.isSpace c = true) (rest : List Char) :
    EndsNumber (c :: rest) := by
  rintro d ⟨⟩
  simp only [Cursor.isSpace, Bool.or_eq_true, beq_iff_eq] at hc
  rcases hc with ((rfl | rfl) | rfl) | rfl <;> decide

theorem endsNumber_mark (m : Mark) (rest : List Char) : EndsNumber (m.char :: rest) := by
  rintro d ⟨⟩
  cases m <;> decide

theorem Piece.endsBefore_of_endsNumber {x : Piece} {rest : List Char} (hrest : EndsNumber rest) :
    x.EndsBefore rest := by
  cases x with
  | mark m => trivial
  | scalar s =>
      cases s with
      | number n => exact hrest
      | null | boolean _ | text _ => trivial

theorem Piece.endsBefore_next {x y : Piece} (hmark : x.IsMark ∨ y.IsMark) {space : List Char}
    (hspace : IsSpace space) (rest : List Char) :
    x.EndsBefore (space ++ (y.chars ++ rest)) := by
  rcases hmark with hx | hy
  · cases x with
    | mark m => trivial
    | scalar s => cases hx
  · cases y with
    | mark m =>
      apply endsBefore_of_endsNumber
      cases space with
      | nil => exact endsNumber_mark m rest
      | cons c space => exact endsNumber_of_isSpace (hspace c List.mem_cons_self) _
    | scalar s => cases hy

/-- The tokens show the pieces, one by one. -/
abbrev ShownBy (ps : List Piece) (ts : List Token) : Prop :=
  List.Forall₂ (fun x t => x.Shows t.lexeme) ps ts

/-- The last of the pieces ends where the text goes on like this. -/
def PiecesEnd (ps : List Piece) (rest : List Char) : Prop :=
  ∀ x, ps.getLast? = some x → x.EndsBefore rest

/-- The tokens of spaced pieces show the pieces. -/
theorem Spaced.tokens {ps : List Piece} {front : List Char} (hspaced : Spaced ps front)
    (hapart : Apart ps) {rest : List Char} (hend : PiecesEnd ps rest) (p : Position) :
    ∃ ts p', Cursor.tokens ⟨p, front ++ rest⟩ = ts ++ Cursor.tokens ⟨p', rest⟩ ∧
      ShownBy ps ts := by
  induction hspaced generalizing p with
  | nil => exact ⟨[], p, rfl, .nil⟩
  | @cons x ps space front hspace hspaced ih =>
      -- the last piece ends before the rest, and every other one has a neighbour to end before
      have hx : x.EndsBefore (front ++ rest) := by
        cases hspaced with
        | nil => exact hend x rfl
        | @cons y _ space' front' hspace' =>
            rw [List.append_assoc, List.append_assoc]
            exact Piece.endsBefore_next (List.isChain_cons_cons.mp hapart).1 hspace' _
      have hends : PiecesEnd ps rest := by
        intro y hy
        cases ps with
        | nil => cases hy
        | cons z ps => exact hend y (by rwa [List.getLast?_cons_cons])
      obtain ⟨t, p₁, htokens, hshows⟩ := Cursor.tokens_piece x p hspace hx
      obtain ⟨ts, p₂, hbehind, hrelated⟩ := ih hapart.tail hends p₁
      refine ⟨t :: ts, p₂, ?_, .cons hshows hrelated⟩
      rw [List.append_assoc, List.append_assoc, htokens, hbehind, List.cons_append]

theorem piecesEnd_nil (ps : List Piece) : PiecesEnd ps [] :=
  fun _ _ => Piece.endsBefore_of_endsNumber (by simp [EndsNumber])

theorem piecesEnd_append_singleton {ps : List Piece} {x : Piece} {rest : List Char}
    (hx : x.EndsBefore rest) : PiecesEnd (ps ++ [x]) rest := by
  intro y hy
  rw [List.getLast?_concat] at hy
  cases hy
  exact hx

/-! ### The pieces of a value are apart -/

theorem apart_mark_cons {m : Mark} {ps : List Piece} : Apart (.mark m :: ps) ↔ Apart ps := by
  cases ps with
  | nil => simp [Apart]
  | cons x ps => simp [Apart, List.isChain_cons_cons, Piece.IsMark]

/-- The pieces begin with a mark, if there are any. -/
def MarkFirst (ps : List Piece) : Prop := ∀ x, ps.head? = some x → x.IsMark

theorem apart_scalar_cons {s : Scalar} {ps : List Piece} (hfirst : MarkFirst ps) :
    Apart (.scalar s :: ps) ↔ Apart ps := by
  cases ps with
  | nil => simp [Apart]
  | cons x ps => simp [Apart, List.isChain_cons_cons, hfirst x rfl]

theorem markFirst_cons (m : Mark) (ps : List Piece) : MarkFirst (.mark m :: ps) := by
  rintro x ⟨⟩
  trivial

theorem itemPieces_markFirst (vs : List Phrase) {ps : List Piece} (hfirst : MarkFirst ps) :
    MarkFirst (itemPieces false vs ++ ps) := by
  cases vs with
  | nil => exact hfirst
  | cons v vs => exact markFirst_cons .comma _

theorem memberPieces_markFirst (ms : Members) {ps : List Piece}
    (hfirst : MarkFirst ps) : MarkFirst (memberPieces false ms ++ ps) := by
  cases ms with
  | nil => exact hfirst
  | cons m ms => exact markFirst_cons .comma _

mutual

theorem Phrase.apart_append : ∀ (v : Phrase) {ps : List Piece}, Apart ps → MarkFirst ps →
    Apart (v.pieces ++ ps)
  | .scalar s, ps, hps, hfirst => by
      rw [Phrase.pieces, List.singleton_append, apart_scalar_cons hfirst]
      exact hps
  | .list items, ps, hps, hfirst => by
      rw [Phrase.pieces, List.cons_append, apart_mark_cons, List.append_assoc]
      exact itemPieces_apart true items (apart_mark_cons.mpr hps) (markFirst_cons _ _)
  | .object members, ps, hps, hfirst => by
      rw [Phrase.pieces, List.cons_append, apart_mark_cons, List.append_assoc]
      exact memberPieces_apart true members (apart_mark_cons.mpr hps) (markFirst_cons _ _)

theorem itemPieces_apart : ∀ (isFirst : Bool) (vs : List Phrase) {ps : List Piece}, Apart ps →
    MarkFirst ps → Apart (itemPieces isFirst vs ++ ps)
  | isFirst, [], ps, hps, _ => hps
  | isFirst, v :: vs, ps, hps, hfirst => by
      have hbehind := v.apart_append (itemPieces_apart false vs hps hfirst)
        (itemPieces_markFirst vs hfirst)
      cases isFirst with
      | true => simpa [itemPieces, separator] using hbehind
      | false => simpa [itemPieces, separator, apart_mark_cons] using hbehind

theorem memberPieces_apart : ∀ (isFirst : Bool) (ms : Members) {ps : List Piece},
    Apart ps → MarkFirst ps → Apart (memberPieces isFirst ms ++ ps)
  | isFirst, [], ps, hps, _ => hps
  | isFirst, (key, v) :: ms, ps, hps, hfirst => by
      have hbehind := v.apart_append (memberPieces_apart false ms hps hfirst)
        (memberPieces_markFirst ms hfirst)
      cases isFirst <;>
        simpa [memberPieces, separator, apart_mark_cons, apart_scalar_cons (markFirst_cons _ _)]
          using hbehind

end

end Typings.Json

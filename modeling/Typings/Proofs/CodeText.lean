import Typings.Proofs.CommentLines
import Typings.Proofs.Quoting
import Typings.Proofs.Spelling

/-! # Code without comments

A reader of TypeScript text that knows comments and literals and nothing else keeps the characters
that count: those of literals, and those outside comments that are not blank. Some texts are read
alike in front of every other text, so the reading of their concatenation is that of its parts. A
comment made of documentation is such a text, and nothing of it is kept.
-/

namespace Typings

open Text

/-- What the reader of a text is inside of. -/
inductive Inside where
  | code
  | blockComment
  | lineComment
  | literal (quote : Char)
  deriving DecidableEq, Repr

/-- The character opens and closes a literal. -/
def isQuote (c : Char) : Bool :=
  c == '"' || c == '\''

/-- The character ends a line for a reader of TypeScript. -/
def isLineBreak (c : Char) : Bool :=
  c == '\n' || c == '\r' || c == '\u2028' || c == '\u2029'

/-- The text without its comments and without blanks outside literals. There is none if a block
comment or a literal is still open at the end of the text, or a literal at the end of its line. -/
def significant : Inside → List Char → Option (List Char)
  | .code, [] => some []
  | .code, '/' :: '*' :: rest => significant .blockComment rest
  | .code, '/' :: '/' :: rest => significant .lineComment rest
  | .code, c :: rest =>
    if isQuote c then (significant (.literal c) rest).map (c :: ·)
    else if isBlank c then significant .code rest
    else (significant .code rest).map (c :: ·)
  | .blockComment, [] => none
  | .blockComment, '*' :: '/' :: rest => significant .code rest
  | .blockComment, _ :: rest => significant .blockComment rest
  | .lineComment, [] => some []
  | .lineComment, c :: rest =>
    if isLineBreak c then significant .code rest else significant .lineComment rest
  | .literal _, [] => none
  | .literal quote, '\\' :: c :: rest =>
    (significant (.literal quote) rest).map fun kept => '\\' :: c :: kept
  | .literal quote, c :: rest =>
    if c = '\n' ∨ c = '\r' then none
    else if c = quote then (significant .code rest).map (c :: ·)
    else (significant (.literal quote) rest).map (c :: ·)

/-- Wherever the text stands in code, the reader keeps the given characters of it and is in code
again behind it. -/
def Reads (text kept : List Char) : Prop :=
  ∀ rest, significant .code (text ++ rest) = (significant .code rest).map (kept ++ ·)

theorem Reads.nil : Reads [] [] := by
  intro rest
  rw [List.nil_append]
  cases significant .code rest <;> rfl

theorem Reads.append {first second kept keptNext : List Char} (hfirst : Reads first kept)
    (hsecond : Reads second keptNext) : Reads (first ++ second) (kept ++ keptNext) := by
  intro rest
  rw [List.append_assoc, hfirst, hsecond, Option.map_map]
  congr 1
  funext kept
  simp

/-- The whole of a text that reads everywhere is read. -/
theorem Reads.significant {text kept : List Char} (hreads : Reads text kept) :
    significant .code text = some kept := by
  have hend := hreads []
  rw [List.append_nil] at hend
  rw [hend]
  simp [Typings.significant]

/-! ## Plain code -/

/-- The character neither opens a literal nor takes part in opening a comment. -/
def isPlain (c : Char) : Bool :=
  !isQuote c && c != '/'

theorem significant_plain {c : Char} (hplain : isPlain c = true) (rest : List Char) :
    significant .code (c :: rest) =
      if isBlank c then significant .code rest
      else (significant .code rest).map (c :: ·) := by
  simp only [isPlain, Bool.and_eq_true, Bool.not_eq_true', bne_iff_ne, ne_eq] at hplain
  rw [significant]
  · simp [hplain.1]
  · rintro after rfl
    exact absurd rfl hplain.2
  · rintro after rfl
    exact absurd rfl hplain.2

/-- Of plain code everything but the blanks is kept. -/
theorem reads_plain {text : List Char} (hplain : ∀ c ∈ text, isPlain c = true) :
    Reads text (text.filter (!isBlank ·)) := by
  induction text with
  | nil => exact Reads.nil
  | cons c text ih =>
      obtain ⟨hc, htext⟩ := List.forall_mem_cons.mp hplain
      intro rest
      rw [List.cons_append, significant_plain hc, ih htext]
      split
      next hblank => simp [hblank]
      next hink =>
        rw [List.filter_cons_of_pos (by simpa using hink), Option.map_map]
        rfl

/-- Nothing is kept of spaces and line feeds. -/
theorem reads_blank {text : List Char} (hblank : ∀ c ∈ text, c = ' ' ∨ c = '\n') :
    Reads text [] := by
  have hplain : ∀ c ∈ text, isPlain c = true := by
    intro c hc
    rcases hblank c hc with rfl | rfl <;> decide
  have hnothing : text.filter (!isBlank ·) = [] := by
    refine List.filter_eq_nil_iff.mpr fun c hc => ?_
    rcases hblank c hc with rfl | rfl <;> decide
  have hreads := reads_plain hplain
  rwa [hnothing] at hreads

theorem isPlain_of_isWordChar {c : Char} (hc : isWordChar c = true) : isPlain c = true := by
  simp [isPlain, isQuote, isWordChar_ne hc (d := '"') (by decide),
    isWordChar_ne hc (d := '\'') (by decide), isWordChar_ne hc (d := '/') (by decide)]

/-! ## Literals -/

theorem significant_escapeChar (c : Char) (rest : List Char) :
    significant (.literal '"') (escapeChar c ++ rest) =
      (significant (.literal '"') rest).map (escapeChar c ++ ·) := by
  unfold escapeChar
  split
  · simp [significant]
  split
  · simp [significant]
  split
  · simp [significant]
  split
  · simp [significant]
  next hbackslash hquote hfeed hreturn => simp [significant, hbackslash, hquote, hfeed, hreturn]

theorem significant_escaped (cs rest : List Char) :
    significant (.literal '"') (cs.flatMap escapeChar ++ rest) =
      (significant (.literal '"') rest).map (cs.flatMap escapeChar ++ ·) := by
  induction cs with
  | nil =>
      change significant (.literal '"') rest = (significant (.literal '"') rest).map _
      cases significant (.literal '"') rest <;> rfl
  | cons c cs ih =>
      rw [List.flatMap_cons, List.append_assoc, significant_escapeChar, ih, Option.map_map]
      congr 1
      funext kept
      simp

/-- A written literal is kept as it stands, whatever text it denotes. -/
theorem reads_quoteLiteral (s : String) :
    Reads (quoteLiteral s).toList (quoteLiteral s).toList := by
  intro rest
  rw [quoteLiteral_toList, List.cons_append, List.append_assoc, significant]
  · simp only [isQuote, beq_self_eq_true, Bool.true_or, if_true]
    rw [significant_escaped, List.singleton_append, significant]
    · simp [Option.map_map, Function.comp_def]
    · rintro d after h
      simp at h
  · simp
  · simp

/-! ## Comments -/

/-- The reader leaves a block comment at its first end. -/
theorem significant_comment {body : List Char} (hbody : KeepsOpen body) (rest : List Char) :
    significant .blockComment (body ++ '*' :: '/' :: rest) = significant .code rest := by
  induction body with
  | nil => simp [significant]
  | cons c body ih =>
      rw [List.cons_append, significant]
      · exact ih (keepsOpen_cons.mp hbody).2
      · rintro after rfl
        exact hbody.no_end _ after

/-- Nothing of a block comment is kept. -/
theorem reads_comment {body : List Char} (hbody : KeepsOpen body) :
    Reads ('/' :: '*' :: body ++ ['*', '/']) [] := by
  intro rest
  have hsplit : '/' :: '*' :: body ++ ['*', '/'] ++ rest =
      '/' :: '*' :: (body ++ '*' :: '/' :: rest) := by simp
  rw [hsplit, significant, significant_comment hbody]
  cases significant .code rest <;> rfl

end Typings

import Mathlib.Data.List.Basic
import Typings.Declaration.Identifier

/-! # Quoted texts

A literal is read up to its first quote that no backslash escapes. Replacing the four special
characters one after the other spells every character on its own, so reading what is written gives
the text back, whatever it contains.
-/

namespace Typings

/-- The spelling of one character inside a double-quoted literal. -/
def escapeChar (c : Char) : List Char :=
  if c = '\\' then ['\\', '\\']
  else if c = '"' then ['\\', '"']
  else if c = '\n' then ['\\', 'n']
  else if c = '\r' then ['\\', 'r']
  else [c]

/-- The character that a backslash and the given character denote. Escapes of more characters,
such as code points, are not read. -/
def unescapeChar (c : Char) : Option Char :=
  if c = 'n' then some '\n'
  else if c = 'r' then some '\r'
  else if c = 't' then some '\t'
  else if c = 'b' then some '\x08'
  else if c = 'v' then some '\x0b'
  else if c = 'f' then some '\x0c'
  else if c.isDigit || c = 'x' || c = 'u' || c = '\n' || c = '\r' then none
  else some c

/-- Reads a double-quoted literal behind its opening quote: its value and what follows the closing
quote. A line break cannot stand in a literal. -/
def readLiteral : List Char → Option (List Char × List Char)
  | [] => none
  | '"' :: rest => some ([], rest)
  | '\\' :: c :: rest =>
    match unescapeChar c, readLiteral rest with
    | some value, some (values, rest) => some (value :: values, rest)
    | _, _ => none
  | c :: rest =>
    if c = '\n' ∨ c = '\r' then none
    else (readLiteral rest).map fun (values, rest) => (c :: values, rest)

/-! ## Writing -/

theorem replaceChar_flatMap (c : Char) (replacement cs : List Char) (f : Char → List Char) :
    replaceChar c replacement (cs.flatMap f) =
      cs.flatMap fun d => replaceChar c replacement (f d) :=
  List.flatMap_assoc

/-- The successive replacements spell every character on its own. -/
theorem escapeText_toList (s : String) : (escapeText s).toList = s.toList.flatMap escapeChar := by
  rw [escapeText, String.toList_ofList, replaceChar.eq_1 '\\', replaceChar_flatMap,
    replaceChar_flatMap, replaceChar_flatMap]
  refine List.flatMap_congr fun c _ => ?_
  -- Only the backslashes of the text are there to be doubled: those of the other replacements are
  -- written later.
  unfold escapeChar
  by_cases hbackslash : c = '\\'
  · subst hbackslash
    decide
  by_cases hquote : c = '"'
  · subst hquote
    decide
  by_cases hfeed : c = '\n'
  · subst hfeed
    decide
  by_cases hreturn : c = '\r'
  · subst hreturn
    decide
  · simp [replaceChar, hbackslash, hquote, hfeed, hreturn]

theorem quoteLiteral_toList (s : String) :
    (quoteLiteral s).toList = '"' :: (s.toList.flatMap escapeChar ++ ['"']) := by
  simp [quoteLiteral, escapeText_toList]

/-- No spelling contains a line break. -/
theorem escapeChar_one_line (c : Char) : ∀ d ∈ escapeChar c, d ≠ '\n' ∧ d ≠ '\r' := by
  unfold escapeChar
  split
  · simp
  split
  · simp
  split
  · simp
  split
  · simp
  next hfeed hreturn => simp [hfeed, hreturn]

theorem quoteLiteral_one_line (s : String) :
    ∀ d ∈ (quoteLiteral s).toList, d ≠ '\n' ∧ d ≠ '\r' := by
  intro d hd
  rw [quoteLiteral_toList] at hd
  rcases List.mem_cons.mp hd with rfl | hd
  · decide
  rcases List.mem_append.mp hd with hd | hd
  · obtain ⟨c, _, hd⟩ := List.mem_flatMap.mp hd
    exact escapeChar_one_line c d hd
  · rw [List.mem_singleton.mp hd]
    decide

/-! ## Reading -/

/-- Reading undoes the spelling of one character. -/
theorem readLiteral_escapeChar (c : Char) (rest : List Char) :
    readLiteral (escapeChar c ++ rest) =
      (readLiteral rest).map fun (values, rest) => (c :: values, rest) := by
  unfold escapeChar
  split
  next h => subst h; cases hrest : readLiteral rest <;> simp [readLiteral, unescapeChar, hrest]
  split
  next h => subst h; cases hrest : readLiteral rest <;> simp [readLiteral, unescapeChar, hrest]
  split
  next h => subst h; cases hrest : readLiteral rest <;> simp [readLiteral, unescapeChar, hrest]
  split
  next h => subst h; cases hrest : readLiteral rest <;> simp [readLiteral, unescapeChar, hrest]
  next hbackslash _ hfeed hreturn => simp [readLiteral, hbackslash, hfeed, hreturn]

/-- Reading a written text gives the text back, and stops at its closing quote. -/
theorem readLiteral_escaped (cs rest : List Char) :
    readLiteral (cs.flatMap escapeChar ++ '"' :: rest) = some (cs, rest) := by
  induction cs with
  | nil => rfl
  | cons c cs ih =>
      rw [List.flatMap_cons, List.append_assoc, readLiteral_escapeChar, ih]
      rfl

end Typings

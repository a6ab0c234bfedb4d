import Typings.Json.Fault

/-! # Tokens

The pieces of a JSON text: brackets and separators, words, numbers and texts, each with the places
where it begins and ends. The sequence of tokens ends at the first piece that cannot be completed,
at the first character that begins no piece, or at the end of the text.

A piece can be read, for its value, or skipped. Skipping asks less: it neither pairs surrogates nor
looks at the size of a number. So a token keeps its value or the failure of reading it, and a
broken piece keeps a failure for either use.
-/

namespace Typings.Json

/-- Brackets and separators. -/
inductive Mark where
  | openList
  | closeList
  | openObject
  | closeObject
  | comma
  | colon
  deriving DecidableEq, Repr

/-- What a piece of text is. -/
inductive Lexeme where
  | mark (m : Mark)
  | null
  | boolean (value : Bool)
  | number (value : Except Failure Number)
  | text (value : Except Failure String)
  /-- A word or a number that cannot be completed. -/
  | broken (skipping reading : Failure)
  /-- A text that cannot be completed. -/
  | brokenText (skipping reading : Failure)
  /-- A character that begins nothing. -/
  | stray
  /-- The end of the text. -/
  | finish

/-- A piece of text in its place. -/
structure Token where
  lexeme : Lexeme
  start : Position
  stop : Position

/-- A place with the text that follows it. -/
structure Cursor where
  position : Position
  rest : List Char

namespace Cursor

/-- Whitespace of JSON, which is less than what counts as blank elsewhere. -/
def isSpace (c : Char) : Bool :=
  c == ' ' || c == '\n' || c == '\t' || c == '\r'

/-- Passes the whitespace. -/
def passSpace (p : Position) : List Char → Cursor
  | [] => ⟨p, []⟩
  | c :: rest => if isSpace c then passSpace (p.after c) rest else ⟨p, c :: rest⟩

end Cursor

/-! ## Texts -/

/-- The character that a backslash and this character stand for. -/
def shortEscape? (c : Char) : Option Char :=
  if c = '"' then some '"'
  else if c = '\\' then some '\\'
  else if c = '/' then some '/'
  else if c = 'b' then some '\x08'
  else if c = 'f' then some '\x0c'
  else if c = 'n' then some '\n'
  else if c = 'r' then some '\r'
  else if c = 't' then some '\t'
  else none

/-- The value of a hexadecimal digit. -/
def hexDigit? (c : Char) : Option Nat :=
  if '0' ≤ c ∧ c ≤ '9' then some (c.toNat - '0'.toNat)
  else if 'a' ≤ c ∧ c ≤ 'f' then some (c.toNat - 'a'.toNat + 10)
  else if 'A' ≤ c ∧ c ≤ 'F' then some (c.toNat - 'A'.toNat + 10)
  else none

/-- The number written with four hexadecimal digits. -/
def hexUnit? (a b c d : Char) : Option Nat := do
  let a ← hexDigit? a
  let b ← hexDigit? b
  let c ← hexDigit? c
  let d ← hexDigit? d
  return ((a * 16 + b) * 16 + c) * 16 + d

def isLeading (unit : Nat) : Bool := 0xD800 ≤ unit && unit ≤ 0xDBFF

def isTrailing (unit : Nat) : Bool := 0xDC00 ≤ unit && unit ≤ 0xDFFF

/-- The character of a pair of surrogates. -/
def pairedChar (leading trailing : Nat) : Char :=
  Char.ofNat ((leading - 0xD800) * 0x400 + (trailing - 0xDC00) + 0x10000)

/-- The character is a control, which a text holds only as an escape. -/
def isControl (c : Char) : Bool := c.toNat < 0x20

/-- The failure of a `\u` behind which, at this place, four digits do not follow. Four bytes are
consumed where there are as many. -/
def hexFailure (p : Position) (cs : List Char) : Failure :=
  if 4 ≤ cs.foldl (fun n c => n + c.utf8Size) 0 then ⟨.invalidEscape, p.afterBytes 4 cs⟩
  else ⟨.endInText, p.afterAll cs⟩

/-- Passes a text behind its opening quote without reading it. -/
def skipText (p : Position) : List Char → Except Failure Cursor
  | [] => .error ⟨.endInText, p⟩
  | '"' :: rest => .ok ⟨p.skip 1, rest⟩
  | '\\' :: 'u' :: a :: b :: c :: d :: rest =>
    match hexUnit? a b c d with
    | none => .error (hexFailure (p.skip 2) (a :: b :: c :: d :: rest))
    | some _ => skipText (p.skip 6) rest
  | '\\' :: 'u' :: short => .error (hexFailure (p.skip 2) short)
  | ['\\'] => .error ⟨.endInText, p.skip 1⟩
  | '\\' :: c :: rest =>
    match shortEscape? c with
    | none => .error ⟨.invalidEscape, (p.skip 1).into c⟩
    | some _ => skipText (p.skip 2) rest
  | c :: rest => if isControl c then .error ⟨.controlCharacter, p⟩ else skipText (p.after c) rest

/-- The failure of a leading surrogate behind which, at this place, no escape follows. -/
def unpairedFailure (p : Position) : List Char → Failure
  | [] => ⟨.endInText, p⟩
  | ['\\'] => ⟨.endInText, p.skip 1⟩
  | '\\' :: c :: _ => ⟨.endOfSurrogate, (p.skip 1).into c⟩
  | c :: _ => ⟨.endOfSurrogate, p.into c⟩

/-- The characters of a text, read behind its opening quote. -/
def readText (p : Position) : List Char → Except Failure (List Char)
  | [] => .error ⟨.endInText, p⟩
  | '"' :: _ => .ok []
  | '\\' :: 'u' :: a :: b :: c :: d :: rest =>
    match hexUnit? a b c d with
    | none => .error (hexFailure (p.skip 2) (a :: b :: c :: d :: rest))
    | some unit =>
      if isTrailing unit then .error ⟨.loneSurrogate, p.skip 6⟩
      else if isLeading unit then
        match rest with
        | '\\' :: 'u' :: a' :: b' :: c' :: d' :: rest' =>
          match hexUnit? a' b' c' d' with
          | none => .error (hexFailure (p.skip 8) (a' :: b' :: c' :: d' :: rest'))
          | some unit' =>
            if isTrailing unit' then
              (readText (p.skip 12) rest').map (pairedChar unit unit' :: ·)
            else .error ⟨.loneSurrogate, p.skip 12⟩
        | '\\' :: 'u' :: short => .error (hexFailure (p.skip 8) short)
        | other => .error (unpairedFailure (p.skip 6) other)
      else (readText (p.skip 6) rest).map (Char.ofNat unit :: ·)
  | '\\' :: 'u' :: short => .error (hexFailure (p.skip 2) short)
  | ['\\'] => .error ⟨.endInText, p.skip 1⟩
  | '\\' :: c :: rest =>
    match shortEscape? c with
    | none => .error ⟨.invalidEscape, (p.skip 1).into c⟩
    | some plain => (readText (p.skip 2) rest).map (plain :: ·)
  | c :: rest =>
    if isControl c then .error ⟨.controlCharacter, p.after c⟩
    else (readText (p.after c) rest).map (c :: ·)

/-! ## Numbers -/

/-- A failure of a broken number, for either use. At the end of the text a reader misses the rest
of the value, where a skipper finds the number invalid. -/
structure NumeralFailure where
  skipping : Failure
  reading : Failure

namespace NumeralFailure

/-- The same failure for either use. -/
def invalid (p : Position) : NumeralFailure := ⟨⟨.invalidNumber, p⟩, ⟨.invalidNumber, p⟩⟩

/-- The failure at the end of the text. -/
def atEnd (p : Position) : NumeralFailure := ⟨⟨.invalidNumber, p⟩, ⟨.endInValue, p⟩⟩

end NumeralFailure

/-- The exponent of a number, if the text goes on with one. -/
def readExponent (p : Position) (cs : List Char) :
    Except NumeralFailure (Option (Bool × List Char) × Cursor) :=
  let digitsOf (p : Position) (down : Bool) : List Char → Except NumeralFailure _
    | [] => .error (.atEnd p)
    | c :: rest =>
      if c.isDigit then
        let digits := (c :: rest).takeWhile Char.isDigit
        .ok (some (down, digits), ⟨p.skip digits.length, (c :: rest).dropWhile Char.isDigit⟩)
      else .error (.invalid (p.into c))
  match cs with
  | c :: rest =>
    if c = 'e' ∨ c = 'E' then
      match rest with
      | '+' :: rest => digitsOf (p.skip 2) false rest
      | '-' :: rest => digitsOf (p.skip 2) true rest
      | rest => digitsOf (p.skip 1) false rest
    else .ok (none, ⟨p, cs⟩)
  | [] => .ok (none, ⟨p, []⟩)

/-- The fraction of a number, if the text goes on with one. -/
def readFraction (p : Position) :
    List Char → Except NumeralFailure (Option (List Char) × Cursor)
  | '.' :: rest =>
    let digits := rest.takeWhile Char.isDigit
    if digits.isEmpty then
      match rest with
      | [] => .error (.atEnd (p.skip 1))
      | c :: _ => .error (.invalid ((p.skip 1).into c))
    else .ok (some digits, ⟨p.skip (digits.length + 1), rest.dropWhile Char.isDigit⟩)
  | cs => .ok (none, ⟨p, cs⟩)

/-- The digits before the point. A zero is followed by no further digit. -/
def readWhole (p : Position) : List Char → Except NumeralFailure (List Char × Cursor)
  | [] => .error (.atEnd p)
  | '0' :: rest =>
    if rest.head?.any Char.isDigit then .error (.invalid (p.skip 2))
    else .ok (['0'], ⟨p.skip 1, rest⟩)
  | c :: rest =>
    if c.isDigit then
      let digits := (c :: rest).takeWhile Char.isDigit
      .ok (digits, ⟨p.skip digits.length, (c :: rest).dropWhile Char.isDigit⟩)
    else .error (.invalid (p.into c))

/-- A written number, at its sign or its first digit. -/
def readNumeral (p : Position) (cs : List Char) : Except NumeralFailure (Numeral × Cursor) := do
  let (negative, start, unsigned) := match cs with
    | '-' :: rest => (true, p.skip 1, rest)
    | cs => (false, p, cs)
  let (integer, c) ← readWhole start unsigned
  let (fraction, c) ← readFraction c.position c.rest
  let (exponent, c) ← readExponent c.position c.rest
  return (⟨negative, integer, fraction, exponent⟩, c)

/-- The place where it shows that a numeral which ends at `stop` is too great. -/
def overflowPosition (n : Numeral) (stop : Position) : Overflow → Position
  | .atEnd => stop
  | .inExponent digits =>
    ⟨stop.line, stop.column + digits - (n.exponent.map (·.2.length)).getD 0⟩

/-- The value of a numeral that ends at `stop`. -/
def numeralValue (n : Numeral) (stop : Position) : Except Failure Number :=
  match n.value with
  | .ok value => .ok value
  | .error overflow => .error ⟨.numberOutOfRange, overflowPosition n stop overflow⟩

/-! ## Pieces -/

/-- Passes the letters of a word. -/
def passWord (p : Position) : List Char → List Char → Except Failure Cursor
  | [], rest => .ok ⟨p, rest⟩
  | _ :: _, [] => .error ⟨.endInValue, p⟩
  | letter :: letters, c :: rest =>
    if c = letter then passWord (p.skip 1) letters rest else .error ⟨.expectedWord, p.into c⟩

/-- A word of the language, recognised by its first letter. -/
def wordLexeme (value : Lexeme) (word : String) (p : Position) (cs : List Char) :
    Lexeme × Cursor :=
  match passWord p word.toList cs with
  | .ok c => (value, c)
  | .error failure => (.broken failure failure, ⟨p, []⟩)

/-- The piece that begins with the first of the characters. -/
def nextLexeme (p : Position) : List Char → Lexeme × Cursor
  | [] => (.finish, ⟨p, []⟩)
  | '[' :: rest => (.mark .openList, ⟨p.skip 1, rest⟩)
  | ']' :: rest => (.mark .closeList, ⟨p.skip 1, rest⟩)
  | '\x7b' :: rest => (.mark .openObject, ⟨p.skip 1, rest⟩)
  | '\x7d' :: rest => (.mark .closeObject, ⟨p.skip 1, rest⟩)
  | ',' :: rest => (.mark .comma, ⟨p.skip 1, rest⟩)
  | ':' :: rest => (.mark .colon, ⟨p.skip 1, rest⟩)
  | 'n' :: rest => wordLexeme .null "null" p ('n' :: rest)
  | 't' :: rest => wordLexeme (.boolean true) "true" p ('t' :: rest)
  | 'f' :: rest => wordLexeme (.boolean false) "false" p ('f' :: rest)
  | '"' :: rest =>
    let value := (readText (p.skip 1) rest).map String.ofList
    match skipText (p.skip 1) rest, value with
    | .ok c, value => (.text value, c)
    | .error skipping, .error reading => (.brokenText skipping reading, ⟨p, []⟩)
    | .error skipping, .ok _ => (.brokenText skipping skipping, ⟨p, []⟩)
  | c :: rest =>
    if c = '-' ∨ c.isDigit then
      match readNumeral p (c :: rest) with
      | .ok (n, after) => (.number (numeralValue n after.position), after)
      | .error failure => (.broken failure.skipping failure.reading, ⟨p, []⟩)
    else (.stray, ⟨p, []⟩)

/-- No piece follows this one. -/
def Lexeme.isLast : Lexeme → Bool
  | broken _ _ => true
  | brokenText _ _ => true
  | stray => true
  | finish => true
  | _ => false

/-- The tokens of a text with fewer than `limit` characters. -/
def tokensWithin : Nat → Position → List Char → List Token
  | 0, _, _ => []
  | limit + 1, p, cs =>
    let c := Cursor.passSpace p cs
    let (lexeme, next) := nextLexeme c.position c.rest
    let token : Token := ⟨lexeme, c.position, next.position⟩
    if lexeme.isLast then [token] else token :: tokensWithin limit next.position next.rest

/-- The tokens of a text, the last of which cannot be followed by another one. -/
def tokens (cs : List Char) : List Token :=
  tokensWithin (cs.length + 1) ⟨1, 0⟩ cs

end Typings.Json

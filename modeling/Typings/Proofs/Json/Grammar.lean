import Typings.Json.Token

/-! # The grammar of documents

A JSON value as it is written, with every choice that the format leaves to the writer: the escapes
of a text, the digits and the exponent of a number, the order of the members of an object. The
pieces of a value are written one behind the other, with whitespace of any kind and amount between
them.
-/

namespace Typings.Json

/-! ## Texts -/

/-- A hexadecimal digit in one of its letter cases. -/
structure HexDigit where
  value : Fin 16
  isUpper : Bool

def HexDigit.char (d : HexDigit) : Char :=
  if d.isUpper then (Nat.digitChar d.value).toUpper else Nat.digitChar d.value

/-- The escapes that consist of a backslash and one more character. -/
inductive ShortEscape where
  | quote
  | backslash
  | slash
  | backspace
  | formFeed
  | lineFeed
  | carriageReturn
  | tab

namespace ShortEscape

/-- The character behind the backslash. -/
def letter : ShortEscape → Char
  | quote => '"'
  | backslash => '\\'
  | slash => '/'
  | backspace => 'b'
  | formFeed => 'f'
  | lineFeed => 'n'
  | carriageReturn => 'r'
  | tab => 't'

/-- The character that the escape stands for. -/
def value : ShortEscape → Char
  | quote => '"'
  | backslash => '\\'
  | slash => '/'
  | backspace => Char.ofNat 8
  | formFeed => Char.ofNat 12
  | lineFeed => Char.ofNat 10
  | carriageReturn => Char.ofNat 13
  | tab => Char.ofNat 9

end ShortEscape

/-- The character may stand in a text without an escape. -/
def IsPlain (c : Char) : Prop := 0x20 ≤ c.toNat ∧ c ≠ '"' ∧ c ≠ '\\'

instance (c : Char) : Decidable (IsPlain c) := inferInstanceAs (Decidable (_ ∧ _))

/-- A character of a text, or an escape. -/
inductive Glyph where
  | plain (c : Char) (isPlain : IsPlain c)
  | short (escape : ShortEscape)
  /-- A code unit of sixteen bits. -/
  | unit (a b c d : HexDigit)

def Glyph.chars : Glyph → List Char
  | plain c _ => [c]
  | short escape => ['\\', escape.letter]
  | unit a b c d => ['\\', 'u', a.char, b.char, c.char, d.char]

/-- The number that four hexadecimal digits denote. -/
def codeUnit (a b c d : HexDigit) : Nat :=
  ((a.value * 16 + b.value) * 16 + c.value) * 16 + d.value

/-- A text as it is written, without its quotes. -/
abbrev TextLiteral := List Glyph

namespace TextLiteral

/-- The literal with its quotes. -/
def chars (l : TextLiteral) : List Char := '"' :: (l.flatMap Glyph.chars ++ ['"'])

/-- The characters that the glyphs of a literal stand for. Characters beyond the first 65536 may be
written as a pair of code units, a leading surrogate and a trailing one; no other surrogate stands
for anything. -/
inductive Means : TextLiteral → List Char → Prop
  | nil : Means [] []
  | plain {c : Char} (isPlain : IsPlain c) {l : TextLiteral} {s : List Char} :
      Means l s → Means (.plain c isPlain :: l) (c :: s)
  | short (escape : ShortEscape) {l : TextLiteral} {s : List Char} :
      Means l s → Means (.short escape :: l) (escape.value :: s)
  | unit {a b c d : HexDigit} {x : Char} {l : TextLiteral} {s : List Char} :
      codeUnit a b c d = x.toNat → Means l s → Means (.unit a b c d :: l) (x :: s)
  | pair {a b c d a' b' c' d' : HexDigit} {x : Char} {l : TextLiteral} {s : List Char} :
      0xD800 ≤ codeUnit a b c d → codeUnit a b c d ≤ 0xDBFF →
      0xDC00 ≤ codeUnit a' b' c' d' → codeUnit a' b' c' d' ≤ 0xDFFF →
      x.toNat =
        0x10000 + (codeUnit a b c d - 0xD800) * 0x400 + (codeUnit a' b' c' d' - 0xDC00) →
      Means l s → Means (.unit a b c d :: .unit a' b' c' d' :: l) (x :: s)

/-- The text that a literal stands for, if its surrogates are paired. -/
def Denotes (l : TextLiteral) (s : String) : Prop := l.Means s.toList

end TextLiteral

/-! ## Numbers -/

/-- One decimal digit or more. -/
structure Digits where
  chars : List Char
  areDigits : ∀ c ∈ chars, c.isDigit = true
  ne_nil : chars ≠ []

/-- The digits before the point, which begin with a zero only if this is the only one. -/
structure WholeDigits extends Digits where
  no_leading_zero : chars.head? = some '0' → chars = ['0']

inductive ExponentSign where
  | none
  | plus
  | minus

def ExponentSign.chars : ExponentSign → List Char
  | none => []
  | plus => ['+']
  | minus => ['-']

def ExponentSign.isMinus : ExponentSign → Bool
  | minus => true
  | _ => false

structure ExponentText where
  isUpper : Bool
  sign : ExponentSign
  digits : Digits

def ExponentText.chars (e : ExponentText) : List Char :=
  (if e.isUpper then 'E' else 'e') :: (e.sign.chars ++ e.digits.chars)

/-- A number as it is written. -/
structure NumberText where
  negative : Bool
  whole : WholeDigits
  fraction : Option Digits
  exponent : Option ExponentText

namespace NumberText

/-- The point with the digits behind it. -/
def fractionChars : Option Digits → List Char
  | none => []
  | some digits => '.' :: digits.chars

def exponentChars : Option ExponentText → List Char
  | none => []
  | some exponent => exponent.chars

def chars (n : NumberText) : List Char :=
  (if n.negative then ['-'] else []) ++
    (n.whole.chars ++ (fractionChars n.fraction ++ exponentChars n.exponent))

/-- The parts of the number that its value comes from. -/
def numeral (n : NumberText) : Numeral where
  negative := n.negative
  integer := n.whole.chars
  fraction := n.fraction.map (·.chars)
  exponent := n.exponent.map fun e => (e.sign.isMinus, e.digits.chars)

end NumberText

/-! ## Values -/

/-- A value without parts. -/
inductive Scalar where
  | null
  | boolean (value : Bool)
  | number (n : NumberText)
  | text (l : TextLiteral)

def Scalar.chars : Scalar → List Char
  | null => "null".toList
  | boolean true => "true".toList
  | boolean false => "false".toList
  | number n => n.chars
  | text l => l.chars

def Mark.char : Mark → Char
  | openList => '['
  | closeList => ']'
  | openObject => '\x7b'
  | closeObject => '\x7d'
  | comma => ','
  | colon => ':'

/-- What is written without whitespace inside. -/
inductive Piece where
  | mark (m : Mark)
  | scalar (s : Scalar)

def Piece.chars : Piece → List Char
  | mark m => [m.char]
  | scalar s => s.chars

/-- A value as it is written. An object may have members of the same key. -/
inductive Phrase where
  | scalar (s : Scalar)
  | list (items : List Phrase)
  | object (members : List (TextLiteral × Phrase))

/-- The members of an object, each with its key. -/
abbrev Members := List (TextLiteral × Phrase)

/-- What stands before an item or a member. -/
def separator (isFirst : Bool) : List Piece := if isFirst then [] else [.mark .comma]

mutual

/-- The pieces of a value in order. -/
def Phrase.pieces : Phrase → List Piece
  | .scalar s => [.scalar s]
  | .list items => .mark .openList :: (itemPieces true items ++ [.mark .closeList])
  | .object members => .mark .openObject :: (memberPieces true members ++ [.mark .closeObject])

def itemPieces (isFirst : Bool) : List Phrase → List Piece
  | [] => []
  | v :: rest => separator isFirst ++ (v.pieces ++ itemPieces false rest)

def memberPieces (isFirst : Bool) : List (TextLiteral × Phrase) → List Piece
  | [] => []
  | (key, v) :: rest =>
    separator isFirst ++
      .scalar (.text key) :: .mark .colon :: (v.pieces ++ memberPieces false rest)

end

/-! ## Writing -/

/-- The text is whitespace, or empty. -/
def IsSpace (cs : List Char) : Prop := ∀ c ∈ cs, Cursor.isSpace c = true

/-- The text consists of the pieces in order, with any whitespace before each of them. -/
inductive Spaced : List Piece → List Char → Prop
  | nil : Spaced [] []
  | cons (p : Piece) {ps : List Piece} {space rest : List Char} :
      IsSpace space → Spaced ps rest → Spaced (p :: ps) (space ++ (p.chars ++ rest))

/-- The text is the value, perhaps behind some whitespace. -/
def Phrase.WrittenAs (v : Phrase) (text : List Char) : Prop := Spaced v.pieces text

/-- The whole text is one list, with nothing but whitespace around it. -/
def IsListText (text : List Char) : Prop :=
  ∃ items front space, text = front ++ space ∧ (Phrase.list items).WrittenAs front ∧ IsSpace space

theorem Spaced.append {ps qs : List Piece} {front back : List Char} (hfront : Spaced ps front)
    (hback : Spaced qs back) : Spaced (ps ++ qs) (front ++ back) := by
  induction hfront with
  | nil => exact hback
  | cons p hspace _ ih =>
      rw [List.append_assoc, List.append_assoc]
      exact .cons p hspace ih

theorem Scalar.chars_ne_nil (s : Scalar) : s.chars ≠ [] := by
  cases s with
  | null => decide
  | boolean value => cases value <;> decide
  | number n => simp [chars, NumberText.chars, n.whole.ne_nil]
  | text l => simp [chars, TextLiteral.chars]

theorem Piece.chars_ne_nil (p : Piece) : p.chars ≠ [] := by
  cases p with
  | mark m => simp [chars]
  | scalar s => exact s.chars_ne_nil

end Typings.Json

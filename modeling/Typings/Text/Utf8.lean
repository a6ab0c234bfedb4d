/-! # Decoding bytes

Reading bytes as text where they need not be UTF-8. Every longest beginning of a character that
does not become one gives a single replacement character.
-/

namespace Typings.Text

/-- The character that stands for bytes that are no text. -/
def replacement : Char := '\ufffd'

/-- The byte continues a character. -/
def isContinuation (b : UInt8) : Bool := 0x80 ≤ b && b ≤ 0xBF

/-- The byte can be the second one of a character that begins with the given byte. -/
def isSecond (first second : UInt8) : Bool :=
  if first == 0xE0 then 0xA0 ≤ second && second ≤ 0xBF
  else if first == 0xED then 0x80 ≤ second && second ≤ 0x9F
  else if first == 0xF0 then 0x90 ≤ second && second ≤ 0xBF
  else if first == 0xF4 then 0x80 ≤ second && second ≤ 0x8F
  else isContinuation second

/-- The number of bytes of a character that begins with the given byte; zero where none does. -/
def sequenceLength (first : UInt8) : Nat :=
  if first < 0x80 then 1
  else if 0xC2 ≤ first && first ≤ 0xDF then 2
  else if 0xE0 ≤ first && first ≤ 0xEF then 3
  else if 0xF0 ≤ first && first ≤ 0xF4 then 4
  else 0

/-- The code point of a character by its first byte and the others. -/
def codePoint (first : UInt8) (others : List UInt8) : Nat :=
  let lead := match others.length with
    | 0 => first.toNat
    | 1 => first.toNat % 0x20
    | 2 => first.toNat % 0x10
    | _ => first.toNat % 8
  others.foldl (fun n b => n * 0x40 + b.toNat % 0x40) lead

/-- The bytes after the first one that go on with its character. -/
def continuing (first : UInt8) (rest : List UInt8) : List UInt8 :=
  match rest with
  | second :: others =>
    if 2 ≤ sequenceLength first && isSecond first second then
      second :: (others.take (sequenceLength first - 2)).takeWhile isContinuation
    else []
  | [] => []

/-- The character that a byte begins together with those that go on with it. -/
def decodeOne (first : UInt8) (others : List UInt8) : Char :=
  if sequenceLength first = others.length + 1 then Char.ofNat (codePoint first others)
  else replacement

/-- The characters of some bytes, behind those that were decoded before, last one first. -/
def decodeAfter (before : List Char) : List UInt8 → List Char
  | [] => before.reverse
  | first :: rest =>
    let others := continuing first rest
    decodeAfter (decodeOne first others :: before) (rest.drop others.length)
termination_by bytes => bytes.length

/-- The text of some bytes, with replacement characters where they are not UTF-8. -/
def decodeLossy (bytes : ByteArray) : String :=
  String.ofList (decodeAfter [] bytes.toList)

end Typings.Text

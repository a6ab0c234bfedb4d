import Typings.Tools.ByteClass
import Typings.Tools.Options
import Typings.Tools.Quoting

/-! # Transliteration

The tool `tr`: replaces, deletes or squeezes single bytes. Sets of bytes are written with ranges,
escapes, named classes, classes of equivalent bytes and repeated bytes.
-/

namespace Typings.Tools.Transliterate

/-! ## Written sets -/

/-- A byte of a written set. One with a backslash has no special meaning. -/
structure Sign where
  byte : UInt8
  escaped : Bool
  deriving DecidableEq

/-- The sign is a byte that means what it means by itself. -/
def Sign.is (s : Sign) (b : UInt8) : Bool := s.byte == b && !s.escaped

/-- The byte is a digit to base eight. -/
def isOctal (b : UInt8) : Bool := ByteClass.within 48 55 b

/-- The byte of an escape with one letter. -/
def letterEscape (b : UInt8) : UInt8 :=
  match b with
  | 97 => 7
  | 98 => 8
  | 102 => 12
  | 110 => 10
  | 114 => 13
  | 116 => 9
  | 118 => 11
  | b => b

/-- The octal digits at the beginning of some bytes that make a byte: at most three, and no third
one that would make the number too large. -/
def octalDigits (bytes : Bytes) : Bytes :=
  let digits := (bytes.takeWhile isOctal).take 3
  match digits with
  | [a, b, _] => if a < 52 then digits else [a, b]
  | digits => digits

/-- The number that octal digits stand for. -/
def octalValue (digits : Bytes) : Nat := digits.foldl (fun n d => n * 8 + (d.toNat - 48)) 0

/-- The warning for three octal digits that make no byte. -/
def octalWarning (a b c : UInt8) : Bytes :=
  bytesOf "warning: the ambiguous octal escape \\" ++ [a, b, c] ++
    bytesOf " is being\n\tinterpreted as the 2-byte sequence \\0" ++ [a, b] ++ bytesOf ", " ++ [c]

/-- What is said of a backslash at the end. -/
def backslashWarning : Bytes :=
  bytesOf "warning: an unescaped backslash at end of string is not portable"

/-- The signs of at most `limit` bytes, with warnings. -/
def signs : Nat → Bytes → List Sign × List Bytes
  | _, [] => ([], [])
  | 0, _ => ([], [])
  | _, [92] => ([⟨92, false⟩], [backslashWarning])
  | limit + 1, 92 :: b :: rest =>
    if isOctal b then
      let digits := octalDigits (b :: rest)
      let warning := match b :: rest with
        | a :: b :: c :: _ =>
          if digits.length = 2 ∧ isOctal b ∧ isOctal c then [octalWarning a b c] else []
        | _ => []
      let (later, warnings) := signs limit ((b :: rest).drop digits.length)
      (⟨UInt8.ofNat (octalValue digits), true⟩ :: later, warning ++ warnings)
    else
      let (later, warnings) := signs limit rest
      (⟨letterEscape b, true⟩ :: later, warnings)
  | limit + 1, b :: rest =>
    let (later, warnings) := signs limit rest
    (⟨b, false⟩ :: later, warnings)

/-! ## Elements of sets -/

/-- A part of a written set. -/
inductive Element where
  | byte (b : UInt8)
  | range (first last : UInt8)
  | named (c : ByteClass)
  | equivalent (b : UInt8)
  /-- A byte so many times, or as often as it is needed if the number is zero. -/
  | repeated (b : UInt8) (times : Nat)
  deriving DecidableEq

/-- Why sets cannot be read or used together. -/
inductive SetError where
  | reversedRange (first last : UInt8)
  | unknownClass (name : Bytes)
  | emptyClass
  | emptyEquivalence
  | longEquivalence (name : Bytes)
  | invalidCount (written : Bytes)
  | repeatInFirst
  | severalRepeats
  | equivalenceInSecond
  | classInSecond
  | misaligned
  | emptySecond
  | endsWithClass
  | severalImages
  | repeatWithoutTranslation
  deriving DecidableEq

/-- The end of a range as messages show it. -/
def shownEnd (b : UInt8) : Bytes :=
  if ByteClass.print.contains b then [b] else 92 :: Quoting.octal b

/-- A byte of a name as messages show it. -/
def shownByte (b : UInt8) : Bytes := if b = 92 then [92, 92] else shownEnd b

/-- What is wrong, in words. -/
def SetError.message : SetError → Bytes
  | reversedRange first last =>
    bytesOf "range-endpoints of '" ++ shownEnd first ++ bytesOf "-" ++ shownEnd last ++
      bytesOf "' are in reverse collating sequence order"
  | unknownClass name =>
    bytesOf "invalid character class '" ++ name.flatMap shownByte ++ bytesOf "'"
  | emptyClass => bytesOf "missing character class name '[::]'"
  | emptyEquivalence => bytesOf "missing equivalence class character '[==]'"
  | longEquivalence name =>
    name.flatMap shownByte ++ bytesOf ": equivalence class operand must be a single character"
  | invalidCount written =>
    bytesOf "invalid repeat count '" ++ written.flatMap shownByte ++ bytesOf "' in [c*n] construct"
  | repeatInFirst => bytesOf "the [c*] repeat construct may not appear in string1"
  | severalRepeats => bytesOf "only one [c*] repeat construct may appear in string2"
  | equivalenceInSecond =>
    bytesOf "[=c=] expressions may not appear in string2 when translating"
  | classInSecond =>
    bytesOf ("when translating, the only character classes that may appear in\n" ++
      "string2 are 'upper' and 'lower'")
  | misaligned => bytesOf "misaligned [:upper:] and/or [:lower:] construct"
  | emptySecond => bytesOf "when not truncating set1, string2 must be non-empty"
  | endsWithClass =>
    bytesOf ("when translating with string1 longer than string2,\n" ++
      "the latter string must not end with a character class")
  | severalImages =>
    bytesOf ("when translating with complemented character classes,\n" ++
      "string2 must map all characters in the domain to one")
  | repeatWithoutTranslation =>
    bytesOf "the [c*] construct may appear in string2 only when translating"

/-- The signs up to a closing sign and bracket, with what follows. -/
def untilClosing (sign : UInt8) (before : List Sign) : List Sign → Option (Bytes × List Sign)
  | a :: b :: rest =>
    if a.is sign && b.is 93 then some (before.reverse.map (·.byte), rest)
    else untilClosing sign (a :: before) (b :: rest)
  | _ => none

/-- The largest number of repetitions. -/
def mostRepetitions : Nat := Nat.pow 2 64 - 2

/-- The number that is written behind a star; one that begins with a zero is octal. -/
def repetitions? (written : Bytes) : Option Nat :=
  match written with
  | 48 :: _ =>
    if written.all isOctal && octalValue written ≤ mostRepetitions then some (octalValue written)
    else none
  | _ =>
    if written.all isDigit && decimalValue written ≤ mostRepetitions then
      some (decimalValue written)
    else none

/-- A repeated byte behind its opening bracket, if there is one. -/
def readRepeated : List Sign → Except SetError (Option (Element × List Sign))
  | b :: star :: rest =>
    let written := rest.takeWhile fun s => !s.escaped && s.byte != 93
    match rest.drop written.length with
    | closing :: rest =>
      if !star.is 42 || !closing.is 93 then .ok none
      else if written.isEmpty then .ok (some (.repeated b.byte 0, rest))
      else
        match repetitions? (written.map (·.byte)) with
        | some n => .ok (some (.repeated b.byte n, rest))
        | none => .error (.invalidCount (written.map (·.byte)))
    | [] => .ok none
  | _ => .ok none

/-- What follows an opening bracket and a sign is a star with digits and a closing bracket. -/
def looksRepeated (signs : List Sign) : Bool :=
  match signs with
  | star :: rest =>
    star.is 42 && ((rest.dropWhile fun s => isDigit s.byte).head?.any (·.is 93))
  | [] => false

/-- A class behind its opening bracket, if there is one. -/
def readClass : List Sign → Except SetError (Option (Element × List Sign))
  | sign :: rest =>
    if sign.is 58 then
      match untilClosing 58 [] rest with
      | none => .ok none
      | some ([], _) => .error .emptyClass
      | some (name, later) =>
        match ByteClass.ofName? name with
        | some c => .ok (some (.named c, later))
        | none => if looksRepeated rest then .ok none else .error (.unknownClass name)
    else if sign.is 61 then
      match untilClosing 61 [] rest with
      | none => .ok none
      | some ([], _) => .error .emptyEquivalence
      | some ([b], later) => .ok (some (.equivalent b, later))
      | some (name, _) => if looksRepeated rest then .ok none else .error (.longEquivalence name)
    else .ok none
  | [] => .ok none

/-- An element at the beginning of some signs. Everything but a single byte takes three signs at
least. -/
def readElement (sign : Sign) (rest : List Sign) : Except SetError (Element × List Sign) := do
  if rest.length < 2 then return (.byte sign.byte, rest)
  if sign.is 91 then
    if let some found ← readClass rest then return found
    if let some found ← readRepeated rest then return found
  match rest with
  | hyphen :: last :: later =>
    if hyphen.is 45 then
      if last.byte < sign.byte then throw (.reversedRange sign.byte last.byte)
      return (.range sign.byte last.byte, later)
    else return (.byte sign.byte, rest)
  | _ => return (.byte sign.byte, rest)

/-- The elements of at most `limit` signs. -/
def readElements : Nat → List Sign → Except SetError (List Element)
  | 0, _ => .ok []
  | _, [] => .ok []
  | limit + 1, sign :: rest => do
    let (element, rest) ← readElement sign rest
    return element :: (← readElements limit rest)

/-! ## Sets -/

namespace Element

/-- The bytes of the element in order. -/
def bytes : Element → Bytes
  | byte b | equivalent b => [b]
  | range first last => allBytes.filter (ByteClass.within first last)
  | named c => allBytes.filter c.contains
  | repeated b times => List.replicate times b

/-- The class if it is that of the capital or of the small letters. -/
def caseClass? : Element → Option ByteClass
  | named .upper => some .upper
  | named .lower => some .lower
  | _ => none

/-- The element repeats a byte as often as it takes. -/
def isIndefinite : Element → Bool
  | repeated _ times => times == 0
  | _ => false

/-- The element is a class by its name. -/
def isNamed : Element → Bool
  | named _ => true
  | _ => false

/-- The element is a class of equivalent bytes. -/
def isEquivalent : Element → Bool
  | equivalent _ => true
  | _ => false

/-- The byte that a set is extended with that ends with the element. -/
def last? : Element → Option UInt8
  | byte b | equivalent b | range _ b | repeated b _ => some b
  | named _ => none

end Element

abbrev WrittenSet : Type := List Element

/-- The bytes of the set in order. -/
def WrittenSet.bytes (s : WrittenSet) : Bytes := s.flatMap Element.bytes

/-- A byte of a set in its place. -/
structure Member where
  byte : UInt8
  /-- The class of letters that the byte is a part of. -/
  caseClass : Option ByteClass
  /-- The first byte of its element. -/
  isFirst : Bool
  deriving DecidableEq

/-- The members of the element in order. -/
def Element.members (e : Element) : List Member :=
  match e.bytes with
  | [] => []
  | b :: rest => ⟨b, e.caseClass?, true⟩ :: rest.map fun b => ⟨b, e.caseClass?, false⟩

/-- The members behind the element that the first one is a part of. -/
def skipElement (members : List Member) : List Member :=
  (members.drop 1).dropWhile (!·.isFirst)

/-- Pairs the members of two sets; two classes of letters make one pair. Fails where a class in the
second set does not meet one in the first. Past the end of a set there is no member. -/
def pairs : Nat → List Member → List Member → Option (List (Member × Member))
  | 0, _, _ => some []
  | limit + 1, source, target =>
    match target with
    | [] => some []
    | t :: target' =>
      let isMet := match source with
        | s :: _ => s.isFirst && s.caseClass.isSome
        | [] => false
      if t.isFirst && t.caseClass.isSome && !isMet then none
      else
        match source with
        | [] => some []
        | s :: source' =>
          let later :=
            if t.caseClass.isSome then pairs limit (skipElement source) (skipElement target)
            else pairs limit source' target'
          later.map ((s, t) :: ·)

/-- How a translation is asked for. -/
structure Translation where
  complements : Bool
  truncates : Bool

/-- The number of bytes that pairs of classes do not count for. -/
def discount (paired : List (Member × Member)) : Nat :=
  (paired.filter (·.2.caseClass.isSome)).length * 25

/-- The second set with an indefinite repetition made as long as it is needed. -/
def fillRepetition (sourceLength : Nat) (target : WrittenSet) : WrittenSet :=
  let missing := sourceLength - (WrittenSet.bytes target).length
  target.map fun e =>
    match e with
    | .repeated b 0 => .repeated b missing
    | e => e

/-- The second set of a translation, checked and made as long as the first one. `sourceBytes` are
the bytes that are translated, in order. -/
def checkedTarget (t : Translation) (source : WrittenSet) (sourceBytes : Bytes)
    (target : WrittenSet) : Except SetError WrittenSet := do
  let target := fillRepetition sourceBytes.length target
  if target.any Element.isEquivalent then throw .equivalenceInSecond
  if target.any fun e => e.isNamed && e.caseClass?.isNone then throw .classInSecond
  let sourceMembers := source.flatMap Element.members
  let targetMembers := target.flatMap Element.members
  let paired ←
    if t.complements || !target.any Element.isNamed then pure []
    else
      match pairs (sourceMembers.length + targetMembers.length + 1) sourceMembers targetMembers with
      | none => throw .misaligned
      | some paired => pure paired
  let sourceLength := sourceBytes.length - discount paired
  let targetLength := targetMembers.length - discount paired
  let target ←
    if sourceLength ≤ targetLength || t.truncates then pure target
    else if targetLength = 0 then throw .emptySecond
    else
      match target.getLast?.bind Element.last? with
      | none => throw .endsWithClass
      | some b => pure (target ++ [.repeated b (sourceLength - targetLength)])
  if t.complements && source.any Element.isNamed then
    let images := WrittenSet.bytes target
    let isUniform := images.all fun b => images.head? == some b
    if images.length ≠ sourceBytes.length || !isUniform then throw .severalImages
  return target

/-- Enters a pair into a table of images. -/
def enter (table : Array UInt8) (pair : Member × Member) : Array UInt8 :=
  let (s, t) := pair
  match s.caseClass, t.caseClass with
  | some .lower, some .upper =>
    (allBytes.filter ByteClass.lower.contains).foldl
      (fun table b => table.setIfInBounds b.toNat (upperByte b)) table
  | some .upper, some .lower =>
    (allBytes.filter ByteClass.upper.contains).foldl
      (fun table b => table.setIfInBounds b.toNat (lowerByte b)) table
  | _, _ => table.setIfInBounds s.byte.toNat t.byte

def images (t : Translation) (source : WrittenSet) (sourceBytes : Bytes) (target : WrittenSet) :
    Array UInt8 :=
  let unchanged := allBytes.toArray
  if t.complements then
    (sourceBytes.zip (WrittenSet.bytes target)).foldl
      (fun table (b, c) => table.setIfInBounds b.toNat c) unchanged
  else
    let sourceMembers := source.flatMap Element.members
    let targetMembers := target.flatMap Element.members
    ((pairs (sourceMembers.length + targetMembers.length + 1) sourceMembers
      targetMembers).getD []).foldl enter unchanged

/-- Drops all but the first of equal bytes in a row that are in a set. -/
def squeeze (set : ByteSet) (before : Bytes) : Bytes → Bytes
  | [] => before.reverse
  | b :: rest =>
    if before.head? == some b && set.contains b then squeeze set before rest
    else squeeze set (b :: before) rest

/-! ## The tool -/

/-- What an option asks for. -/
inductive Feature where
  | complements
  | deletes
  | squeezes
  | truncates
  /-- Nothing that shows in the output. -/
  | indifferent
  deriving DecidableEq

def options : List (ToolOption Feature) :=
  [{ letter := some 'c', name := some "complement", meaning := .complements },
    { letter := some 'C', meaning := .complements },
    { letter := some 'd', name := some "delete", meaning := .deletes },
    { letter := some 's', name := some "squeeze-repeats", meaning := .squeezes },
    { letter := some 't', name := some "truncate-set1", meaning := .truncates },
    { letter := some 'A', meaning := .indifferent }]

/-- What is wrong with the number of operands. -/
def operandFault? (deletes squeezes : Bool) (operands : List String) : Option Bytes :=
  let least := if deletes == squeezes then 2 else 1
  let most := if deletes && !squeezes then 1 else 2
  if operands.length < least then
    match operands with
    | [] => some (bytesOf "missing operand")
    | first :: _ =>
      let need :=
        if squeezes then "\nTwo strings must be given when both deleting and squeezing repeats."
        else "\nTwo strings must be given when translating."
      some (bytesOf "missing operand after " ++ Quoting.argument (bytesOf first) ++ bytesOf need)
  else
    match operands.drop most with
    | [] => none
    | extra :: _ =>
      let limit :=
        if operands.length = 2 then
          "\nOnly one string may be given when deleting without squeezing repeats."
        else ""
      some (bytesOf "extra operand " ++ Quoting.argument (bytesOf extra) ++ bytesOf limit)

/-- A set as it is written in an operand, and warnings. -/
def setOf (operand : String) : Except SetError WrittenSet × List Bytes :=
  let bytes := bytesOf operand
  let (signs, warnings) := signs bytes.length bytes
  (readElements signs.length signs, warnings)

/-- What becomes of an input, given sets that have been read. -/
def transform (asked : List Feature) (source : WrittenSet) (target : Option WrittenSet)
    (input : Bytes) : Except SetError Bytes := do
  if source.any Element.isIndefinite then throw .repeatInFirst
  let complements := asked.contains .complements
  let deletes := asked.contains .deletes
  let squeezes := asked.contains .squeezes
  let named := WrittenSet.bytes source
  let sourceBytes :=
    if complements then allBytes.filter (!(ByteSet.ofBytes named).contains ·) else named
  let sourceSet := ByteSet.ofBytes sourceBytes
  match target with
  | none =>
    return if deletes then input.filter (!sourceSet.contains ·) else squeeze sourceSet [] input
  | some target =>
    let indefinite := (target.filter Element.isIndefinite).length
    if 1 < indefinite then throw .severalRepeats
    if deletes then
      if 0 < indefinite then throw .repeatWithoutTranslation
      let targetSet := ByteSet.ofBytes (WrittenSet.bytes target)
      return squeeze targetSet [] (input.filter (!sourceSet.contains ·))
    else
      let t : Translation := { complements, truncates := asked.contains .truncates }
      let target ← checkedTarget t source sourceBytes target
      let table := images t source sourceBytes target
      let output := input.map fun b => table.getD b.toNat b
      let targetSet := ByteSet.ofBytes (WrittenSet.bytes target)
      return if squeezes then squeeze targetSet [] output else output

/-- Reads the sets and transforms the input; there are warnings for the sets as well. -/
def run (asked : List Feature) (operands : List String) (input : Bytes) :
    Except SetError Bytes × List Bytes :=
  match setOf (operands.headD "") with
  | (.error e, warnings) => (.error e, warnings)
  | (.ok source, warnings) =>
    match operands[1]? with
    | none => (transform asked source none input, warnings)
    | some second =>
      let (target, further) := setOf second
      (target.bind fun target => transform asked source (some target) input, warnings ++ further)

def tool : Tool := fun arguments s =>
  match ToolOption.read options false arguments with
  | .error e => s.failure 1 (e.complaint s.program)
  | .ok r =>
    let asked := r.options.map (·.1)
    match operandFault? (asked.contains .deletes) (asked.contains .squeezes) r.operands with
    | some fault =>
      let hint := bytesOf ("\nTry '" ++ s.program ++ " --help' for more information.")
      s.failure 1 (s.messageLine (fault ++ hint))
    | none =>
      let (result, warnings) := run asked r.operands s.input
      let warned := warnings.flatMap s.messageLine
      match result with
      | .error e => s.failure 1 (warned ++ s.messageLine e.message)
      | .ok output =>
        if s.inputKind == .closed then
          s.failure 1 (warned ++ s.messageLine (bytesOf "read error: Bad file descriptor"))
        else s.checkOutput { written := [.message warned, .output output] }

end Typings.Tools.Transliterate

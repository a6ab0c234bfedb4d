import Typings.Tools.Edit.Script
import Typings.Tools.Pattern.Reading

/-! # Reading editing scripts

How scripts are written. A script can come in several parts; a text that is to be inserted can go
from one part to the next. A fault is placed behind the characters of its part that have been read.
-/

namespace Typings.Tools.Edit

open Files

/-- What a script is read with. -/
structure Setting where
  /-- Patterns are written in the extended style. -/
  extended : Bool := false
  /-- Whether a file can be written. Files are made ready as soon as a command names them. -/
  prepareFile : Bytes → Except FileError Unit

/-- A place in a part of a script. -/
structure Place where
  rest : Bytes
  consumed : Nat := 0

/-- What reads from a place in a part, and can find a fault. -/
abbrev Reader : Type → Type := StateT Place (Except ScriptError)

namespace Reader

/-- Gives up with a fault at the place that has been reached. -/
def fail {α : Type} (f : Fault) : Reader α := do
  throw (.fault f (← get).consumed)

/-- The next byte, which is left where it is. -/
def peek : Reader (Option UInt8) := do
  return (← get).rest.head?

/-- Passes a number of bytes. -/
def drop (n : Nat) : Reader Unit :=
  modify fun p => { rest := p.rest.drop n, consumed := p.consumed + min n p.rest.length }

/-- Takes bytes as long as they satisfy a test. -/
def takeWhile (test : UInt8 → Bool) : Reader Bytes := do
  let taken := (← get).rest.takeWhile test
  drop taken.length
  return taken

/-- Passes blanks. -/
def skipBlanks : Reader Unit := do
  let _ ← takeWhile ByteClass.blank.contains

/-- A number; no digits count as zero. -/
def number : Reader Nat := do
  return decimalValue (← takeWhile isDigit)

/-- A number behind blanks, if there is one. -/
def number? : Reader (Option Nat) := do
  skipBlanks
  let digits ← takeWhile isDigit
  return if digits.isEmpty then none else some (decimalValue digits)

/-- Takes a byte if it is the next one. -/
def accept (b : UInt8) : Reader Bool := do
  if (← peek) == some b then
    drop 1
    return true
  else return false

end Reader

open Reader

/-! ## Texts between delimiters -/

/-- Where a text between delimiters is with respect to bracket expressions. -/
inductive BracketState where
  | outside
  | opened
  | negated
  | inside
  /-- Right behind an opening bracket inside of a bracket expression. -/
  | nested
  | named (sign : UInt8)
  /-- Right behind the sign that may end a name. -/
  | closing (sign : UInt8)
  deriving DecidableEq

/-- The state behind one more byte. -/
def BracketState.next (s : BracketState) (b : UInt8) : BracketState :=
  let plain : BracketState := if b = 91 then nested else inside
  match s with
  | outside => if b = 91 then opened else outside
  | opened => if b = 94 then negated else if b = 93 then inside else plain
  | negated => if b = 93 then inside else plain
  | inside => if b = 93 then outside else plain
  | nested =>
    if b = 58 ∨ b = 46 ∨ b = 61 then named b else if b = 93 then outside else plain
  | named sign => if b = sign then closing sign else named sign
  | closing sign => if b = 93 then inside else if b = sign then closing sign else named sign

/-- Reads up to a delimiter. A backslash takes the meaning of the delimiter away; in a pattern the
delimiter has none between brackets. The result is the text, if there is a delimiter, with the
number of bytes that have been read. -/
def splitDelimited (delimiter : UInt8) (isPattern : Bool) (state : BracketState) (before : Bytes)
    (count : Nat) : Bytes → Option Bytes × Nat
  | [] => (none, count)
  | b :: rest =>
    if b = 10 then (none, count)
    else if state ≠ .outside then
      splitDelimited delimiter isPattern (state.next b) (b :: before) (count + 1) rest
    else if b = delimiter then (some before.reverse, count + 1)
    else if b = 92 then
      match rest with
      | [] => (none, count + 1)
      | c :: rest =>
        let taken :=
          if c = 110 ∧ isPattern then [10]
          else if c = 10 ∨ (c = delimiter ∧ (isPattern ∨ c ≠ 38)) then [c]
          else [c, 92]
        splitDelimited delimiter isPattern .outside (taken ++ before) (count + 2) rest
    else
      let state := if isPattern then state.next b else state
      splitDelimited delimiter isPattern state (b :: before) (count + 1) rest

/-- Reads a text up to a delimiter; without one the fault is the given one. -/
def delimited (delimiter : UInt8) (isPattern : Bool) (unterminated : Fault) : Reader Bytes := do
  let (text, count) := splitDelimited delimiter isPattern .outside [] 0 (← get).rest
  drop count
  match text with
  | some text => return text
  | none => fail unterminated

/-! ## Escapes -/

/-- What a text with escapes is for, which decides what becomes of other backslashes. -/
inductive TextKind where
  | plain
  | pattern
  | replacement
  deriving DecidableEq

/-- The value of a digit, be it decimal or one of the letters that follow. -/
def digitOf? (base : Nat) (b : UInt8) : Option Nat :=
  let value :=
    if isDigit b then b.toNat - 48 else (lowerByte b).toNat - 87
  if ByteClass.xdigit.contains b && value < base then some value else none

/-- The base and the most digits of a number by the letter of its escape. -/
def numberForm? (b : UInt8) : Option (Nat × Nat) :=
  match b with
  | 100 => some (10, 3)
  | 111 => some (8, 3)
  | 120 => some (16, 2)
  | _ => none

/-- The control character of an escape. -/
def controlOf? (b : UInt8) : Option UInt8 :=
  match b with
  | 97 => some 7
  | 102 => some 12
  | 110 => some 10
  | 10 => some 10
  | 114 => some 13
  | 116 => some 9
  | 118 => some 11
  | _ => none

/-- Replaces the escapes of a text. -/
def resolveEscapes (kind : TextKind) : Nat → Bytes → Except Fault Bytes
  | 0, bytes => .ok bytes
  | limit + 1, 92 :: c :: rest =>
    match controlOf? c, numberForm? c with
    | some control, _ => return control :: (← resolveEscapes kind limit rest)
    | none, some (base, most) => do
      let digits := (rest.takeWhile fun b => (digitOf? base b).isSome).take most
      if digits.isEmpty then return c :: (← resolveEscapes kind limit rest)
      else
        let value := digits.foldl (fun n d => n * base + (digitOf? base d).getD 0) 0
        let b := UInt8.ofNat value
        let written := if kind = .replacement ∧ (b = 38 ∨ b = 92) then [92, b] else [b]
        return written ++ (← resolveEscapes kind limit (rest.drop digits.length))
    | none, none =>
      if c = 99 then
        match rest with
        | [] => return [92]
        | 92 :: 92 :: rest => return (92 ^^^ 64) :: (← resolveEscapes kind limit rest)
        | 92 :: _ => throw .nestedControl
        | d :: rest => return (upperByte d ^^^ 64) :: (← resolveEscapes kind limit rest)
      else if kind = .plain then return c :: (← resolveEscapes kind limit rest)
      else return 92 :: c :: (← resolveEscapes kind limit rest)
  | limit + 1, b :: rest => return b :: (← resolveEscapes kind limit rest)
  | _, [] => .ok []

/-- A text with its escapes replaced. -/
def withoutEscapes (kind : TextKind) (bytes : Bytes) : Reader Bytes := do
  match resolveEscapes kind bytes.length bytes with
  | .ok bytes => return bytes
  | .error f => fail f

/-! ## Patterns and replacements -/

/-- The pattern that is written in a text; an empty one stands for the pattern that is used last. -/
def patternOf (style : PatternStyle) (written : Bytes) (groups : Nat) :
    Reader (Option Matcher) := do
  if written.isEmpty then
    if style.ignoresCase || style.multiline then fail .modifiedEmptyPattern
    return none
  else
    match Pattern.read style (← withoutEscapes .pattern written) with
    | .error .bareClass => throw .bareClass
    | .error e => fail (.pattern e)
    | .ok (p, groupCount) =>
      if groupCount < groups then fail (.invalidReference groups)
      return some (p.matcher style)

/-- A replacement in the middle of being read. -/
structure ReplacementDraft where
  pieces : List Piece := []
  /-- The text since the last piece, last byte first. -/
  text : Bytes := []
  /-- How the piece is written that comes next. -/
  lettering : Lettering := {}

namespace ReplacementDraft

/-- Adds a byte to the text. -/
def add (d : ReplacementDraft) (b : UInt8) : ReplacementDraft := { d with text := b :: d.text }

/-- Ends a piece with what a group has matched, or with nothing. -/
def close (d : ReplacementDraft) (group : Option Nat) : ReplacementDraft where
  pieces := { text := d.text.reverse, group, lettering := d.lettering } :: d.pieces
  lettering := { d.lettering with first := none }

/-- Changes how what follows is written. -/
def letter (d : ReplacementDraft) (change : Lettering → Lettering) : ReplacementDraft :=
  let d := d.close none
  { d with lettering := change d.lettering }

end ReplacementDraft

/-- The pieces that are written in a replacement. -/
def readPieces (d : ReplacementDraft) : Bytes → List Piece
  | [] => (if d.text.isEmpty then d else d.close none).pieces.reverse
  | 92 :: c :: rest =>
    if isDigit c then readPieces (d.close (some (c.toNat - 48))) rest
    else
      match c with
      | 76 => readPieces (d.letter fun _ => { all := .lower }) rest
      | 85 => readPieces (d.letter fun _ => { all := .upper }) rest
      | 69 => readPieces (d.letter fun _ => {}) rest
      | 108 => readPieces (d.letter ({ · with first := some .lower })) rest
      | 117 => readPieces (d.letter ({ · with first := some .upper })) rest
      | c => readPieces ((d.close none).add c) rest
  | 38 :: rest => readPieces (d.close (some 0)) rest
  | b :: rest => readPieces (d.add b) rest

/-! ## Addresses -/

/-- The flags behind the pattern of an address. -/
def addressFlags : Nat → PatternStyle → Reader PatternStyle
  | 0, style => return style
  | limit + 1, style => do
    skipBlanks
    if ← accept 73 then addressFlags limit { style with ignoresCase := true }
    else if ← accept 77 then addressFlags limit { style with multiline := true }
    else return style

/-- The pattern of an address, behind the delimiter that opens it. -/
def patternAddress (extended : Bool) (delimiter : UInt8) : Reader Address := do
  let written ← delimited delimiter true .unterminatedAddress
  let style ← addressFlags (← get).rest.length { extended }
  return .matching (← patternOf style written 0)

/-- An address, if there is one. -/
def address? (extended : Bool) : Reader (Option Address) := do
  match ← peek with
  | some 47 =>
    drop 1
    some <$> patternAddress extended 47
  | some 92 =>
    drop 1
    match ← peek with
    | none => fail .unterminatedAddress
    | some delimiter =>
      drop 1
      some <$> patternAddress extended delimiter
  | some 36 =>
    drop 1
    return some .last
  | some b =>
    if isDigit b then
      let first ← number
      skipBlanks
      if ← accept 126 then
        skipBlanks
        let step ← number
        return some (if step = 0 then .line first else .every first step)
      else return some (.line first)
    else return none
  | none => return none

/-- The end of a range behind the comma. -/
def rangeEnd (extended : Bool) : Reader RangeEnd := do
  skipBlanks
  if ← accept 43 then
    skipBlanks
    return .after (← number)
  else if ← accept 126 then
    skipBlanks
    return .multipleOf (← number)
  else
    match ← address? extended with
    | some a => return .address a
    | none =>
      drop 1
      fail .unexpectedComma

/-- The lines of a command. -/
def selection (extended : Bool) : Reader Selection := do
  if (← peek) == some 43 || (← peek) == some 126 then
    drop 1
    skipBlanks
    let _ ← number
    fail .stepAsFirst
  let first ← address? extended
  skipBlanks
  let stop ← if first.isSome && (← accept 44) then some <$> rangeEnd extended else pure none
  skipBlanks
  let isZero := match first with
    | some (.line 0) => true
    | _ => false
  let isReading := (← peek) == some 114
  let allowsZero := match stop with
    | some (.address (.matching _)) => true
    | some _ => false
    | none => isReading
  if isZero && !allowsZero then
    drop 1
    fail .lineZero
  if ← accept 33 then
    skipBlanks
    if ← accept 33 then fail .severalNegations
    return { first, stop, negated := true }
  else return { first, stop }

/-! ## Commands -/

/-- A block that has been opened. -/
structure OpenBlock where
  /-- The number of the command that opens it. -/
  command : Nat
  /-- The number of the part of the script that it is opened in. -/
  part : Nat
  /-- The number of characters of that part up to it. -/
  characters : Nat

/-- A script in the middle of being read. -/
structure Draft where
  script : Script := {}
  /-- The number of parts so far. -/
  parts : Nat := 0
  /-- The blocks that are open, innermost first. -/
  blocks : List OpenBlock := []
  /-- A text that may go on in the next part, as far as it is known. It belongs to the last
  command. -/
  unfinished : Option Bytes := none

namespace Draft

/-- The number of commands so far. -/
def count (d : Draft) : Nat := d.script.commands.size

/-- Adds a command. -/
def add (d : Draft) (selection : Selection) (action : Action) : Draft :=
  { d with script := { d.script with commands := d.script.commands.push ⟨selection, action⟩ } }

/-- Gives the last command its text. -/
def setText (d : Draft) (text : Bytes) : Draft :=
  let given (c : Command) : Command :=
    { c with action := match c.action with
      | .append _ => .append text
      | .insert _ => .insert text
      | .change _ => .change text
      | other => other }
  { d with
    script := { d.script with commands := d.script.commands.modify (d.count - 1) given }
    unfinished := none }

end Draft

/-- The end of a command: the end of the line, a semicolon, or what needs none in front. -/
def endOfCommand : Reader Unit := do
  skipBlanks
  match ← peek with
  | none | some 125 | some 35 => return
  | some 10 | some 59 => drop 1
  | some _ =>
    drop 1
    fail .extraCharacters

/-- A label: everything up to white space, a semicolon or a closing brace. -/
def labelName : Reader Bytes := do
  skipBlanks
  takeWhile fun b => !(ByteClass.space.contains b || b == 59 || b == 125)

/-- The name of a file: the rest of the line. -/
def fileName : Reader Bytes := do
  skipBlanks
  let name ← takeWhile (· != 10)
  if name.isEmpty then fail .missingFile
  drop 1
  return name

/-- A file to be written. -/
def target (setting : Setting) : Reader Target := do
  let name ← fileName
  if name == bytesOf "/dev/stdout" then return .output
  else if name == bytesOf "/dev/stderr" then return .errors
  else
    match setting.prepareFile name with
    | .ok () => return .file name
    | .error e => throw (.unusableFile name e)

/-- Takes an inserted text up to the end of its line, with backslashes and line ends that follow
them. The text is unfinished if the part ends with a backslash. -/
def splitText (before : Bytes) (count : Nat) : Bytes → (Bytes × Bool) × Nat
  | [] => ((10 :: before, true), count)
  | [92] => ((10 :: before, false), count + 1)
  | 92 :: c :: rest => splitText (c :: 92 :: before) (count + 2) rest
  | b :: rest => if b = 10 then ((10 :: before, true), count + 1)
    else splitText (b :: before) (count + 1) rest

/-- Reads the text of the last command behind what is known of it. -/
def readText (d : Draft) (known : Bytes) : Reader Draft := do
  let ((text, isFinished), count) := splitText [] 0 (← get).rest
  drop count
  let text := known ++ text.reverse
  if isFinished then return d.setText (← withoutEscapes .plain text)
  else return { d.setText text with unfinished := some text }

/-- Reads the text behind the letter of a command that inserts one. It begins on the next line
behind a backslash, or else on the same line. -/
def insertedText (d : Draft) : Reader Draft := do
  skipBlanks
  match ← peek with
  | none => fail .missingText
  | some 92 =>
    drop 1
    match ← peek with
    | none => return { d with unfinished := some [] }
    | some 10 =>
      drop 1
      match ← peek with
      | none => return { d with unfinished := some [] }
      | some _ => readText d []
    | some _ => readText d []
  | some _ => readText d []

/-- The flags behind a substitution. -/
def substitutionFlags (setting : Setting) : Nat → Substitution × PatternStyle × Bool →
    Reader (Substitution × PatternStyle)
  | 0, (s, style, _) => return (s, style)
  | limit + 1, (s, style, numbered) => do
    match ← peek with
    | none | some 125 | some 35 => return (s, style)
    | some b =>
      if isDigit b then
        if numbered then
          drop 1
          fail .severalNumbers
        let n ← number
        if n = 0 then fail .zeroNumber
        substitutionFlags setting limit ({ s with number := n }, style, true)
      else
        drop 1
        match b with
        | 10 | 59 => return (s, style)
        | 32 | 9 => substitutionFlags setting limit (s, style, numbered)
        | 105 | 73 =>
          substitutionFlags setting limit (s, { style with ignoresCase := true }, numbered)
        | 109 | 77 =>
          substitutionFlags setting limit (s, { style with multiline := true }, numbered)
        | 112 =>
          if s.prints then fail .severalPrints
          substitutionFlags setting limit ({ s with prints := true }, style, numbered)
        | 103 =>
          if s.global then fail .severalGlobals
          substitutionFlags setting limit ({ s with global := true }, style, numbered)
        | 119 => return ({ s with target := some (← target setting) }, style)
        | _ => fail .unknownFlag

/-- The highest group that a replacement asks for. -/
def highestGroup (pieces : List Piece) : Nat :=
  pieces.foldl (fun n piece => max n (piece.group.getD 0)) 0

/-- A substitution behind its letter. -/
def substitution (setting : Setting) : Reader Action := do
  match ← peek with
  | none => fail .unterminatedSubstitution
  | some delimiter =>
    drop 1
    let written ← delimited delimiter true .unterminatedSubstitution
    let replacement ← delimited delimiter false .unterminatedSubstitution
    let pieces := readPieces {} (← withoutEscapes .replacement replacement)
    let draft : Substitution := { pattern := none, replacement := pieces }
    let style : PatternStyle := { extended := setting.extended }
    let (s, style) ← substitutionFlags setting ((← get).rest.length + 1) (draft, style, false)
    return .substitute { s with pattern := ← patternOf style written (highestGroup pieces) }

/-- A transliteration behind its letter. -/
def transliteration : Reader Action := do
  match ← peek with
  | none => fail .unterminatedTransliteration
  | some delimiter =>
    drop 1
    let source ← delimited delimiter false .unterminatedTransliteration
    let image ← delimited delimiter false .unterminatedTransliteration
    let source ← withoutEscapes .plain source
    let image ← withoutEscapes .plain image
    if source.length ≠ image.length then fail .unequalLengths
    endOfCommand
    let table := (source.zip image).foldr (fun (b, c) table => table.setIfInBounds b.toNat c)
      allBytes.toArray
    return .transliterate table

def versionNumbers (written : Bytes) : List Nat := (written.splitOn 46).map decimalValue

/-- The version of the language that scripts can ask for. -/
def languageVersion : List Nat := [4, 9]

/-- Whether the version is a later one than that of the language. -/
def isLaterVersion (version : List Nat) : Bool := decide (languageVersion < version)

/-- A command with nothing behind its letter. -/
def simpleAction? (b : UInt8) : Option Action :=
  match b with
  | 61 => some .printNumber
  | 100 => some .delete
  | 68 => some .deleteFirstLine
  | 70 => some .printName
  | 103 => some .copyFromHold
  | 71 => some .appendFromHold
  | 104 => some .copyToHold
  | 72 => some .appendToHold
  | 110 => some .next
  | 78 => some .appendNext
  | 112 => some .print
  | 80 => some .printFirstLine
  | 120 => some .exchange
  | 122 => some .clear
  | _ => none

/-- The condition of a jump by its letter. -/
def jumpCondition? (b : UInt8) : Option JumpCondition :=
  match b with
  | 98 => some .always
  | 116 => some .replaced
  | 84 => some .notReplaced
  | _ => none

/-- A command by its letter. -/
def command (setting : Setting) (d : Draft) (s : Selection) (b : UInt8) : Reader Draft := do
  match simpleAction? b, jumpCondition? b with
  | some action, _ =>
    endOfCommand
    return d.add s action
  | none, some condition => return d.add s (.jump condition (← labelName))
  | none, none =>
    match b with
    | 123 =>
      let opened : OpenBlock := ⟨d.count, d.parts, (← get).consumed⟩
      return { d.add s (.openBlock 0) with blocks := opened :: d.blocks }
    | 125 =>
      match d.blocks with
      | [] => fail .strayClose
      | opening :: blocks =>
        if s.first.isSome then fail .addressedClose
        endOfCommand
        let closed (c : Command) : Command := { c with action := .openBlock d.count }
        let commands := d.script.commands.modify opening.command closed
        return { d with script := { d.script with commands }, blocks }.add s .closeBlock
    | 97 => insertedText (d.add s (.append []))
    | 105 => insertedText (d.add s (.insert []))
    | 99 => insertedText (d.add s (.change []))
    | 58 =>
      if s.first.isSome then fail .addressedLabel
      let name ← labelName
      if name.isEmpty then fail .missingLabel
      let labels := (name, d.count) :: d.script.labels
      return { d with script := { d.script with labels } }.add s .label
    | 108 =>
      let width ← number?
      endOfCommand
      return d.add s (.printPlain width)
    | 113 | 81 =>
      if s.stop.isSome then fail .secondAddress
      let code ← number?
      endOfCommand
      return d.add s (.quit (code.getD 0) (b == 113))
    | 114 =>
      let name ← fileName
      match s.first, s.stop with
      | some (.line 0), none =>
        return d.add { s with first := some (.line 1) } (.readFileBefore name)
      | _, _ => return d.add s (.readFile name)
    | 82 => return d.add s (.readLine (← fileName))
    | 119 => return d.add s (.writeFile (← target setting))
    | 87 => return d.add s (.writeFirstLine (← target setting))
    | 115 => return d.add s (← substitution setting)
    | 121 => return d.add s (← transliteration)
    | 118 =>
      if isLaterVersion (versionNumbers (← labelName)) then fail .newerVersion
      return d
    | other => fail (.unknownCommand other)

/-- Reads at most `limit` commands. -/
def commands (setting : Setting) (isFirstPart : Bool) : Nat → Draft → Reader Draft
  | 0, d => return d
  | limit + 1, d => do
    let _ ← takeWhile fun b => b == 59 || ByteClass.space.contains b
    if (← peek).isNone then return d
    let atBeginning := (← get).consumed == 0
    let s ← selection setting.extended
    match ← peek with
    | none => fail .missingCommand
    | some 35 =>
      drop 1
      if s.first.isSome then fail .addressedComment
      let comment ← takeWhile (· != 10)
      let quiet := isFirstPart && atBeginning && comment == [110]
      let script := { d.script with quiet := d.script.quiet || quiet }
      commands setting isFirstPart limit { d with script }
    | some b =>
      drop 1
      commands setting isFirstPart limit (← command setting d s b)

/-- Reads a further part of a script. -/
def Draft.read (d : Draft) (setting : Setting) (part : Bytes) :
    Except ScriptError Draft := do
  let reader : Reader Draft := do
    let d := { d with parts := d.parts + 1 }
    let d ← match d.unfinished with
      | none => pure d
      | some text => readText d text
    commands setting (d.parts == 1) (part.length + 1) d
  let (d, _) ← reader.run { rest := part }
  return d

/-- The label of a jump to nowhere. -/
def Script.lostLabel? (s : Script) : Option Bytes :=
  s.commands.toList.findSome? fun c =>
    match c.action with
    | .jump _ name => if name.isEmpty || (s.labels.lookup name).isSome then none else some name
    | _ => none

/-- The script, once all of its parts have been read and all of its blocks have been closed. -/
def Draft.finish (d : Draft) : Except ScriptError Script :=
  match d.script.lostLabel? with
  | some name => .error (.unknownLabel name)
  | none => .ok d.script

end Typings.Tools.Edit

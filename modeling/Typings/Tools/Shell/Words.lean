import Typings.Tools.Shell.Source

/-! # Reading words

How the parts of a word are read, and with them the tokens of a script. A word can hold whole
scripts, in brackets or backquotes. What reads the commands of these is taken as given here, so
that words can be understood before commands.
-/

namespace Typings.Tools.Shell

open Source

/-- What is around the part of a script that is being read. -/
inductive Place where
  | plain
  /-- In braces of a parameter, outside of quotes. -/
  | braces
  | quotes
  /-- In braces of a parameter, in quotes. -/
  | quotedBraces
  | document
  /-- In braces of a parameter, in a document or an expression. -/
  | documentBraces
  | expression
  deriving DecidableEq, Repr

namespace Place

/-- The text is quoted there. -/
def isQuoted : Place → Bool
  | plain | braces => false
  | _ => true

/-- The text stands between braces there. -/
def isBraces : Place → Bool
  | braces | quotedBraces | documentBraces => true
  | _ => false

/-- The place inside of the braces of a parameter. -/
def inBraces : Place → Place
  | plain | braces => braces
  | quotes | quotedBraces => quotedBraces
  | document | documentBraces | expression => documentBraces

/-- What is wrong when the script ends here. -/
def missing? : Place → Option String
  | plain | document => none
  | braces | documentBraces => some "Missing '\x7d'"
  | quotes | quotedBraces => some "Unterminated quoted string"
  | expression => some "Missing '))'"

/-- A backslash takes away the meaning of a character. -/
def canEscape (place : Place) (c : Char) : Bool :=
  !place.isQuoted || ['\\', '\x60', '$'].contains c || (c == '"' && place != document) ||
    (c == '\x7d' && place.isBraces)

end Place

def endsWord (c : Char) : Bool := " \t\n&|;<>()".toList.contains c

/-- The characters that name a parameter by themselves. -/
def isSpecial (c : Char) : Bool := "*@#?-$!".toList.contains c

/-- The text in single quotes. -/
def readSingleQuoted : Reader (List Part) := do
  let s ← get
  let text := s.rest.takeWhile (· ≠ '\'')
  if text.length = s.rest.length then
    set { s with line := s.line + text.count '\n' }
    fail "Unterminated quoted string"
  else
    set { s with rest := s.rest.drop (text.length + 1), line := s.line + text.count '\n' }
    return if text.isEmpty then [.emptyQuotes] else text.map (.char · true)

/-- The script in backquotes, without the backslashes that keep it from ending. Its end is not in
it, if there is one at all. -/
def backquoted (inQuotes : Bool) (before : List Char) : List Char → Option (List Char × List Char)
  | [] => none
  | '\x60' :: rest => some (before.reverse, rest)
  | '\\' :: '\n' :: rest => backquoted inQuotes before rest
  | '\\' :: c :: rest =>
    if ['\\', '\x60', '$'].contains c || (inQuotes && c == '"') then
      backquoted inQuotes (c :: before) rest
    else backquoted inQuotes (c :: '\\' :: before) rest
  | c :: rest => backquoted inQuotes (c :: before) rest

/-- The lines before a delimiter, and what comes behind it. -/
def linesBefore (a : Awaited) (before : List Char) : Nat → List Char → List Char × Nat × List Char
  | 0, rest => (before.reverse, 0, rest)
  | limit + 1, rest =>
    let line := rest.takeWhile (· ≠ '\n')
    let after := rest.drop line.length
    let text := if a.stripsTabs then line.dropWhile (· == '\t') else line
    if text = a.delimiter then (before.reverse, if after.isEmpty then 0 else 1, after.drop 1)
    else
      match after with
      | [] => ((text.reverse ++ before).reverse, 0, [])
      | _ :: rest =>
        let (all, lines, rest) := linesBefore a ('\n' :: (text.reverse ++ before)) limit rest
        (all, lines + 1, rest)

/-- The text of a word without its quotes, and whether it has any. -/
def delimiterOf (w : Word) : List Char × Bool :=
  (w.filterMap fun
      | .char c _ => some c
      | .parameter name _ _ _ _ => name.toList.head?
      | _ => none,
    w.any fun
      | .char _ quoted => quoted
      | .emptyQuotes => true
      | _ => false)

/-- The word begins with a name and an equality sign. -/
def assignment? (name : List Char) : Word → Option (String × Word)
  | .char '=' false :: value =>
    if isName name.reverse then some (String.ofList name.reverse, value) else none
  | .char c false :: rest => if isNameChar c then assignment? (c :: name) rest else none
  | _ => none

/-- A tilde at the start of a word stands for the home directory. In a value it does so behind every
colon as well. -/
def withHome (inValue : Bool) (word : Word) : Word := go true word
where
  go (atStart : Bool) : Word → Word
    | [] => []
    | .char '~' false :: rest =>
      let ends := match rest with
        | [] => true
        | .char c false :: _ => c == '/' || (inValue && c == ':')
        | _ => false
      (if atStart && ends then .home else .char '~' false) :: go false rest
    | part :: rest =>
      let isColon := match part with
        | .char ':' false => inValue
        | _ => false
      part :: go isColon rest

namespace Words

-- What reads the commands of a script inside of a word.
variable (commands : Reader Command)

mutual

/-- Reads the parts of a word up to its end, which is passed unless it is the end of a plain word.
`depth` counts the brackets that are open in an expression; in the braces of a parameter it tells
whether quotes are open. -/
def readParts (limit : Nat) (place : Place) (depth : Nat) (before : List Part) (s : Source) :
    Except ScriptError (Word × Source) :=
  match limit with
  | 0 => fail "Too deep" s
  | limit + 1 =>
    let s := s.joined
    match s.rest with
    | [] =>
      match place.missing? with
      | none => .ok (before.reverse, s)
      | some message => fail message s
    | c :: rest =>
      let after := { s with rest, line := if c = '\n' then s.line + 1 else s.line }
      if place = .plain && endsWord c then .ok (before.reverse, s)
      else if place.isBraces && c == '\x7d' && depth == 0 then .ok (before.reverse, after)
      else if place = .quotes && c == '"' then .ok (before.reverse, after)
      else if place = .expression && c == ')' && depth == 0 && rest.head? == some ')' then
        .ok (before.reverse, { after with rest := rest.drop 1 })
      else if c = '$' then
        match readDollar limit place after with
        | .error e => .error e
        | .ok (parts, s) => readParts limit place depth (parts.reverse ++ before) s
      else if c = '\x60' then
        match readBackquoted limit place after with
        | .error e => .error e
        | .ok (part, s) => readParts limit place depth (part :: before) s
      else if c = '\\' then
        match rest with
        | [] => readParts limit place depth (.char c true :: before) after
        | e :: rest =>
          let after := { after with rest, line := if e = '\n' then s.line + 1 else s.line }
          if place.canEscape e then readParts limit place depth (.char e true :: before) after
          else readParts limit place depth (.char e true :: .char c true :: before) after
      else if c = '\'' && !place.isQuoted then
        match readSingleQuoted after with
        | .error e => .error e
        | .ok (parts, s) => readParts limit place depth (parts.reverse ++ before) s
      else if c = '"' && !place.isQuoted then
        match readParts limit .quotes 0 [] after with
        | .error e => .error e
        | .ok ([], s) => readParts limit place depth (.emptyQuotes :: before) s
        | .ok (parts, s) => readParts limit place depth (parts.reverse ++ before) s
      else if c = '"' && place.isBraces then readParts limit place (1 - depth) before after
      else
        let depth :=
          if place ≠ .expression then depth
          else if c = '(' then depth + 1
          else if c = ')' then depth - 1
          else depth
        readParts limit place depth (.char c place.isQuoted :: before) after

/-- Reads what stands behind a dollar sign. -/
def readDollar (limit : Nat) (place : Place) : Reader (List Part) := do
  match limit with
  | 0 => fail "Too deep"
  | limit + 1 =>
    let quoted := place.isQuoted
    match ← peek with
    | '(' :: _ =>
      advance 1
      match ← peek with
      | '(' :: _ =>
        advance 1
        return [.expression (← readParts limit .expression 0 []) quoted]
      | _ =>
        let outside ← get
        set { outside with awaited := [] }
        let body ← commands
        match ← readToken limit false false with
        | .operator ")" =>
          readDocuments limit
          modify fun s => { s with awaited := outside.awaited, pushed := none }
          return [.output body quoted]
        | token => unexpectedFor token (.operator ")")
    | '\x7b' :: _ =>
      advance 1
      return [← readBraces limit place]
    | c :: _ =>
      if isNameStart c then
        let name ← takeWhile isNameChar
        return [.parameter (String.ofList name) .plain false [] quoted]
      else if c.isDigit || isSpecial c then
        advance 1
        return [.parameter c.toString .plain false [] quoted]
      else return [.char '$' quoted]
    | [] => return [.char '$' quoted]

/-- Reads a parameter in braces, behind the opening one. -/
def readBraces (limit : Nat) (place : Place) : Reader Part := do
  match limit with
  | 0 => fail "Too deep"
  | limit + 1 =>
    match ← peek with
    | '#' :: c :: _ =>
      if isNameChar c then
        advance 1
        let name ← takeWhile (if c.isDigit then Char.isDigit else isNameChar)
        match ← peek with
        | '\x7d' :: _ =>
          advance 1
          return .parameter (String.ofList name) .length false [] place.isQuoted
        | _ => readUnusable limit place
      else
        advance 1
        match ← peek with
        | '\x7d' :: _ => readTreatment limit place "#"
        | _ :: '\x7d' :: _ =>
          if isSpecial c then
            advance 2
            return .parameter c.toString .length false [] place.isQuoted
          else readUnusable limit place
        | _ => readTreatment limit place "#"
    | c :: _ =>
      if isNameStart c then
        let name ← takeWhile isNameChar
        readTreatment limit place (String.ofList name)
      else if c.isDigit then
        let name ← takeWhile Char.isDigit
        readTreatment limit place (String.ofList name)
      else if isSpecial c then
        advance 1
        readTreatment limit place c.toString
      else readUnusable limit place
    | [] => readUnusable limit place

/-- Reads on to the closing brace where there is nothing that can be worked out. -/
def readUnusable (limit : Nat) (place : Place) : Reader Part := do
  match limit with
  | 0 => fail "Too deep"
  | limit + 1 =>
    let _ ← readParts limit place.inBraces 0 []
    return .badSubstitution

/-- Reads what is to be done with a parameter, behind its name. -/
def readTreatment (limit : Nat) (place : Place) (name : String) : Reader Part := do
  match limit with
  | 0 => fail "Too deep"
  | limit + 1 =>
    let quoted := place.isQuoted
    let withWord (treatment : Treatment) (needsText : Bool) (length : Nat) (inside : Place) :
        Reader Part := do
      advance length
      let word ← readParts limit inside 0 []
      return .parameter name treatment needsText (withHome false word) quoted
    let missing? (c : Char) : Option Treatment :=
      [('-', Treatment.orWord), ('=', .assigning), ('?', .demanding), ('+', .insteadOf)].lookup c
    match ← peek with
    | '\x7d' :: _ =>
      advance 1
      return .parameter name .plain false [] quoted
    | ':' :: c :: _ =>
      match missing? c with
      | some treatment => withWord treatment true 2 place.inBraces
      | none =>
        if c = '\x7d' then withWord .plain true 2 place.inBraces
        else
          advance 2
          readUnusable limit place
    | '%' :: '%' :: _ => withWord (.without true true) false 2 .braces
    | '%' :: _ => withWord (.without true false) false 1 .braces
    | '#' :: '#' :: _ => withWord (.without false true) false 2 .braces
    | '#' :: _ => withWord (.without false false) false 1 .braces
    | c :: _ =>
      match missing? c with
      | some treatment => withWord treatment false 1 place.inBraces
      | none =>
        advance 1
        readUnusable limit place
    | [] => readUnusable limit place

/-- Reads a script in backquotes, behind the opening one. -/
def readBackquoted (limit : Nat) (place : Place) : Reader Part := do
  match limit with
  | 0 => fail "Too deep"
  | limit + 1 =>
    let s ← get
    match backquoted place.isQuoted [] s.rest with
    | none =>
      set { s with line := s.line + s.rest.count '\n' }
      fail "EOF in backquote substitution"
    | some (text, rest) =>
      let line := s.line + (s.rest.take (s.rest.length - rest.length)).count '\n'
      set { s with rest := text, line := 1, pushed := none, awaited := [] }
      let body ← commands
      readDocuments limit
      let inner ← get
      set { inner with rest, line, pushed := s.pushed, awaited := s.awaited }
      return .output body place.isQuoted

/-- Reads the documents that have been referred to. -/
def readDocuments (limit : Nat) : Reader Unit := do
  match limit with
  | 0 => fail "Too deep"
  | limit + 1 =>
    let s ← get
    match s.awaited with
    | [] => return ()
    | a :: awaited =>
      let (text, lines, rest) := linesBefore a [] s.rest.length s.rest
      let line := s.line + lines
      let word ←
        if a.literal then pure (text.map (Part.char · true))
        else
          set { s with rest := text }
          readParts limit .document 0 []
      modify fun inner => { inner with
        rest, line, awaited, documents := (a.number, word) :: inner.documents }
      readDocuments limit

/-- Reads a token. Line ends before it are passed, and words become keywords, if so wanted. -/
def readToken (limit : Nat) (passesLines withKeywords : Bool) : Reader Token := do
  match limit with
  | 0 => fail "Too deep"
  | limit + 1 =>
    let s ← get
    let token ← match s.pushed with
      | some token =>
        set { s with pushed := none }
        pure token
      | none =>
        modify (passBlanks s.rest.length)
        readPlainToken limit
    match token with
    | .newline =>
      if passesLines then
        readDocuments limit
        readToken limit passesLines withKeywords
      else return token
    | .word w =>
      match if withKeywords then plainText? w else none with
      | some text =>
        let text := String.ofList text
        return if keywords.contains text then .keyword text else token
      | none => return token
    | _ => return token

/-- Reads a token at its first character. -/
def readPlainToken (limit : Nat) : Reader Token := do
  match limit with
  | 0 => fail "Too deep"
  | limit + 1 =>
    let s ← get
    match operator? s.rest with
    | some (token, length) =>
      let line := match token with
        | .newline => s.line + 1
        | _ => s.line
      set { s with rest := s.rest.drop length, line }
      return token
    | none =>
      match redirectionKind? s.rest with
      | some (descriptor, kind, length) =>
        advance length
        return .redirection descriptor kind
      | none =>
        let word ← readParts limit .plain 0 []
        let s ← get
        match word, redirectionKind? s.rest with
        | [.char c false], some (_, kind, length) =>
          if c.isDigit then
            advance length
            return .redirection (c.toNat - 48) kind
          else return .word word
        | _, _ => return .word word

end

/-- Reads the word behind a redirection. -/
def readRedirection (limit : Nat) (descriptor : Nat) (kind : RedirectionKind) :
    Reader Redirection := do
  match ← readToken commands limit false false with
  | .word w =>
    match kind with
    | .file opening => return .leads descriptor (.file opening (withHome false w))
    | .descriptor opening => return .leads descriptor (.descriptor opening w)
    | .document stripsTabs =>
      let s ← get
      let (delimiter, literal) := delimiterOf w
      let awaited := s.awaited ++ [⟨s.nextDocument, delimiter, literal, stripsTabs⟩]
      set { s with awaited, nextDocument := s.nextDocument + 1 }
      return .leads descriptor (.document s.nextDocument)
  | token => unexpected token

end Words

end Typings.Tools.Shell

import Typings.Toml.Scalar
import Typings.Toml.Value

/-! # TOML documents

Reading a TOML document into its root table. A document is read as a whole or not at all, and there
is no account of what is wrong with one that is not. A reader takes something from the beginning of
a text and gives it together with the text behind it.
-/

namespace Typings.Toml

/-! ## Characters -/

/-- The character stands for itself in comments and texts: no control but the tab. -/
def isPlain (c : Char) : Bool := c == '\t' || (0x20 ≤ c.toNat && c.toNat ≠ 0x7F)

def isBareKeyChar (c : Char) : Bool := c.isAlphanum || c == '_' || c == '-'

/-- The text behind spaces and tabs. -/
def passBlanks (cs : List Char) : List Char := cs.dropWhile fun c => c == ' ' || c == '\t'

/-- What follows a line ending at the beginning of a text. -/
def afterNewline? : List Char → Option (List Char)
  | '\n' :: rest => some rest
  | '\r' :: '\n' :: rest => some rest
  | _ => none

/-- The text behind a comment, if there is one. The comment has to be free of controls. -/
def passComment (cs : List Char) : List Char :=
  match cs with
  | '#' :: rest => rest.dropWhile isPlain
  | cs => cs

/-- The text behind spaces, comments and line endings. -/
def passLines : Nat → List Char → List Char
  | 0, cs => cs
  | limit + 1, cs =>
    let cs := passComment (passBlanks cs)
    match afterNewline? cs with
    | some rest => passLines limit rest
    | none => cs

/-! ## Texts -/

def hexValue? (cs : List Char) : Option Nat :=
  if cs.all isHexDigit then some (digitsValue 16 cs) else none

/-- The character with a code point. -/
def charOf? (n : Nat) : Option Char := if n.isValidChar then some (Char.ofNat n) else none

/-- The character of an escape behind its backslash. -/
def readEscape : List Char → Option (Char × List Char)
  | 'b' :: rest => some ('\x08', rest)
  | 't' :: rest => some ('\t', rest)
  | 'n' :: rest => some ('\n', rest)
  | 'f' :: rest => some ('\x0c', rest)
  | 'r' :: rest => some ('\r', rest)
  | '"' :: rest => some ('"', rest)
  | '\\' :: rest => some ('\\', rest)
  | 'u' :: rest =>
    if rest.length < 4 then none
    else do return (← charOf? (← hexValue? (rest.take 4)), rest.drop 4)
  | 'U' :: rest =>
    if rest.length < 8 then none
    else do return (← charOf? (← hexValue? (rest.take 8)), rest.drop 8)
  | _ => none

/-- A text on one line behind its opening quote. `escapes` tells whether the backslash is
special. -/
def readLineText (quote : Char) (escapes : Bool) : Nat → List Char → Option (List Char × List Char)
  | 0, _ => none
  | _, [] => none
  | limit + 1, c :: rest => do
    if c = quote then return ([], rest)
    else if escapes ∧ c = '\\' then
      let (escaped, rest) ← readEscape rest
      let (text, rest) ← readLineText quote escapes limit rest
      return (escaped :: text, rest)
    else if isPlain c then
      let (text, rest) ← readLineText quote escapes limit rest
      return (c :: text, rest)
    else none

/-- The text behind blanks and line endings. -/
def passBlankLines : List Char → List Char
  | ' ' :: rest => passBlankLines rest
  | '\t' :: rest => passBlankLines rest
  | '\n' :: rest => passBlankLines rest
  | '\r' :: '\n' :: rest => passBlankLines rest
  | cs => cs

/-- The text behind a backslash that ends a line: all blanks and line endings are passed. -/
def passContinuation (cs : List Char) : Option (List Char) :=
  (afterNewline? (passBlanks cs)).map passBlankLines

/-- A text over several lines behind its opening quotes. Up to two quotes may stand right before
the closing ones. -/
def readBlockText (quote : Char) (escapes : Bool) : Nat → List Char → Option (List Char × List Char)
  | 0, _ => none
  | _, [] => none
  | limit + 1, c :: rest => do
    if c = quote then
      let quotes := ((c :: rest).takeWhile (· == quote)).length
      if quotes < 3 then
        let (text, rest) ← readBlockText quote escapes limit ((c :: rest).drop quotes)
        return (List.replicate quotes quote ++ text, rest)
      else
        let taken := min quotes 5
        return (List.replicate (taken - 3) quote, (c :: rest).drop taken)
    else if escapes ∧ c = '\\' then
      match passContinuation rest with
      | some rest => readBlockText quote escapes limit rest
      | none =>
        let (escaped, rest) ← readEscape rest
        let (text, rest) ← readBlockText quote escapes limit rest
        return (escaped :: text, rest)
    else
      match afterNewline? (c :: rest) with
      | some rest =>
        let (text, rest) ← readBlockText quote escapes limit rest
        return ('\n' :: text, rest)
      | none =>
        if isPlain c then
          let (text, rest) ← readBlockText quote escapes limit rest
          return (c :: text, rest)
        else none

/-- A quoted text of either form at its first quote. -/
def readQuoted (quote : Char) (cs : List Char) : Option (String × List Char) :=
  let escapes := quote == '"'
  let text := match cs with
    | _ :: b :: c :: rest =>
      if b = quote ∧ c = quote then
        readBlockText quote escapes (rest.length + 1) ((afterNewline? rest).getD rest)
      else readLineText quote escapes (rest.length + 3) (b :: c :: rest)
    | _ :: rest => readLineText quote escapes (rest.length + 1) rest
    | [] => none
  text.map fun (text, rest) => (String.ofList text, rest)

/-! ## Keys -/

/-- One part of a key. -/
def readSimpleKey (cs : List Char) : Option (String × List Char) :=
  match cs with
  | [] => none
  | c :: rest =>
    if c = '"' ∨ c = '\'' then
      (readLineText c (c == '"') (rest.length + 1) rest).map fun (key, rest) =>
        (String.ofList key, rest)
    else
      let key := cs.takeWhile isBareKeyChar
      if key.isEmpty then none else some (String.ofList key, cs.drop key.length)

/-- How many arrays and inline tables may stand inside one another, and how many parts a dotted key
may have. -/
def deepestNesting : Nat := 79

/-- A dotted key of at most `limit` parts, with blanks passed before and behind them. -/
def readKeyWithin : Nat → List Char → Option (List String × List Char)
  | 0, _ => none
  | limit + 1, cs => do
    let (key, rest) ← readSimpleKey (passBlanks cs)
    match passBlanks rest with
    | '.' :: rest =>
      let (keys, rest) ← readKeyWithin limit rest
      return (key :: keys, rest)
    | rest => return ([key], rest)

/-- A dotted key. -/
def readKey (cs : List Char) : Option (List String × List Char) :=
  readKeyWithin deepestNesting cs

/-! ## Values -/

/-- The character may stand in a number, a date or a time. -/
def isScalarChar (c : Char) : Bool :=
  c.isAlphanum || c == '+' || c == '-' || c == '.' || c == '_' || c == ':'

/-- A number, a date or a time. A space may separate a date and a time. -/
def readScalar (cs : List Char) : Option (Value × List Char) :=
  let run := cs.takeWhile isScalarChar
  let rest := cs.drop run.length
  let (spelling, rest) :=
    match afterDate? run, rest with
    | some [], ' ' :: c :: more =>
      if c.isDigit then
        let time := (c :: more).takeWhile isScalarChar
        (run ++ ' ' :: time, (c :: more).drop time.length)
      else (run, rest)
    | _, _ => (run, rest)
  if isScalar spelling then some (.scalar (String.ofList spelling), rest) else none

mutual

/-- A value that may have `room` arrays and inline tables inside one another. -/
def readValue (room : Nat) : Nat → List Char → Option (Value × List Char)
  | 0, _ => none
  | limit + 1, cs =>
    match cs with
    | '"' :: _ => (readQuoted '"' cs).map fun (text, rest) => (.text text, rest)
    | '\'' :: _ => (readQuoted '\'' cs).map fun (text, rest) => (.text text, rest)
    | '[' :: rest =>
      if room = 0 then none
      else (readItems (room - 1) limit rest).map fun (items, rest) => (.array items, rest)
    | '\x7b' :: rest =>
      if room = 0 then none
      else
        match passBlanks rest with
        | '\x7d' :: rest => some (.table .inline [], rest)
        | rest =>
          (readInline (room - 1) limit [] rest).map fun (t, rest) => (.table .inline t, rest)
    | 't' :: 'r' :: 'u' :: 'e' :: rest => some (.boolean true, rest)
    | 'f' :: 'a' :: 'l' :: 's' :: 'e' :: rest => some (.boolean false, rest)
    | cs => readScalar cs

/-- The items of an array behind its opening bracket or behind a comma. -/
def readItems (room : Nat) : Nat → List Char → Option (List Value × List Char)
  | 0, _ => none
  | limit + 1, cs =>
    match passLines cs.length cs with
    | ']' :: rest => some ([], rest)
    | cs => do
      let (value, rest) ← readValue room limit cs
      match passLines rest.length rest with
      | ']' :: rest => return ([value], rest)
      | ',' :: rest =>
        let (values, rest) ← readItems room limit rest
        return (value :: values, rest)
      | _ => none

/-- The fields of an inline table behind its opening bracket or behind a comma. -/
def readInline (room : Nat) : Nat → Fields → List Char → Option (Fields × List Char)
  | 0, _, _ => none
  | limit + 1, before, cs => do
    let (key, rest) ← readKey cs
    match rest with
    | '=' :: rest =>
      let (value, rest) ← readValue room limit (passBlanks rest)
      let fields ← before.insert value key
      match passBlanks rest with
      | '\x7d' :: rest => return (fields, rest)
      | ',' :: rest => readInline room limit fields rest
      | _ => none
    | _ => none

end

/-! ## Documents -/

/-- A document so far: its root table and the place that the next field belongs to. -/
structure Progress where
  root : Fields := []
  place : List String := []

namespace Progress

/-- Adds a field at the current place. -/
def field (d : Progress) (key : List String) (value : Value) : Option Progress :=
  (d.root.modify (·.insert value key) d.place).map fun root => { d with root := root }

/-- Goes to the place of a header. -/
def header (d : Progress) (isElement : Bool) (path : List String) : Option Progress :=
  match path.getLast? with
  | none => none
  | some key =>
    let parents := path.dropLast
    let root := if isElement then d.root.openElement parents key else d.root.openTable parents key
    root.map fun root => ⟨root, path⟩

end Progress

/-- What follows the end of an expression: blanks, a comment, and the end of the line or of the
text. -/
def afterExpression? (cs : List Char) : Option (List Char) :=
  match passComment (passBlanks cs) with
  | [] => some []
  | cs => afterNewline? cs

/-- One expression, which begins with no blank and is no comment. -/
def readExpression (d : Progress) (cs : List Char) : Option (Progress × List Char) :=
  match cs with
  | '[' :: '[' :: rest => do
    let (path, rest) ← readKey rest
    match rest with
    | ']' :: ']' :: rest => return (← d.header true path, rest)
    | _ => none
  | '[' :: rest => do
    let (path, rest) ← readKey rest
    match rest with
    | ']' :: rest => return (← d.header false path, rest)
    | _ => none
  | cs => do
    let (key, rest) ← readKey cs
    match rest with
    | '=' :: rest =>
      let (value, rest) ← readValue deepestNesting (cs.length + 1) (passBlanks rest)
      return (← d.field key value, rest)
    | _ => none

/-- The expressions of a document, one on a line. -/
def readExpressions : Nat → Progress → List Char → Option Progress
  | 0, _, _ => none
  | limit + 1, d, cs =>
    match passLines cs.length cs with
    | [] => some d
    | cs => do
      let (d, rest) ← readExpression d cs
      readExpressions limit d (← afterExpression? rest)

/-- The root table of a document. A byte order mark may stand before it. -/
def read? (text : String) : Option Fields :=
  let cs := match text.toList with
    | '\ufeff' :: rest => rest
    | cs => cs
  (readExpressions (cs.length + 1) {} cs).map (·.root)

end Typings.Toml

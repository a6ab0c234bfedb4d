import Typings.Json.Number
import Typings.Text.Quoted

/-! # Faults of a document

What can be wrong with a JSON text or with the values in it, where it shows, and how a message
tells it. A position counts lines from one and, in a line, the bytes before it. A path names the
value at fault from the outside inwards.
-/

namespace Typings.Json

/-- A place between two bytes of a text. -/
structure Position where
  line : Nat := 1
  column : Nat := 0
  deriving DecidableEq, Repr

namespace Position

/-- The place behind a character. -/
def after (p : Position) (c : Char) : Position :=
  if c = '\n' then ⟨p.line + 1, 0⟩ else ⟨p.line, p.column + c.utf8Size⟩

/-- The place behind the first byte of a character. -/
def into (p : Position) (c : Char) : Position :=
  if c = '\n' then ⟨p.line + 1, 0⟩ else ⟨p.line, p.column + 1⟩

/-- The place some bytes further on the same line. -/
def skip (p : Position) (bytes : Nat) : Position := ⟨p.line, p.column + bytes⟩

/-- The place behind a text. -/
def afterAll (p : Position) (cs : List Char) : Position := cs.foldl after p

/-- The place behind the given number of bytes of a text. -/
def afterBytes (p : Position) (bytes : Nat) : List Char → Position
  | [] => p
  | c :: rest =>
    if c.utf8Size ≤ bytes then afterBytes (p.after c) (bytes - c.utf8Size) rest else p.skip bytes

end Position

/-- What a message says of a value that it did not expect. -/
inductive Found where
  | null
  | boolean (value : Bool)
  | number (value : Number)
  | text (value : String)
  | list
  | object
  deriving DecidableEq, Repr

/-- What is wrong. -/
inductive Reason where
  /-- The text ends where a value was expected or not complete. -/
  | endInValue
  | endInList
  | endInObject
  | endInText
  | expectedValue
  | expectedWord
  | expectedColon
  | expectedListSeparator
  | expectedObjectSeparator
  | expectedKey
  | trailingComma
  /-- Something follows the last value that belongs here. -/
  | trailingText
  | invalidNumber
  | numberOutOfRange
  | invalidEscape
  | controlCharacter
  | loneSurrogate
  | endOfSurrogate
  | tooDeep
  | duplicateField (name : String)
  | wrongKind (found : Found) (expected : String)
  /-- A record is written as a list of so many values, which is too many. -/
  | tooLong (length : Nat)
  deriving DecidableEq, Repr

/-- One step from a value to a value inside it. -/
inductive Step where
  | index (n : Nat)
  | key (name : String)
  /-- A key that cannot be read. -/
  | unreadable
  deriving DecidableEq, Repr

/-- A reason with the place where it shows. -/
structure Failure where
  reason : Reason
  position : Position
  deriving DecidableEq, Repr

/-- A failure with the path of the value at fault. -/
structure Fault where
  path : List Step
  failure : Failure
  deriving DecidableEq, Repr

def Found.describe : Found → String
  | null => "null"
  | boolean value => "boolean \x60" ++ (if value then "true" else "false") ++ "\x60"
  | number (.integer value) => "integer \x60" ++ toString value ++ "\x60"
  | number (.double value) => "floating point \x60" ++ value.text ++ "\x60"
  | text value => "string " ++ Text.quoteForDisplay value
  | list => "sequence"
  | object => "map"

def Reason.message : Reason → String
  | endInValue => "EOF while parsing a value"
  | endInList => "EOF while parsing a list"
  | endInObject => "EOF while parsing an object"
  | endInText => "EOF while parsing a string"
  | expectedValue => "expected value"
  | expectedWord => "expected ident"
  | expectedColon => "expected \x60:\x60"
  | expectedListSeparator => "expected \x60,\x60 or \x60]\x60"
  | expectedObjectSeparator => "expected \x60,\x60 or \x60\x7d\x60"
  | expectedKey => "key must be a string"
  | trailingComma => "trailing comma"
  | trailingText => "trailing characters"
  | invalidNumber => "invalid number"
  | numberOutOfRange => "number out of range"
  | invalidEscape => "invalid escape"
  | controlCharacter => "control character (\\u0000-\\u001F) found while parsing a string"
  | loneSurrogate => "lone leading surrogate in hex escape"
  | endOfSurrogate => "unexpected end of hex escape"
  | tooDeep => "recursion limit exceeded"
  | duplicateField name => "duplicate field \x60" ++ name ++ "\x60"
  | wrongKind found expected => "invalid type: " ++ found.describe ++ ", expected " ++ expected
  | tooLong length =>
    "invalid length " ++ toString length ++ ", expected fewer elements in array"

/-- The message with the place in the text. -/
def Failure.message (f : Failure) : String :=
  f.reason.message ++ " at line " ++ toString f.position.line ++ " column " ++
    toString f.position.column

def Step.text : Step → String
  | index n => "[" ++ toString n ++ "]"
  | key name => name
  | unreadable => "?"

def Step.isIndex : Step → Bool
  | index _ => true
  | _ => false

/-- The steps behind the first one: every step but an index follows a point. -/
def pathTail : List Step → String
  | [] => ""
  | step :: rest => (if step.isIndex then step.text else "." ++ step.text) ++ pathTail rest

/-- The text of a path; that of the whole document is a single point. -/
def pathText : List Step → String
  | [] => "."
  | step :: rest => step.text ++ pathTail rest

/-- Puts a step in front of the path of a fault. -/
def within {α : Type} (step : Step) : Except Fault α → Except Fault α
  | .ok a => .ok a
  | .error fault => .error { fault with path := step :: fault.path }

end Typings.Json

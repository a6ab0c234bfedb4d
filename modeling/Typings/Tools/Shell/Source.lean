import Typings.Tools.Shell.Script

/-! # The text of a script

A script in the middle of being read, and the signs it is made of: operators, redirections, words
and the ends of lines. A sign that has been looked at can be put back, and documents that have been
referred to wait until the end of the line.
-/

namespace Typings.Tools.Shell

/-- What a redirection leads to, before the word behind it is read. -/
inductive RedirectionKind where
  | file (opening : Opening)
  | descriptor (opening : Opening)
  | document (stripsTabs : Bool)
  deriving DecidableEq, Repr

/-- A sign of a written script. -/
inductive Token where
  | word (w : Word)
  | keyword (text : String)
  | operator (text : String)
  | redirection (descriptor : Nat) (kind : RedirectionKind)
  | newline
  | endOfFile

/-- The token as it is called in errors. -/
def Token.description : Token → String
  | word _ => "word"
  | keyword text | operator text => "\"" ++ text ++ "\""
  | redirection _ _ => "redirection"
  | newline => "newline"
  | endOfFile => "end of file"

/-- The words that are part of commands. -/
def keywords : List String :=
  ["!", "case", "do", "done", "elif", "else", "esac", "fi", "for", "if", "in", "then", "until",
    "while", "\x7b", "\x7d"]

/-- The tokens that a list of commands can end before. -/
def Token.endsList : Token → Bool
  | endOfFile => true
  | operator text => [")", ";;"].contains text
  | keyword text => ["do", "done", "elif", "else", "esac", "fi", "then", "\x7d"].contains text
  | _ => false

/-- A document that is referred to and still to be read. -/
structure Awaited where
  number : Nat
  delimiter : List Char
  /-- Nothing in the document stands for anything else. -/
  literal : Bool
  stripsTabs : Bool

/-- A script in the middle of being read. -/
structure Source where
  rest : List Char
  line : Nat := 1
  /-- A token that has been looked at and is still to be taken. -/
  pushed : Option Token := none
  awaited : List Awaited := []
  documents : List Document := []
  /-- The number that the next document gets. -/
  nextDocument : Nat := 0

/-- What reads from a source, and can fail. -/
abbrev Reader (α : Type) : Type := StateT Source (Except ScriptError) α

namespace Source

/-- Gives up at the line that has been reached. -/
def fail {α : Type} (message : String) : Reader α := fun s =>
  .error ⟨s.line, "Syntax error: " ++ message⟩

/-- Gives up because of a token. -/
def unexpected {α : Type} (token : Token) : Reader α :=
  fail (token.description ++ " unexpected")

/-- Gives up because of a token in the place of another one. -/
def unexpectedFor {α : Type} (token expected : Token) : Reader α :=
  fail (token.description ++ " unexpected (expecting " ++ expected.description ++ ")")

/-- Passes line ends behind backslashes. -/
def passJoins (line : Nat) : List Char → Nat × List Char
  | '\\' :: '\n' :: rest => passJoins (line + 1) rest
  | rest => (line, rest)

/-- The source from its next character on. -/
def joined (s : Source) : Source :=
  let (line, rest) := passJoins s.line s.rest
  { s with line, rest }

/-- Leaves a token to be read once more. -/
def push (token : Token) : Reader Unit := modify fun s => { s with pushed := some token }

/-- Passes a number of characters. -/
def advance (n : Nat) : Reader Unit := modify fun s => { s with rest := s.rest.drop n }

/-- The characters that are left. -/
def peek : Reader (List Char) := do
  modify joined
  return (← get).rest

/-- Takes the characters from the front that fulfil a condition. -/
def takeWhile (p : Char → Bool) : Reader (List Char) := do
  let rest ← peek
  modify fun s => { s with rest := rest.dropWhile p }
  return rest.takeWhile p

end Source

open Source

/-- How a file is opened or a descriptor is led elsewhere, by the characters that say so. -/
def redirectionKind? : List Char → Option (Nat × RedirectionKind × Nat)
  | '>' :: '>' :: _ => some (1, .file .append, 2)
  | '>' :: '|' :: _ => some (1, .file .overwrite, 2)
  | '>' :: '&' :: _ => some (1, .descriptor .write, 2)
  | '>' :: _ => some (1, .file .write, 1)
  | '<' :: '<' :: '-' :: _ => some (0, .document true, 3)
  | '<' :: '<' :: _ => some (0, .document false, 2)
  | '<' :: '&' :: _ => some (0, .descriptor .read, 2)
  | '<' :: '>' :: _ => some (0, .file .readWrite, 2)
  | '<' :: _ => some (0, .file .read, 1)
  | _ => none

/-- Passes blanks and comments. -/
def passBlanks (limit : Nat) (s : Source) : Source :=
  match limit, s.joined with
  | 0, s => s
  | limit + 1, s =>
    match s.rest with
    | ' ' :: rest | '\t' :: rest => passBlanks limit { s with rest }
    | '#' :: rest => { s with rest := rest.dropWhile (· ≠ '\n') }
    | _ => s

/-- The token of the next characters, unless they begin a word or a redirection. -/
def operator? : List Char → Option (Token × Nat)
  | [] => some (.endOfFile, 0)
  | '\n' :: _ => some (.newline, 1)
  | '&' :: '&' :: _ => some (.operator "&&", 2)
  | '&' :: _ => some (.operator "&", 1)
  | '|' :: '|' :: _ => some (.operator "||", 2)
  | '|' :: _ => some (.operator "|", 1)
  | ';' :: ';' :: _ => some (.operator ";;", 2)
  | ';' :: _ => some (.operator ";", 1)
  | '(' :: _ => some (.operator "(", 1)
  | ')' :: _ => some (.operator ")", 1)
  | _ => none

end Typings.Tools.Shell

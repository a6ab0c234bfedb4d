import Typings.Tools.Basic

/-! # Shell scripts

The language of the shell as data: words whose parts are text or stand for something that is worked
out when the script runs, redirections, and commands that are made of them and of one another.
-/

namespace Typings.Tools.Shell

/-- What is done with the value of a parameter before it stands in its place. -/
inductive Treatment where
  | plain
  /-- The number of bytes of the value. -/
  | length
  /-- A word in place of a missing value. -/
  | orWord
  /-- A word in place of a missing value, which becomes the value. -/
  | assigning
  /-- A missing value ends the script with a word as the message. -/
  | demanding
  /-- A word in place of a value that is there. -/
  | insteadOf
  /-- The value without what matches a pattern, at its end or at its start. -/
  | without (atEnd longest : Bool)
  deriving DecidableEq, Repr

/-- How a file is opened. -/
inductive Opening where
  | read
  | write
  /-- Like `write`, even if a file must not be written over. -/
  | overwrite
  | append
  | readWrite
  deriving DecidableEq, Repr

mutual

/-- A part of a word. -/
inductive Part where
  | char (c : Char) (quoted : Bool)
  /-- A pair of quotes with nothing in it. -/
  | emptyQuotes
  /-- The home directory, which a tilde stands for. -/
  | home
  /-- The value of a parameter. An empty one counts as missing if `needsText` is set. -/
  | parameter (name : String) (treatment : Treatment) (needsText : Bool) (word : List Part)
      (quoted : Bool)
  /-- Something in braces that is no way to treat a parameter. -/
  | badSubstitution
  /-- What a command writes. -/
  | output (body : Command) (quoted : Bool)
  /-- The value of an arithmetic expression. -/
  | expression (text : List Part) (quoted : Bool)

/-- Where a descriptor leads to. -/
inductive Target where
  | file (opening : Opening) (name : List Part)
  /-- The place where another descriptor leads to, or none. -/
  | descriptor (opening : Opening) (number : List Part)
  /-- A text in the script, by its number. -/
  | document (number : Nat)

/-- A descriptor that is led elsewhere. -/
inductive Redirection where
  | leads (descriptor : Nat) (target : Target)

/-- A command. The number in some of them is the line of the script that they are from. -/
inductive Command where
  | nothing
  | simple (line : Nat) (assignments : List (String × List Part)) (words : List (List Part))
      (redirections : List Redirection)
  | redirected (line : Nat) (body : Command) (redirections : List Redirection)
  | negated (body : Command)
  | pipeline (commands : List Command)
  | sequence (commands : List Command)
  | background (body : Command)
  | both (first second : Command)
  | either (first second : Command)
  | subshell (line : Nat) (body : Command)
  | conditional (test body otherwise : Command)
  /-- A body that is run as long as a test gives the stated result. -/
  | loop (result : Bool) (test body : Command)
  /-- A body that is run for every field of some words or, where there are none, for every
  argument. -/
  | forEach (line : Nat) (name : String) (words : Option (List (List Part))) (body : Command)
  | choice (line : Nat) (word : List Part) (cases : List (List (List Part) × Command))
  | function (line : Nat) (name : String) (body : Command)

end

/-- A word as it is written. -/
abbrev Word : Type := List Part

/-- The word as plain text, if nothing in it is quoted or to be worked out. -/
def plainText? : Word → Option (List Char)
  | [] => some []
  | .char c false :: rest => (plainText? rest).map (c :: ·)
  | _ => none

instance : Inhabited Command := ⟨.nothing⟩

def Command.isNothing : Command → Bool
  | .nothing => true
  | _ => false

/-- A text that stands in a script behind the line that refers to it, by its number. -/
abbrev Document : Type := Nat × Word

/-- A piece of a script that is run before the next one is looked at. -/
structure Passage where
  command : Command
  documents : List Document

/-- Why a script cannot be read, with the line where it shows. -/
structure ScriptError where
  line : Nat
  message : String
  deriving DecidableEq, Repr

/-- Letters, digits and underscores may stand in a name, but no digit in front. -/
def isNameStart (c : Char) : Bool := c.isAlpha || c == '_'

/-- The character may stand in a name. -/
def isNameChar (c : Char) : Bool := c.isAlphanum || c == '_'

/-- The text is a name. -/
def isName : List Char → Bool
  | [] => false
  | c :: rest => isNameStart c && rest.all isNameChar

end Typings.Tools.Shell

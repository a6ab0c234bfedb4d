import Typings.Tools.Pattern.Matching

/-! # Editing scripts

A script is a list of commands, each for some of the lines. Commands change the text of the line,
keep text for later, print, or go to another place of the script.
-/

namespace Typings.Tools.Edit

open Files

/-- Lines that can be selected. -/
inductive Address where
  | line (n : Nat)
  /-- Every so many lines from a first one on. -/
  | every (first step : Nat)
  | last
  /-- The lines that a pattern is in; without one, the pattern that was used last. -/
  | matching (m : Option Matcher)

/-- Where a range of lines ends. -/
inductive RangeEnd where
  | address (a : Address)
  /-- So many lines further on. -/
  | after (n : Nat)
  /-- At the next line whose number is a multiple. -/
  | multipleOf (n : Nat)

/-- The lines that a command is for. -/
structure Selection where
  first : Option Address := none
  stop : Option RangeEnd := none
  negated : Bool := false

/-- How the case of letters is changed. -/
inductive Casing where
  | asIs
  | upper
  | lower
  deriving DecidableEq, Repr

/-- How a piece of replacement is written: all of its letters, and the first one if that differs. -/
structure Lettering where
  all : Casing := .asIs
  first : Option Casing := none
  deriving DecidableEq, Repr

/-- A piece of replacement: some text and then what a group has matched. Group 0 is the whole. -/
structure Piece where
  text : Bytes
  group : Option Nat := none
  lettering : Lettering := {}
  deriving DecidableEq, Repr

/-- Files that text can be written to while lines are edited. -/
inductive Target where
  | output
  | errors
  | file (name : Bytes)
  deriving DecidableEq, Repr

/-- The substitution of what a pattern matches. -/
structure Substitution where
  /-- Without a pattern of its own it takes the one that was used last. -/
  pattern : Option Matcher
  replacement : List Piece
  /-- The number of the first match that is replaced. -/
  number : Nat := 1
  /-- Later matches are replaced as well. -/
  global : Bool := false
  prints : Bool := false
  target : Option Target := none

/-- When a jump is taken. -/
inductive JumpCondition where
  | always
  | replaced
  | notReplaced
  deriving DecidableEq, Repr

/-- What a command does. -/
inductive Action where
  /-- Goes to the number behind the block if the line is not selected. -/
  | openBlock (past : Nat)
  | closeBlock
  | label
  | jump (condition : JumpCondition) (label : Bytes)
  | append (text : Bytes)
  | insert (text : Bytes)
  | change (text : Bytes)
  | delete
  | deleteFirstLine
  | print
  | printFirstLine
  | printNumber
  | printName
  | printPlain (width : Option Nat)
  | copyToHold
  | appendToHold
  | copyFromHold
  | appendFromHold
  | exchange
  | next
  | appendNext
  | quit (code : Nat) (prints : Bool)
  | readFile (name : Bytes)
  /-- Reads a file ahead of the line. -/
  | readFileBefore (name : Bytes)
  | readLine (name : Bytes)
  | writeFile (target : Target)
  | writeFirstLine (target : Target)
  | substitute (s : Substitution)
  /-- Replaces bytes one by one. -/
  | transliterate (table : Array UInt8)
  | clear

/-- A command with the lines that it is for. -/
structure Command where
  selection : Selection
  action : Action

/-- A script that has been read. -/
structure Script where
  commands : Array Command := #[]
  /-- The labels with the numbers of the commands that they stand before, the latest first. -/
  labels : List (Bytes × Nat) := []
  /-- The script begins with a line that turns printing off. -/
  quiet : Bool := false

/-- What is wrong with a script. -/
inductive Fault where
  | severalNegations
  | unexpectedComma
  | stepAsFirst
  | openBlock
  | strayClose
  | extraCharacters
  | missingText
  | addressedClose
  | addressedLabel
  | addressedComment
  | missingCommand
  | secondAddress
  | unterminatedAddress
  | unterminatedSubstitution
  | unterminatedTransliteration
  | unknownFlag
  | severalPrints
  | severalGlobals
  | severalNumbers
  | zeroNumber
  | unequalLengths
  | lineZero
  | unknownCommand (b : UInt8)
  | missingLabel
  | nestedControl
  | missingFile
  | newerVersion
  | invalidReference (n : Nat)
  | modifiedEmptyPattern
  | pattern (e : PatternError)
  deriving DecidableEq, Repr

/-- What is wrong, in words. -/
def Fault.message : Fault → Bytes
  | severalNegations => bytesOf "multiple \x60!'s"
  | unexpectedComma => bytesOf "unexpected \x60,'"
  | stepAsFirst => bytesOf "invalid usage of +N or ~N as first address"
  | openBlock => bytesOf "unmatched \x60\x7b'"
  | strayClose => bytesOf "unexpected \x60\x7d'"
  | extraCharacters => bytesOf "extra characters after command"
  | missingText => bytesOf "expected \\ after \x60a', \x60c' or \x60i'"
  | addressedClose => bytesOf "\x60\x7d' doesn't want any addresses"
  | addressedLabel => bytesOf ": doesn't want any addresses"
  | addressedComment => bytesOf "comments don't accept any addresses"
  | missingCommand => bytesOf "missing command"
  | secondAddress => bytesOf "command only uses one address"
  | unterminatedAddress => bytesOf "unterminated address regex"
  | unterminatedSubstitution => bytesOf "unterminated \x60s' command"
  | unterminatedTransliteration => bytesOf "unterminated \x60y' command"
  | unknownFlag => bytesOf "unknown option to \x60s'"
  | severalPrints => bytesOf "multiple \x60p' options to \x60s' command"
  | severalGlobals => bytesOf "multiple \x60g' options to \x60s' command"
  | severalNumbers => bytesOf "multiple number options to \x60s' command"
  | zeroNumber => bytesOf "number option to \x60s' command may not be zero"
  | unequalLengths => bytesOf "strings for \x60y' command are different lengths"
  | lineZero => bytesOf "invalid usage of line address 0"
  | unknownCommand b => bytesOf "unknown command: \x60" ++ b :: bytesOf "'"
  | missingLabel => bytesOf "\":\" lacks a label"
  | nestedControl => bytesOf "recursive escaping after \\c not allowed"
  | missingFile => bytesOf "missing filename in r/R/w/W commands"
  | newerVersion => bytesOf "expected newer version of sed"
  | invalidReference n =>
    bytesOf ("invalid reference \\" ++ toString n ++ " on \x60s' command's RHS")
  | modifiedEmptyPattern => bytesOf "cannot specify modifiers on empty regexp"
  | pattern e => bytesOf e.message

/-- Why a script cannot be used: a fault behind a number of characters, or a jump to nowhere. -/
inductive ScriptError where
  | fault (f : Fault) (characters : Nat)
  | unknownLabel (label : Bytes)
  /-- A class of characters without its brackets. -/
  | bareClass
  /-- A file cannot be made ready for writing. -/
  | unusableFile (name : Bytes) (e : FileError)
  deriving DecidableEq, Repr

end Typings.Tools.Edit

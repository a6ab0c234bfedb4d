import Typings.Text.Blank
import Typings.Text.Utf8

/-! # Formatters

A formatter is a command that reads declarations from its standard input and writes them, laid out
anew, to its standard output. What commands there are and what they do is a parameter, a
`Toolbox`; this module says which outcome of a command is a formatted text and which is an error.
-/

namespace Typings

/-- How a command came to its end. -/
inductive ExitStatus where
  | code (n : Nat)
  | signal (n : Nat)
  deriving DecidableEq, Repr

/-- What is left of a command that has run. -/
structure Outcome where
  status : ExitStatus
  output : ByteArray := .empty
  errors : ByteArray := .empty
  /-- The command ended before it had taken in all of its input. -/
  inputRefused : Bool := false

/-- The commands that can be run: for a program that exists, what it does with its arguments and its
input. -/
abbrev Toolbox : Type := String → Option (List String → ByteArray → Outcome)

/-- Why a text could not be formatted. -/
inductive FormatError where
  | emptyCommand
  | notFound (program : String)
  /-- The command cannot be started, because an argument holds a null character. -/
  | unusableArgument (program : String)
  /-- The input could not be handed over to a command that then succeeded. -/
  | inputRefused (program : String)
  | rejected (program : String) (status : ExitStatus) (errors : String)
  | invalidOutput (program : String)
  deriving DecidableEq, Repr

namespace ExitStatus

def isSuccess (s : ExitStatus) : Bool := s == code 0

/-- The names of the signals that have one, from number 1 on. -/
def signalNames : List String :=
  ["HUP", "INT", "QUIT", "ILL", "TRAP", "ABRT", "BUS", "FPE", "KILL", "USR1", "SEGV", "USR2",
    "PIPE", "ALRM", "TERM", "STKFLT", "CHLD", "CONT", "STOP", "TSTP", "TTIN", "TTOU", "URG",
    "XCPU", "XFSZ", "VTALRM", "PROF", "WINCH", "IO", "PWR", "SYS"]

/-- The name of a signal in parentheses, for the signals that have one. -/
def signalName (n : Nat) : String :=
  match ("" :: signalNames)[n]? with
  | none | some "" => ""
  | some name => " (SIG" ++ name ++ ")"

def text : ExitStatus → String
  | code n => "exit status: " ++ toString n
  | signal n => "signal: " ++ toString n ++ signalName n

end ExitStatus

/-- Where a program is that a command names. One that is named without a directory is found in the
directory of programs. -/
def programPath (program : String) : String :=
  if program.toList.contains '/' then program else "/usr/bin/" ++ program

namespace FormatError

/-- What the operating system says of an argument with a null character. -/
def nullCause : String := "nul byte found in provided data"

/-- What the operating system says of input that nobody reads. -/
def refusalCause : String := "Broken pipe (os error 32)"

/-- The error of a command that did not get going or was not fed. -/
def spawnMessage (program cause : String) : String :=
  "failed to run formatter " ++ programPath program ++ ": " ++ cause

def message : FormatError → String
  | emptyCommand => "formatter command is empty"
  | notFound program => "formatter \x60" ++ program ++ "\x60 not found on PATH"
  | unusableArgument program => spawnMessage program nullCause
  | inputRefused program => spawnMessage program refusalCause
  | rejected program status errors =>
    "formatter \x60" ++ program ++ "\x60 exited with " ++ status.text ++ ": " ++ errors
  | invalidOutput program => "formatter \x60" ++ program ++ "\x60 produced non-UTF-8 output"

end FormatError

/-- A command with a program to look up. -/
structure Command where
  program : String
  arguments : List String
  deriving DecidableEq, Repr

namespace Command

/-- The command of a list of words, the first of which names the program and is not blank. -/
def ofWords : List String → Except FormatError Command
  | [] => .error .emptyCommand
  | program :: arguments =>
    if Text.hasInk program.toList then .ok ⟨program, arguments⟩ else .error .emptyCommand

/-- The text that the command makes of a source. An outcome without success is an error whatever
became of the input. -/
def format (tools : Toolbox) (c : Command) (source : String) : Except FormatError String :=
  match tools c.program with
  | none => .error (.notFound c.program)
  | some tool =>
    if c.arguments.any (·.toList.contains '\x00') then .error (.unusableArgument c.program)
    else
      let outcome := tool c.arguments source.toUTF8
      if !outcome.status.isSuccess then
        .error (.rejected c.program outcome.status (Text.strip (Text.decodeLossy outcome.errors)))
      else if outcome.inputRefused then .error (.inputRefused c.program)
      else
        match String.fromUTF8? outcome.output with
        | some text => .ok text
        | none => .error (.invalidOutput c.program)

end Command

end Typings

import Typings.Tools.Shell.Builtin
import Typings.Tools.Shell.Reading

/-! # Names of commands

What the name of a command stands for: a word of the language, a function, a built-in command, or a
program that is looked for along the search path.
-/

namespace Typings.Tools.Shell

open Files

/-- What a program is: a tool, or the shell itself. -/
inductive Program where
  | tool (run : Tool)
  | shell

abbrev Programs : Type := Location → Option Program

/-- Why a program cannot be run: the status and what is wrong. -/
abbrev Refusal : Type := Nat × String

def programAt (programs : Programs) (files : Store) (path : String) : Except Refusal Program :=
  match files.locate path with
  | .error .nameTooLong => .error (127, FileError.nameTooLong.cause)
  | .error _ => .error (127, "not found")
  | .ok location =>
    match programs location, files.get? location with
    | some program, _ => .ok program
    | none, some _ => .error (126, "Permission denied")
    | none, none => .error (127, "not found")

def programPaths (p : Process) (name : String) : List String :=
  if name.toList.contains '/' then [join p.directory name]
  else
    let path := ((p.value? "PATH").map textOf).getD ""
    (path.toList.splitOn ':').map fun directory =>
      join p.directory (join (String.ofList directory) name)

/-- Finds a program, with the path at which it is. -/
def findProgram (programs : Programs) (s : State) (name : String) :
    Except Refusal (String × Program) :=
  if name.isEmpty then .error (127, "Permission denied")
  else
    let paths := programPaths s.process name
    let found := paths.filterMap fun path =>
      ((programAt programs s.world.files path).toOption).map fun program => (path, program)
    match found, paths with
    | first :: _, _ => .ok first
    | [], path :: _ =>
      if name.toList.contains '/' then
        match programAt programs s.world.files path with
        | .error refusal => .error refusal
        | .ok program => .ok (path, program)
      else .error (127, "not found")
    | [], [] => .error (127, "not found")

/-- Says what names stand for. -/
def describe (programs : Programs) (names : List Bytes) : Action Nat := do
  let mut status := 0
  for name in names do
    let s ← get
    let text := textOf name
    let what :=
      if keywords.contains text then some "is a shell keyword"
      else if specialNames.contains text then some "is a special shell builtin"
      else if (s.process.functions.lookup text).isSome then some "is a shell function"
      else if isBuiltinName text then some "is a shell builtin"
      else ((findProgram programs s text).toOption).map fun found => "is " ++ found.1
    let _ ← say (name ++ bytesOf (match what with
      | some what => " " ++ what ++ "\n"
      | none => ": not found\n"))
    if what.isNone then status := 127
  return status

/-- Says by which word a command is run. -/
def locateCommand (programs : Programs) (name : Bytes) : Action Nat := do
  let s ← get
  let text := textOf name
  if keywords.contains text || isBuiltinName text
      || (s.process.functions.lookup text).isSome then
    say (name ++ [10])
  else
    match findProgram programs s text with
    | .ok (path, _) => say (bytesOf (path ++ "\n"))
    | .error _ => return 127

end Typings.Tools.Shell

import Typings.Run
import Typings.Tools.Toolbox

/-! # The program

The command line with the files of the working machine. The files and directories that a run can
look at are read beforehand; what the run has changed is written back. Everything in between is
`Typings.run`. Formatters come from the built-in toolbox.
-/

namespace Typings.Program

open Files Settings

def pathOf (location : Location) : String := "/" ++ "/".intercalate location

def entryAt? (location : Location) : IO (Option Entry) := do
  try
    return some (.file (← IO.FS.readBinFile (pathOf location)))
  catch error =>
    match error with
    | .inappropriateType _ code _ => return if code = 21 then some .directory else none
    | _ => return none

/-- Takes in what there is on the way from the root to a location. -/
def survey (files : Store) (location : Location) : IO Store := do
  let mut files := files
  for length in List.range location.length do
    let part := location.take (length + 1)
    if (files.get? part).isNone then
      if let some entry ← entryAt? part then
        files := files.put part entry
  return files

/-- The location of an absolute path, as far as names go. -/
def locationOf (path : String) : Location :=
  (segments path).foldl (fun location segment =>
    if segment = "" ∨ segment = "." then location
    else if segment = ".." then location.dropLast
    else location ++ [segment]) []

/-- The files that a run with these arguments can look at. -/
def filesFor (cwd : String) (arguments : Arguments) : IO Store := do
  let files ← survey {} (locationOf (join cwd (arguments.config.getD configName)))
  match Run.settings files cwd arguments with
  | .error _ => return files
  | .ok s => survey (← survey files (locationOf s.input)) (locationOf s.output)

/-- Writes back what has changed. -/
def save (before after : Store) : IO Unit := do
  for (location, entry) in after.entries.mergeSort fun a b => a.1.length ≤ b.1.length do
    if before.get? location ≠ some entry then
      match entry with
      | .directory => IO.FS.createDirAll (pathOf location)
      | .file content => IO.FS.writeBinFile (pathOf location) content

end Typings.Program

open Typings Typings.Program in
/-- Runs the command line and ends with its code. -/
def main (arguments : List String) : IO UInt32 := do
  let cwd := (← IO.currentDir).toString
  let files ← match Settings.Arguments.read arguments with
    | .error _ => pure {}
    | .ok arguments => filesFor cwd arguments
  let transcript := run (Tools.builtinToolbox files cwd) files cwd arguments
  save files transcript.files
  IO.print transcript.output
  IO.eprint transcript.errors
  return transcript.code.toUInt32

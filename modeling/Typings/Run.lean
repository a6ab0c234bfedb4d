import Typings.Diff.Text
import Typings.Generation
import Typings.Settings.Basic

/-! # Runs

A run of the command line as a function of its arguments, its working directory, the files there are
and the programs that can format. A run reads a documentation file and writes, prints or checks the
declarations that come of it.
-/

namespace Typings

open Files Settings

/-- Why a run fails. -/
inductive RunError where
  | config (error : ConfigError)
  | unreadable (path : String) (error : FileError)
  | documentation (path : String) (error : Docs.InvalidDocumentation)
  | generation (error : GenerateError)
  | uncreatable (path : String) (error : FileError)
  | unwritable (path : String) (error : FileError)
  | outOfDate (path : String)
  deriving DecidableEq, Repr

def RunError.message : RunError → String
  | config error => error.message
  | unreadable path error => "Failed to read " ++ path ++ ": " ++ error.message
  | documentation path error => path ++ ": " ++ error.message
  | generation error => error.message
  | uncreatable path error => "Failed to create " ++ path ++ ": " ++ error.message
  | unwritable path error => "Failed to write " ++ path ++ ": " ++ error.message
  | outOfDate path =>
    path ++ " is out of date, run \x60liquid-types generate\x60 to update it"

/-- What a run has printed and how it ended, with the files as they are then. -/
structure Completed where
  printed : String := ""
  result : Except RunError Unit := .ok ()
  files : Store

namespace Run

def declarations (tools : Toolbox) (files : Store) (s : Settings) : Except RunError String := do
  let text ← (files.readText s.input).mapError (.unreadable s.input)
  let objects ← (Docs.load text).mapError (.documentation s.input)
  let formatter ← (formatterCommand s.formatter).mapError .generation
  let options : Options := { templateContexts := s.templateContexts }
  let generated ← (generate tools options formatter objects).mapError .generation
  return generated.text

/-- The text that a file is compared as. A missing file has no text. -/
def currentText (files : Store) (path : String) : Except RunError String :=
  match files.readText path with
  | .error .notFound => .ok ""
  | .error error => .error (.unreadable path error)
  | .ok text => .ok text

/-- Compares a file with the text that it should have. -/
def check (files : Store) (path text : String) : Completed :=
  match currentText files path with
  | .error error => { result := .error error, files }
  | .ok current =>
    if current = text then { printed := "Up to date " ++ path ++ "\n", files }
    else
      { printed := Diff.differenceText path current text
        result := .error (.outOfDate path)
        files }

/-- Makes the directory that a file is to be in. -/
def prepareDirectory (files : Store) (path : String) : Store × Except RunError Unit :=
  match (parent? path).filter (!·.isEmpty) with
  | none => (files, .ok ())
  | some parent =>
    let (files, made) := files.makeDirectories parent
    (files, made.mapError (.uncreatable parent))

/-- Writes a file, together with the directories on the way to it. -/
def writeOutput (files : Store) (path text : String) : Completed :=
  match prepareDirectory files path with
  | (files, .error error) => { result := .error error, files }
  | (files, .ok ()) =>
    match files.write path text.toUTF8 with
    | .error error => { result := .error (.unwritable path error), files }
    | .ok files => { printed := "Wrote " ++ path ++ "\n", files }

def settings (files : Store) (cwd : String) (arguments : Arguments) :
    Except RunError Settings := do
  let config ← (Config.load files arguments.config cwd).mapError .config
  return Settings.resolve config arguments cwd

/-- What a run does that has understood its arguments. -/
def complete (tools : Toolbox) (files : Store) (cwd : String) (arguments : Arguments) :
    Completed :=
  match settings files cwd arguments with
  | .error error => { result := .error error, files }
  | .ok s =>
    match declarations tools files s with
    | .error error => { result := .error error, files }
    | .ok text =>
      if arguments.stdout then { printed := text, files }
      else if arguments.check then check files s.output text
      else writeOutput files s.output text

end Run

/-- What is left of a run that has ended. -/
structure Transcript where
  code : Nat
  output : String
  errors : String
  files : Store

/-- The code that a run ends with. -/
def exitCode : Except RunError Unit → Nat
  | .ok () => 0
  | .error _ => 1

def Completed.transcript (c : Completed) : Transcript where
  code := exitCode c.result
  output := c.printed
  errors := match c.result with
    | .ok () => ""
    | .error error => "error: " ++ error.message ++ "\n"
  files := c.files

/-- What is left of a run whose arguments ask for something else than declarations, or for nothing
that there is. -/
def usageTranscript (files : Store) (error : UsageError) : Transcript :=
  let help := error.message ++ "\n\n" ++ UsageError.usage ++ "\n"
  match error with
  | .versionRequested => { code := 0, output := error.message ++ "\n", errors := "", files }
  | .helpRequested => { code := 0, output := help, errors := "", files }
  | _ => { code := 2, output := "", errors := help, files }

/-- Runs the command line. -/
def run (tools : Toolbox) (files : Store) (cwd : String) (arguments : List String) : Transcript :=
  match Arguments.read arguments with
  | .error error => usageTranscript files error
  | .ok arguments => (Run.complete tools files cwd arguments).transcript

end Typings

import Typings.Tools.Edit.Reading
import Typings.Tools.Edit.Running
import Typings.Tools.Options

/-! # Line editing

The tool `sed`: runs a script on the lines of its files or of its input.
-/

namespace Typings.Tools.Edit

open Files

/-- What an option asks for. -/
inductive Feature where
  | quiet
  | script
  | scriptFile
  | extended
  | inPlace
  | width
  | separate
  | zeroEnded
  /-- Nothing that shows in the output. -/
  | indifferent
  deriving DecidableEq

def options : List (ToolOption Feature) :=
  [{ letter := some 'n', name := some "quiet", meaning := .quiet },
    { letter := some 'n', name := some "silent", meaning := .quiet },
    { letter := some 'e', name := some "expression", value := .required, meaning := .script },
    { letter := some 'f', name := some "file", value := .required, meaning := .scriptFile },
    { letter := some 'E', name := some "regexp-extended", meaning := .extended },
    { letter := some 'r', meaning := .extended },
    { letter := some 'i', name := some "in-place", value := .optional, meaning := .inPlace },
    { letter := some 'l', name := some "line-length", value := .required, meaning := .width },
    { letter := some 's', name := some "separate", meaning := .separate },
    { letter := some 'z', name := some "null-data", meaning := .zeroEnded },
    { letter := some 'z', name := some "zero-terminated", meaning := .zeroEnded },
    { letter := some 'u', name := some "unbuffered", meaning := .indifferent },
    { letter := some 'b', name := some "binary", meaning := .indifferent },
    { name := some "posix", meaning := .indifferent },
    { name := some "follow-symlinks", meaning := .indifferent }]

/-- A part of a script with the number that it has among those given as arguments, or the name of
the file that it is from. -/
inductive PartName where
  | expression (number : Nat)
  | file (path : String)

/-- A script in the middle of being put together from its parts. -/
structure Assembly where
  draft : Draft := {}
  /-- The parts so far with their names. -/
  parts : Array (PartName × Bytes) := #[]
  expressions : Nat := 0
  extended : Bool := false
  /-- What is left of the input, which may be a part of the script. -/
  input : Bytes

/-- A failure with its code and its message, the name of the tool apart. -/
abbrev Failure : Type := Nat × Bytes

/-- The place of a fault in a file: the number of the line that the characters end in. -/
def lineNumber (text : Bytes) (characters : Nat) : Nat := (text.take characters).count 10 + 1

/-- The failure of a part that cannot be read. -/
def faultFailure (name : PartName) (text : Bytes) : ScriptError → Failure
  | .fault f characters =>
    let place := match name with
      | .expression n => "-e expression #" ++ toString n ++ ", char " ++ toString characters
      | .file path => "file " ++ path ++ " line " ++ toString (lineNumber text characters)
    (1, bytesOf (place ++ ": ") ++ f.message)
  | .unknownLabel label =>
    (4, bytesOf "can't find label for jump to \x60" ++ label ++ bytesOf "'")
  | .bareClass => (4, bytesOf (PatternError.message .bareClass))
  | .unusableFile name e =>
    (4, bytesOf "couldn't open file " ++ name ++ bytesOf (": " ++ e.cause))

/-- Whether a tool can write a file. -/
def prepareFile (s : Surroundings) (name : Bytes) : Except FileError Unit :=
  match String.fromUTF8? name.toByteArray with
  | none => .ok ()
  | some path => (s.files.write (join s.directory path) .empty).map fun _ => ()

/-- Adds a part to a script. -/
def Assembly.read (s : Surroundings) (a : Assembly) (name : PartName) (text : Bytes) :
    Except Failure Assembly :=
  let setting : Setting := { extended := a.extended, prepareFile := prepareFile s }
  match a.draft.read setting text with
  | .error e => .error (faultFailure name text e)
  | .ok draft => .ok { a with draft, parts := a.parts.push (name, text) }

/-- Adds an expression to a script. -/
def Assembly.expression (s : Surroundings) (a : Assembly) (script : String) :
    Except Failure Assembly :=
  let a := { a with expressions := a.expressions + 1 }
  a.read s (.expression a.expressions) (bytesOf script)

/-- The failure of a script with a block that is still open. An expression has come to its end by
then, and the place in it is lost. -/
def Assembly.openBlockFailure (a : Assembly) (block : OpenBlock) : Failure :=
  match a.parts[block.part - 1]? with
  | some (.file path, text) =>
    faultFailure (.file path) text (.fault .openBlock block.characters)
  | some (name, text) => faultFailure name text (.fault .openBlock 0)
  | none => faultFailure (.expression a.expressions) [] (.fault .openBlock 0)

/-- The script, once all of its parts have been put together. -/
def Assembly.finish (a : Assembly) : Except Failure Script :=
  match a.draft.blocks with
  | block :: _ => .error (a.openBlockFailure block)
  | [] => (a.draft.finish).mapError (faultFailure (.expression a.expressions) [])

/-- Reads what an option adds to a script. -/
def Assembly.option (s : Surroundings) (a : Assembly) :
    Feature × String → Except Failure Assembly
  | (.extended, _) => .ok { a with extended := true }
  | (.script, script) => a.expression s script
  | (.scriptFile, path) =>
    let (text, a) := if namesInput [path] then (.ok a.input, { a with input := [] })
      else (s.read path, a)
    match text with
    | .error e => .error (4, bytesOf ("couldn't open file " ++ path ++ ": " ++ e.cause))
    | .ok text =>
      let text := if text.getLast? == some 10 then text.dropLast else text
      a.read s (.file path) text
  | _ => .ok a

/-- What the values of an option that makes edits take place in files ask for. -/
def keptPlan (value : String) : String := if value.toList.contains '*' then value else "*" ++ value

/-- How a script is run with some options. -/
def modeOf (s : Surroundings) (given : List (Feature × String)) (script : Script) : Mode where
  program := s.program
  directory := s.directory
  inputClosed := s.inputKind == .closed
  quiet := script.quiet || given.any (·.1 == .quiet)
  separate := given.any fun o => o.1 == .separate || o.1 == .inPlace
  inPlace := (given.reverse.find? (·.1 == .inPlace)).map (keptPlan ·.2)
  ending := if given.any (·.1 == .zeroEnded) then 0 else 10
  width := ((given.reverse.find? (·.1 == .width)).map fun o =>
    decimalValue ((bytesOf o.2).takeWhile isDigit)).getD 70
  firstRanges := script.commands.map firstRangeState

/-- The file that a command writes to. -/
def Action.target? : Action → Option Target
  | .writeFile target | .writeFirstLine target => some target
  | .substitute s => s.target
  | _ => none

/-- The files in which all that a script writes to are empty. -/
def Script.emptied (script : Script) (files : Store) (directory : String) : Store :=
  script.commands.foldl (fun files c =>
    match c.action.target? with
    | some (.file name) =>
      match pathOf? directory name with
      | some path => withFile files path []
      | none => files
    | _ => files) files

/-- Runs a script on some files. -/
def edit (s : Surroundings) (given : List (Feature × String)) (a : Assembly) (script : Script)
    (paths : List String) : Report :=
  let mode := modeOf s given script
  let m := script.run mode
    { waiting := if paths.isEmpty then ["-"] else paths
      files := script.emptied s.files s.directory
      input := a.input
      ranges := mode.firstRanges }
  let m :=
    if !m.lacksPattern then m
    else m.complain mode ("-e expression #" ++ toString a.expressions ++
      ", char 0: no previous regular expression")
  let report : Report :=
    { code := if m.missesFile && !m.stopped then 2 else m.ended.getD 0
      written := [.message m.errors.bytes, .output m.output.bytes]
      unread := if m.readsInput then m.lines.flatMap (·.bytes mode.ending) else m.input
      files := some (m.currentFiles mode) }
  if s.outputKind ≠ .closed then report
  else if m.stopped then { report with written := [.message m.errors.bytes] }
  else s.withoutOutput report 4 "couldn't close stdout"

/-- Runs the tool with arguments that have been read. -/
def editWith (s : Surroundings) (r : ReadArguments Feature) : Except Failure Report := do
  let a ← r.options.foldlM (Assembly.option s) { input := s.input }
  let (a, paths) ← match a.parts.isEmpty, r.operands with
    | true, script :: paths => pure (← a.expression s script, paths)
    | _, paths => pure (a, paths)
  if a.parts.isEmpty then throw (1, bytesOf "no script specified")
  let script ← a.finish
  if paths.isEmpty && r.options.any (·.1 == .inPlace) then
    throw (4, bytesOf "no input files")
  return edit s r.options a script paths

def tool : Tool := fun arguments s =>
  match ToolOption.read options true arguments with
  | .error e => s.failure 1 (e.complaint s.program)
  | .ok r =>
    match editWith s r with
    | .ok report => report
    | .error (code, message) => s.failure code (s.messageLine message)

end Typings.Tools.Edit

import Typings.Tools.Shell.Builtin
import Typings.Tools.Shell.Reading

/-! # Starting a shell

How a process is set up by the arguments that a shell is started with, and how its script comes to
be read. A script that is the input is taken from there block by block.
-/

namespace Typings.Tools.Shell

open Files

/-- The variables that a new process starts with. -/
def initialVariables (exported : List (String × Variable)) (directory : String) :
    List (String × Variable) :=
  let text (name value : String) : String × Variable := (name, { value := some (bytesOf value) })
  let own := [text "IFS" " \t\n", text "OPTIND" "1", text "PS1" "# ", text "PS2" "> ",
    text "PS4" "+ ", ("PWD", { value := some (bytesOf directory), isExported := true })]
  own ++ exported.filter fun v => (own.lookup v.1).isNone

/-- Where a script is that a shell is started with. -/
inductive ScriptPlace where
  | argument (script : Bytes)
  | file (path : Bytes)
  | input

/-- Takes options from the arguments that a shell is started with. Tells whether the script is an
argument. -/
def takeStartOptions : Nat → Bool → List Bytes → Action (Bool × List Bytes)
  | 0, given, rest => return (given, rest)
  | _, given, [] => return (given, [])
  | limit + 1, given, argument :: rest => do
    match byteChars argument with
    | ['-'] | ['-', '-'] => return (given, rest)
    | '-' :: letters =>
      let others := letters.filter fun c => c ≠ 'c' && c ≠ 'l'
      takeStartOptions limit (given || letters.contains 'c') (← setLetters true others rest)
    | '+' :: letters => takeStartOptions limit given (← setLetters false letters rest)
    | _ => return (given, argument :: rest)

/-- Sets a process up by its arguments, and tells where its script is. -/
def startUp (arguments : List Bytes) : Action ScriptPlace := do
  modifyProcess fun p => { p with line := 0 }
  let (given, rest) ← takeStartOptions (arguments.length + 1) false arguments
  let started (name : Option Bytes) (arguments : List Bytes) : Action Unit :=
    modifyProcess fun p =>
      { p with arguments, line := 1, name := (name.map textOf).getD p.name }
  match given, rest with
  | true, [] => failText "-c requires an argument"
  | true, script :: rest =>
    started rest.head? (rest.drop 1)
    return .argument script
  | false, [] =>
    started none []
    return .input
  | false, path :: rest =>
    if (← getProcess).options.contains 's' then
      started none (path :: rest)
      return .input
    else
      let s ← get
      if !s.world.files.pathExists (join s.process.directory (textOf path)) then
        failWith (bytesOf "cannot open " ++ path ++ bytesOf ": No such file")
      started (some path) rest
      return .file path

/-- The number of the next document. -/
def Process.nextDocument (p : Process) : Nat := p.documents.foldl (fun n d => max n (d.1 + 1)) 0

def keepDocuments (passages : List Passage) : Action Unit :=
  modifyProcess fun p => { p with documents := passages.flatMap (·.documents) ++ p.documents }

/-- Reads a script, and keeps the documents in it. What is wrong with it is for later. -/
def prepare (text : List Char) : Action ReadScript := do
  let script := readScript (← getProcess).nextDocument text
  keepDocuments script.passages
  return script

/-- Says what is wrong with a script. -/
def failAt {α : Type} (fault : ScriptError) : Action α := do
  modifyProcess fun p => { p with line := fault.line }
  failText fault.message

/-- The number of bytes of a script that are read from the input at once. -/
def scriptBlock : Nat := 8192

/-- Takes a block from the input, up to the end of a character. -/
def takeBlock (input : Bytes) : Action (List Char) := do
  let rest := input.drop scriptBlock
  let block := input.take scriptBlock ++ rest.takeWhile Text.isContinuation
  leaveInput 0 (rest.dropWhile Text.isContinuation)
  return (textOf block).toList

end Typings.Tools.Shell

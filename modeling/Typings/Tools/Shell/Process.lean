import Typings.Tools.Shell.Script

/-! # Processes of the shell

What a shell is made of while it runs. Some of it belongs to the process alone and is copied for a
subshell: variables, functions, arguments, descriptors. The rest, the files and whatever descriptors
lead to, is shared by all processes.
-/

namespace Typings.Tools.Shell

open Files

/-- What a descriptor leads to. -/
inductive Channel where
  /-- The file that is always empty. -/
  | nothing
  /-- Something opened, by its number. -/
  | opened (number : Nat)
  deriving DecidableEq, Repr

/-- Something that has been opened. -/
inductive OpenFile where
  /-- Bytes that are still to be read, and pieces that have been written behind them, last one
  first. -/
  | pipe (unread : Bytes) (written : List Bytes)
  /-- A place in a file. With `appends` set, everything is written at the end of the file. -/
  | file (location : Location) (position : Nat) (appends : Bool)

/-- What all processes share. -/
structure World where
  files : Store
  opened : List (Nat × OpenFile) := []
  nextOpened : Nat := 0
  nextProcess : Nat
  /-- Processes that have been sent a signal, with the signals, last one first. -/
  signalled : List (Nat × Nat) := []

structure Variable where
  value : Option Bytes := none
  isExported : Bool := false
  isReadOnly : Bool := false
  deriving DecidableEq, Repr

/-- All that belongs to one process. -/
structure Process where
  number : Nat
  name : String
  arguments : List Bytes := []
  bindings : List (String × Variable) := []
  functions : List (String × Command) := []
  /-- The documents of all that has been read. -/
  documents : List Document := []
  descriptors : List (Nat × Channel) := []
  directory : String
  /-- The letters of the options that are set. -/
  options : List Char := []
  /-- How the last command ended. -/
  status : Nat := 0
  /-- How the last command ended of those whose output a word takes in. -/
  outputStatus : Option Nat := none
  /-- What to do at the end, which has number zero, and for signals. -/
  traps : List (Nat × Bytes) := []
  /-- The number of loops that are being run. -/
  loops : Nat := 0
  /-- The variables that the running functions have made their own, as they were before. -/
  frames : List (List (String × Option Variable)) := []
  line : Nat := 1
  /-- The built-in command that is being run. -/
  command : Option String := none
  /-- The process is a copy of the one that its number is that of. -/
  isSubshell : Bool := false
  lastBackground : Option Nat := none
  /-- Background processes with how they ended. -/
  jobs : List (Nat × Nat) := []
  /-- The number of the argument that options are looked for in next. -/
  optionIndex : Nat := 1
  /-- How far into the argument before it the reading of options has come. -/
  optionOffset : Nat := 0

/-- The running process and the world around it. -/
structure State where
  world : World
  process : Process

/-- Why commands are not run one after another any more. -/
inductive Jump where
  /-- The process ends, its status being set. -/
  | exits
  /-- A command went wrong, in a way that ends the process unless the command is one of those that
  may go wrong. -/
  | fails
  /-- A signal ends the process. -/
  | killed (signal : Nat)
  | returns
  | breaks (loops : Nat)
  | continues (loops : Nat)
  deriving DecidableEq, Repr

/-- Something that a process does. -/
abbrev Action (α : Type) : Type := ExceptT Jump (StateM State) α

namespace Action

/-- Runs an action, and another one afterwards whatever has come of it. -/
def ensuring {α : Type} (x : Action α) (after : Action Unit) : Action α := fun s =>
  match x s with
  | (result, s) =>
    match after s with
    | (.ok (), s) => (result, s)
    | (.error jump, s) => (.error jump, s)

/-- What becomes of an action. -/
def result {α : Type} (x : Action α) : Action (Except Jump α) := fun s =>
  match x s with
  | (result, s) => (.ok result, s)

end Action

/-- The running process. -/
def getProcess : Action Process := return (← get).process

/-- Changes the running process. -/
def modifyProcess (f : Process → Process) : Action Unit :=
  modify fun s => { s with process := f s.process }

/-- Changes the world. -/
def modifyWorld (f : World → World) : Action Unit :=
  modify fun s => { s with world := f s.world }

/-- Notes how a command has ended. -/
def setStatus (status : Nat) : Action Unit := modifyProcess fun p => { p with status }

/-- Ends the process with a status. -/
def exitWith {α : Type} (status : Nat) : Action α := do
  setStatus status
  throw .exits

/-! ## Opened files -/

/-- Bytes with others from a position on. -/
def overwritten (content : ByteArray) (position : Nat) (bytes : ByteArray) : ByteArray :=
  let missing := position - content.size
  let before := content.extract 0 position ++ (List.replicate missing (0 : UInt8)).toByteArray
  before ++ bytes ++ content.extract (position + bytes.size) content.size

namespace World

/-- What has been opened under a number. -/
def openFile? (w : World) (number : Nat) : Option OpenFile := w.opened.lookup number

/-- Changes what has been opened under a number. -/
def setOpen (w : World) (number : Nat) (file : OpenFile) : World :=
  { w with opened := w.opened.map fun (n, f) => if n = number then (n, file) else (n, f) }

/-- Opens something. -/
def add (w : World) (file : OpenFile) : World × Nat :=
  ({ w with opened := (w.nextOpened, file) :: w.opened, nextOpened := w.nextOpened + 1 },
    w.nextOpened)

/-- The content of a file, if there is one at the location. -/
def contentAt (w : World) (location : Location) : ByteArray :=
  match w.files.get? location with
  | some (.file content) => content
  | _ => .empty

/-- All that is still to be read from something. -/
def unread (w : World) (number : Nat) : Bytes :=
  match w.openFile? number with
  | some (.pipe unread []) => unread
  | some (.pipe unread written) => unread ++ written.reverse.flatten
  | some (.file location position _) =>
    let content := w.contentAt location
    (content.extract position content.size).toList
  | none => []

/-- What can be read from a channel, as a tool sees it. -/
def inputKind (w : World) : Option Channel → InputKind
  | none => .closed
  | some .nothing => .stream
  | some (.opened number) =>
    match w.openFile? number with
    | some (.file location position _) => .file location position (w.contentAt location).size
    | _ => .stream

/-- Where a channel leads, as a tool sees it. -/
def outputKind (w : World) : Option Channel → OutputKind
  | none => .closed
  | some .nothing => .stream
  | some (.opened number) =>
    match w.openFile? number with
    | some (.file location position appends) =>
      .file location (if appends then (w.contentAt location).size else position)
    | _ => .stream

/-- Leaves only a last part to be read. -/
def leave (w : World) (number : Nat) (rest : Bytes) : World :=
  match w.openFile? number with
  | some (.pipe _ _) => w.setOpen number (.pipe rest [])
  | some (.file location _ appends) =>
    w.setOpen number (.file location ((w.contentAt location).size - rest.length) appends)
  | none => w

/-- Writes to what has been opened under a number. -/
def write (w : World) (number : Nat) (bytes : Bytes) : World :=
  match w.openFile? number with
  | some (.pipe unread written) => w.setOpen number (.pipe unread (bytes :: written))
  | some (.file location position appends) =>
    let content := w.contentAt location
    let position := if appends then content.size else position
    let content := overwritten content position bytes.toByteArray
    { w with files := w.files.put location (.file content) }.setOpen number
      (.file location (position + bytes.length) appends)
  | none => w

/-- Forgets what has been opened from a number on and no descriptor leads to. -/
def forget (w : World) (first : Nat) (descriptors : List (Nat × Channel)) : World :=
  { w with opened := w.opened.filter fun (n, _) =>
      n < first || descriptors.any fun d => d.2 == .opened n }

end World

namespace Process

/-- Where a descriptor leads. -/
def channel? (p : Process) (descriptor : Nat) : Option Channel := p.descriptors.lookup descriptor

/-- Leads a descriptor somewhere, or nowhere. -/
def lead (p : Process) (descriptor : Nat) (channel : Option Channel) : Process :=
  let others := p.descriptors.filter (·.1 ≠ descriptor)
  { p with descriptors := match channel with
    | some channel => (descriptor, channel) :: others
    | none => others }

end Process

/-- Writes to a descriptor, and tells whether it leads anywhere. -/
def writeTo (descriptor : Nat) (bytes : Bytes) : Action Bool := do
  match (← getProcess).channel? descriptor with
  | none => return false
  | some .nothing => return true
  | some (.opened number) =>
    modifyWorld (·.write number bytes)
    return true

/-- All that can be read from a descriptor. -/
def inputOf (descriptor : Nat) : Action Bytes := do
  match (← getProcess).channel? descriptor with
  | some (.opened number) => return (← get).world.unread number
  | _ => return []

/-- Leaves only a last part of the input to be read. -/
def leaveInput (descriptor : Nat) (rest : Bytes) : Action Unit := do
  match (← getProcess).channel? descriptor with
  | some (.opened number) => modifyWorld (·.leave number rest)
  | _ => return ()

/-- Leaves what a tool has not needed of its input. A pipe has lost whole blocks to it; in a file it
goes back to where it has come to. -/
def leaveUnneeded (input unread : Bytes) : Action Unit := do
  match (← getProcess).channel? 0 with
  | some (.opened number) =>
    modifyWorld fun w =>
      match w.openFile? number with
      | some (.file _ _ _) => w.leave number unread
      | _ => w.leave number (leftInPipe input unread)
  | _ => return ()

/-! ## Messages -/

/-- Says what is wrong, behind the name of the shell, the line and the command. -/
def complain (message : Bytes) : Action Unit := do
  let p ← getProcess
  let command := match p.command with
    | some name => name ++ ": "
    | none => ""
  let _ ← writeTo 2 (bytesOf (p.name ++ ": " ++ toString p.line ++ ": " ++ command) ++ message
    ++ [10])

/-- Says what is wrong and gives up. -/
def failWith {α : Type} (message : Bytes) (status : Nat := 2) : Action α := do
  complain message
  setStatus status
  throw .fails

/-- Gives up with a message. -/
def failText {α : Type} (message : String) : Action α := failWith (bytesOf message)

/-! ## Variables -/

/-- The whole number that a text is. -/
def number? (text : Bytes) : Option Int :=
  let text := (text.map fun b => Char.ofNat b.toNat).dropWhile Char.isWhitespace
  let (isNegative, digits) := match text with
    | '-' :: rest => (true, rest)
    | '+' :: rest => (false, rest)
    | rest => (false, rest)
  let body := digits.takeWhile Char.isDigit
  let n : Nat := body.foldl (fun n d => n * 10 + (d.toNat - 48)) 0
  if body.isEmpty || !(digits.drop body.length).all Char.isWhitespace then none
  else if 0x7fffffffffffffff < n then none
  else some (if isNegative then -(n : Int) else n)

/-- The natural number of at most 31 bits that a text is. -/
def count? (text : Bytes) : Option Nat :=
  match number? text with
  | some (.ofNat n) => if n ≤ 0x7fffffff then some n else none
  | _ => none

/-- Why a variable cannot be given a value. -/
inductive AssignmentFault where
  | readOnly (name : String)
  | illegalNumber (value : Bytes)
  deriving DecidableEq, Repr

/-- What is wrong, in words. -/
def AssignmentFault.message : AssignmentFault → Bytes
  | readOnly name => bytesOf (name ++ ": is read only")
  | illegalNumber value => bytesOf "Illegal number: " ++ value

namespace Process

def lookup (p : Process) (name : String) : Option Variable := p.bindings.lookup name

/-- The value of a variable. -/
def value? (p : Process) (name : String) : Option Bytes := (p.lookup name).bind (·.value)

/-- Puts a variable in place of an earlier one, or takes it away. -/
def putVariable (p : Process) (name : String) (v : Option Variable) : Process :=
  let others := p.bindings.filter (·.1 ≠ name)
  { p with bindings := match v with
    | some v => (name, v) :: others
    | none => others }

/-- Sets the number of the argument that options are looked for in next. -/
def withOptionIndex (p : Process) (value : Bytes) : Except AssignmentFault Process :=
  match count? value with
  | some n => .ok { p with optionIndex := max n 1, optionOffset := 0 }
  | none => .error (.illegalNumber value)

/-- Begins to look for options in the first argument. -/
def resetOptions (p : Process) : Process := { p with optionIndex := 1, optionOffset := 0 }

/-- The variable that says where options are looked for next. -/
def optionVariable : String := "OPTIND"

/-- Gives a variable a value, unless it cannot be written. -/
def assign (p : Process) (name : String) (value : Bytes) : Except AssignmentFault Process := do
  let v := (p.lookup name).getD {}
  if v.isReadOnly then throw (.readOnly name)
  let p ← if name = optionVariable then p.withOptionIndex value else pure p
  let v := { v with value := some value, isExported := v.isExported || p.options.contains 'a' }
  return p.putVariable name (some v)

/-- Gives a variable back what it was before. -/
def restoreVariable (p : Process) (name : String) (v : Option Variable) : Process :=
  let p :=
    if name = optionVariable then
      ((p.withOptionIndex ((v.bind (·.value)).getD [])).toOption).getD p
    else p
  p.putVariable name v

/-- The characters between which values are split into fields. -/
def separators (p : Process) : Bytes :=
  match p.lookup "IFS" with
  | some { value := some value, .. } => value
  | _ => [32, 9, 10]

end Process

/-- Gives a variable a value. -/
def assign (name : String) (value : Bytes) : Action Unit := do
  match (← getProcess).assign name value with
  | .ok p => modifyProcess fun _ => p
  | .error fault => failWith fault.message

def textOf (bytes : Bytes) : String := Text.decodeLossy bytes.toByteArray

/-- The count that an argument is. -/
def requiredCount (argument : Bytes) : Action Nat := do
  match count? argument with
  | some n => return n
  | none => failWith (bytesOf "Illegal number: " ++ argument)

end Typings.Tools.Shell

import Typings.Tools.Shell.Process

/-! # Redirections

Files and pipes are opened, and descriptors are led to them, for as long as a command runs.
-/

namespace Typings.Tools.Shell

open Files

/-- The descriptor that a device stands for. -/
def deviceDescriptor? : Location → Option Nat
  | ["dev", "stdin"] => some 0
  | ["dev", "stdout"] => some 1
  | ["dev", "stderr"] => some 2
  | ["dev", "fd", n] | ["proc", "self", "fd", n] => n.toNat?
  | _ => none

/-- What is said of a file that cannot be opened. -/
def openingMessage (opening : Opening) (path : String) (e : FileError) : String :=
  let creates := opening != .read
  let cause := match e with
    | .notFound | .notDirectory => if creates then "Directory nonexistent" else "No such file"
    | e => e.cause
  (if creates then "cannot create " else "cannot open ") ++ path ++ ": " ++ cause

def openAt (opening : Opening) (keepsFiles : Bool) (files : Store) (path : String) :
    Except FileError (Store × OpenFile) := do
  let location ← files.locate path
  let existing := files.get? location
  if opening = .read then
    match existing with
    | none => throw .notFound
    | some _ => return (files, .file location 0 false)
  else
    match existing with
    | some .directory => throw .isDirectory
    | some (.file _) =>
      if opening = .write && keepsFiles then throw .alreadyExists
      else if opening = .append || opening = .readWrite then
        return (files, .file location 0 (opening == .append))
      else return (← files.write path .empty, .file location 0 false)
    | none => return (← files.write path .empty, .file location 0 (opening == .append))

/-- Opens a file by its name. -/
def openPath (opening : Opening) (name : Bytes) : Action Channel := do
  let s ← get
  let path := textOf name
  let full := if path.isEmpty then "" else join s.process.directory path
  let fail {α : Type} (e : FileError) : Action α := failText (openingMessage opening path e)
  match s.world.files.locate full with
  | .error e => fail e
  | .ok location =>
    if location = ["dev", "null"] then return .nothing
    match deviceDescriptor? location with
    | some descriptor =>
      match s.process.channel? descriptor with
      | some channel => return channel
      | none => fail .notFound
    | none =>
      match openAt opening (s.process.options.contains 'C') s.world.files full with
      | .error e => fail e
      | .ok (files, file) =>
        let (world, number) := { s.world with files }.add file
        modifyWorld fun _ => world
        return .opened number

/-- Opens a new pipe. -/
def openPipe (content : Bytes) : Action Nat := do
  let (world, number) := (← get).world.add (.pipe content [])
  modifyWorld fun _ => world
  return number

/-- Leads descriptors back to where they led before. -/
def restoreDescriptors (saved : List (Nat × Option Channel)) (firstOpened : Nat) : Action Unit := do
  for (descriptor, channel) in saved do modifyProcess (·.lead descriptor channel)
  let p ← getProcess
  modifyWorld (·.forget firstOpened p.descriptors)

/-- Where a descriptor is to lead. -/
inductive DestinationPlace where
  | file (opening : Opening) (path : Bytes)
  | text (content : Bytes)
  | descriptor (number : Nat)
  | nowhere

/-- A descriptor, with the place where it is to lead. -/
abbrev Destination : Type := Nat × DestinationPlace

/-- Leads a descriptor elsewhere. -/
def redirectTo (d : Destination) : Action Unit := do
  let channel ← match d.2 with
    | .file opening path => some <$> openPath opening path
    | .text content => (some ∘ Channel.opened) <$> openPipe content
    | .nowhere => pure none
    | .descriptor number =>
      match (← getProcess).channel? number with
      | some channel => pure (some channel)
      | none =>
        modifyProcess (·.lead d.1 none)
        failText (toString number ++ ": Bad file descriptor")
  modifyProcess (·.lead d.1 channel)

/-- Leads descriptors elsewhere in order, and tells whether that has worked. -/
def redirectAll (destinations : List Destination) : Action Bool := do
  match ← (destinations.forM redirectTo).result with
  | .ok () => return true
  | .error .fails => return false
  | .error jump => throw jump

/-- Runs an action, and leads descriptors back to where they led before it. -/
def keepingDescriptors {α : Type} (descriptors : List Nat) (x : Action α) : Action α := do
  let s ← get
  let saved := descriptors.map fun d => (d, s.process.channel? d)
  if descriptors.isEmpty then x
  else x.ensuring (restoreDescriptors saved s.world.nextOpened)

end Typings.Tools.Shell

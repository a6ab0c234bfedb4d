import Typings.Files.Path

/-! # File stores

The state of a file system as a value: directories and files by their location, and the operations
that read and change it. Looking up a path goes through its parts one by one, so that every part
but the last has to be a directory.
-/

namespace Typings.Files

/-- The names on the way from the root to a file or directory. -/
abbrev Location : Type := List String

/-- What there is at a location. -/
inductive Entry where
  | file (content : ByteArray)
  | directory

/-- Two files are equal when their bytes are. -/
instance : DecidableEq Entry
  | .directory, .directory => isTrue rfl
  | .file a, .file b =>
    if h : a.data = b.data then isTrue (congrArg Entry.file (ByteArray.ext h))
    else isFalse fun e => h (congrArg ByteArray.data (Entry.file.inj e))
  | .file _, .directory => isFalse Entry.noConfusion
  | .directory, .file _ => isFalse Entry.noConfusion

/-- Files and directories by location. The root is a directory and needs no entry. -/
structure Store where
  entries : List (Location × Entry) := []

/-- Why an operation on files fails. -/
inductive FileError where
  | notFound
  | alreadyExists
  | notDirectory
  | isDirectory
  /-- A name in the path, or the path as a whole, has too many bytes. -/
  | nameTooLong
  | notText
  /-- The path holds a null character. -/
  | nullInPath
  deriving DecidableEq, Repr

namespace FileError

/-- What is wrong, in words. -/
def cause : FileError → String
  | notFound => "No such file or directory"
  | alreadyExists => "File exists"
  | notDirectory => "Not a directory"
  | isDirectory => "Is a directory"
  | nameTooLong => "File name too long"
  | notText => "stream did not contain valid UTF-8"
  | nullInPath => "file name contained an unexpected NUL byte"

/-- The number of an error that the system reports. -/
def number? : FileError → Option Nat
  | notFound => some 2
  | alreadyExists => some 17
  | notDirectory => some 20
  | isDirectory => some 21
  | nameTooLong => some 36
  | notText | nullInPath => none

def message (e : FileError) : String :=
  match e.number? with
  | some n => e.cause ++ " (os error " ++ toString n ++ ")"
  | none => e.cause

end FileError

/-- The most bytes that a name can have. -/
def longestName : Nat := 255

/-- The most bytes that a path can have. -/
def longestPath : Nat := 4095

/-- What is wrong with a path before anything is looked up. -/
def checkPath (path : String) : Except FileError Unit :=
  if path.isEmpty then .error .notFound
  else if path.toList.contains '\x00' then .error .nullInPath
  else if longestPath < path.utf8ByteSize then .error .nameTooLong
  else .ok ()

namespace Store

def get? (s : Store) (location : Location) : Option Entry :=
  if location.isEmpty then some .directory else s.entries.lookup location

def put (s : Store) (location : Location) (entry : Entry) : Store :=
  ⟨(location, entry) :: s.entries.filter (·.1 ≠ location)⟩

/-- The location that the parts of a path lead to from a directory. -/
def walk (s : Store) (location : Location) : List String → Except FileError Location
  | [] => .ok location
  | segment :: rest =>
    match s.get? location with
    | none => .error .notFound
    | some (.file _) => .error .notDirectory
    | some .directory =>
      if segment = "" ∨ segment = "." then walk s location rest
      else if segment = ".." then walk s location.dropLast rest
      else if longestName < segment.utf8ByteSize then .error .nameTooLong
      else walk s (location ++ [segment]) rest

/-- The location of a path. A path that is not absolute starts at the root as well. -/
def locate (s : Store) (path : String) : Except FileError Location := do
  checkPath path
  s.walk [] (segments path)

/-- There is something at the path. -/
def pathExists (s : Store) (path : String) : Bool :=
  match s.locate path with
  | .ok location => (s.get? location).isSome
  | .error _ => false

def isDirectory (s : Store) (path : String) : Bool :=
  match s.locate path with
  | .ok location => s.get? location == some .directory
  | .error _ => false

def readBytes (s : Store) (path : String) : Except FileError ByteArray := do
  match s.get? (← s.locate path) with
  | none => .error .notFound
  | some .directory => .error .isDirectory
  | some (.file content) => .ok content

def readText (s : Store) (path : String) : Except FileError String := do
  match String.fromUTF8? (← s.readBytes path) with
  | none => .error .notText
  | some text => .ok text

/-- The path without the slashes at its end, and whether there were any. -/
def withoutFinalSlashes (path : String) : String × Bool :=
  let stem := (path.toList.reverse.dropWhile (· == '/')).reverse
  (String.ofList stem, endsWithSlash path)

/-- There is a directory at a location, for something to be put into it. -/
def requireDirectory (s : Store) (location : Location) : Except FileError Unit :=
  match s.get? location with
  | some .directory => .ok ()
  | some (.file _) => .error .notDirectory
  | none => .error .notFound

/-- Writes the file at a path, in place of an earlier one. A slash at the end of the path marks a
directory, whatever there is by that name. -/
def write (s : Store) (path : String) (content : ByteArray) : Except FileError Store := do
  checkPath path
  let (stem, marksDirectory) := withoutFinalSlashes path
  if marksDirectory then
    s.requireDirectory (← s.walk [] (segments stem).dropLast)
    .error .isDirectory
  else
    let location ← s.walk [] (segments stem)
    match s.get? location with
    | some .directory => .error .isDirectory
    | some (.file _) => return s.put location (.file content)
    | none =>
      s.requireDirectory location.dropLast
      return s.put location (.file content)

/-- Makes the directory at a path, inside one that exists. -/
def makeDirectory (s : Store) (path : String) : Except FileError Store := do
  checkPath path
  let location ← s.walk [] (segments (withoutFinalSlashes path).1)
  match s.get? location with
  | some _ => .error .alreadyExists
  | none =>
    s.requireDirectory location.dropLast
    return s.put location .directory

/-- What becomes of a failed attempt to make a directory: nothing needs to be done where there is
one already. -/
def acceptDirectory (s : Store) (path : String) (error : FileError) :
    Store × Except FileError Unit :=
  if s.isDirectory path then (s, .ok ()) else (s, .error error)

/-- Makes the directory at a path together with all of its parents, at most `limit` of them. The
store is the one after the attempt, be it successful or not. -/
def makeDirectoriesWithin : Nat → Store → String → Store × Except FileError Unit
  | 0, s, _ => (s, .error .notFound)
  | limit + 1, s, path =>
    if path.isEmpty then (s, .ok ())
    else
      match s.makeDirectory path with
      | .ok made => (made, .ok ())
      | .error .notFound =>
        match parent? path with
        | none => (s, .error .notFound)
        | some parent =>
          match makeDirectoriesWithin limit s parent with
          | (s, .error error) => (s, .error error)
          | (s, .ok ()) =>
            match s.makeDirectory path with
            | .ok made => (made, .ok ())
            | .error error => s.acceptDirectory path error
      | .error error => s.acceptDirectory path error

/-- Makes the directory at a path together with all of its parents. -/
def makeDirectories (s : Store) (path : String) : Store × Except FileError Unit :=
  makeDirectoriesWithin (path.length + 1) s path

end Store

end Typings.Files

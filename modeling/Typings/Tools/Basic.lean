import Typings.Files.Store
import Typings.Formatter

/-! # Tools

Small text tools that can serve as formatters. A tool is a function of its arguments and of what is
around it: the files there are, the directory it runs in, and its input. It tells how much of the
input it has left unread, because whoever feeds it is left with what does not fit the pipe between
them.
-/

namespace Typings.Tools

open Files

/-- Text as a tool sees it. -/
abbrev Bytes : Type := List UInt8

/-- The bytes of a text. -/
def bytesOf (s : String) : Bytes := s.toUTF8.toList

inductive InputKind where
  /-- Something like a pipe, with a size that is not known beforehand. -/
  | stream
  /-- A file of a size, from a position on. -/
  | file (location : Location) (position size : Nat)
  /-- Nothing that can be read. -/
  | closed
  deriving DecidableEq, Repr

/-- Where the output of a tool goes. -/
inductive OutputKind where
  | stream
  /-- A file, from a position on. -/
  | file (location : Location) (position : Nat)
  /-- Nowhere. -/
  | closed
  deriving DecidableEq, Repr

/-- What is around a tool that runs. -/
structure Surroundings where
  /-- The name by which the tool has been called. -/
  program : String
  files : Store
  directory : String
  input : Bytes
  inputKind : InputKind := .stream
  outputKind : OutputKind := .stream

/-- Something that a tool writes: to its output, or to say what is wrong. -/
inductive Written where
  | output (text : Bytes)
  | message (text : Bytes)

/-- Something is wrong. -/
def Written.isMessage : Written → Bool
  | output _ => false
  | message _ => true

/-- What a tool has done. -/
structure Report where
  code : Nat := 0
  /-- What it has written, in order. -/
  written : List Written := []
  /-- The part of the input that has not been needed. -/
  unread : Bytes := []
  /-- The files as the tool leaves them, if it may have changed any. -/
  files : Option Store := none

/-- A tool by what it does with its arguments. -/
abbrev Tool : Type := List String → Surroundings → Report

namespace Report

/-- All that goes to the output. -/
def output (r : Report) : Bytes :=
  r.written.flatMap fun
    | .output text => text
    | .message _ => []

/-- All that says what is wrong. -/
def messages (r : Report) : Bytes :=
  r.written.flatMap fun
    | .output _ => []
    | .message text => text

end Report

namespace Surroundings

/-- A line that says what is wrong, behind the name of the tool. -/
def messageLine (s : Surroundings) (text : Bytes) : Bytes :=
  bytesOf (s.program ++ ": ") ++ text ++ [10]

/-- A tool that gives up with messages and without reading its input. -/
def failure (s : Surroundings) (code : Nat) (messages : Bytes) : Report :=
  { code, written := [.message messages], unread := s.input }

/-- The report of a tool whose output leads nowhere, which is noticed at its end. -/
def withoutOutput (s : Surroundings) (r : Report) (code : Nat) (what : String) : Report :=
  { r with
    code
    written := [.message (r.messages ++ s.messageLine (bytesOf (what ++ ": Bad file descriptor")))] }

/-- The report of a tool that fails if there is something to write and the output leads nowhere. -/
def checkOutput (s : Surroundings) (r : Report) : Report :=
  if s.outputKind == .closed && !r.output.isEmpty then s.withoutOutput r 1 "write error" else r

end Surroundings

/-- Why a tool cannot read something. -/
inductive ReadError where
  | file (e : FileError)
  /-- There is no input. -/
  | closed
  deriving DecidableEq, Repr

/-- What is wrong, in words. -/
def ReadError.cause : ReadError → String
  | file e => e.cause
  | closed => "Bad file descriptor"

def Surroundings.read (s : Surroundings) (path : String) : Except FileError Bytes :=
  if path.isEmpty then .error .notFound
  else (s.files.readBytes (join s.directory path)).map (·.toList)

/-- The path that stands for the input of a tool. -/
def inputPath : String := "/dev/stdin"

/-- The contents of some files in order, where a hyphen stands for the input. The input is read
once; where it is named again, it has come to its end. -/
def Surroundings.readAll (s : Surroundings) : List String → List (String × Except ReadError Bytes)
  | [] => []
  | path :: rest =>
    let isClosed := s.inputKind == .closed
    if path = "-" ∨ path = inputPath then
      let content := if !isClosed then .ok s.input
        else .error (if path = "-" then .closed else .file .notFound)
      (path, content) :: { s with input := [] }.readAll rest
    else (path, (s.read path).mapError .file) :: s.readAll rest

def namesInput (paths : List String) : Bool := paths.any fun p => p = "-" || p = inputPath

/-- The number of bytes that a pipe holds. -/
def pipeCapacity : Nat := 65536

/-- The number of bytes that are read from a pipe at once. -/
def blockSize : Nat := 4096

/-- What is left of a pipe when a part of it has not been needed. -/
def leftInPipe (input unread : Bytes) : Bytes :=
  let needed := input.length - unread.length
  input.drop ((needed + blockSize - 1) / blockSize * blockSize)

/-- The outcome of a command that has come to an end. -/
def outcomeOf (status : ExitStatus) (output errors unread : Bytes) : Outcome where
  status := status
  output := output.toByteArray
  errors := errors.toByteArray
  inputRefused := decide (pipeCapacity < unread.length)

/-- The outcome of a tool that had some input. -/
def Report.outcome (r : Report) (input : Bytes) : Outcome :=
  outcomeOf (.code r.code) r.output r.messages (leftInPipe input r.unread)

/-- Cuts bytes into lines at a byte that ends each of them. `line` and `before` are the line so far
and the lines before it, both from their ends. -/
def cutLines (ending : UInt8) (line : Bytes) (before : List Bytes) : Bytes → List Bytes × Bool
  | [] => if line.isEmpty then (before.reverse, true) else ((line.reverse :: before).reverse, false)
  | b :: rest =>
    if b = ending then cutLines ending [] (line.reverse :: before) rest
    else cutLines ending (b :: line) before rest

/-- The lines of some bytes without their line feeds, and whether the last one has a line feed. -/
def byteLines (bytes : Bytes) : List Bytes × Bool := cutLines 10 [] [] bytes

end Typings.Tools

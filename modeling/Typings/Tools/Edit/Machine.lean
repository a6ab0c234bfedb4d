import Typings.Tools.Edit.Script

/-! # The machine that edits

A machine holds all that the commands of a script can see and change: two texts, the files that
lines come from, the places that text goes to. Here is how it takes in lines and writes; files are
opened one after the other as lines are asked for.
-/

namespace Typings.Tools.Edit

open Files

/-- A line of a file. Only the last one can lack its ending. -/
structure InputLine where
  text : Bytes
  ended : Bool := true

def inputLines (ending : UInt8) (bytes : Bytes) : List InputLine :=
  let (lines, ended) := cutLines ending [] [] bytes
  lines.dropLast.map ({ text := · }) ++ (lines.getLast?.map ({ text := ·, ended })).toList

/-- The bytes of a line, its ending among them. -/
def InputLine.bytes (ending : UInt8) (line : InputLine) : Bytes :=
  if line.ended then line.text ++ [ending] else line.text

/-- Text in pieces, last piece first, with the knowledge whether the line that it is from has an
ending. Text that grows by lines is not put together before it is looked at. -/
structure Space where
  pieces : List Bytes := []
  ended : Bool := true

namespace Space

/-- A text in one piece. -/
def of (text : Bytes) (ended : Bool) : Space := { pieces := [text], ended }

/-- The text that the pieces make up. -/
def text (s : Space) : Bytes :=
  match s.pieces with
  | [] => []
  | last :: before => before.foldl (fun rest piece => piece ++ rest) last

/-- The space with another text. -/
def withText (s : Space) (text : Bytes) : Space := { s with pieces := [text] }

/-- Adds a line, which decides whether there is an ending. -/
def add (s : Space) (ending : UInt8) (line : Space) : Space :=
  { pieces := (ending :: line.text) :: s.pieces, ended := line.ended }

end Space

/-- A place that text is written to, piece by piece, last piece first. A line without an ending gets
one if something follows it. -/
structure Stream where
  pieces : List Bytes := []
  lacksEnding : Bool := false

namespace Stream

/-- The ending that a line still lacks. -/
def settle (s : Stream) (ending : UInt8) : Stream :=
  if s.lacksEnding then { pieces := [ending] :: s.pieces } else s

def write (s : Stream) (ending : UInt8) (text : Bytes) : Stream :=
  let s := s.settle ending
  { s with pieces := text :: s.pieces }

/-- Writes a line, with an ending if it has one. -/
def writeLine (s : Stream) (ending : UInt8) (line : Space) : Stream :=
  let s := s.write ending (if line.ended then line.text ++ [ending] else line.text)
  { s with lacksEnding := !line.ended }

/-- All that has been written. -/
def bytes (s : Stream) : Bytes := s.pieces.reverse.flatten

end Stream

/-- Where a command with a range of lines stands. -/
inductive RangeState where
  | waiting
  /-- Lines are selected; the number is that of the last one if it is known. -/
  | active (stop : Option Nat)
  | closed
  deriving DecidableEq, Repr

/-- A range from line 0 on has begun before the first line. -/
def firstRangeState (c : Command) : RangeState :=
  match c.selection.first, c.selection.stop with
  | some (.line 0), some _ => .active none
  | _, _ => .waiting

/-- What is to be written at the end of a cycle. -/
inductive Queued where
  | text (bytes : Bytes)
  /-- What the file holds by then. -/
  | file (name : Bytes)

/-- How a script is run. -/
structure Mode where
  /-- The name of the tool. -/
  program : String
  /-- The directory that names of files start from. -/
  directory : String
  /-- There is no input. -/
  inputClosed : Bool
  quiet : Bool := false
  /-- Every file is a text of its own. -/
  separate : Bool := false
  /-- What becomes of a file takes its place. The text is the name that the file is kept under as
  it was, an asterisk standing for its own name. -/
  inPlace : Option String := none
  /-- The byte that ends lines. -/
  ending : UInt8 := 10
  /-- The width of plain print-outs. -/
  width : Nat := 70
  /-- Where ranges stand before the first line. -/
  firstRanges : Array RangeState

/-- All that commands can see and change. -/
structure Machine where
  /-- The number of the next command. -/
  next : Nat := 0
  pattern : Space := {}
  hold : Space := {}
  number : Nat := 0
  /-- The name of the file that lines are taken from. -/
  source : String := "-"
  /-- The lines that are left of it. -/
  lines : List InputLine := []
  /-- The lines are those of the input. -/
  readsInput : Bool := false
  /-- What is left of the input, unless lines are taken from it. -/
  input : Bytes
  /-- The names of the files that are still to be opened. -/
  waiting : List String
  files : Store
  /-- Some file could not be opened. -/
  missesFile : Bool := false
  /-- A substitution has taken place since the line was read or a jump was taken. -/
  replaced : Bool := false
  lastPattern : Option Matcher := none
  ranges : Array RangeState
  /-- What is to be written at the end of the cycle, last one first. -/
  queue : List Queued := []
  output : Stream := {}
  /-- What the file that is edited in place is to become. -/
  edited : Option Stream := none
  errors : Stream := {}
  /-- The last line that was written to the output as to a file lacks its ending. -/
  copyLacksEnding : Bool := false
  /-- Files that are written to. -/
  writers : List (Bytes × Stream) := []
  /-- Lines of files that are read line by line. -/
  readers : List (Bytes × List InputLine) := []
  /-- The code that the run has ended with. -/
  ended : Option Nat := none
  /-- The run has been given up. -/
  stopped : Bool := false
  /-- A pattern was asked for again before any was used. -/
  lacksPattern : Bool := false

/-- The path of a name in a directory. Names that are no text are those of no file. -/
def pathOf? (directory : String) (name : Bytes) : Option String :=
  (String.fromUTF8? name.toByteArray).map (join directory)

/-- The files with one that holds some bytes. If it cannot be written, nothing changes. -/
def withFile (files : Store) (path : String) (bytes : Bytes) : Store :=
  (files.write path bytes.toByteArray).toOption.getD files

namespace Machine

/-! ## Files -/

/-- The files as they are now, with all that has been written to them. -/
def currentFiles (m : Machine) (mode : Mode) : Store :=
  m.writers.reverse.foldl (fun files (name, stream) =>
    match pathOf? mode.directory name with
    | some path => withFile files path stream.bytes
    | none => files) m.files

/-- The bytes of a file that a command names. -/
def contentOf (m : Machine) (mode : Mode) (name : Bytes) : Option Bytes :=
  (pathOf? mode.directory name).bind fun path =>
    (((m.currentFiles mode).readBytes path).toOption).map (·.toList)

/-- Says what is wrong. -/
def complain (m : Machine) (mode : Mode) (message : String) : Machine :=
  let text := bytesOf (mode.program ++ ": " ++ message ++ "\n")
  { m with errors := { m.errors with pieces := text :: m.errors.pieces } }

/-- Ends the run at once. What a file was to become is lost. -/
def stop (m : Machine) (code : Nat) : Machine :=
  { m with ended := some code, stopped := true, edited := none }

/-- Gives the run up with a message. -/
def giveUp (m : Machine) (mode : Mode) (message : String) : Machine :=
  (m.complain mode message).stop 4

/-- The name that a file is kept under as it was. -/
def keptName (plan name : String) : String :=
  String.join (plan.toList.map fun c => if c = '*' then name else c.toString)

/-- Keeps a file as it was, if that is wanted. -/
def keepFile (m : Machine) (mode : Mode) (plan : String) : Machine :=
  let path := join mode.directory m.source
  if plan = "*" then m
  else
    match (m.files.readBytes path).bind
        (m.files.write (join mode.directory (keptName plan m.source))) with
    | .ok files => { m with files }
    | .error e => m.giveUp mode ("cannot rename " ++ m.source ++ ": " ++ e.cause)

/-- Puts what has become of a file that is edited in place where the file was. -/
def finishEdit (m : Machine) (mode : Mode) : Machine :=
  match mode.inPlace, m.edited with
  | some plan, some edited =>
    let m := m.keepFile mode plan
    if m.ended.isSome then m
    else
      { m with
        files := withFile m.files (join mode.directory m.source) edited.bytes
        edited := none }
  | _, _ => m

/-- Comes to the end of a file. -/
def closeFile (m : Machine) (mode : Mode) : Machine :=
  { m.finishEdit mode with lines := [], readsInput := false }

/-- Forgets what a text of its own does not share with the one before. -/
def beginText (m : Machine) (mode : Mode) : Machine :=
  if mode.separate then
    { m with number := 0, hold := {}, ranges := mode.firstRanges, readers := [] }
  else m

/-- The path leads to a device. -/
def isDevice (mode : Mode) (name : String) : Bool :=
  (segments (join mode.directory name)).filter (!·.isEmpty) |>.head? |>.any (· = "dev")

/-- Takes lines from the input. -/
def openInput (m : Machine) (mode : Mode) (asksForLine : Bool) : Machine :=
  if !mode.inputClosed then
    { m with lines := inputLines mode.ending m.input, input := [], readsInput := true }
  else if asksForLine then m.giveUp mode "read error on stdin: Bad file descriptor"
  else m

/-- Takes lines from a file, or does nothing but say why that cannot be done. -/
def openPath (m : Machine) (mode : Mode) (asksForLine : Bool) (name : String) : Machine :=
  let notRegular := "couldn't edit " ++ name ++ ": not a regular file"
  let content :=
    if name.isEmpty ∨ name = inputPath then .error .notFound
    else (m.currentFiles mode).readBytes (join mode.directory name)
  match content with
  | .ok content =>
    if mode.inPlace.isSome && isDevice mode name then m.giveUp mode notRegular
    else
      { m with
        lines := inputLines mode.ending content.toList
        edited := mode.inPlace.map fun _ => {} }
  | .error .isDirectory =>
    if mode.inPlace.isSome then m.giveUp mode notRegular
    else if asksForLine then m.giveUp mode ("read error on " ++ name ++ ": Is a directory")
    else m
  | .error e =>
    { m.complain mode ("can't read " ++ name ++ ": " ++ e.cause) with missesFile := true }

/-- Opens a file. One that is edited in place has to be an ordinary one. What cannot be read can be
opened, but as soon as a line of it is asked for the run is given up. -/
def openFile (m : Machine) (mode : Mode) (asksForLine : Bool) (name : String) : Machine :=
  let m := { m.beginText mode with source := name }
  if name = "-" && mode.inPlace.isNone then m.openInput mode asksForLine
  else if name = inputPath && !mode.inputClosed then
    if mode.inPlace.isSome then
      m.giveUp mode ("couldn't edit " ++ name ++ ": not a regular file")
    else m.openInput mode asksForLine
  else m.openPath mode asksForLine name

/-- Opens files until one of them has a line. -/
def openFiles (mode : Mode) (asksForLine : Bool) : List String → Machine → Machine
  | [], m => { m.closeFile mode with waiting := [] }
  | name :: rest, m =>
    let m := { m.closeFile mode with waiting := rest }
    let m := if m.ended.isSome then m else m.openFile mode asksForLine name
    if m.ended.isSome || !m.lines.isEmpty then m else openFiles mode asksForLine rest m

/-- The line is the last one of its text. To find out, files are opened that may have further
lines. -/
def isLast (m : Machine) (mode : Mode) : Bool × Machine :=
  if !m.lines.isEmpty then (false, m)
  else if mode.separate then (true, m)
  else
    let m := openFiles mode false m.waiting m
    (m.lines.isEmpty, m)

/-! ## Output -/

/-- Writes to the output, or to the file that is edited in place. -/
def writeWith (m : Machine) (f : Stream → Stream) : Machine :=
  match m.edited with
  | some edited => { m with edited := some (f edited) }
  | none => { m with output := f m.output }

/-- Writes a text to the output. -/
def write (m : Machine) (mode : Mode) (text : Bytes) : Machine :=
  m.writeWith (·.write mode.ending text)

/-- Writes a line to the output. -/
def writeLine (m : Machine) (mode : Mode) (line : Space) : Machine :=
  m.writeWith (·.writeLine mode.ending line)

/-- Writes a text that stands for itself, as a line. -/
def insert (m : Machine) (mode : Mode) (text : Bytes) : Machine :=
  m.write mode (if text.getLast? == some 10 then text.dropLast ++ [mode.ending] else text)

/-- Writes a line to a file. The output has an account of its own of lines without an ending. -/
def writeTo (m : Machine) (mode : Mode) (line : Space) : Target → Machine
  | .file name =>
    let stream := (m.writers.lookup name).getD {}
    { m with
      writers := (name, stream.writeLine mode.ending line) :: m.writers.filter (·.1 != name) }
  | .errors => { m with errors := m.errors.writeLine mode.ending line }
  | .output =>
    let copy : Stream := { pieces := m.output.pieces, lacksEnding := m.copyLacksEnding }
    let copy := copy.writeLine mode.ending line
    { m with
      output := { m.output with pieces := copy.pieces }
      copyLacksEnding := copy.lacksEnding }

/-- Writes what commands have left for the end of the cycle. -/
def flush (m : Machine) (mode : Mode) : Machine :=
  let writeQueued (m : Machine) (queued : Queued) : Machine :=
    m.write mode (match queued with
      | .text bytes => bytes
      | .file name => (m.contentOf mode name).getD [])
  { m.queue.reverse.foldl writeQueued m with queue := [] }

/-! ## Input -/

/-- Takes in the next line, in place of the text or behind it. Without one the run has ended. -/
def takeLine (m : Machine) (mode : Mode) (appends : Bool) : Machine :=
  let m := m.flush mode
  let m := if m.lines.isEmpty then openFiles mode true m.waiting m else m
  match m.lines with
  | [] => { m with ended := some (m.ended.getD 0) }
  | line :: rest =>
    let taken := Space.of line.text line.ended
    { m with
      pattern := if appends then m.pattern.add mode.ending taken else taken
      number := m.number + 1
      lines := rest
      replaced := false }

/-- The next line of a file that is read line by line. -/
def queueLine (m : Machine) (mode : Mode) (name : Bytes) : Machine :=
  let lines := match m.readers.lookup name with
    | some lines => lines
    | none => inputLines mode.ending ((m.contentOf mode name).getD [])
  match lines with
  | [] => m
  | line :: rest =>
    { m with
      queue := .text (line.bytes mode.ending) :: m.queue
      readers := (name, rest) :: m.readers.filter (·.1 != name) }

end Machine

end Typings.Tools.Edit

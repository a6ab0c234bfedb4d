import Typings.Tools.Concatenate

/-! # Counting

The tool `wc`: counts the lines, words and bytes of its files or of its input.
-/

namespace Typings.Tools.Count

open Files

inductive Quantity where
  | lines
  | words
  | chars
  | bytes
  | longestLine
  deriving DecidableEq

/-- The quantities in the order in which they are written. -/
def Quantity.all : List Quantity := [lines, words, chars, bytes, longestLine]

def options : List (ToolOption Quantity) :=
  [{ letter := some 'c', name := some "bytes", meaning := .bytes },
    { letter := some 'm', name := some "chars", meaning := .chars },
    { letter := some 'l', name := some "lines", meaning := .lines },
    { letter := some 'w', name := some "words", meaning := .words },
    { letter := some 'L', name := some "max-line-length", meaning := .longestLine }]

/-- The widest line, where a line ends at a line feed, a carriage return or a form feed, and a tab
goes to the next multiple of eight. -/
def widest (column best : Nat) : Bytes → Nat
  | [] => max column best
  | b :: rest =>
    if b = 10 ∨ b = 13 ∨ b = 12 then widest 0 (max column best) rest
    else if b = 9 then widest (column + 8 - column % 8) best rest
    else if ByteClass.print.contains b then widest (column + 1) best rest
    else widest column best rest

/-- A word has at least one visible character; a character is a byte. -/
def Quantity.count (text : Bytes) : Quantity → Nat
  | lines => text.count 10
  | words =>
    ((text.splitOnP ByteClass.space.contains).filter (·.any ByteClass.graph.contains)).length
  | chars => text.length
  | bytes => text.length
  | longestLine => widest 0 0 text

/-- The quantity of all files together. -/
def Quantity.total (counts : List Nat) : Quantity → Nat
  | longestLine => counts.foldl max 0
  | _ => counts.foldl (· + ·) 0

/-- A row of numbers, each at the end of a column of a width. -/
def row (width : Nat) (counts : List Nat) : Bytes :=
  [32].intercalate (counts.map (Concatenate.padded width))

/-- How large something is before it is read, if it is there. -/
inductive Size where
  | known (bytes : Nat)
  | unknown
  | missing
  deriving DecidableEq, Repr

/-- How large the input is. -/
def inputSize (s : Surroundings) : Size :=
  match s.inputKind with
  | .stream => .unknown
  | .file _ _ size => .known size
  | .closed => .missing

/-- How large the file at a path is. -/
def sizeOf (s : Surroundings) (path : String) : Size :=
  if namesInput [path] then inputSize s
  else
    match s.read path with
    | .ok bytes => if path = "/dev/null" then .unknown else .known bytes.length
    | .error .isDirectory => .unknown
    | .error _ => .missing

/-- The width of columns: wide enough for the size of all files, and at least seven if there is
something whose size is not known. A single number takes what it needs. -/
def columnWidth (sizes : List Size) (columns : Nat) : Nat :=
  if sizes.length = 1 ∧ columns = 1 then 1
  else
    let total := sizes.foldl (fun n size =>
      match size with
      | .known bytes => n + bytes
      | _ => n) 0
    max (if sizes.contains .unknown then 7 else 1) (toString total).length

/-- The name of a file behind its counts, on a line of its own. -/
def shownName (name : String) : Bytes :=
  let bytes := bytesOf name
  if bytes.contains 10 then Quoting.shell bytes else bytes

/-- What is said of a file that cannot be read. -/
def complaint (s : Surroundings) (name : String) (e : ReadError) : Written :=
  .message (s.messageLine
    (if name.isEmpty then bytesOf "invalid zero-length file name"
    else Quoting.shell (bytesOf name) ++ bytesOf (": " ++ e.cause)))

/-- What is written about a file: its row, unless it is not there, behind what is wrong with it. -/
def fileReport (s : Surroundings) (rowOf : String → Bytes → Bytes) (name : String) :
    Except ReadError Bytes → List Written
  | .ok text => [.output (rowOf name text)]
  | .error e =>
    if e = .closed ∨ e = .file .isDirectory then [complaint s name e, .output (rowOf name [])]
    else [complaint s name e]

/-- Counts what is in the input alone. -/
def countInput (s : Surroundings) (quantities : List Quantity) : Report :=
  let width := columnWidth [inputSize s] quantities.length
  let shown := .output (row width (quantities.map (·.count s.input)) ++ [10])
  if s.inputKind == .closed then
    { code := 1
      written := [complaint s "standard input" .closed, shown, complaint s "-" .closed] }
  else { written := [shown] }

def countFiles (s : Surroundings) (quantities : List Quantity) (paths : List String) : Report :=
  let width := columnWidth (paths.map (sizeOf s)) quantities.length
  let files := s.readAll paths
  let line (name : String) (counts : List Nat) : Bytes :=
    row width counts ++ 32 :: shownName name ++ [10]
  let rows := files.flatMap fun (name, content) =>
    fileReport s (fun name text => line name (quantities.map (·.count text))) name content
  let texts := files.filterMap fun (_, content) => content.toOption
  let totals := quantities.map fun q => q.total (texts.map q.count)
  let total := if 1 < paths.length then [.output (line "total" totals)] else []
  let ending :=
    if s.inputKind == .closed && paths.contains "-" then [complaint s "-" .closed] else []
  { code := if texts.length = files.length then 0 else 1
    written := rows ++ total ++ ending
    unread := if namesInput paths then [] else s.input }

/-- Runs the tool with arguments that have been read. -/
def count (s : Surroundings) (r : ReadArguments Quantity) : Report :=
  let asked := r.options.map (·.1)
  let asked := if asked.isEmpty then [.lines, .words, .bytes] else asked
  let quantities := Quantity.all.filter asked.contains
  if r.operands.isEmpty then countInput s quantities else countFiles s quantities r.operands

def tool : Tool := fun arguments s =>
  match ToolOption.read options true arguments with
  | .error e => s.failure 1 (e.complaint s.program)
  | .ok r => s.checkOutput (count s r)

end Typings.Tools.Count

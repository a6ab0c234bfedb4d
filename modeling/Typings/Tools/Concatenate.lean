import Typings.Tools.ByteClass
import Typings.Tools.Options
import Typings.Tools.Quoting

/-! # Concatenation

The tool `cat`: copies its files or its input, with the lines numbered and what cannot be seen shown
if asked to.
-/

namespace Typings.Tools.Concatenate

open Files

/-- What an option asks for. -/
inductive Feature where
  | numbersNonblank
  | numbers
  | squeezes
  | showsControls
  | showsEnds
  | showsTabs
  | showsAll
  | showsControlsAndEnds
  | showsControlsAndTabs
  | unbuffered
  deriving DecidableEq

def options : List (ToolOption Feature) :=
  [{ letter := some 'b', name := some "number-nonblank", meaning := .numbersNonblank },
    { letter := some 'n', name := some "number", meaning := .numbers },
    { letter := some 's', name := some "squeeze-blank", meaning := .squeezes },
    { letter := some 'v', name := some "show-nonprinting", meaning := .showsControls },
    { letter := some 'E', name := some "show-ends", meaning := .showsEnds },
    { letter := some 'T', name := some "show-tabs", meaning := .showsTabs },
    { letter := some 'A', name := some "show-all", meaning := .showsAll },
    { letter := some 'e', meaning := .showsControlsAndEnds },
    { letter := some 't', meaning := .showsControlsAndTabs },
    { letter := some 'u', meaning := .unbuffered }]

/-- How the text is shown. -/
structure Layout where
  numbers : Bool
  onlyNonblank : Bool
  squeezes : Bool
  controls : Bool
  ends : Bool
  tabs : Bool

/-- The layout that options ask for. -/
def Layout.of (asked : List Feature) : Layout where
  numbers := asked.contains .numbers || asked.contains .numbersNonblank
  onlyNonblank := asked.contains .numbersNonblank
  squeezes := asked.contains .squeezes
  controls := asked.any [.showsControls, .showsAll, .showsControlsAndEnds,
    .showsControlsAndTabs].contains
  ends := asked.any [.showsEnds, .showsAll, .showsControlsAndEnds].contains
  tabs := asked.any [.showsTabs, .showsAll, .showsControlsAndTabs].contains

/-- The text is copied as it is. -/
def Layout.isPlain (l : Layout) : Bool :=
  !(l.numbers || l.squeezes || l.controls || l.ends || l.tabs)

/-- A byte of the lower half with controls shown behind a caret. -/
def shownLow (b : UInt8) : Bytes :=
  if b < 32 then [94, b + 64] else if b = 127 then [94, 63] else [b]

def Layout.shown (l : Layout) (b : UInt8) : Bytes :=
  if b = 9 then (if l.tabs then [94, 73] else [9])
  else if !l.controls then [b]
  else if b < 128 then shownLow b
  else [77, 45] ++ shownLow (b - 128)

/-- A number at the end of a field of at least the given width. -/
def padded (width : Nat) (n : Nat) : Bytes :=
  let digits := bytesOf (toString n)
  List.replicate (width - digits.length) 32 ++ digits

/-- The end of a line. A carriage return right before it is shown together with it. -/
def Layout.body (l : Layout) (line : Bytes) (ended : Bool) : Bytes :=
  if !ended then line.flatMap l.shown
  else if !l.ends then line.flatMap l.shown ++ [10]
  else if !l.controls && line.getLast? == some 13 then
    line.dropLast.flatMap l.shown ++ [94, 77, 36, 10]
  else line.flatMap l.shown ++ [36, 10]

/-- The lines as they are shown, from a number on. `afterBlank` tells that the line before the first
one is blank. Only the last line can lack its end. -/
def Layout.show (l : Layout) (ended : Bool) (number : Nat) (afterBlank : Bool) :
    List Bytes → List Bytes
  | [] => []
  | line :: rest =>
    let isEnded := ended || !rest.isEmpty
    let isBlank := line.isEmpty && isEnded
    if l.squeezes && isBlank && afterBlank then l.show ended number true rest
    else if l.numbers && !(l.onlyNonblank && isBlank) then
      (padded 6 number ++ 9 :: l.body line isEnded) :: l.show ended (number + 1) isBlank rest
    else l.body line isEnded :: l.show ended number isBlank rest

/-- The text as it is shown. -/
def Layout.format (l : Layout) (text : Bytes) : Bytes :=
  if l.isPlain then text
  else
    let (lines, ended) := byteLines text
    (l.show ended 1 false lines).flatten

/-- The path is one of the file that the output goes to, and there is something to copy in it. -/
def isOutput (s : Surroundings) (shown : Nat) (path : String) : Bool :=
  match s.outputKind with
  | .file location position =>
    let size := match s.files.get? location with
      | some (.file content) => content.size
      | _ => 0
    let reached := max size (position + shown)
    if namesInput [path] then
      match s.inputKind with
      | .file inputLocation inputPosition _ =>
        inputLocation = location && inputPosition < reached
      | _ => false
    else (s.files.locate (join s.directory path)).toOption == some location && 0 < reached
  | _ => false

/-- What is wrong with a file that cannot be copied. -/
def complaint (s : Surroundings) (name cause : String) : Written :=
  .message (s.messageLine (Quoting.shell (bytesOf name) ++ bytesOf (": " ++ cause)))

/-- The text of files as it is shown, with messages for those that cannot be copied where they would
stand. `text` is that of the files before, of which `shown` bytes have been written. -/
def showFiles (s : Surroundings) (l : Layout) (text : Bytes) (shown : Nat) :
    List (String × Except ReadError Bytes) → List Written
  | [] => [.output ((l.format text).drop shown)]
  | (name, content) :: rest =>
    let output := l.format text
    let without (cause : String) : List Written :=
      .output (output.drop shown) :: complaint s name cause ::
        showFiles s l text output.length rest
    match content with
    | .error e => without e.cause
    | .ok more =>
      if isOutput s output.length name then without "input file is output file"
      else showFiles s l (text ++ more) shown rest

/-- Runs the tool with arguments that have been read. -/
def concatenate (s : Surroundings) (r : ReadArguments Feature) : Report :=
  let paths := if r.operands.isEmpty then ["-"] else r.operands
  let files := s.readAll paths
  let written := showFiles s (Layout.of (r.options.map (·.1))) [] 0 files
  let ending :=
    if s.inputKind == .closed && paths.contains "-" then
      [.message (s.messageLine (bytesOf "closing standard input: Bad file descriptor"))]
    else []
  { code := if (written ++ ending).any Written.isMessage then 1 else 0
    written := written ++ ending
    unread := if paths.any fun p => namesInput [p] && !isOutput s 0 p then [] else s.input }

def tool : Tool := fun arguments s =>
  match ToolOption.read options true arguments with
  | .error e => s.failure 1 (e.complaint s.program)
  | .ok r =>
    if s.outputKind == .closed then s.withoutOutput { unread := s.input } 1 "standard output"
    else concatenate s r

end Typings.Tools.Concatenate

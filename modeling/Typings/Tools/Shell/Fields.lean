import Typings.Tools.Shell.Process
import Typings.Tools.Shell.Wildcard

/-! # Fields

What words become when their parts have been worked out. A word is then a list of marks: bytes, and
signs of where fields end and of quotes that keep an empty field. Bytes that come from values and
are not quoted can separate fields, and wildcards in fields stand for paths.
-/

namespace Typings.Tools.Shell

open Files

/-- What a word has become at one place. -/
inductive Mark where
  /-- A byte; with `splits` set it is from a value and may separate fields. -/
  | byte (b : UInt8) (quoted splits : Bool)
  /-- There is a field here, even if it is empty. -/
  | present
  /-- A field ends here. -/
  | fieldEnd
  deriving DecidableEq, Repr

/-- Text that is taken as it is. -/
def quotedMarks (bytes : Bytes) : List Mark := bytes.map fun b => .byte b true false

/-- The value of a parameter, which can be cut into fields unless it is quoted. -/
def valueMarks (quoted : Bool) (bytes : Bytes) : List Mark :=
  if quoted then .present :: quotedMarks bytes else bytes.map fun b => .byte b false true

/-- A character of a script as it is. -/
def charMarks (c : Char) (quoted : Bool) : List Mark :=
  (bytesOf c.toString).map fun b => .byte b quoted false

/-- The marks of a word in the place of a value. -/
def asValue (marks : List Mark) : List Mark :=
  marks.map fun
    | .byte b quoted _ => .byte b quoted (!quoted)
    | m => m

/-- Arguments in the place of a parameter. Quoted ones are a field each. -/
def argumentMarks (quoted : Bool) (arguments : List Bytes) : List Mark :=
  [Mark.fieldEnd].intercalate (arguments.map (valueMarks quoted))

/-- The text of a word that is a single field in any case. -/
def plainBytes (marks : List Mark) : Bytes :=
  marks.filterMap fun
    | .byte b _ _ => some b
    | .present => none
    | .fieldEnd => some 32

/-- The glyphs of a word that is a pattern. -/
def glyphsOf (marks : List Mark) : List Glyph :=
  marks.filterMap fun
    | .byte b quoted _ => some (b, quoted)
    | .present => none
    | .fieldEnd => some (32, false)

/-! ## Splitting -/

/-- Fields in the middle of being made. -/
structure Splitting where
  /-- The fields so far, last one first. -/
  done : List (List Glyph) := []
  /-- The glyphs of the field so far, last one first. -/
  glyphs : List Glyph := []
  isPresent : Bool := false
  /-- The last field was ended by a blank, and nothing has come since. -/
  afterBlank : Bool := false

namespace Splitting

/-- There is a field that has not ended yet. -/
def hasField (s : Splitting) : Bool := s.isPresent || !s.glyphs.isEmpty

def endField (s : Splitting) (afterBlank : Bool) : Splitting where
  done := s.glyphs.reverse :: s.done
  afterBlank := afterBlank

/-- Adds to the last field. -/
def addGlyph (s : Splitting) (g : Glyph) : Splitting :=
  { s with glyphs := g :: s.glyphs, afterBlank := false }

/-- Takes in a mark. Blanks that separate count as one; any other separator ends a field, which may
be empty, together with the blanks around it. -/
def step (separators : Bytes) (s : Splitting) : Mark → Splitting
  | .present => { s with isPresent := true, afterBlank := false }
  | .fieldEnd => if s.hasField then s.endField false else { s with afterBlank := false }
  | .byte b quoted splits =>
    if quoted || !splits || !separators.contains b then s.addGlyph (b, quoted)
    else if b = 32 ∨ b = 9 ∨ b = 10 then
      if s.hasField then s.endField true else s
    else if s.afterBlank && !s.hasField then { s with afterBlank := false }
    else s.endField false

/-- The fields in order. -/
def fields (s : Splitting) : List (List Glyph) :=
  (if s.hasField then s.endField false else s).done.reverse

end Splitting

/-- The fields of a word. -/
def splitFields (separators : Bytes) (marks : List Mark) : List (List Glyph) :=
  (marks.foldl (Splitting.step separators) {}).fields

/-! ## Paths -/

/-- The glyphs between slashes. -/
def glyphSegments (glyphs : List Glyph) : List (List Glyph) := glyphs.splitOnP (·.1 == 47)

/-- The names of what is in a directory, in order. -/
def namesIn (files : Store) (location : Location) : List String :=
  let names := files.entries.filterMap fun (l, _) =>
    if l.dropLast = location then l.getLast? else none
  (("." :: ".." :: names).mergeSort fun a b => decide (a ≤ b)).eraseDups

/-- A name that begins with a point is only found by a pattern that does so. -/
def findsName (pattern : List Glyph) (name : String) : Bool :=
  let bytes := bytesOf name
  (bytes.head? != some 46 || (pattern.head?.map (·.1)) == some 46) &&
    Wildcard.isMatch (Wildcard.ofGlyphs pattern) bytes

/-- The paths that parts of a path with wildcards stand for, behind a text that has been found. -/
def findPaths (files : Store) (base found : String) : List (List Glyph) → List String
  | [] => [found]
  | [segment] => candidates segment
  | segment :: rest =>
    (candidates segment).flatMap fun path =>
      if files.isDirectory (join base path) then findPaths files base (path ++ "/") rest else []
where
  candidates (segment : List Glyph) : List String :=
    if Wildcard.isPattern segment then
      match files.locate (join base (if found.isEmpty then "." else found)) with
      | .ok location =>
        if files.get? location == some .directory then
          ((namesIn files location).filter (findsName segment)).map (found ++ ·)
        else []
      | .error _ => []
    else
      let path := found ++ textOf (segment.map (·.1))
      if files.pathExists (join base (if path.isEmpty then "/" else path)) then [path] else []

/-- The texts that a field stands for: the paths that it finds, or itself if there are none. -/
def findFiles (files : Store) (directory : String) (field : List Glyph) : List Bytes :=
  let text := field.map (·.1)
  if !Wildcard.isPattern field then [text]
  else
    match findPaths files directory "" (glyphSegments field) with
    | [] => [text]
    | paths => paths.map bytesOf

end Typings.Tools.Shell

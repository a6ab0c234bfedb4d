import Typings.Diff.Hunk

/-! # Differences between texts

Two texts are compared line by line. A line ends at a line feed, at a carriage return, or at both in
this order, and its ending is part of it. The difference is shown as hunks of marked lines.
-/

namespace Typings.Diff

/-- The lines of a text with their endings. -/
def linesWithEnds : List Char → List (List Char)
  | [] => []
  | '\r' :: '\n' :: rest => ['\r', '\n'] :: linesWithEnds rest
  | c :: rest =>
    if c = '\r' ∨ c = '\n' then [c] :: linesWithEnds rest
    else
      match linesWithEnds rest with
      | [] => [[c]]
      | line :: others => (c :: line) :: others

/-- The line without the line feeds at its end. -/
def withoutLineFeeds (line : List Char) : List Char :=
  (line.reverse.dropWhile (· == '\n')).reverse

/-- A line as it is shown behind a mark. -/
def markedLine (mark : Char) (line : List Char) : List Char :=
  mark :: withoutLineFeeds line ++ ['\n']

namespace Stretch

/-- The lines that show a stretch: kept ones behind a space, deleted ones behind a minus sign, then
inserted ones behind a plus sign. -/
def shown : Stretch (List Char) → List (List Char)
  | same items => items.map (markedLine ' ')
  | change deleted inserted =>
    deleted.map (markedLine '-') ++ inserted.map (markedLine '+')

end Stretch

/-- The lines between two hunks. -/
def hunkSeparator : List Char := "...\n".toList

def hunkText (hunk : List (Stretch (List Char))) : List Char :=
  hunk.flatMap fun s => s.shown.flatten

/-- The difference between two texts under a label. -/
def differenceText (label old new : String) : String :=
  let hunks := hunksBetween (linesWithEnds old.toList) (linesWithEnds new.toList)
  "--- " ++ label ++ " (current)\n+++ " ++ label ++ " (generated)\n" ++
    String.ofList (hunkSeparator.intercalate (hunks.map hunkText))

end Typings.Diff

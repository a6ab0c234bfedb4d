/-! # Lines

Splitting a text into lines. A line ends at a line feed, and a carriage return right before that
line feed belongs to the ending. A carriage return anywhere else is a character of its line, and a
line feed at the very end of the text opens no further line.
-/

namespace Typings.Text

/-- The lines of the text without their endings. -/
def lines : List Char → List (List Char)
  | [] => []
  | '\n' :: rest => [] :: lines rest
  | '\r' :: '\n' :: rest => [] :: lines rest
  | c :: rest =>
    match lines rest with
    | [] => [[c]]
    | line :: others => (c :: line) :: others

/-- The text that has the given lines, each ended by a line feed. -/
def endLines (ls : List (List Char)) : List Char :=
  ls.flatMap (· ++ ['\n'])

example : lines "a\r\n\r\nb\r".toList = ["a".toList, [], "b\r".toList] := by decide
example : lines "\n".toList = [[]] := by decide

end Typings.Text

import Typings.Text.Blank
import Typings.Text.Lines

/-! # Documentation comments

The comment that stands above a declaration or a member. A text of one line gives a comment on one
line; a longer text gives a block with one decorated line for each of its lines. The text cannot
end the comment early, because every `*/` in it is spelled `*\/`.
-/

namespace Typings

open Text

/-- The text with every `*/` spelled `*\/`. -/
def escapeCommentEnd : List Char → List Char
  | [] => []
  | '*' :: '/' :: rest => '*' :: '\\' :: '/' :: escapeCommentEnd rest
  | c :: rest => c :: escapeCommentEnd rest

/-- The lines that a comment for the text shows, without decoration. -/
def commentLines (text : String) : List (List Char) :=
  (lines (escapeCommentEnd (trim text.toList))).map trimEnd

/-- A line of a comment block. -/
def decorateLine (line : List Char) : List Char :=
  if line.isEmpty then " *".toList else " * ".toList ++ line

/-- The comment for a text, without indentation and without a line feed at its end. A blank text
has none. -/
def docComment (text : String) : Option String :=
  match commentLines text with
  | [] => none
  | [line] => some ("/** " ++ String.ofList line ++ " */")
  | block => some ("/**\n" ++ String.ofList (endLines (block.map decorateLine)) ++ " */")

/-- The tag for a deprecation with the given reason, which may be blank. -/
def deprecationTag (reason : String) : String :=
  let reason := strip reason
  if reason.isEmpty then "@deprecated" else "@deprecated " ++ reason

/-- A summary, if it is not blank, followed by the tag of a deprecation, if there is one. -/
def withDeprecation (summary : Option String) (deprecation : Option String) : Option String :=
  let summary := (summary.map strip).filter (!·.isEmpty)
  match summary, deprecation with
  | summary, none => summary
  | none, some reason => some (deprecationTag reason)
  | some summary, some reason => some (summary ++ "\n\n" ++ deprecationTag reason)

end Typings

import Typings.Comment
import Typings.Declaration.Basic
import Typings.Declaration.Identifier

/-! # Declarations as text

The text of types, members, declarations and whole files. The brackets of an array bind tighter
than the bar of a union, so a union inside an array stands in parentheses. Blocks of a file are
separated by one blank line.
-/

namespace Typings

open Text

def Literal.text : Literal → String
  | string value => quoteLiteral value
  | number spelling => spelling

namespace Ty

def isUnion : Ty → Bool
  | union _ => true
  | _ => false

mutual

/-- The text of a type. -/
def text : Ty → String
  | primitive kind => kind.name
  | array element =>
    if element.isUnion then "(" ++ element.text ++ ")[]" else element.text ++ "[]"
  | union members => " | ".intercalate (textOfAll members)
  | literal value => value.text
  | reference name => name
  | marker gap => gap.typeName

/-- The texts of the members of a union. -/
def textOfAll : List Ty → List String
  | [] => []
  | member :: rest => member.text :: textOfAll rest

end

end Ty

/-- The text of a member without its comment and without indentation. -/
def Member.text (m : Member) : String :=
  memberKey m.name ++ (if m.optional then "?: " else ": ") ++ m.type.text ++ ";"

/-- Every line of the text ended by a line feed, with the margin before each line that is not
empty. -/
def indentLines (margin : String) (text : String) : String :=
  String.ofList <| endLines <|
    (lines text.toList).map fun line => if line.isEmpty then line else margin.toList ++ line

/-- The lines of the comment for a text, behind the margin; nothing where there is no comment. -/
def docLines (margin : String) (doc : Option String) : String :=
  match doc.bind docComment with
  | none => ""
  | some comment => indentLines margin comment

/-- The lines of a member inside its interface. -/
def Member.lines (m : Member) : String :=
  docLines "  " m.doc ++ "  " ++ m.text ++ "\n"

/-- The lines of a declaration. -/
def Declaration.text (d : Declaration) : String :=
  let head := docLines "" d.doc ++ (if d.exported then "export " else "")
  match d.body with
  | .synonym type => head ++ "type " ++ d.name ++ " = " ++ type.text ++ ";\n"
  | .interface [] => head ++ "interface " ++ d.name ++ " \x7b\x7d\n"
  | .interface members =>
    head ++ "interface " ++ d.name ++ " \x7b\n" ++ String.join (members.map Member.lines) ++
      "\x7d\n"

/-- The blocks that follow a text, each after a blank line unless nothing precedes it. -/
def appendBlocks (before : String) : List Declaration → String
  | [] => before
  | d :: rest => appendBlocks (before ++ (if before.isEmpty then "" else "\n") ++ d.text) rest

/-- The text of a file: the preamble, then every declaration as a block. -/
def DeclarationFile.text (f : DeclarationFile) : String :=
  appendBlocks (String.join (f.preamble.map Declaration.text)) f.declarations

end Typings

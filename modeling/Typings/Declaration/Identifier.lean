/-! # Identifiers

Which texts can stand as they are for a member key or a type name in TypeScript, and how any other
key is quoted.
-/

namespace Typings

def isIdentifierStart (c : Char) : Bool :=
  c.isAlpha || c == '_' || c == '$'

/-- The character may stand in an identifier after its start. -/
def isIdentifierRest (c : Char) : Bool :=
  c.isAlphanum || c == '_' || c == '$'

/-- The text is an identifier over the ASCII letters, the ASCII digits, `_` and `$`. -/
def isIdentifier (name : String) : Bool :=
  match name.toList with
  | [] => false
  | c :: rest => isIdentifierStart c && rest.all isIdentifierRest

/-- Identifiers that cannot name a declared type. -/
def reservedWords : List String :=
  ["any", "boolean", "break", "case", "catch", "class", "const", "continue", "debugger", "default",
    "delete", "do", "else", "enum", "export", "extends", "false", "finally", "for", "function",
    "if", "import", "in", "instanceof", "never", "new", "null", "number", "object", "return",
    "string", "super", "switch", "symbol", "this", "throw", "true", "try", "typeof", "undefined",
    "unknown", "var", "void", "while", "with"]

/-- The text can name a declared type. -/
@[irreducible] def isTypeName (name : String) : Bool :=
  isIdentifier name && !reservedWords.contains name

/-- The text with every occurrence of a character replaced. -/
def replaceChar (c : Char) (replacement cs : List Char) : List Char :=
  cs.flatMap fun d => if d = c then replacement else [d]

/-- The text as it stands between the quotes of a literal. Backslashes are doubled first, so that
those of the other replacements stay single. -/
def escapeText (s : String) : String :=
  String.ofList <|
    replaceChar '\r' ['\\', 'r'] <| replaceChar '\n' ['\\', 'n'] <|
      replaceChar '"' ['\\', '"'] <| replaceChar '\\' ['\\', '\\'] s.toList

/-- The double-quoted literal that denotes the text. -/
def quoteLiteral (s : String) : String :=
  "\"" ++ escapeText s ++ "\""

/-- The key of a member: the name itself where it is an identifier, else a literal. -/
def memberKey (name : String) : String :=
  if isIdentifier name then name else quoteLiteral name

example : memberKey "a-b" = "\"a-b\"" := by decide
example : memberKey "$x1" = "$x1" := by decide

end Typings

import Typings.Text.Uppercase

/-! # Names of declared types

How the name of a documented object, and the name of a template, become the name of a declared
type. An object name is cut at its underscores and every segment starts with an uppercase letter;
the result need not be an identifier, which is for the caller to check.
-/

namespace Typings

open Text

/-- The text with its first character in uppercase form. -/
def capitalize : List Char → List Char
  | [] => []
  | c :: rest => uppercase c ++ rest

/-- The type name of an object name: `gift_card` becomes `GiftCard`. -/
def typeName (documented : String) : String :=
  String.ofList ((documented.toList.splitOn '_').flatMap capitalize)

/-- The text without any occurrence of `.liquid`, searched from the left. -/
def dropExtension : List Char → List Char
  | [] => []
  | '.' :: 'l' :: 'i' :: 'q' :: 'u' :: 'i' :: 'd' :: rest => dropExtension rest
  | c :: rest => c :: dropExtension rest

/-- The character stands between two parts of a template name. -/
def isTemplateSeparator (c : Char) : Bool :=
  c == '/' || c == '.' || c == '-'

/-- The template name without extension, its separators turned into underscores. -/
def templateStem (template : String) : String :=
  String.ofList <|
    (dropExtension template.toList).map fun c => if isTemplateSeparator c then '_' else c

/-- The first character is an ASCII digit. -/
def startsWithDigit (name : String) : Bool :=
  name.toList.head?.any Char.isDigit

/-- The name of the interface for a template: `customers/account.liquid` becomes
`CustomersAccountContext`. An underscore keeps a leading digit from starting the name. -/
@[irreducible] def contextName (template : String) : String :=
  let name := typeName (templateStem template) ++ "Context"
  if startsWithDigit name then "_" ++ name else name

example : typeName "_gift__card_" = "GiftCard" := by decide +kernel
example : contextName "customers/account.liquid" = "CustomersAccountContext" := by decide +kernel
example : contextName "404" = "_404Context" := by decide +kernel

end Typings

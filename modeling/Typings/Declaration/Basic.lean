/-! # Declarations

The part of TypeScript that a declaration file uses: types, members, interfaces and synonyms. A
file opens with the declarations of its markers, the placeholder types that stand where the
documentation leaves a gap.
-/

namespace Typings

/-- The built-in scalar types. -/
inductive Primitive where
  | string
  | number
  | boolean
  deriving DecidableEq, Repr

/-- A placeholder type, one for each kind of gap in the documentation. -/
inductive Marker where
  /-- The value is documented as deliberately dynamic. -/
  | untyped
  /-- The type is left out, or the data that describe it are malformed. -/
  | missingData
  /-- The type has a shape that no rule turns into a declaration. -/
  | unmapped
  deriving DecidableEq, Repr

/-- A type with a single value. -/
inductive Literal where
  | string (value : String)
  /-- A number, by its spelling. -/
  | number (spelling : String)
  deriving DecidableEq, Repr

/-- A type expression. -/
inductive Ty where
  | primitive (kind : Primitive)
  | array (element : Ty)
  | union (members : List Ty)
  | literal (value : Literal)
  | reference (name : String)
  | marker (gap : Marker)
  deriving Repr

/-- A member of an interface. -/
structure Member where
  name : String
  type : Ty
  optional : Bool := false
  doc : Option String := none
  deriving Repr

/-- What a declaration declares its name to be. -/
inductive Body where
  | interface (members : List Member)
  | synonym (type : Ty)
  deriving Repr

/-- A declaration of one type name. -/
structure Declaration where
  name : String
  doc : Option String := none
  exported : Bool := false
  body : Body
  deriving Repr

/-- A file of declarations. The preamble is one block of text; every other declaration is a block
of its own. -/
structure DeclarationFile where
  preamble : List Declaration := []
  declarations : List Declaration := []
  deriving Repr

namespace Primitive

def name : Primitive → String
  | string => "string"
  | number => "number"
  | boolean => "boolean"

/-- The scalar type of a documented type name. -/
def ofName? (s : String) : Option Primitive :=
  if s = "string" then some string
  else if s = "number" then some number
  else if s = "boolean" then some boolean
  else none

end Primitive

namespace Marker

/-- Every marker, in the order of the preamble. -/
def all : List Marker := [untyped, missingData, unmapped]

/-- The name under which the marker is declared. -/
def typeName : Marker → String
  | untyped => "Untyped"
  | missingData => "ShopifyBug"
  | unmapped => "Unimplemented"

/-- What the marker tells a reader of the declarations. -/
def doc : Marker → String
  | untyped => "A value the documentation describes as untyped."
  | missingData => "The documentation is missing or malformed for this value."
  | unmapped => "The documented type has a shape this generator does not map yet."

/-- The declaration of a marker: a synonym of `any` that the file keeps to itself. -/
def declaration (m : Marker) : Declaration where
  name := m.typeName
  doc := some m.doc
  body := .synonym (.reference "any")

end Marker

namespace Ty

mutual

/-- The markers in a type, in order of appearance. -/
def markers : Ty → List Marker
  | primitive _ => []
  | array element => element.markers
  | union members => markersOfAll members
  | literal _ => []
  | reference _ => []
  | marker gap => [gap]

/-- The markers in the members of a union. -/
def markersOfAll : List Ty → List Marker
  | [] => []
  | member :: rest => member.markers ++ markersOfAll rest

end

end Ty

namespace Declaration

/-- The types that a declaration writes out, in order. -/
def types (d : Declaration) : List Ty :=
  match d.body with
  | .interface members => members.map (·.type)
  | .synonym type => [type]

/-- The markers in a declaration, in order of appearance. -/
def markers (d : Declaration) : List Marker :=
  d.types.flatMap Ty.markers

end Declaration

namespace DeclarationFile

/-- A file that declares the markers and nothing else. -/
def withMarkers : DeclarationFile where
  preamble := Marker.all.map Marker.declaration

end DeclarationFile

end Typings

import Typings.Declaration.Basic
import Typings.Declaration.Identifier
import Typings.Docs.Shape
import Typings.Naming

/-! # Types of documented values

The type that a list of return types stands for, and the declarations that objects give rise to. A
gap in the documentation becomes a marker in the one place where it occurs and affects nothing
else.
-/

namespace Typings

open Docs

/-- The type that a documented type name refers to. -/
def referenceTo (documented : String) : Ty :=
  let name := typeName documented
  if isTypeName name then .reference name else .marker .unmapped

/-- The type of a plain return type: a scalar, the marker for untyped values, or a reference. -/
def plainType (type : String) : Ty :=
  match Primitive.ofName? type with
  | some kind => .primitive kind
  | none => if type = "untyped" then .marker .untyped else referenceTo type

/-- An array of elements of a documented type. Where the type of the elements is left out, they get
the marker for missing data. -/
def arrayOf : Option String → Ty
  | some element => .array (referenceTo element)
  | none => .array (.marker .missingData)

/-- The type of a value with a single return type. A single literal is not taken for a type. -/
def singleType (rt : ReturnType) : Ty :=
  match classify rt with
  | .array element => arrayOf element
  | .other type => plainType type
  | .enumeration _ _ => .marker .unmapped
  | .unrecognized => .marker .unmapped

/-- The text can stand in a union as it is. -/
def isBareToken (s : String) : Bool :=
  isIdentifier s || isNumericLiteral s

/-- One member of a union, which may be a literal or an array of scalars. -/
def unionMember (rt : ReturnType) : Ty :=
  match classify rt with
  | .enumeration literal .string => .literal (.string literal)
  | .enumeration literal .number => .literal (.number literal)
  | .array (some element) =>
    match Primitive.ofName? element with
    | some kind => .array (.primitive kind)
    | none => arrayOf (some element)
  | .array none => arrayOf none
  | .other type => plainType type
  | .unrecognized =>
    match rt.nameText with
    | some token => if isBareToken token then .reference token else .marker .unmapped
    | none => .marker .unmapped

/-- The type that a list of return types stands for. -/
def typeOf : List ReturnType → Ty
  | [] => .marker .missingData
  | [rt] => singleType rt
  | rts => .union (rts.map unionMember)

namespace Docs.Property

def type (p : Property) : Ty := typeOf p.returnTypes

/-- The member that the property becomes. -/
def member (p : Property) : Member where
  name := p.name
  type := p.type
  doc := p.doc

end Docs.Property

namespace Docs.Object

/-- The object is a collection of other objects that is global by explicit documentation. -/
def isDictionary (o : Object) : Bool :=
  (o.access.any fun access => access.global == some true) &&
    (o.returnTypes.head?.any fun rt => (classify rt).isArray)

/-- The type of a collection. -/
def dictionaryType (o : Object) : Ty :=
  match o.returnTypes.head?.map classify with
  | some (.array element) => arrayOf element
  | _ => arrayOf none

/-- The declaration of a collection under the given name. -/
def dictionaryDeclaration (name : String) (o : Object) : Declaration where
  name := name
  doc := o.doc
  exported := true
  body := .synonym o.dictionaryType

/-- The declaration of an object with properties under the given name. -/
def interfaceDeclaration (name : String) (o : Object) : Declaration where
  name := name
  doc := o.doc
  exported := true
  body := .interface (o.propertyList.map Property.member)

/-- The declaration of an object under the given name. -/
def declaration (name : String) (o : Object) : Declaration :=
  if o.isDictionary then o.dictionaryDeclaration name else o.interfaceDeclaration name

end Docs.Object

end Typings

import Typings.Comment
import Typings.Json.Value

/-! # Documentation entries

What the documentation says of the objects of the template language: their properties, where they
can be used, and which types their values may have. Almost everything may be left out.
-/

namespace Typings.Docs

/-- One candidate for the type of a value. -/
structure ReturnType where
  /-- A scalar, the name of an object, or `array`. -/
  type : Option String := none
  /-- The value of a literal type. It is kept as written, since a number may stand for a text. -/
  name : Option Json.Value := none
  /-- The type of the elements of an array. -/
  arrayValue : Option String := none

/-- One property of an object. -/
structure Property where
  name : String := ""
  summary : Option String := none
  returnType : Option (List ReturnType) := none
  deprecated : Option Bool := none

/-- Where an object can be used. -/
structure Access where
  /-- The object can be used in every template. -/
  global : Option Bool := none
  /-- The templates in which the object can be used. -/
  template : Option (List String) := none
  deriving DecidableEq

structure Object where
  name : String := ""
  summary : Option String := none
  access : Option Access := none
  properties : Option (List Property) := none
  /-- The type of the object itself, where it is a collection of other objects. -/
  returnType : Option (List ReturnType) := none
  deprecated : Option Bool := none
  /-- What to use instead of a deprecated object. -/
  deprecationReason : Option String := none

/-- The literal value as text, where it is a text or a number. -/
def ReturnType.nameText (rt : ReturnType) : Option String :=
  match rt.name with
  | some (.text value) => some value
  | some (.number value) => some value.text
  | _ => none

namespace Property

/-- The candidates for the type of the property. -/
def returnTypes (p : Property) : List ReturnType := p.returnType.getD []

/-- The documentation of the property with its deprecation. -/
def doc (p : Property) : Option String :=
  withDeprecation p.summary (if p.deprecated = some true then some "" else none)

end Property

namespace Access

/-- The names of the templates, none where none are listed. -/
def templates (a : Access) : List String := a.template.getD []

end Access

namespace Object

/-- The object can be used in every template. So can one that says nothing of its use. -/
def isGlobal (o : Object) : Bool :=
  match o.access with
  | none => true
  | some access => access.global == some true

def templates (o : Object) : List String :=
  match o.access with
  | none => []
  | some access => access.templates

/-- The properties in the order of the documentation. -/
def propertyList (o : Object) : List Property := o.properties.getD []

/-- The candidates for the type of the object itself. -/
def returnTypes (o : Object) : List ReturnType := o.returnType.getD []

/-- The reason, possibly empty, why the object is deprecated, if it is. -/
def deprecation (o : Object) : Option String :=
  if o.deprecated = some true then some (o.deprecationReason.getD "") else none

/-- The documentation of the object with its deprecation. -/
def doc (o : Object) : Option String := withDeprecation o.summary o.deprecation

end Object

end Typings.Docs

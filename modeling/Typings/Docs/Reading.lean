import Typings.Docs.Entry
import Typings.Json.Record

/-! # Reading documentation

Documentation is a JSON list of objects. The list is read as far as its closing bracket, and the
first fault in the order of the text is the one that is reported, with the path of the value at
fault.
-/

namespace Typings.Docs

open Json

def returnTypeReader : NodeReader ReturnType :=
  .record "struct ReturnType"
    [ .of "type" (.optional .text) fun v r => { r with type := v },
      .of "name" (.optional .value) fun v r => { r with name := v },
      .of "array_value" (.optional .text) fun v r => { r with arrayValue := v } ]
    {}

def propertyReader : NodeReader Property :=
  .record "struct PropertyEntry"
    [ .of "name" .text fun v r => { r with name := v },
      .of "summary" (.optional .text) fun v r => { r with summary := v },
      .of "return_type" (.optional (.list returnTypeReader)) fun v r => { r with returnType := v },
      .of "deprecated" (.optional .boolean) fun v r => { r with deprecated := v } ]
    {}

def accessReader : NodeReader Access :=
  .record "struct Access"
    [ .of "global" (.optional .boolean) fun v r => { r with global := v },
      .of "template" (.optional (.list .text)) fun v r => { r with template := v } ]
    {}

def objectReader : NodeReader Object :=
  .record "struct ObjectEntry"
    [ .of "name" .text fun v r => { r with name := v },
      .of "summary" (.optional .text) fun v r => { r with summary := v },
      .of "access" (.optional accessReader) fun v r => { r with access := v },
      .of "properties" (.optional (.list propertyReader)) fun v r => { r with properties := v },
      .of "return_type" (.optional (.list returnTypeReader)) fun v r => { r with returnType := v },
      .of "deprecated" (.optional .boolean) fun v r => { r with deprecated := v },
      .of "deprecation_reason" (.optional .text) fun v r => { r with deprecationReason := v } ]
    {}

/-- Documentation that cannot be read. -/
structure InvalidDocumentation where
  fault : Fault
  deriving DecidableEq, Repr

namespace InvalidDocumentation

/-- The path of the value at fault. -/
def path (e : InvalidDocumentation) : String := pathText e.fault.path

/-- What went wrong. A record that is written as a list of too many values is a fault of the text
behind the last of them. -/
def message (e : InvalidDocumentation) : String :=
  let failure := match e.fault.failure.reason with
    | .tooLong _ => { e.fault.failure with reason := .trailingText }
    | _ => e.fault.failure
  "invalid object documentation at " ++ e.path ++ ": " ++ failure.message

end InvalidDocumentation

/-- The objects of a documentation text. -/
def load (text : String) : Except InvalidDocumentation (List Object) :=
  match NodeReader.list objectReader maxDepth (readDocument text.toList).1 with
  | .ok objects => .ok objects
  | .error fault => .error ⟨fault⟩

end Typings.Docs

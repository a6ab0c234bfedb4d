import Typings.Context
import Typings.Declaration.Text
import Typings.Docs.Reading
import Typings.Formatter
import Typings.Tally
import Typings.Typing

/-! # Generation

From documentation to a declaration file. Every object becomes one declaration, in the order of the
documentation; the interfaces of the template contexts, if they are asked for, follow. A name that
cannot be declared, or is declared already, stops the generation before there is any text.
-/

namespace Typings

open Docs

/-- What to include beside the objects. -/
structure Options where
  templateContexts : Bool := false
  deriving DecidableEq, Repr

/-- Why no declaration file can be made. -/
inductive BuildError where
  /-- The type name is declared already. `name` is the object or context that asks for it. -/
  | duplicateName (name typeName : String)
  | invalidTypeName (object typeName : String)
  | invalidContextName (template typeName : String)
  deriving DecidableEq, Repr

def BuildError.message : BuildError → String
  | duplicateName name typeName =>
    "\x60" ++ name ++ "\x60 declares \x60" ++ typeName ++ "\x60, which is already declared"
  | invalidTypeName object typeName =>
    "object \x60" ++ object ++ "\x60 does not produce a usable type name (got \x60" ++ typeName ++
      "\x60)"
  | invalidContextName template typeName =>
    "template \x60" ++ template ++ "\x60 does not produce a usable context name (got \x60" ++
      typeName ++ "\x60)"

/-- What a declaration file consists of, in numbers. -/
structure Stats where
  interfaces : Nat := 0
  synonyms : Nat := 0
  contexts : Nat := 0
  /-- The markers in the declarations of the objects. -/
  markers : Tally := .empty
  deriving DecidableEq, Repr

namespace Stats

/-- How often a marker stands in the declarations. -/
def markerCount (s : Stats) (m : Marker) : Nat := s.markers.count m

/-- The numbers with the declaration of an object counted in. -/
def record (s : Stats) (d : Declaration) : Stats :=
  let markers := s.markers.addAll d.markers
  match d.body with
  | .interface _ => { s with interfaces := s.interfaces + 1, markers }
  | .synonym _ => { s with synonyms := s.synonyms + 1, markers }

end Stats

/-! ## Names -/

/-- The type name of an object, which has to be one that can be declared. -/
def Docs.Object.checkedTypeName (o : Object) : Except BuildError String :=
  let name := typeName o.name
  if isTypeName name then .ok name else .error (.invalidTypeName o.name name)

/-- The declaration of a context, whose name has to be one that can be declared. -/
def Context.checkedDeclaration (c : Context) : Except BuildError Declaration :=
  let name := contextName c.template
  if isTypeName name then .ok c.declaration else .error (.invalidContextName c.template name)

/-- The declarations of contexts, up to the first one whose name cannot be declared. -/
def contextDeclarations (contexts : List Context) : Except BuildError (List Declaration) :=
  contexts.mapM Context.checkedDeclaration

/-- The declared names with one more, which must not be among them. -/
def reserve (declared : List String) (name typeName : String) : Except BuildError (List String) :=
  if declared.contains typeName then .error (.duplicateName name typeName)
  else .ok (typeName :: declared)

/-! ## Building -/

/-- The declarations of objects in order, together with the names declared before and by them. -/
def declareObjects (declared : List String) :
    List Object → Except BuildError (List Declaration × List String)
  | [] => .ok ([], declared)
  | o :: rest => do
    let name ← o.checkedTypeName
    let declared ← reserve declared o.name name
    let (declarations, declared) ← declareObjects declared rest
    return (o.declaration name :: declarations, declared)

/-- Checks that the names of further declarations are new and distinct. -/
def reserveAll (declared : List String) : List Declaration → Except BuildError Unit
  | [] => .ok ()
  | d :: rest => do
    let declared ← reserve declared d.name d.name
    reserveAll declared rest

/-- A declaration file with its numbers. -/
structure Build where
  file : DeclarationFile
  stats : Stats

/-- The declaration file of a documentation. Objects come first: only when each of them has a name
of its own are the contexts looked at, and their names are checked before any is reserved. -/
def build (objects : List Object) (options : Options) : Except BuildError Build := do
  let (declarations, declared) ← declareObjects (Marker.all.map Marker.typeName) objects
  let stats := declarations.foldl Stats.record {}
  let contexts ←
    if options.templateContexts then contextDeclarations (Context.ofObjects objects) else .ok []
  reserveAll declared contexts
  return {
    file := { DeclarationFile.withMarkers with declarations := declarations ++ contexts }
    stats := { stats with contexts := contexts.length } }

/-- The text of the declaration file of a documentation, without contexts. -/
def render (objects : List Object) : Except BuildError String := do
  let built ← build objects {}
  return built.file.text

/-! ## Generating -/

/-- Why no text was generated. -/
inductive GenerateError where
  | documentation (error : InvalidDocumentation)
  | build (error : BuildError)
  | format (error : FormatError)
  deriving DecidableEq, Repr

def GenerateError.message : GenerateError → String
  | documentation error => error.message
  | build error => error.message
  | format error => error.message

/-- A text with the numbers of the declaration file behind it. -/
structure Generated where
  text : String
  stats : Stats
  deriving DecidableEq, Repr

/-- The formatted declaration file of a documentation. Without a formatter the text stays as it
is. -/
def generate (tools : Toolbox) (options : Options) (formatter : Option Command)
    (objects : List Object) : Except GenerateError Generated := do
  let built ← (build objects options).mapError .build
  let text ← match formatter with
    | none => .ok built.file.text
    | some command => (command.format tools built.file.text).mapError .format
  return { text, stats := built.stats }

def formatterCommand (words : Option (List String)) : Except GenerateError (Option Command) :=
  match words with
  | none => .ok none
  | some words => (Command.ofWords words).map some |>.mapError .format

end Typings

import Typings.Declaration.Basic
import Typings.Declaration.Identifier
import Typings.Docs.Entry
import Typings.Naming

/-! # Template contexts

Which objects a template can use: those that list it, and every global object. Contexts stand in
the order of their templates, and the objects of a context in the order of their names.
-/

namespace Typings

open Docs

/-- Puts a text into a list that is strictly increasing. -/
def insertText (s : String) : List String → List String
  | [] => [s]
  | t :: rest =>
    if s < t then s :: t :: rest else if s = t then t :: rest else t :: insertText s rest

/-- The distinct texts of a list in increasing order. -/
def sortedTexts (texts : List String) : List String :=
  texts.foldr insertText []

/-- The objects that a template can use. -/
structure Context where
  template : String
  /-- The names of the objects, strictly increasing. -/
  objects : List String
  deriving DecidableEq, Repr

namespace Context

/-- The names of the objects that list the template or are global. -/
def objectsIn (objects : List Object) (template : String) : List String :=
  sortedTexts ((objects.filter fun o => o.templates.contains template || o.isGlobal).map (·.name))

/-- The contexts with an object in that of a template, which is new if the template has none yet. -/
def addObject (contexts : List Context) (template object : String) : List Context :=
  match contexts with
  | [] => [⟨template, [object]⟩]
  | c :: rest =>
    if template = c.template then ⟨template, insertText object c.objects⟩ :: rest
    else if template < c.template then ⟨template, [object]⟩ :: c :: rest
    else c :: addObject rest template object

/-- The templates that objects list, each with the name of the object. -/
def listings (objects : List Object) : List (String × String) :=
  objects.flatMap fun o => o.templates.map fun template => (template, o.name)

/-- The contexts of the listed templates, each with the objects that list it. -/
def ofListings (listings : List (String × String)) : List Context :=
  listings.foldl (fun contexts listing => addObject contexts listing.1 listing.2) []

/-- The names of the objects that every template can use. -/
def globalNames (objects : List Object) : List String :=
  sortedTexts ((objects.filter (·.isGlobal)).map (·.name))

/-- The context with further objects in it. -/
def addAll (c : Context) (names : List String) : Context :=
  { c with objects := names.foldr insertText c.objects }

/-- The contexts of all templates that some object lists. Global objects are in each of them, but
make none of their own. -/
def ofObjects (objects : List Object) : List Context :=
  (ofListings (listings objects)).map (·.addAll (globalNames objects))

/-- The contexts with the given templates and objects. Of two entries for one template the later
one counts. -/
def ofEntries (entries : List (String × List String)) : List Context :=
  (sortedTexts (entries.map (·.1))).map fun template =>
    ⟨template, sortedTexts ((entries.reverse.lookup template).getD [])⟩

def member (object : String) : Member where
  name := object
  type := .reference (typeName object)

/-- The declaration of a context. Its name is for the caller to check. -/
def declaration (c : Context) : Declaration where
  name := contextName c.template
  doc := some ("Objects available in the \x60" ++ c.template ++ "\x60 template.")
  exported := true
  body := .interface (c.objects.map member)

end Context

end Typings

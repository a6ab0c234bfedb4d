/-! # TOML values

Values of a TOML document and how its tables grow. A table remembers how it came about, because
that decides what may be added to it later: a table that has had its header gets no second one, and
a table written inline gets nothing more at all.
-/

namespace Typings.Toml

/-- How a table came about. -/
inductive Origin where
  /-- By a header of its own. -/
  | header
  /-- As the parent of a table with a header. -/
  | implied
  /-- By a dotted key. -/
  | dotted
  | inline
  deriving DecidableEq, Repr

/-- A value. Numbers and dates are kept as they are spelled. -/
inductive Value where
  | text (value : String)
  | boolean (value : Bool)
  | scalar (spelling : String)
  | array (items : List Value)
  | table (origin : Origin) (fields : List (String × Value))
  /-- The elements of an array of tables, last one first. -/
  | tables (elements : List (List (String × Value)))

/-- The fields of a table, in the order in which they came. -/
abbrev Fields : Type := List (String × Value)

namespace Fields

def replace (key : String) (value : Value) (t : Fields) : Fields :=
  t.map fun f => if f.1 = key then (key, value) else f

/-- Adds a field at the end. -/
def add (key : String) (value : Value) (t : Fields) : Fields := t ++ [(key, value)]

/-- Adds a value under a dotted key. Tables on the way come from dotted keys themselves. -/
def insert (value : Value) : List String → Fields → Option Fields
  | [], _ => none
  | [key], t => if (t.lookup key).isSome then none else some (t.add key value)
  | key :: keys, t =>
    match t.lookup key with
    | none => (insert value keys []).map fun sub => t.add key (.table .dotted sub)
    | some (.table .dotted sub) =>
      (insert value keys sub).map fun sub => t.replace key (.table .dotted sub)
    | some _ => none

/-- Changes the table or the latest element at a place that headers have made. -/
def modify (change : Fields → Option Fields) : List String → Fields → Option Fields
  | [], t => change t
  | key :: keys, t =>
    match t.lookup key with
    | some (.table origin sub) =>
      if origin = .inline then none
      else (modify change keys sub).map fun sub => t.replace key (.table origin sub)
    | some (.tables (latest :: earlier)) =>
      (modify change keys latest).map fun latest => t.replace key (.tables (latest :: earlier))
    | _ => none

/-- Makes sure that there are tables at a place; those that there are not are implied. -/
def imply : List String → Fields → Option Fields
  | [], t => some t
  | key :: keys, t =>
    match t.lookup key with
    | none => (imply keys []).map fun sub => t.add key (.table .implied sub)
    | some (.table origin sub) =>
      if origin = .inline then none
      else (imply keys sub).map fun sub => t.replace key (.table origin sub)
    | some (.tables (latest :: earlier)) =>
      (imply keys latest).map fun latest => t.replace key (.tables (latest :: earlier))
    | some _ => none

/-- Opens the table of a header. -/
def openTable (path : List String) (key : String) (t : Fields) : Option Fields := do
  let t ← imply path t
  t.modify (fun parent =>
    match parent.lookup key with
    | none => some (parent.add key (.table .header []))
    | some (.table .implied sub) => some (parent.replace key (.table .header sub))
    | some _ => none) path

/-- Opens a further element of an array of tables. -/
def openElement (path : List String) (key : String) (t : Fields) : Option Fields := do
  let t ← imply path t
  t.modify (fun parent =>
    match parent.lookup key with
    | none => some (parent.add key (.tables [[]]))
    | some (.tables elements) => some (parent.replace key (.tables ([] :: elements)))
    | some _ => none) path

end Fields

end Typings.Toml

import Typings.Json.Value

/-! # Records

Reading values of a known shape from the tree of a document. A record is written as an object, by
the names of its fields, or as a list, by their order. Fields may be absent in either form; fields
of other names are skipped.
-/

namespace Typings.Json

/-- A way to read a value of a type, with some number of brackets that may still be opened. -/
abbrev NodeReader (α : Type) : Type := Nat → Node → Except Fault α

/-- The failure of a value that is not of the expected kind. -/
def Node.mismatch (expected : String) : Node → Failure
  | .list bracket _ => ⟨.wrongKind .list expected, bracket.start⟩
  | .object bracket _ => ⟨.wrongKind .object expected, bracket.start⟩
  | .leaf t =>
    match t.lexeme with
    | .null => ⟨.wrongKind .null expected, t.stop⟩
    | .boolean value => ⟨.wrongKind (.boolean value) expected, t.stop⟩
    | .number (.ok value) => ⟨.wrongKind (.number value) expected, t.stop⟩
    | .number (.error failure) => failure
    | .text (.ok value) => ⟨.wrongKind (.text value) expected, t.stop⟩
    | .text (.error failure) => failure
    | .broken _ reading => reading
    | .brokenText _ reading => reading
    | .mark _ | .stray | .finish => t.missing

/-- The node is the word `null`. -/
def Node.isNull : Node → Bool
  | .leaf t => match t.lexeme with
    | .null => true
    | _ => false
  | _ => false

namespace NodeReader

def text : NodeReader String := fun _ node =>
  match node with
  | .leaf ⟨.text (.ok value), _, _⟩ => .ok value
  | node => .error ⟨[], node.mismatch "a string"⟩

/-- Reads `true` or `false`. -/
def boolean : NodeReader Bool := fun _ node =>
  match node with
  | .leaf ⟨.boolean value, _, _⟩ => .ok value
  | node => .error ⟨[], node.mismatch "a boolean"⟩

def value : NodeReader Value := Node.readValue

/-- Reads `null` as nothing and leaves every other value to the reader. -/
def optional {α : Type} (reader : NodeReader α) : NodeReader (Option α) := fun room node =>
  if node.isNull then .ok none else (reader room node).map some

/-- Reads items, the first of which has the given index. -/
def items {α : Type} (reader : NodeReader α) (room : Nat) (index : Nat) :
    Items → Except Fault (List α)
  | .done ending => ending.read.map fun _ => []
  | .item node rest => do
    let first ← within (.index index) (reader room node)
    let others ← items reader room (index + 1) rest
    return first :: others

def list {α : Type} (reader : NodeReader α) : NodeReader (List α) := fun room node =>
  match node with
  | .list bracket contents =>
    match room with
    | 0 => .error ⟨[], .tooDeep, bracket.faultPosition⟩
    | room + 1 => items reader room 0 contents
  | node => .error ⟨[], node.mismatch "a sequence"⟩

end NodeReader

/-- A field of a record type: its name, and how a value of the field changes a record. -/
structure RecordField (σ : Type) where
  name : String
  read : Nat → Node → σ → Except Fault σ

namespace RecordField

/-- A field whose value is read on its own and then put into the record. -/
def of {σ α : Type} (name : String) (reader : NodeReader α) (put : α → σ → σ) : RecordField σ where
  name := name
  read room node record := (reader room node).map (put · record)

end RecordField

/-- The place behind a key and the whitespace after it, and behind a closing bracket there. -/
def placeAfterKey : Option Token → Position
  | some t => if t.isMark .closeObject then t.stop else t.start
  | none => {}

/-- Reads a field of the given name into a record, unless one of that name has been read. `next` is
the token behind the key and `node` its value. -/
def readNamedField {σ : Type} (layout : List (RecordField σ)) (seen : List String) (name : String)
    (next : Option Token) : Except Fault (Option (RecordField σ)) :=
  match layout.find? (·.name == name) with
  | none => .ok none
  | some field =>
    if seen.contains name then .error ⟨[], .duplicateField name, placeAfterKey next⟩
    else .ok (some field)

/-- Reads the fields of an object into a record. `seen` holds the names read before. -/
def readFieldsInto {σ : Type} (layout : List (RecordField σ)) (room : Nat) (seen : List String)
    (record : σ) : Fields → Except Fault σ
  | .done (.noColon key found) => do
    let name ← key.readKey
    let _ ← readNamedField layout seen name found
    let _ ← ObjectEnd.missingColon found
    return record
  | .done ending => ending.read.map fun _ => record
  | .field key colon node rest => do
    let name ← key.readKey
    match ← readNamedField layout seen name (some colon) with
    | none =>
      match node.skip with
      | .ok () => readFieldsInto layout room seen record rest
      | .error failure => .error ⟨[.key name], failure⟩
    | some field =>
      let record ← within (.key name) (field.read room node record)
      readFieldsInto layout room (name :: seen) record rest

/-- The number of items. -/
def Items.length : Items → Nat
  | .done _ => 0
  | .item _ rest => rest.length + 1

/-- The place where a fault at a node shows. -/
def Node.faultPosition : Node → Position
  | .leaf t => t.faultPosition
  | .list bracket _ => bracket.faultPosition
  | .object bracket _ => bracket.faultPosition

/-- The fault of what follows the last field of a record of `length` fields that is written as a
list. -/
def readRecordEnd (length : Nat) : Items → Except Fault Unit
  | .item node rest => .error ⟨[], .tooLong (length + 1 + rest.length), node.faultPosition⟩
  | .done .closed => .ok ()
  | .done .cut => .ok ()
  | .done (.noSeparator t) =>
    .error ⟨[], if t.isFinish then .endInList else .trailingText, t.faultPosition⟩
  | .done (.noItem t) =>
    .error ⟨[], if t.isFinish then .trailingText else .trailingComma, t.faultPosition⟩

/-- Reads the items of a list into a record, field by field. -/
def readItemsInto {σ : Type} (room : Nat) (index : Nat) (record : σ) :
    List (RecordField σ) → Items → Except Fault σ
  | [], contents => (readRecordEnd index contents).map fun _ => record
  | _ :: _, .done ending => ending.read.map fun _ => record
  | field :: fields, .item node rest => do
    let record ← within (.index index) (field.read room node record)
    readItemsInto room (index + 1) record fields rest

/-- Reads a record, starting from one without any field. `label` names the record type. -/
def NodeReader.record {σ : Type} (label : String) (layout : List (RecordField σ)) (empty : σ) :
    NodeReader σ := fun room node =>
  match node, room with
  | .leaf t, _ => .error ⟨[], (Node.leaf t).mismatch label⟩
  | .list bracket _, 0 => .error ⟨[], .tooDeep, bracket.faultPosition⟩
  | .object bracket _, 0 => .error ⟨[], .tooDeep, bracket.faultPosition⟩
  | .list _ contents, room + 1 => readItemsInto room 0 empty layout contents
  | .object _ fields, room + 1 => readFieldsInto layout room [] empty fields

end Typings.Json

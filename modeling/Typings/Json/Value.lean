import Typings.Json.Document

/-! # Values

JSON values, their compact text, and how a value is read from the tree of a document. The fields of
an object are kept in the order of their keys, and of two fields with one key the later one stays.
-/

namespace Typings.Json

inductive Value where
  | null
  | boolean (value : Bool)
  | number (value : Number)
  | text (value : String)
  | list (items : List Value)
  | object (fields : List (String × Value))
  deriving Inhabited

/-- Puts a field into a list of fields in key order, in the place of a field with the same key. -/
def insertField (key : String) (value : Value) : List (String × Value) → List (String × Value)
  | [] => [(key, value)]
  | (k, v) :: rest =>
    if key < k then (key, value) :: (k, v) :: rest
    else if k = key then (key, value) :: rest
    else (k, v) :: insertField key value rest

namespace Value

def field? (key : String) : Value → Option Value
  | object fields => fields.lookup key
  | _ => none

end Value

/-! ## Compact text -/

/-- The spelling of a character inside a text. -/
def escapeInText (c : Char) : List Char :=
  if c = '"' then ['\\', '"']
  else if c = '\\' then ['\\', '\\']
  else if c = '\n' then ['\\', 'n']
  else if c = '\r' then ['\\', 'r']
  else if c = '\t' then ['\\', 't']
  else if c.toNat = 8 then ['\\', 'b']
  else if c.toNat = 12 then ['\\', 'f']
  else if isControl c then
    ['\\', 'u', '0', '0', Nat.digitChar (c.toNat / 16), Nat.digitChar (c.toNat % 16)]
  else [c]

/-- A text between quotes. -/
def textLiteral (s : String) : String :=
  String.ofList ('"' :: s.toList.flatMap escapeInText ++ ['"'])

mutual

/-- The text of a value, without any whitespace. -/
def Value.compact : Value → String
  | .null => "null"
  | .boolean true => "true"
  | .boolean false => "false"
  | .number value => value.text
  | .text value => textLiteral value
  | .list items => "[" ++ ",".intercalate (compactItems items) ++ "]"
  | .object fields => "\x7b" ++ ",".intercalate (compactFields fields) ++ "\x7d"

def compactItems : List Value → List String
  | [] => []
  | value :: rest => value.compact :: compactItems rest

def compactFields : List (String × Value) → List String
  | [] => []
  | (key, value) :: rest => (textLiteral key ++ ":" ++ value.compact) :: compactFields rest

end

/-! ## Reading

Readers work on a tree and stop at the first fault in the order of the text. `room` is the number
of brackets that may still be opened.
-/

/-- The number of brackets that may be open at a time. -/
def maxDepth : Nat := 127

namespace Token

/-- The fault of a token that is read where a value was expected. -/
def missing (t : Token) : Failure :=
  ⟨if t.isFinish then .endInValue else .expectedValue, t.faultPosition⟩

/-- The text of a key. -/
def readKey (t : Token) : Except Fault String :=
  match t.lexeme with
  | .text (.ok s) => .ok s
  | .text (.error failure) => .error ⟨[.unreadable], failure⟩
  | .brokenText _ reading => .error ⟨[.unreadable], reading⟩
  | _ => .error ⟨[.unreadable], ⟨.expectedKey, t.faultPosition⟩⟩

end Token

/-- The fault where the items of a list end. -/
def ListEnd.read : ListEnd → Except Fault Unit
  | closed => .ok ()
  | noSeparator t =>
    .error ⟨[], if t.isFinish then .endInList else .expectedListSeparator, t.faultPosition⟩
  | noItem t => .error ⟨[], if t.isFinish then .endInValue else .trailingComma, t.faultPosition⟩
  | cut => .ok ()

namespace ObjectEnd

/-- The fault where the colon of a field is missing. -/
def missingColon : Option Token → Except Fault Unit
  | none => .ok ()
  | some t => .error ⟨[], if t.isFinish then .endInObject else .expectedColon, t.faultPosition⟩

/-- The fault where the next field is missing, which is no field's own. -/
def read : ObjectEnd → Except Fault Unit
  | closed => .ok ()
  | noSeparator t =>
    .error ⟨[.unreadable], if t.isFinish then .endInObject else .expectedObjectSeparator,
      t.faultPosition⟩
  | noKey afterComma t =>
    let reason : Reason :=
      if t.isFinish then (if afterComma then .endInValue else .endInObject)
      else if afterComma && t.isMark .closeObject then .trailingComma
      else .expectedKey
    .error ⟨[.unreadable], reason, t.faultPosition⟩
  | noColon _ found => missingColon found
  | cut => .ok ()

end ObjectEnd

def Token.readScalar (t : Token) : Except Fault Value :=
  match t.lexeme with
  | .null => .ok .null
  | .boolean value => .ok (.boolean value)
  | .number (.ok value) => .ok (.number value)
  | .number (.error failure) => .error ⟨[], failure⟩
  | .text (.ok value) => .ok (.text value)
  | .text (.error failure) => .error ⟨[], failure⟩
  | .broken _ reading => .error ⟨[], reading⟩
  | .brokenText _ reading => .error ⟨[], reading⟩
  | .mark _ | .stray | .finish => .error ⟨[], t.missing⟩

mutual

def Node.readValue (room : Nat) : Node → Except Fault Value
  | .leaf token => token.readScalar
  | .list bracket items =>
    match room with
    | 0 => .error ⟨[], .tooDeep, bracket.faultPosition⟩
    | room + 1 => (items.readValues room 0).map .list
  | .object bracket fields =>
    match room with
    | 0 => .error ⟨[], .tooDeep, bracket.faultPosition⟩
    | room + 1 => (fields.readValues room []).map .object

/-- The values of items, the first of which has the given index. -/
def Items.readValues (room : Nat) (index : Nat) : Items → Except Fault (List Value)
  | .done ending => ending.read.map fun _ => []
  | .item node rest => do
    let value ← within (.index index) (node.readValue room)
    let values ← rest.readValues room (index + 1)
    return value :: values

/-- The fields read so far together with the ones that follow. -/
def Fields.readValues (room : Nat) (before : List (String × Value)) :
    Fields → Except Fault (List (String × Value))
  | .done (.noColon key found) => do
    let _ ← key.readKey
    let _ ← ObjectEnd.missingColon found
    return before
  | .done ending => ending.read.map fun _ => before
  | .field key _ node rest => do
    let name ← key.readKey
    let value ← within (.key name) (node.readValue room)
    rest.readValues room (insertField name value before)

end

namespace Value

/-- The value of a text that holds one value and whitespace. -/
def ofText? (text : String) : Option Value :=
  match readDocument text.toList with
  | (node, [last]) => if last.isFinish then (node.readValue maxDepth).toOption else none
  | _ => none

end Value

/-! ## Values as documents -/

mutual

/-- A document that holds the value, without places. -/
def Value.toNode : Value → Node
  | .null => .leaf ⟨.null, {}, {}⟩
  | .boolean value => .leaf ⟨.boolean value, {}, {}⟩
  | .number value => .leaf ⟨.number (.ok value), {}, {}⟩
  | .text value => .leaf ⟨.text (.ok value), {}, {}⟩
  | .list items => .list ⟨.mark .openList, {}, {}⟩ (itemsOfValues items)
  | .object fields => .object ⟨.mark .openObject, {}, {}⟩ (fieldsOfValues fields)

def itemsOfValues : List Value → Items
  | [] => .done .closed
  | value :: rest => .item value.toNode (itemsOfValues rest)

def fieldsOfValues : List (String × Value) → Fields
  | [] => .done .closed
  | (key, value) :: rest =>
    .field ⟨.text (.ok key), {}, {}⟩ ⟨.mark .colon, {}, {}⟩ value.toNode (fieldsOfValues rest)

end

end Typings.Json

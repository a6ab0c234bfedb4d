import Typings.Json.Token

/-! # Documents

The tree of a JSON text, whether the text is well formed or not. Where a bracket is not closed as
it should be, its contents end with what was found instead, so that whoever reads the tree from
left to right meets every fault of the text in its place.
-/

namespace Typings.Json

/-- How the items of a list end. -/
inductive ListEnd where
  | closed
  /-- A token stands where a comma or the closing bracket was expected. -/
  | noSeparator (found : Token)
  /-- After a comma, a token stands where an item was expected. -/
  | noItem (found : Token)
  /-- The last item is broken off. -/
  | cut

/-- How the fields of an object end. -/
inductive ObjectEnd where
  | closed
  | noSeparator (found : Token)
  /-- A token stands where a key was expected. -/
  | noKey (afterComma : Bool) (found : Token)
  /-- After a key, a token stands where the colon was expected; none where the key is broken. -/
  | noColon (key : Token) (found : Option Token)
  /-- The last value is broken off. -/
  | cut

mutual

/-- A value with its places. A leaf that is no scalar is a value that is missing. -/
inductive Node where
  | leaf (token : Token)
  | list (bracket : Token) (items : Items)
  | object (bracket : Token) (fields : Fields)

/-- The items of a list. -/
inductive Items where
  | done (ending : ListEnd)
  | item (value : Node) (rest : Items)

/-- The fields of an object. -/
inductive Fields where
  | done (ending : ObjectEnd)
  | field (key colon : Token) (value : Node) (rest : Fields)

end

namespace Token

def isMark (t : Token) (m : Mark) : Bool :=
  match t.lexeme with
  | .mark n => m == n
  | _ => false

/-- The token can be a key. -/
def isText (t : Token) : Bool :=
  match t.lexeme with
  | .text _ => true
  | .brokenText _ _ => true
  | _ => false

/-- The token is the end of the text. -/
def isFinish (t : Token) : Bool :=
  match t.lexeme with
  | .finish => true
  | _ => false

/-- The place that a fault at this token shows: behind its first byte, if it has one. -/
def faultPosition (t : Token) : Position :=
  if t.isFinish then t.start else t.start.skip 1

end Token

/-! ## From tokens to the tree -/

mutual

/-- The value at the head of the tokens, with the tokens behind it. No tokens are left where the
text is broken off. -/
def readNode : Nat → List Token → Node × List Token
  | limit + 1, token :: rest =>
    if token.isMark .openList then
      let (items, rest) := readItems limit true rest
      (.list token items, rest)
    else if token.isMark .openObject then
      let (fields, rest) := readFields limit true rest
      (.object token fields, rest)
    else if token.lexeme.isLast then (.leaf token, [])
    else
      match token.lexeme with
      | .mark _ => (.leaf token, [])
      | _ => (.leaf token, rest)
  | _, _ => (.leaf ⟨.finish, {}, {}⟩, [])

/-- The items of a list, behind its opening bracket or behind an item. -/
def readItems : Nat → Bool → List Token → Items × List Token
  | limit + 1, isFirst, token :: rest =>
    if token.isMark .closeList then (.done .closed, rest)
    else if isFirst then
      if token.isFinish then (.done (.noSeparator token), [])
      else
        let (value, rest) := readNode limit (token :: rest)
        let (items, rest) := readItems limit false rest
        (.item value items, rest)
    else if token.isMark .comma then
      match rest with
      | next :: rest =>
        if next.isMark .closeList || next.isFinish then (.done (.noItem next), [])
        else
          let (value, rest) := readNode limit (next :: rest)
          let (items, rest) := readItems limit false rest
          (.item value items, rest)
      | [] => (.done .cut, [])
    else (.done (.noSeparator token), [])
  | _, _, _ => (.done .cut, [])

/-- The fields of an object, behind its opening bracket or behind a field. -/
def readFields : Nat → Bool → List Token → Fields × List Token
  | limit + 1, isFirst, token :: rest =>
    if token.isMark .closeObject then (.done .closed, rest)
    else if isFirst then readField limit false token rest
    else if token.isMark .comma then
      match rest with
      | next :: rest => readField limit true next rest
      | [] => (.done .cut, [])
    else (.done (.noSeparator token), [])
  | _, _, _ => (.done .cut, [])

/-- A field whose key is the given token, with the fields behind it. -/
def readField : Nat → Bool → Token → List Token → Fields × List Token
  | limit + 1, afterComma, key, rest =>
    if key.isText then
      match rest with
      | colon :: rest =>
        if colon.isMark .colon then
          let (value, rest) := readNode limit rest
          let (fields, rest) := readFields limit false rest
          (.field key colon value fields, rest)
        else (.done (.noColon key (some colon)), [])
      | [] => (.done (.noColon key none), [])
    else (.done (.noKey afterComma key), [])
  | _, _, _, _ => (.done .cut, [])

end

/-- The first value of a text, with the tokens behind it. -/
def readDocument (text : List Char) : Node × List Token :=
  let tokens := tokens text
  readNode (2 * tokens.length + 2) tokens

/-! ## Skipping -/

/-- The failure of a key or a scalar that is passed without being read. -/
def Token.skip (t : Token) : Except Failure Unit :=
  match t.lexeme with
  | .null | .boolean _ | .number _ | .text _ => .ok ()
  | .broken skipping _ => .error skipping
  | .brokenText skipping _ => .error skipping
  | .finish => .error ⟨.endInValue, t.faultPosition⟩
  | .mark _ | .stray => .error ⟨.expectedValue, t.faultPosition⟩

namespace ListEnd

/-- The failure of a list that is passed without being read. -/
def skip : ListEnd → Except Failure Unit
  | closed => .ok ()
  | noSeparator t =>
    .error ⟨if t.isFinish then .endInList else .expectedListSeparator, t.faultPosition⟩
  | noItem t => .error ⟨if t.isFinish then .endInValue else .expectedValue, t.faultPosition⟩
  | cut => .ok ()

end ListEnd

namespace ObjectEnd

/-- The failure of an object that is passed without being read. -/
def skip : ObjectEnd → Except Failure Unit
  | closed => .ok ()
  | noSeparator t =>
    .error ⟨if t.isFinish then .endInObject else .expectedObjectSeparator, t.faultPosition⟩
  | noKey _ t => .error ⟨if t.isFinish then .endInObject else .expectedKey, t.faultPosition⟩
  | noColon key found => do
    key.skip
    match found with
    | none => .ok ()
    | some t => .error ⟨if t.isFinish then .endInObject else .expectedColon, t.faultPosition⟩
  | cut => .ok ()

end ObjectEnd

mutual

/-- The first failure in a value that is passed without being read. -/
def Node.skip : Node → Except Failure Unit
  | .leaf token => token.skip
  | .list _ items => items.skip
  | .object _ fields => fields.skip

def Items.skip : Items → Except Failure Unit
  | .done ending => ending.skip
  | .item value rest => do
    value.skip
    rest.skip

def Fields.skip : Fields → Except Failure Unit
  | .done ending => ending.skip
  | .field key _ value rest => do
    key.skip
    value.skip
    rest.skip

end

end Typings.Json

import Typings.Docs.Entry
import Typings.Text.Blank

/-! # Shapes of return types

What a return type stands for: an array, a single literal, or a plain type. The documentation tells
the three apart only by which fields it fills in, so a description that fits none of them is no
error but a shape of its own.
-/

namespace Typings.Docs

inductive LiteralKind where
  | string
  | number
  deriving DecidableEq, Repr

/-- What a return type stands for. -/
inductive Shape where
  /-- An array, with the type of its elements where it is documented. -/
  | array (element : Option String)
  /-- One value of an enumeration. -/
  | enumeration (literal : String) (kind : LiteralKind)
  /-- A type that is not narrowed to a value. -/
  | other (type : String)
  | unrecognized
  deriving DecidableEq, Repr

/-- A nonempty text of digits and points with some digit and at most one point. -/
def isPlainDecimal (cs : List Char) : Bool :=
  cs.all (fun c => c.isDigit || c == '.') && cs.any Char.isDigit && cs.count '.' ≤ 1

/-- A zero with another digit behind it. -/
def hasLeadingZero : List Char → Bool
  | '0' :: c :: _ => c.isDigit
  | _ => false

/-- The text is the spelling of a numeric literal type: a plain decimal behind at most one minus
sign. -/
def isNumericLiteral (s : String) : Bool :=
  let digits := match s.toList with
    | '-' :: rest => rest
    | cs => cs
  !hasLeadingZero digits && isPlainDecimal digits

def classify (rt : ReturnType) : Shape :=
  match rt.type with
  | none => .unrecognized
  | some type =>
    if type.isEmpty then .unrecognized
    else if type = "array" then .array (rt.arrayValue.filter fun v => Text.hasInk v.toList)
    else
      match rt.nameText with
      | none => .unrecognized
      | some literal =>
        if literal.isEmpty then .other type
        else if type = "string" then .enumeration literal .string
        else if type = "number" ∧ isNumericLiteral literal then .enumeration literal .number
        else .unrecognized

def Shape.isArray : Shape → Bool
  | array _ => true
  | _ => false

end Typings.Docs

import Typings.Tools.Shell.Script

/-! # Expressions

Whole numbers of 64 bits that are worked out from others and from the values of variables, with
the usual operators in their usual order.
-/

namespace Typings.Tools.Shell

/-- An operator in front of an operand. -/
inductive UnaryOperator where
  | minus
  | negation
  | complement
  deriving DecidableEq, Repr

/-- An operator between two operands. -/
inductive BinaryOperator where
  | times
  | quotient
  | remainder
  | plus
  | minus
  | shiftLeft
  | shiftRight
  | less
  | lessEqual
  | greater
  | greaterEqual
  | equal
  | unequal
  | bitAnd
  | bitXor
  | bitOr
  deriving DecidableEq, Repr

/-- Why an expression has no value. -/
inductive ExpressionError where
  | expectingPrimary
  | expectingBracket
  | expectingColon
  | expectingEnd
  | divisionByZero
  /-- A variable has a value that is no number. -/
  | illegalNumber (value : Bytes)
  /-- A variable cannot be written. -/
  | readOnly (name : String)
  deriving DecidableEq, Repr

/-- How a number is worked out. -/
inductive Expression where
  | number (n : Int)
  | ofName (name : String)
  | unary (op : UnaryOperator) (operand : Expression)
  | binary (op : BinaryOperator) (left right : Expression)
  | both (left right : Expression)
  | either (left right : Expression)
  | choice (condition first second : Expression)
  | assign (name : String) (op : Option BinaryOperator) (value : Expression)
  /-- An expression behind which something is wrong with the text. What is in front is worked out
  all the same, and can have a fault of its own. -/
  | faulty (before : Expression) (fault : ExpressionError)
  deriving DecidableEq, Repr

/-- What is wrong with a text as an expression. -/
def ExpressionError.message (text : Bytes) : ExpressionError → Bytes
  | expectingPrimary => about "expecting primary"
  | expectingBracket => about "expecting ')'"
  | expectingColon => about "expecting ':'"
  | expectingEnd => about "expecting EOF"
  | divisionByZero => about "division by zero"
  | illegalNumber value => bytesOf "Illegal number: " ++ value
  | readOnly name => bytesOf (name ++ ": is read only")
where
  about (what : String) : Bytes :=
    bytesOf ("arithmetic expression: " ++ what ++ ": \"") ++ text ++ bytesOf "\""

namespace Expression

/-- The least and the greatest number. -/
def least : Int := -0x8000000000000000

/-- The greatest number of 64 bits. -/
def greatest : Int := 0x7fffffffffffffff

/-- The number of 64 bits that another one runs over to. -/
def wrapped (n : Int) : Int := n.bmod 0x10000000000000000

/-- The nearest number of 64 bits. -/
def clamped (n : Int) : Int := max least (min n greatest)

/-- The bits of a number as a natural number. -/
def bits (n : Int) : Nat := (n.emod 0x10000000000000000).toNat

/-- A truth value as a number. -/
def ofBool (b : Bool) : Int := if b then 1 else 0

end Expression

open Expression in
/-- The number that an operator makes of another one. -/
def UnaryOperator.apply (n : Int) : UnaryOperator → Int
  | .minus => wrapped (-n)
  | .negation => ofBool (n == 0)
  | .complement => -n - 1

open Expression in
/-- Numbers are shifted by the last six bits of another one. -/
def BinaryOperator.apply (a b : Int) : BinaryOperator → Except ExpressionError Int
  | .times => .ok (wrapped (a * b))
  | .quotient => if b = 0 then .error .divisionByZero else .ok (wrapped (a.tdiv b))
  | .remainder => if b = 0 then .error .divisionByZero else .ok (a.tmod b)
  | .plus => .ok (wrapped (a + b))
  | .minus => .ok (wrapped (a - b))
  | .shiftLeft => .ok (wrapped (a * (Nat.pow 2 (b.emod 64).toNat : Nat)))
  | .shiftRight => .ok (a.fdiv (Nat.pow 2 (b.emod 64).toNat : Nat))
  | .less => .ok (ofBool (a < b))
  | .lessEqual => .ok (ofBool (a ≤ b))
  | .greater => .ok (ofBool (b < a))
  | .greaterEqual => .ok (ofBool (b ≤ a))
  | .equal => .ok (ofBool (a == b))
  | .unequal => .ok (ofBool (a != b))
  | .bitAnd => .ok (wrapped (Nat.land (bits a) (bits b)))
  | .bitXor => .ok (wrapped (Nat.xor (bits a) (bits b)))
  | .bitOr => .ok (wrapped (Nat.lor (bits a) (bits b)))

namespace Expression

/-! ## Reading -/

/-- A sign of a written expression. -/
inductive Token where
  | number (n : Int)
  | name (text : String)
  | operator (text : String)
  deriving DecidableEq, Repr

def digitValue (c : Char) : Nat :=
  if c.isDigit then c.toNat - 48
  else if c.isLower then c.toNat - 87
  else c.toNat - 55

def valueOf (base : Nat) (digits : List Char) : Nat :=
  digits.foldl (fun n d => n * base + digitValue d) 0

/-- The character is a digit to base sixteen. -/
def isHexDigit (c : Char) : Bool := c.isDigit || ('a' ≤ c && c ≤ 'f') || ('A' ≤ c && c ≤ 'F')

/-- The character is a digit to base eight. -/
def isOctalDigit (c : Char) : Bool := '0' ≤ c && c ≤ '7'

/-- The number that a text begins with, in base sixteen behind `0x` and in base eight behind another
zero. -/
def readNumber (text : List Char) : Nat × List Char :=
  let decimal := (valueOf 10 (text.takeWhile Char.isDigit), text.dropWhile Char.isDigit)
  match text with
  | '0' :: x :: d :: _ =>
    if (x = 'x' ∨ x = 'X') ∧ isHexDigit d then
      (valueOf 16 ((text.drop 2).takeWhile isHexDigit), (text.drop 2).dropWhile isHexDigit)
    else (valueOf 8 (text.takeWhile isOctalDigit), text.dropWhile isOctalDigit)
  | '0' :: _ => (valueOf 8 (text.takeWhile isOctalDigit), text.dropWhile isOctalDigit)
  | _ => decimal

/-- The operators, longer ones first. -/
def operators : List String :=
  ["<<=", ">>=", "<<", ">>", "<=", ">=", "==", "!=", "&&", "||", "+=", "-=", "*=", "/=", "%=", "&=",
    "^=", "|=", "+", "-", "*", "/", "%", "<", ">", "=", "!", "~", "&", "^", "|", "?", ":", "(", ")"]

/-- The character separates signs. -/
def isSpace (c : Char) : Bool := c == ' ' || c == '\t' || c == '\n'

/-- Cuts a text into tokens. A character that belongs to none becomes an operator by itself. -/
def tokensOf : Nat → List Char → List Token
  | 0, _ => []
  | _, [] => []
  | limit + 1, c :: rest =>
    if isSpace c then tokensOf limit rest
    else if c.isDigit then
      let (n, rest) := readNumber (c :: rest)
      .number (clamped n) :: tokensOf limit rest
    else if isNameStart c then
      let name := (c :: rest).takeWhile isNameChar
      .name (String.ofList name) :: tokensOf limit ((c :: rest).drop name.length)
    else
      match operators.find? fun o => o.toList.isPrefixOf (c :: rest) with
      | some o => .operator o :: tokensOf limit ((c :: rest).drop o.length)
      | none => .operator c.toString :: tokensOf limit rest

/-- The operators between two operands, with a level that is the lower the closer they bind. -/
def binaryOperators : List (String × BinaryOperator × Nat) :=
  [("*", .times, 0), ("/", .quotient, 0), ("%", .remainder, 0), ("+", .plus, 1), ("-", .minus, 1),
    ("<<", .shiftLeft, 2), (">>", .shiftRight, 2), ("<", .less, 3), ("<=", .lessEqual, 3),
    (">", .greater, 3), (">=", .greaterEqual, 3), ("==", .equal, 4), ("!=", .unequal, 4),
    ("&", .bitAnd, 5), ("^", .bitXor, 6), ("|", .bitOr, 7)]

/-- The level of the operators that bind least. -/
def loosest : Nat := 7

/-- The operators that assign, with the one that is applied before. -/
def assignments : List (String × Option BinaryOperator) :=
  [("=", none), ("*=", some .times), ("/=", some .quotient), ("%=", some .remainder),
    ("+=", some .plus), ("-=", some .minus), ("<<=", some .shiftLeft), (">>=", some .shiftRight),
    ("&=", some .bitAnd), ("^=", some .bitXor), ("|=", some .bitOr)]

/-- A place where an operand is missing. -/
def missing (fault : ExpressionError) : Expression × List Token := (.faulty (.number 0) fault, [])

mutual

/-- Reads what an operator can stand between. -/
def readPrimary (limit : Nat) (given : List Token) : Expression × List Token :=
  match limit with
  | 0 => missing .expectingPrimary
  | limit + 1 =>
    match given with
    | .number n :: rest => (.number n, rest)
    | .name name :: rest => (.ofName name, rest)
    | .operator "+" :: rest => readPrimary limit rest
    | .operator "-" :: rest =>
      let (operand, rest) := readPrimary limit rest
      (.unary .minus operand, rest)
    | .operator "!" :: rest =>
      let (operand, rest) := readPrimary limit rest
      (.unary .negation operand, rest)
    | .operator "~" :: rest =>
      let (operand, rest) := readPrimary limit rest
      (.unary .complement operand, rest)
    | .operator "(" :: rest =>
      match readAssignment limit rest with
      | (inner, .operator ")" :: rest) => (inner, rest)
      | (inner, _) => (.faulty inner .expectingBracket, [])
    | _ => missing .expectingPrimary

/-- Reads operands with operators between them that bind at least as closely as a level says. -/
def readBinary (limit loosest : Nat) (given : List Token) : Expression × List Token :=
  match limit with
  | 0 => missing .expectingPrimary
  | limit + 1 =>
    let (first, rest) := readPrimary limit given
    readBinaryAfter limit loosest first rest

/-- Reads operators and operands behind a first operand. -/
def readBinaryAfter (limit loosest : Nat) (first : Expression) (given : List Token) :
    Expression × List Token :=
  match limit with
  | 0 => (first, given)
  | limit + 1 =>
    match given with
    | .operator text :: rest =>
      match binaryOperators.lookup text with
      | some (op, looseness) =>
        if looseness ≤ loosest then
          let (second, rest) := match looseness with
            | 0 => readPrimary limit rest
            | closer + 1 => readBinary limit closer rest
          readBinaryAfter limit loosest (.binary op first second) rest
        else (first, given)
      | none => (first, given)
    | _ => (first, given)

/-- Reads operands that all have to be true. -/
def readBoth (limit : Nat) (given : List Token) : Expression × List Token :=
  match limit with
  | 0 => missing .expectingPrimary
  | limit + 1 =>
    match readBinary limit loosest given with
    | (first, .operator "&&" :: rest) =>
      let (second, rest) := readBoth limit rest
      (.both first second, rest)
    | read => read

/-- Reads operands of which one has to be true. -/
def readEither (limit : Nat) (given : List Token) : Expression × List Token :=
  match limit with
  | 0 => missing .expectingPrimary
  | limit + 1 =>
    match readBoth limit given with
    | (first, .operator "||" :: rest) =>
      let (second, rest) := readEither limit rest
      (.either first second, rest)
    | read => read

/-- Reads a choice between two operands. -/
def readChoiceBetween (limit : Nat) (given : List Token) : Expression × List Token :=
  match limit with
  | 0 => missing .expectingPrimary
  | limit + 1 =>
    match readEither limit given with
    | (condition, .operator "?" :: rest) =>
      let (first, rest) := readAssignment limit rest
      let (second, rest) := match rest with
        | .operator ":" :: rest => readChoiceBetween limit rest
        | _ => missing .expectingColon
      (.choice condition first second, rest)
    | read => read

def readAssignment (limit : Nat) (given : List Token) : Expression × List Token :=
  match limit with
  | 0 => missing .expectingPrimary
  | limit + 1 =>
    match given with
    | .name name :: .operator text :: rest =>
      match assignments.lookup text with
      | some op =>
        let (value, rest) := readAssignment limit rest
        (.assign name op value, rest)
      | none => readChoiceBetween limit given
    | _ => readChoiceBetween limit given

end

def read (text : List Char) : Expression :=
  match readAssignment (10 * text.length + 20) (tokensOf text.length text) with
  | (e, []) => e
  | (e, _) => .faulty e .expectingEnd

/-! ## Values -/

/-- The number that is the value of a variable. A variable without a value counts as zero. -/
def ofValue (value : Bytes) : Except ExpressionError Int :=
  let text := (value.map fun b => Char.ofNat b.toNat).dropWhile Char.isWhitespace
  let (isNegative, digits) := match text with
    | '-' :: rest => (true, rest)
    | '+' :: rest => (false, rest)
    | rest => (false, rest)
  let (n, rest) := if (digits.headD ' ').isDigit then readNumber digits else (0, text)
  let n : Int := if isNegative then -n else n
  if rest.all Char.isWhitespace && clamped n == n then .ok n else .error (.illegalNumber value)

/-- Variables that an expression can read and write. -/
structure Variables (σ : Type) where
  read : σ → String → Bytes
  /-- The variables with a new value for one of them, unless it cannot be written. -/
  write : σ → String → Bytes → Except ExpressionError σ

/-- What is wrong with an expression whose value is not needed: only its text can be wrong. -/
def skip : Expression → Except ExpressionError Unit
  | number _ | ofName _ => .ok ()
  | unary _ operand => skip operand
  | binary _ left right | both left right | either left right => do
    skip left
    skip right
  | choice condition first second => do
    skip condition
    skip first
    skip second
  | assign _ _ value => skip value
  | faulty before fault => do
    skip before
    throw fault

/-- Works out the value of an expression, together with the variables as they are then. -/
def evaluate {σ : Type} (v : Variables σ) (s : σ) : Expression → Except ExpressionError (Int × σ)
  | number n => .ok (n, s)
  | ofName name => do return (← ofValue (v.read s name), s)
  | unary op operand => do
    let (n, s) ← evaluate v s operand
    return (op.apply n, s)
  | binary op left right => do
    let (a, s) ← evaluate v s left
    let (b, s) ← evaluate v s right
    return (← op.apply a b, s)
  | both left right => do
    let (a, s) ← evaluate v s left
    if a = 0 then
      skip right
      return (0, s)
    let (b, s) ← evaluate v s right
    return (ofBool (b != 0), s)
  | either left right => do
    let (a, s) ← evaluate v s left
    if a ≠ 0 then
      skip right
      return (1, s)
    let (b, s) ← evaluate v s right
    return (ofBool (b != 0), s)
  | choice condition first second => do
    let (c, s) ← evaluate v s condition
    if c ≠ 0 then
      let (n, s) ← evaluate v s first
      skip second
      return (n, s)
    skip first
    evaluate v s second
  | faulty before fault => do
    let _ ← evaluate v s before
    throw fault
  | assign name op value => do
    let (n, s) ← evaluate v s value
    let n ← match op with
      | none => pure n
      | some op => op.apply (← ofValue (v.read s name)) n
    return (n, ← v.write s name (bytesOf (toString n)))

end Expression

end Typings.Tools.Shell

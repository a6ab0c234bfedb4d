import Typings.Tools.Shell.Process

/-! # Tests

The command `test`: conditions on texts, numbers and files, joined by `-a`, `-o`, `!` and brackets.
What an argument means depends on the arguments around it, so that operators can be operands where
nothing else makes sense.
-/

namespace Typings.Tools.Shell

open Files

/-- What an argument of a test is. -/
inductive TestSign where
  | operand
  | unary (letter : Char)
  | binary (name : String)
  | negation
  | conjunction
  | disjunction
  | opening
  | closing
  | endOfTest
  deriving DecidableEq, Repr

/-- The operators between two operands. -/
def binaryTests : List String :=
  ["=", "!=", "<", ">", "-eq", "-ne", "-ge", "-gt", "-le", "-lt", "-nt", "-ot", "-ef"]

/-- The letters of the operators in front of one operand. -/
def unaryTests : List Char := "rwxefdcbpugkstznhOGLS".toList

/-- The operator that an argument names. -/
def signOf? (argument : Bytes) : Option TestSign :=
  let text := textOf argument
  match text.toList with
  | ['!'] => some .negation
  | ['('] => some .opening
  | [')'] => some .closing
  | ['-', 'a'] => some .conjunction
  | ['-', 'o'] => some .disjunction
  | ['-', c] => if unaryTests.contains c then some (.unary c) else none
  | _ => if binaryTests.contains text then some (.binary text) else none

/-- How a test has been evaluated: its arguments, and the place that it has come to. -/
structure Test where
  arguments : Array Bytes
  place : Nat := 0
  files : Store
  directory : String

namespace Test

/-- A text that is no number, or an argument that cannot stand where it does. -/
abbrev Fault : Type := Bytes

/-- The argument at a place. -/
def argument? (t : Test) (i : Nat) : Option Bytes := t.arguments[i]?

/-- There is an operator between two operands at a place. -/
def isBinary (t : Test) (i : Nat) : Bool :=
  match (t.argument? i).bind signOf? with
  | some (.binary _) => true
  | _ => false

/-- An operator with one operand is an operand itself if nothing follows it, or something with two
operands. -/
def isOperand (t : Test) (i : Nat) : Bool :=
  (t.argument? (i + 1)).isNone || ((t.argument? (i + 2)).isSome && t.isBinary (i + 1))

/-- What the argument at a place is. -/
def sign (t : Test) (i : Nat) : TestSign :=
  match t.argument? i with
  | none => .endOfTest
  | some a =>
    match signOf? a with
    | none => .operand
    | some (.unary c) => if t.isOperand i then .operand else .unary c
    | some .opening => if (t.argument? (i + 1)).isNone then .operand else .opening
    | some s => s

def number (argument : Bytes) : Except Fault Int :=
  match number? argument with
  | some n => .ok n
  | none => .error (bytesOf "Illegal number: " ++ argument)

/-- What is known of a file. -/
def fileTest (t : Test) (letter : Char) (path : Bytes) : Bool :=
  match t.files.locate (if path.isEmpty then "" else join t.directory (textOf path)) with
  | .error _ => false
  | .ok location =>
    match t.files.get? location with
    | none => false
    | some .directory => ['r', 'w', 'x', 'e', 'd', 's', 'O', 'G'].contains letter
    | some (.file content) =>
      match letter with
      | 'f' => !(location.head? == some "dev")
      | 'c' => location.head? == some "dev"
      | 's' => 0 < content.size
      | 'x' => location.dropLast.getLast? == some "bin"
      | letter => ['r', 'w', 'e', 'O', 'G'].contains letter

/-- What an operator in front of an operand says. -/
def unaryTest (t : Test) (letter : Char) (operand : Bytes) : Except Fault Bool := do
  match letter with
  | 'z' => return operand.isEmpty
  | 'n' => return !operand.isEmpty
  | 't' =>
    let _ ← number operand
    return false
  | letter => return t.fileTest letter operand

/-- What an operator between two operands says. -/
def binaryTest (t : Test) (name : String) (left right : Bytes) : Except Fault Bool := do
  let compare (holds : Int → Int → Bool) : Except Fault Bool := do
    let a ← number left
    let b ← number right
    return holds a b
  match name with
  | "=" => return left == right
  | "!=" => return left != right
  | "<" => return decide (left < right)
  | ">" => return decide (right < left)
  | "-eq" => compare (· == ·)
  | "-ne" => compare (· != ·)
  | "-ge" => compare fun a b => decide (b ≤ a)
  | "-gt" => compare fun a b => decide (b < a)
  | "-le" => compare fun a b => decide (a ≤ b)
  | "-lt" => compare fun a b => decide (a < b)
  | "-ef" =>
    let place (path : Bytes) := t.files.locate (join t.directory (textOf path))
    match place left, place right with
    | .ok a, .ok b => return a == b && (t.files.get? a).isSome
    | _, _ => return false
  | _ => return false

mutual

/-- Evaluates a condition that begins at the current place with a sign. The place is then that of
its last argument. -/
def primary (limit : Nat) (s : TestSign) (t : Test) : Except Fault (Bool × Test) := do
  match limit with
  | 0 => return (false, t)
  | limit + 1 =>
    match s with
    | .endOfTest => return (false, t)
    | .opening =>
      let t := { t with place := t.place + 1 }
      let inner := t.sign t.place
      if inner = .closing then return (false, t)
      let (value, t) ← disjunction limit inner t
      let t := { t with place := t.place + 1 }
      if t.sign t.place ≠ .closing then throw (bytesOf "closing paren expected")
      return (value, t)
    | .unary letter =>
      let t := { t with place := t.place + 1 }
      match t.argument? t.place with
      | none => throw (bytesOf ("-" ++ letter.toString ++ ": argument expected"))
      | some operand => return (← t.unaryTest letter operand, t)
    | _ =>
      let left := (t.argument? t.place).getD []
      match t.sign (t.place + 1) with
      | .binary name =>
        let t := { t with place := t.place + 2 }
        match t.argument? t.place with
        | none => throw (bytesOf (name ++ ": argument expected"))
        | some right => return (← t.binaryTest name left right, t)
      | _ => return (!left.isEmpty, t)

/-- Evaluates a condition that may be negated. -/
def negation (limit : Nat) (s : TestSign) (t : Test) : Except Fault (Bool × Test) := do
  match limit with
  | 0 => return (false, t)
  | limit + 1 =>
    if s = .negation then
      let next := t.sign (t.place + 1)
      let t := if next = .endOfTest then t else { t with place := t.place + 1 }
      let (value, t) ← negation limit next t
      return (!value, t)
    else primary limit s t

/-- Evaluates conditions that all have to hold. -/
def conjunction (limit : Nat) (s : TestSign) (t : Test) : Except Fault (Bool × Test) := do
  match limit with
  | 0 => return (false, t)
  | limit + 1 =>
    let (value, t) ← negation limit s t
    if t.sign (t.place + 1) = .conjunction then
      let t := { t with place := t.place + 2 }
      let (rest, t) ← conjunction limit (t.sign t.place) t
      return (value && rest, t)
    else return (value, t)

/-- Evaluates conditions of which one has to hold. -/
def disjunction (limit : Nat) (s : TestSign) (t : Test) : Except Fault (Bool × Test) := do
  match limit with
  | 0 => return (false, t)
  | limit + 1 =>
    let (value, t) ← conjunction limit s t
    if t.sign (t.place + 1) = .disjunction then
      let t := { t with place := t.place + 2 }
      let (rest, t) ← disjunction limit (t.sign t.place) t
      return (value || rest, t)
    else return (value, t)

end

/-- Evaluates the condition that the arguments are from a sign on. -/
def whole (t : Test) (s : TestSign) : Except Fault Bool := do
  let (value, t) ← disjunction (4 * t.arguments.size + 8) s t
  match t.argument? t.place, t.argument? (t.place + 1) with
  | some a, some _ =>
    throw ((if a.isEmpty then [] else a ++ bytesOf ": ") ++ bytesOf "unexpected operator")
  | _, _ => return value

/-- Evaluates a condition. Three arguments with an operator in the middle are just that; of three or
four, brackets around them and a negation in front come first. -/
def value (files : Store) (directory : String) : Nat → List Bytes → Except Fault Bool
  | 0, _ | _, [] => .ok false
  | limit + 1, first :: rest =>
    let arguments := first :: rest
    let t : Test := { arguments := arguments.toArray, files, directory }
    let few := arguments.length = 3 ∨ arguments.length = 4
    if arguments.length = 3 ∧ t.isBinary 1 then t.whole .operand
    else if few ∧ first = bytesOf "(" ∧ rest.getLast? = some (bytesOf ")") then
      let inner := { t with arguments := rest.dropLast.toArray }
      inner.whole (inner.sign 0)
    else if few ∧ first = bytesOf "!" then (value files directory limit rest).map (!·)
    else t.whole (t.sign 0)

end Test

end Typings.Tools.Shell

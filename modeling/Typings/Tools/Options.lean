import Typings.Tools.Basic

/-! # Options

How tools read their arguments. An option is a letter behind a hyphen or a name behind two; letters
can be written together, names can be cut short as long as it is clear which one is meant, and an
argument of two hyphens ends the options.
-/

namespace Typings.Tools

/-- Whether an option has a value. -/
inductive OptionValue where
  | none
  | optional
  | required
  deriving DecidableEq, Repr

structure ToolOption (α : Type) where
  letter : Option Char := none
  name : Option String := none
  value : OptionValue := .none
  meaning : α

/-- Why arguments cannot be read. -/
inductive OptionError where
  | invalidLetter (c : Char)
  | unknownName (argument : String)
  | ambiguousName (argument : String) (candidates : List String)
  | letterNeedsValue (c : Char)
  | nameNeedsValue (name : String)
  | nameTakesNoValue (name : String)
  deriving DecidableEq, Repr

/-- What is wrong, in words. Of a letter that has several bytes only the first is shown, which is no
character by itself. -/
def OptionError.message : OptionError → String
  | invalidLetter c =>
    "invalid option -- '" ++ (if c.val < 128 then c.toString else "\uFFFD") ++ "'"
  | unknownName argument => "unrecognized option '" ++ argument ++ "'"
  | ambiguousName argument candidates =>
    "option '" ++ argument ++ "' is ambiguous; possibilities:" ++
      String.join (candidates.map fun c => " '--" ++ c ++ "'")
  | letterNeedsValue c => "option requires an argument -- '" ++ c.toString ++ "'"
  | nameNeedsValue name => "option '--" ++ name ++ "' requires an argument"
  | nameTakesNoValue name => "option '--" ++ name ++ "' doesn't allow an argument"

/-- The message of a tool whose arguments cannot be read. -/
def OptionError.complaint (tool : String) (e : OptionError) : Bytes :=
  bytesOf (tool ++ ": " ++ e.message ++ "\nTry '" ++ tool ++ " --help' for more information.\n")

/-- What has been read of the arguments: the options with their values, and the operands. -/
structure ReadArguments (α : Type) where
  options : List (α × String) := []
  operands : List String := []

namespace ToolOption

variable {α : Type}

/-- Finds the option of a name, which may be cut short. -/
def find (all : List (ToolOption α)) (written name : String) :
    Except OptionError (ToolOption α × String) :=
  let named := all.filterMap fun o => o.name.map fun n => (o, n)
  match named.find? (·.2 == name) with
  | some found => .ok found
  | none =>
    match named.filter fun (_, n) => name.toList.isPrefixOf n.toList with
    | [] => .error (.unknownName written)
    | [found] => .ok found
    | found :: others =>
      if others.all fun (o, _) => o.letter == found.1.letter && o.letter.isSome then .ok found
      else .error (.ambiguousName written ((found :: others).map (·.2)))

/-- Reads a named option. The value stands behind an equality sign or, where one is required, is the
next argument. -/
def readNamed (all : List (ToolOption α)) (argument : String) (rest : List String) :
    Except OptionError ((α × String) × List String) := do
  let body := argument.toList.drop 2
  let name := body.takeWhile (· ≠ '=')
  let attached := if name.length < body.length then some (body.drop (name.length + 1)) else none
  let (found, fullName) ← find all argument (String.ofList name)
  match found.value, attached with
  | .none, none => return ((found.meaning, ""), rest)
  | .none, some _ => throw (.nameTakesNoValue fullName)
  | .optional, value => return ((found.meaning, String.ofList (value.getD [])), rest)
  | .required, some value => return ((found.meaning, String.ofList value), rest)
  | .required, none =>
    match rest with
    | value :: rest => return ((found.meaning, value), rest)
    | [] => throw (.nameNeedsValue fullName)

/-- Reads letters written together. The value of a letter is what follows it or, where one is
required and nothing follows, the next argument. -/
def readLetters (all : List (ToolOption α)) (rest : List String) (before : List (α × String)) :
    List Char → Except OptionError (List (α × String) × List String)
  | [] => .ok (before.reverse, rest)
  | c :: letters =>
    match all.find? (·.letter == some c) with
    | none => .error (.invalidLetter c)
    | some found =>
      let value := String.ofList letters
      match found.value with
      | .none => readLetters all rest ((found.meaning, "") :: before) letters
      | .optional => .ok (((found.meaning, value) :: before).reverse, rest)
      | .required =>
        if !letters.isEmpty then .ok (((found.meaning, value) :: before).reverse, rest)
        else
          match rest with
          | next :: rest => .ok (((found.meaning, next) :: before).reverse, rest)
          | [] => .error (.letterNeedsValue c)

/-- Reads at most `limit` arguments. Unless `mixed` is set, the first operand ends the options. -/
def readWithin (all : List (ToolOption α)) (mixed : Bool) :
    Nat → ReadArguments α → List String → Except OptionError (ReadArguments α)
  | 0, r, _ => .ok r
  | _, r, [] => .ok r
  | limit + 1, r, argument :: rest => do
    if argument = "--" then return { r with operands := r.operands ++ rest }
    else if argument.startsWith "--" then
      let (option, rest) ← readNamed all argument rest
      readWithin all mixed limit { r with options := r.options ++ [option] } rest
    else if argument.startsWith "-" && argument ≠ "-" then
      let (options, rest) ← readLetters all rest [] (argument.toList.drop 1)
      readWithin all mixed limit { r with options := r.options ++ options } rest
    else if mixed then
      readWithin all mixed limit { r with operands := r.operands ++ [argument] } rest
    else return { r with operands := r.operands ++ argument :: rest }

def read (all : List (ToolOption α)) (mixed : Bool) (arguments : List String) :
    Except OptionError (ReadArguments α) :=
  readWithin all mixed (arguments.length + 1) {} arguments

end ToolOption

end Typings.Tools

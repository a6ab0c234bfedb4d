import Typings.Tools.Shell.Builtin
import Typings.Tools.Shell.Redirecting
import Typings.Tools.Shell.Words

/-! # Expanding words

How words become fields, values and patterns when a script runs. A word can stand for what a script
inside of it writes; what runs such a script is taken as given here.
-/

namespace Typings.Tools.Shell

/-! ## Parameters -/

/-- The value of a parameter other than the arguments as a whole. -/
def Process.parameter? (p : Process) (name : String) : Option Bytes :=
  match name.toList with
  | ['?'] => some (bytesOf (toString p.status))
  | ['$'] => some (bytesOf (toString p.number))
  | ['!'] => p.lastBackground.map fun n => bytesOf (toString n)
  | ['#'] => some (bytesOf (toString p.arguments.length))
  | ['-'] => some (charBytes (optionLetters p.options))
  | ['0'] => some (bytesOf p.name)
  | c :: rest =>
    if c.isDigit then
      match Expression.valueOf 10 (c :: rest) with
      | 0 => some (bytesOf p.name)
      | n + 1 => p.arguments[n]?
    else p.value? name
  | [] => none

/-- The arguments as a text, between the first of the separators. -/
def Process.joinedArguments (p : Process) : Bytes :=
  ((p.separators.head?).toList).intercalate p.arguments

/-- The name stands for all arguments. -/
def isAll (name : String) : Bool := name = "@" || name = "*"

/-- The marks of the plain value of a parameter, which may be missing. -/
def Process.marks? (p : Process) (name : String) (quoted : Bool) : Option (List Mark) :=
  if isAll name then
    if name = "*" && quoted then some (valueMarks true p.joinedArguments)
    else if p.arguments.isEmpty then none
    else some (argumentMarks quoted p.arguments)
  else (p.parameter? name).map (valueMarks quoted)

/-- The variables as an expression reads and writes them. -/
def expressionVariables : Expression.Variables Process where
  read p name := (p.value? name).getD []
  write p name value := (p.assign name value).mapError fun
    | .readOnly name => .readOnly name
    | .illegalNumber value => .illegalNumber value

/-- The output of a command without the line feeds at its end and without null bytes. -/
def outputText (bytes : Bytes) : Bytes :=
  ((bytes.filter (· ≠ 0)).reverse.dropWhile (· == 10)).reverse

/-- The marks of a parameter. `word` works out the word behind its treatment, and `isEmpty` tells
that nothing stands there. -/
def expandParameter (name : String) (treatment : Treatment) (needsText : Bool)
    (word : Action (List Mark)) (isEmpty quoted : Bool) : Action (List Mark) := do
  let p ← getProcess
  let found := p.marks? name quoted
  let isMissing := match found with
    | none => needsText || !isAll name
    | some marks => needsText && (plainBytes marks).isEmpty
  let unset {α : Type} : Action α := failText (name ++ ": parameter not set")
  let refusesUnset := p.options.contains 'u' && !isAll name
  let nothing : List Mark := if quoted then [.present] else []
  match treatment with
  | .plain =>
    match found with
    | some marks => return marks
    | none => if refusesUnset then unset else return if isAll name then [] else nothing
  | .length =>
    if isAll name then return valueMarks quoted (bytesOf (toString p.joinedArguments.length))
    match p.parameter? name with
    | some value => return valueMarks quoted (bytesOf (toString value.length))
    | none => if refusesUnset then unset else return valueMarks quoted (bytesOf "0")
  | .orWord =>
    if isMissing then return nothing ++ asValue (← word)
    else return found.getD nothing
  | .insteadOf =>
    if isMissing then return nothing
    else return nothing ++ asValue (← word)
  | .assigning =>
    if !isMissing then return found.getD nothing
    if !isName name.toList then failText (name ++ ": bad variable name")
    let value := plainBytes (← word)
    assign name value
    return valueMarks quoted value
  | .demanding =>
    if !isMissing then return found.getD nothing
    if isEmpty then
      failText (name ++ ": parameter not set" ++ if needsText then " or null" else "")
    let message := plainBytes (← word)
    failWith (bytesOf (name ++ ": ") ++ message)
  | .without atEnd longest =>
    let cut (pattern : List Wildcard) (values : List Bytes) : List Bytes :=
      if atEnd then Wildcard.withoutRest pattern longest values
      else Wildcard.withoutFirst pattern longest values
    match found with
    | none => if refusesUnset then unset else return nothing
    | some marks =>
      let pattern := Wildcard.ofGlyphs (glyphsOf (← word))
      if isAll name && !(name = "*" && quoted) then
        return nothing ++ argumentMarks quoted (cut pattern p.arguments)
      else return (cut pattern [plainBytes marks]).flatMap (valueMarks quoted)

/-! ## Words -/

-- What a command writes when it is run.
variable (output : Command → Action Bytes)

mutual

/-- The marks of a word, behind those of the parts before, last ones first. -/
def expandParts (before : List (List Mark)) : Word → Action (List Mark)
  | [] => return before.reverse.flatten
  | .char c quoted :: rest => expandParts (charMarks c quoted :: before) rest
  | part :: rest => do
    let marks ← expandPart part
    expandParts (marks :: before) rest

/-- The marks of a part of a word. -/
def expandPart : Part → Action (List Mark)
  | .char c quoted => return charMarks c quoted
  | .emptyQuotes => return [.present]
  | .home => do
    match (← getProcess).value? "HOME" with
    | some home => return quotedMarks home
    | none => return charMarks '~' true
  | .badSubstitution => failText "Bad substitution"
  | .output body quoted => do
    let bytes ← output body
    return valueMarks quoted (outputText bytes)
  | .expression text quoted => do
    let text := plainBytes (← expandParts [] text)
    let p ← getProcess
    match (Expression.read (byteChars text)).evaluate expressionVariables p with
    | .error e => failWith (e.message text)
    | .ok (n, p) =>
      modifyProcess fun _ => p
      return valueMarks quoted (bytesOf (toString n))
  | .parameter name treatment needsText word quoted =>
    expandParameter name treatment needsText (expandParts [] word) word.isEmpty quoted

end

/-- The fields of words, behind those of the words before, last ones first. With `declares` set,
words that look like assignments are a field each. -/
def expandWords (declares : Bool) (before : List (List Bytes)) : List Word → Action (List Bytes)
  | [] => return before.reverse.flatten
  | word :: rest => do
    match if declares then assignment? [] word else none with
    | some (name, value) =>
      let value := plainBytes (← expandParts output [] (withHome true value))
      expandWords declares ([bytesOf (name ++ "=") ++ value] :: before) rest
    | none =>
      let marks ← expandParts output [] word
      let p ← getProcess
      let fields := splitFields p.separators marks
      let files := (← get).world.files
      let fields :=
        if p.options.contains 'f' then fields.map fun f => f.map (·.1)
        else fields.flatMap (findFiles files p.directory)
      let declares := declares || (before.all (·.isEmpty) && match fields with
        | name :: _ => declaringNames.contains (textOf name)
        | [] => false)
      expandWords declares (fields :: before) rest

/-- Works out where a redirection leads. -/
def expandTarget : Target → Action DestinationPlace
  | .file opening name => do
    return .file opening (plainBytes (← expandParts output [] name))
  | .document number => do
    let word := ((← getProcess).documents.lookup number).getD []
    return .text (plainBytes (← expandParts output [] word))
  | .descriptor _ word => do
    let text := plainBytes (← expandParts output [] word)
    match byteChars text with
    | ['-'] => return .nowhere
    | [c] =>
      if c.isDigit then return .descriptor (c.toNat - 48)
      else failText "Syntax error: Bad fd number"
    | _ => failText "Syntax error: Bad fd number"

def expandRedirections (redirections : List Redirection) : Action (List Destination) :=
  redirections.mapM fun (.leads descriptor target) =>
    (descriptor, ·) <$> expandTarget output target

/-- The values of assignments. With `keeps` set, every one of them is made as soon as its value is
known. -/
def expandAssignments (keeps : Bool) (assignments : List (String × Word)) :
    Action (List (String × Bytes)) :=
  assignments.mapM fun (name, word) => do
    let value := plainBytes (← expandParts output [] word)
    if keeps then assign name value
    return (name, value)

/-- One of some patterns stands for a value. -/
def findsPattern (value : Bytes) (patterns : List Word) : Action Bool :=
  patterns.anyM fun pattern => do
    let glyphs := glyphsOf (← expandParts output [] pattern)
    return Wildcard.isMatch (Wildcard.ofGlyphs glyphs) value

end Typings.Tools.Shell

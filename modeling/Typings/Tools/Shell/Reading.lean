import Typings.Tools.Shell.Words

/-! # Reading scripts

How the text of a script becomes commands. A script is read passage by passage: a passage goes to
the end of a line at which nothing is open. What is wrong in a later passage does not keep the
earlier ones from being run.
-/

namespace Typings.Tools.Shell

open Source

/-- The names of the commands that no function can have. -/
def specialNames : List String :=
  [".", ":", "break", "continue", "eval", "exec", "exit", "export", "local", "readonly", "return",
    "set", "shift", "times", "trap", "unset"]

/-- How much a list of commands may hold. -/
inductive ListKind where
  /-- What goes to the end of a line. -/
  | line
  | nonempty
  | any
  deriving DecidableEq, Repr

/-- The command of a list, given last one first. -/
def sequenceOf : List Command → Command
  | [] => .nothing
  | [c] => c
  | commands => .sequence commands.reverse

/-- A compound command with redirections. Those of a subshell take the place of the ones that it
has. -/
def redirected (line : Nat) (redirections : List Redirection) : Command → Command
  | .redirected _ (.subshell inner body) own =>
    .redirected line (.subshell inner body) (if redirections.isEmpty then own else redirections)
  | body => if redirections.isEmpty then body else .redirected line body redirections

mutual

/-- Reads a token, with the commands in it. -/
def readToken (limit : Nat) (passesLines withKeywords : Bool) : Reader Token := do
  match limit with
  | 0 => fail "Too deep"
  | limit + 1 => Words.readToken (readList limit .any) limit passesLines withKeywords
termination_by structural limit

/-- Reads the documents that have been referred to, with the commands in them. -/
def readDocuments (limit : Nat) : Reader Unit := do
  match limit with
  | 0 => fail "Too deep"
  | limit + 1 => Words.readDocuments (readList limit .any) limit
termination_by structural limit

/-- Reads the word behind a redirection, with the commands in it. -/
def readRedirection (limit descriptor : Nat) (kind : RedirectionKind) : Reader Redirection := do
  match limit with
  | 0 => fail "Too deep"
  | limit + 1 => Words.readRedirection (readList limit .any) limit descriptor kind
termination_by structural limit

def readList (limit : Nat) (kind : ListKind) : Reader Command := do
  match limit with
  | 0 => fail "Too deep"
  | limit + 1 => readItems limit kind (kind == .any) []
termination_by structural limit

/-- Reads the commands of a list, behind those read before, last one first. `canEnd` tells whether
the list may end before the next command. -/
def readItems (limit : Nat) (kind : ListKind) (canEnd : Bool) (before : List Command) :
    Reader Command := do
  match limit with
  | 0 => fail "Too deep"
  | limit + 1 =>
    match ← readToken limit (kind != .line) true with
    | .newline =>
      readDocuments limit
      return sequenceOf before
    | .endOfFile =>
      readDocuments limit
      push .endOfFile
      return sequenceOf before
    | token =>
      push token
      if canEnd && token.endsList then return sequenceOf before
      let command ← readConditions limit
      match ← readToken limit false false with
      | .endOfFile =>
        readDocuments limit
        push .endOfFile
        return sequenceOf (command :: before)
      | .newline =>
        push .newline
        readItems limit kind (kind != .line) (command :: before)
      | .operator "&" =>
        readItems limit kind (kind != .line) (.background command :: before)
      | .operator ";" => readItems limit kind (kind != .line) (command :: before)
      | token =>
        if kind = .line then unexpected token
        push token
        return sequenceOf (command :: before)
termination_by structural limit

/-- Reads pipelines that depend on one another. -/
def readConditions (limit : Nat) : Reader Command := do
  match limit with
  | 0 => fail "Too deep"
  | limit + 1 => readConditionsAfter limit (← readPipeline limit false)
termination_by structural limit

/-- Reads the pipelines that depend on a command. -/
def readConditionsAfter (limit : Nat) (first : Command) : Reader Command := do
  match limit with
  | 0 => fail "Too deep"
  | limit + 1 =>
    match ← readToken limit false false with
    | .operator "&&" => readConditionsAfter limit (.both first (← readPipeline limit true))
    | .operator "||" => readConditionsAfter limit (.either first (← readPipeline limit true))
    | token =>
      push token
      return first
termination_by structural limit

/-- Reads commands that are joined to a pipeline. -/
def readPipeline (limit : Nat) (passesLines : Bool) : Reader Command := do
  match limit with
  | 0 => fail "Too deep"
  | limit + 1 =>
    match ← readToken limit passesLines true with
    | .keyword "!" =>
      let first ← readCommand limit false
      return .negated (← readPiped limit [first])
    | token =>
      push token
      let first ← readCommand limit false
      readPiped limit [first]
termination_by structural limit

/-- Reads the commands that a pipeline goes on with, behind those read before, last one first. -/
def readPiped (limit : Nat) (before : List Command) : Reader Command := do
  match limit with
  | 0 => fail "Too deep"
  | limit + 1 =>
    match ← readToken limit false false with
    | .operator "|" => readPiped limit ((← readCommand limit true) :: before)
    | token =>
      push token
      match before with
      | [command] => return command
      | _ => return .pipeline before.reverse
termination_by structural limit

/-- Reads a token that has to be there. -/
def readExpected (limit : Nat) (passesLines : Bool) (text : String) : Reader Unit := do
  match limit with
  | 0 => fail "Too deep"
  | limit + 1 =>
    match ← readToken limit passesLines true with
    | .keyword found =>
      if found = text then return () else unexpectedFor (.keyword found) (.keyword text)
    | .operator found =>
      if found = text then return () else unexpectedFor (.operator found) (.operator text)
    | token => unexpectedFor token (.keyword text)
termination_by structural limit

def readCommand (limit : Nat) (passesLines : Bool) : Reader Command := do
  match limit with
  | 0 => fail "Too deep"
  | limit + 1 =>
    let token ← readToken limit passesLines true
    let line := (← get).line
    match token with
    | .keyword "if" =>
      let c ← readConditional limit
      readRedirected limit line c []
    | .keyword "while" =>
      let c ← readLoop limit true
      readRedirected limit line c []
    | .keyword "until" =>
      let c ← readLoop limit false
      readRedirected limit line c []
    | .keyword "for" =>
      let c ← readForEach limit line
      readRedirected limit line c []
    | .keyword "case" =>
      let c ← readChoice limit line
      readRedirected limit line c []
    | .keyword "\x7b" =>
      let body ← readList limit .nonempty
      readExpected limit false "\x7d"
      readRedirected limit line body []
    | .operator "(" =>
      let body ← readList limit .nonempty
      readExpected limit false ")"
      readRedirected limit line (.subshell line body) []
    | .word _ | .redirection _ _ =>
      push token
      readSimple limit line [] [] []
    | _ => unexpected token
termination_by structural limit

/-- Reads the redirections of a compound command, behind those read before, last one first. -/
def readRedirected (limit line : Nat) (body : Command) (before : List Redirection) :
    Reader Command := do
  match limit with
  | 0 => fail "Too deep"
  | limit + 1 =>
    match ← readToken limit false true with
    | .redirection descriptor kind =>
      readRedirected limit line body ((← readRedirection limit descriptor kind) :: before)
    | token =>
      push token
      return redirected line before.reverse body
termination_by structural limit

/-- Reads a conditional command from its test on. -/
def readConditional (limit : Nat) : Reader Command := do
  match limit with
  | 0 => fail "Too deep"
  | limit + 1 =>
    let test ← readList limit .nonempty
    readExpected limit false "then"
    let body ← readList limit .nonempty
    match ← readToken limit false true with
    | .keyword "elif" => return .conditional test body (← readConditional limit)
    | .keyword "else" =>
      let otherwise ← readList limit .nonempty
      readExpected limit false "fi"
      return .conditional test body otherwise
    | .keyword "fi" => return .conditional test body .nothing
    | token => unexpectedFor token (.keyword "fi")
termination_by structural limit

/-- Reads a loop from its test on. -/
def readLoop (limit : Nat) (result : Bool) : Reader Command := do
  match limit with
  | 0 => fail "Too deep"
  | limit + 1 =>
    let test ← readList limit .nonempty
    readExpected limit false "do"
    let body ← readList limit .nonempty
    readExpected limit false "done"
    return .loop result test body
termination_by structural limit

/-- Reads a loop over words from its name on. -/
def readForEach (limit line : Nat) : Reader Command := do
  match limit with
  | 0 => fail "Too deep"
  | limit + 1 =>
    let name ← match ← readToken limit false false with
      | .word w =>
        match plainText? w with
        | some text =>
          if isName text then pure (String.ofList text) else fail "Bad for loop variable"
        | none => fail "Bad for loop variable"
      | _ => fail "Bad for loop variable"
    let words ← match ← readToken limit true true with
      | .keyword "in" => some <$> readWords limit []
      | .operator ";" => pure none
      | token =>
        push token
        pure none
    readExpected limit true "do"
    let body ← readList limit .nonempty
    readExpected limit false "done"
    return .forEach line name words body
termination_by structural limit

/-- Reads words up to the end of a line, behind those read before, last one first. -/
def readWords (limit : Nat) (before : List Word) : Reader (List Word) := do
  match limit with
  | 0 => fail "Too deep"
  | limit + 1 =>
    match ← readToken limit false false with
    | .word w => readWords limit (withHome false w :: before)
    | .newline =>
      readDocuments limit
      return before.reverse
    | .operator ";" => return before.reverse
    | token => unexpected token
termination_by structural limit

/-- Reads a choice from the word on that it depends on. -/
def readChoice (limit line : Nat) : Reader Command := do
  match limit with
  | 0 => fail "Too deep"
  | limit + 1 =>
    match ← readToken limit false false with
    | .word w =>
      readExpected limit true "in"
      return .choice line (withHome false w) (← readCases limit [])
    | token => unexpectedFor token (.word [])
termination_by structural limit

/-- Reads the cases of a choice, behind those read before, last one first. -/
def readCases (limit : Nat) (before : List (List Word × Command)) :
    Reader (List (List Word × Command)) := do
  match limit with
  | 0 => fail "Too deep"
  | limit + 1 =>
    match ← readToken limit true true with
    | .keyword "esac" => return before.reverse
    | token =>
      let token ← match token with
        | .operator "(" => readToken limit false false
        | token => pure token
      let patterns ← readPatterns limit token []
      let body ← readList limit .any
      match ← readToken limit true true with
      | .keyword "esac" => return ((patterns, body) :: before).reverse
      | .operator ";;" => readCases limit ((patterns, body) :: before)
      | token => unexpectedFor token (.operator ";;")
termination_by structural limit

/-- Reads patterns from a token on, behind those read before, last one first. -/
def readPatterns (limit : Nat) (token : Token) (before : List Word) : Reader (List Word) := do
  match limit with
  | 0 => fail "Too deep"
  | limit + 1 =>
    let pattern ← match token with
      | .word w => pure w
      | .keyword text => pure (text.toList.map (Part.char · false))
      | _ => pure []
    match ← readToken limit false false with
    | .operator "|" => readPatterns limit (← readToken limit false false) (pattern :: before)
    | .operator ")" => return (pattern :: before).reverse
    | token => unexpectedFor token (.operator ")")
termination_by structural limit

/-- Reads a simple command or the definition of a function, behind the assignments, words and
redirections read before, last ones first. -/
def readSimple (limit line : Nat) (assignments : List (String × Word)) (words : List Word)
    (redirections : List Redirection) : Reader Command := do
  match limit with
  | 0 => fail "Too deep"
  | limit + 1 =>
    match ← readToken limit false false with
    | .word w =>
      match if words.isEmpty then assignment? [] w else none with
      | some (name, value) =>
        readSimple limit line ((name, withHome true value) :: assignments) words redirections
      | none => readSimple limit line assignments (withHome false w :: words) redirections
    | .redirection descriptor kind =>
      let redirection ← readRedirection limit descriptor kind
      readSimple limit line assignments words (redirection :: redirections)
    | token =>
      match token, words, assignments, redirections with
      | .operator "(", [w], [], [] =>
        readExpected limit false ")"
        let text := (plainText? w).getD []
        if !isName text || specialNames.contains (String.ofList text) then
          fail "Bad function name"
        let body ← readCommand limit true
        return .function line (String.ofList text) body
      | _, _, _, _ =>
        push token
        return .simple line assignments.reverse words.reverse redirections.reverse
termination_by structural limit

end

/-- Reads a passage, and tells what follows it. -/
def readPassage (s : Source) : Except ScriptError (Passage × Source) := do
  let fresh := { s with pushed := none, awaited := [], documents := [] }
  let (command, s) ← readList (4 * s.rest.length + 100) .line fresh
  return ({ command, documents := s.documents }, s)

/-- There is no passage left. -/
def Source.isOver (s : Source) : Bool :=
  match s.pushed with
  | some .endOfFile => true
  | _ => s.rest.isEmpty

/-- The passages of a script up to a fault, if there is one. -/
structure ReadScript where
  passages : List Passage := []
  fault : Option ScriptError := none

/-- Reads passages, behind those read before, last one first. -/
def readPassages (before : List Passage) : Nat → Source → ReadScript
  | 0, _ => { passages := before.reverse }
  | limit + 1, s =>
    match readPassage s with
    | .error fault => { passages := before.reverse, fault := some fault }
    | .ok (passage, s) =>
      if s.isOver then { passages := (passage :: before).reverse }
      else readPassages (passage :: before) limit s

/-- Reads a script whose documents are numbered from `nextDocument` on. -/
def readScript (nextDocument : Nat) (text : List Char) : ReadScript :=
  readPassages [] (text.length + 1) { rest := text, nextDocument }

end Typings.Tools.Shell

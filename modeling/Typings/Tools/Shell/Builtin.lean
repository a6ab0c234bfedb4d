import Typings.Tools.Shell.Fields
import Typings.Tools.Shell.Testing
import Typings.Tools.Shell.Writing

/-! # Commands of the shell

The commands that the shell has built in, apart from those that run other commands. A command gives
the status that it ends with.
-/

namespace Typings.Tools.Shell

open Files

/-- A command by what it does with its arguments. -/
abbrev Builtin : Type := List Bytes → Action Nat

/-- Letters behind hyphens in front of the other arguments, up to two hyphens. -/
def readLetters (allowed : List Char) (before : List Char) :
    List Bytes → Action (List Char × List Bytes)
  | [] => return (before.reverse, [])
  | argument :: rest => do
    match byteChars argument with
    | ['-', '-'] => return (before.reverse, rest)
    | '-' :: c :: letters =>
      match (c :: letters).find? fun l => !allowed.contains l with
      | some l => failText ("Illegal option -" ++ l.toString)
      | none => readLetters allowed ((c :: letters).reverse ++ before) rest
    | _ => return (before.reverse, argument :: rest)

/-- Writes to the output, which matters only if there is something to write. -/
def say (bytes : Bytes) : Action Nat := do
  if bytes.isEmpty || (← writeTo 1 bytes) then return 0
  let p ← getProcess
  complain (bytesOf ((p.command.getD "") ++ ": I/O error"))
  return 1

/-- Writes its arguments. -/
def echo : Builtin := fun arguments => say (echoText arguments)

/-- Fills its arguments into a format. -/
def printf : Builtin := fun arguments => do
  match (← readLetters [] [] arguments).2 with
  | [] => failText "usage: printf format [arg ...]"
  | format :: arguments =>
    let f := fillFormat format arguments
    for c in f.complaints.reverse do complain c
    if let some fault := f.fault then complain (bytesOf fault)
    let status ← say f.output
    return if f.fault.isSome then 2 else if f.complaints.isEmpty then status else 1

/-- Evaluates a condition, which has to be closed by a bracket if it is opened by one. -/
def test (closes : Bool) : Builtin := fun arguments => do
  if closes && arguments.getLast? != some (bytesOf "]") then failText "missing ]"
  let arguments := if closes then arguments.dropLast else arguments
  let s ← get
  match Test.value s.world.files s.process.directory (arguments.length + 1) arguments with
  | .ok value => return if value then 0 else 1
  | .error fault => failWith fault

/-! ## Variables -/

/-- Text in quotes that the shell reads as that text. -/
def quotedText (bytes : Bytes) : Bytes := go (bytes.length + 1) bytes
where
  go : Nat → Bytes → Bytes
    | 0, _ => []
    | limit + 1, bytes =>
      let safe := bytes.takeWhile (· ≠ 39)
      let quotes := (bytes.drop safe.length).takeWhile (· == 39)
      let rest := bytes.drop (safe.length + quotes.length)
      let first := [39] ++ safe ++ [39]
      let second := if quotes.isEmpty then [] else [34] ++ quotes ++ [34]
      first ++ second ++ if rest.isEmpty then [] else go limit rest

/-- The name and the value of an argument that assigns. -/
def splitAssignment (argument : Bytes) : Action (String × Option Bytes) := do
  let name := argument.takeWhile (· ≠ 61)
  if !isName (byteChars name) then failWith (name ++ bytesOf ": bad variable name")
  return (textOf name,
    if name.length < argument.length then some (argument.drop (name.length + 1)) else none)

/-- Lists variables as commands that set them. -/
def listVariables (before : String) (p : Variable → Bool) : Action Nat := do
  let process ← getProcess
  let chosen := (process.bindings.filter fun v => p v.2).mergeSort fun a b => decide (a.1 ≤ b.1)
  say <| chosen.flatMap fun (name, v) =>
    bytesOf (before ++ name) ++ (match v.value with
      | some value => 61 :: quotedText value
      | none => []) ++ [10]

/-- Marks variables, after giving them values. -/
def declare (name : String) (isMarked : Variable → Bool) (mark : Variable → Variable) : Builtin :=
  fun arguments => do
    let (letters, names) ← readLetters ['p'] [] arguments
    if letters.contains 'p' || names.isEmpty then listVariables (name ++ " ") isMarked
    else
      for argument in names do
        let (name, value) ← splitAssignment argument
        if let some value := value then assign name value
        modifyProcess fun p => p.putVariable name (some (mark ((p.lookup name).getD {})))
      return 0

/-- Forgets variables or functions. -/
def unset : Builtin := fun arguments => do
  let (letters, names) ← readLetters ['f', 'v'] [] arguments
  for name in names do
    if letters.contains 'f' then
      modifyProcess fun p =>
        { p with functions := p.functions.filter (·.1 ≠ textOf name) }
    else
      let (name, _) ← splitAssignment name
      if (((← getProcess).lookup name).map (·.isReadOnly)).getD false then
        failText (name ++ ": is read only")
      if name = Process.optionVariable then failWith (AssignmentFault.message (.illegalNumber []))
      modifyProcess (·.putVariable name none)
  return 0

/-- Makes variables belong to the running function alone. -/
def makeLocal : Builtin := fun arguments => do
  let p ← getProcess
  if p.frames.isEmpty then failText "not in a function"
  for argument in arguments do
    if argument ≠ [45] then
      let (name, value) ← splitAssignment argument
      modifyProcess fun p =>
        match p.frames with
        | [] => p
        | frame :: frames => { p with frames := ((name, p.lookup name) :: frame) :: frames }
      if let some value := value then assign name value
  return 0

/-! ## Options and arguments -/

/-- The options by name, with their letters. -/
def optionNames : List (String × Option Char) :=
  [("errexit", some 'e'), ("noglob", some 'f'), ("ignoreeof", some 'I'), ("interactive", some 'i'),
    ("monitor", some 'm'), ("noexec", some 'n'), ("stdin", some 's'), ("xtrace", some 'x'),
    ("verbose", some 'v'), ("vi", some 'V'), ("emacs", some 'E'), ("noclobber", some 'C'),
    ("allexport", some 'a'), ("notify", some 'b'), ("nounset", some 'u'),
    ("privileged", some 'p'), ("nolog", none), ("debug", none)]

/-- The letters of the options that are set, as the shell lists them. -/
def optionLetters (options : List Char) : List Char :=
  (optionNames.filterMap (·.2)).reverse.filter options.contains

/-- Sets an option of the shell or takes it back. -/
def setOption (on : Bool) (letter : Char) : Action Unit := do
  if !(optionNames.filterMap (·.2)).contains letter then
    failText ("Illegal option -" ++ letter.toString)
  modifyProcess fun p =>
    let others := p.options.filter (· ≠ letter)
    { p with options := if on then letter :: others else others }

/-- A name with blanks behind it, up to a width. -/
def column (width : Nat) (name : String) : String :=
  name ++ String.ofList (List.replicate (width - name.length) ' ')

/-- Lists the options as a table, or as commands that set them. -/
def listOptions (asTable : Bool) : Action Unit := do
  let options := (← getProcess).options
  let isSet (letter : Option Char) : Bool := (letter.map options.contains).getD false
  let line := fun (name, letter) =>
    if asTable then column 16 name ++ (if isSet letter then "on" else "off") ++ "\n"
    else "set " ++ (if isSet letter then "-o " else "+o ") ++ name ++ "\n"
  let title := if asTable then "Current option settings\n" else ""
  let _ ← say (bytesOf (title ++ String.join (optionNames.map line)))

/-- Sets options by letter and by name. The name behind an `o` is the next argument. -/
def setLetters (on : Bool) : List Char → List Bytes → Action (List Bytes)
  | [], rest => return rest
  | 'o' :: letters, rest => do
    match rest with
    | [] =>
      listOptions on
      setLetters on letters []
    | name :: rest =>
      match optionNames.lookup (textOf name) with
      | some letter =>
        if let some letter := letter then setOption on letter
        setLetters on letters rest
      | none => failWith (bytesOf "Illegal option -o " ++ name)
  | letter :: letters, rest => do
    setOption on letter
    setLetters on letters rest

/-- Takes options from the front of arguments. What is left are new arguments of the shell, if it is
more than nothing or follows two hyphens. -/
def takeOptions : Nat → List Bytes → Action (Option (List Bytes))
  | 0, _ => return none
  | limit + 1, arguments => do
    match arguments with
    | [] => return none
    | argument :: rest =>
      match byteChars argument with
      | ['-', '-'] => return some rest
      | ['-'] =>
        modifyProcess fun p => { p with options := p.options.filter fun c => c ≠ 'x' && c ≠ 'v' }
        return if rest.isEmpty then none else some rest
      | '-' :: letters => takeOptions limit (← setLetters true letters rest)
      | '+' :: letters => takeOptions limit (← setLetters false letters rest)
      | _ => return some arguments

/-- Sets options and arguments. -/
def set : Builtin := fun arguments => do
  if arguments.isEmpty then listVariables "" (·.value.isSome)
  else
    if let some arguments ← takeOptions (arguments.length + 1) arguments then
      modifyProcess fun p => { p.resetOptions with arguments }
    return 0

/-- Drops arguments in front. -/
def shift : Builtin := fun arguments => do
  let n ← match arguments with
    | [] => pure 1
    | n :: _ => requiredCount n
  let p ← getProcess
  if p.arguments.length < n then failText "can't shift that many"
  modifyProcess fun p => { p.resetOptions with arguments := p.arguments.drop n }
  return 0

/-- What the next option among some arguments is: its letter, its value, the number of the argument
to go on with, and the place in the argument before it, if it is not used up. -/
structure NextOption where
  letter : Char
  value : Option Bytes := none
  complaint : Option String := none
  index : Nat
  offset : Nat := 0
  isLast : Bool := false

/-- Finds the next option, where `index` counts from one. -/
def nextOption (options : List Char) (arguments : List Bytes) (index offset : Nat) : NextOption :=
  let isSilent := options.head? == some ':'
  let current := if 1 < index && 0 < offset then (arguments[index - 2]?).getD [] else []
  let (letters, offset, index) : List Char × Nat × Nat :=
    if offset < current.length then (byteChars (current.drop offset), offset, index)
    else
      match arguments[index - 1]? with
      | none => ([], 0, index)
      | some a =>
        match byteChars a with
        | ['-', '-'] => ([], 0, index + 1)
        | '-' :: c :: rest => (c :: rest, 1, index + 1)
        | _ => ([], 0, index)
  match letters with
  | [] => { letter := '?', index, isLast := true }
  | c :: rest =>
    let next := offset + 1
    match (options.dropWhile (· ≠ c)).drop 1, c != ':' && options.contains c with
    | _, false =>
      if isSilent then { letter := '?', value := some (charBytes [c]), index, offset := next }
      else
        { letter := '?', complaint := some ("Illegal option -" ++ c.toString), index
          offset := next }
    | ':' :: _, true =>
      if !rest.isEmpty then { letter := c, value := some (charBytes rest), index }
      else
        match arguments[index - 1]? with
        | some value => { letter := c, value := some value, index := index + 1 }
        | none =>
          if isSilent then { letter := ':', value := some (charBytes [c]), index }
          else
            { letter := '?', complaint := some ("No arg for -" ++ c.toString ++ " option")
              index }
    | _, true => { letter := c, value := some [], index, offset := next }

/-- Reads the next option out of arguments. -/
def getopts : Builtin := fun arguments => do
  match arguments with
  | options :: name :: given =>
    let p ← getProcess
    let given := if given.isEmpty then p.arguments else given
    let p := if given.length + 1 < p.optionIndex then p.resetOptions else p
    let next := nextOption (byteChars options) given p.optionIndex p.optionOffset
    if let some complaint := next.complaint then
      let _ ← writeTo 2 (bytesOf (complaint ++ "\n"))
    match next.value with
    | some value => assign "OPTARG" value
    | none => if next.complaint.isSome then modifyProcess (·.putVariable "OPTARG" none)
    modifyProcess (·.resetOptions)
    assign Process.optionVariable (bytesOf (toString next.index))
    let (name, _) ← splitAssignment name
    assign name (charBytes [next.letter])
    modifyProcess fun p => { p with optionIndex := next.index, optionOffset := next.offset }
    return if next.isLast then 1 else 0
  | _ => failText "Usage: getopts optstring var [arg]"

/-! ## Ending -/

/-- The status that an argument asks for, or the one there is. -/
def statusOf : List Bytes → Action Nat
  | [] => return (← getProcess).status
  | n :: _ => return (← requiredCount n) % 256

/-- Ends the process. -/
def exit : Builtin := fun arguments => do exitWith (← statusOf arguments)

/-- Goes back from a function or a file. -/
def returnBack : Builtin := fun arguments => do
  setStatus (← statusOf arguments)
  throw .returns

/-- Leaves loops, or goes on with them, as many as there are at most. -/
def leaveLoops (jump : Nat → Jump) : Builtin := fun arguments => do
  let n ← match arguments with
    | [] => pure 1
    | n :: _ =>
      match ← requiredCount n with
      | 0 => failWith (bytesOf "Illegal number: " ++ n)
      | count => pure count
  let n := min n (← getProcess).loops
  if n = 0 then return 0
  setStatus 0
  throw (jump n)

/-! ## Signals -/

/-- The names of the signals from zero on; those without a name have their number. -/
def signalNames : List String :=
  let named := "EXIT" :: ExitStatus.signalNames
  let numbered (name : String) (n : Nat) : String := if name = "STKFLT" then toString n else name
  let firstNames := named.mapIdx fun i name => numbered name i
  let upward := (List.range 15).map fun i => "RTMIN+" ++ toString (i + 1)
  let downward := (List.range 14).map fun i => "RTMAX-" ++ toString (14 - i)
  firstNames ++ ["32", "33", "RTMIN"] ++ upward ++ downward ++ ["RTMAX"]

/-- The signal of a name or number, from the first one on that counts. -/
def signalOf? (least : Nat) (written : Bytes) : Option Nat :=
  let text := textOf written
  if !written.isEmpty && written.all isDigit then
    let n := decimalValue written
    if n < signalNames.length then some n else none
  else
    let upper := text.toUpper
    (signalNames.findIdx? (·.toUpper == upper)).filter (least ≤ ·)

/-- How signals are sent. -/
def killUsage : String :=
  "Usage: kill [-s sigspec | -signum | -sigspec] [pid | job]... or\nkill -l [exitstatus]"

/-- Sends a signal to a process. -/
def sendSignal (signal : Nat) (target : Bytes) : Action Nat := do
  let number ← match number? target with
    | some n => pure n
    | none => failWith (bytesOf "Illegal number: " ++ target)
  let p ← getProcess
  match number with
  | .ofNat n =>
    if n = p.number then
      if signal ≠ 0 then
        modifyWorld fun w => { w with signalled := (n, signal) :: w.signalled }
      return 0
    else if (p.jobs.lookup n).isSome then return 0
    else
      complain (bytesOf "No such process\n")
      return 1
  | .negSucc _ =>
    complain (bytesOf "No such process\n")
    return 1

/-- Lists the signals, or the one that a status stands for. -/
def listSignals : Builtin := fun arguments => do
  match arguments with
  | [] => say (bytesOf ("0\n" ++ String.join (signalNames.tail.map (· ++ "\n"))))
  | status :: _ =>
    let n ← requiredCount status
    let n := if 128 < n then n - 128 else n
    match if n = 0 then none else signalNames[n]? with
    | some name => say (bytesOf (name ++ "\n"))
    | none => failWith (bytesOf "invalid signal number or exit status: " ++ status)

/-- Sends signals. -/
def kill : Builtin := fun arguments => do
  let send (signal : Nat) (targets : List Bytes) : Action Nat := do
    if targets.isEmpty then failText killUsage
    let mut status := 0
    for target in targets do
      if (← sendSignal signal target) ≠ 0 then status := 1
    return status
  match arguments with
  | [] => failText killUsage
  | first :: rest =>
    match byteChars first with
    | ['-', '-'] => send 15 rest
    | ['-', 'l'] => listSignals rest
    | '-' :: option =>
      match signalOf? 1 (charBytes option) with
      | some signal => send signal rest
      | none =>
        match option, rest with
        | ['s'], name :: targets =>
          match signalOf? 1 name with
          | some signal => send signal targets
          | none => failWith (bytesOf "invalid signal number or name: " ++ name)
        | ['s'], [] => failText "No arg for -s option"
        | 's' :: name, targets =>
          match signalOf? 1 (charBytes name) with
          | some signal => send signal targets
          | none => failWith (bytesOf "invalid signal number or name: " ++ charBytes name)
        | c :: _, _ => failText ("Illegal option -" ++ c.toString)
        | [], _ => failText ("Illegal number: -")
    | _ => send 15 arguments

/-- Lists what is to be done for signals, as commands that set it. -/
def listTraps : Action Nat := do
  let p ← getProcess
  let lines := signalNames.zipIdx.flatMap fun (name, n) =>
    match p.traps.lookup n with
    | some action => bytesOf "trap -- " ++ quotedText action ++ bytesOf (" " ++ name ++ "\n")
    | none => []
  say lines

/-- Sets what is to be done for signals. -/
def trap : Builtin := fun arguments => do
  let (_, arguments) ← readLetters [] [] arguments
  match arguments with
  | [] => listTraps
  | first :: rest =>
    let resets := rest.isEmpty ||
      (!first.isEmpty && first.all isDigit && (signalOf? 0 first).isSome)
    let action := if resets || first = [45] then none else some first
    for name in if resets then arguments else rest do
      match signalOf? 0 name with
      | none =>
        let _ ← writeTo 2 (bytesOf "trap: " ++ name ++ bytesOf ": bad trap\n")
        return 1
      | some n =>
        modifyProcess fun p =>
          let others := p.traps.filter (·.1 ≠ n)
          { p with traps := match action with
            | some action => (n, action) :: others
            | none => others }
    return 0

/-! ## Input -/

/-- A line of input: its bytes, each with whether it is escaped, last one first, whether it has an
end, and what follows it. -/
def readLine (raw : Bool) (before : List Glyph) : Bytes → List Glyph × Bool × Bytes
  | [] => (before, false, [])
  | 10 :: rest => (before, true, rest)
  | 92 :: b :: rest =>
    if raw then readLine raw ((92, false) :: before) (b :: rest)
    else if b = 10 then readLine raw before rest
    else readLine raw ((b, true) :: before) rest
  | b :: rest =>
    if b = 0 ∨ (b = 92 ∧ !raw) then readLine raw before rest
    else readLine raw ((b, false) :: before) rest

/-- The glyph separates fields. -/
def separates (separators : Bytes) (g : Glyph) : Bool := !g.2 && separators.contains g.1

/-- The byte separates, and several of its kind count as one. -/
def separatesSoftly (separators : Bytes) (g : Glyph) : Bool :=
  separates separators g && (g.1 == 32 || g.1 == 9 || g.1 == 10)

/-- The first field of a line, and what follows the separator behind it. -/
def cutField (separators : Bytes) (line : List Glyph) : List Glyph × List Glyph :=
  let field := line.takeWhile fun g => !separates separators g
  match (line.drop field.length).dropWhile (separatesSoftly separators) with
  | g :: rest => (field, if separates separators g then rest else g :: rest)
  | [] => (field, [])

/-- Hands out the fields of a line to a number of variables. The last one gets all that is left. -/
def handOut (separators : Bytes) : Nat → List Glyph → List Bytes
  | 0, _ => []
  | n + 1, line =>
    let line := line.dropWhile (separatesSoftly separators)
    let (field, rest) := cutField separators line
    if n = 0 then
      let trimmed := (line.reverse.dropWhile (separatesSoftly separators)).reverse
      let (field, rest) := cutField separators trimmed
      [(if rest.isEmpty then field else trimmed).map (·.1)]
    else field.map (·.1) :: handOut separators n rest

/-- Reads a line into variables. -/
def read : Builtin := fun arguments => do
  let rec options : Nat → Bool → List Bytes → Action (Bool × List Bytes)
    | 0, raw, rest => return (raw, rest)
    | limit + 1, raw, argument :: rest => do
      match byteChars argument with
      | ['-', '-'] => return (raw, rest)
      | ['-', 'r'] => options limit true rest
      | ['-', 'p'] => options limit raw (rest.drop 1)
      | ['-', 'r', 'p'] => options limit true (rest.drop 1)
      | '-' :: c :: _ =>
        if c = 'p' then options limit raw rest
        else failText ("Illegal option -" ++ c.toString)
      | _ => return (raw, argument :: rest)
    | _, raw, [] => return (raw, [])
  let (raw, names) ← options (arguments.length + 1) false arguments
  if names.isEmpty then failText "arg count"
  let (line, isEnded, rest) := readLine raw [] (← inputOf 0)
  leaveInput 0 rest
  let values := handOut (← getProcess).separators names.length line.reverse
  for (name, value) in names.zip values do
    let (name, _) ← splitAssignment name
    assign name value
  return if isEnded then 0 else 1

/-! ## Places -/

/-- The directory that a path leads to by its parts alone. -/
def directoryAt (base path : String) : String :=
  let parts := (segments (join base path)).foldl (fun before segment =>
    if segment = "" ∨ segment = "." then before
    else if segment = ".." then before.drop 1
    else segment :: before) []
  "/" ++ "/".intercalate parts.reverse

/-- Changes the directory. -/
def cd : Builtin := fun arguments => do
  let (_, operands) ← readLetters ['L', 'P'] [] arguments
  let p ← getProcess
  let (path, isShown) := match operands with
    | [] => (p.value? "HOME", false)
    | [45] :: _ => (p.value? "OLDPWD", true)
    | path :: _ => (some path, false)
  match path with
  | none => return 0
  | some [] => return 0
  | some path =>
    let directory := directoryAt p.directory (textOf path)
    if (← get).world.files.isDirectory directory then
      assign "OLDPWD" (bytesOf p.directory)
      assign "PWD" (bytesOf directory)
      modifyProcess fun p => { p with directory }
      if isShown then say (bytesOf (directory ++ "\n")) else return 0
    else failWith (bytesOf "can't cd to " ++ path)

/-- Writes the directory. -/
def pwd : Builtin := fun _ => do say (bytesOf ((← getProcess).directory ++ "\n"))

/-- Background processes have come to their end already. -/
def wait : Builtin := fun arguments => do
  let mut status := 0
  for argument in arguments do
    let n ← requiredCount argument
    status := ((← getProcess).jobs.lookup n).getD 127
  return status

/-! ## The commands by name -/

/-- The commands that a name can stand for, apart from those that run other commands. -/
def builtins : List (String × Builtin) :=
  [(":", fun _ => return 0), ("[", test true), ("alias", fun _ => return 0),
    ("break", leaveLoops .breaks), ("cd", cd), ("chdir", cd), ("continue", leaveLoops .continues),
    ("echo", echo), ("exit", exit),
    ("export", declare "export" (·.isExported) fun v => { v with isExported := true }),
    ("false", fun _ => return 1), ("getopts", getopts), ("hash", fun _ => return 0),
    ("jobs", fun _ => return 0), ("kill", kill), ("local", makeLocal), ("printf", printf),
    ("pwd", pwd), ("read", read),
    ("readonly", declare "readonly" (·.isReadOnly) fun v => { v with isReadOnly := true }),
    ("return", returnBack), ("set", set), ("shift", shift), ("test", test false),
    ("times", fun _ => say (bytesOf "0m0.000000s 0m0.000000s\n0m0.000000s 0m0.000000s\n")),
    ("trap", trap), ("true", fun _ => return 0), ("ulimit", fun _ => say (bytesOf "unlimited\n")),
    ("umask", fun arguments => if arguments.isEmpty then say (bytesOf "0022\n") else return 0),
    ("unalias", fun _ => return 0), ("unset", unset), ("wait", wait)]

/-- The commands that run other commands. -/
def runningNames : List String := [".", "command", "eval", "exec", "type"]

/-- The name is that of a built-in command. -/
def isBuiltinName (name : String) : Bool :=
  runningNames.contains name || (builtins.lookup name).isSome

/-- The commands whose arguments can be assignments. -/
def declaringNames : List String := ["alias", "export", "local", "readonly"]

end Typings.Tools.Shell

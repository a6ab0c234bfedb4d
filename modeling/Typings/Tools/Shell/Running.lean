import Typings.Tools.Shell.Expanding
import Typings.Tools.Shell.Programs
import Typings.Tools.Shell.Starting
import Typings.Tools.Shell.Subshell

/-! # Running scripts

How a process of the shell runs commands. Processes run one after another: what a command writes to
a pipe is all there before the next one reads it, and a background process comes to its end before
the shell goes on.
-/

namespace Typings.Tools.Shell

open Files

/-- The greatest number of functions that can be called in one another. -/
def deepestCalls : Nat := 1000

/-- Ends the shell after a failure, if it is to end then. -/
def checkStatus (tested : Bool) : Action Unit := do
  let p ← getProcess
  if p.options.contains 'e' && !tested && p.status ≠ 0 then throw .exits

/-- Shows a command before it is run, if that is wanted. -/
def trace (channel : Option Channel) (assignments : List (String × Bytes)) (fields : List Bytes) :
    Action Unit := do
  let p ← getProcess
  if p.options.contains 'x' then
    let shown := assignments.map fun (name, value) => bytesOf (name ++ "=") ++ value
    let line := (p.value? "PS4").getD [] ++ [32].intercalate (shown ++ fields) ++ [10]
    if let some (.opened number) := channel then modifyWorld (·.write number line)

mutual

/-- What a command writes to its output. -/
def outputOf (programs : Programs) (limit : Nat) (body : Command) : Action Bytes := do
  match limit with
  | 0 => throw .exits
  | limit + 1 =>
    let opened := (← get).world.nextOpened
    let before ← getProcess
    let pipe ← openPipe []
    isolated (fun p => p.subshell.lead 1 (some (.opened pipe)))
      (runToEnd programs limit false body)
    modifyProcess fun p => { p with outputStatus := some p.status, status := before.status }
    let s ← get
    let bytes := s.world.unread pipe
    modifyWorld (·.forget opened s.process.descriptors)
    heedDeadlySignals
    return bytes

/-- Runs a command. With `tested` set its status is looked at, so that it cannot end the shell. -/
def run (programs : Programs) (limit : Nat) (tested : Bool) (c : Command) : Action Unit := do
  match limit with
  | 0 => throw .exits
  | limit + 1 =>
    if (← getProcess).options.contains 'n' then return ()
    match c with
    | .nothing => return ()
    | .simple line assignments words redirections =>
      modifyProcess fun p => { p with line }
      runSimple programs limit assignments words redirections
      handleSignals programs limit
      checkStatus tested
    | .redirected line body redirections =>
      modifyProcess fun p => { p with line }
      let destinations ← expandRedirections (outputOf programs limit) redirections
      keepingDescriptors (destinations.map (·.1)).eraseDups do
        if ← redirectAll destinations then run programs limit tested body else setStatus 2
    | .negated body =>
      run programs limit true body
      let status := (← getProcess).status
      setStatus (if status = 0 then 1 else 0)
    | .pipeline commands =>
      runPipeline programs limit commands
      handleSignals programs limit
      checkStatus tested
    | .sequence commands => runSequence programs limit tested commands
    | .background body =>
      let number := (← get).world.nextProcess
      modifyWorld fun w => { w with nextProcess := number + 1 }
      isolated (fun p => p.subshell.lead 0 (some .nothing)) (runToEnd programs limit false body)
      modifyProcess fun p =>
        { p with lastBackground := some number, jobs := (number, p.status) :: p.jobs, status := 0 }
    | .both first second =>
      run programs limit true first
      if (← getProcess).status = 0 then run programs limit tested second
    | .either first second =>
      run programs limit true first
      if (← getProcess).status ≠ 0 then run programs limit tested second
    | .subshell line body =>
      modifyProcess fun p => { p with line }
      isolated Process.subshell (runToEnd programs limit tested body)
      handleSignals programs limit
      checkStatus tested
    | .conditional test body otherwise =>
      run programs limit true test
      if (← getProcess).status = 0 then run programs limit tested body
      else if otherwise.isNothing then setStatus 0
      else run programs limit tested otherwise
    | .loop result test body =>
      modifyProcess fun p => { p with loops := p.loops + 1 }
      (runLoop programs limit tested result 0 test body).ensuring
        (modifyProcess fun p => { p with loops := p.loops - 1 })
    | .forEach line name words body =>
      modifyProcess fun p => { p with line }
      let fields ← match words with
        | some words => expandWords (outputOf programs limit) false [] words
        | none => pure (← getProcess).arguments
      if fields.isEmpty then setStatus 0
      modifyProcess fun p => { p with loops := p.loops + 1 }
      (runForEach programs limit tested name fields body).ensuring
        (modifyProcess fun p => { p with loops := p.loops - 1 })
    | .choice line word cases =>
      modifyProcess fun p => { p with line }
      let value := plainBytes (← expandParts (outputOf programs limit) [] word)
      runCases programs limit tested value cases
    | .function _ name body =>
      modifyProcess fun p =>
        { p with functions := (name, body) :: p.functions.filter (·.1 ≠ name), status := 0 }

/-- Runs commands one after another. -/
def runSequence (programs : Programs) (limit : Nat) (tested : Bool) (commands : List Command) :
    Action Unit := do
  match limit with
  | 0 => throw .exits
  | limit + 1 =>
    match commands with
    | [] => return ()
    | command :: rest =>
      run programs limit tested command
      runSequence programs limit tested rest

/-- Runs the commands of a pipeline, each of which reads what the one before has written. -/
def runPipeline (programs : Programs) (limit : Nat) (commands : List Command) : Action Unit := do
  match limit with
  | 0 => throw .exits
  | limit + 1 =>
    match commands with
    | [] => return ()
    | [command] => isolated Process.subshell (runToEnd programs limit false command)
    | command :: rest =>
      let opened := (← get).world.nextOpened
      let before ← getProcess
      let pipe ← openPipe []
      isolated (fun p => p.subshell.lead 1 (some (.opened pipe)))
        (runToEnd programs limit false command)
      modifyProcess fun _ => before.lead 0 (some (.opened pipe))
      runPipeline programs limit rest
      let status := (← getProcess).status
      modifyProcess fun _ => { before with status }
      modifyWorld (·.forget opened before.descriptors)

/-- Runs a loop that has given a status so far. -/
def runLoop (programs : Programs) (limit : Nat) (tested result : Bool) (status : Nat)
    (test body : Command) : Action Unit := do
  match limit with
  | 0 => throw .exits
  | limit + 1 =>
    let outcome ← (do
      run programs limit true test
      if ((← getProcess).status == 0) == result then
        run programs limit tested body
        return some (← getProcess).status
      else return none : Action (Option Nat)).result
    match outcome with
    | .ok (some status) => runLoop programs limit tested result status test body
    | .ok none => setStatus status
    | .error (.continues (n + 2)) => throw (.continues (n + 1))
    | .error (.continues _) => runLoop programs limit tested result 0 test body
    | .error (.breaks (n + 2)) => throw (.breaks (n + 1))
    | .error (.breaks _) => setStatus 0
    | .error jump => throw jump

def runForEach (programs : Programs) (limit : Nat) (tested : Bool) (name : String)
    (fields : List Bytes) (body : Command) : Action Unit := do
  match limit with
  | 0 => throw .exits
  | limit + 1 =>
    match fields with
    | [] => return ()
    | field :: rest =>
      assign name field
      match ← (run programs limit tested body).result with
      | .ok () => runForEach programs limit tested name rest body
      | .error (.continues (n + 2)) => throw (.continues (n + 1))
      | .error (.continues _) => runForEach programs limit tested name rest body
      | .error (.breaks (n + 2)) => throw (.breaks (n + 1))
      | .error (.breaks _) => return ()
      | .error jump => throw jump

/-- Runs the first case with a pattern that stands for a value. -/
def runCases (programs : Programs) (limit : Nat) (tested : Bool) (value : Bytes)
    (cases : List (List Word × Command)) : Action Unit := do
  match limit with
  | 0 => throw .exits
  | limit + 1 =>
    match cases with
    | [] => setStatus 0
    | (patterns, body) :: rest =>
      if ← findsPattern (outputOf programs limit) value patterns then
        match body with
        | .nothing => setStatus 0
        | body => run programs limit tested body
      else runCases programs limit tested value rest

/-- Runs a simple command. -/
def runSimple (programs : Programs) (limit : Nat) (assignments : List (String × Word))
    (words : List Word) (redirections : List Redirection) : Action Unit := do
  match limit with
  | 0 => throw .exits
  | limit + 1 =>
    modifyProcess fun p => { p with outputStatus := none }
    let fields ← expandWords (outputOf programs limit) false [] words
    let errors := (← getProcess).channel? 2
    let name := (fields.head?.map textOf).getD ""
    let isSpecial := specialNames.contains name
    let keeps := fields == [bytesOf "exec"]
    let destinations ← expandRedirections (outputOf programs limit) redirections
    keepingDescriptors (if keeps then [] else (destinations.map (·.1)).eraseDups) do
      if !(← redirectAll destinations) then
        setStatus 2
        if isSpecial then throw .fails else return ()
      let keeps := fields.isEmpty || isSpecial
      let values ← expandAssignments (outputOf programs limit) keeps assignments
      trace errors values fields
      match fields with
      | [] => setStatus ((← getProcess).outputStatus.getD 0)
      | _ :: arguments =>
        if isSpecial then runCommand programs limit false name arguments
        else withVariables values (runCommand programs limit false name arguments)

/-- Runs the command of a name. With `plainly` set functions do not count, and nothing that goes
wrong ends the shell. -/
def runCommand (programs : Programs) (limit : Nat) (plainly : Bool) (name : String)
    (arguments : List Bytes) : Action Unit := do
  match limit with
  | 0 => throw .exits
  | limit + 1 =>
    let p ← getProcess
    let isFixed := plainly || specialNames.contains name
    match if isFixed then none else p.functions.lookup name with
    | some body => callFunction programs limit body arguments
    | none =>
      if !isBuiltinName name then runProgram programs limit name arguments
      else
        modifyProcess fun p => { p with command := some name }
        let outcome ← (runBuiltin programs limit name arguments).result
        modifyProcess fun q => { q with command := p.command }
        match outcome with
        | .ok () => return ()
        | .error .fails =>
          if specialNames.contains name && !plainly then throw .fails else return ()
        | .error jump => throw jump

/-- Runs a built-in command. -/
def runBuiltin (programs : Programs) (limit : Nat) (name : String) (arguments : List Bytes) :
    Action Unit := do
  match limit with
  | 0 => throw .exits
  | limit + 1 =>
    match name, builtins.lookup name with
    | _, some builtin => setStatus (← builtin arguments)
    | "eval", none =>
      let script ← prepare (textOf ([32].intercalate arguments)).toList
      if script.passages.all (·.command.isNothing) then setStatus 0
      runPassages programs limit script.passages script.fault
    | ".", none => runFile programs limit arguments
    | "exec", none =>
      modifyProcess fun p => { p with command := some name }
      match arguments with
      | [] => setStatus 0
      | program :: arguments =>
        runProgram programs limit (textOf program) arguments
        throw .exits
    | "type", none => setStatus (← describe programs arguments)
    | _, _ =>
      let (letters, operands) ← readLetters ['p', 'v', 'V'] [] arguments
      match operands with
      | [] => setStatus 0
      | first :: rest =>
        if letters.contains 'V' then setStatus (← describe programs [first])
        else if letters.contains 'v' then setStatus (← locateCommand programs first)
        else
          modifyProcess fun p => { p with command := none }
          runCommand programs limit true (textOf first) rest

/-- Runs a script in a file as part of the running one. -/
def runFile (programs : Programs) (limit : Nat) (arguments : List Bytes) : Action Unit := do
  match limit with
  | 0 => throw .exits
  | limit + 1 =>
    match arguments with
    | [] => failText "filename argument required"
    | name :: _ =>
      let s ← get
      let text := textOf name
      let found := (programPaths s.process text).find? s.world.files.pathExists
      match found with
      | none =>
        if text.toList.contains '/' then
          failWith (bytesOf "cannot open " ++ name ++ bytesOf ": No such file")
        else failWith (name ++ bytesOf ": not found")
      | some path =>
        let content := ((s.world.files.readBytes path).toOption.getD .empty).toList
        let script ← prepare (textOf content).toList
        if script.passages.all (·.command.isNothing) then setStatus 0
        match ← (runPassages programs limit script.passages script.fault).result with
        | .ok () => return ()
        | .error .returns => return ()
        | .error jump => throw jump

def callFunction (programs : Programs) (limit : Nat) (body : Command) (arguments : List Bytes) :
    Action Unit := do
  match limit with
  | 0 => throw .exits
  | limit + 1 =>
    let before ← getProcess
    if deepestCalls ≤ before.frames.length then
      failText ("Maximum function recursion depth (" ++ toString deepestCalls ++ ") reached")
    modifyProcess fun p =>
      { p.resetOptions with arguments, loops := 0, frames := [] :: p.frames }
    let outcome ← (run programs limit false body).result
    modifyProcess fun p =>
      let own := p.frames.headD []
      let p := { p with
        arguments := before.arguments
        loops := before.loops
        optionIndex := before.optionIndex
        optionOffset := before.optionOffset
        frames := before.frames }
      own.foldl (fun p (name, v) => p.restoreVariable name v) p
    match outcome with
    | .ok () => return ()
    | .error .returns => return ()
    | .error jump => throw jump

def runProgram (programs : Programs) (limit : Nat) (name : String) (arguments : List Bytes) :
    Action Unit := do
  match limit with
  | 0 => throw .exits
  | limit + 1 =>
    let s ← get
    match findProgram programs s name with
    | .error (status, what) =>
      complain (bytesOf (name ++ ": " ++ what))
      setStatus status
    | .ok (_, .tool tool) =>
      let input ← inputOf 0
      let report := tool (arguments.map textOf)
        { program := name, files := s.world.files, directory := s.process.directory, input
          inputKind := s.world.inputKind (s.process.channel? 0)
          outputKind := s.world.outputKind (s.process.channel? 1) }
      modifyWorld fun w => { w with files := report.files.getD w.files }
      leaveUnneeded input report.unread
      for written in report.written do
        let _ ← match written with
          | .message text => writeTo 2 text
          | .output text => writeTo 1 text
      setStatus report.code
    | .ok (_, .shell) =>
      let before := s.process
      let number := s.world.nextProcess
      modifyWorld fun w => { w with nextProcess := number + 1 }
      let exported := before.bindings.filter fun v => v.2.isExported && v.2.value.isSome
      modifyProcess fun _ =>
        { number, name, bindings := initialVariables exported before.directory
          descriptors := before.descriptors, directory := before.directory
          traps := before.traps.filter (·.2.isEmpty) }
      let ending ← (runShell programs limit arguments).result
      let status := (← getProcess).status
      modifyProcess fun _ => before
      match ending with
      | .error (.killed signal) =>
        if let some text := signalDescription signal then
          let _ ← writeTo 2 (bytesOf (text ++ "\n"))
        setStatus (128 + signal)
      | _ => setStatus status

/-- Runs passages, and tells what is wrong with the script behind them. -/
def runPassages (programs : Programs) (limit : Nat) (passages : List Passage)
    (fault : Option ScriptError) : Action Unit := do
  match limit with
  | 0 => throw .exits
  | limit + 1 =>
    match passages with
    | passage :: rest =>
      run programs limit false passage.command
      runPassages programs limit rest fault
    | [] =>
      match fault with
      | some fault => failAt fault
      | none => return ()

/-- Runs the passages that the input gives, behind some of it that has been taken already. More of
it is taken as soon as that ends within a passage. -/
def runInput (programs : Programs) (limit line : Nat) (taken : List Char) : Action Unit := do
  match limit with
  | 0 => throw .exits
  | limit + 1 =>
    let input ← inputOf 0
    match readPassage { rest := taken, line, nextDocument := (← getProcess).nextDocument } with
    | .error fault =>
      if input.isEmpty then failAt fault
      else runInput programs limit line (taken ++ (← takeBlock input))
    | .ok (passage, s) =>
      if s.isOver && !input.isEmpty then
        runInput programs limit line (taken ++ (← takeBlock input))
      else
        keepDocuments [passage]
        run programs limit false passage.command
        if s.isOver && (← inputOf 0).isEmpty then return ()
        else runInput programs limit s.line s.rest

/-- Does what is to be done for the signals that the process has been sent. -/
def handleSignals (programs : Programs) (limit : Nat) : Action Unit := do
  match limit with
  | 0 => throw .exits
  | limit + 1 =>
    let s ← get
    let number := s.process.number
    if s.process.isSubshell || s.world.signalled.all (·.1 ≠ number) then return ()
    let mine := (s.world.signalled.filter (·.1 = number)).reverse
    modifyWorld fun w => { w with signalled := w.signalled.filter (·.1 ≠ number) }
    handleEach programs limit (mine.map (·.2))

/-- Does what is to be done for some signals in order. -/
def handleEach (programs : Programs) (limit : Nat) (signals : List Nat) : Action Unit := do
  match limit with
  | 0 => throw .exits
  | limit + 1 =>
    match signals with
    | [] => return ()
    | signal :: rest =>
      match (← getProcess).traps.lookup signal, signal == 9 with
      | some action, false =>
        if !action.isEmpty then
          let status := (← getProcess).status
          let script ← prepare (textOf action).toList
          runPassages programs limit script.passages script.fault
          setStatus status
      | _, _ => if !harmlessSignals.contains signal then throw (.killed signal)
      handleEach programs limit rest

/-- Ends a process in which an action has come to its end, with what is to be done then. -/
def finish (programs : Programs) (limit : Nat) (outcome : Except Jump Unit) : Action Unit := do
  match limit with
  | 0 => throw .exits
  | limit + 1 =>
    match outcome with
    | .error (.killed signal) => throw (.killed signal)
    | _ =>
      let p ← getProcess
      match p.traps.lookup 0 with
      | none => return ()
      | some action =>
        modifyProcess fun p => { p with traps := p.traps.filter (·.1 ≠ 0) }
        let script ← prepare (textOf action).toList
        match ← (runPassages programs limit script.passages script.fault).result with
        | .error .exits => return ()
        | .error .fails => return ()
        | .error (.killed signal) => throw (.killed signal)
        | _ => setStatus p.status

/-- Runs a command as all that a process does. -/
def runToEnd (programs : Programs) (limit : Nat) (tested : Bool) (c : Command) : Action Unit := do
  match limit with
  | 0 => throw .exits
  | limit + 1 =>
    let outcome ← (run programs limit tested c).result
    finish programs limit outcome

/-- Runs a shell with arguments. -/
def runShell (programs : Programs) (limit : Nat) (arguments : List Bytes) : Action Unit := do
  match limit with
  | 0 => throw .exits
  | limit + 1 =>
    let outcome ← (do
      match ← startUp arguments with
      | .argument script =>
        let script ← prepare (textOf script).toList
        runPassages programs limit script.passages script.fault
      | .file path =>
        let s ← get
        let full := join s.process.directory (textOf path)
        let content := ((s.world.files.readBytes full).toOption.getD .empty).toList
        let script ← prepare (textOf content).toList
        runPassages programs limit script.passages script.fault
      | .input => runInput programs limit 1 [] : Action Unit).result
    finish programs limit outcome

end

end Typings.Tools.Shell

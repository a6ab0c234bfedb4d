import Typings.Tools.Shell.Process

/-! # Subshells and signals

A subshell works on a copy of the process, of which nothing but the status is left, and variables
can be set for a command alone. A signal ends a process that has no trap for it.
-/

namespace Typings.Tools.Shell

/-- Runs an action on a copy of the process, which is then forgotten but for its status. -/
def isolated (change : Process → Process) (x : Action Unit) : Action Unit := do
  let before ← getProcess
  modifyProcess change
  let _ ← x.result
  let status := (← getProcess).status
  modifyProcess fun _ => { before with status }

/-- Runs an action with variables set for the time being. -/
def withVariables {α : Type} (assignments : List (String × Bytes)) (x : Action α) : Action α := do
  if assignments.isEmpty then x
  else
    let p ← getProcess
    let saved := (assignments.map (·.1)).eraseDups.map fun name => (name, p.lookup name)
    for (name, value) in assignments do
      assign name value
      modifyProcess fun p =>
        p.putVariable name ((p.lookup name).map fun v => { v with isExported := true })
    x.ensuring <| modifyProcess fun p =>
      saved.foldl (fun p (name, v) => p.restoreVariable name v) p

/-- What a subshell starts from. Only signals that are ignored stay so. -/
def Process.subshell (p : Process) : Process :=
  { p with isSubshell := true, traps := p.traps.filter (·.2.isEmpty), jobs := [] }

/-! ## Signals -/

/-- What a signal that ends a process is called. -/
def signalDescriptions : List (Nat × String) :=
  [(1, "Hangup"), (3, "Quit"), (4, "Illegal instruction"), (5, "Trace/breakpoint trap"),
    (6, "Aborted"), (7, "Bus error"), (8, "Floating point exception"), (9, "Killed"),
    (10, "User defined signal 1"), (11, "Segmentation fault"), (12, "User defined signal 2"),
    (14, "Alarm clock"), (15, "Terminated"), (16, "Stack fault"), (24, "CPU time limit exceeded"),
    (25, "File size limit exceeded"), (26, "Virtual timer expired"),
    (27, "Profiling timer expired"), (29, "I/O possible"), (30, "Power failure"),
    (31, "Bad system call")]

/-- What the shell says of a process that a signal has ended. Nothing is said of an interrupt or of
a pipe that nobody reads. -/
def signalDescription (signal : Nat) : Option String :=
  if signal = 2 ∨ signal = 13 then none
  else if 34 ≤ signal then some ("Real-time signal " ++ toString (signal - 34))
  else some ((signalDescriptions.lookup signal).getD ("Unknown signal " ++ toString signal))

/-- The signals that end no process. -/
def harmlessSignals : List Nat := [0, 17, 18, 19, 20, 21, 22, 23, 28]

/-- Ends the process if it has been sent a signal that it has no trap for. Other signals wait until
the command is done. -/
def heedDeadlySignals : Action Unit := do
  let s ← get
  let isDeadly (signal : Nat) : Bool :=
    !harmlessSignals.contains signal && (signal == 9 || (s.process.traps.lookup signal).isNone)
  if !s.process.isSubshell then
    let mine := s.world.signalled.filter (·.1 = s.process.number)
    if let some (_, signal) := mine.reverse.find? (isDeadly ·.2) then throw (.killed signal)

end Typings.Tools.Shell

import Typings.Tools.Shell.Running

/-! # The shell

The tool `sh`: runs a script that is an argument, a file or its input. It starts from the files
there are; what it changes about them is forgotten when it ends.
-/

namespace Typings.Tools.Shell

open Files

/-- The number that the first process has. -/
def firstProcess : Nat := 4242

/-- The variables that a shell finds when it is started. -/
def environment : List (String × Variable) :=
  [("HOME", "/root"), ("PATH", "/usr/local/sbin:/usr/local/bin:/usr/sbin:/usr/bin:/sbin:/bin")].map
    fun (name, value) => (name, { value := some (bytesOf value), isExported := true })

/-- The greatest number of steps that a shell takes. -/
def patience : Nat := 1000000000

/-- The state in which a shell is started: descriptors 0, 1 and 2 lead to a pipe each. -/
def initialState (s : Surroundings) : State where
  world :=
    { files := s.files
      opened := [(0, .pipe s.input []), (1, .pipe [] []), (2, .pipe [] [])]
      nextOpened := 3
      nextProcess := firstProcess + 1 }
  process :=
    { number := firstProcess
      name := s.program
      bindings := initialVariables environment s.directory
      descriptors := [(0, .opened 0), (1, .opened 1), (2, .opened 2)]
      directory := s.directory }

/-- Runs a shell. -/
def outcome (programs : Programs) (arguments : List String) (s : Surroundings) : Outcome :=
  let (ending, final) := runShell programs patience (arguments.map bytesOf) (initialState s)
  let status := match ending with
    | .error (.killed signal) => ExitStatus.signal signal
    | _ => .code final.process.status
  let w := final.world
  outcomeOf status (w.unread 1) (w.unread 2) (w.unread 0)

end Typings.Tools.Shell

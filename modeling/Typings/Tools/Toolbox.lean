import Typings.Tools.Concatenate
import Typings.Tools.Count
import Typings.Tools.Edit
import Typings.Tools.Shell
import Typings.Tools.Transliterate

/-! # The built-in toolbox

The tools that a formatter command can name, and where they are. A name without a slash is looked
for in the directories of programs; any other one is a path.
-/

namespace Typings.Tools

open Files Shell

/-- The programs by name. -/
def programs : List (String × Program) :=
  [("cat", .tool Concatenate.tool), ("dash", .shell),
    ("false", .tool fun _ s => { code := 1, unread := s.input }), ("sed", .tool Edit.tool),
    ("sh", .shell), ("tr", .tool Transliterate.tool),
    ("true", .tool fun _ s => { unread := s.input }), ("wc", .tool Count.tool)]

/-- The directories that hold the programs. -/
def programDirectories : List Location := [["usr", "bin"], ["bin"]]

/-- The directories that there are on any machine. -/
def standardDirectories : List Location :=
  programDirectories ++ [["dev"], ["etc"], ["home"], ["lib"], ["mnt"], ["opt"], ["proc"], ["root"],
    ["run"], ["sbin"], ["srv"], ["sys"], ["tmp"], ["usr"], ["usr", "include"], ["usr", "lib"],
    ["usr", "local"], ["usr", "local", "bin"], ["usr", "local", "lib"], ["usr", "local", "sbin"],
    ["usr", "local", "share"], ["usr", "sbin"], ["usr", "share"], ["usr", "src"], ["var"],
    ["var", "log"], ["var", "tmp"]]

/-- The devices that there are on any machine. -/
def devices : List Location :=
  ["null", "zero", "stdin", "stdout", "stderr", "tty"].map fun name => ["dev", name]

def programAtLocation : Programs := fun location =>
  match location.getLast? with
  | some name =>
    if programDirectories.contains location.dropLast then programs.lookup name else none
  | none => none

/-- The files with all that there is on any machine. -/
def withStandardFiles (files : Store) (directory : String) : Store :=
  let here := (segments directory).filter (!·.isEmpty)
  let programFiles := programDirectories.flatMap fun d => programs.map fun (name, _) => d ++ [name]
  { entries := files.entries ++ [(here, .directory)] ++
      standardDirectories.map (·, .directory) ++
      (devices ++ programFiles).map (·, .file .empty) }

/-- Where the program of a command is looked for. -/
def commandPaths (directory program : String) : List String :=
  if (segments program).length ≤ 1 then
    ["/usr/local/sbin", "/usr/local/bin", "/usr/sbin", "/usr/bin", "/sbin", "/bin"].map
      (join · program)
  else [join directory program]

/-- The tools by name, for commands that are run in a directory with some files. -/
def builtinToolbox (files : Store) (directory : String) : Toolbox := fun program =>
  let files := withStandardFiles files directory
  let found := (commandPaths directory program).filterMap fun path =>
    ((programAt programAtLocation files path).toOption).map fun p => (path, p)
  found.head?.map fun (path, p) arguments input =>
    let s : Surroundings := { program := path, files, directory, input := input.toList }
    match p with
    | .tool run => (run arguments s).outcome s.input
    | .shell => Shell.outcome programAtLocation arguments s

end Typings.Tools

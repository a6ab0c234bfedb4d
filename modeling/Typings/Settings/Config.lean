import Typings.Files.Store
import Typings.Toml.Document

/-! # Configuration files

The settings that a file in the working directory, or one that is named, provides. Every key may be
left out, and no other key may be there. Paths in the file are relative to the file.
-/

namespace Typings.Settings

open Files

/-- The name of the file that is looked for in the working directory. -/
def configName : String := "liquid-types.toml"

/-- How the output is formatted, as far as the file says. -/
structure FormatterConfig where
  enabled : Option Bool := none
  command : Option (List String) := none
  deriving DecidableEq, Repr

/-- The contents of a configuration file. -/
structure Config where
  input : Option String := none
  output : Option String := none
  templateContexts : Option Bool := none
  formatter : FormatterConfig := {}
  deriving DecidableEq, Repr

/-- Why a configuration file cannot be used. -/
inductive ConfigError where
  | unreadable (path : String) (error : FileError)
  | invalid (path : String)
  deriving DecidableEq, Repr

def ConfigError.message : ConfigError → String
  | unreadable path error => "Failed to read config " ++ path ++ ": " ++ error.message
  | invalid path => "Failed to parse config " ++ path

/-! ## Contents -/

def textOf? : Toml.Value → Option String
  | .text value => some value
  | _ => none

def booleanOf? : Toml.Value → Option Bool
  | .boolean value => some value
  | _ => none

def textsOf? : Toml.Value → Option (List String)
  | .array items => items.mapM textOf?
  | _ => none

namespace FormatterConfig

/-- Takes in a field of the formatter's table. -/
def take (c : FormatterConfig) (field : String × Toml.Value) : Option FormatterConfig :=
  match field with
  | ("enabled", value) => (booleanOf? value).map fun v => { c with enabled := some v }
  | ("command", value) => (textsOf? value).map fun v => { c with command := some v }
  | _ => none

/-- What a value says of the formatter. A table says it by names; an array by position, and what
follows the known positions does not count. -/
def of? : Toml.Value → Option FormatterConfig
  | .table _ fields => fields.foldlM take {}
  | .array [] => some {}
  | .array [enabled] => take {} ("enabled", enabled)
  | .array (enabled :: command :: _) => do
    (← take {} ("enabled", enabled)).take ("command", command)
  | _ => none

end FormatterConfig

namespace Config

/-- Takes in a field of the root table. -/
def take (c : Config) (field : String × Toml.Value) : Option Config :=
  match field with
  | ("input", value) => (textOf? value).map fun v => { c with input := some v }
  | ("output", value) => (textOf? value).map fun v => { c with output := some v }
  | ("template_contexts", value) =>
    (booleanOf? value).map fun v => { c with templateContexts := some v }
  | ("formatter", value) => (FormatterConfig.of? value).map fun v => { c with formatter := v }
  | _ => none

/-- The contents of a configuration text. -/
def ofText? (text : String) : Option Config := do
  (← Toml.read? text).foldlM take {}

/-- The contents with the paths read from a base directory. -/
def relativeTo (c : Config) (base : String) : Config :=
  { c with input := c.input.map (join base), output := c.output.map (join base) }

/-- The contents of the configuration file at a path. -/
def loadFrom (files : Store) (cwd path : String) : Except ConfigError Config := do
  match files.readText path with
  | .error error => .error (.unreadable path error)
  | .ok text =>
    match ofText? text with
    | none => .error (.invalid path)
    | some config => return config.relativeTo ((parent? path).getD cwd)

/-- The configuration of a run in a working directory. A file that is named has to be there; the
file that is looked for need not. -/
def load (files : Store) (explicit : Option String) (cwd : String) : Except ConfigError Config :=
  match explicit with
  | some path => loadFrom files cwd (join cwd path)
  | none =>
    let path := join cwd configName
    if files.pathExists path then loadFrom files cwd path else .ok {}

end Config

end Typings.Settings

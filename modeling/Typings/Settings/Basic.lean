import Typings.Settings.Arguments
import Typings.Settings.Config
import Typings.Text.Blank

/-! # Settings

The settings of a run. An argument wins over the configuration file, and the file over the built-in
values.
-/

namespace Typings

open Files Settings

/-- What a run goes by. -/
structure Settings where
  input : String
  output : String
  templateContexts : Bool
  /-- The words of the command that formats the output, if one does. -/
  formatter : Option (List String)
  deriving DecidableEq, Repr

namespace Settings

def defaultInput : String := "docs/objects.json"

def defaultOutput : String := "dist/shopify-liquid-types.ts"

def defaultFormatter : List String := ["prettier", "--parser", "typescript"]

/-- The formatter of a run. A command among the arguments wins over a file that turns formatting
off. -/
def resolveFormatter (config : FormatterConfig) (arguments : Arguments) :
    Option (List String) :=
  if arguments.noFormat then none
  else
    match arguments.formatter with
    | some command => some ((Text.words command.toList).map String.ofList)
    | none =>
      if config.enabled = some false then none else some (config.command.getD defaultFormatter)

/-- Whether a run includes the template contexts. -/
def resolveContexts (config : Option Bool) (arguments : Arguments) : Bool :=
  if arguments.noTemplateContexts then false
  else if arguments.templateContexts then true
  else config.getD false

/-- A path that an argument gives, or else the file, or else neither. -/
def resolvePath (argument config : Option String) (default cwd : String) : String :=
  match argument with
  | some path => join cwd path
  | none => config.getD (join cwd default)

/-- The settings of a run in a working directory. -/
def resolve (config : Config) (arguments : Arguments) (cwd : String) : Settings where
  input := resolvePath arguments.input config.input defaultInput cwd
  output := resolvePath arguments.output config.output defaultOutput cwd
  templateContexts := resolveContexts config.templateContexts arguments
  formatter := resolveFormatter config.formatter arguments

end Settings

end Typings

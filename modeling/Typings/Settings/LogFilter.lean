/-! # Log filters

Which log lines a run shows, as a text of filter directives. A plain level covers the modules of the
program and nothing else; any other text is a filter by itself.

Log lines name times and places in the source of the program, and are left out of runs: `Typings.run`
gives what a run prints beside them. No run reads its filter, and the switch for more log lines makes
no difference to one.
-/

namespace Typings.Settings

/-- The modules that write log lines. -/
def loggingModules : List String := ["liquid_types", "liquid_types_core"]

/-- The names of the levels. -/
def logLevels : List String := ["trace", "debug", "info", "warn", "error"]

/-- The text with its ASCII letters in lowercase. No other character has a lowercase form that
occurs in the name of a level. -/
def lowercase (s : String) : String := String.ofList (s.toList.map Char.toLower)

/-- The text is the name of a level, in letters of either case. -/
def isPlainLevel (s : String) : Bool := logLevels.contains (lowercase s)

/-- The filter that shows a level for every module. -/
def scopedFilter (level : String) : String :=
  ",".intercalate (loggingModules.map fun name => name ++ "=" ++ level)

/-- The filter of a run, from the switch for more log lines and from the environment. -/
def logFilter (verbose : Bool) (environment : Option String) : String :=
  if verbose then scopedFilter "debug"
  else
    match environment with
    | none => scopedFilter "info"
    | some text => if isPlainLevel text then scopedFilter (lowercase text) else text

end Typings.Settings

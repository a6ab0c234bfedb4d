/-! # Command-line arguments

The arguments of a run. Options are read from left to right; the value of an option is looked at
only when the next option comes or the arguments end, so of two mistakes the one that is noticed
first is reported. Which options exclude each other is checked last.
-/

namespace Typings.Settings

/-- Why arguments are not a request to generate declarations. -/
inductive UsageError where
  /-- Options that exclude each other, or an option that is given twice. -/
  | argumentConflict
  | unknownArgument
  /-- The value of an option is missing, or is empty where it must not be. -/
  | invalidValue
  /-- A value for an option that takes none. -/
  | tooManyValues
  | invalidSubcommand
  | missingSubcommand
  /-- There are no arguments at all. -/
  | nothingGiven
  | helpRequested
  | versionRequested
  deriving DecidableEq, Repr

namespace UsageError

/-- How the program is called. -/
def usage : String :=
  "Usage: liquid-types [-v] generate [--config PATH] [-i PATH] [-o PATH] [--stdout | --check]\n" ++
    "         [--formatter CMD | --no-format] [--template-contexts | --no-template-contexts]"

def message : UsageError → String
  | argumentConflict => "error: options exclude each other or are repeated"
  | unknownArgument => "error: unexpected argument"
  | invalidValue => "error: the value of an option is missing or empty"
  | tooManyValues => "error: an option takes no value"
  | invalidSubcommand => "error: unrecognized subcommand"
  | missingSubcommand => "error: a subcommand is required"
  | nothingGiven => "TypeScript declarations for Shopify Liquid objects"
  | helpRequested => "TypeScript declarations for Shopify Liquid objects"
  | versionRequested => "liquid-types 0.1.0"

end UsageError

/-- What the arguments ask for. -/
structure Arguments where
  verbose : Bool := false
  config : Option String := none
  input : Option String := none
  output : Option String := none
  stdout : Bool := false
  noFormat : Bool := false
  formatter : Option String := none
  templateContexts : Bool := false
  noTemplateContexts : Bool := false
  check : Bool := false
  deriving DecidableEq, Repr

/-- Options without a value. -/
inductive Switch where
  | verbose
  | stdout
  | noFormat
  | templateContexts
  | noTemplateContexts
  | check
  | help
  | version
  deriving DecidableEq, Repr

/-- Options with a value. -/
inductive Valued where
  | config
  | input
  | output
  | formatter
  deriving DecidableEq, Repr

/-- An option of either form. -/
inductive OptionKind where
  | switch (s : Switch)
  | valued (v : Valued)
  deriving DecidableEq, Repr

namespace Arguments

/-- The switch has been given. -/
def has (a : Arguments) : Switch → Bool
  | .verbose => a.verbose
  | .stdout => a.stdout
  | .noFormat => a.noFormat
  | .templateContexts => a.templateContexts
  | .noTemplateContexts => a.noTemplateContexts
  | .check => a.check
  | .help => false
  | .version => false

/-- Turns a switch on. -/
def switchOn (a : Arguments) : Switch → Arguments
  | .verbose => { a with verbose := true }
  | .stdout => { a with stdout := true }
  | .noFormat => { a with noFormat := true }
  | .templateContexts => { a with templateContexts := true }
  | .noTemplateContexts => { a with noTemplateContexts := true }
  | .check => { a with check := true }
  | .help => a
  | .version => a

/-- The value that has been given. -/
def valueOf (a : Arguments) : Valued → Option String
  | .config => a.config
  | .input => a.input
  | .output => a.output
  | .formatter => a.formatter

def setValue (a : Arguments) (value : String) : Valued → Arguments
  | .config => { a with config := some value }
  | .input => { a with input := some value }
  | .output => { a with output := some value }
  | .formatter => { a with formatter := some value }

/-- Takes in the value of an option. A path must not be empty. -/
def takeValue (a : Arguments) (v : Valued) (value : String) : Except UsageError Arguments :=
  if (a.valueOf v).isSome then .error .argumentConflict
  else if v ≠ .formatter ∧ value.isEmpty then .error .invalidValue
  else .ok (a.setValue value v)

def takeSwitch (a : Arguments) (s : Switch) : Except UsageError Arguments :=
  if s = .help then .error .helpRequested
  else if s = .version then .error .versionRequested
  else if a.has s then .error .argumentConflict
  else .ok (a.switchOn s)

/-- Options that exclude each other have been given. -/
def hasConflict (a : Arguments) : Bool :=
  (a.stdout && a.check) || (a.noFormat && a.formatter.isSome) ||
    (a.templateContexts && a.noTemplateContexts)

end Arguments

/-- The options of a command, by their long and by their short names. -/
structure OptionNames where
  long : List (String × OptionKind)
  short : List (Char × OptionKind)

/-- The options that stand before the subcommand. -/
def outerNames : OptionNames where
  long := [("verbose", .switch .verbose), ("help", .switch .help), ("version", .switch .version)]
  short := [('v', .switch .verbose), ('h', .switch .help), ('V', .switch .version)]

/-- The options of the subcommand. -/
def generateNames : OptionNames where
  long :=
    [("verbose", .switch .verbose), ("help", .switch .help), ("config", .valued .config),
      ("input", .valued .input), ("output", .valued .output), ("stdout", .switch .stdout),
      ("no-format", .switch .noFormat), ("formatter", .valued .formatter),
      ("template-contexts", .switch .templateContexts),
      ("no-template-contexts", .switch .noTemplateContexts), ("check", .switch .check)]
  short :=
    [('v', .switch .verbose), ('h', .switch .help), ('i', .valued .input), ('o', .valued .output)]

/-- Arguments on their way: what has been taken in, and an option whose value has not been looked at
or has not come yet. -/
structure Progress where
  taken : Arguments := {}
  pending : Option (Valued × Option String) := none
  deriving DecidableEq, Repr

namespace Progress

/-- Looks at the pending option. -/
def resolve (p : Progress) : Except UsageError Arguments :=
  match p.pending with
  | none => .ok p.taken
  | some (_, none) => .error .invalidValue
  | some (v, some value) => p.taken.takeValue v value

/-- The pending option waits for its value. -/
def waits (p : Progress) : Bool :=
  match p.pending with
  | some (_, none) => true
  | _ => false

/-- The next argument is the value that the pending option waits for. -/
def giveValue (p : Progress) (value : String) : Progress :=
  { p with pending := p.pending.map fun (v, _) => (v, some value) }

def switch (p : Progress) (s : Switch) : Except UsageError Progress := do
  let taken ← p.resolve
  return ⟨← taken.takeSwitch s, none⟩

/-- Takes in an option with a value, which is attached to it or comes as the next argument. -/
def valued (p : Progress) (v : Valued) (attached : Option String) :
    Except UsageError Progress := do
  let taken ← p.resolve
  match attached with
  | none => return ⟨taken, some (v, none)⟩
  | some value => return ⟨← taken.takeValue v value, none⟩

end Progress

/-- The name and the attached value of a long option, without its dashes. -/
def splitLong (cs : List Char) : String × Option String :=
  let name := cs.takeWhile (· ≠ '=')
  match cs.drop name.length with
  | [] => (String.ofList name, none)
  | _ :: value => (String.ofList name, some (String.ofList value))

/-- Takes in a long option, given without its dashes. -/
def takeLong (names : OptionNames) (p : Progress) (cs : List Char) :
    Except UsageError Progress :=
  let (name, value) := splitLong cs
  match names.long.lookup name, value with
  | none, _ => .error .unknownArgument
  | some (.switch s), none => p.switch s
  | some (.switch _), some _ => .error .tooManyValues
  | some (.valued v), value => p.valued v value

/-- Takes in short options, given without their dash. What follows an option with a value is that
value, with or without an equals sign. -/
def takeShort (names : OptionNames) (p : Progress) : List Char → Except UsageError Progress
  | [] => .ok p
  | c :: rest =>
    match names.short.lookup c with
    | none => .error .unknownArgument
    | some (.switch s) => do takeShort names (← p.switch s) rest
    | some (.valued v) =>
      match rest with
      | [] => p.valued v none
      | '=' :: value => p.valued v (some (String.ofList value))
      | value => p.valued v (some (String.ofList value))

/-- What has been taken in when the arguments end. -/
def Progress.finish (p : Progress) : Except UsageError Arguments := do
  let taken ← p.resolve
  if taken.hasConflict then .error .argumentConflict else return taken

/-- Reads the arguments behind the subcommand. -/
def readGenerate (p : Progress) : List String → Except UsageError Arguments
  | [] => p.finish
  | argument :: rest =>
    match argument.toList with
    | ['-', '-'] => if rest.isEmpty then p.finish else .error .unknownArgument
    | '-' :: '-' :: long => do readGenerate (← takeLong generateNames p long) rest
    | '-' :: c :: short => do readGenerate (← takeShort generateNames p (c :: short)) rest
    | _ => if p.waits then readGenerate (p.giveValue argument) rest else .error .unknownArgument

def subcommands : List String := ["generate", "help"]

/-- Reads the arguments behind `help`, which name a subcommand. -/
def readHelp : List String → UsageError
  | [] => .helpRequested
  | [name] => if subcommands.contains name then .helpRequested else .invalidSubcommand
  | _ => .invalidSubcommand

/-- The error where arguments end without a subcommand. -/
def withoutSubcommand (p : Progress) : UsageError :=
  if p.taken = {} then .nothingGiven else .missingSubcommand

/-- Reads arguments up to the subcommand and what it takes. -/
def readOuter (p : Progress) : List String → Except UsageError Arguments
  | [] => .error (withoutSubcommand p)
  | argument :: rest =>
    if argument = "generate" then
      (readGenerate {} rest).map fun taken =>
        { taken with verbose := p.taken.verbose || taken.verbose }
    else if argument = "help" then .error (readHelp rest)
    else
      match argument.toList with
      | ['-', '-'] =>
        match rest with
        | [] => .error (withoutSubcommand p)
        | next :: _ =>
          .error (if subcommands.contains next then .unknownArgument else .invalidSubcommand)
      | '-' :: '-' :: long => do readOuter (← takeLong outerNames p long) rest
      | '-' :: c :: short => do readOuter (← takeShort outerNames p (c :: short)) rest
      | _ => .error .invalidSubcommand

namespace Arguments

/-- Reads the arguments of a run. -/
def read (arguments : List String) : Except UsageError Arguments := readOuter {} arguments

end Arguments

end Typings.Settings

import Typings.Proofs.Files.Paths
import Typings.Proofs.RunModes

/-! # Sources of settings

Every setting of a run comes from flags of its own, from a key of its own in the configuration, or
is built in. A flag wins over whatever the configuration says. Where no flag is given, the key can
be told by a flag: the run comes to the same value without a configuration when it is given that
flag. What flags and keys say of one setting has no effect on another.
-/

namespace Typings

open Files

namespace Text

/-- The text is not empty, and none of its characters is blank. -/
structure IsWord (word : List Char) : Prop where
  nonempty : word ≠ []
  inked : ∀ c ∈ word, isBlank c = false

theorem words_append_blank {c : Char} (hc : isBlank c = true) (front rest : List Char) :
    words (front ++ c :: rest) = words front ++ words rest := by
  unfold words
  rw [List.splitOnP_append_cons front rest hc, List.filter_append]

theorem IsWord.words_eq {word : List Char} (hword : IsWord word) : words word = [word] := by
  rw [words, List.splitOnP_eq_singleton hword.inked]
  simp [hword.nonempty]

/-- The words of a text are those that it was put together from. -/
theorem words_intercalate {ws : List (List Char)} (hws : ∀ word ∈ ws, IsWord word) :
    words ([' '].intercalate ws) = ws := by
  induction ws with
  | nil => rfl
  | cons word rest ih =>
      obtain ⟨hword, hrest⟩ := List.forall_mem_cons.mp hws
      cases rest with
      | nil => simpa using hword.words_eq
      | cons next rest =>
          rw [List.intercalate_cons_cons, List.append_assoc, List.singleton_append,
            words_append_blank (by decide), hword.words_eq, ih hrest, List.singleton_append]

end Text

namespace Settings

/-! ## Settings one by one -/

/-- One of the settings that flags and configurations are about. -/
inductive Setting where
  | input
  | output
  | templateContexts
  | formatter
  deriving DecidableEq

namespace Setting

/-- The key of the setting in a configuration. -/
def key : Setting → String
  | input => "input"
  | output => "output"
  | templateContexts => "template_contexts"
  | formatter => "formatter"

/-- What flags say of a setting. -/
abbrev Flags : Setting → Type
  | input => Option String
  | output => Option String
  | templateContexts => Bool × Bool
  | formatter => Bool × Option String

/-- What a configuration says of a setting. -/
abbrev Contents : Setting → Type
  | input => Option String
  | output => Option String
  | templateContexts => Option Bool
  | formatter => FormatterConfig

abbrev Value : Setting → Type
  | input => String
  | output => String
  | templateContexts => Bool
  | formatter => Option (List String)

end Setting

def Arguments.flags (a : Arguments) : (k : Setting) → k.Flags
  | .input => a.input
  | .output => a.output
  | .templateContexts => (a.templateContexts, a.noTemplateContexts)
  | .formatter => (a.noFormat, a.formatter)

/-- A flag for the setting is given. -/
def Arguments.Gives (a : Arguments) (k : Setting) : Prop := a.flags k ≠ ({} : Arguments).flags k

def Config.contents (c : Config) : (k : Setting) → k.Contents
  | .input => c.input
  | .output => c.output
  | .templateContexts => c.templateContexts
  | .formatter => c.formatter

/-- The configuration says nothing that a value for the setting could come from. -/
def Config.Silent (c : Config) : Setting → Prop
  | .input => c.input = none
  | .output => c.output = none
  | .templateContexts => c.templateContexts = none
  | .formatter => c.formatter.enabled ≠ some false ∧ c.formatter.command = none

def value (s : Settings) : (k : Setting) → k.Value
  | .input => s.input
  | .output => s.output
  | .templateContexts => s.templateContexts
  | .formatter => s.formatter

/-- The settings of a run that is told nothing. -/
def builtIn (cwd : String) : Settings where
  input := join cwd defaultInput
  output := join cwd defaultOutput
  templateContexts := false
  formatter := some defaultFormatter

/-! ## Flags in place of keys -/

/-- A flag as it is given. -/
inductive Flag where
  | switch (s : Switch)
  | valued (v : Valued) (value : String)

/-- Takes in a flag. -/
def Arguments.give (a : Arguments) : Flag → Except UsageError Arguments
  | .switch s => a.takeSwitch s
  | .valued v value => a.takeValue v value

/-- The flag that tells what a configuration says of a setting. Paths in the configuration are read
from a base directory. A command can be told where its words are words. -/
inductive FlagFor (c : Config) (base : String) : Setting → Flag → Prop
  | input (path : String) (written : c.input = some path) :
      FlagFor c base .input (.valued .input (join base path))
  | output (path : String) (written : c.output = some path) :
      FlagFor c base .output (.valued .output (join base path))
  | withContexts (written : c.templateContexts = some true) :
      FlagFor c base .templateContexts (.switch .templateContexts)
  | withoutContexts (written : c.templateContexts = some false) :
      FlagFor c base .templateContexts (.switch .noTemplateContexts)
  | unformatted (disabled : c.formatter.enabled = some false) :
      FlagFor c base .formatter (.switch .noFormat)
  | command (words : List String) (enabled : c.formatter.enabled ≠ some false)
      (written : c.formatter.command = some words)
      (spelled : ∀ word ∈ words, Text.IsWord word.toList) :
      FlagFor c base .formatter (.valued .formatter (" ".intercalate words))

/-! ## Values -/

/-- The value of a setting, from its flags and its key alone. -/
def Setting.resolve (cwd : String) : (k : Setting) → k.Flags → k.Contents → k.Value
  | .input, flag, path => resolvePath flag path defaultInput cwd
  | .output, flag, path => resolvePath flag path defaultOutput cwd
  | .templateContexts, (on, off), included =>
    resolveContexts included { templateContexts := on, noTemplateContexts := off }
  | .formatter, (off, command), written =>
    resolveFormatter written { noFormat := off, formatter := command }

section Resolving

variable {a b : Arguments} {c d : Config} {cwd base : String} {k : Setting} {flag : Flag}

@[simp] theorem value_input (c : Config) (a : Arguments) (cwd : String) :
    (resolve c a cwd).value .input = resolvePath a.input c.input defaultInput cwd := rfl

@[simp] theorem value_output (c : Config) (a : Arguments) (cwd : String) :
    (resolve c a cwd).value .output = resolvePath a.output c.output defaultOutput cwd := rfl

@[simp] theorem value_templateContexts (c : Config) (a : Arguments) (cwd : String) :
    (resolve c a cwd).value .templateContexts = resolveContexts c.templateContexts a := rfl

@[simp] theorem value_formatter (c : Config) (a : Arguments) (cwd : String) :
    (resolve c a cwd).value .formatter = resolveFormatter c.formatter a := rfl

theorem value_resolve (c : Config) (a : Arguments) (cwd : String) (k : Setting) :
    (resolve c a cwd).value k = k.resolve cwd (a.flags k) (c.contents k) := by
  cases k <;> rfl

/-- A setting depends on its own flags and its own key only. -/
theorem value_congr (hflags : a.flags k = b.flags k) (hcontents : c.contents k = d.contents k) :
    (resolve c a cwd).value k = (resolve d b cwd).value k := by
  rw [value_resolve, value_resolve, hflags, hcontents]

theorem contents_relativeTo (hcontents : c.contents k = d.contents k) (base : String) :
    (c.relativeTo base).contents k = (d.relativeTo base).contents k := by
  cases k with
  | input => exact congrArg (Option.map (join base)) hcontents
  | output => exact congrArg (Option.map (join base)) hcontents
  | templateContexts => exact hcontents
  | formatter => exact hcontents

/-- A flag wins over the configuration. -/
theorem Arguments.Gives.value_eq (hgives : a.Gives k) (c d : Config) (cwd : String) :
    (resolve c a cwd).value k = (resolve d a cwd).value k := by
  cases k with
  | input =>
      obtain ⟨path, hpath⟩ : ∃ path, a.input = some path := Option.ne_none_iff_exists'.mp hgives
      rw [value_input, value_input, hpath]
      rfl
  | output =>
      obtain ⟨path, hpath⟩ : ∃ path, a.output = some path := Option.ne_none_iff_exists'.mp hgives
      rw [value_output, value_output, hpath]
      rfl
  | templateContexts =>
      rw [value_templateContexts, value_templateContexts]
      cases hon : a.templateContexts <;> cases hoff : a.noTemplateContexts
      · exact absurd (Prod.ext hon hoff) hgives
      all_goals simp [resolveContexts, hon, hoff]
  | formatter =>
      rw [value_formatter, value_formatter]
      cases hoff : a.noFormat <;> cases hcommand : a.formatter
      · exact absurd (Prod.ext hoff hcommand) hgives
      all_goals simp [resolveFormatter, hoff, hcommand]

/-- Without a flag and a key the built-in value counts. -/
theorem Config.Silent.value_eq (hsilent : c.Silent k) (hnone : ¬ a.Gives k) (base cwd : String) :
    (resolve (c.relativeTo base) a cwd).value k = (builtIn cwd).value k := by
  have hflags := not_not.mp hnone
  cases k with
  | input =>
      have hinput : c.input = none := hsilent
      have hflag : a.input = none := hflags
      rw [value_input, hflag, Config.relativeTo, hinput]
      rfl
  | output =>
      have houtput : c.output = none := hsilent
      have hflag : a.output = none := hflags
      rw [value_output, hflag, Config.relativeTo, houtput]
      rfl
  | templateContexts =>
      have hcontexts : c.templateContexts = none := hsilent
      obtain ⟨hon, hoff⟩ := Prod.mk.inj hflags
      rw [value_templateContexts]
      simp [resolveContexts, Config.relativeTo, value, builtIn, hon, hoff, hcontexts]
  | formatter =>
      obtain ⟨henabled, hcommand⟩ : c.formatter.enabled ≠ some false ∧ _ := hsilent
      obtain ⟨hoff, hnothing⟩ := Prod.mk.inj hflags
      rw [value_formatter]
      simp [resolveFormatter, Config.relativeTo, value, builtIn, hoff, hnothing, henabled, hcommand]

/-- Words that are put together for a flag are the words of the command. -/
theorem words_command {words : List String} (hwords : ∀ word ∈ words, Text.IsWord word.toList) :
    (Text.words (" ".intercalate words).toList).map String.ofList = words := by
  have hsplit := Text.words_intercalate (List.forall_mem_map.mpr hwords)
  rw [String.toList_intercalate, show " ".toList = [' '] from rfl, hsplit, List.map_map]
  simp [Function.comp_def]

theorem takeValue_of_isAbsolute {v : Valued} {path : String} (hnone : a.valueOf v = none)
    (hpath : isAbsolute path = true) : a.takeValue v path = .ok (a.setValue path v) := by
  simp [Arguments.takeValue, hnone, isAbsolute_nonempty hpath]

/-- A flag that tells what a configuration says of a setting can be given where there is no flag for
this setting yet, and it makes the same value without the configuration. -/
theorem FlagFor.given (hflag : FlagFor c base k flag) (hbase : isAbsolute base = true)
    (hnone : ¬ a.Gives k) (hfree : a.hasConflict = false) (cwd : String) :
    ∃ b, a.give flag = .ok b ∧ b.hasConflict = false ∧
      (resolve {} b cwd).value k = (resolve (c.relativeTo base) a cwd).value k := by
  have hflags := not_not.mp hnone
  cases hflag with
  | input path hwritten =>
      have hinput : a.input = none := hflags
      have hpath := isAbsolute_join hbase path
      refine ⟨a.setValue (join base path) .input, takeValue_of_isAbsolute hinput hpath, hfree, ?_⟩
      rw [value_input, value_input, Config.relativeTo, hinput, hwritten]
      exact join_of_isAbsolute hpath cwd
  | output path hwritten =>
      have houtput : a.output = none := hflags
      have hpath := isAbsolute_join hbase path
      refine ⟨a.setValue (join base path) .output, takeValue_of_isAbsolute houtput hpath, hfree, ?_⟩
      rw [value_output, value_output, Config.relativeTo, houtput, hwritten]
      exact join_of_isAbsolute hpath cwd
  | withContexts hwritten =>
      obtain ⟨hon, hoff⟩ := Prod.mk.inj hflags
      refine ⟨a.switchOn .templateContexts, ?_, ?_, ?_⟩
      · simp [Arguments.give, Arguments.takeSwitch, Arguments.has, hon]
      · simpa [Arguments.hasConflict, Arguments.switchOn, hoff] using hfree
      · simp [resolveContexts, Arguments.switchOn, Config.relativeTo, hon, hoff, hwritten]
  | withoutContexts hwritten =>
      obtain ⟨hon, hoff⟩ := Prod.mk.inj hflags
      refine ⟨a.switchOn .noTemplateContexts, ?_, ?_, ?_⟩
      · simp [Arguments.give, Arguments.takeSwitch, Arguments.has, hoff]
      · simpa [Arguments.hasConflict, Arguments.switchOn, hon] using hfree
      · simp [resolveContexts, Arguments.switchOn, Config.relativeTo, hon, hoff, hwritten]
  | unformatted hdisabled =>
      obtain ⟨hoff, hnothing⟩ := Prod.mk.inj hflags
      refine ⟨a.switchOn .noFormat, ?_, ?_, ?_⟩
      · simp [Arguments.give, Arguments.takeSwitch, Arguments.has, hoff]
      · simpa [Arguments.hasConflict, Arguments.switchOn, hnothing] using hfree
      · simp [resolveFormatter, Arguments.switchOn, Config.relativeTo, hoff, hnothing, hdisabled]
  | command words henabled hwritten hwords =>
      obtain ⟨hoff, hnothing⟩ := Prod.mk.inj hflags
      refine ⟨a.setValue (" ".intercalate words) .formatter, ?_, ?_, ?_⟩
      · simp [Arguments.give, Arguments.takeValue, Arguments.valueOf, hnothing]
      · simpa [Arguments.hasConflict, Arguments.setValue, hoff] using hfree
      · simp [resolveFormatter, Arguments.setValue, Config.relativeTo, hoff, hnothing, henabled,
          hwritten, words_command hwords, -String.toList_intercalate]

/-- A configuration that is not silent can be told by a flag, unless its command has something else
than words in it. -/
theorem silent_or_flagFor (c : Config) (base : String) (k : Setting) :
    c.Silent k ∨ (∃ flag, FlagFor c base k flag) ∨
      k = .formatter ∧ ∃ words, c.formatter.command = some words ∧
        ¬ ∀ word ∈ words, Text.IsWord word.toList := by
  cases k with
  | input =>
      cases hinput : c.input with
      | none => exact .inl hinput
      | some path => exact .inr (.inl ⟨_, .input path hinput⟩)
  | output =>
      cases houtput : c.output with
      | none => exact .inl houtput
      | some path => exact .inr (.inl ⟨_, .output path houtput⟩)
  | templateContexts =>
      match hcontexts : c.templateContexts with
      | none => exact .inl hcontexts
      | some true => exact .inr (.inl ⟨_, .withContexts hcontexts⟩)
      | some false => exact .inr (.inl ⟨_, .withoutContexts hcontexts⟩)
  | formatter =>
      by_cases hdisabled : c.formatter.enabled = some false
      · exact .inr (.inl ⟨_, .unformatted hdisabled⟩)
      cases hcommand : c.formatter.command with
      | none => exact .inl ⟨hdisabled, hcommand⟩
      | some words =>
          by_cases hwords : ∀ word ∈ words, Text.IsWord word.toList
          · exact .inr (.inl ⟨_, .command words hdisabled hcommand hwords⟩)
          · exact .inr (.inr ⟨rfl, words, rfl, hwords⟩)

end Resolving

/-! ## Keys -/

theorem Setting.key_injective {k other : Setting} (h : k.key = other.key) : k = other := by
  cases k <;> cases other <;> first | rfl | exact absurd h (by decide)

/-- The configuration with other contents for a setting. -/
def Config.say (c : Config) : (k : Setting) → k.Contents → Config
  | .input, path => { c with input := path }
  | .output, path => { c with output := path }
  | .templateContexts, included => { c with templateContexts := included }
  | .formatter, formatter => { c with formatter := formatter }

section Keys

variable {c d written : Config} {k : Setting} {fields : List (String × Toml.Value)}

theorem Config.contents_say (c : Config) (k : Setting) (said : k.Contents) :
    (c.say k said).contents k = said := by
  cases k <;> rfl

theorem Config.contents_say_of_ne {other : Setting} (hne : k ≠ other) (c : Config)
    (said : other.Contents) : (c.say other said).contents k = c.contents k := by
  cases k <;> cases other <;> first | rfl | exact absurd rfl hne

/-- A field that is taken in says something of the setting with its key, whatever has been taken in
before. -/
theorem exists_say_of_take {field : String × Toml.Value} (h : c.take field = some d) :
    ∃ (k : Setting) (said : k.Contents), field.1 = k.key ∧
      ∀ other : Config, other.take field = some (other.say k said) := by
  unfold Config.take at h
  split at h
  next value =>
    obtain ⟨path, hpath, -⟩ := Option.map_eq_some_iff.mp h
    exact ⟨.input, some path, rfl, fun other => by simp [Config.take, Config.say, hpath]⟩
  next value =>
    obtain ⟨path, hpath, -⟩ := Option.map_eq_some_iff.mp h
    exact ⟨.output, some path, rfl, fun other => by simp [Config.take, Config.say, hpath]⟩
  next value =>
    obtain ⟨included, hincluded, -⟩ := Option.map_eq_some_iff.mp h
    exact ⟨.templateContexts, some included, rfl,
      fun other => by simp [Config.take, Config.say, hincluded]⟩
  next value =>
    obtain ⟨formatter, hformatter, -⟩ := Option.map_eq_some_iff.mp h
    exact ⟨.formatter, formatter, rfl,
      fun other => by simp [Config.take, Config.say, hformatter]⟩
  next => cases h

/-- What a table says of a setting is what the fields with its key say. -/
theorem foldlM_take_filter (h : fields.foldlM Config.take c = some written)
    (hstart : d.contents k = c.contents k) :
    ∃ own, (fields.filter (·.1 = k.key)).foldlM Config.take d = some own ∧
      own.contents k = written.contents k := by
  induction fields generalizing c d with
  | nil =>
      obtain rfl : c = written := Option.some.inj h
      exact ⟨d, rfl, hstart⟩
  | cons field fields ih =>
      rw [List.foldlM_cons] at h
      obtain ⟨next, htake, hrest⟩ := Option.bind_eq_some_iff.mp h
      obtain ⟨other, said, hkey, hsay⟩ := exists_say_of_take htake
      obtain rfl : c.say other said = next := Option.some.inj ((hsay c).symm.trans htake)
      by_cases hk : field.1 = k.key
      · obtain rfl : other = k := Setting.key_injective (hkey.symm.trans hk)
        rw [List.filter_cons_of_pos (by simpa using hk), List.foldlM_cons, hsay d]
        exact ih hrest (by rw [Config.contents_say, Config.contents_say])
      · rw [List.filter_cons_of_neg (by simpa using hk)]
        have hne : k ≠ other := fun heq => hk (heq ▸ hkey)
        exact ih hrest (by rw [Config.contents_say_of_ne hne, hstart])

/-- Tables with the same fields for a setting say the same of it. -/
theorem contents_eq_of_filter {fields' : List (String × Toml.Value)} {written' : Config}
    (h : fields.foldlM Config.take {} = some written)
    (h' : fields'.foldlM Config.take {} = some written')
    (hsame : fields'.filter (·.1 = k.key) = fields.filter (·.1 = k.key)) :
    written'.contents k = written.contents k := by
  obtain ⟨own, hown, hcontents⟩ := foldlM_take_filter (k := k) h rfl
  obtain ⟨own', hown', hcontents'⟩ := foldlM_take_filter (k := k) h' rfl
  rw [hsame, hown] at hown'
  obtain rfl := Option.some.inj hown'
  exact hcontents'.symm.trans hcontents

end Keys

end Settings

/-! ## Configuration files -/

open Settings

namespace Run

/-- The directory that paths in the configuration of a run are read from. -/
def configBase (cwd : String) (a : Arguments) : String :=
  (parent? (configPath cwd a)).getD cwd

/-- The root table of the configuration that a run goes by. It has no fields where no configuration
is named and none is there. -/
inductive ConfigTable (files : Store) (cwd : String) (a : Arguments) :
    List (String × Toml.Value) → Prop
  | absent (unnamed : a.config = none) (missing : files.pathExists (configPath cwd a) = false) :
      ConfigTable files cwd a []
  | file (text : String) (fields : List (String × Toml.Value))
      (there : files.readText (configPath cwd a) = .ok text)
      (table : Toml.read? text = some fields) : ConfigTable files cwd a fields

section Loading

variable {files : Store} {cwd : String} {a : Arguments} {config : Config}
  {fields fields' : List (String × Toml.Value)}

theorem isAbsolute_configBase (hcwd : isAbsolute cwd = true) (a : Arguments) :
    isAbsolute (configBase cwd a) = true := by
  unfold configBase
  cases hparent : parent? (configPath cwd a) with
  | none => exact hcwd
  | some base => exact isAbsolute_parent? (isAbsolute_join hcwd _) hparent

theorem ConfigTable.unique (h : ConfigTable files cwd a fields)
    (h' : ConfigTable files cwd a fields') : fields' = fields := by
  cases h with
  | absent _ hmissing =>
      cases h' with
      | absent => rfl
      | file text _ hthere _ =>
          rw [Store.pathExists_of_readText hthere] at hmissing
          cases hmissing
  | file text _ hthere htable =>
      cases h' with
      | absent _ hmissing =>
          rw [Store.pathExists_of_readText hthere] at hmissing
          cases hmissing
      | file text' _ hthere' htable' =>
          obtain rfl := Except.ok.inj (hthere.symm.trans hthere')
          exact Option.some.inj (htable'.symm.trans htable)

theorem configTable_of_loadFrom
    (h : Config.loadFrom files cwd (configPath cwd a) = .ok config) :
    ∃ fields written, ConfigTable files cwd a fields ∧
      fields.foldlM Config.take {} = some written ∧
      config = written.relativeTo (configBase cwd a) := by
  unfold Config.loadFrom at h
  split at h
  next => cases h
  next text hthere =>
    split at h
    next => cases h
    next written hwritten =>
      obtain ⟨fields, htable, htake⟩ := Option.bind_eq_some_iff.mp hwritten
      exact ⟨fields, written, .file text fields hthere htable, htake, (Except.ok.inj h).symm⟩

/-- A configuration that is loaded comes from the fields of its table, with its paths read from the
directory of the file. -/
theorem configTable_of_load (h : Config.load files a.config cwd = .ok config) :
    ∃ fields written, ConfigTable files cwd a fields ∧
      fields.foldlM Config.take {} = some written ∧
      config = written.relativeTo (configBase cwd a) := by
  have hpath : configPath cwd a = join cwd (a.config.getD configName) := rfl
  unfold Config.load at h
  cases hconfig : a.config with
  | some path =>
      rw [hconfig] at h hpath
      exact configTable_of_loadFrom (hpath ▸ h)
  | none =>
      rw [hconfig] at h hpath
      dsimp only [Option.getD_none] at h hpath
      rw [← hpath] at h
      split at h
      next => exact configTable_of_loadFrom h
      next hmissing =>
        exact ⟨[], {}, .absent hconfig (by simpa using hmissing), rfl, (Except.ok.inj h).symm⟩

end Loading

end Run

/-- How the value of a setting comes about in a run with a configuration: `fields` is the table of
the file, `written` what they say, and `config` the same with its paths read from the directory of
the file. -/
structure SettingSources (cwd : String) (a : Arguments) (config written : Config)
    (fields : List (String × Toml.Value)) (k : Setting) : Prop where
  /-- Where a flag is given, no configuration makes a difference. -/
  given : a.Gives k → ∀ other : Config,
    (Settings.resolve other a cwd).value k = (Settings.resolve config a cwd).value k
  /-- Where none is given, the flag that tells what is written does so without a configuration. -/
  told : ¬ a.Gives k → ∀ flag, FlagFor written (Run.configBase cwd a) k flag →
    ∃ b, a.give flag = .ok b ∧ b.hasConflict = false ∧
      (Settings.resolve {} b cwd).value k = (Settings.resolve config a cwd).value k
  /-- Where nothing is written either, the built-in value counts. -/
  builtIn : ¬ a.Gives k → written.Silent k →
    (Settings.resolve config a cwd).value k = (Settings.builtIn cwd).value k
  /-- Nothing but a command whose words cannot be told apart is out of the reach of flags. -/
  covered : written.Silent k ∨ (∃ flag, FlagFor written (Run.configBase cwd a) k flag) ∨
    k = .formatter ∧ ∃ words, written.formatter.command = some words ∧
      ¬ ∀ word ∈ words, Text.IsWord word.toList
  /-- Other flags and other keys make no difference. -/
  alone : ∀ (files : Store) (b : Arguments) (other : Config) (others : List (String × Toml.Value)),
    b.config = a.config → b.flags k = a.flags k →
    Config.load files b.config cwd = .ok other → Run.ConfigTable files cwd b others →
    others.filter (·.1 = k.key) = fields.filter (·.1 = k.key) →
    (Settings.resolve other b cwd).value k = (Settings.resolve config a cwd).value k

/-- A configuration in a directory of its own. -/
def storeWithConfig (text : String) : Store :=
  ⟨[(["work"], .directory), (["work", "conf"], .directory),
    (["work", "conf", "types.toml"], .file text.toUTF8)]⟩

def nestedConfig : String := "input = \"objects.json\"\n[formatter]\nenabled = false\n"

def nestedArguments : Arguments where
  config := some "conf/types.toml"
  output := some "types.ts"

end Typings

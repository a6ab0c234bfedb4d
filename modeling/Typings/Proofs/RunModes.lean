import Typings.Proofs.OutputCheck

/-! # Modes of runs

A run writes the generated text, prints it or checks the output against it. The three modes agree
on the text, and after a run that has written it, a check passes and another run changes nothing, as
long as the output is not among the files that the run reads.
-/

namespace Typings

open Files Files.Store Settings

namespace Run

variable {before after : Store} {cwd path text : String} {a : Arguments} {s : Settings}
  {location : Location} {content : ByteArray}

/-- The path at which a run looks for its configuration. -/
def configPath (cwd : String) (a : Arguments) : String := join cwd (a.config.getD configName)

/-- The output is none of the files that a run reads, and there is no directory at the path of its
configuration. -/
structure OutputApart (after : Store) (cwd : String) (a : Arguments) (s : Settings) : Prop where
  input : after.locate s.output ≠ after.locate s.input
  config : after.locate s.output ≠ after.locate (configPath cwd a)
  lookup : after.isDirectory (configPath cwd a) = false

theorem configName_isEntryName : IsEntryName configName := by
  constructor <;> decide

/-! ## What a run reads is kept -/

theorem loadFrom_congr (h : after.readText path = before.readText path) :
    Config.loadFrom after cwd path = Config.loadFrom before cwd path := by
  unfold Config.loadFrom
  rw [h]

theorem exists_text_of_loadFrom {config : Config} (h : Config.loadFrom before cwd path = .ok config) :
    ∃ text, before.readText path = .ok text := by
  unfold Config.loadFrom at h
  split at h
  · cases h
  next text htext => exact ⟨text, htext⟩

theorem loadFrom_kept (hput : PutAt before after location content)
    (hapart : after.locate path ≠ .ok location) {config : Config}
    (h : Config.loadFrom before cwd path = .ok config) :
    Config.loadFrom after cwd path = .ok config := by
  obtain ⟨text, htext⟩ := exists_text_of_loadFrom h
  rw [← h]
  exact loadFrom_congr ((hput.readText hapart htext).trans htext.symm)

section Kept

variable (hput : PutAt before after location content) (hcwd : before.isDirectory cwd = true)
  (hapart : after.locate (configPath cwd a) ≠ .ok location)
  (hlookup : after.isDirectory (configPath cwd a) = false)

include hput hcwd hapart hlookup

theorem load_kept {config : Config} (h : Config.load before a.config cwd = .ok config) :
    Config.load after a.config cwd = .ok config := by
  unfold configPath at hapart hlookup
  cases hconfig : a.config with
  | some path =>
      rw [hconfig] at h hapart
      exact loadFrom_kept hput hapart h
  | none =>
      rw [hconfig] at h hapart hlookup
      unfold Config.load at h ⊢
      dsimp only at h ⊢
      split at h
      next =>
        have hloaded := loadFrom_kept hput hapart h
        obtain ⟨text, htext⟩ := exists_text_of_loadFrom hloaded
        have hexists : after.pathExists (join cwd configName) = true := pathExists_of_readText htext
        rw [if_pos hexists]
        exact hloaded
      next hnothing =>
        -- The working directory is there already, so what was made has not moved the path.
        obtain ⟨base, hbase, hdirectory⟩ := isDirectory_iff.mp hcwd
        have hplace := hput.keepsDirectories.locate_join configName_isEntryName hbase hdirectory
        have hstill := hput.not_pathExists hplace hapart hlookup (by simpa using hnothing)
        rw [hstill]
        exact h

theorem settings_kept (h : settings before cwd a = .ok s) : settings after cwd a = .ok s := by
  obtain ⟨config, hload, h⟩ := bind_eq_ok.mp h
  have hkept := load_kept hput hcwd hapart hlookup (mapError_eq_ok.mp hload)
  exact bind_eq_ok.mpr ⟨config, mapError_eq_ok.mpr hkept, h⟩

end Kept

theorem declarations_kept {tools : Toolbox} (hput : PutAt before after location content)
    (hapart : after.locate s.input ≠ .ok location)
    (h : declarations tools before s = .ok text) : declarations tools after s = .ok text := by
  obtain ⟨documentation, hread, h⟩ := bind_eq_ok.mp h
  have hkept := hput.readText hapart (mapError_eq_ok.mp hread)
  exact bind_eq_ok.mpr ⟨documentation, mapError_eq_ok.mpr hkept, h⟩

/-- Another run with the same arguments reads the same. -/
theorem OutputApart.kept {tools : Toolbox} (hapart : OutputApart after cwd a s)
    (hput : PutAt before after location content) (hlocate : after.locate s.output = .ok location)
    (hcwd : before.isDirectory cwd = true) (hsettings : settings before cwd a = .ok s)
    (htext : declarations tools before s = .ok text) :
    settings after cwd a = .ok s ∧ declarations tools after s = .ok text := by
  have hinput := hapart.input
  have hconfig := hapart.config
  rw [hlocate] at hinput hconfig
  exact ⟨settings_kept hput hcwd hconfig.symm hapart.lookup hsettings,
    declarations_kept hput hinput.symm htext⟩

/-- The output stays apart when the file there is replaced. -/
theorem OutputApart.of_put (hapart : OutputApart before cwd a s)
    (hlocate : before.locate s.output = .ok location)
    (hfile : before.get? location = some (.file content)) (other : ByteArray) :
    OutputApart (before.put location (.file other)) cwd a s := by
  have hback := put_keepsDirectories hfile other
  have hstill : (before.put location (.file other)).locate s.output = .ok location :=
    (put_putAt (by simp [hfile]) other).keepsDirectories.locate hlocate
  have hinput := hapart.input
  have hconfig := hapart.config
  rw [hlocate] at hinput hconfig
  constructor
  · rw [hstill]
    exact fun heq => hinput (hback.locate heq.symm).symm
  · rw [hstill]
    exact fun heq => hconfig (hback.locate heq.symm).symm
  · have hlookup := hapart.lookup
    rw [← Bool.not_eq_true] at hlookup ⊢
    exact fun hdirectory => hlookup (hback.isDirectory hdirectory)

/-! ## Checks of a file that is there -/

theorem holds_of_putAt (hput : PutAt before after location text.toUTF8)
    (hlocate : after.locate path = .ok location) : Holds after path text :=
  ⟨location, hlocate, by simp only [content?, hput.there]⟩

theorem check_current (h : Holds after path text) :
    check after path text = { printed := "Up to date " ++ path ++ "\n", files := after } := by
  have hcurrent : currentText after path = .ok text := currentText_eq_ok_iff.mpr (Or.inl h)
  simp [check, hcurrent]

theorem check_stale {other : String} (h : Holds after path other) (hne : other ≠ text) :
    (check after path text).result = .error (.outOfDate path) := by
  have hcurrent : currentText after path = .ok other := currentText_eq_ok_iff.mpr (Or.inl h)
  simp [check, hcurrent, hne]

/-- Writing the same text again succeeds and leaves everything as it is. -/
theorem Writable.written_again {made : Store} (h : Writable before path location made)
    (text : String) :
    let after := (written path text location made).files
    (writeOutput after path text).result = .ok () ∧
      ∀ other, (writeOutput after path text).files.get? other = after.get? other := by
  intro after
  have hput : PutAt made after location text.toUTF8 := put_putAt h.free _
  rw [h.writeOutput_again hput.keepsDirectories hput.there text]
  refine ⟨rfl, fun other => ?_⟩
  rw [written, get?_put (ne_root (s := made) h.free)]
  split
  next heq => rw [heq, hput.there]
  next => rfl

end Run

/-! ## Runs one after the other -/

/-- The command line with one more switch asks for the same, with the switch turned on. -/
theorem read_withOption {k : Switch} {name : String} {arguments : List String} {a : Arguments}
    (hlong : LongSwitch k name) (hread : Arguments.read arguments = .ok a) (hoff : a.has k = false)
    (hfree : (a.switchOn k).hasConflict = false) :
    Arguments.read (withOption (longOption name) arguments) = .ok (a.switchOn k) :=
  (readOuter_heeds hlong hread).2 hoff hfree

section Modes

variable {tools : Toolbox} {files : Store} {cwd text : String} {arguments : List String}
  {a : Arguments} {s : Settings} (hread : Arguments.read arguments = .ok a)
  (hcheck : a.check = false) (hstdout : a.stdout = false)
  (hsettings : Run.settings files cwd a = .ok s)
  (htext : Run.declarations tools files s = .ok text)

include hread hcheck hstdout hsettings htext

theorem run_withStdout :
    run tools files cwd (withOption "--stdout" arguments) =
      { code := 0, output := text, errors := "", files } := by
  have hfree : (a.switchOn .stdout).hasConflict = false := by
    have hnone := readOuter_conflictFree hread
    simpa [Arguments.hasConflict, Arguments.switchOn, hcheck] using hnone
  have hswitched : Arguments.read (withOption "--stdout" arguments) = .ok (a.switchOn .stdout) :=
    read_withOption stdout_longSwitch hread hstdout hfree
  have hsame : Run.settings files cwd (a.switchOn .stdout) = .ok s := hsettings
  rw [run_of_read hswitched, Run.complete_of_text hsame htext]
  rfl

theorem run_withCheck :
    run tools files cwd (withOption "--check" arguments) =
      (Run.check files s.output text).transcript := by
  have hfree : (a.switchOn .check).hasConflict = false := by
    have hnone := readOuter_conflictFree hread
    simpa [Arguments.hasConflict, Arguments.switchOn, hstdout] using hnone
  have hswitched : Arguments.read (withOption "--check" arguments) = .ok (a.switchOn .check) :=
    read_withOption check_longSwitch hread hcheck hfree
  have hsame : Run.settings files cwd (a.switchOn .check) = .ok s := hsettings
  have hoff : (a.switchOn .check).stdout = false := hstdout
  rw [run_of_read hswitched, Run.complete_of_text hsame htext, hoff]
  rfl

theorem run_plain :
    run tools files cwd arguments = (Run.writeOutput files s.output text).transcript := by
  rw [run_of_read hread, Run.complete_of_text hsettings htext, hcheck, hstdout]
  rfl

/-- A check fails once the output has been edited. -/
theorem run_withCheck_edited {location : Location} {old : ByteArray} {other : String}
    (hcwd : files.isDirectory cwd = true) (hapart : Run.OutputApart files cwd a s)
    (hlocate : files.locate s.output = .ok location)
    (hfile : files.get? location = some (.file old)) (hother : other ≠ text) :
    let edited := files.put location (.file other.toUTF8)
    (run tools edited cwd (withOption "--check" arguments)).code = 1 ∧
      (run tools edited cwd (withOption "--check" arguments)).files = edited := by
  intro edited
  have hedit : PutAt files edited location other.toUTF8 :=
    put_putAt (ne_of_eq_of_ne hfile (by simp)) _
  have hlocate' := hedit.keepsDirectories.locate hlocate
  obtain ⟨hsettings', htext'⟩ :=
    (hapart.of_put hlocate hfile _).kept hedit hlocate' hcwd hsettings htext
  have hstale := Run.check_stale (Run.holds_of_putAt hedit hlocate') hother
  rw [run_withCheck hread hcheck hstdout hsettings' htext']
  refine ⟨?_, Run.check_files _ _ _⟩
  rw [Completed.transcript, hstale]
  rfl

end Modes

/-- The modes of a run agree. A plain run that succeeds leaves a text in its output, and the same run
with `--stdout` prints this text. If the output is none of the files that are read and no directory
was made at the path of the configuration, then from there on a check passes without a difference,
another plain run leaves everything as it is, and a check of any other text in the output fails;
no check changes anything. -/
theorem modes_agree (tools : Toolbox) (files : Store) (cwd : String) (arguments : List String)
    {a : Arguments} (hread : Arguments.read arguments = .ok a) (hcheck : "--check" ∉ arguments)
    (hstdout : "--stdout" ∉ arguments) (hcode : (run tools files cwd arguments).code = 0) :
    let after := (run tools files cwd arguments).files
    ∃ s text, Run.settings files cwd a = .ok s ∧ Run.Holds after s.output text ∧
      run tools files cwd (withOption "--stdout" arguments) =
        { code := 0, output := text, errors := "", files } ∧
      (files.isDirectory cwd = true → Run.OutputApart after cwd a s →
        run tools after cwd (withOption "--check" arguments) =
          { code := 0, output := "Up to date " ++ s.output ++ "\n", errors := "",
            files := after } ∧
        (run tools after cwd arguments).code = 0 ∧
        (∀ location, (run tools after cwd arguments).files.get? location = after.get? location) ∧
        ∀ other ≠ text, ∃ edited, after.write s.output other.toUTF8 = .ok edited ∧
          (run tools edited cwd (withOption "--check" arguments)).code = 1 ∧
          (run tools edited cwd (withOption "--check" arguments)).files = edited) := by
  obtain ⟨s, text, location, made, hsettings, htext, hrun, hable⟩ :=
    run_written hread hcheck hstdout hcode
  have hcheckOff : a.check = false := (read_check hread).trans (decide_eq_false hcheck)
  have hstdoutOff : a.stdout = false := (read_stdout hread).trans (decide_eq_false hstdout)
  have hput := hable.putAt text
  have hlocate := hable.locate text
  have hafter : (run tools files cwd arguments).files =
      (Run.written s.output text location made).files := congrArg Transcript.files hrun
  rw [hafter]
  refine ⟨s, text, hsettings, Run.holds_of_putAt hput hlocate,
    run_withStdout hread hcheckOff hstdoutOff hsettings htext, ?_⟩
  intro hcwd hapart
  obtain ⟨hsettings', htext'⟩ := hapart.kept hput hlocate hcwd hsettings htext
  have hthere := hput.there
  have hchecked := run_withCheck hread hcheckOff hstdoutOff hsettings' htext'
  rw [Run.check_current (Run.holds_of_putAt hput hlocate)] at hchecked
  have hagain := run_plain hread hcheckOff hstdoutOff hsettings' htext'
  obtain ⟨hsucceeds, hsame⟩ := hable.written_again text
  refine ⟨hchecked, ?_, ?_, ?_⟩
  · rw [hagain, Completed.transcript, hsucceeds]
    rfl
  · rw [hagain]
    exact hsame
  · intro other hother
    refine ⟨_, write_file hable.slashless hlocate hthere, ?_⟩
    exact run_withCheck_edited hread hcheckOff hstdoutOff hsettings' htext'
      (hput.keepsDirectories.isDirectory hcwd) hapart hlocate hthere hother

/-- The settings of a plain run that does not format. -/
def unformattedSettings : Settings where
  input := "/work/docs/objects.json"
  output := "/work/dist/shopify-liquid-types.ts"
  templateContexts := false
  formatter := none

theorem modes_agree_documented :
    let after := (run noTools documentedFiles "/work" ["generate", "--no-format"]).files
    (run noTools after "/work" (withOption "--check" ["generate", "--no-format"])).code = 0 ∧
    (run noTools after "/work" ["generate", "--no-format"]).code = 0 ∧
    ∃ edited, after.write unformattedSettings.output "edited".toUTF8 = .ok edited ∧
      (run noTools edited "/work" (withOption "--check" ["generate", "--no-format"])).code = 1 := by
  intro after
  have hread : Arguments.read ["generate", "--no-format"] = .ok { noFormat := true } := rfl
  obtain ⟨s, text, hsettings, _, hprinted, hagree⟩ :=
    modes_agree noTools documentedFiles "/work" ["generate", "--no-format"] hread (by decide)
      (by decide) (by decide +kernel)
  have hresolved : Run.settings documentedFiles "/work" { noFormat := true } =
      .ok unformattedSettings := by decide +kernel
  obtain rfl : s = unformattedSettings := Except.ok.inj (hsettings.symm.trans hresolved)
  have hapart : Run.OutputApart after "/work" { noFormat := true } unformattedSettings := by
    constructor <;> decide +kernel
  have hother : "edited" ≠ text := by
    have htext : (run noTools documentedFiles "/work"
        (withOption "--stdout" ["generate", "--no-format"])).output = text :=
      congrArg Transcript.output hprinted
    rw [← htext]
    decide +kernel
  obtain ⟨hchecked, hagain, _, hedited⟩ := hagree (by decide +kernel) hapart
  obtain ⟨edited, hwrite, hstale, _⟩ := hedited "edited" hother
  exact ⟨by rw [hchecked], hagain, edited, hwrite, hstale⟩

/-- The settings of a run whose output is below the place where the configuration is looked up. -/
def misplacedSettings : Settings where
  input := "/work/docs/objects.json"
  output := "/work/liquid-types.toml/types.ts"
  templateContexts := false
  formatter := none

/-- An output below the place where the configuration is looked up is none of the files that are
read, but the directory that is made for it at this place is then taken for the configuration. -/
theorem lookup_place_taken :
    let arguments := ["generate", "--no-format", "-o", "liquid-types.toml/types.ts"]
    let after := (run noTools documentedFiles "/work" arguments).files
    ∃ a, Arguments.read arguments = .ok a ∧
      Run.settings documentedFiles "/work" a = .ok misplacedSettings ∧
      (run noTools documentedFiles "/work" arguments).code = 0 ∧
      after.locate misplacedSettings.output ≠ after.locate misplacedSettings.input ∧
      after.locate misplacedSettings.output ≠ after.locate (Run.configPath "/work" a) ∧
      (run noTools after "/work" (withOption "--check" arguments)).code = 1 ∧
      (run noTools after "/work" arguments).code = 1 := by
  refine ⟨{ noFormat := true, output := some "liquid-types.toml/types.ts" }, rfl, ?_, ?_, ?_, ?_,
    ?_, ?_⟩ <;> decide +kernel

end Typings

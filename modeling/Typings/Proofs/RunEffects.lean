import Typings.Proofs.ArgumentSwitches
import Typings.Proofs.Files.Changes
import Typings.Run

/-! # Effects of runs

What a run does to files. It writes at most one file, the output, after everything that can fail has
succeeded; a run that fails can have made directories for it and has changed nothing else.
-/

namespace Typings

open Files Files.Store Settings

namespace Run

variable {files made later : Store} {path text : String} {location : Location}

/-! ## Writing the output -/

/-- Directories are made for the output once. Where they are kept, they need not be made again. -/
theorem prepareDirectory_spec {result : Except RunError Unit}
    (h : prepareDirectory files path = (made, result)) :
    Grown files made ∧ (result = .ok () → ∀ later, KeepsDirectories made later →
      prepareDirectory later path = (later, .ok ())) := by
  unfold prepareDirectory at *
  cases hparent : (parent? path).filter (!·.isEmpty) with
  | none =>
      rw [hparent] at h
      cases h
      exact ⟨Grown.refl _, fun _ _ _ => rfl⟩
  | some parent =>
      rw [hparent] at h
      obtain ⟨_, hnonempty⟩ := Option.filter_eq_some_iff.mp hparent
      obtain ⟨⟨grown, outcome⟩, hmade⟩ : ∃ made, files.makeDirectories parent = made := ⟨_, rfl⟩
      simp only [hmade] at h
      cases h
      obtain ⟨hgrown, hdirectory⟩ := makeDirectoriesWithin_spec hmade
      refine ⟨hgrown, fun hok later hkeeps => ?_⟩
      have hthere := hdirectory (mapError_eq_ok.mp hok) (by simpa using hnonempty)
      simp only [makeDirectories_of_isDirectory (hkeeps.isDirectory hthere)]
      rfl

/-- What is left when a text has been written to the output. -/
def written (path text : String) (location : Location) (made : Store) : Completed where
  printed := "Wrote " ++ path ++ "\n"
  files := made.put location (.file text.toUTF8)

/-- The output can be written to a location once the directories on its way have been made. -/
structure Writable (files : Store) (path : String) (location : Location) (made : Store) : Prop where
  grown : Grown files made
  located : made.locate path = .ok location
  free : made.get? location ≠ some .directory
  slashless : endsWithSlash path = false
  prepared : ∀ later, KeepsDirectories made later →
    prepareDirectory later path = (later, .ok ())

namespace Writable

theorem putAt (h : Writable files path location made) (text : String) :
    PutAt files (written path text location made).files location text.toUTF8 :=
  (put_putAt h.free _).of_grown h.grown

theorem locate (h : Writable files path location made) (text : String) :
    (written path text location made).files.locate path = .ok location :=
  (put_putAt h.free _).keepsDirectories.locate h.located

/-- The output can be written again wherever the directories are kept and a file is at its place. -/
theorem writeOutput_again (h : Writable files path location made)
    (hkeeps : KeepsDirectories made later) {old : ByteArray}
    (hfile : later.get? location = some (.file old)) (text : String) :
    writeOutput later path text = written path text location later := by
  unfold writeOutput
  rw [h.prepared later hkeeps]
  simp only [write_file h.slashless (hkeeps.locate h.located) hfile]
  rfl

end Writable

/-- The attempt to write the output fails, with new directories at most, or it succeeds. -/
theorem writeOutput_cases (files : Store) (path text : String) :
    (∃ error made, writeOutput files path text = { result := .error error, files := made } ∧
      Grown files made) ∨
    ∃ location made, writeOutput files path text = written path text location made ∧
      Writable files path location made := by
  unfold writeOutput
  obtain ⟨⟨made, outcome⟩, hmade⟩ : ∃ made, prepareDirectory files path = made := ⟨_, rfl⟩
  obtain ⟨hgrown, hprepared⟩ := prepareDirectory_spec hmade
  rw [hmade]
  cases outcome with
  | error error => exact Or.inl ⟨error, made, rfl, hgrown⟩
  | ok =>
      dsimp only
      cases hwrite : made.write path text.toUTF8 with
      | error error => exact Or.inl ⟨_, made, rfl, hgrown⟩
      | ok written =>
          obtain ⟨hslash, location, hlocate, hfree, rfl⟩ := write_eq_ok hwrite
          exact Or.inr ⟨location, made, rfl, hgrown, hlocate, hfree, hslash, hprepared rfl⟩

theorem check_files (files : Store) (path text : String) : (check files path text).files = files := by
  unfold check
  split
  · rfl
  split
  · rfl
  · rfl

/-! ## Runs with arguments that were understood -/

section Complete

variable {tools : Toolbox} {cwd : String} {a : Arguments} {s : Settings}

theorem complete_of_settings_error {error : RunError} (h : settings files cwd a = .error error) :
    complete tools files cwd a = { result := .error error, files } := by
  simp [complete, h]

theorem complete_of_declarations_error {error : RunError} (hsettings : settings files cwd a = .ok s)
    (h : declarations tools files s = .error error) :
    complete tools files cwd a = { result := .error error, files } := by
  simp [complete, hsettings, h]

theorem complete_of_text (hsettings : settings files cwd a = .ok s)
    (htext : declarations tools files s = .ok text) :
    complete tools files cwd a =
      if a.stdout then { printed := text, files }
      else if a.check then check files s.output text
      else writeOutput files s.output text := by
  simp [complete, hsettings, htext]

/-- A run gives up before there is a text, or has one and does with it what it is asked to. -/
theorem complete_cases (tools : Toolbox) (files : Store) (cwd : String) (a : Arguments) :
    (∃ error, complete tools files cwd a = { result := .error error, files }) ∨
      ∃ s text, settings files cwd a = .ok s ∧ declarations tools files s = .ok text := by
  cases hsettings : settings files cwd a with
  | error error => exact Or.inl ⟨error, complete_of_settings_error hsettings⟩
  | ok s =>
      cases htext : declarations tools files s with
      | error error => exact Or.inl ⟨error, complete_of_declarations_error hsettings htext⟩
      | ok text => exact Or.inr ⟨s, text, rfl, htext⟩

/-- The switch for more log lines makes no difference beside them. -/
theorem complete_verbose (tools : Toolbox) (files : Store) (cwd : String) (a : Arguments)
    (verbose : Bool) :
    complete tools files cwd { a with verbose } = complete tools files cwd a :=
  rfl

/-- A run that only looks changes nothing. -/
theorem complete_looking (h : a.check = true ∨ a.stdout = true) :
    (complete tools files cwd a).files = files := by
  rcases complete_cases tools files cwd a with ⟨error, hcomplete⟩ | ⟨s, text, hsettings, htext⟩
  · rw [hcomplete]
  · rw [complete_of_text hsettings htext]
    split
    · rfl
    next hstdout =>
      rw [if_pos (h.resolve_right hstdout)]
      exact check_files files s.output text

/-- A plain run fails, with new directories at most, or it writes its output. -/
theorem complete_plain (tools : Toolbox) (files : Store) (cwd : String)
    (hcheck : a.check = false) (hstdout : a.stdout = false) :
    (∃ error made, complete tools files cwd a = { result := .error error, files := made } ∧
      Grown files made) ∨
    ∃ s text location made, settings files cwd a = .ok s ∧ declarations tools files s = .ok text ∧
      complete tools files cwd a = written s.output text location made ∧
      Writable files s.output location made := by
  rcases complete_cases tools files cwd a with ⟨error, hcomplete⟩ | ⟨s, text, hsettings, htext⟩
  · exact Or.inl ⟨error, files, hcomplete, Grown.refl files⟩
  · have hcomplete := complete_of_text hsettings htext
    rw [hstdout, hcheck] at hcomplete
    simp only [Bool.false_eq_true, if_false] at hcomplete
    rw [hcomplete]
    rcases writeOutput_cases files s.output text with hfailed | ⟨location, made, hwritten, hable⟩
    · exact Or.inl hfailed
    · exact Or.inr ⟨s, text, location, made, hsettings, htext, hwritten, hable⟩

end Complete

end Run

/-! ## Runs -/

section Runs

variable {tools : Toolbox} {files : Store} {cwd : String} {arguments : List String} {a : Arguments}

theorem run_of_read (h : Arguments.read arguments = .ok a) :
    run tools files cwd arguments = (Run.complete tools files cwd a).transcript := by
  simp [run, h]

theorem run_of_usageError {error : UsageError} (h : Arguments.read arguments = .error error) :
    (run tools files cwd arguments).files = files := by
  unfold run usageTranscript
  rw [h]
  dsimp only
  split <;> rfl

theorem read_check (h : Arguments.read arguments = .ok a) :
    a.check = decide ("--check" ∈ arguments) :=
  (readOuter_heeds check_longSwitch h).1

theorem read_stdout (h : Arguments.read arguments = .ok a) :
    a.stdout = decide ("--stdout" ∈ arguments) :=
  (readOuter_heeds stdout_longSwitch h).1

theorem run_looking (h : "--check" ∈ arguments ∨ "--stdout" ∈ arguments) :
    (run tools files cwd arguments).files = files := by
  cases hread : Arguments.read arguments with
  | error error => exact run_of_usageError hread
  | ok a =>
      rw [run_of_read hread]
      refine Run.complete_looking ?_
      rwa [read_check hread, read_stdout hread, decide_eq_true_iff, decide_eq_true_iff]

theorem run_failed (h : (run tools files cwd arguments).code ≠ 0) :
    SameContents files (run tools files cwd arguments).files := by
  by_cases hlooking : "--check" ∈ arguments ∨ "--stdout" ∈ arguments
  · rw [run_looking hlooking]
    exact (Grown.refl files).sameContents
  obtain ⟨hcheck, hstdout⟩ := not_or.mp hlooking
  cases hread : Arguments.read arguments with
  | error error =>
      rw [run_of_usageError hread]
      exact (Grown.refl files).sameContents
  | ok a =>
      rw [run_of_read hread] at h ⊢
      have hcomplete := Run.complete_plain tools files cwd
        ((read_check hread).trans (decide_eq_false hcheck))
        ((read_stdout hread).trans (decide_eq_false hstdout))
      rcases hcomplete with ⟨_, made, hcomplete, hgrown⟩ | ⟨_, _, _, _, _, _, hcomplete, _⟩
      · rw [hcomplete]
        exact hgrown.sameContents
      · rw [hcomplete] at h
        exact absurd rfl h

/-- A plain run that succeeds has written its output. -/
theorem run_written (hread : Arguments.read arguments = .ok a) (hcheck : "--check" ∉ arguments)
    (hstdout : "--stdout" ∉ arguments) (hcode : (run tools files cwd arguments).code = 0) :
    ∃ s text location made, Run.settings files cwd a = .ok s ∧
      Run.declarations tools files s = .ok text ∧
      run tools files cwd arguments = (Run.written s.output text location made).transcript ∧
      Run.Writable files s.output location made := by
  rw [run_of_read hread] at hcode ⊢
  have hcomplete := Run.complete_plain tools files cwd
    ((read_check hread).trans (decide_eq_false hcheck))
    ((read_stdout hread).trans (decide_eq_false hstdout))
  rcases hcomplete with ⟨_, made, hcomplete, _⟩ |
    ⟨s, text, location, made, hsettings, htext, hcomplete, hable⟩
  · rw [hcomplete] at hcode
    cases hcode
  · rw [hcomplete]
    exact ⟨s, text, location, made, hsettings, htext, rfl, hable⟩

/-- A run that fails leaves the contents of all files as they are, and so does one that checks or
prints, which does not even make a directory. A plain run that succeeds changes the file at its
output path and no other, and this file then holds the whole text that was generated. -/
theorem run_effects (tools : Toolbox) (files : Store) (cwd : String) (arguments : List String) :
    let after := run tools files cwd arguments
    (after.code ≠ 0 → SameContents files after.files) ∧
    ("--check" ∈ arguments ∨ "--stdout" ∈ arguments → after.files = files) ∧
    ∀ a, Arguments.read arguments = .ok a → "--check" ∉ arguments → "--stdout" ∉ arguments →
      after.code = 0 →
      ∃ s text location, Run.settings files cwd a = .ok s ∧
        Run.declarations tools files s = .ok text ∧
        after.files.locate s.output = .ok location ∧
        after.files.content? location = some text.toUTF8 ∧
        ∀ other ≠ location, after.files.content? other = files.content? other := by
  refine ⟨run_failed, run_looking, ?_⟩
  intro a hread hcheck hstdout hcode
  obtain ⟨s, text, location, made, hsettings, htext, hrun, hable⟩ :=
    run_written hread hcheck hstdout hcode
  rw [hrun]
  have hput := hable.putAt text
  refine ⟨s, text, location, hsettings, htext, hable.locate text, ?_, ?_⟩
  · simp only [content?, Completed.transcript, hput.there]
  · intro other hother
    exact content?_grown (hput.elsewhere other hother)

/-- A working directory with the documentation of one object. -/
def documentedFiles : Store :=
  ⟨[(["work"], .directory), (["work", "docs"], .directory),
    (["work", "docs", "objects.json"], .file "[\x7b\"name\": \"cart\"\x7d]".toUTF8)]⟩

/-- There are no programs to format with. -/
def noTools : Toolbox := fun _ => none

theorem run_effects_documented :
    SameContents documentedFiles
      (run noTools documentedFiles "/work" ["generate", "-o", "new/types.ts"]).files ∧
    (run noTools documentedFiles "/work" ["generate", "--no-format", "--check"]).files =
      documentedFiles ∧
    ∃ s text location,
      Run.settings documentedFiles "/work" { noFormat := true } = .ok s ∧
      Run.declarations noTools documentedFiles s = .ok text ∧
      (run noTools documentedFiles "/work" ["generate", "--no-format"]).files.content? location =
        some text.toUTF8 := by
  obtain ⟨hfailed, _, _⟩ :=
    run_effects noTools documentedFiles "/work" ["generate", "-o", "new/types.ts"]
  obtain ⟨_, hlooking, _⟩ :=
    run_effects noTools documentedFiles "/work" ["generate", "--no-format", "--check"]
  obtain ⟨_, _, hwritten⟩ :=
    run_effects noTools documentedFiles "/work" ["generate", "--no-format"]
  obtain ⟨s, text, location, hsettings, htext, _, hcontent, _⟩ :=
    hwritten { noFormat := true } rfl (by decide) (by decide) (by decide +kernel)
  exact ⟨hfailed (by decide +kernel), hlooking (Or.inl (by decide)), s, text, location, hsettings,
    htext, hcontent⟩

end Runs

end Typings

import Typings.Proofs.RunEffects

/-! # Checks of the output

What a run with `--check` accepts. It takes a file that is not there for an empty one, so where the
generated text is empty, it accepts an output that was never written.
-/

namespace Typings

open Files Files.Store Settings

namespace Run

variable {files : Store} {path text : String}

/-- Nothing is at the path. -/
def Missing (files : Store) (path : String) : Prop := files.readBytes path = .error .notFound

/-- The path leads to a file that holds the text and nothing else. -/
def Holds (files : Store) (path text : String) : Prop :=
  ∃ location, files.locate path = .ok location ∧ files.content? location = some text.toUTF8

theorem holds_iff : Holds files path text ↔ files.readText path = .ok text := by
  rw [readText_eq_ok_iff, readBytes_eq_ok_iff]
  refine exists_congr fun location => and_congr_right fun _ => ?_
  unfold content?
  split <;> simp_all

theorem missing_iff : Missing files path ↔ files.readText path = .error .notFound := by
  unfold Missing readText
  cases files.readBytes path with
  | error error => simp [bind, Except.bind]
  | ok bytes =>
      simp only [bind, Except.bind]
      split <;> simp

/-- The output is compared as the text that it holds, or as no text where it is missing. -/
theorem currentText_eq_ok_iff {current : String} :
    currentText files path = .ok current ↔
      Holds files path current ∨ Missing files path ∧ current = "" := by
  rw [holds_iff, missing_iff]
  unfold currentText
  split
  next hmissing => simp [hmissing, eq_comm]
  next error hother herror => simp [herror, show error ≠ .notFound from hother]
  next htext => simp [htext]

theorem check_result_ok_iff :
    (check files path text).result = .ok () ↔ currentText files path = .ok text := by
  unfold check
  split
  next herror => simp [herror]
  next current hcurrent =>
    rw [hcurrent, Except.ok.injEq]
    split <;> simp_all

theorem check_missing (hmissing : Missing files path) (htext : text ≠ "") :
    (check files path text).result = .error (.outOfDate path) := by
  have hcurrent : currentText files path = .ok "" :=
    currentText_eq_ok_iff.mpr (Or.inr ⟨hmissing, rfl⟩)
  simp [check, hcurrent, htext.symm]

end Run

section Check

variable {tools : Toolbox} {files : Store} {cwd text : String} {arguments : List String}
  {a : Arguments} {s : Settings}

/-- A run that checks does nothing else with the generated text. -/
theorem run_check (hread : Arguments.read arguments = .ok a) (hcheck : "--check" ∈ arguments)
    (hsettings : Run.settings files cwd a = .ok s)
    (htext : Run.declarations tools files s = .ok text) :
    run tools files cwd arguments = (Run.check files s.output text).transcript := by
  have hon : a.check = true := (read_check hread).trans (decide_eq_true hcheck)
  have hoff : a.stdout = false := by
    have hfree := readOuter_conflictFree hread
    simp only [Arguments.hasConflict, hon, Bool.and_true, Bool.or_eq_false_iff] at hfree
    exact hfree.1.1
  rw [run_of_read hread, Run.complete_of_text hsettings htext, hon, hoff]
  rfl

theorem exitCode_eq_zero_iff {result : Except RunError Unit} :
    exitCode result = 0 ↔ result = .ok () := by
  cases result <;> simp [exitCode]

/-- A check of a generated text passes exactly if the output holds this text, or is missing and the
text is empty. A missing output is out of date as long as there is any text to put into it. -/
theorem check_accepts_iff (tools : Toolbox) (files : Store) (cwd : String)
    (arguments : List String) (hread : Arguments.read arguments = .ok a)
    (hcheck : "--check" ∈ arguments) (hsettings : Run.settings files cwd a = .ok s)
    (htext : Run.declarations tools files s = .ok text) :
    ((run tools files cwd arguments).code = 0 ↔
      Run.Holds files s.output text ∨ Run.Missing files s.output ∧ text = "") ∧
    (Run.Missing files s.output → text ≠ "" →
      (run tools files cwd arguments).code = 1 ∧
      (run tools files cwd arguments).errors =
        "error: " ++ (RunError.outOfDate s.output).message ++ "\n") := by
  rw [run_check hread hcheck hsettings htext]
  refine ⟨?_, fun hmissing hnonempty => ?_⟩
  · exact exitCode_eq_zero_iff.trans (Run.check_result_ok_iff.trans Run.currentText_eq_ok_iff)
  · have hresult := Run.check_missing hmissing hnonempty
    simp [Completed.transcript, hresult, exitCode]

end Check

/-- Every program is there and answers with the same text, whatever it is given. -/
def answering (text : String) : Toolbox :=
  fun _ => some fun _ _ => { status := .code 0, output := text.toUTF8 }

/-- The settings of a run that formats with a program of the toolbox. -/
def formattingSettings : Settings where
  input := "/work/docs/objects.json"
  output := "/work/dist/shopify-liquid-types.ts"
  templateContexts := false
  formatter := some ["format"]

theorem check_accepts_iff_unwritten :
    Run.Missing documentedFiles formattingSettings.output ∧
    (run (answering "type A = any;\n") documentedFiles "/work"
      ["generate", "--check", "--formatter", "format"]).code = 1 := by
  have hmissing : Run.Missing documentedFiles formattingSettings.output := by
    unfold Run.Missing
    decide +kernel
  have hread : Arguments.read ["generate", "--check", "--formatter", "format"] =
      .ok { check := true, formatter := some "format" } := by decide +kernel
  have hsettings : Run.settings documentedFiles "/work"
      { check := true, formatter := some "format" } = .ok formattingSettings := by decide +kernel
  have htext : Run.declarations (answering "type A = any;\n") documentedFiles formattingSettings =
      .ok "type A = any;\n" := by decide +kernel
  obtain ⟨_, hstale⟩ := check_accepts_iff _ documentedFiles "/work" _ hread (by decide) hsettings
    htext
  exact ⟨hmissing, (hstale hmissing (by decide)).1⟩

/-- Where the formatter answers with no text, the check of an output that was never written passes,
though a plain run would write it. -/
theorem unwritten_output_accepted :
    Run.settings documentedFiles "/work" { check := true, formatter := some "format" } =
      .ok formattingSettings ∧
    Run.declarations (answering "") documentedFiles formattingSettings = .ok "" ∧
    documentedFiles.pathExists formattingSettings.output = false ∧
    (run (answering "") documentedFiles "/work"
      ["generate", "--check", "--formatter", "format"]).code = 0 ∧
    (run (answering "") documentedFiles "/work"
      ["generate", "--formatter", "format"]).files.pathExists formattingSettings.output = true := by
  refine ⟨?_, ?_, ?_, ?_, ?_⟩ <;> decide +kernel

end Typings

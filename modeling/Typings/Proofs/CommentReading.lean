import Typings.Proofs.CommentLines

/-! # Comments read back

What documentation says is a list of lines: those of the summary and, behind an empty line, the tag
of a deprecation. Its comment shows exactly these lines. Taking the decoration off gives them back,
and no line ends the comment before its last two characters, whatever it contains.
-/

namespace Typings

open Text

/-! ## What documentation says -/

/-- The summary is there and not blank. -/
def hasSummary (summary : Option String) : Bool :=
  summary.any fun s => hasInk s.toList

def summaryLines (summary : Option String) : List (List Char) :=
  match summary with
  | none => []
  | some s => lines (trim s.toList)

/-- The tag, followed by the reason unless this is blank. -/
def tagText (reason : String) : String :=
  "@deprecated" ++ if hasInk reason.toList then " " ++ strip reason else ""

/-- The lines of documentation: the summary, and the tag behind an empty line unless nothing is in
front of it. -/
def documentedLines (summary deprecation : Option String) : List (List Char) :=
  match deprecation with
  | none => summaryLines summary
  | some reason =>
    summaryLines summary ++ (if hasSummary summary then [[]] else []) ++
      lines (tagText reason).toList

/-- A line as a comment shows it: without blanks at its end, and with every `*/` spelled `*\/`. -/
def shownLine (line : List Char) : List Char :=
  escapeCommentEnd (trimEnd line)

/-- The lines that the comment for a documentation shows. -/
def shownLines (summary deprecation : Option String) : List (List Char) :=
  (documentedLines summary deprecation).map shownLine

/-! ## Reading -/

/-- Takes the decoration off a line of a block. -/
def undecorate (line : List Char) : Option (List Char) :=
  if line = " *".toList then some [] else " * ".toList.isPrefixOf? line

/-- Takes the decoration off the lines of a block behind its first line. -/
def readBlock : List (List Char) → Option (List (List Char))
  | [] => none
  | [last] => if last = " */".toList then some [] else none
  | line :: rest => do return (← undecorate line) :: (← readBlock rest)

/-- Takes the decoration off the only line of a comment. -/
def readSingle (line : List Char) : Option (List Char) := do
  let behind ← "/** ".toList.isPrefixOf? line
  " */".toList.isSuffixOf? behind

/-- Takes the decoration off a comment. -/
def readComment (comment : List Char) : Option (List (List Char)) :=
  match lines comment with
  | [] => none
  | [line] => (readSingle line).map ([·])
  | first :: rest => if first = "/**".toList then readBlock rest else none

theorem readSingle_line (line : List Char) :
    readSingle ("/** ".toList ++ line ++ " */".toList) = some line := by
  have hfirst : "/** ".toList.isPrefixOf? ("/** ".toList ++ line ++ " */".toList) =
      some (line ++ " */".toList) := by
    rw [List.isPrefixOf?_eq_some_iff_append_eq, List.append_assoc]
  have hlast : " */".toList.isSuffixOf? (line ++ " */".toList) = some line :=
    List.isSuffixOf?_eq_some_iff_append_eq.mpr rfl
  rw [readSingle, hfirst]
  exact hlast

theorem undecorate_decorateLine (line : List Char) :
    undecorate (decorateLine line) = some line := by
  unfold decorateLine
  split
  next hempty =>
    rw [List.isEmpty_iff.mp hempty]
    rfl
  next hline =>
    have hne : " * ".toList ++ line ≠ " *".toList := by simp
    rw [undecorate, if_neg hne, List.isPrefixOf?_eq_some_iff_append_eq]

theorem readBlock_decorated (shown : List (List Char)) :
    readBlock (shown.map decorateLine ++ [" */".toList]) = some shown := by
  induction shown with
  | nil => rfl
  | cons line shown ih =>
      rw [List.map_cons, List.cons_append, readBlock]
      · rw [undecorate_decorateLine, ih]
        rfl
      · simp

/-! ## Lines of documentation -/

theorem commentLines_eq (text : String) :
    commentLines text = (lines (trim text.toList)).map shownLine := by
  rw [commentLines, lines_escapeCommentEnd, List.map_map]
  exact List.map_congr_left fun line _ => trimEnd_escapeCommentEnd line

theorem strip_toList (s : String) : (strip s).toList = trim s.toList :=
  String.toList_ofList

theorem strip_isEmpty (s : String) : (strip s).isEmpty = !hasInk s.toList := by
  rw [Bool.eq_iff_iff, String.isEmpty_iff, Bool.not_eq_true', ← trim_eq_nil_iff,
    ← String.toList_inj, strip_toList]
  rfl

/-- A blank summary has no lines and is left out. -/
theorem summary_blank {summary : Option String} (hblank : hasSummary summary = false) :
    summaryLines summary = [] ∧ (summary.map strip).filter (!·.isEmpty) = none := by
  cases summary with
  | none => exact ⟨rfl, rfl⟩
  | some s =>
      have hink : hasInk s.toList = false := hblank
      refine ⟨?_, ?_⟩
      · rw [summaryLines, trim_eq_nil_iff.mpr hink, lines]
      · rw [Option.map_some, Option.filter_some, strip_isEmpty, hink]
        rfl

theorem summary_inked {summary : Option String} (hinked : hasSummary summary = true) :
    ∃ s, s ≠ [] ∧ IsTrimmed s ∧ summaryLines summary = lines s ∧
      (summary.map strip).filter (!·.isEmpty) = some (String.ofList s) := by
  cases summary with
  | none => cases hinked
  | some s =>
      have hink : hasInk s.toList = true := hinked
      refine ⟨trim s.toList, trim_ne_nil hink, isTrimmed_trim _, rfl, ?_⟩
      rw [Option.map_some, Option.filter_some, strip_isEmpty, hink]
      rfl

theorem deprecationTag_eq (reason : String) : deprecationTag reason = tagText reason := by
  rw [deprecationTag, tagText, strip_isEmpty]
  cases hink : hasInk reason.toList with
  | true =>
      rw [if_neg (by decide), if_pos rfl, ← String.append_assoc]
      rfl
  | false => simp

theorem tagText_trimmed (reason : String) : IsTrimmed (tagText reason).toList := by
  have hword : IsTrimmed "@deprecated".toList := ⟨by simp [isBlank], by simp [isBlank]⟩
  rw [tagText, String.toList_append]
  split
  next hink =>
    have happend :=
      hword.append (isTrimmed_trim reason.toList) (by simp) (trim_ne_nil hink) " ".toList
    rwa [String.toList_append, strip_toList]
  next => simpa using hword

theorem tagText_ne_empty (reason : String) : tagText reason ≠ "" := by
  simp [tagText]

/-- The documentation that is put together has the lines of its parts. -/
theorem documentedLines_eq (summary deprecation : Option String) :
    documentedLines summary deprecation =
      match withDeprecation summary deprecation with
      | none => []
      | some text => lines (trim text.toList) := by
  unfold documentedLines withDeprecation
  cases hsummary : hasSummary summary with
  | false =>
      obtain ⟨hlines, hnone⟩ := summary_blank hsummary
      cases deprecation with
      | none => simp [hlines, hnone]
      | some reason => simp [hlines, hnone, deprecationTag_eq, (tagText_trimmed reason).trim_eq]
  | true =>
      obtain ⟨s, hne, htrimmed, hlines, hsome⟩ := summary_inked hsummary
      cases deprecation with
      | none => simp [hlines, hsome, htrimmed.trim_eq]
      | some reason =>
          -- the summary ends in ink, so its last line ends at the first of the two line feeds
          have hlast : isBlank (s.getLast hne) = false :=
            htrimmed.back _ (List.getLast?_eq_some_getLast hne)
          have hfeed : s.getLast hne ≠ '\n' := fun h => absurd hlast (by rw [h]; decide)
          have hreturn : s.getLast hne ≠ '\r' := fun h => absurd hlast (by rw [h]; decide)
          have htext : IsTrimmed (s ++ ('\n' :: '\n' :: (tagText reason).toList)) :=
            htrimmed.append (tagText_trimmed reason) hne (by simp [tagText_ne_empty]) ['\n', '\n']
          have hsplit := lines_append_feed (List.getLast?_eq_some_getLast hne) hfeed hreturn
            ('\n' :: (tagText reason).toList)
          have hjoin : (String.ofList s ++ "\n\n" ++ deprecationTag reason).toList =
              s ++ ('\n' :: '\n' :: (tagText reason).toList) := by
            simp [deprecationTag_eq]
          simp only [hlines, hsome, if_true, hjoin]
          rw [htext.trim_eq, hsplit, lines_feed, List.append_assoc, List.singleton_append]

/-- The comment for a documentation is the comment for its lines, and there is none exactly if there
are no lines. -/
theorem shownLines_eq (summary deprecation : Option String) :
    shownLines summary deprecation =
      match withDeprecation summary deprecation with
      | none => []
      | some text => commentLines text := by
  rw [shownLines, documentedLines_eq]
  cases withDeprecation summary deprecation with
  | none => rfl
  | some text => exact (commentLines_eq text).symm

theorem documentedLines_eq_nil_iff {summary deprecation : Option String} :
    documentedLines summary deprecation = [] ↔ hasSummary summary = false ∧ deprecation = none := by
  have hsummary : summaryLines summary = [] ↔ hasSummary summary = false := by
    cases hsummary : hasSummary summary with
    | false => exact iff_of_true (summary_blank hsummary).1 rfl
    | true =>
        obtain ⟨s, hne, _, hlines, _⟩ := summary_inked hsummary
        simp [hlines, lines_eq_nil_iff, hne]
  cases deprecation with
  | none => simp [documentedLines, hsummary]
  | some reason => simp [documentedLines, lines_eq_nil_iff, tagText_ne_empty]

/-! ## The comment -/

/-- A comment is written on one line for one line, and as a block for more. -/
theorem docComment_forms {text comment : String} (hcomment : docComment text = some comment) :
    (∃ line, commentLines text = [line] ∧
      comment.toList = "/** ".toList ++ line ++ " */".toList) ∨
    (2 ≤ (commentLines text).length ∧ comment.toList =
      "/**\n".toList ++ endLines ((commentLines text).map decorateLine) ++ " */".toList) := by
  unfold docComment at hcomment
  split at hcomment
  next => cases hcomment
  next line hlines =>
    cases hcomment
    exact Or.inl ⟨line, hlines, by simp⟩
  next hnil hsingle =>
    cases hcomment
    refine Or.inr ⟨?_, by simp⟩
    rcases hlines : commentLines text with _ | ⟨line, _ | ⟨second, rest⟩⟩
    · exact absurd hlines hnil
    · exact absurd hlines (hsingle line)
    · simp

theorem docComment_eq_none_iff {text : String} :
    docComment text = none ↔ commentLines text = [] := by
  unfold docComment
  split <;> simp_all

theorem lines_docComment {text comment : String} (hcomment : docComment text = some comment) :
    lines comment.toList = docBlock text := by
  rcases docComment_lines text with ⟨hnone, _⟩ | ⟨other, hother, hlines⟩
  · rw [hnone] at hcomment
    cases hcomment
  · rw [hother] at hcomment
    cases hcomment
    exact hlines

/-- What stands before the slash at the end keeps the comment open. -/
theorem keepsOpen_comment {text comment : String} (hcomment : docComment text = some comment) :
    ∃ body, KeepsOpen body ∧ comment.toList = body ++ ['/'] := by
  have hstart : KeepsOpen "/** ".toList := by unfold KeepsOpen; decide
  have hend : KeepsOpen " *".toList := by unfold KeepsOpen; decide
  have hlines : ∀ line ∈ commentLines text, CommentLine line := fun _ => commentLine_of_mem
  rcases docComment_forms hcomment with ⟨line, hline, heq⟩ | ⟨_, heq⟩
  · have hopen := (hlines line (by simp [hline])).keepsOpen
    refine ⟨"/** ".toList ++ line ++ " *".toList, ?_, by simp [heq]⟩
    exact (hstart.append hopen (by simp)).append hend (by simp)
  · have hopen : KeepsOpen (endLines ((commentLines text).map decorateLine)) :=
      keepsOpen_endLines <| List.forall_mem_map.mpr fun line hline =>
        (hlines line hline).decorate.keepsOpen
    have hfirst : KeepsOpen "/**\n".toList := by unfold KeepsOpen; decide
    refine ⟨"/**\n".toList ++ endLines ((commentLines text).map decorateLine) ++ " *".toList, ?_,
      by simp [heq]⟩
    exact (hfirst.append hopen (by simp)).append hend (by simp)

theorem KeepsOpen.closed_once {body before after : List Char} (hopen : KeepsOpen body)
    (heq : body ++ ['/'] = before ++ "*/".toList ++ after) : after = [] := by
  rcases List.eq_nil_or_concat' after with hnil | ⟨front, last, rfl⟩
  · exact hnil
  -- an end before the last character would stand in the body
  · rw [← List.append_assoc] at heq
    have hbody := (List.append_inj' heq rfl).1
    exact absurd ⟨before, front, hbody.symm⟩ hopen

/-- The comment shows the lines, and is closed once, at its end. -/
structure ShowsLines (comment : String) (shown : List (List Char)) : Prop where
  opened : "/**".toList <+: comment.toList
  closed : "*/".toList <:+ comment.toList
  closedOnce : ∀ before after, comment.toList = before ++ "*/".toList ++ after → after = []
  reads : readComment comment.toList = some shown
  oneLine_iff : '\n' ∉ comment.toList ↔ shown.length = 1

theorem docComment_showsLines {text comment : String} (hcomment : docComment text = some comment) :
    ShowsLines comment (commentLines text) where
  opened := by
    rcases docComment_forms hcomment with ⟨line, _, heq⟩ | ⟨_, heq⟩
    · exact ⟨" ".toList ++ line ++ " */".toList, by simp [heq]⟩
    · exact ⟨"\n".toList ++ endLines ((commentLines text).map decorateLine) ++ " */".toList,
        by simp [heq]⟩
  closed := by
    rcases docComment_forms hcomment with ⟨line, _, heq⟩ | ⟨_, heq⟩
    · exact ⟨"/** ".toList ++ line ++ " ".toList, by simp [heq]⟩
    · exact ⟨"/**\n".toList ++ endLines ((commentLines text).map decorateLine) ++ " ".toList,
        by simp [heq]⟩
  closedOnce := by
    obtain ⟨body, hopen, heq⟩ := keepsOpen_comment hcomment
    intro before after hsplit
    exact hopen.closed_once (heq.symm.trans hsplit)
  reads := by
    have hblock := lines_docComment hcomment
    unfold docBlock at hblock
    rw [readComment, hblock]
    have hnone : commentLines text ≠ [] := fun hnil => by
      rw [docComment_eq_none_iff.mpr hnil] at hcomment
      cases hcomment
    rcases hlines : commentLines text with _ | ⟨line, _ | ⟨second, rest⟩⟩
    · exact absurd hlines hnone
    · exact congrArg (Option.map ([·])) (readSingle_line line)
    · exact readBlock_decorated (line :: second :: rest)
  oneLine_iff := by
    rcases docComment_forms hcomment with ⟨line, hline, heq⟩ | ⟨hseveral, heq⟩
    · have hmem : line ∈ commentLines text := by simp [hline]
      have hfeedless := (commentLine_of_mem hmem).isLine.feedless
      simp [heq, hline, hfeedless]
    · refine iff_of_false (by simp [heq]) (by omega)

/-! ## The tag of a deprecation -/

/-- A line of the comment starts with the tag, behind its decoration. -/
def TagStartsLine (comment : String) : Prop :=
  ∃ line ∈ lines comment.toList,
    "/** @deprecated".toList <+: line ∨ " * @deprecated".toList <+: line

/-- Among the lines that are shown is one that starts with the tag. -/
theorem tag_shown (summary : Option String) (reason : String) :
    ∃ line ∈ shownLines summary (some reason), "@deprecated".toList <+: line := by
  obtain ⟨rest, hrest⟩ : ∃ rest, (tagText reason).toList = "@deprecated".toList ++ rest :=
    ⟨_, String.toList_append⟩
  have hlines : lines (tagText reason).toList =
      ("@deprecated".toList ++ (lines rest).headD []) :: (lines rest).tail := by
    rw [hrest]
    exact lines_append_of_unbroken (by simp) (by simp) rest
  have hshown : shownLine ("@deprecated".toList ++ (lines rest).headD []) =
      "@deprecated".toList ++ shownLine ((lines rest).headD []) := by
    have hescape : escapeCommentEnd "@deprecated".toList = "@deprecated".toList := by decide
    rw [shownLine, trimEnd_append (by simp [isBlank]), escapeCommentEnd_append (by simp), hescape]
    rfl
  refine ⟨_, List.mem_map_of_mem ?_, ⟨_, hshown.symm⟩⟩
  rw [documentedLines, hlines]
  simp

theorem tagStartsLine_of_mem {text comment : String} (hcomment : docComment text = some comment)
    {line : List Char} (hline : line ∈ commentLines text) (htag : "@deprecated".toList <+: line) :
    TagStartsLine comment := by
  obtain ⟨rest, rfl⟩ := htag
  unfold TagStartsLine
  rw [lines_docComment hcomment, docBlock]
  split
  next hnil => simp [hnil] at hline
  next only hlines =>
    obtain rfl := List.mem_singleton.mp (hlines ▸ hline)
    exact ⟨_, List.mem_singleton_self _, Or.inl ⟨rest ++ " */".toList, by simp⟩⟩
  next =>
    have hdecorated : decorateLine ("@deprecated".toList ++ rest) =
        " * @deprecated".toList ++ rest := by
      simp [decorateLine]
    refine ⟨_, ?_, Or.inr ⟨rest, hdecorated.symm⟩⟩
    exact List.mem_append_left _ (List.mem_cons_of_mem _ (List.mem_map_of_mem hline))

/-- The comment that stands above what has the given summary and deprecation. -/
def commentFor (summary deprecation : Option String) : Option String :=
  (withDeprecation summary deprecation).bind docComment

theorem commentFor_eq_none_iff {summary deprecation : Option String} :
    commentFor summary deprecation = none ↔ shownLines summary deprecation = [] := by
  rw [commentFor, shownLines_eq]
  cases withDeprecation summary deprecation with
  | none => exact iff_of_true rfl rfl
  | some text => exact docComment_eq_none_iff

/-- Whatever there is of a comment shows the lines of the documentation. -/
theorem commentFor_shows {summary deprecation : Option String} {comment : String}
    (hcomment : commentFor summary deprecation = some comment) :
    ShowsLines comment (shownLines summary deprecation) ∧
      (deprecation ≠ none → TagStartsLine comment) := by
  obtain ⟨text, htext, hdoc⟩ := Option.bind_eq_some_iff.mp hcomment
  have hshown : shownLines summary deprecation = commentLines text := by
    rw [shownLines_eq, htext]
  refine ⟨hshown ▸ docComment_showsLines hdoc, fun hdeprecated => ?_⟩
  obtain ⟨reason, rfl⟩ := Option.ne_none_iff_exists'.mp hdeprecated
  obtain ⟨line, hline, htag⟩ := tag_shown summary reason
  exact tagStartsLine_of_mem hdoc (hshown ▸ hline) htag

/-- There is no comment exactly if the summary is blank or left out and nothing is deprecated. A
comment shows the lines of its documentation and nothing else, on one line exactly if there is one
of them; it is closed once, at its end, and the tag of a deprecation starts a line of it.
Documentations that give the same comment have the same lines. -/
theorem documentation_shown (summary deprecation : Option String) :
    (commentFor summary deprecation = none ↔ hasSummary summary = false ∧ deprecation = none) ∧
    (∀ comment, commentFor summary deprecation = some comment →
      ShowsLines comment (shownLines summary deprecation) ∧
      (deprecation ≠ none → TagStartsLine comment)) ∧
    ∀ otherSummary otherDeprecation,
      commentFor otherSummary otherDeprecation = commentFor summary deprecation →
        shownLines otherSummary otherDeprecation = shownLines summary deprecation := by
  refine ⟨?_, fun comment => commentFor_shows, fun otherSummary otherDeprecation hsame => ?_⟩
  · rw [commentFor_eq_none_iff, shownLines, List.map_eq_nil_iff, documentedLines_eq_nil_iff]
  · cases hcomment : commentFor summary deprecation with
    | none =>
        rw [commentFor_eq_none_iff.mp hcomment]
        exact commentFor_eq_none_iff.mp (hsame.trans hcomment)
    | some comment =>
        have hread := (commentFor_shows hcomment).1.reads
        have hother := (commentFor_shows (hsame.trans hcomment)).1.reads
        exact Option.some.inj (hother.symm.trans hread)

/-- The summary has overlapping ends of comments, a blank line and a line with a slash in front; the
reason has an end of a comment and a line feed at its end. -/
theorem documentation_shown_closing :
    let summary := some " Paths **//\r\n \t\r\n/x\n"
    let deprecation := some "Use */.\n"
    let comment := "/**\n * Paths **\\//\n *\n * /x\n *\n * @deprecated Use *\\/.\n */"
    commentFor summary deprecation = some comment ∧
    ShowsLines comment
      ["Paths **\\//".toList, [], "/x".toList, [], "@deprecated Use *\\/.".toList] ∧
    deprecation ≠ none ∧ TagStartsLine comment ∧
    (commentFor (some "Paths **//\n\n/x\r\n\r\n@deprecated Use */.") none = some comment ∧
      shownLines (some "Paths **//\n\n/x\r\n\r\n@deprecated Use */.") none =
        shownLines summary deprecation) := by
  intro summary deprecation comment
  obtain ⟨_, hshows, hsame⟩ := documentation_shown summary deprecation
  have hcomment : commentFor summary deprecation = some comment := by decide +kernel
  have hother : commentFor (some "Paths **//\n\n/x\r\n\r\n@deprecated Use */.") none =
      some comment := by decide +kernel
  obtain ⟨hlines, htag⟩ := hshows comment hcomment
  have hshown : shownLines summary deprecation =
      ["Paths **\\//".toList, [], "/x".toList, [], "@deprecated Use *\\/.".toList] := by
    decide +kernel
  have hdeprecated : deprecation ≠ none := by decide
  exact ⟨hcomment, hshown ▸ hlines, hdeprecated, htag hdeprecated, hother,
    hsame _ _ (hother.trans hcomment.symm)⟩

end Typings

import Typings.Proofs.DocumentationErasure
import Typings.Proofs.MemberLines
import Typings.Proofs.Paragraphs

/-! # Blocks of a file

The text of a declaration is a paragraph: no comment, key or type in it contains an empty line or a
line that ends in a blank, whatever the documentation says. The text of a file is therefore a page
whose first paragraph declares the markers and whose others are the declarations.
-/

namespace Typings

open Docs Text

/-! ## Comments -/

/-- Every line of a comment is tidy, since the lines of the documentation are trimmed before they
are decorated. -/
theorem docBlock_tidy (text : String) : ∀ line ∈ docBlock text, IsTidy line := by
  have hopen : IsTidy "/**".toList := ⟨by decide, '*', rfl, by decide⟩
  have hclose : IsTidy " */".toList := ⟨by decide, '/', rfl, by decide⟩
  have hlines : ∀ line ∈ commentLines text, '\n' ∉ line ∧ IsTidy (decorateLine line) := by
    intro line hline
    obtain ⟨raw, hraw, rfl⟩ := List.mem_map.mp hline
    have hfeedless := (mem_lines hraw).2
    refine ⟨(trimEnd_isLine hfeedless).feedless, ?_⟩
    unfold decorateLine
    split
    · exact ⟨by decide, '*', rfl, by decide⟩
    next hne => exact (trimEnd_isTidy hfeedless (by simpa using hne)).prepend (by decide)
  unfold docBlock
  generalize commentLines text = block at hlines
  rcases block with _ | ⟨line, _ | ⟨second, rest⟩⟩
  · simp
  · rw [List.forall_mem_singleton]
    have hline := (hlines line (List.mem_singleton_self line)).1
    exact hclose.prepend (by simp [hline])
  · refine List.forall_mem_append.mpr ⟨List.forall_mem_cons.mpr ⟨hopen, ?_⟩, ?_⟩
    · exact List.forall_mem_map.mpr fun line hline => (hlines line hline).2
    · exact List.forall_mem_singleton.mpr hclose

theorem docBlockLines_tidy {margin : String} (hmargin : '\n' ∉ margin.toList)
    (doc : Option String) : ∀ line ∈ docBlockLines margin doc, IsTidy line := by
  cases doc with
  | none => simp [docBlockLines]
  | some text =>
      exact List.forall_mem_map.mpr fun line hline => (docBlock_tidy text line hline).prepend hmargin

/-! ## Declarations -/

theorem isTidy_append {front close : String} (hclose : IsTidy close.toList)
    (hfront : '\n' ∉ front.toList) : IsTidy (front ++ close).toList := by
  rw [String.toList_append]
  exact hclose.prepend hfront

theorem member_tidy {m : Member} (hm : m.type.WellFormed) : ∀ line ∈ m.textLines, IsTidy line := by
  have hend : IsTidy ";".toList := ⟨by decide, ';', rfl, by decide⟩
  have hfeedless := (oneLine_memberText hm).feedless
  refine List.forall_mem_append.mpr ⟨docBlockLines_tidy (by simp) m.doc, ?_⟩
  rw [List.forall_mem_singleton]
  unfold Member.text at hfeedless ⊢
  rw [← String.append_assoc]
  exact isTidy_append hend (by simpa using hfeedless)

/-- The lines of a well-formed declaration are tidy, and there is at least one. -/
theorem declaration_paragraph {d : Declaration} (hd : d.WellFormed) : IsParagraph d.textLines := by
  have hname := (oneLine_word (isBareToken_of_isIdentifier hd.name)).feedless
  have hexport : '\n' ∉ (if d.exported then "export " else "").toList := by
    split <;> simp
  have htypes : ∀ t ∈ d.types, '\n' ∉ t.text.toList :=
    fun t ht => (oneLine_parts.type t (hd.types t ht)).feedless
  have hclose : ∀ line ∈ ["\x7d".toList], IsTidy line :=
    List.forall_mem_singleton.mpr ⟨by decide, '\x7d', rfl, by decide⟩
  obtain ⟨name, doc, exported, body⟩ := d
  have hdoc := @docBlockLines_tidy "" (by simp) doc
  rcases body with (_ | ⟨m, members⟩) | type
  · refine ⟨by simp [Declaration.textLines], List.forall_mem_append.mpr ⟨hdoc, ?_⟩⟩
    refine List.forall_mem_singleton.mpr (isTidy_append ⟨by decide, '\x7d', rfl, by decide⟩ ?_)
    simp [hexport, hname]
  · refine ⟨by simp [Declaration.textLines], List.forall_mem_append.mpr ⟨hdoc, ?_⟩⟩
    refine List.forall_mem_append.mpr ⟨List.forall_mem_cons.mpr ⟨?_, ?_⟩, hclose⟩
    · refine isTidy_append ⟨by decide, '\x7b', rfl, by decide⟩ ?_
      simp [hexport, hname]
    · refine List.forall_mem_flatMap.mpr fun member hmember => ?_
      exact member_tidy (hd.types _ (List.mem_map_of_mem hmember))
  · refine ⟨by simp [Declaration.textLines], List.forall_mem_append.mpr ⟨hdoc, ?_⟩⟩
    refine List.forall_mem_singleton.mpr (isTidy_append ⟨by decide, ';', rfl, by decide⟩ ?_)
    simp [hexport, hname, htypes type (List.mem_singleton_self type)]

/-! ## Files -/

/-- The declarations as blocks, each behind a blank line. -/
def blocksText (declarations : List Declaration) : String :=
  String.join (declarations.map fun d => "\n" ++ d.text)

theorem blocksText_cons (d : Declaration) (rest : List Declaration) :
    blocksText (d :: rest) = "\n" ++ d.text ++ blocksText rest := by
  simp [blocksText]

theorem blocksText_append (first second : List Declaration) :
    blocksText (first ++ second) = blocksText first ++ blocksText second := by
  simp [blocksText]

theorem appendBlocks_eq {before : String} (hbefore : before ≠ "")
    (declarations : List Declaration) :
    appendBlocks before declarations = before ++ blocksText declarations := by
  induction declarations generalizing before with
  | nil => simp [appendBlocks, blocksText]
  | cons d declarations ih =>
      have hempty : before.isEmpty = false := by simpa using hbefore
      have hnext : before ++ "\n" ++ d.text ≠ "" := by simp [hbefore]
      rw [appendBlocks, hempty]
      simp only [Bool.false_eq_true, if_false]
      rw [ih hnext, blocksText_cons]
      simp only [String.append_assoc]

/-- The declarations of the markers, one behind the other. -/
def preambleText : String := String.join (Marker.all.map fun m => m.declaration.text)

def preambleLines : List (List Char) := Marker.all.flatMap fun m => m.declaration.textLines

theorem preambleText_lines : preambleText.toList = endLines preambleLines := by
  simp [preambleText, preambleLines, Marker.all, declaration_lines, endLines_append]

theorem preamble_paragraph : IsParagraph preambleLines := by
  have hmarker := fun m => declaration_paragraph (marker_wellFormed m)
  refine ⟨?_, List.forall_mem_flatMap.mpr fun m _ => (hmarker m).tidy⟩
  simp [preambleLines, Marker.all, (hmarker .untyped).ne_nil]

theorem preambleText_ne_empty : preambleText ≠ "" := by
  intro hempty
  have htext := preambleText_lines
  rw [hempty, endLines_eq_joinLines preamble_paragraph.ne_nil] at htext
  simp at htext

section Build

variable {objects : List Object} {options : Options}

/-- The text of a built file: the markers, and every declaration behind a blank line. -/
theorem builtFrom_text (objects : List Object) (templates : List String) :
    (builtFrom objects templates).file.text =
      preambleText ++ blocksText (builtFrom objects templates).file.declarations :=
  appendBlocks_eq preambleText_ne_empty _

theorem builtFrom_page (objects : List Object) (templates : List String) :
    (builtFrom objects templates).file.text.toList = endLines (pageLines preambleLines
      ((builtFrom objects templates).file.declarations.map Declaration.textLines)) := by
  rw [builtFrom_text, endLines_pageLines, ← preambleText_lines, String.toList_append, blocksText,
    String.toList_join, List.flatMap_map, List.flatMap_map]
  congr 1
  refine List.flatMap_congr fun d _ => ?_
  rw [← declaration_lines, String.toList_append]
  rfl

/-- The preamble and the declarations of a built file are paragraphs. -/
theorem built_paragraphs (hdeclarable : Declarable objects options) :
    ∀ ls ∈ preambleLines :: (builtFrom objects
      (wantedTemplates objects options)).file.declarations.map Declaration.textLines,
      IsParagraph ls := by
  refine List.forall_mem_cons.mpr ⟨preamble_paragraph, List.forall_mem_map.mpr fun d hd => ?_⟩
  exact declaration_paragraph ((built_wellFormed hdeclarable).2 d hd)

/-- The blank lines of a file are those between its declarations. -/
theorem blankLines_built (hdeclarable : Declarable objects options) :
    blankLines (builtFrom objects (wantedTemplates objects options)).file.text.toList =
      objects.length + (wantedTemplates objects options).length := by
  rw [builtFrom_page, blankLines_page (built_paragraphs hdeclarable)]
  simp [builtFrom, objectDeclarations]

/-- The text of a file is made of blocks: the markers, then every object, then every context that
is asked for. No text of the documentation adds a blank line to it or takes one away: with the same
names and access there are always as many. -/
theorem file_text_in_blocks {built : Build} (hbuilt : build objects options = .ok built) :
    built.file.declarations = objectDeclarations objects ++
      (wantedTemplates objects options).map (fun t => (contextOf objects t).declaration) ∧
    InBlocks built.file.text.toList
      (preambleText.toList :: built.file.declarations.map (·.text.toList)) ∧
    (splitBlocks built.file.text.toList.dropLast).length =
      1 + objects.length + (wantedTemplates objects options).length ∧
    ∀ others, List.Forall₂ AddressedAlike objects others →
      ∃ otherBuilt, build others options = .ok otherBuilt ∧
        blankLines otherBuilt.file.text.toList = blankLines built.file.text.toList := by
  have hdeclarable := declarable_of_build hbuilt
  rw [build_of_declarable hdeclarable] at hbuilt
  cases hbuilt
  -- The blocks of the page are the texts of the declarations again.
  have hblocks := page_inBlocks (built_paragraphs hdeclarable)
  rw [← builtFrom_page, List.map_cons, ← preambleText_lines, List.map_map] at hblocks
  simp only [Function.comp_def, ← declaration_lines] at hblocks
  refine ⟨by simp [builtFrom, Function.comp_def], hblocks, ?_, fun others halike => ?_⟩
  · have hlength := congrArg List.length hblocks.cut
    simp only [List.length_map, List.length_cons] at hlength
    rw [hlength]
    simp [builtFrom, objectDeclarations]
    omega
  · have hotherDeclarable := (declarable_alike halike).mp hdeclarable
    refine ⟨_, build_of_declarable hotherDeclarable, ?_⟩
    rw [blankLines_built hotherDeclarable, blankLines_built hdeclarable, halike.length_eq,
      wantedTemplates_alike halike]

/-- A documentation full of blank lines, carriage returns and blanks at the ends of lines. -/
def raggedDocumentation : List Object :=
  [{ name := "cart"
     summary := some "\r\n\r\nA cart. \t\r\n \r\n\n\nOf items. "
     access := some { template := some ["cart.liquid"] }
     properties := some
       [{ name := "a\n\nb ", summary := some "\n \n" },
        { name := "", returnType := some [{ type := "string", name := some (.text "x \n\n") }] }]
     deprecated := some true
     deprecationReason := some "\n\nNo longer.\n\n\n" },
   { name := "routes", access := some { global := some true } }]

theorem file_text_in_blocks_ragged :
    ∃ built, build raggedDocumentation ⟨true⟩ = .ok built ∧
      InBlocks built.file.text.toList
        (preambleText.toList :: built.file.declarations.map (·.text.toList)) ∧
      (splitBlocks built.file.text.toList.dropLast).length = 4 ∧
      ∃ otherBuilt,
        build (raggedDocumentation.map Object.undocumented) ⟨true⟩ = .ok otherBuilt ∧
        blankLines otherBuilt.file.text.toList = blankLines built.file.text.toList := by
  have htemplates : wantedTemplates raggedDocumentation ⟨true⟩ = ["cart.liquid"] := by
    decide +kernel
  have halike := undocumented_alike raggedDocumentation
  obtain ⟨built, hbuilt⟩ := exists_built (show (build raggedDocumentation ⟨true⟩).isOk = true by
    decide +kernel)
  obtain ⟨_, hblocks, hcount, hothers⟩ := file_text_in_blocks hbuilt
  rw [htemplates] at hcount
  exact ⟨built, hbuilt, hblocks, hcount, hothers _ halike⟩

end Build

end Typings

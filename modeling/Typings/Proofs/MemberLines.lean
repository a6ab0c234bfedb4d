import Mathlib.Data.List.Forall2
import Typings.Proofs.CommentLines
import Typings.Proofs.Quoting
import Typings.Proofs.Spelling

/-! # Members line by line

Without the lines of its comments, the text of an interface consists of its header, one line for
each property in the order of the documentation, and its closing line. Each of these lines is read
back as the name and the type of its property, so no name can forge, split or hide a line.
-/

namespace Typings

open Docs Text

/-! ## Lines outside comments -/

/-- The text behind the first end of a comment. -/
def behindComment : List Char → Option (List Char)
  | [] => none
  | '*' :: '/' :: rest => some rest
  | _ :: rest => behindComment rest

/-- The text inside the comment that the line opens, if it is the first thing in the line. -/
def openedComment (line : List Char) : Option (List Char) :=
  match line.dropWhile isBlank with
  | '/' :: '*' :: rest => some rest
  | _ => none

mutual

/-- The lines that are not lines of comments. A line is one of a comment only if nothing follows
the end of the comment in it. -/
def codeLines : List (List Char) → List (List Char)
  | [] => []
  | line :: rest =>
    match openedComment line with
    | none => line :: codeLines rest
    | some body =>
      match behindComment body with
      | none => codeLinesInside rest
      | some [] => codeLines rest
      | some _ => line :: codeLines rest

/-- The same inside an open comment. -/
def codeLinesInside : List (List Char) → List (List Char)
  | [] => []
  | line :: rest =>
    match behindComment line with
    | none => codeLinesInside rest
    | some [] => codeLines rest
    | some _ => line :: codeLines rest

end

theorem behindComment_of_keepsOpen {line : List Char} (hline : KeepsOpen line) :
    behindComment line = none := by
  induction line with
  | nil => rfl
  | cons c line ih =>
      obtain ⟨hhead, htail⟩ := keepsOpen_cons.mp hline
      rw [behindComment]
      · exact ih htail
      · rintro rest rfl rfl
        exact hhead ⟨rfl, rfl⟩

theorem behindComment_closed {body : List Char} (hbody : KeepsOpen body) (rest : List Char) :
    behindComment (body ++ '*' :: '/' :: rest) = some rest := by
  induction body with
  | nil => rw [List.nil_append, behindComment]
  | cons c body ih =>
      rw [List.cons_append, behindComment]
      · exact ih (keepsOpen_cons.mp hbody).2
      · rintro after rfl
        exact hbody.no_end _ after

theorem openedComment_margin {margin : List Char} (hmargin : ∀ c ∈ margin, c = ' ')
    (body : List Char) : openedComment (margin ++ '/' :: '*' :: body) = some body := by
  have hblank : ∀ c ∈ margin, isBlank c = true := by
    intro c hc
    rw [hmargin c hc]
    decide
  unfold openedComment
  rw [List.dropWhile_append_of_pos hblank]
  rfl

theorem codeLines_code {line : List Char} (hline : openedComment line = none)
    (rest : List (List Char)) : codeLines (line :: rest) = line :: codeLines rest := by
  rw [codeLines, hline]

/-- The reader of lines leaves a block at its last line, if no line before ends the comment. -/
theorem codeLinesInside_block {inner : List (List Char)} (hinner : ∀ line ∈ inner, KeepsOpen line)
    {last : List Char} (hlast : KeepsOpen last) (rest : List (List Char)) :
    codeLinesInside (inner ++ (last ++ ['*', '/']) :: rest) = codeLines rest := by
  induction inner with
  | nil => rw [List.nil_append, codeLinesInside, behindComment_closed hlast]
  | cons line inner ih =>
      obtain ⟨hline, hrest⟩ := List.forall_mem_cons.mp hinner
      rw [List.cons_append, codeLinesInside, behindComment_of_keepsOpen hline]
      exact ih hrest

/-- All lines of a comment are left out, and no other line with them. -/
theorem codeLines_comment {block : List (List Char)} (hblock : CommentBlock block)
    {margin : List Char} (hmargin : ∀ c ∈ margin, c = ' ') (rest : List (List Char)) :
    codeLines (block.map (margin ++ ·) ++ rest) = codeLines rest := by
  cases hblock with
  | absent => rfl
  | single line hline =>
      have hsplit : margin ++ ("/** ".toList ++ line ++ " */".toList) =
          margin ++ '/' :: '*' :: ("* ".toList ++ (line ++ [' ']) ++ ['*', '/']) := by simp
      have hend := behindComment_closed hline.keepsOpen_single []
      rw [List.map_singleton, List.singleton_append, hsplit, codeLines,
        openedComment_margin hmargin]
      simp only [hend]
  | block inner hinner _ =>
      have hsplit : ("/**".toList :: inner ++ [" */".toList]).map (margin ++ ·) ++ rest =
          (margin ++ '/' :: '*' :: ['*']) ::
            (inner.map (margin ++ ·) ++ (margin ++ [' '] ++ ['*', '/']) :: rest) := by simp
      -- The second star of the opening line is inside the comment and does not end it.
      have hstar : behindComment ['*'] = none := by decide
      have hlines : ∀ line ∈ inner.map (margin ++ ·), KeepsOpen line :=
        List.forall_mem_map.mpr fun line hline => (hinner line hline).keepsOpen_margin hmargin
      rw [hsplit, codeLines, openedComment_margin hmargin]
      simp only [hstar]
      exact codeLinesInside_block hlines (keepsOpen_last hmargin) rest

/-! ## Reading a member -/

/-- The key of a member: an identifier as it stands, or a literal by its value. -/
inductive Key where
  | bare (identifier : String)
  | quoted (value : String)
  deriving DecidableEq, Repr

/-- The name that the key stands for. -/
def Key.name : Key → String
  | bare identifier => identifier
  | quoted value => value

/-- Reads a key, and gives it with what follows it. -/
def readKey : List Char → Option (Key × List Char)
  | '"' :: rest => (readLiteral rest).map fun (value, rest) => (.quoted (String.ofList value), rest)
  | cs =>
    let identifier := String.ofList (cs.takeWhile isIdentifierRest)
    if isIdentifier identifier then some (.bare identifier, cs.dropWhile isIdentifierRest)
    else none

/-- Reads a line as a required member behind two spaces: its key and the text of its type. -/
def readMember : List Char → Option (Key × String)
  | ' ' :: ' ' :: rest =>
    match readKey rest with
    | some (key, ':' :: ' ' :: value) =>
      if value.getLast? = some ';' then some (key, String.ofList value.dropLast) else none
    | _ => none
  | _ => none

/-- The key that is written for a name. -/
def keyOf (name : String) : Key :=
  if isIdentifier name then .bare name else .quoted name

theorem keyOf_name (name : String) : (keyOf name).name = name := by
  unfold keyOf
  split <;> rfl

theorem isIdentifier_head {name : String} (hname : isIdentifier name = true) :
    ∃ c cs, name.toList = c :: cs ∧ isWordChar c = true := by
  obtain ⟨c, cs, hcons, _, _⟩ := isIdentifier_iff.mp hname
  have hrest := isIdentifier_chars hname c (by simp [hcons])
  exact ⟨c, cs, hcons, by simp [isWordChar, hrest]⟩

/-- A written key is read back in front of a colon. -/
theorem readKey_memberKey (name : String) (rest : List Char) :
    readKey ((memberKey name).toList ++ ':' :: rest) = some (keyOf name, ':' :: rest) := by
  unfold memberKey keyOf
  split
  next hname =>
    have hchars := isIdentifier_chars hname
    have htake : (name.toList ++ ':' :: rest).takeWhile isIdentifierRest = name.toList := by
      rw [List.takeWhile_append_of_pos hchars, List.takeWhile_cons_of_neg (by decide),
        List.append_nil]
    have hdrop : (name.toList ++ ':' :: rest).dropWhile isIdentifierRest = ':' :: rest := by
      rw [List.dropWhile_append_of_pos hchars, List.dropWhile_cons_of_neg (by decide)]
    rw [readKey, htake, hdrop, String.ofList_toList, if_pos hname]
    rintro after hquote
    obtain ⟨c, cs, hcons, hword⟩ := isIdentifier_head hname
    rw [hcons, List.cons_append, List.cons.injEq] at hquote
    exact isWordChar_ne hword (by decide) hquote.1
  next =>
    rw [quoteLiteral_toList, List.cons_append, List.append_assoc, List.singleton_append, readKey,
      readLiteral_escaped]
    simp

/-- Different names are written as different keys. -/
theorem memberKey_injective : Function.Injective memberKey := by
  intro first second heq
  have hfirst := readKey_memberKey first []
  rw [heq, readKey_memberKey second [], Option.some.injEq, Prod.mk.injEq] at hfirst
  rw [← keyOf_name first, ← keyOf_name second, hfirst.1]

/-! ## Lines of declarations -/

def Docs.Property.line (p : Property) : List Char :=
  ("  " ++ p.member.text).toList

/-- The lines of a property, its comment first. -/
def Docs.Property.lines (p : Property) : List (List Char) :=
  docBlockLines "  " p.doc ++ [p.line]

/-- The lines of an interface around lines for its members. -/
def interfaceAround (name : String) (members : List (List Char)) : List (List Char) :=
  match members with
  | [] => [("export interface " ++ name ++ " \x7b\x7d").toList]
  | _ :: _ => ("export interface " ++ name ++ " \x7b").toList :: members ++ ["\x7d".toList]

theorem property_line (p : Property) :
    p.line = ' ' :: ' ' :: ((memberKey p.name).toList ++
      ':' :: ' ' :: (p.type.text.toList ++ [';'])) := by
  simp [Property.line, Member.text, Property.member]

theorem readMember_line (p : Property) :
    readMember p.line = some (keyOf p.name, p.type.text) := by
  rw [property_line, readMember, readKey_memberKey]
  simp

/-- The lines of a member, its comment first. -/
def Member.textLines (m : Member) : List (List Char) :=
  docBlockLines "  " m.doc ++ [("  " ++ m.text).toList]

theorem member_lines (m : Member) : m.lines.toList = endLines m.textLines := by
  unfold Member.lines Member.textLines
  rw [String.toList_append, String.toList_append, String.toList_append, docLines_toList,
    endLines_append]
  simp [endLines]

theorem members_lines (members : List Member) :
    (String.join (members.map Member.lines)).toList =
      endLines (members.flatMap Member.textLines) := by
  induction members with
  | nil => rfl
  | cons m members ih =>
      rw [List.flatMap_cons, endLines_append, ← member_lines, ← ih]
      simp

/-- The lines of a declaration, its comment first. -/
def Declaration.textLines (d : Declaration) : List (List Char) :=
  let head := if d.exported then "export " else ""
  docBlockLines "" d.doc ++
    match d.body with
    | .synonym type => [(head ++ "type " ++ d.name ++ " = " ++ type.text ++ ";").toList]
    | .interface [] => [(head ++ "interface " ++ d.name ++ " \x7b\x7d").toList]
    | .interface members =>
      (head ++ "interface " ++ d.name ++ " \x7b").toList :: members.flatMap Member.textLines ++
        ["\x7d".toList]

theorem declaration_lines (d : Declaration) : d.text.toList = endLines d.textLines := by
  obtain ⟨name, doc, exported, body⟩ := d
  rw [Declaration.textLines, endLines_append, ← docLines_toList]
  cases body with
  | synonym type => simp [Declaration.text, endLines]
  | interface members =>
      cases members with
      | nil => simp [Declaration.text, endLines]
      | cons m members =>
          have hmembers := members_lines (m :: members)
          simp only [Declaration.text, String.toList_append, hmembers, endLines_append,
            endLines_cons, List.cons_append]
          simp [endLines]

theorem interfaceAround_of_ne_nil (name : String) {members : List (List Char)}
    (hne : members ≠ []) : interfaceAround name members =
      ("export interface " ++ name ++ " \x7b").toList :: members ++ ["\x7d".toList] := by
  cases members with
  | nil => exact absurd rfl hne
  | cons => rfl

theorem properties_lines_ne_nil (p : Property) (ps : List Property) :
    (p :: ps).flatMap Property.lines ≠ [] := by
  simp [Property.lines]

theorem interface_textLines (name : String) (o : Object) :
    (o.interfaceDeclaration name).textLines =
      docBlockLines "" o.doc ++ interfaceAround name (o.propertyList.flatMap Property.lines) := by
  unfold Declaration.textLines Object.interfaceDeclaration
  cases o.propertyList with
  | nil => simp [interfaceAround]
  | cons p ps =>
      have hmembers : ((p :: ps).map Property.member).flatMap Member.textLines =
          (p :: ps).flatMap Property.lines := List.flatMap_map ..
      rw [interfaceAround_of_ne_nil name (properties_lines_ne_nil p ps), ← hmembers]
      simp

/-- The text of an interface, line by line. -/
theorem interface_text (name : String) (o : Object) :
    (o.interfaceDeclaration name).text.toList =
      endLines (docBlockLines "" o.doc ++
        interfaceAround name (o.propertyList.flatMap Property.lines)) := by
  rw [declaration_lines, interface_textLines]

/-! ## Lines without comments -/

theorem codeLines_docBlockLines {margin : String} (hmargin : ∀ c ∈ margin.toList, c = ' ')
    (doc : Option String) (rest : List (List Char)) :
    codeLines (docBlockLines margin doc ++ rest) = codeLines rest := by
  cases doc with
  | none => rfl
  | some text => exact codeLines_comment (docBlock_shape text) hmargin rest

/-- A line whose first ink is no slash opens no comment. -/
theorem openedComment_ink {margin : List Char} (hmargin : ∀ c ∈ margin, isBlank c = true)
    {c : Char} (hink : isBlank c = false) (hslash : c ≠ '/') (rest : List Char) :
    openedComment (margin ++ c :: rest) = none := by
  unfold openedComment
  rw [List.dropWhile_append_of_pos hmargin, List.dropWhile_cons_of_neg (by simp [hink])]
  split
  next heq => exact absurd (List.cons.inj heq).1 hslash
  next => rfl

theorem openedComment_line (p : Property) : openedComment p.line = none := by
  have hkey : ∃ c cs, (memberKey p.name).toList = c :: cs ∧ isBlank c = false ∧ c ≠ '/' := by
    unfold memberKey
    split
    next hname =>
      obtain ⟨c, cs, hcons, hword⟩ := isIdentifier_head hname
      exact ⟨c, cs, hcons, isBlank_of_isWordChar hword, isWordChar_ne hword (by decide)⟩
    next => exact ⟨_, _, quoteLiteral_toList p.name, by decide, by decide⟩
  have hmargin : ∀ c ∈ [' ', ' '], isBlank c = true := List.all_eq_true.mp (by decide)
  obtain ⟨c, cs, hcons, hink, hslash⟩ := hkey
  rw [property_line, hcons]
  exact @openedComment_ink [' ', ' '] hmargin c hink hslash _

theorem codeLines_properties (ps : List Property) (rest : List (List Char)) :
    codeLines (ps.flatMap Property.lines ++ rest) = ps.map Property.line ++ codeLines rest := by
  induction ps with
  | nil => rfl
  | cons p ps ih =>
      rw [List.flatMap_cons, Property.lines, List.append_assoc, List.append_assoc,
        codeLines_docBlockLines (by simp), List.singleton_append,
        codeLines_code (openedComment_line p), ih, List.map_cons, List.cons_append]

theorem codeLines_interfaceAround (name : String) (ps : List Property) (rest : List (List Char)) :
    codeLines (interfaceAround name (ps.flatMap Property.lines) ++ rest) =
      interfaceAround name (ps.map Property.line) ++ codeLines rest := by
  have hheader : ∀ text : String,
      openedComment ("export interface " ++ name ++ text).toList = none := by
    intro text
    simpa using @openedComment_ink [] (by simp) 'e' (by decide) (by decide) _
  cases ps with
  | nil => exact codeLines_code (hheader _) rest
  | cons p ps =>
      have hclosing : openedComment "\x7d".toList = none := by decide
      rw [interfaceAround_of_ne_nil name (properties_lines_ne_nil p ps), List.cons_append,
        List.cons_append, codeLines_code (hheader _), List.append_assoc, codeLines_properties,
        List.singleton_append, codeLines_code hclosing]
      simp [interfaceAround]

/-! ## Unbroken lines -/

/-- The text contains no line break. -/
def OneLine (cs : List Char) : Prop := ∀ c ∈ cs, c ≠ '\n' ∧ c ≠ '\r'

theorem OneLine.append {first second : List Char} (hfirst : OneLine first)
    (hsecond : OneLine second) : OneLine (first ++ second) :=
  List.forall_mem_append.mpr ⟨hfirst, hsecond⟩

theorem OneLine.feedless {cs : List Char} (hcs : OneLine cs) : '\n' ∉ cs :=
  fun hmem => (hcs _ hmem).1 rfl

theorem oneLine_word {word : String} (hword : isBareToken word = true) : OneLine word.toList := by
  intro c hc
  have hchar := (isBareToken_chars hword).2 c hc
  exact ⟨isWordChar_ne hchar (by decide), isWordChar_ne hchar (by decide)⟩

theorem oneLine_parts : HoldsOfParts OneLine where
  word _ hword := oneLine_word hword
  literal := quoteLiteral_one_line
  marks text hmarks := by
    intro c hc
    have hmark := List.all_eq_true.mp hmarks c hc
    refine ⟨?_, ?_⟩ <;> rintro rfl <;> simp [isTypeMark] at hmark
  append _ _ := OneLine.append

theorem oneLine_key (name : String) : OneLine (memberKey name).toList := by
  unfold memberKey
  split
  next hname => exact oneLine_word (isBareToken_of_isIdentifier hname)
  next => exact quoteLiteral_one_line name

theorem oneLine_memberText {m : Member} (hm : m.type.WellFormed) : OneLine m.text.toList := by
  have hcolon : OneLine (if m.optional then "?: " else ": ").toList := by
    split <;> simp [OneLine]
  have hend : OneLine ";".toList := by simp [OneLine]
  unfold Member.text
  rw [String.toList_append, String.toList_append, String.toList_append]
  exact (((oneLine_key m.name).append hcolon).append (oneLine_parts.type m.type hm)).append hend

theorem oneLine_line (p : Property) : OneLine p.line := by
  have hmargin : OneLine "  ".toList := by simp [OneLine]
  rw [Property.line, String.toList_append]
  exact hmargin.append (oneLine_memberText (typeOf_wellFormed p.returnTypes))

theorem docBlockLines_feedless {margin : String} (hmargin : ∀ c ∈ margin.toList, c = ' ')
    (doc : Option String) : ∀ line ∈ docBlockLines margin doc, '\n' ∉ line := by
  cases doc with
  | none => simp [docBlockLines]
  | some text =>
      refine List.forall_mem_map.mpr fun line hline => ?_
      rw [List.mem_append, not_or]
      refine ⟨fun hmem => ?_, ((docBlock_shape text).isLine line hline).1.feedless⟩
      have hblank := hmargin _ hmem
      simp at hblank

theorem property_lines_feedless (p : Property) : ∀ line ∈ p.lines, '\n' ∉ line := by
  refine List.forall_mem_append.mpr ⟨docBlockLines_feedless (by simp) p.doc, ?_⟩
  exact List.forall_mem_singleton.mpr (oneLine_line p).feedless

theorem interfaceAround_feedless {name : String} (hname : isTypeName name = true)
    {members : List (List Char)} (hmembers : ∀ line ∈ members, '\n' ∉ line) :
    ∀ line ∈ interfaceAround name members, '\n' ∉ line := by
  have hfeedless : '\n' ∉ name.toList :=
    (oneLine_word (isBareToken_of_isIdentifier (isTypeName_identifier hname))).feedless
  cases members with
  | nil => simp [interfaceAround, hfeedless]
  | cons member members =>
      refine List.forall_mem_cons.mpr ⟨by simp [hfeedless], ?_⟩
      exact List.forall_mem_append.mpr ⟨hmembers, by simp⟩

/-! ## Reading an interface -/

/-- The line declares the property and nothing else: its key stands for the name of the property,
and its type is written as the type of the property is. -/
structure DeclaresProperty (p : Property) (line : List Char) : Prop where
  written : line = ("  " ++ memberKey p.name ++ ": " ++ p.type.text ++ ";").toList
  oneLine : OneLine line
  read : ∃ key, readMember line = some (key, p.type.text) ∧ key.name = p.name

theorem declaresProperty_line (p : Property) : DeclaresProperty p p.line where
  written := by simp [property_line]
  oneLine := oneLine_line p
  read := ⟨keyOf p.name, readMember_line p, keyOf_name p.name⟩

/-- The names that the lines are read with are those of the properties, in order. -/
theorem names_of_declaresProperty {ps : List Property} {members : List (List Char)}
    (hmembers : List.Forall₂ DeclaresProperty ps members) :
    members.map (fun line => (readMember line).map (·.1.name)) = ps.map (some ·.name) := by
  induction hmembers with
  | nil => rfl
  | cons hline _ ih =>
      obtain ⟨key, hread, hname⟩ := hline.read
      rw [List.map_cons, List.map_cons, ih, hread, Option.map_some, hname]

/-- Without the lines of comments, an interface is its header, one line for each property in order,
and its closing line, or a single line if there are no properties. Every line in between is read as
its property, and different names have different keys. -/
theorem interface_reads_back (o : Object) (name : String) (hname : isTypeName name = true) :
    (∃ members, codeLines ((o.interfaceDeclaration name).text.toList.splitOn '\n') =
        interfaceAround name members ++ [[]] ∧
      List.Forall₂ DeclaresProperty o.propertyList members) ∧
    ∀ first second, first ≠ second → memberKey first ≠ memberKey second := by
  refine ⟨⟨o.propertyList.map Property.line, ?_, ?_⟩, fun _ _ => memberKey_injective.ne⟩
  · have hdoc := @docBlockLines_feedless "" (by simp) o.doc
    have hproperties : ∀ line ∈ o.propertyList.flatMap Property.lines, '\n' ∉ line :=
      List.forall_mem_flatMap.mpr fun p _ => property_lines_feedless p
    have hlines := List.forall_mem_append.mpr ⟨hdoc, interfaceAround_feedless hname hproperties⟩
    rw [interface_text, splitOn_endLines hlines, List.append_assoc,
      codeLines_docBlockLines (by simp), codeLines_interfaceAround]
    rfl
  · rw [List.forall₂_map_right_iff, List.forall₂_same]
    exact fun p _ => declaresProperty_line p

/-- An object whose property names look like the code around them. -/
def forgingObject : Object where
  name := "trap"
  summary := some "A trap.\n*/ export interface Forged \x7b\x7d"
  properties := some
    [{ name := "" },
      { name := "a\": any;\n  b", summary := some "one\n\n  two: any; */" },
      { name := "\\\";\r\n\x7d" },
      { name := "*/", deprecated := some true },
      { name := "id" },
      { name := "id" }]

theorem interface_reads_back_forging :
    isTypeName "Trap" = true ∧
    ∃ members, codeLines ((forgingObject.interfaceDeclaration "Trap").text.toList.splitOn '\n') =
        interfaceAround "Trap" members ++ [[]] ∧
      members.map (fun line => (readMember line).map (·.1.name)) =
        ["", "a\": any;\n  b", "\\\";\r\n\x7d", "*/", "id", "id"].map some := by
  have hname : isTypeName "Trap" = true := by
    rw [isTypeName]
    decide
  obtain ⟨⟨members, hlines, hmembers⟩, _⟩ := interface_reads_back forgingObject "Trap" hname
  exact ⟨hname, members, hlines, names_of_declaresProperty hmembers⟩

end Typings

import Typings.Proofs.CodeText
import Typings.Proofs.SameOutcome

/-! # Documentation is no code

The text of a declaration file and the text of the same file without its documentation are read
alike: what documentation adds are whole comments. Documentations that differ only in summaries and
deprecations therefore give files with the same code.
-/

namespace Typings

open Docs Text

/-! ## Files without documentation -/

def Member.undocumented (m : Member) : Member := { m with doc := none }

def Body.undocumented : Body → Body
  | .interface members => .interface (members.map Member.undocumented)
  | .synonym type => .synonym type

def Declaration.undocumented (d : Declaration) : Declaration :=
  { d with doc := none, body := d.body.undocumented }

/-- The same declarations without any documentation. -/
def DeclarationFile.undocumented (f : DeclarationFile) : DeclarationFile where
  preamble := f.preamble.map Declaration.undocumented
  declarations := f.declarations.map Declaration.undocumented

/-- The declared name is an identifier, and every type is well formed. -/
structure Declaration.WellFormed (d : Declaration) : Prop where
  name : isIdentifier d.name = true
  types : ∀ t ∈ d.types, t.WellFormed

/-! ## Texts that are read alike -/

/-- Wherever they stand in code, the reader keeps the same characters of both texts. -/
def ReadAlike (first second : List Char) : Prop :=
  ∃ kept, Reads first kept ∧ Reads second kept

theorem ReadAlike.append {first second firstNext secondNext : List Char}
    (halike : ReadAlike first second) (hnext : ReadAlike firstNext secondNext) :
    ReadAlike (first ++ firstNext) (second ++ secondNext) := by
  obtain ⟨kept, hfirst, hsecond⟩ := halike
  obtain ⟨keptNext, hfirstNext, hsecondNext⟩ := hnext
  exact ⟨kept ++ keptNext, hfirst.append hfirstNext, hsecond.append hsecondNext⟩

theorem ReadAlike.nil : ReadAlike [] [] :=
  ⟨[], Reads.nil, Reads.nil⟩

theorem readAlike_plain (text : String) (hplain : text.toList.all isPlain = true) :
    ReadAlike text.toList text.toList :=
  ⟨_, reads_plain (List.all_eq_true.mp hplain), reads_plain (List.all_eq_true.mp hplain)⟩

theorem readAlike_word {word : String} (hword : isBareToken word = true) :
    ReadAlike word.toList word.toList :=
  readAlike_plain word <| List.all_eq_true.mpr fun c hc =>
    isPlain_of_isWordChar ((isBareToken_chars hword).2 c hc)

theorem readAlike_literal (s : String) :
    ReadAlike (quoteLiteral s).toList (quoteLiteral s).toList :=
  ⟨_, reads_quoteLiteral s, reads_quoteLiteral s⟩

theorem readAlike_key (name : String) :
    ReadAlike (memberKey name).toList (memberKey name).toList := by
  unfold memberKey
  split
  next hname => exact readAlike_word (isBareToken_of_isIdentifier hname)
  next => exact readAlike_literal name

/-- Documentation is read like nothing. -/
theorem readAlike_docLines (margin : String) (hmargin : ∀ c ∈ margin.toList, c = ' ')
    (doc : Option String) :
    ReadAlike (docLines margin doc).toList (docLines margin none).toList := by
  refine ⟨[], ?_, Reads.nil⟩
  rw [docLines_toList]
  cases doc with
  | none => exact Reads.nil
  | some text =>
      change Reads (endLines ((docBlock text).map (margin.toList ++ ·))) []
      rcases (docBlock_shape text).comment hmargin with hnone | ⟨body, hbody, heq⟩
      · rw [hnone]
        exact Reads.nil
      · have hfeed : Reads ['\n'] [] := reads_blank (by simp)
        rw [heq]
        exact ((reads_blank fun c hc => Or.inl (hmargin c hc)).append (reads_comment hbody)).append
          hfeed

/-! ## Declarations -/

theorem isPlain_of_isTypeMark {c : Char} (hc : isTypeMark c = true) : isPlain c = true := by
  simp only [isTypeMark, Bool.or_eq_true, beq_iff_eq] at hc
  rcases hc with ((((rfl | rfl) | rfl) | rfl) | rfl) | rfl <;> decide

/-- The parts of types are read in one way, and so is every well-formed type. -/
theorem readAlike_parts : HoldsOfParts fun cs => ReadAlike cs cs where
  word _ hword := readAlike_word hword
  literal := readAlike_literal
  marks text hmarks := readAlike_plain text <| List.all_eq_true.mpr fun c hc =>
    isPlain_of_isTypeMark (List.all_eq_true.mp hmarks c hc)
  append _ _ := ReadAlike.append

theorem readAlike_memberText {m : Member} (hm : m.type.WellFormed) :
    ReadAlike m.text.toList m.text.toList := by
  have hcolon : ReadAlike (if m.optional then "?: " else ": ").toList
      (if m.optional then "?: " else ": ").toList := by
    split <;> exact readAlike_plain _ (by decide)
  have hend := readAlike_plain ";" (by decide)
  unfold Member.text
  simp only [String.toList_append]
  exact (((readAlike_key m.name).append hcolon).append (readAlike_parts.type m.type hm)).append hend

theorem readAlike_member {m : Member} (hm : m.type.WellFormed) :
    ReadAlike m.lines.toList m.undocumented.lines.toList := by
  have hdoc := readAlike_docLines "  " (by simp) m.doc
  have hmargin := readAlike_plain "  " (by decide)
  have hfeed := readAlike_plain "\n" (by decide)
  unfold Member.lines
  simp only [String.toList_append]
  exact ((hdoc.append hmargin).append (readAlike_memberText hm)).append hfeed

theorem readAlike_members {members : List Member} (hmembers : ∀ m ∈ members, m.type.WellFormed) :
    ReadAlike (String.join (members.map Member.lines)).toList
      (String.join ((members.map Member.undocumented).map Member.lines)).toList := by
  induction members with
  | nil => exact ReadAlike.nil
  | cons m members ih =>
      obtain ⟨hm, hrest⟩ := List.forall_mem_cons.mp hmembers
      have happend := (readAlike_member hm).append (ih hrest)
      simpa only [List.map_cons, String.toList_join, List.flatMap_cons] using happend

/-- A declaration is read like the same declaration without documentation. -/
theorem readAlike_declaration {d : Declaration} (hd : d.WellFormed) :
    ReadAlike d.text.toList d.undocumented.text.toList := by
  have hdoc := readAlike_docLines "" (by simp) d.doc
  have hexport : ReadAlike (if d.exported then "export " else "").toList
      (if d.exported then "export " else "").toList := by
    split <;> exact readAlike_plain _ (by decide)
  have hname := readAlike_word (isBareToken_of_isIdentifier hd.name)
  have hhead := hdoc.append hexport
  obtain ⟨name, doc, exported, body⟩ := d
  cases body with
  | synonym type =>
      have htype := readAlike_parts.type type (hd.types type (List.mem_singleton_self type))
      have hkeyword := readAlike_plain "type " (by decide)
      have hequals := readAlike_plain " = " (by decide)
      have hend := readAlike_plain ";\n" (by decide)
      have htext := ((((hhead.append hkeyword).append hname).append hequals).append
        htype).append hend
      simp only [Declaration.text, Declaration.undocumented, Body.undocumented,
        String.toList_append]
      exact htext
  | interface members =>
      have hkeyword := readAlike_plain "interface " (by decide)
      cases members with
      | nil =>
          have hend := readAlike_plain " \x7b\x7d\n" (by decide)
          have htext := ((hhead.append hkeyword).append hname).append hend
          simp only [Declaration.text, Declaration.undocumented, Body.undocumented, List.map_nil,
            String.toList_append]
          exact htext
      | cons m members =>
          have hopen := readAlike_plain " \x7b\n" (by decide)
          have hclose := readAlike_plain "\x7d\n" (by decide)
          have hmembers := readAlike_members fun m hm => hd.types _ (List.mem_map_of_mem hm)
          have htext := ((((hhead.append hkeyword).append hname).append hopen).append
            hmembers).append hclose
          simp only [Declaration.text, Declaration.undocumented, Body.undocumented, List.map_cons,
            String.toList_append]
          exact htext

/-! ## Files -/

/-- A line feed between blocks, or none, is read like none. -/
theorem readAlike_separator (first second : Bool) :
    ReadAlike (if first then "" else "\n").toList (if second then "" else "\n").toList := by
  have hfeed : Reads "\n".toList [] := reads_blank (by simp)
  refine ⟨[], ?_, ?_⟩
  · cases first
    · exact hfeed
    · exact Reads.nil
  · cases second
    · exact hfeed
    · exact Reads.nil

theorem readAlike_appendBlocks {declarations : List Declaration}
    (hall : ∀ d ∈ declarations, d.WellFormed) {before beforeBare : String}
    (hbefore : ReadAlike before.toList beforeBare.toList) :
    ReadAlike (appendBlocks before declarations).toList
      (appendBlocks beforeBare (declarations.map Declaration.undocumented)).toList := by
  induction declarations generalizing before beforeBare with
  | nil => exact hbefore
  | cons d declarations ih =>
      obtain ⟨hd, hrest⟩ := List.forall_mem_cons.mp hall
      rw [List.map_cons, appendBlocks, appendBlocks]
      refine ih hrest ?_
      simp only [String.toList_append]
      exact (hbefore.append (readAlike_separator _ _)).append (readAlike_declaration hd)

theorem readAlike_preamble {declarations : List Declaration}
    (hall : ∀ d ∈ declarations, d.WellFormed) :
    ReadAlike (String.join (declarations.map Declaration.text)).toList
      (String.join ((declarations.map Declaration.undocumented).map Declaration.text)).toList := by
  induction declarations with
  | nil => exact ReadAlike.nil
  | cons d declarations ih =>
      obtain ⟨hd, hrest⟩ := List.forall_mem_cons.mp hall
      have happend := (readAlike_declaration hd).append (ih hrest)
      simpa only [List.map_cons, String.toList_join, List.flatMap_cons] using happend

/-- A file of well-formed declarations is read like the same file without documentation. -/
theorem readAlike_file {f : DeclarationFile} (hpreamble : ∀ d ∈ f.preamble, d.WellFormed)
    (hdeclarations : ∀ d ∈ f.declarations, d.WellFormed) :
    ReadAlike f.text.toList f.undocumented.text.toList :=
  readAlike_appendBlocks hdeclarations (readAlike_preamble hpreamble)

/-! ## Builds -/

theorem marker_wellFormed (m : Marker) : m.declaration.WellFormed where
  name := by cases m <;> decide
  types := by
    intro t ht
    rw [List.mem_singleton.mp ht]
    change isBareToken "any" = true
    decide

theorem object_wellFormed {o : Object} (hvalid : isTypeName (typeName o.name) = true) :
    (o.declaration (typeName o.name)).WellFormed := by
  have hname := isTypeName_identifier hvalid
  unfold Object.declaration
  split
  · refine ⟨hname, fun t ht => ?_⟩
    rw [List.mem_singleton.mp ht]
    exact dictionaryType_wellFormed o
  · refine ⟨hname, fun t ht => ?_⟩
    simp only [Declaration.types, Object.interfaceDeclaration, List.map_map, List.mem_map] at ht
    obtain ⟨p, _, rfl⟩ := ht
    exact typeOf_wellFormed p.returnTypes

/-- The objects of a context are those that list its template and those that are global. -/
theorem mem_objectsIn {objects : List Object} {template name : String} :
    name ∈ Context.objectsIn objects template ↔
      ∃ o ∈ objects, o.name = name ∧ (template ∈ o.templates ∨ o.isGlobal = true) := by
  simp only [Context.objectsIn, mem_sortedTexts, List.mem_map, List.mem_filter, Bool.or_eq_true,
    List.contains_iff_mem]
  exact exists_congr fun o => and_right_comm.trans and_assoc

theorem context_wellFormed {objects : List Object} {t : String}
    (hobjects : ∀ o ∈ objects, isTypeName (typeName o.name) = true)
    (ht : isTypeName (contextName t) = true) : (contextOf objects t).declaration.WellFormed where
  name := by
    rw [contextOf_name]
    exact isTypeName_identifier ht
  types := by
    intro type htype
    simp only [Declaration.types, Context.declaration, contextOf, List.map_map,
      List.mem_map] at htype
    obtain ⟨name, hname, rfl⟩ := htype
    obtain ⟨o, ho, rfl, _⟩ := mem_objectsIn.mp hname
    exact isBareToken_of_isIdentifier (isTypeName_identifier (hobjects o ho))

/-- Every declaration of a built file is well formed. -/
theorem built_wellFormed {objects : List Object} {options : Options}
    (hdeclarable : Declarable objects options) :
    let file := (builtFrom objects (wantedTemplates objects options)).file
    (∀ d ∈ file.preamble, d.WellFormed) ∧ ∀ d ∈ file.declarations, d.WellFormed := by
  refine ⟨List.forall_mem_map.mpr fun m _ => marker_wellFormed m, ?_⟩
  have hobjects := hdeclarable.objectsNamed.valid
  refine List.forall_mem_append.mpr ⟨?_, List.forall_mem_map.mpr (List.forall_mem_map.mpr ?_)⟩
  · exact List.forall_mem_map.mpr fun o ho => object_wellFormed (hobjects o ho)
  · intro t ht
    obtain ⟨hwanted, hlisted⟩ := mem_wantedTemplates.mp ht
    exact context_wellFormed hobjects ((hdeclarable.contextsNamed hwanted).valid t hlisted)

/-! ## Documentations without summaries -/

/-- The property without its summary and its deprecation. -/
def Docs.Property.undocumented (p : Property) : Property :=
  { p with summary := none, deprecated := none }

/-- The object without summaries and deprecations, its own and those of its properties. -/
def Docs.Object.undocumented (o : Object) : Object :=
  { o with
    summary := none
    deprecated := none
    deprecationReason := none
    properties := o.properties.map (·.map Property.undocumented) }

theorem declaration_undocumented (name : String) (o : Object) :
    (o.undocumented.declaration name).undocumented = (o.declaration name).undocumented := by
  have hdictionary : o.undocumented.isDictionary = o.isDictionary := rfl
  unfold Object.declaration
  rw [hdictionary]
  split
  · rfl
  · have hlist : o.undocumented.propertyList = o.propertyList.map Property.undocumented := by
      unfold Object.propertyList Object.undocumented
      cases o.properties <;> rfl
    simp only [Object.interfaceDeclaration, hlist, Declaration.undocumented, Body.undocumented,
      List.map_map, Declaration.mk.injEq, Body.interface.injEq, true_and]
    exact List.map_congr_left fun p _ => rfl

theorem undocumented_alike (objects : List Object) :
    List.Forall₂ AddressedAlike objects (objects.map Object.undocumented) :=
  List.forall₂_map_right_iff.mpr (List.forall₂_same.mpr fun _ _ => ⟨rfl, rfl⟩)

theorem wantedTemplates_undocumented (objects : List Object) (options : Options) :
    wantedTemplates (objects.map Object.undocumented) options =
      wantedTemplates objects options :=
  (wantedTemplates_alike (undocumented_alike objects) options).symm

/-- Summaries and deprecations do not decide whether a documentation can be declared. -/
theorem declarable_undocumented {objects : List Object} {options : Options} :
    Declarable (objects.map Object.undocumented) options ↔ Declarable objects options :=
  (declarable_alike (undocumented_alike objects)).symm

theorem builtFrom_undocumented (objects : List Object) (templates : List String) :
    (builtFrom (objects.map Object.undocumented) templates).file.undocumented =
      (builtFrom objects templates).file.undocumented := by
  have hcontexts := contextOf_alike (undocumented_alike objects)
  simp only [builtFrom, DeclarationFile.undocumented, ← hcontexts, List.map_append,
    DeclarationFile.mk.injEq, true_and]
  congr 1
  simp only [objectDeclarations, List.map_map]
  exact List.map_congr_left fun o _ => declaration_undocumented (typeName o.name) o

/-- Documentation never becomes code. The text of a file is read like the text of the file without
documentation, with every comment and literal closed; and any documentation that differs only in
summaries and deprecations gives a file whose text is read the same. -/
theorem documentation_is_no_code {objects : List Object} {options : Options} {built : Build}
    (hbuilt : build objects options = .ok built) :
    ∃ code, significant .code built.file.text.toList = some code ∧
      significant .code built.file.undocumented.text.toList = some code ∧
      ∀ others : List Object,
        others.map Object.undocumented = objects.map Object.undocumented →
        ∃ otherBuilt, build others options = .ok otherBuilt ∧
          significant .code otherBuilt.file.text.toList = some code := by
  have hdeclarable := declarable_of_build hbuilt
  rw [build_of_declarable hdeclarable] at hbuilt
  cases hbuilt
  obtain ⟨hpreamble, hdeclarations⟩ := built_wellFormed hdeclarable
  obtain ⟨code, htext, hbare⟩ := readAlike_file hpreamble hdeclarations
  refine ⟨code, htext.significant, hbare.significant, fun others hsame => ?_⟩
  have hothers : Declarable others options := by
    rwa [← declarable_undocumented, hsame, declarable_undocumented]
  obtain ⟨hpreamble, hdeclarations⟩ := built_wellFormed hothers
  obtain ⟨otherCode, htext, hotherBare⟩ := readAlike_file hpreamble hdeclarations
  -- Both documentations have the same file without documentation, through which they are compared.
  have hfiles : (builtFrom others (wantedTemplates others options)).file.undocumented =
      (builtFrom objects (wantedTemplates objects options)).file.undocumented := by
    rw [← builtFrom_undocumented others, hsame, builtFrom_undocumented,
      ← wantedTemplates_undocumented others, hsame, wantedTemplates_undocumented]
  refine ⟨_, build_of_declarable hothers, ?_⟩
  rw [hfiles] at hotherBare
  rw [htext.significant, ← hotherBare.significant, hbare.significant]

/-- A documentation whose texts try to end their comments and to open literals. -/
def intrusiveDocumentation : List Object :=
  [{ name := "color"
     summary := some "A color. */ export type Forged = any; /* \"\r\n\r\n **//"
     access := some { template := some ["cart.liquid"] }
     properties := some
       [{ name := "a/*b\"c"
          summary := some "*/ forged: any;\n\n'"
          deprecated := some true }]
     deprecated := some true
     deprecationReason := some "/ /* \"" }]

theorem documentation_is_no_code_intrusive :
    ∃ built, build intrusiveDocumentation ⟨true⟩ = .ok built ∧
      ∃ code, significant .code built.file.text.toList = some code ∧
        significant .code built.file.undocumented.text.toList = some code ∧
        ∃ otherBuilt,
          build (intrusiveDocumentation.map Object.undocumented) ⟨true⟩ = .ok otherBuilt ∧
          significant .code otherBuilt.file.text.toList = some code := by
  have hok : (build intrusiveDocumentation ⟨true⟩).isOk = true := by decide +kernel
  cases hbuilt : build intrusiveDocumentation ⟨true⟩ with
  | error error =>
      rw [hbuilt] at hok
      cases hok
  | ok built =>
      obtain ⟨code, htext, hbare, hothers⟩ := documentation_is_no_code hbuilt
      exact ⟨built, rfl, code, htext, hbare, hothers _ rfl⟩

end Typings

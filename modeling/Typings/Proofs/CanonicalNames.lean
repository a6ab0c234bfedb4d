import Mathlib.Data.List.SplitBy
import Typings.Proofs.Extension
import Typings.Proofs.TypeNames

/-! # Canonical names

Names such as `gift_card`, whose segments are lowercase words, keep apart as type names: the type
name has one uppercase letter for each segment, at its start, and can be taken apart there again.
Documentation that names its objects in this way, each by a name of its own, therefore has a
declaration file unless a name is that of a marker.
-/

namespace Typings

open Docs Text

/-! ## Names in segments -/

/-- A lowercase ASCII letter with lowercase ASCII letters and ASCII digits behind it. -/
def isSegment : List Char → Bool
  | [] => false
  | c :: rest => c.isLower && rest.all fun d => d.isLower || d.isDigit

/-- The name consists of segments with single underscores between them. -/
def IsCanonical (name : String) : Prop :=
  ∃ segments, segments ≠ [] ∧ (∀ segment ∈ segments, isSegment segment = true) ∧
    name.toList = ['_'].intercalate segments

/-- The text is cut before each uppercase letter, the letters are put in lowercase, and the pieces
are joined with underscores. -/
def underscored (name : String) : String :=
  let pieces := name.toList.splitBy fun _ d => !d.isUpper
  String.ofList (['_'].intercalate (pieces.map (·.modifyHead Char.toLower)))

example : underscored "GiftCard2Go" = "gift_card2_go" := by decide +kernel

/-- The names whose type names are those of the markers. -/
def markerWords : List String := ["untyped", "shopify_bug", "unimplemented"]

theorem isSegment_iff {segment : List Char} : isSegment segment = true ↔
    ∃ c rest, segment = c :: rest ∧ c.isLower = true ∧
      ∀ d ∈ rest, d.isLower = true ∨ d.isDigit = true := by
  cases segment with
  | nil => simp [isSegment]
  | cons c rest => simp [isSegment]

theorem isSegment_chars {segment : List Char} (hsegment : isSegment segment = true) :
    ∀ c ∈ segment, c.isLower = true ∨ c.isDigit = true := by
  obtain ⟨c, rest, rfl, hlower, hrest⟩ := isSegment_iff.mp hsegment
  exact List.forall_mem_cons.mpr ⟨.inl hlower, hrest⟩

theorem isUpper_segmentChar {c : Char} (hc : c.isLower = true ∨ c.isDigit = true) :
    c.isUpper = false :=
  forall_ascii (p := fun c => c.isLower = true ∨ c.isDigit = true → c.isUpper = false)
    (by decide +kernel) (isIdentifierRest_ascii (isIdentifierRest_of_lower_or_digit hc)) hc

theorem underscore_notMem_segment {segment : List Char} (hsegment : isSegment segment = true) :
    '_' ∉ segment := by
  intro hmem
  rcases isSegment_chars hsegment '_' hmem with hlower | hdigit
  · exact absurd hlower (by decide)
  · exact absurd hdigit (by decide)

/-- A name is canonical when all that stands between its underscores are segments. -/
theorem isCanonical_iff {name : String} :
    IsCanonical name ↔ ∀ segment ∈ name.toList.splitOn '_', isSegment segment = true := by
  constructor
  · rintro ⟨segments, hne, hsegments, heq⟩
    rw [heq, List.splitOn_intercalate '_'
      (fun segment hmem => underscore_notMem_segment (hsegments segment hmem)) hne]
    exact hsegments
  · intro hsegments
    exact ⟨_, List.splitOn_ne_nil _ _, hsegments, (List.intercalate_splitOn '_').symm⟩

instance (name : String) : Decidable (IsCanonical name) :=
  decidable_of_iff _ isCanonical_iff.symm

/-! ## Taking type names apart -/

/-- The capitalized form of a segment starts with its only uppercase letter. -/
theorem capitalize_segment {segment : List Char} (hsegment : isSegment segment = true) :
    ∃ c rest, capitalize segment = c :: rest ∧ c.isUpper = true ∧ c.toLower :: rest = segment ∧
      ∀ d ∈ rest, d.isUpper = false := by
  obtain ⟨c, rest, rfl, hlower, hrest⟩ := isSegment_iff.mp hsegment
  obtain ⟨hupper, hisUpper, htoLower⟩ := uppercase_of_isLower hlower
  refine ⟨c.toUpper, rest, by simp [capitalize, hupper], hisUpper, by rw [htoLower], ?_⟩
  exact fun d hd => isUpper_segmentChar (hrest d hd)

theorem isChain_of_notUpper {c : Char} {rest : List Char} (hrest : ∀ d ∈ rest, d.isUpper = false) :
    List.IsChain (fun _ d => (!d.isUpper) = true) (c :: rest) := by
  induction rest generalizing c with
  | nil => exact .singleton c
  | cons d rest ih =>
      obtain ⟨hd, hrest⟩ := List.forall_mem_cons.mp hrest
      exact .cons_cons (by simp [hd]) (ih hrest)

/-- Cutting before each uppercase letter takes words apart that start with their only one. -/
theorem splitBy_words {words : List (List Char)} (hwords : ∀ word ∈ words, ∃ c rest,
      word = c :: rest ∧ c.isUpper = true ∧ ∀ d ∈ rest, d.isUpper = false) :
    words.flatten.splitBy (fun _ d => !d.isUpper) = words := by
  apply List.splitBy_flatten
  · intro hnil
    obtain ⟨c, rest, heq, _⟩ := hwords [] hnil
    cases heq
  · intro word hword
    obtain ⟨c, rest, rfl, _, hrest⟩ := hwords word hword
    exact isChain_of_notUpper hrest
  · refine (List.pairwise_of_forall_mem_list ?_).isChain
    intro first hfirst second hsecond
    obtain ⟨c, rest, rfl, _, _⟩ := hwords first hfirst
    obtain ⟨d, tail, rfl, hupper, _⟩ := hwords second hsecond
    exact ⟨List.cons_ne_nil _ _, List.cons_ne_nil _ _, by simp [hupper]⟩

/-- A canonical name can be read off its type name. -/
theorem underscored_typeName {name : String} (hname : IsCanonical name) :
    underscored (typeName name) = name := by
  have hsegments := isCanonical_iff.mp hname
  have hpieces : ((name.toList.splitOn '_').flatMap capitalize).splitBy (fun _ d => !d.isUpper) =
      (name.toList.splitOn '_').map capitalize := by
    rw [List.flatMap_def]
    refine splitBy_words (List.forall_mem_map.mpr fun segment hmem => ?_)
    obtain ⟨c, rest, heq, hupper, _, hrest⟩ := capitalize_segment (hsegments segment hmem)
    exact ⟨c, rest, heq, hupper, hrest⟩
  have hlower : ∀ segment ∈ name.toList.splitOn '_',
      (capitalize segment).modifyHead Char.toLower = segment := by
    intro segment hmem
    obtain ⟨c, rest, heq, _, hsegment, _⟩ := capitalize_segment (hsegments segment hmem)
    rw [heq]
    exact hsegment
  rw [underscored, typeName_toList, hpieces]
  simp only [List.map_map, Function.comp_def]
  rw [List.map_congr_left hlower, List.map_id', List.intercalate_splitOn, String.ofList_toList]

theorem typeName_canonical_inj {first second : String} (hfirst : IsCanonical first)
    (hsecond : IsCanonical second) (heq : typeName first = typeName second) : first = second := by
  rw [← underscored_typeName hfirst, ← underscored_typeName hsecond, heq]

/-! ## Declaring canonical names -/

theorem isCanonical_chars {name : String} (hname : IsCanonical name) :
    ∀ c ∈ name.toList, isIdentifierRest c = true := by
  intro c hc
  by_cases hunderscore : c = '_'
  · rw [hunderscore]
    decide
  · obtain ⟨segment, hsegment, hmem⟩ := mem_segment_iff.mpr ⟨hc, hunderscore⟩
    exact isIdentifierRest_of_lower_or_digit
      (isSegment_chars (isCanonical_iff.mp hname segment hsegment) c hmem)

/-- The type name of a canonical name starts with an uppercase letter. -/
theorem head_typeName_canonical {name : String} (hname : IsCanonical name) :
    ∃ c rest, (typeName name).toList = c :: rest ∧ c.isUpper = true := by
  have hsegments := isCanonical_iff.mp hname
  obtain ⟨segment, segments, hsplit⟩ := List.exists_cons_of_ne_nil
    (List.splitOn_ne_nil '_' name.toList)
  rw [hsplit] at hsegments
  obtain ⟨c, rest, heq, hupper, _⟩ := capitalize_segment (hsegments segment List.mem_cons_self)
  refine ⟨c, rest ++ segments.flatMap capitalize, ?_, hupper⟩
  rw [typeName_toList, hsplit, List.flatMap_cons, heq, List.cons_append]

theorem isTypeName_canonical {name : String} (hname : IsCanonical name) :
    isTypeName (typeName name) = true := by
  obtain ⟨c, rest, heq, hupper⟩ := head_typeName_canonical hname
  have hchars := isIdentifierRest_typeName (isCanonical_chars hname)
  have hidentifier : isIdentifier (typeName name) = true := by
    refine isIdentifier_iff.mpr ⟨c, rest, heq, ?_, ?_⟩
    · unfold isIdentifierStart Char.isAlpha
      simp [hupper]
    · intro d hd
      exact hchars d (by simp [heq, hd])
  -- No reserved word starts with an uppercase letter.
  have hreserved : ∀ word ∈ reservedWords, word.toList.head?.any Char.isUpper = false := by decide
  unfold isTypeName
  simp only [hidentifier, Bool.true_and, Bool.not_eq_true', List.contains_eq_mem,
    decide_eq_false_iff_not]
  intro hmem
  have hlower := hreserved _ hmem
  simp [heq, hupper] at hlower

/-- Objects with distinct canonical names, none of which is a marker's, can all be declared. -/
theorem objectsNamed_of_canonical {objects : List Object}
    (hcanonical : ∀ o ∈ objects, IsCanonical o.name)
    (hdistinct : (objects.map (·.name)).Nodup)
    (hunmarked : ∀ o ∈ objects, o.name ∉ markerWords) : ObjectsNamed objects where
  valid := fun o ho => isTypeName_canonical (hcanonical o ho)
  distinct := by
    have hnames : (objects.map fun o => typeName o.name) =
        (objects.map (·.name)).map typeName := by
      simp
    rw [hnames]
    refine hdistinct.map_on fun first hfirst second hsecond heq => ?_
    obtain ⟨o, ho, rfl⟩ := List.mem_map.mp hfirst
    obtain ⟨p, hp, rfl⟩ := List.mem_map.mp hsecond
    exact typeName_canonical_inj (hcanonical o ho) (hcanonical p hp) heq
  unmarked := by
    intro o ho hmem
    have hnames : markerNames = markerWords.map typeName := by decide +kernel
    have hwords : ∀ word ∈ markerWords, IsCanonical word := by decide +kernel
    rw [hnames] at hmem
    obtain ⟨word, hword, heq⟩ := List.mem_map.mp hmem
    rw [typeName_canonical_inj (hwords word hword) (hcanonical o ho) heq] at hword
    exact hunmarked o ho hword

/-- Canonical names keep apart. Their type names are valid, and each can be read off its type name,
so no two have the same. Objects that have distinct canonical names, none of which is a marker's,
are rendered whatever else the documentation says of them. -/
theorem canonical_names_apart :
    (∀ name, IsCanonical name →
      isTypeName (typeName name) = true ∧ underscored (typeName name) = name) ∧
    (∀ first second, IsCanonical first → IsCanonical second →
      typeName first = typeName second → first = second) ∧
    ∀ objects : List Object, (∀ o ∈ objects, IsCanonical o.name) →
      (objects.map (·.name)).Nodup → (∀ o ∈ objects, o.name ∉ markerWords) →
      ∃ text, render objects = .ok text := by
  refine ⟨fun name hname => ⟨isTypeName_canonical hname, underscored_typeName hname⟩,
    fun first second => typeName_canonical_inj, fun objects hcanonical hdistinct hunmarked => ?_⟩
  have hdeclarable : Declarable objects {} :=
    ⟨objectsNamed_of_canonical hcanonical hdistinct hunmarked, fun hwanted => by cases hwanted⟩
  rw [render_eq, build_of_declarable hdeclarable]
  exact ⟨_, rfl⟩

/-- Names that differ in their segments only, and a collection. -/
def segmentedDocumentation : List Object :=
  [{ name := "gift_card" },
   { name := "giftcard", summary := some "One segment." },
   { name := "a1_b"
     access := some { global := some true, template := some ["index"] }
     returnType := some [{ type := "array", arrayValue := "gift_card" }] }]

theorem canonical_names_apart_segmented :
    (IsCanonical "a1_b" ∧ isTypeName (typeName "a1_b") = true ∧
      underscored (typeName "a1_b") = "a1_b") ∧
    (∀ first second, first ∈ segmentedDocumentation → second ∈ segmentedDocumentation →
      typeName first.name = typeName second.name → first.name = second.name) ∧
    ∃ text, render segmentedDocumentation = .ok text := by
  obtain ⟨hname, hinj, hrender⟩ := canonical_names_apart
  have hcanonical : ∀ o ∈ segmentedDocumentation, IsCanonical o.name := by decide +kernel
  have hword : IsCanonical "a1_b" := by decide +kernel
  refine ⟨⟨hword, hname "a1_b" hword⟩, fun first second hfirst hsecond => ?_, ?_⟩
  · exact hinj _ _ (hcanonical first hfirst) (hcanonical second hsecond)
  · exact hrender _ hcanonical (by decide +kernel) (by decide +kernel)

end Typings

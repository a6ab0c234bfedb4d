import Mathlib.Data.List.Forall2
import Typings.Proofs.Counting

/-! # The order of the input

A documentation can be written in any order. Whether its names can be declared, which templates are
listed and what can be used in them, and how much is counted, is all decided by which objects there
are. The order of the objects is the order of their declarations and decides nothing else.
-/

namespace Typings

open Docs

/-! ## Positions -/

/-- The entries at the given positions of a list. -/
def atPositions {α : Type} (positions : List Nat) (entries : List α) : List α :=
  positions.filterMap (entries[·]?)

theorem atPositions_map {α β : Type} (f : α → β) (positions : List Nat) (entries : List α) :
    atPositions positions (entries.map f) = (atPositions positions entries).map f := by
  simp [atPositions, List.map_filterMap]

/-- A permutation of a list takes its entries from a permutation of its positions. -/
theorem exists_positions {α : Type} {entries others : List α} (h : entries.Perm others) :
    ∃ positions, positions.Perm (List.range entries.length) ∧
      others = atPositions positions entries := by
  have hrange : List.Forall₂ (fun entry i => entries[i]? = some entry) entries
      (List.range entries.length) := by
    refine List.forall₂_iff_get.mpr ⟨by simp, fun i hi _ => ?_⟩
    simp [hi]
  -- the entries go together with their positions, so these follow when the entries are permuted
  obtain ⟨positions, hothers, hperm⟩ := List.perm_comp_forall₂ h.symm hrange
  refine ⟨positions, hperm, ?_⟩
  clear hrange hperm h
  induction hothers with
  | nil => rfl
  | cons hentry _ ih =>
      rw [atPositions, List.filterMap_cons_some hentry, ← atPositions, ← ih]

/-! ## What the order does not decide -/

section Permuted

variable {objects others : List Object} {options : Options}

theorem listed_perm (h : objects.Perm others) {t : String} :
    Listed objects t ↔ Listed others t := by
  simp only [Listed, h.mem_iff]

theorem ObjectsNamed.perm (hnamed : ObjectsNamed objects) (h : objects.Perm others) :
    ObjectsNamed others where
  valid := fun o ho => hnamed.valid o (h.mem_iff.mpr ho)
  distinct := (h.map _).nodup_iff.mp hnamed.distinct
  unmarked := fun o ho => hnamed.unmarked o (h.mem_iff.mpr ho)

theorem ContextsNamed.perm (hnamed : ContextsNamed objects) (h : objects.Perm others) :
    ContextsNamed others where
  valid := fun t ht => hnamed.valid t ((listed_perm h).mpr ht)
  distinct := fun t u ht hu => hnamed.distinct t u ((listed_perm h).mpr ht) ((listed_perm h).mpr hu)
  unmarked := fun t ht => hnamed.unmarked t ((listed_perm h).mpr ht)
  objectless := fun t ht o ho =>
    hnamed.objectless t ((listed_perm h).mpr ht) o (h.mem_iff.mpr ho)

theorem Declarable.perm (hdeclarable : Declarable objects options) (h : objects.Perm others) :
    Declarable others options where
  objectsNamed := hdeclarable.objectsNamed.perm h
  contextsNamed := fun hwanted => (hdeclarable.contextsNamed hwanted).perm h

theorem wantedTemplates_perm (h : objects.Perm others) (options : Options) :
    wantedTemplates objects options = wantedTemplates others options := by
  have hlisted : listedTemplates objects = listedTemplates others :=
    sortedTexts_congr fun _ => (h.flatMap_right _).mem_iff
  rw [wantedTemplates, hlisted, wantedTemplates]

theorem contextOf_perm (h : objects.Perm others) : contextOf objects = contextOf others := by
  funext t
  have hobjects : Context.objectsIn objects t = Context.objectsIn others t :=
    sortedTexts_congr fun _ => ((h.filter _).map _).mem_iff
  rw [contextOf, hobjects, contextOf]

theorem builtFrom_stats_perm (h : objects.Perm others) (templates : List String) :
    (builtFrom objects templates).stats = (builtFrom others templates).stats := by
  have hmarkers : ((objectDeclarations objects).flatMap Declaration.markers).Perm
      ((objectDeclarations others).flatMap Declaration.markers) :=
    (h.map _).flatMap_right _
  rw [builtFrom_stats, builtFrom_stats, h.countP_eq, h.countP_eq, Tally.addAll_perm _ hmarkers]

/-! ## Builds -/

/-- The order of the objects is the order of their declarations and nothing more. A documentation in
another order can be built if and only if this one can. Its file then has the declarations of the
objects from the same positions as the objects themselves, the same contexts behind them, and the
same numbers. -/
theorem build_permuted (h : objects.Perm others) (options : Options) :
    ((∃ built, build objects options = .ok built) ↔
      ∃ other, build others options = .ok other) ∧
    ∀ built other, build objects options = .ok built → build others options = .ok other →
      ∃ positions contexts,
        positions.Perm (List.range objects.length) ∧
        others = atPositions positions objects ∧
        built.file.declarations = objectDeclarations objects ++ contexts ∧
        other.file.declarations =
          atPositions positions (objectDeclarations objects) ++ contexts ∧
        other.file.preamble = built.file.preamble ∧
        other.stats = built.stats := by
  constructor
  · constructor
    · rintro ⟨_, hbuilt⟩
      exact ⟨_, build_of_declarable ((declarable_of_build hbuilt).perm h)⟩
    · rintro ⟨_, hother⟩
      exact ⟨_, build_of_declarable ((declarable_of_build hother).perm h.symm)⟩
  · intro built other hbuilt hother
    rw [eq_builtFrom_of_build hbuilt, eq_builtFrom_of_build hother, ← wantedTemplates_perm h]
    obtain ⟨positions, hpositions, hothers⟩ := exists_positions h
    refine ⟨positions, _, hpositions, hothers, rfl, ?_, rfl, (builtFrom_stats_perm h _).symm⟩
    simp only [builtFrom, contextOf_perm h]
    rw [objectDeclarations, objectDeclarations, atPositions_map, ← hothers]

end Permuted

/-- An object, a collection and an object of two templates, in no particular order. -/
def unorderedDocumentation : List Object :=
  [{ name := "shop", properties := some [{ name := "locale" }] },
   { name := "all_products"
     access := some { global := some true }
     returnType := some [{ type := "array", arrayValue := "product" }] },
   { name := "cart", access := some { template := some ["index", "cart"] } }]

theorem build_permuted_reversed :
    ∃ built other,
      build unorderedDocumentation ⟨true⟩ = .ok built ∧
      build unorderedDocumentation.reverse ⟨true⟩ = .ok other ∧
      ∃ positions contexts,
        positions.Perm (List.range 3) ∧
        unorderedDocumentation.reverse = atPositions positions unorderedDocumentation ∧
        built.file.declarations = objectDeclarations unorderedDocumentation ++ contexts ∧
        other.file.declarations =
          atPositions positions (objectDeclarations unorderedDocumentation) ++ contexts ∧
        other.file.preamble = built.file.preamble ∧
        other.stats = built.stats := by
  have hperm := (List.reverse_perm unorderedDocumentation).symm
  obtain ⟨built, hbuilt⟩ := exists_built (show (build unorderedDocumentation ⟨true⟩).isOk = true by
    decide +kernel)
  obtain ⟨hiff, hdeclarations⟩ := build_permuted hperm ⟨true⟩
  obtain ⟨other, hother⟩ := hiff.mp ⟨built, hbuilt⟩
  exact ⟨built, other, hbuilt, hother, hdeclarations built other hbuilt hother⟩

end Typings

import Mathlib.Algebra.Ring.Nat
import Mathlib.Data.Finset.Card
import Mathlib.Data.List.Sort
import Typings.Proofs.BuildOutcome

/-! # Counting declarations and gaps

The numbers of a file are gathered while the objects are declared, one declaration after the other,
and the markers of a declaration are counted one by one. What has been counted at any moment depends
only on the declarations so far, so the numbers say of the finished file how many declarations of
each kind there are in it and how often each marker stands in their types.
-/

namespace Typings

open Docs

/-- Lists that are put together from parts have equally many counted entries if the parts have. -/
theorem countP_flatMap_congr {α β γ : Type} {p : β → Bool} {q : γ → Bool} {f : α → List β}
    {g : α → List γ} {parts : List α}
    (h : ∀ part ∈ parts, (f part).countP p = (g part).countP q) :
    (parts.flatMap f).countP p = (parts.flatMap g).countP q := by
  rw [List.countP_flatMap, List.countP_flatMap]
  congr 1
  exact List.map_congr_left h

/-! ## Nodes of types -/

namespace Ty

mutual

/-- A type and all types inside of it, each as often as it occurs. -/
def nodes : Ty → List Ty
  | primitive kind => [primitive kind]
  | array element => array element :: element.nodes
  | union members => union members :: nodesOfAll members
  | literal value => [literal value]
  | reference name => [reference name]
  | marker gap => [marker gap]

/-- The nodes of the members of a union. -/
def nodesOfAll : List Ty → List Ty
  | [] => []
  | member :: rest => member.nodes ++ nodesOfAll rest

end

theorem nodesOfAll_eq (members : List Ty) : nodesOfAll members = members.flatMap nodes := by
  induction members with
  | nil => rfl
  | cons member rest ih => rw [nodesOfAll, ih, List.flatMap_cons]

/-- The type is the given marker itself. -/
def isMarker (m : Marker) : Ty → Bool
  | marker gap => gap == m
  | _ => false

mutual

/-- The markers of a type are its nodes that are markers, at any depth. -/
theorem count_markers (m : Marker) (t : Ty) : t.markers.count m = t.nodes.countP (isMarker m) := by
  match t with
  | primitive _ => rfl
  | array element =>
      rw [markers, nodes, List.countP_cons_of_neg (by simp [isMarker])]
      exact count_markers m element
  | union members =>
      rw [markers, nodes, List.countP_cons_of_neg (by simp [isMarker])]
      exact count_markersOfAll m members
  | literal _ => rfl
  | reference _ => rfl
  | marker gap => simp [markers, nodes, isMarker, List.count_singleton, List.countP_cons]

theorem count_markersOfAll (m : Marker) (members : List Ty) :
    (markersOfAll members).count m = (nodesOfAll members).countP (isMarker m) := by
  match members with
  | [] => rfl
  | member :: rest =>
      rw [markersOfAll, nodesOfAll, List.count_append, List.countP_append, count_markers m member,
        count_markersOfAll m rest]

end

end Ty

/-- The nodes of all types that a declaration writes out. -/
def Declaration.nodes (d : Declaration) : List Ty :=
  d.types.flatMap Ty.nodes

/-- The nodes of all types that the declarations behind the preamble write out. -/
def DeclarationFile.nodes (f : DeclarationFile) : List Ty :=
  f.declarations.flatMap Declaration.nodes

theorem count_declaration_markers (m : Marker) (d : Declaration) :
    d.markers.count m = d.nodes.countP (Ty.isMarker m) :=
  countP_flatMap_congr fun t _ => Ty.count_markers m t

/-! ## Tallies -/

namespace Tally

theorem addAll_append (t : Tally) (first second : List Marker) :
    t.addAll (first ++ second) = (t.addAll first).addAll second :=
  List.foldl_append

/-- Tallies that agree on every marker are equal. -/
theorem eq_of_count {s t : Tally} (h : ∀ m, s.count m = t.count m) : s = t := by
  have hentries : s.entries = t.entries := by
    have hirrefl : Std.Irrefl fun a b : Marker × Nat => a.1.rank < b.1.rank :=
      ⟨fun _ => Nat.lt_irrefl _⟩
    have hantisymm : Std.Antisymm fun a b : Marker × Nat => a.1.rank < b.1.rank :=
      ⟨fun _ _ hlt hgt => absurd hgt (Nat.lt_asymm hlt)⟩
    refine List.Pairwise.eq_of_mem_iff s.ordered t.ordered fun entry => ?_
    rw [s.mem_entries_iff, t.mem_entries_iff, h]
  cases s
  cases t
  cases hentries
  rfl

/-- It does not matter in which order markers are counted. -/
theorem addAll_perm (t : Tally) {first second : List Marker} (h : first.Perm second) :
    t.addAll first = t.addAll second := by
  refine eq_of_count fun m => ?_
  rw [count_addAll, count_addAll, h.count_eq]

end Tally

/-! ## Numbers of declarations -/

/-- The declaration declares a synonym and no interface. -/
def Declaration.isSynonym (d : Declaration) : Bool :=
  match d.body with
  | .interface _ => false
  | .synonym _ => true

/-- One declaration adds to one of two numbers, and its markers to the tally. -/
theorem record_eq (s : Stats) (d : Declaration) :
    s.record d =
      { s with
        interfaces := s.interfaces + if d.isSynonym then 0 else 1
        synonyms := s.synonyms + if d.isSynonym then 1 else 0
        markers := s.markers.addAll d.markers } := by
  unfold Stats.record Declaration.isSynonym
  cases d.body <;> rfl

/-- The numbers after any declarations, whatever the numbers before them were. -/
theorem foldl_record (s : Stats) (declarations : List Declaration) :
    declarations.foldl Stats.record s =
      { s with
        interfaces := s.interfaces + declarations.countP (!·.isSynonym)
        synonyms := s.synonyms + declarations.countP (·.isSynonym)
        markers := s.markers.addAll (declarations.flatMap Declaration.markers) } := by
  induction declarations generalizing s with
  | nil => rfl
  | cons d rest ih =>
      rw [List.foldl_cons, ih, record_eq, List.flatMap_cons, Tally.addAll_append]
      cases hd : d.isSynonym <;> simp [hd, Nat.add_assoc, Nat.add_comm 1]

theorem object_declaration_isSynonym (name : String) (o : Object) :
    (o.declaration name).isSynonym = o.isDictionary := by
  unfold Object.declaration
  split
  next hdictionary => exact hdictionary.symm
  next hobject => exact (Bool.eq_false_iff.mpr hobject).symm

theorem countP_objectDeclarations (p : Bool → Bool) (objects : List Object) :
    (objectDeclarations objects).countP (fun d => p d.isSynonym) =
      objects.countP (fun o => p o.isDictionary) := by
  rw [objectDeclarations, List.countP_map]
  refine List.countP_congr fun o _ => ?_
  rw [Function.comp_apply, object_declaration_isSynonym]

/-- The numbers of a build, as far as the objects and the templates decide them. -/
theorem builtFrom_stats (objects : List Object) (templates : List String) :
    (builtFrom objects templates).stats =
      { interfaces := objects.countP (!·.isDictionary)
        synonyms := objects.countP (·.isDictionary)
        contexts := templates.length
        markers := Tally.empty.addAll
          ((objectDeclarations objects).flatMap Declaration.markers) } := by
  rw [builtFrom, foldl_record, countP_objectDeclarations (!·),
    countP_objectDeclarations (fun b => b)]
  simp

/-! ## Gaps of objects and contexts -/

/-- How often the marker stands in what is documented: in the types of the properties of the objects
that are no collections, and in the types of the collections. -/
def documentedGaps (m : Marker) (objects : List Object) : Nat :=
  ((objects.filter (!·.isDictionary)).map fun o =>
    (o.propertyList.map fun p => p.type.markers.count m).sum).sum +
  ((objects.filter (·.isDictionary)).map fun o => o.dictionaryType.markers.count m).sum

/-- How often the marker stands in what one object documents. -/
def objectGaps (m : Marker) (o : Object) : Nat :=
  if o.isDictionary then o.dictionaryType.markers.count m
  else (o.propertyList.map fun p => p.type.markers.count m).sum

theorem documentedGaps_cons (m : Marker) (o : Object) (rest : List Object) :
    documentedGaps m (o :: rest) = objectGaps m o + documentedGaps m rest := by
  unfold documentedGaps objectGaps
  cases hdictionary : o.isDictionary with
  | true => simp [hdictionary, Nat.add_left_comm]
  | false => simp [hdictionary, Nat.add_assoc]

theorem count_declared_markers (m : Marker) (name : String) (o : Object) :
    (o.declaration name).markers.count m = objectGaps m o := by
  unfold Object.declaration objectGaps
  split
  next _ => simp [Declaration.markers, Declaration.types, Object.dictionaryDeclaration]
  next _ =>
    rw [Declaration.markers, List.count_flatMap]
    simp only [Declaration.types, Object.interfaceDeclaration, List.map_map]
    rfl

theorem count_object_markers (m : Marker) (objects : List Object) :
    ((objectDeclarations objects).flatMap Declaration.markers).count m =
      documentedGaps m objects := by
  induction objects with
  | nil => rfl
  | cons o rest ih =>
      rw [objectDeclarations, List.map_cons, ← objectDeclarations, List.flatMap_cons,
        List.count_append, ih, count_declared_markers, documentedGaps_cons]

/-- A context refers to objects and has no gap. -/
theorem context_markers (c : Context) : c.declaration.markers = [] := by
  refine List.flatMap_eq_nil_iff.mpr fun type htype => ?_
  obtain ⟨_, hmember, rfl⟩ := List.mem_map.mp htype
  obtain ⟨_, _, rfl⟩ := List.mem_map.mp hmember
  rfl

theorem builtFrom_markers (objects : List Object) (templates : List String) :
    (builtFrom objects templates).file.declarations.flatMap Declaration.markers =
      (objectDeclarations objects).flatMap Declaration.markers := by
  have hcontexts : ((templates.map (contextOf objects)).map Context.declaration).flatMap
      Declaration.markers = [] := by
    refine List.flatMap_eq_nil_iff.mpr fun d hd => ?_
    obtain ⟨c, _, rfl⟩ := List.mem_map.mp hd
    exact context_markers c
  rw [builtFrom, List.flatMap_append, hcontexts, List.append_nil]

theorem count_nodes (m : Marker) (f : DeclarationFile) :
    f.nodes.countP (Ty.isMarker m) = (f.declarations.flatMap Declaration.markers).count m :=
  countP_flatMap_congr fun d _ => (count_declaration_markers m d).symm

theorem length_listedTemplates (objects : List Object) :
    (listedTemplates objects).length = (objects.flatMap (·.templates)).toFinset.card := by
  have hnodup : (listedTemplates objects).Nodup := (sortedTexts_increasing _).imp ne_of_lt
  rw [← List.toFinset_card_of_nodup hnodup]
  congr 1
  ext t
  simp [listedTemplates, mem_sortedTexts]

theorem length_wantedTemplates (objects : List Object) (options : Options) :
    (wantedTemplates objects options).length =
      if options.templateContexts then (objects.flatMap (·.templates)).toFinset.card else 0 := by
  unfold wantedTemplates
  split
  · exact length_listedTemplates objects
  · rfl

/-! ## Builds -/

/-- The numbers of a build are exact. Every object is counted once, as a collection or as an
interface, and every template that some object lists once, if contexts are asked for. A marker is
counted as often as it stands anywhere in the types of the file, which is as often as the
documentation has the gap, and it has an entry exactly if it stands there at all. -/
theorem build_counts {objects : List Object} {options : Options} {built : Build}
    (hbuilt : build objects options = .ok built) :
    built.stats.synonyms = objects.countP (·.isDictionary) ∧
    built.stats.interfaces = objects.countP (!·.isDictionary) ∧
    built.stats.interfaces + built.stats.synonyms = objects.length ∧
    built.stats.contexts =
      (if options.templateContexts then (objects.flatMap (·.templates)).toFinset.card else 0) ∧
    ∀ m,
      built.stats.markerCount m = built.file.nodes.countP (Ty.isMarker m) ∧
      built.stats.markerCount m = documentedGaps m objects ∧
      ((∃ n, (m, n) ∈ built.stats.markers.entries) ↔ 0 < built.stats.markerCount m) := by
  rw [eq_builtFrom_of_build hbuilt]
  have hstats := builtFrom_stats objects (wantedTemplates objects options)
  refine ⟨by rw [hstats], by rw [hstats], ?_, ?_, fun m => ⟨?_, ?_, ?_⟩⟩
  · rw [hstats, List.length_eq_countP_add_countP fun o : Object => o.isDictionary, Nat.add_comm]
    simp
  · rw [hstats, length_wantedTemplates]
  · rw [count_nodes, builtFrom_markers, Stats.markerCount, hstats, Tally.count_addAll,
      Tally.count_empty, Nat.zero_add]
  · rw [Stats.markerCount, hstats, Tally.count_addAll, Tally.count_empty, Nat.zero_add,
      count_object_markers]
  · simp only [Tally.mem_entries_iff, Stats.markerCount]
    simp

/-- A documentation with a gap inside of a union, a collection without elements whose properties
are passed over, and templates that are listed more than once. -/
def gappyDocumentation : List Object :=
  [{ name := "product"
     access := some { template := some ["product", "cart", "product"] }
     properties := some
       [{ name := "id" },
        { name := "media"
          returnType := some
            [{ type := "array" },
              { type := "boolean", name := some (.text "not a token") },
              { type := "untyped", name := some (.text "") }] }] },
   { name := "all_products"
     access := some { global := some true }
     properties := some [{ name := "size" }]
     returnType := some [{ type := "array" }] },
   { name := "cart", access := some { template := some ["cart"] } }]

theorem build_counts_gappy :
    ∃ built, build gappyDocumentation ⟨true⟩ = .ok built ∧
      built.stats.synonyms = 1 ∧ built.stats.interfaces = 2 ∧ built.stats.contexts = 2 ∧
      built.stats.markerCount .missingData = 3 ∧
      built.file.nodes.countP (Ty.isMarker .missingData) = 3 ∧
      ∃ n, (Marker.unmapped, n) ∈ built.stats.markers.entries := by
  obtain ⟨built, hbuilt⟩ := exists_built (show (build gappyDocumentation ⟨true⟩).isOk = true by
    decide +kernel)
  obtain ⟨hsynonyms, hinterfaces, _, hcontexts, hmarkers⟩ := build_counts hbuilt
  obtain ⟨hnodes, hmissing, _⟩ := hmarkers .missingData
  obtain ⟨_, hunmapped, hentry⟩ := hmarkers .unmapped
  have hthree : documentedGaps .missingData gappyDocumentation = 3 := by decide +kernel
  have hone : documentedGaps .unmapped gappyDocumentation = 1 := by decide +kernel
  refine ⟨built, hbuilt, hsynonyms.trans (by decide +kernel), hinterfaces.trans (by decide +kernel),
    hcontexts.trans (by decide +kernel), hmissing.trans hthree, ?_, hentry.mpr ?_⟩
  · rw [← hnodes, hmissing, hthree]
  · rw [hunmapped, hone]
    exact Nat.one_pos

end Typings

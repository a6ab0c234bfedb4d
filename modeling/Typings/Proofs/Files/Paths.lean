import Typings.Proofs.Files.Lookup

/-! # Absolute paths

A path that begins at the root does so wherever it is read from, and so do the directory that it is
in and every path that is read from that directory.
-/

namespace Typings.Files

variable {base path : String}

theorem isAbsolute_iff : isAbsolute path = true ↔ ∃ rest, path.toList = '/' :: rest := by
  rw [isAbsolute, beq_iff_eq, List.head?_eq_some_iff]

theorem isAbsolute_nonempty (hpath : isAbsolute path = true) : path.isEmpty = false := by
  obtain ⟨rest, hrest⟩ := isAbsolute_iff.mp hpath
  rw [Bool.eq_false_iff]
  intro hempty
  rw [String.isEmpty_iff.mp hempty] at hrest
  cases hrest

theorem isAbsolute_append (hbase : isAbsolute base = true) (rest : String) :
    isAbsolute (base ++ rest) = true := by
  obtain ⟨front, hfront⟩ := isAbsolute_iff.mp hbase
  exact isAbsolute_iff.mpr ⟨front ++ rest.toList, by simp [hfront]⟩

theorem join_of_isAbsolute (hpath : isAbsolute path = true) (base : String) :
    join base path = path := by
  simp [join, hpath]

/-- What is read from an absolute directory is absolute. -/
theorem isAbsolute_join (hbase : isAbsolute base = true) (path : String) :
    isAbsolute (join base path) = true := by
  unfold join
  split
  next h =>
    rw [isAbsolute_nonempty hbase, Bool.or_false] at h
    exact h
  next =>
    split
    · exact isAbsolute_append hbase path
    · exact isAbsolute_append (isAbsolute_append hbase "/") path

/-! ## Parents -/

theorem dropUnnamed_suffix (parts : List (Nat × String)) : dropUnnamed parts <:+ parts := by
  induction parts with
  | nil => exact List.suffix_rfl
  | cons part rest ih =>
      rw [dropUnnamed]
      split
      · exact List.suffix_rfl
      · exact ih.trans (List.suffix_cons _ _)

theorem isNamed_of_dropUnnamed {parts rest : List (Nat × String)} {part : Nat × String}
    (h : dropUnnamed parts = part :: rest) : isNamed part.1 part.2 = true := by
  induction parts with
  | nil => cases h
  | cons first parts ih =>
      rw [dropUnnamed] at h
      split at h
      next hnamed =>
        obtain ⟨rfl, -⟩ := List.cons.inj h
        exact hnamed
      next => exact ih h

/-- The first part of an absolute path is empty. -/
theorem segments_of_isAbsolute (hpath : isAbsolute path = true) :
    ∃ rest, segments path = "" :: rest := by
  obtain ⟨rest, hrest⟩ := isAbsolute_iff.mp hpath
  have hslash := segments_slash [] rest
  rw [List.nil_append, ← hrest, String.ofList_toList] at hslash
  exact ⟨segments (String.ofList rest), hslash⟩

/-- The parts from the beginning of an absolute path up to a name make an absolute path. -/
theorem isAbsolute_intercalate {reversed parts kept : List (Nat × String)}
    (hreversed : reversed <:+ ((0, "") :: parts).reverse) (hkept : dropUnnamed reversed = kept)
    (hne : kept ≠ []) : isAbsolute ("/".intercalate (kept.reverse.map (·.2))) = true := by
  have hprefix : kept.reverse <+: (0, "") :: parts := by
    have hsuffix := (dropUnnamed_suffix reversed).trans hreversed
    rwa [hkept, ← List.reverse_prefix, List.reverse_reverse] at hsuffix
  obtain ⟨first, names, hnames⟩ := List.exists_cons_of_ne_nil (List.reverse_ne_nil_iff.mpr hne)
  rw [hnames] at hprefix ⊢
  obtain ⟨rfl, -⟩ := List.cons_prefix_cons.mp hprefix
  cases names with
  | nil =>
      -- the empty part before the root names nothing, so it is not the last one
      rw [List.reverse_eq_iff.mp hnames] at hkept
      have hnamed := isNamed_of_dropUnnamed hkept
      simp [isNamed] at hnamed
  | cons name names =>
      rw [isAbsolute_iff, String.toList_intercalate]
      simp [List.intercalate_cons_cons]

/-- The directory that an absolute path is in is absolute. -/
theorem isAbsolute_parent? (hpath : isAbsolute path = true) (hparent : parent? path = some base) :
    isAbsolute base = true := by
  obtain ⟨names, hnames⟩ := segments_of_isAbsolute hpath
  have hparts : (segments path).zipIdx.map Prod.swap =
      (0, "") :: (names.zipIdx 1).map Prod.swap := by
    rw [hnames, List.zipIdx_cons, List.map_cons, Prod.swap_prod_mk]
  unfold parent? at hparent
  rw [hparts] at hparent
  split at hparent
  next => cases hparent
  next last rest hlast =>
    have hrest : rest <:+ ((0, "") :: (names.zipIdx 1).map Prod.swap).reverse := by
      have hsuffix := dropUnnamed_suffix ((0, "") :: (names.zipIdx 1).map Prod.swap).reverse
      rw [hlast] at hsuffix
      exact (List.suffix_cons last rest).trans hsuffix
    split at hparent
    next =>
      obtain rfl := Option.some.inj hparent
      rw [if_pos hpath]
      decide
    next hne =>
      obtain rfl := Option.some.inj hparent
      exact isAbsolute_intercalate hrest rfl hne

end Typings.Files

import Typings.Files.Store
import Typings.Proofs.Success

/-! # Looking up paths

What a path leads to depends on the directories on its way and on what is at its end. Stores that
agree there agree on the path: where all directories stay, every path that led somewhere leads to
the same location.
-/

namespace Typings.Files

/-- The parts of a path that is cut at a slash. -/
theorem segments_slash (front rest : List Char) :
    segments (String.ofList (front ++ '/' :: rest)) =
      segments (String.ofList front) ++ segments (String.ofList rest) := by
  simp [segments, List.splitOn_append_cons_of_beq]

theorem fromUTF8?_eq_some_iff {bytes : ByteArray} {text : String} :
    String.fromUTF8? bytes = some text ↔ bytes = text.toUTF8 := by
  unfold String.fromUTF8?
  split
  next hvalid =>
    rw [Option.some.injEq]
    constructor
    · rintro rfl
      rfl
    · rintro rfl
      rfl
  next hinvalid =>
    constructor
    · intro h
      cases h
    · rintro rfl
      exact absurd text.isValidUTF8 hinvalid

/-- The text is a name that an entry of a directory can have. -/
structure IsEntryName (name : String) : Prop where
  slashless : '/' ∉ name.toList
  nonempty : name ≠ ""
  notSelf : name ≠ "."
  notParent : name ≠ ".."
  short : name.utf8ByteSize ≤ longestName

namespace IsEntryName

variable {name : String} (h : IsEntryName name)

include h

theorem segments_eq : segments name = [name] := by
  simp [segments, List.splitOn_eq_singleton h.slashless]

theorem not_absolute : isAbsolute name = false := by
  have hslashless := h.slashless
  unfold isAbsolute
  cases hchars : name.toList with
  | nil => rfl
  | cons c rest =>
      rw [hchars] at hslashless
      have hne : c ≠ '/' := fun heq => hslashless (heq ▸ List.mem_cons_self)
      simpa using hne

end IsEntryName

namespace Store

variable {s t : Store} {path : String} {location : Location}

/-! ## Ways -/

theorem walk_append (location : Location) (front rest : List String) :
    s.walk location (front ++ rest) = s.walk location front >>= fun l => s.walk l rest := by
  induction front generalizing location with
  | nil => rfl
  | cons segment front ih =>
      simp only [List.cons_append, walk]
      split
      · rfl
      · rfl
      split
      · exact ih _
      split
      · exact ih _
      split
      · rfl
      · exact ih _

/-- A name leads from a directory to a place in it, whatever is there. -/
theorem walk_name (hdirectory : s.get? location = some .directory) {name : String}
    (hname : IsEntryName name) : s.walk location [name] = .ok (location ++ [name]) := by
  simp [walk, hdirectory, hname.nonempty, hname.notSelf, hname.notParent,
    Nat.not_lt.mpr hname.short]

/-- An empty part leads nowhere else, but only a directory can have one. -/
theorem walk_empty {start : Location} :
    s.walk start [""] = .ok location ↔ start = location ∧ s.get? location = some .directory := by
  unfold walk
  constructor
  · intro hwalk
    split at hwalk
    · cases hwalk
    · cases hwalk
    next hdirectory =>
      cases hwalk
      exact ⟨rfl, hdirectory⟩
  · rintro ⟨rfl, hdirectory⟩
    rw [hdirectory]
    rfl

theorem locate_eq_ok_iff :
    s.locate path = .ok location ↔
      checkPath path = .ok () ∧ s.walk [] (segments path) = .ok location := by
  rw [locate, bind_eq_ok]
  exact ⟨fun ⟨_, hcheck, hwalk⟩ => ⟨hcheck, hwalk⟩, fun ⟨hcheck, hwalk⟩ => ⟨(), hcheck, hwalk⟩⟩

/-- Every directory stays one. -/
def KeepsDirectories (s t : Store) : Prop :=
  ∀ location, s.get? location = some .directory → t.get? location = some .directory

theorem KeepsDirectories.walk (h : KeepsDirectories s t) {start : Location}
    {parts : List String} (hwalk : s.walk start parts = .ok location) :
    t.walk start parts = .ok location := by
  induction parts generalizing start with
  | nil => exact hwalk
  | cons segment rest ih =>
      unfold Store.walk at hwalk ⊢
      split at hwalk
      · cases hwalk
      · cases hwalk
      next hdirectory =>
        simp only [h _ hdirectory]
        split at hwalk
        next hstay => rw [if_pos hstay]; exact ih hwalk
        next hgo =>
          rw [if_neg hgo]
          split at hwalk
          next hup => rw [if_pos hup]; exact ih hwalk
          next hdown =>
            rw [if_neg hdown]
            split at hwalk
            · cases hwalk
            next hshort => rw [if_neg hshort]; exact ih hwalk

theorem KeepsDirectories.locate (h : KeepsDirectories s t)
    (hlocate : s.locate path = .ok location) : t.locate path = .ok location := by
  obtain ⟨hcheck, hwalk⟩ := locate_eq_ok_iff.mp hlocate
  exact locate_eq_ok_iff.mpr ⟨hcheck, h.walk hwalk⟩

/-- A name in an existing directory leads to a place there. -/
theorem walk_join {base name : String} (hname : IsEntryName name)
    (hlocate : s.locate base = .ok location) (hdirectory : s.get? location = some .directory) :
    s.walk [] (segments (join base name)) = .ok (location ++ [name]) := by
  obtain ⟨hcheck, hwalk⟩ := locate_eq_ok_iff.mp hlocate
  have hnonempty : base.isEmpty = false := by
    unfold checkPath at hcheck
    split at hcheck
    · cases hcheck
    next hempty => simpa using hempty
  have hsegments := hname.segments_eq
  rw [join, hname.not_absolute, hnonempty]
  cases hslash : endsWithSlash base with
  | false =>
      have hjoin : base ++ "/" ++ name = String.ofList (base.toList ++ '/' :: name.toList) := by
        rw [← String.toList_inj]
        simp
      simp only [Bool.or_self, Bool.false_eq_true, if_false]
      rw [hjoin, segments_slash, String.ofList_toList, String.ofList_toList, hsegments,
        walk_append, hwalk]
      exact walk_name hdirectory hname
  | true =>
      -- The slash at the end of the directory separates the name from it.
      obtain ⟨front, hfront⟩ := List.getLast?_eq_some_iff.mp (by simpa [endsWithSlash] using hslash)
      have hbase : base = String.ofList (front ++ '/' :: []) := by
        rw [← hfront, String.ofList_toList]
      have hjoin : base ++ name = String.ofList (front ++ '/' :: name.toList) := by
        rw [← String.toList_inj]
        simp [hfront]
      rw [hbase, segments_slash, walk_append] at hwalk
      obtain ⟨start, hstart, hempty⟩ := bind_eq_ok.mp hwalk
      obtain ⟨rfl, _⟩ := walk_empty.mp hempty
      simp only [Bool.or_self, Bool.false_eq_true, if_false, if_true]
      rw [hjoin, segments_slash, String.ofList_toList, hsegments, walk_append, hstart]
      exact walk_name hdirectory hname

/-- Where a name in an existing directory leads does not depend on what else there is. -/
theorem KeepsDirectories.locate_join (h : KeepsDirectories s t) {base name : String}
    (hname : IsEntryName name) {location : Location} (hlocate : s.locate base = .ok location)
    (hdirectory : s.get? location = some .directory) :
    t.locate (join base name) = s.locate (join base name) := by
  unfold Store.locate
  rw [walk_join hname hlocate hdirectory,
    walk_join hname (h.locate hlocate) (h location hdirectory)]

/-! ## What is found -/

theorem readBytes_eq_ok_iff {content : ByteArray} :
    s.readBytes path = .ok content ↔
      ∃ location, s.locate path = .ok location ∧ s.get? location = some (.file content) := by
  rw [readBytes, bind_eq_ok]
  refine exists_congr fun location => and_congr_right fun _ => ?_
  split <;> simp_all

theorem readText_eq_ok_iff {text : String} :
    s.readText path = .ok text ↔ s.readBytes path = .ok text.toUTF8 := by
  rw [readText, bind_eq_ok]
  constructor
  · rintro ⟨bytes, hbytes, htext⟩
    split at htext
    · cases htext
    next hsome =>
      cases htext
      rw [hbytes, fromUTF8?_eq_some_iff.mp hsome]
  · intro hbytes
    exact ⟨_, hbytes, by rw [fromUTF8?_eq_some_iff.mpr rfl]⟩

theorem isDirectory_iff :
    s.isDirectory path = true ↔
      ∃ location, s.locate path = .ok location ∧ s.get? location = some .directory := by
  unfold isDirectory
  split <;> simp_all

theorem pathExists_iff :
    s.pathExists path = true ↔
      ∃ location, s.locate path = .ok location ∧ s.get? location ≠ none := by
  unfold pathExists
  split <;> simp_all [Option.isSome_iff_ne_none]

theorem pathExists_of_readText {text : String} (h : s.readText path = .ok text) :
    s.pathExists path = true := by
  obtain ⟨location, hlocate, hfile⟩ := readBytes_eq_ok_iff.mp (readText_eq_ok_iff.mp h)
  exact pathExists_iff.mpr ⟨location, hlocate, by simp [hfile]⟩

theorem KeepsDirectories.isDirectory (h : KeepsDirectories s t)
    (hdirectory : s.isDirectory path = true) : t.isDirectory path = true := by
  obtain ⟨location, hlocate, hget⟩ := isDirectory_iff.mp hdirectory
  exact isDirectory_iff.mpr ⟨location, h.locate hlocate, h location hget⟩

end Store

end Typings.Files

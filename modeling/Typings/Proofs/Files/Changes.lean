import Typings.Proofs.Files.Lookup

/-! # Changes of stores

What the operations that change a store leave behind. Making directories adds directories where
nothing was, and writing changes the one file that the path leads to.
-/

namespace Typings.Files.Store

variable {s t u : Store} {path : String} {location : Location}

/-- The root is always a directory. -/
theorem ne_root (h : s.get? location ≠ some .directory) : location ≠ [] := by
  rintro rfl
  exact h rfl

/-- Entries at other locations do not count. -/
theorem lookup_filter_ne {entries : List (Location × Entry)} {other : Location}
    (hne : other ≠ location) :
    (entries.filter (·.1 ≠ location)).lookup other = entries.lookup other := by
  induction entries with
  | nil => rfl
  | cons first rest ih =>
      obtain ⟨key, entry⟩ := first
      by_cases hkey : key = location
      · have hother : (other == key) = false := by simpa [hkey] using hne
        simp only [List.lookup_cons, hother, ← ih]
        simp [hkey]
      · rw [List.filter_cons_of_pos (by simpa using hkey), List.lookup_cons, List.lookup_cons, ih]

theorem get?_put (hlocation : location ≠ []) (entry : Entry) (other : Location) :
    (s.put location entry).get? other = if other = location then some entry else s.get? other := by
  by_cases hroot : other = []
  · subst hroot
    rw [if_neg hlocation.symm]
    rfl
  have hother : other.isEmpty = false := by simpa using hroot
  simp only [get?, put, hother, List.lookup_cons, Bool.false_eq_true, if_false]
  split
  next heq => simp [beq_iff_eq.mp heq]
  next hne =>
    rw [if_neg (by simpa using hne)]
    exact lookup_filter_ne (by simpa using hne)

/-! ## Directories -/

/-- New directories are all that has changed. -/
def Grown (s t : Store) : Prop :=
  ∀ location, t.get? location = s.get? location ∨
    s.get? location = none ∧ t.get? location = some .directory

theorem Grown.refl (s : Store) : Grown s s := fun _ => Or.inl rfl

theorem Grown.trans (hst : Grown s t) (htu : Grown t u) : Grown s u := by
  intro location
  rcases htu location with htu | ⟨hnone, hnew⟩
  · rw [htu]
    exact hst location
  · rcases hst location with hst | ⟨_, hdirectory⟩
    · exact Or.inr ⟨hst.symm.trans hnone, hnew⟩
    · rw [hdirectory] at hnone
      cases hnone

theorem Grown.keepsDirectories (h : Grown s t) : KeepsDirectories s t := by
  intro location hdirectory
  rcases h location with hsame | ⟨_, hnew⟩
  · rw [hsame, hdirectory]
  · exact hnew

/-- What is at a location, if it is a file. -/
def content? (s : Store) (location : Location) : Option ByteArray :=
  match s.get? location with
  | some (.file content) => some content
  | _ => none

/-- Every file is what and where it was. -/
def SameContents (s t : Store) : Prop := ∀ location, t.content? location = s.content? location

/-- A directory where nothing was is not the content of a file. -/
theorem content?_grown (h : t.get? location = s.get? location ∨
    s.get? location = none ∧ t.get? location = some .directory) :
    t.content? location = s.content? location := by
  rcases h with hsame | ⟨hnone, hnew⟩
  · rw [content?, hsame, content?]
  · simp [content?, hnone, hnew]

theorem Grown.sameContents (h : Grown s t) : SameContents s t := fun location =>
  content?_grown (h location)

theorem put_directory_grown (hnone : s.get? location = none) :
    Grown s (s.put location .directory) := by
  intro other
  have hlocation : location ≠ [] := ne_root (s := s) (by simp [hnone])
  rw [get?_put hlocation]
  split
  next heq => exact Or.inr ⟨heq ▸ hnone, rfl⟩
  next => exact Or.inl rfl

/-! ## Paths with slashes at their end -/

/-- Slashes at the end of the way to a directory make no difference. They are the first characters
of the reversed path. -/
theorem walk_dropSlashes (start : Location) (reversed : List Char) :
    s.walk start (segments (String.ofList reversed.reverse)) = .ok location ∧
        s.get? location = some .directory ↔
      s.walk start (segments (String.ofList (reversed.dropWhile (· == '/')).reverse)) =
          .ok location ∧
        s.get? location = some .directory := by
  induction reversed with
  | nil => rfl
  | cons c rest ih =>
      by_cases hslash : c = '/'
      · subst hslash
        rw [List.dropWhile_cons_of_pos (by rfl), ← ih, List.reverse_cons, segments_slash,
          walk_append]
        cases s.walk start (segments (String.ofList rest.reverse)) with
        | error => simp [bind, Except.bind]
        | ok front =>
            change s.walk front [""] = _ ∧ _ ↔ _
            rw [walk_empty, Except.ok.injEq, and_assoc, and_self]
      · rw [List.dropWhile_cons_of_neg (by simpa using hslash)]

theorem walk_withoutFinalSlashes (path : String) :
    s.walk [] (segments path) = .ok location ∧ s.get? location = some .directory ↔
      s.walk [] (segments (withoutFinalSlashes path).1) = .ok location ∧
        s.get? location = some .directory := by
  simpa [withoutFinalSlashes] using walk_dropSlashes [] path.toList.reverse

theorem withoutFinalSlashes_of_not_endsWithSlash (h : endsWithSlash path = false) :
    withoutFinalSlashes path = (path, false) := by
  rw [withoutFinalSlashes, h]
  unfold endsWithSlash at h
  rw [← List.head?_reverse] at h
  have hkept : path.toList.reverse.dropWhile (· == '/') = path.toList.reverse := by
    cases hreverse : path.toList.reverse with
    | nil => rfl
    | cons c rest =>
        rw [hreverse] at h
        exact List.dropWhile_cons_of_neg (by simpa using h)
  rw [hkept]
  simp

/-! ## Making directories -/

theorem makeDirectory_eq_ok (h : s.makeDirectory path = .ok t) :
    Grown s t ∧ t.isDirectory path = true := by
  obtain ⟨_, hcheck, h⟩ := bind_eq_ok.mp h
  obtain ⟨location, hwalk, h⟩ := bind_eq_ok.mp h
  split at h
  · cases h
  next hnone =>
    obtain ⟨_, _, h⟩ := bind_eq_ok.mp h
    cases h
    have hgrown := put_directory_grown hnone
    have hlocation : location ≠ [] := ne_root (s := s) (by simp [hnone])
    have hnew : (s.put location .directory).get? location = some .directory := by
      rw [get?_put hlocation, if_pos rfl]
    have hway := (walk_withoutFinalSlashes path).mpr ⟨hgrown.keepsDirectories.walk hwalk, hnew⟩
    exact ⟨hgrown, isDirectory_iff.mpr
      ⟨location, locate_eq_ok_iff.mpr ⟨hcheck, hway.1⟩, hway.2⟩⟩

/-- Where there is a directory, none is made. -/
theorem makeDirectory_of_isDirectory (h : s.isDirectory path = true) :
    s.makeDirectory path = .error .alreadyExists := by
  obtain ⟨location, hlocate, hget⟩ := isDirectory_iff.mp h
  obtain ⟨hcheck, hwalk⟩ := locate_eq_ok_iff.mp hlocate
  have hway := ((walk_withoutFinalSlashes path).mp ⟨hwalk, hget⟩).1
  simp [makeDirectory, hcheck, hway, hget, bind, Except.bind]

theorem acceptDirectory_spec {error : FileError} {result : Except FileError Unit}
    (h : s.acceptDirectory path error = (t, result)) :
    t = s ∧ (result = .ok () → s.isDirectory path = true) := by
  unfold acceptDirectory at h
  split at h
  next hdirectory =>
    cases h
    exact ⟨rfl, fun _ => hdirectory⟩
  next =>
    cases h
    exact ⟨rfl, fun hok => by cases hok⟩

/-- The attempt to make a directory and its parents makes directories and nothing else, and if it
succeeds there is one at the path. -/
theorem makeDirectoriesWithin_spec {limit : Nat} {result : Except FileError Unit}
    (h : makeDirectoriesWithin limit s path = (t, result)) :
    Grown s t ∧ (result = .ok () → path.isEmpty = false → t.isDirectory path = true) := by
  induction limit generalizing s t path result with
  | zero =>
      cases h
      exact ⟨Grown.refl s, fun hok => by cases hok⟩
  | succ limit ih =>
      unfold makeDirectoriesWithin at h
      split at h
      next hempty =>
        cases h
        exact ⟨Grown.refl s, fun _ hnonempty => by simp [hempty] at hnonempty⟩
      split at h
      next hmade =>
        cases h
        obtain ⟨hgrown, hdirectory⟩ := makeDirectory_eq_ok hmade
        exact ⟨hgrown, fun _ _ => hdirectory⟩
      · split at h
        · cases h
          exact ⟨Grown.refl s, fun hok => by cases hok⟩
        split at h
        next hparents =>
          cases h
          exact ⟨(ih hparents).1, fun hok => by cases hok⟩
        next hparents =>
          have hgrown := (ih hparents).1
          split at h
          next hmade =>
            cases h
            obtain ⟨hmore, hdirectory⟩ := makeDirectory_eq_ok hmade
            exact ⟨hgrown.trans hmore, fun _ _ => hdirectory⟩
          · obtain ⟨rfl, haccepted⟩ := acceptDirectory_spec h
            exact ⟨hgrown, fun hok _ => haccepted hok⟩
      · obtain ⟨rfl, haccepted⟩ := acceptDirectory_spec h
        exact ⟨Grown.refl _, fun hok _ => haccepted hok⟩

theorem makeDirectories_of_isDirectory (h : s.isDirectory path = true) :
    s.makeDirectories path = (s, .ok ()) := by
  unfold makeDirectories makeDirectoriesWithin
  rw [makeDirectory_of_isDirectory h]
  simp [acceptDirectory, h]

/-! ## Writing -/

/-- One store comes from another by putting a file at a location. What was there before, if
anything, was a file, and elsewhere only directories are new. -/
structure PutAt (s t : Store) (location : Location) (content : ByteArray) : Prop where
  there : t.get? location = some (.file content)
  free : s.get? location ≠ some .directory
  elsewhere : ∀ other ≠ location, t.get? other = s.get? other ∨
    s.get? other = none ∧ t.get? other = some .directory

theorem put_putAt (hfree : s.get? location ≠ some .directory) (content : ByteArray) :
    PutAt s (s.put location (.file content)) location content where
  there := by rw [get?_put (ne_root hfree), if_pos rfl]
  free := hfree
  elsewhere := by
    intro other hother
    rw [get?_put (ne_root hfree), if_neg hother]
    exact Or.inl rfl

/-- A file in place of another file leaves the directories as they are. -/
theorem put_keepsDirectories {old : ByteArray} (hfile : s.get? location = some (.file old))
    (content : ByteArray) : KeepsDirectories (s.put location (.file content)) s := by
  intro other hdirectory
  rw [get?_put (ne_root (s := s) (by simp [hfile]))] at hdirectory
  split at hdirectory
  · cases hdirectory
  · exact hdirectory

theorem PutAt.of_grown {content : ByteArray} (hgrown : Grown s t)
    (hput : PutAt t u location content) : PutAt s u location content where
  there := hput.there
  free := by
    intro hdirectory
    exact hput.free (hgrown.keepsDirectories location hdirectory)
  elsewhere := by
    intro other hother
    rcases hput.elsewhere other hother with hsame | ⟨hnone, hnew⟩
    · rw [hsame]
      exact hgrown other
    · rcases hgrown other with hsame | ⟨_, hdirectory⟩
      · exact Or.inr ⟨hsame.symm.trans hnone, hnew⟩
      · rw [hdirectory] at hnone
        cases hnone

theorem PutAt.keepsDirectories {content : ByteArray} (h : PutAt s t location content) :
    KeepsDirectories s t := by
  intro other hdirectory
  by_cases hother : other = location
  · exact absurd (hother ▸ hdirectory) h.free
  rcases h.elsewhere other hother with hsame | ⟨_, hnew⟩
  · rw [hsame, hdirectory]
  · exact hnew

/-- A text is read as before wherever the path does not lead to the file that was put. -/
theorem PutAt.readText {content : ByteArray} (h : PutAt s t location content)
    (hapart : t.locate path ≠ .ok location) {text : String} (hread : s.readText path = .ok text) :
    t.readText path = .ok text := by
  rw [readText_eq_ok_iff, readBytes_eq_ok_iff] at hread ⊢
  obtain ⟨found, hlocate, hfile⟩ := hread
  have hkept := h.keepsDirectories.locate hlocate
  refine ⟨found, hkept, ?_⟩
  rcases h.elsewhere found (fun heq => hapart (heq ▸ hkept)) with hsame | ⟨hnone, _⟩
  · rw [hsame, hfile]
  · rw [hnone] at hfile
    cases hfile

/-- Where nothing was, nothing is, unless the file was put there or a directory was made there. -/
theorem PutAt.not_pathExists {content : ByteArray} (h : PutAt s t location content)
    (hplace : t.locate path = s.locate path) (hapart : t.locate path ≠ .ok location)
    (hdirectory : t.isDirectory path = false) (hnothing : s.pathExists path = false) :
    t.pathExists path = false := by
  rw [← Bool.not_eq_true, pathExists_iff] at hnothing ⊢
  rintro ⟨found, hlocate, hthere⟩
  rcases h.elsewhere found (fun heq => hapart (heq ▸ hlocate)) with hsame | ⟨_, hnew⟩
  · exact hnothing ⟨found, hplace ▸ hlocate, hsame ▸ hthere⟩
  · have hmade := isDirectory_iff.mpr ⟨found, hlocate, hnew⟩
    rw [hdirectory] at hmade
    cases hmade

/-- A path that is written leads to a place where no directory is. -/
theorem write_eq_ok {content : ByteArray} (h : s.write path content = .ok t) :
    endsWithSlash path = false ∧ ∃ location, s.locate path = .ok location ∧
      s.get? location ≠ some .directory ∧ t = s.put location (.file content) := by
  obtain ⟨_, hcheck, h⟩ := bind_eq_ok.mp h
  cases hslash : endsWithSlash path with
  | true =>
      simp only [withoutFinalSlashes, hslash, if_true] at h
      obtain ⟨_, _, h⟩ := bind_eq_ok.mp h
      obtain ⟨_, _, h⟩ := bind_eq_ok.mp h
      cases h
  | false =>
      rw [withoutFinalSlashes_of_not_endsWithSlash hslash] at h
      obtain ⟨location, hwalk, h⟩ := bind_eq_ok.mp h
      refine ⟨rfl, location, locate_eq_ok_iff.mpr ⟨hcheck, hwalk⟩, ?_⟩
      split at h
      · cases h
      next hfile =>
        cases h
        exact ⟨by simp [hfile], rfl⟩
      next hnone =>
        obtain ⟨_, _, h⟩ := bind_eq_ok.mp h
        cases h
        exact ⟨by simp [hnone], rfl⟩

/-- A file can be written again. -/
theorem write_file {old content : ByteArray} (hslash : endsWithSlash path = false)
    (hlocate : s.locate path = .ok location) (hfile : s.get? location = some (.file old)) :
    s.write path content = .ok (s.put location (.file content)) := by
  obtain ⟨hcheck, hwalk⟩ := locate_eq_ok_iff.mp hlocate
  simp [write, hcheck, withoutFinalSlashes_of_not_endsWithSlash hslash, hwalk, hfile, bind,
    Except.bind, pure, Except.pure]

end Typings.Files.Store

import Mathlib.Algebra.Order.BigOperators.Group.List
import Mathlib.Algebra.Order.Group.Nat
import Typings.Naming
import Typings.Proofs.Spelling

/-! # Characters of type names

A type name consists of the characters of its documented name, apart from underscores, where the
first character of every segment is in uppercase form. No uppercase form holds an underscore, so
none is left in a type name, and the uppercase forms of ASCII letters and digits are ASCII letters
and digits.
-/

namespace Typings

open Text

/-! ## Uppercase forms -/

/-- What holds of the first 128 characters, one by one, holds of every ASCII character. -/
theorem forall_ascii {p : Char → Prop} (h : ∀ n < 128, p (Char.ofNat n)) {c : Char}
    (hc : c.toNat < 128) : p c := by
  have hchar := h c.toNat hc
  rwa [Char.ofNat_toNat] at hchar

theorem isIdentifierRest_ascii {c : Char} (hc : isIdentifierRest c = true) : c.toNat < 128 :=
  Nat.lt_of_le_of_lt (isWordChar_visible (by simp [isWordChar, hc])).2 (by decide)

theorem isIdentifierRest_of_lower_or_digit {c : Char} (hc : c.isLower = true ∨ c.isDigit = true) :
    isIdentifierRest c = true := by
  unfold isIdentifierRest Char.isAlphanum Char.isAlpha
  grind

/-- The uppercase form of a lowercase ASCII letter is the uppercase ASCII letter. -/
theorem uppercase_of_isLower {c : Char} (hc : c.isLower = true) :
    uppercase c = [c.toUpper] ∧ c.toUpper.isUpper = true ∧ c.toUpper.toLower = c := by
  have hascii := isIdentifierRest_ascii (isIdentifierRest_of_lower_or_digit (.inl hc))
  exact forall_ascii (p := fun c => c.isLower = true →
      uppercase c = [c.toUpper] ∧ c.toUpper.isUpper = true ∧ c.toUpper.toLower = c)
    (by decide +kernel) hascii hc

/-- A code that gives another character than the null character is the code of that one. -/
theorem eq_toNat_of_ofNat_eq {n : Nat} {c : Char} (h : Char.ofNat n = c) (hc : c ≠ '\x00') :
    n = c.toNat := by
  by_cases hvalid : n.isValidChar
  · rw [← h, Char.ofNat, dif_pos hvalid]
    rfl
  · rw [Char.ofNat, dif_neg hvalid] at h
    exact absurd h.symm hc

/-- An uppercase form is an expansion, a character that a run leads to, or the character itself. -/
theorem uppercase_cases (c : Char) :
    (∃ entry ∈ uppercaseExpansions,
      entry.1 = c.toNat ∧ uppercase c = entry.2.map Char.ofNat) ∨
    (∃ run ∈ uppercaseRuns,
      run.covers c.toNat = true ∧ uppercase c = [Char.ofNat (c.toNat + run.shift).toNat]) ∨
    uppercase c = [c] := by
  unfold uppercase
  split
  next expansion hlookup =>
    obtain ⟨before, after, hentries, _⟩ := List.lookup_eq_some_iff.mp hlookup
    exact .inl ⟨(c.toNat, expansion), by simp [hentries], rfl, rfl⟩
  next =>
    split
    next run hfind =>
      have hcovers := List.find?_some hfind
      exact .inr (.inl ⟨run, List.mem_of_find?_eq_some hfind, hcovers, rfl⟩)
    next => exact .inr (.inr rfl)

/-- The characters before the lowercase letters are their own uppercase forms. -/
theorem uppercase_of_lt {c : Char} (hc : c.toNat < 97) : uppercase c = [c] := by
  have hexpansions : ∀ entry ∈ uppercaseExpansions, 97 ≤ entry.1 := by decide
  have hruns : ∀ run ∈ uppercaseRuns, 97 ≤ run.first := by decide +kernel
  obtain ⟨entry, hentry, hcode, _⟩ | ⟨run, hrun, hcovers, _⟩ | hsame := uppercase_cases c
  · have hcased := hexpansions entry hentry
    omega
  · have hcased := hruns run hrun
    simp only [CaseRun.covers, Bool.and_eq_true, decide_eq_true_eq] at hcovers
    omega
  · exact hsame

theorem isIdentifierRest_uppercase {c : Char} (hc : isIdentifierRest c = true) :
    ∀ d ∈ uppercase c, isIdentifierRest d = true := by
  have hcases := forall_ascii (p := fun c => isIdentifierRest c = true →
    c.isLower = true ∨ c.toNat < 97) (by decide) (isIdentifierRest_ascii hc) hc
  obtain hlower | hcode := hcases
  · obtain ⟨hform, hupper, _⟩ := uppercase_of_isLower hlower
    rw [hform, List.forall_mem_singleton]
    unfold isIdentifierRest Char.isAlphanum Char.isAlpha
    simp [hupper]
  · simpa [uppercase_of_lt hcode] using hc

/-- Only the underscore has an underscore in its uppercase form. -/
theorem eq_underscore_of_mem_uppercase {c : Char} (hmem : '_' ∈ uppercase c) : c = '_' := by
  have hexpansions : ∀ entry ∈ uppercaseExpansions, '_' ∉ entry.2.map Char.ofNat := by decide
  -- The one character that a run could take to the underscore is not in the run.
  have hruns : ∀ run ∈ uppercaseRuns, run.covers (95 - run.shift).toNat = false := by
    decide +kernel
  obtain ⟨entry, hentry, _, heq⟩ | ⟨run, hrun, hcovers, heq⟩ | heq := uppercase_cases c
  · exact absurd (heq ▸ hmem) (hexpansions entry hentry)
  · rw [heq] at hmem
    have hcode : (c.toNat + run.shift).toNat = 95 :=
      eq_toNat_of_ofNat_eq (List.mem_singleton.mp hmem).symm (by decide)
    have hpreimage : (95 - run.shift).toNat = c.toNat := by omega
    rw [← hpreimage, hruns run hrun] at hcovers
    cases hcovers
  · rw [heq] at hmem
    exact (List.mem_singleton.mp hmem).symm

theorem uppercase_ne_nil (c : Char) : uppercase c ≠ [] := by
  have hexpansions : ∀ entry ∈ uppercaseExpansions, entry.2 ≠ [] := by decide
  obtain ⟨entry, hentry, _, heq⟩ | ⟨run, _, _, heq⟩ | heq := uppercase_cases c
  · rw [heq]
    simpa using hexpansions entry hentry
  · simp [heq]
  · simp [heq]

/-! ## Names -/

/-- The segments of a name consist of its characters apart from the underscores. -/
theorem flatten_segments (cs : List Char) : (cs.splitOn '_').flatten = cs.filter (· ≠ '_') := by
  induction cs with
  | nil => simp
  | cons c cs ih =>
      rw [List.splitOn_cons_eq_if_modifyHead, List.filter_cons, ← ih]
      by_cases hc : c = '_'
      · simp [hc]
      · obtain ⟨first, rest, hsplit⟩ := List.exists_cons_of_ne_nil (List.splitOn_ne_nil '_' cs)
        simp [hc, hsplit]

theorem mem_segment_iff {cs : List Char} {c : Char} :
    (∃ segment ∈ cs.splitOn '_', c ∈ segment) ↔ c ∈ cs ∧ c ≠ '_' := by
  rw [← List.mem_flatten, flatten_segments]
  simp

theorem mem_capitalize {segment : List Char} {c : Char} (hc : c ∈ capitalize segment) :
    ∃ d ∈ segment, c = d ∨ c ∈ uppercase d := by
  cases segment with
  | nil => cases hc
  | cons d rest =>
      rcases List.mem_append.mp hc with hc | hc
      · exact ⟨d, List.mem_cons_self, .inr hc⟩
      · exact ⟨c, List.mem_cons_of_mem d hc, .inl rfl⟩

theorem typeName_toList (documented : String) :
    (typeName documented).toList = (documented.toList.splitOn '_').flatMap capitalize :=
  String.toList_ofList

/-- A character of a type name is one of the documented name, or belongs to its uppercase form. -/
theorem mem_typeName {documented : String} {c : Char} (hc : c ∈ (typeName documented).toList) :
    ∃ d ∈ documented.toList, d ≠ '_' ∧ (c = d ∨ c ∈ uppercase d) := by
  rw [typeName_toList] at hc
  obtain ⟨segment, hsegment, hc⟩ := List.mem_flatMap.mp hc
  obtain ⟨d, hd, hform⟩ := mem_capitalize hc
  obtain ⟨hmem, hne⟩ := mem_segment_iff.mp ⟨segment, hsegment, hd⟩
  exact ⟨d, hmem, hne, hform⟩

theorem underscore_notMem_typeName (documented : String) :
    '_' ∉ (typeName documented).toList := by
  intro hmem
  obtain ⟨d, _, hne, rfl | hupper⟩ := mem_typeName hmem
  · exact hne rfl
  · exact hne (eq_underscore_of_mem_uppercase hupper)

/-- The type name of a name over the characters of identifiers is a name over these, too. -/
theorem isIdentifierRest_typeName {documented : String}
    (hchars : ∀ c ∈ documented.toList, isIdentifierRest c = true) :
    ∀ c ∈ (typeName documented).toList, isIdentifierRest c = true := by
  intro c hc
  obtain ⟨d, hd, _, rfl | hupper⟩ := mem_typeName hc
  · exact hchars c hd
  · exact isIdentifierRest_uppercase (hchars d hd) c hupper

theorem length_le_capitalize (segment : List Char) :
    segment.length ≤ (capitalize segment).length := by
  cases segment with
  | nil => rfl
  | cons c rest =>
      have hfirst := List.length_pos_iff.mpr (uppercase_ne_nil c)
      rw [capitalize, List.length_append, List.length_cons]
      omega

/-- A type name is no shorter than its documented name without the underscores. -/
theorem length_le_typeName (documented : String) :
    documented.toList.length ≤
      (typeName documented).toList.length + documented.toList.count '_' := by
  have hsegments : (documented.toList.splitOn '_').flatten.length ≤
      (typeName documented).toList.length := by
    rw [typeName_toList, List.length_flatten, List.length_flatMap]
    exact List.sum_le_sum fun segment _ => length_le_capitalize segment
  simp only [flatten_segments, ← List.countP_eq_length_filter, ne_eq] at hsegments
  have hunderscores : documented.toList.count '_' = documented.toList.countP (· = '_') :=
    List.countP_congr fun c _ => by simp
  have hchars := List.length_eq_countP_add_countP (· = '_') (l := documented.toList)
  simp only [decide_eq_true_eq] at hchars
  omega

end Typings

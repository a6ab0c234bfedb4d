import Mathlib.Data.List.Sort
import Mathlib.Data.String.Basic
import Typings.Context

/-! # Sorted texts

The list of the distinct texts of another list is strictly increasing and has the same members, so
it does not depend on the order or the number of their occurrences.
-/

namespace Typings

theorem mem_insertText {s t : String} {texts : List String} :
    t ∈ insertText s texts ↔ t = s ∨ t ∈ texts := by
  induction texts with
  | nil => simp [insertText]
  | cons head rest ih =>
      unfold insertText
      split
      · simp
      split
      next _ heq =>
        subst heq
        simp
      next _ _ =>
        rw [List.mem_cons, ih, List.mem_cons]
        tauto

/-- Insertion keeps a list strictly increasing. -/
theorem insertText_increasing {s : String} {texts : List String}
    (hsorted : texts.Pairwise (· < ·)) : (insertText s texts).Pairwise (· < ·) := by
  induction texts with
  | nil => simp [insertText]
  | cons head rest ih =>
      obtain ⟨hhead, hrest⟩ := List.pairwise_cons.mp hsorted
      unfold insertText
      split
      next hlt =>
        refine List.pairwise_cons.mpr ⟨?_, hsorted⟩
        intro t ht
        rcases List.mem_cons.mp ht with rfl | ht
        · exact hlt
        · exact lt_trans hlt (hhead t ht)
      split
      next _ _ => exact hsorted
      next hnot hne =>
        refine List.pairwise_cons.mpr ⟨?_, ih hrest⟩
        intro t ht
        rcases mem_insertText.mp ht with rfl | ht
        · exact lt_of_le_of_ne (not_lt.mp hnot) (Ne.symm hne)
        · exact hhead t ht

theorem mem_sortedTexts {t : String} {texts : List String} :
    t ∈ sortedTexts texts ↔ t ∈ texts := by
  induction texts with
  | nil => simp [sortedTexts]
  | cons head rest ih =>
      change t ∈ insertText head (sortedTexts rest) ↔ _
      rw [mem_insertText, ih, List.mem_cons]

theorem sortedTexts_increasing (texts : List String) :
    (sortedTexts texts).Pairwise (· < ·) := by
  induction texts with
  | nil => simp [sortedTexts]
  | cons head rest ih => exact insertText_increasing ih

/-- Lists with the same texts have the same distinct texts in increasing order. -/
theorem sortedTexts_congr {first second : List String} (h : ∀ t, t ∈ first ↔ t ∈ second) :
    sortedTexts first = sortedTexts second := by
  refine (sortedTexts_increasing first).eq_of_mem_iff (sortedTexts_increasing second) fun t => ?_
  rw [mem_sortedTexts, mem_sortedTexts, h]

/-- In a strictly increasing list, what stands before an entry is what is smaller. -/
theorem mem_before_iff {before after : List String} {s t : String}
    (hsorted : (before ++ t :: after).Pairwise (· < ·)) :
    s ∈ before ↔ s ∈ before ++ t :: after ∧ s < t := by
  obtain ⟨_, htail, hcross⟩ := List.pairwise_append.mp hsorted
  constructor
  · intro hs
    exact ⟨List.mem_append_left _ hs, hcross s hs t List.mem_cons_self⟩
  · rintro ⟨hs, hlt⟩
    rcases List.mem_append.mp hs with hs | hs
    · exact hs
    rcases List.mem_cons.mp hs with rfl | hs
    · exact absurd hlt (lt_irrefl _)
    · exact absurd hlt (lt_asymm ((List.pairwise_cons.mp htail).1 s hs))

end Typings

import Typings.Declaration.Basic

/-! # Tallies of markers

How often each marker occurs. A tally has an entry for every marker that was counted and for no
other marker. The entries stand in the order in which a file declares the markers, so the counts
determine the tally.
-/

namespace Typings

/-- The place of the marker in the order of the preamble. -/
def Marker.rank : Marker → Nat
  | untyped => 0
  | missingData => 1
  | unmapped => 2

theorem Marker.rank_injective {m k : Marker} (h : m.rank = k.rank) : m = k := by
  cases m <;> cases k <;> first | rfl | cases h

/-- No marker has two entries, and they stand in the order of the markers. -/
def EntriesOrdered (entries : List (Marker × Nat)) : Prop :=
  entries.Pairwise fun a b => a.1.rank < b.1.rank

/-- The entries with the marker counted once more. -/
def countIn (m : Marker) : List (Marker × Nat) → List (Marker × Nat)
  | [] => [(m, 1)]
  | (k, n) :: rest =>
    if m = k then (k, n + 1) :: rest
    else if m.rank < k.rank then (m, 1) :: (k, n) :: rest
    else (k, n) :: countIn m rest

theorem mem_countIn {m : Marker} {entries : List (Marker × Nat)} {entry : Marker × Nat}
    (h : entry ∈ countIn m entries) : (entry.1 = m ∧ 0 < entry.2) ∨ entry ∈ entries := by
  induction entries with
  | nil =>
      rw [List.mem_singleton.mp h]
      exact Or.inl ⟨rfl, Nat.one_pos⟩
  | cons first rest ih =>
      unfold countIn at h
      split at h
      next heq =>
        rcases List.mem_cons.mp h with rfl | h
        · exact Or.inl ⟨heq.symm, Nat.succ_pos _⟩
        · exact Or.inr (List.mem_cons_of_mem _ h)
      split at h
      next _ _ =>
        rcases List.mem_cons.mp h with rfl | h
        · exact Or.inl ⟨rfl, Nat.one_pos⟩
        · exact Or.inr h
      next _ _ =>
        rcases List.mem_cons.mp h with rfl | h
        · exact Or.inr List.mem_cons_self
        · exact (ih h).imp id (List.mem_cons_of_mem _)

theorem countIn_ordered {m : Marker} {entries : List (Marker × Nat)} (h : EntriesOrdered entries) :
    EntriesOrdered (countIn m entries) := by
  induction entries with
  | nil => exact List.pairwise_singleton _ _
  | cons first rest ih =>
      obtain ⟨hfirst, hrest⟩ := List.pairwise_cons.mp h
      unfold countIn
      split
      next _ => exact List.pairwise_cons.mpr ⟨hfirst, hrest⟩
      split
      next _ hlt =>
        refine List.pairwise_cons.mpr ⟨fun entry hentry => ?_, h⟩
        rcases List.mem_cons.mp hentry with rfl | hentry
        · exact hlt
        · exact Nat.lt_trans hlt (hfirst entry hentry)
      next hne hnot =>
        refine List.pairwise_cons.mpr ⟨fun entry hentry => ?_, ih hrest⟩
        rcases mem_countIn hentry with ⟨hm, _⟩ | hentry
        · rw [hm]
          exact Nat.lt_of_le_of_ne (Nat.not_lt.mp hnot)
            fun heq => hne (Marker.rank_injective heq.symm)
        · exact hfirst entry hentry

theorem lookup_entry (m k : Marker) (n : Nat) (rest : List (Marker × Nat)) :
    ((k, n) :: rest).lookup m = if m = k then some n else rest.lookup m := by
  rw [List.lookup_cons]
  by_cases h : m = k
  · rw [if_pos h, beq_iff_eq.mpr h]
  · rw [if_neg h, beq_eq_false_iff_ne.mpr h]

/-- A marker before all entries has none. -/
theorem lookup_before {m : Marker} {entries : List (Marker × Nat)}
    (h : ∀ entry ∈ entries, m.rank < entry.1.rank) : entries.lookup m = none := by
  refine List.lookup_eq_none_iff.mpr fun entry hentry => ?_
  have hne : m ≠ entry.1 := fun heq => Nat.lt_irrefl _ (heq ▸ h entry hentry)
  simpa using hne

theorem lookup_countIn {entries : List (Marker × Nat)} (h : EntriesOrdered entries)
    (m k : Marker) :
    (countIn m entries).lookup k =
      if k = m then some ((entries.lookup m).getD 0 + 1) else entries.lookup k := by
  induction entries with
  | nil =>
      rw [countIn, lookup_entry, List.lookup_nil, List.lookup_nil]
      rfl
  | cons first rest ih =>
      obtain ⟨hfirst, hrest⟩ := List.pairwise_cons.mp h
      obtain ⟨j, n⟩ := first
      unfold countIn
      split
      next heq =>
        subst heq
        simp only [lookup_entry, if_true, Option.getD_some]
        split <;> rfl
      split
      next hne hlt =>
        have hnone : rest.lookup m = none :=
          lookup_before fun entry hentry => Nat.lt_trans hlt (hfirst entry hentry)
        rw [lookup_entry, lookup_entry m j, if_neg hne, hnone]
        rfl
      next hne _ =>
        rw [lookup_entry, lookup_entry m j, lookup_entry k j, if_neg hne, ih hrest]
        by_cases hk : k = m
        · rw [if_pos hk, if_pos hk, if_neg (hk ▸ hne)]
        · rw [if_neg hk, if_neg hk]

theorem lookup_eq_some_iff {entries : List (Marker × Nat)} (h : EntriesOrdered entries)
    {m : Marker} {n : Nat} :
    entries.lookup m = some n ↔ (m, n) ∈ entries := by
  induction entries with
  | nil => simp
  | cons first rest ih =>
      obtain ⟨hfirst, hrest⟩ := List.pairwise_cons.mp h
      obtain ⟨k, j⟩ := first
      rw [lookup_entry, List.mem_cons, Prod.mk.injEq]
      split
      next heq =>
        subst heq
        have hnone : (m, n) ∉ rest := fun hmem => Nat.lt_irrefl _ (hfirst (m, n) hmem)
        simp [hnone, eq_comm]
      next hne => simp [hne, ih hrest]

/-- How often each marker was counted. -/
structure Tally where
  entries : List (Marker × Nat)
  ordered : EntriesOrdered entries
  positive : ∀ entry ∈ entries, 0 < entry.2
  deriving DecidableEq, Repr

namespace Tally

/-- The tally before anything is counted. -/
def empty : Tally := ⟨[], .nil, fun _ hentry => nomatch hentry⟩

/-- The number of times that the marker was counted. -/
def count (t : Tally) (m : Marker) : Nat := (t.entries.lookup m).getD 0

/-- The tally with the marker counted once more. -/
def add (t : Tally) (m : Marker) : Tally where
  entries := countIn m t.entries
  ordered := countIn_ordered t.ordered
  positive := fun _ hentry => (mem_countIn hentry).elim (·.2) (t.positive _)

/-- The tally with all markers of a list counted in. -/
def addAll (t : Tally) (ms : List Marker) : Tally := ms.foldl add t

@[simp] theorem count_empty (m : Marker) : empty.count m = 0 := rfl

theorem count_add (t : Tally) (m k : Marker) :
    (t.add m).count k = t.count k + if k = m then 1 else 0 := by
  simp only [count, add, lookup_countIn t.ordered]
  by_cases hk : k = m <;> simp [hk]

theorem count_addAll (t : Tally) (ms : List Marker) (m : Marker) :
    (t.addAll ms).count m = t.count m + ms.count m := by
  induction ms generalizing t with
  | nil => rfl
  | cons k ms ih =>
      rw [addAll, List.foldl_cons, ← addAll, ih, count_add, List.count_cons]
      by_cases hk : k = m
      · simp [hk]
        omega
      · simp [hk, Ne.symm hk]

/-- A marker has an entry exactly when it was counted, and the entry holds its count. -/
theorem mem_entries_iff (t : Tally) {m : Marker} {n : Nat} :
    (m, n) ∈ t.entries ↔ 0 < n ∧ t.count m = n := by
  rw [← lookup_eq_some_iff t.ordered, count]
  constructor
  · intro hlookup
    refine ⟨t.positive _ ((lookup_eq_some_iff t.ordered).mp hlookup), ?_⟩
    rw [hlookup, Option.getD_some]
  · rintro ⟨hpositive, hcount⟩
    cases hlookup : t.entries.lookup m with
    | none =>
        rw [hlookup, Option.getD_none] at hcount
        exact absurd hpositive (hcount ▸ Nat.lt_irrefl _)
    | some k =>
        rw [hlookup, Option.getD_some] at hcount
        rw [hcount]

end Tally

example : (Tally.empty.addAll [.unmapped, .untyped, .unmapped]).entries =
    [(.untyped, 1), (.unmapped, 2)] := by decide

end Typings

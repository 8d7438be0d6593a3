import Mathlib.Data.List.Sort

/-!
# Stable sorts in another order

A list that is sorted stably by one relation is in the order of a second one exactly when the two
agree on every pair, where pairs that the first relation does not separate keep their places.
-/

namespace Codemem

variable {α : Type*}

lemma pair_sublist_or {l : List α} {a b : α} (hne : a ≠ b) (ha : a ∈ l) (hb : b ∈ l) :
    [a, b].Sublist l ∨ [b, a].Sublist l := by
  induction l with
  | nil => exact absurd ha List.not_mem_nil
  | cons c l ih =>
    rcases List.mem_cons.mp ha with rfl | ha'
    · have hb' := (List.mem_cons.mp hb).resolve_left hne.symm
      exact .inl ((List.singleton_sublist.mpr hb').cons_cons a)
    · rcases List.mem_cons.mp hb with rfl | hb'
      · exact .inr ((List.singleton_sublist.mpr ha').cons_cons b)
      · exact (ih ha' hb').imp (fun h => h.cons c) fun h => h.cons c

lemma not_pair_sublist_swap {l : List α} (hnodup : l.Nodup) {a b : α} (h : [a, b].Sublist l) :
    ¬[b, a].Sublist l := by
  induction l with
  | nil => exact absurd (List.eq_nil_of_sublist_nil h) (List.cons_ne_nil _ _)
  | cons c l ih =>
    obtain ⟨hnot, hrest⟩ := List.nodup_cons.mp hnodup
    intro hswap
    cases h with
    | cons _ h =>
      cases hswap with
      | cons _ hswap => exact ih hrest h hswap
      | cons_cons _ hswap => exact hnot (h.subset (by simp))
    | cons_cons _ h =>
      cases hswap with
      | cons _ hswap => exact hnot (hswap.subset (by simp))
      | cons_cons _ hswap => exact hnot (List.singleton_sublist.mp h)

variable {r s : α → α → Prop} [DecidableRel r]

/-- A stable sort by `r` is in the order `s` exactly when every pair in the order `s` is strictly in
the order `r`, or is not separated by `r` and stood in the list in the order `s`. -/
theorem pairwise_insertionSort_iff [Std.Total r] [IsTrans α r] {l : List α} (hnodup : l.Nodup)
    (hasymm : ∀ a b, s a b → ¬s b a)
    (hconnected : ∀ a ∈ l, ∀ b ∈ l, a ≠ b → s a b ∨ s b a) :
    (l.insertionSort r).Pairwise s ↔
      ∀ a ∈ l, ∀ b ∈ l, s a b → r a b ∧ (r b a → [a, b].Sublist l) := by
  have hperm := List.perm_insertionSort r l
  have hsorted := List.pairwise_insertionSort r l
  rw [List.pairwise_iff_forall_sublist] at hsorted ⊢
  constructor
  · intro hs a ha b hb hab
    have hne : a ≠ b := by
      rintro rfl
      exact hasymm a a hab hab
    -- in the sorted list the pair stands in the order `s`
    have hpair : [a, b].Sublist (l.insertionSort r) := by
      rcases pair_sublist_or hne (hperm.mem_iff.mpr ha) (hperm.mem_iff.mpr hb) with h | h
      · exact h
      · exact absurd (hs h) (hasymm a b hab)
    refine ⟨hsorted hpair, fun hba => ?_⟩
    rcases pair_sublist_or hne ha hb with h | h
    · exact h
    · exact absurd (List.pair_sublist_insertionSort hba h)
        (not_pair_sublist_swap (hperm.nodup_iff.mpr hnodup) hpair)
  · intro hagree a b hpair
    have hnodupSorted := hperm.nodup_iff.mpr hnodup
    have hne : a ≠ b := by
      rintro rfl
      exact not_pair_sublist_swap hnodupSorted hpair hpair
    have ha := hperm.mem_iff.mp (hpair.subset (by simp : a ∈ [a, b]))
    have hb := hperm.mem_iff.mp (hpair.subset (by simp : b ∈ [a, b]))
    by_contra hnot
    obtain ⟨hba, hplace⟩ := hagree b hb a ha ((hconnected a ha b hb hne).resolve_left hnot)
    exact not_pair_sublist_swap hnodupSorted hpair
      (List.pair_sublist_insertionSort hba (hplace (hsorted hpair)))

end Codemem

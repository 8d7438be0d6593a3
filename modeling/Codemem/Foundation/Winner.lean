import Mathlib

/-!
# The winner of a group

A reader that keeps one entry of a group and lets a later entry take its place ends with an entry
that depends on the order, unless one entry beats all others: then every order ends with it.
-/

namespace Codemem

variable {α β : Type*} {takes : α → α → Bool} {beats : α → α → Prop} {group : List α}

/-- The entry kept after one more entry. -/
def pick (takes : α → α → Bool) (kept : Option α) (a : α) : Option α :=
  some (match kept with
    | none => a
    | some b => if takes a b then a else b)

/-- The entry beats all others of the group. -/
structure IsWinner (beats : α → α → Prop) (group : List α) (winner : α) : Prop where
  mem : winner ∈ group
  beats : ∀ a ∈ group, a ≠ winner → beats winner a

/-- An entry takes the place of the entries that it beats, and keeps its own against them. -/
def Respects (takes : α → α → Bool) (beats : α → α → Prop) : Prop :=
  ∀ a b, beats a b → takes a b = true ∧ takes b a = false

lemma foldl_pick_mem {kept : Option α} {a : α} (h : group.foldl (pick takes) kept = some a) :
    kept = some a ∨ a ∈ group := by
  induction group generalizing kept with
  | nil => exact .inl h
  | cons b group ih =>
    rw [List.foldl_cons] at h
    rcases ih h with hkept | hmem
    · unfold pick at hkept
      rcases kept with _ | c
      · exact .inr (List.mem_cons.mpr (.inl (Option.some.inj hkept).symm))
      · dsimp only at hkept
        split_ifs at hkept
        · exact .inr (List.mem_cons.mpr (.inl (Option.some.inj hkept).symm))
        · exact .inl hkept
    · exact .inr (List.mem_cons_of_mem _ hmem)

lemma foldl_pick_isSome (h : group ≠ []) : ∃ a, group.foldl (pick takes) none = some a := by
  have hkept : ∀ (entries : List α) (b : α), ∃ a, entries.foldl (pick takes) (some b) = some a := by
    intro entries
    induction entries with
    | nil => exact fun b => ⟨b, rfl⟩
    | cons c entries ih =>
      intro b
      rw [List.foldl_cons]
      exact ih _
  obtain ⟨b, entries, rfl⟩ := List.exists_cons_of_ne_nil h
  exact hkept entries b

lemma foldl_pick_winner (hrespects : Respects takes beats) {winner : α}
    (h : ∀ a ∈ group, a ≠ winner → beats winner a) :
    group.foldl (pick takes) (some winner) = some winner := by
  induction group with
  | nil => rfl
  | cons a group ih =>
    have hstep : pick takes (some winner) a = some winner := by
      unfold pick
      dsimp only
      split_ifs with htakes
      · by_cases ha : a = winner
        · rw [ha]
        · have hloses := (hrespects winner a (h a List.mem_cons_self ha)).2
          rw [hloses] at htakes
          cases htakes
      · rfl
    rw [List.foldl_cons, hstep]
    exact ih fun b hb => h b (List.mem_cons_of_mem _ hb)

/-- Every order of a group with a winner ends with the winner. -/
theorem foldl_pick_eq_winner (hrespects : Respects takes beats) {winner : α}
    (h : IsWinner beats group winner) : group.foldl (pick takes) none = some winner := by
  obtain ⟨before, after, rfl⟩ := List.append_of_mem h.mem
  rw [List.foldl_append, List.foldl_cons]
  have hstep : pick takes (before.foldl (pick takes) none) winner = some winner := by
    rcases hkept : before.foldl (pick takes) none with _ | a
    · rfl
    · have hmem : a ∈ before := by
        rcases foldl_pick_mem hkept with hnone | hmem
        · cases hnone
        · exact hmem
      unfold pick
      dsimp only
      by_cases ha : a = winner
      · rw [ha, ite_self]
      · have hbeats := h.beats a (List.mem_append_left _ hmem) ha
        rw [if_pos (hrespects winner a hbeats).1]
  rw [hstep]
  exact foldl_pick_winner hrespects fun a ha hne =>
    h.beats a (List.mem_append_right _ (List.mem_cons_of_mem _ ha)) hne

/-- A group whose distinct entries beat one another in one direction has a winner. -/
theorem exists_isWinner (htrans : ∀ a b c, beats a b → beats b c → beats a c)
    (hcompare : ∀ a ∈ group, ∀ b ∈ group, a ≠ b → beats a b ∨ beats b a) (hne : group ≠ []) :
    ∃ winner, IsWinner beats group winner := by
  induction group with
  | nil => exact absurd rfl hne
  | cons a group ih =>
    by_cases hgroup : group = []
    · subst hgroup
      refine ⟨a, List.mem_cons_self, fun b hb hba => ?_⟩
      exact absurd (List.mem_singleton.mp hb) hba
    · obtain ⟨winner, hmem, hbeats⟩ := ih (fun b hb c hc => hcompare b (List.mem_cons_of_mem _ hb) c
        (List.mem_cons_of_mem _ hc)) hgroup
      by_cases ha : a = winner
      · refine ⟨winner, List.mem_cons_of_mem _ hmem, fun b hb hbw => ?_⟩
        rcases List.mem_cons.mp hb with rfl | hb
        · exact absurd ha hbw
        · exact hbeats b hb hbw
      · rcases hcompare a List.mem_cons_self winner (List.mem_cons_of_mem _ hmem) ha with hwins | hloses
        · -- the new entry beats the winner of the others, and with it all of them
          refine ⟨a, List.mem_cons_self, fun b hb hba => ?_⟩
          rcases List.mem_cons.mp hb with rfl | hb
          · exact absurd rfl hba
          · by_cases hbw : b = winner
            · rw [hbw]
              exact hwins
            · exact htrans a winner b hwins (hbeats b hb hbw)
        · refine ⟨winner, List.mem_cons_of_mem _ hmem, fun b hb hbw => ?_⟩
          rcases List.mem_cons.mp hb with rfl | hb
          · exact hloses
          · exact hbeats b hb hbw

end Codemem

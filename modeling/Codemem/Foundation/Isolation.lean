import Codemem.Foundation.Trace

/-!
# Runs with failing actions

An action may fail in the state it meets; a failing action changes only a part of the state that
no other action reads, such as a list of error messages.  A run then agrees, up to that part, with
the run of its surviving actions, and none of these fails.
-/

namespace Codemem

variable {σ α : Type*} (step : σ → α → σ) (fails : σ → α → Bool)

/-- The actions of a run that do not fail in the state they meet. -/
def survivors : σ → List α → List α
  | _, [] => []
  | s, a :: actions =>
    if fails s a then survivors (step s a) actions else a :: survivors (step s a) actions

lemma survivors_sublist (s : σ) (actions : List α) :
    (survivors step fails s actions).Sublist actions := by
  induction actions generalizing s with
  | nil => exact List.Sublist.refl _
  | cons a actions ih =>
    unfold survivors
    split_ifs
    · exact (ih _).cons a
    · exact (ih _).cons_cons a

/-- A step relation between two runs that forgets what failing actions write. -/
structure Isolates (R : σ → σ → Prop) : Prop where
  agree : ∀ {s t} a, R s t → fails s a = fails t a
  keep : ∀ {s t} a, R s t → fails s a = false → R (step s a) (step t a)
  skip : ∀ {s t} a, R s t → fails s a = true → R (step s a) t

variable {step fails} {R : σ → σ → Prop}

/-- The run of the survivors agrees with the whole run. -/
theorem Isolates.foldl_survivors (h : Isolates step fails R) {s t : σ} (hst : R s t)
    (actions : List α) :
    R (actions.foldl step s) ((survivors step fails s actions).foldl step t) := by
  induction actions generalizing s t with
  | nil => exact hst
  | cons a actions ih =>
    unfold survivors
    cases hfails : fails s a with
    | true =>
      rw [if_pos rfl, List.foldl_cons]
      exact ih (h.skip a hst hfails)
    | false =>
      rw [if_neg Bool.false_ne_true, List.foldl_cons, List.foldl_cons]
      exact ih (h.keep a hst hfails)

/-- No survivor fails when the survivors run on their own. -/
theorem Isolates.survivors_succeed (h : Isolates step fails R) {s t : σ} (hst : R s t)
    (actions : List α) :
    StepsMeet step (fun s a => fails s a = false) t (survivors step fails s actions) := by
  induction actions generalizing s t with
  | nil => trivial
  | cons a actions ih =>
    unfold survivors
    cases hfails : fails s a with
    | true =>
      rw [if_pos rfl]
      exact ih (h.skip a hst hfails)
    | false =>
      rw [if_neg Bool.false_ne_true]
      exact ⟨(h.agree a hst).symm.trans hfails, ih (h.keep a hst hfails)⟩

/-- An action that is no survivor failed where the run met it. -/
theorem exists_fails_of_not_survivor {s : σ} {actions : List α} {a : α} (ha : a ∈ actions)
    (hnot : a ∉ survivors step fails s actions) :
    ∃ before after, actions = before ++ a :: after ∧ fails (before.foldl step s) a = true := by
  induction actions generalizing s with
  | nil => cases ha
  | cons b actions ih =>
    unfold survivors at hnot
    rcases List.mem_cons.mp ha with rfl | ha
    · cases hfails : fails s a with
      | true => exact ⟨[], actions, rfl, hfails⟩
      | false => simp [hfails] at hnot
    · have hrest : a ∉ survivors step fails (step s b) actions := by
        intro hmem
        split_ifs at hnot with hfails
        · exact hnot hmem
        · exact hnot (List.mem_cons_of_mem b hmem)
      obtain ⟨before, after, rfl, hfailed⟩ := ih ha hrest
      exact ⟨b :: before, after, rfl, hfailed⟩

end Codemem

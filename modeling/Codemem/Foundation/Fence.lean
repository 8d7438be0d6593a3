import Codemem.Foundation.Trace

/-!
# Optimistic fences

A version that no step lowers and that every commit raises tells a later reader whether a commit
took place: two equal readings mean that no step between them was a commit.
-/

namespace Codemem

variable {σ α : Type*}

/-- A version counter of a transition function, and the steps that count as commits. -/
structure IsFence (step : σ → α → σ) (version : σ → ℤ) (commits : σ → α → Prop) : Prop where
  monotone : ∀ s a, version s ≤ version (step s a)
  raises : ∀ s a, commits s a → version s < version (step s a)

namespace IsFence

variable {step : σ → α → σ} {version : σ → ℤ} {commits : σ → α → Prop}

lemma le_foldl (h : IsFence step version commits) (s : σ) (actions : List α) :
    version s ≤ version (actions.foldl step s) := by
  induction actions generalizing s with
  | nil => exact le_rfl
  | cons a actions ih =>
    rw [List.foldl_cons]
    exact (h.monotone s a).trans (ih (step s a))

/-- Equal readings at the two ends of a run mean that none of its steps was a commit. -/
theorem noCommit_of_version_eq (h : IsFence step version commits) {s : σ} {actions : List α}
    (heq : version (actions.foldl step s) = version s) :
    StepsMeet step (fun t a => ¬ commits t a) s actions := by
  induction actions generalizing s with
  | nil => trivial
  | cons a actions ih =>
    rw [List.foldl_cons] at heq
    have hfirst := h.monotone s a
    have hrest := h.le_foldl (step s a) actions
    refine ⟨fun hcommit => ?_, ih (by omega)⟩
    have hraised := h.raises s a hcommit
    omega

end IsFence

end Codemem

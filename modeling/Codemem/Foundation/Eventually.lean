import Mathlib

/-!
# Reaching a goal under all inputs

A transition function takes an input at each step.  It eventually reaches a goal from a state when
every sequence of inputs leads there in finitely many steps.  Goals are chained, and a measure that
falls from one intermediate state to the next leads to the goal in the end.
-/

namespace Codemem

variable {σ α : Type*} (step : σ → α → σ)

/-- Whatever the inputs, the goal is reached in finitely many steps. -/
inductive Eventually (goal : σ → Prop) : σ → Prop
  | now {s : σ} (h : goal s) : Eventually goal s
  | later {s : σ} (h : ∀ a, Eventually goal (step s a)) : Eventually goal s

def stateAfter (s : σ) (inputs : ℕ → α) : ℕ → σ
  | 0 => s
  | n + 1 => step (stateAfter s inputs n) (inputs n)

variable {step} {goal goal' : σ → Prop} {s : σ}

lemma stateAfter_succ (s : σ) (inputs : ℕ → α) (n : ℕ) :
    stateAfter step s inputs (n + 1) =
      stateAfter step (step s (inputs 0)) (fun i => inputs (i + 1)) n := by
  induction n with
  | zero => rfl
  | succ n ih =>
    rw [stateAfter, ih]
    rfl

/-- A goal that is eventually reached is reached under every sequence of inputs. -/
theorem Eventually.exists_stateAfter (h : Eventually step goal s) (inputs : ℕ → α) :
    ∃ n, goal (stateAfter step s inputs n) := by
  induction h generalizing inputs with
  | now h => exact ⟨0, h⟩
  | later _ ih =>
    obtain ⟨n, hn⟩ := ih (inputs 0) fun i => inputs (i + 1)
    refine ⟨n + 1, ?_⟩
    rw [stateAfter_succ]
    exact hn

/-- Goals are chained. -/
theorem Eventually.trans (h : Eventually step goal s)
    (h' : ∀ t, goal t → Eventually step goal' t) : Eventually step goal' s := by
  induction h with
  | now h => exact h' _ h
  | later _ ih => exact .later ih

lemma Eventually.mono (h : Eventually step goal s) (himp : ∀ t, goal t → goal' t) :
    Eventually step goal' s :=
  h.trans fun t ht => .now (himp t ht)

/-- A measure in a well-founded order falls from one intermediate state to the next, unless the goal
is reached. -/
theorem Eventually.of_measure {β : Type*} [WellFoundedRelation β] (measure : σ → β)
    (P : σ → Prop)
    (hstep : ∀ t, P t → Eventually step
      (fun t' => goal t' ∨ P t' ∧ WellFoundedRelation.rel (measure t') (measure t)) t)
    (h : P s) : Eventually step goal s := by
  have hall : ∀ m t, measure t = m → P t → Eventually step goal t := by
    intro m
    refine WellFoundedRelation.wf.induction
      (C := fun m => ∀ t, measure t = m → P t → Eventually step goal t) m ?_
    rintro m ih t rfl ht
    refine (hstep t ht).trans fun t' ht' => ?_
    rcases ht' with ht' | ⟨ht', hlt⟩
    · exact .now ht'
    · exact ih (measure t') hlt t' rfl ht'
  exact hall (measure s) s rfl h

end Codemem

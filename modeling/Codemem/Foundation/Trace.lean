import Mathlib

/-!
# Runs of a transition function

A run applies a list of actions one after the other.  `visited` lists the states of a run, the
first and the last included.  An invariant is proved for all visited states from one step; where
each step keeps it exactly under a condition, the whole run keeps it exactly when every step meets
the condition (`visited_invariant_iff`).
-/

namespace Codemem

variable {σ α : Type*} (step : σ → α → σ)

/-- The states a run visits. -/
def visited (s : σ) (actions : List α) : List σ := actions.scanl step s

/-- Every action of the run meets a condition in the state it starts from. -/
def StepsMeet (condition : σ → α → Prop) : σ → List α → Prop
  | _, [] => True
  | s, a :: actions => condition s a ∧ StepsMeet condition (step s a) actions

/-- A condition that can be decided at each step can be decided for a run. -/
instance decidableStepsMeet {condition : σ → α → Prop} [∀ s a, Decidable (condition s a)] (s : σ) :
    (actions : List α) → Decidable (StepsMeet step condition s actions)
  | [] => .isTrue trivial
  | a :: actions =>
    @instDecidableAnd (condition s a) (StepsMeet step condition (step s a) actions) _
      (decidableStepsMeet (step s a) actions)

@[simp] lemma visited_nil (s : σ) : visited step s [] = [s] := rfl

@[simp] lemma visited_cons (s : σ) (a : α) (actions : List α) :
    visited step s (a :: actions) = s :: visited step (step s a) actions := by
  simp [visited]

lemma mem_visited_self (s : σ) (actions : List α) : s ∈ visited step s actions := by
  cases actions with
  | nil => simp
  | cons a actions => simp

lemma foldl_mem_visited (s : σ) (actions : List α) :
    actions.foldl step s ∈ visited step s actions := by
  induction actions generalizing s with
  | nil => simp
  | cons a actions ih =>
    rw [visited_cons]
    exact List.mem_cons_of_mem _ (ih (step s a))

lemma visited_append_right (s : σ) (first second : List α) :
    visited step (first.foldl step s) second ⊆ visited step s (first ++ second) := by
  induction first generalizing s with
  | nil => exact List.Subset.refl _
  | cons a first ih =>
    rw [List.cons_append, visited_cons]
    exact List.subset_cons_of_subset _ (ih (step s a))

lemma visited_append_left (s : σ) (first second : List α) :
    visited step s first ⊆ visited step s (first ++ second) := by
  induction first generalizing s with
  | nil => simpa using mem_visited_self step s second
  | cons a first ih =>
    rw [List.cons_append, visited_cons, visited_cons]
    exact List.cons_subset_cons _ (ih (step s a))

variable {step}

/-! ### Conditions on the steps of a run -/

lemma stepsMeet_append_iff {condition : σ → α → Prop} {s : σ} (first second : List α) :
    StepsMeet step condition s (first ++ second) ↔
      StepsMeet step condition s first ∧ StepsMeet step condition (first.foldl step s) second := by
  induction first generalizing s with
  | nil => simp [StepsMeet]
  | cons a first ih =>
    rw [List.cons_append, StepsMeet, StepsMeet, List.foldl_cons, ih, and_assoc]

lemma StepsMeet.congr_iff {background condition condition' : σ → α → Prop} {s : σ}
    {actions : List α} (h : StepsMeet step background s actions)
    (hagree : ∀ s a, background s a → (condition s a ↔ condition' s a)) :
    StepsMeet step condition s actions ↔ StepsMeet step condition' s actions := by
  induction actions generalizing s with
  | nil => exact Iff.rfl
  | cons a actions ih => exact and_congr (hagree s a h.1) (ih h.2)

lemma stepsMeet_of_forall {condition : σ → α → Prop} {s : σ} {actions : List α}
    (h : ∀ a ∈ actions, ∀ s, condition s a) : StepsMeet step condition s actions := by
  induction actions generalizing s with
  | nil => trivial
  | cons a actions ih =>
    exact ⟨h a List.mem_cons_self s, ih fun b hb => h b (List.mem_cons_of_mem _ hb)⟩

lemma StepsMeet.imp {condition condition' : σ → α → Prop} {s : σ} {actions : List α}
    (h : StepsMeet step condition s actions) (himp : ∀ s a, condition s a → condition' s a) :
    StepsMeet step condition' s actions := by
  induction actions generalizing s with
  | nil => trivial
  | cons a actions ih => exact ⟨himp s a h.1, ih h.2⟩

lemma StepsMeet.and {condition condition' : σ → α → Prop} {s : σ} {actions : List α}
    (h : StepsMeet step condition s actions) (h' : StepsMeet step condition' s actions) :
    StepsMeet step (fun s a => condition s a ∧ condition' s a) s actions := by
  induction actions generalizing s with
  | nil => trivial
  | cons a actions ih => exact ⟨⟨h.1, h'.1⟩, ih h.2 h'.2⟩

lemma StepsMeet.foldl {condition : σ → α → Prop} {P : σ → Prop} {s : σ} {actions : List α}
    (h : StepsMeet step condition s actions) (hs : P s)
    (hstep : ∀ s a, condition s a → P s → P (step s a)) : P (actions.foldl step s) := by
  induction actions generalizing s with
  | nil => exact hs
  | cons a actions ih => exact ih h.2 (hstep s a h.1 hs)

lemma StepsMeet.always {condition : σ → α → Prop} {P : σ → Prop} {s : σ} {actions : List α}
    (h : StepsMeet step condition s actions) (hs : P s)
    (hstep : ∀ s a, condition s a → P s → P (step s a)) : ∀ t ∈ visited step s actions, P t := by
  induction actions generalizing s with
  | nil => simpa using hs
  | cons a actions ih =>
    rw [visited_cons, List.forall_mem_cons]
    exact ⟨hs, ih h.2 (hstep s a h.1 hs)⟩

lemma StepsMeet.and_always {condition : σ → α → Prop} {P : σ → Prop} {s : σ} {actions : List α}
    (h : StepsMeet step condition s actions) (hs : P s)
    (hstep : ∀ s a, condition s a → P s → P (step s a)) :
    StepsMeet step (fun s a => condition s a ∧ P s) s actions := by
  induction actions generalizing s with
  | nil => trivial
  | cons a actions ih => exact ⟨⟨h.1, hs⟩, ih h.2 (hstep s a h.1 hs)⟩

lemma exists_of_not_stepsMeet {condition : σ → α → Prop} {s : σ} {actions : List α}
    (h : ¬ StepsMeet step condition s actions) :
    ∃ before a after, actions = before ++ a :: after ∧ ¬ condition (before.foldl step s) a := by
  induction actions generalizing s with
  | nil => exact absurd trivial h
  | cons a actions ih =>
    by_cases ha : condition s a
    · obtain ⟨before, b, after, rfl, hb⟩ := ih fun hrest => h ⟨ha, hrest⟩
      exact ⟨a :: before, b, after, rfl, hb⟩
    · exact ⟨[], a, actions, rfl, ha⟩

/-! ### Invariants of a run -/

/-- A property that every step keeps holds in every visited state. -/
theorem visited_invariant {P : σ → Prop} {s : σ} (actions : List α) (h : P s)
    (hstep : ∀ s a, P s → P (step s a)) : ∀ t ∈ visited step s actions, P t := by
  induction actions generalizing s with
  | nil => simpa using h
  | cons a actions ih =>
    rw [visited_cons, List.forall_mem_cons]
    exact ⟨h, ih (hstep s a h)⟩

/-- Where a step keeps a property exactly under a condition, a run keeps it in every visited state
exactly when all its steps meet the condition. -/
theorem visited_invariant_iff {P : σ → Prop} {condition : σ → α → Prop} {s : σ}
    (actions : List α) (h : P s) (hstep : ∀ s a, P s → (P (step s a) ↔ condition s a)) :
    (∀ t ∈ visited step s actions, P t) ↔ StepsMeet step condition s actions := by
  induction actions generalizing s with
  | nil => simpa [StepsMeet] using h
  | cons a actions ih =>
    rw [visited_cons, List.forall_mem_cons, StepsMeet]
    constructor
    · rintro ⟨-, hall⟩
      have hnext : P (step s a) := hall _ (mem_visited_self step _ actions)
      exact ⟨(hstep s a h).mp hnext, (ih hnext).mp hall⟩
    · rintro ⟨hcond, hmeet⟩
      exact ⟨h, (ih ((hstep s a h).mpr hcond)).mpr hmeet⟩

/-- A relation that every step establishes, and that is transitive through good states, holds
between any two states of a run through good states. -/
theorem visited_pairwise {good : σ → Prop} {R : σ → σ → Prop} {s : σ} {actions : List α}
    (hstep : ∀ s a, good s → good (step s a) → R s (step s a))
    (htrans : ∀ a b c, good b → R a b → R b c → R a c)
    (hgood : ∀ t ∈ visited step s actions, good t) : (visited step s actions).Pairwise R := by
  induction actions generalizing s with
  | nil => simp
  | cons a actions ih =>
    rw [visited_cons, List.forall_mem_cons] at hgood
    obtain ⟨hs, hrest⟩ := hgood
    have hnext : good (step s a) := hrest _ (mem_visited_self step _ actions)
    have hpair := ih hrest
    rw [visited_cons, List.pairwise_cons]
    refine ⟨fun t ht => ?_, hpair⟩
    have hfirst := hstep s a hs hnext
    cases actions with
    | nil =>
      rw [visited_nil, List.mem_singleton] at ht
      exact ht ▸ hfirst
    | cons b actions =>
      rw [visited_cons] at ht hpair
      rcases List.mem_cons.mp ht with rfl | ht
      · exact hfirst
      · exact htrans _ _ _ hnext hfirst ((List.pairwise_cons.mp hpair).1 t ht)

/-- In a run whose steps meet a condition, a property and a transitive relation that such steps
keep hold in every visited state and between any two of them. -/
theorem StepsMeet.pairwise {P : σ → Prop} {R : σ → σ → Prop} {condition : σ → α → Prop} {s : σ}
    {actions : List α} (hmeet : StepsMeet step condition s actions) (h : P s)
    (htrans : ∀ a b c, R a b → R b c → R a c)
    (hstep : ∀ s a, condition s a → P s → P (step s a) ∧ R s (step s a)) :
    (∀ t ∈ visited step s actions, P t) ∧ (visited step s actions).Pairwise R := by
  induction actions generalizing s with
  | nil => simpa using h
  | cons a actions ih =>
    obtain ⟨hcond, hrest⟩ := hmeet
    obtain ⟨hnext, hR⟩ := hstep s a hcond h
    obtain ⟨hall, hpair⟩ := ih hrest hnext
    rw [visited_cons, List.forall_mem_cons, List.pairwise_cons]
    refine ⟨⟨h, hall⟩, fun t ht => ?_, hpair⟩
    cases actions with
    | nil =>
      rw [visited_nil, List.mem_singleton] at ht
      exact ht ▸ hR
    | cons b actions =>
      rw [visited_cons] at ht hpair
      rcases List.mem_cons.mp ht with rfl | ht
      · exact hR
      · exact htrans _ _ _ hR ((List.pairwise_cons.mp hpair).1 t ht)

/-- Where a step keeps a property and a transitive relation exactly under a condition, a run keeps
the property in every visited state, and the relation between any two of them, exactly when all its
steps meet the condition. -/
theorem visited_pairwise_iff {P : σ → Prop} {R : σ → σ → Prop} {condition : σ → α → Prop} {s : σ}
    (actions : List α) (h : P s) (htrans : ∀ a b c, R a b → R b c → R a c)
    (hstep : ∀ s a, P s → (P (step s a) ∧ R s (step s a) ↔ condition s a)) :
    (∀ t ∈ visited step s actions, P t) ∧ (visited step s actions).Pairwise R ↔
      StepsMeet step condition s actions := by
  constructor
  · induction actions generalizing s with
    | nil => exact fun _ => trivial
    | cons a actions ih =>
      rw [visited_cons, List.forall_mem_cons, List.pairwise_cons, StepsMeet]
      rintro ⟨⟨-, hall⟩, hfirst, hpair⟩
      have hhead := mem_visited_self step (step s a) actions
      have hnext : P (step s a) := hall _ hhead
      exact ⟨(hstep s a h).mp ⟨hnext, hfirst _ hhead⟩, ih hnext ⟨hall, hpair⟩⟩
  · intro hmeet
    exact hmeet.pairwise h htrans fun s a hcond hs => (hstep s a hs).mpr hcond

lemma visited_pairwise_append_right {R : σ → σ → Prop} {s : σ} (first second : List α)
    (h : (visited step s (first ++ second)).Pairwise R) :
    (visited step (first.foldl step s) second).Pairwise R := by
  induction first generalizing s with
  | nil => exact h
  | cons a first ih =>
    rw [List.cons_append, visited_cons, List.pairwise_cons] at h
    exact ih h.2

lemma visited_first_last {R : σ → σ → Prop} {s : σ} {actions : List α}
    (h : (visited step s actions).Pairwise R) (hrefl : R s s) : R s (actions.foldl step s) := by
  cases actions with
  | nil => exact hrefl
  | cons a actions =>
    rw [visited_cons, List.pairwise_cons] at h
    exact h.1 _ (foldl_mem_visited step (step s a) actions)

end Codemem

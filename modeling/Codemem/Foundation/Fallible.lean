import Mathlib

/-!
# Fallible steps

A step that throws is a value of `Except`.  A sequence, an image and a traversal of steps succeed
when every step does.
-/

namespace Codemem

/-- `if (condition) throw new Error(message)`. -/
def rejectIf (condition : Prop) [Decidable condition] (message : String) : Except String Unit :=
  if condition then .error message else .ok ()

lemma not_of_rejectIf_eq_ok {condition : Prop} [Decidable condition] {message : String} {u : Unit}
    (h : rejectIf condition message = .ok u) : ¬ condition := by
  intro hcondition
  unfold rejectIf at h
  rw [if_pos hcondition] at h
  cases h

lemma rejectIf_of_not {condition : Prop} [Decidable condition] {message : String}
    (h : ¬ condition) : rejectIf condition message = .ok () := if_neg h

lemma bind_ok {ε α β : Type} (a : α) (f : α → Except ε β) : (Except.ok a >>= f) = f a := rfl

lemma exists_of_bind_eq_ok {ε α β : Type} {x : Except ε α} {f : α → Except ε β} {b : β}
    (h : x >>= f = .ok b) : ∃ a, x = .ok a ∧ f a = .ok b := by
  cases x with
  | error e => cases h
  | ok a => exact ⟨a, rfl, h⟩

lemma exists_of_isOk {α : Type} {x : Except String α} (h : x.isOk = true) : ∃ a, x = .ok a := by
  cases x with
  | error message => cases h
  | ok a => exact ⟨a, rfl⟩

lemma exists_of_map_eq_ok {ε α β : Type} {x : Except ε α} {f : α → β} {b : β}
    (h : x.map f = .ok b) : ∃ a, x = .ok a ∧ f a = b := by
  cases x with
  | error e => cases h
  | ok a => exact ⟨a, rfl, Except.ok.inj h⟩

lemma exists_of_mem_mapM {ε α β : Type} {f : α → Except ε β} {as : List α} {bs : List β}
    (h : as.mapM f = .ok bs) {b : β} (hb : b ∈ bs) : ∃ a ∈ as, f a = .ok b := by
  induction as generalizing bs with
  | nil =>
    cases h
    cases hb
  | cons a as ih =>
    rw [List.mapM_cons] at h
    obtain ⟨first, hfirst, h⟩ := exists_of_bind_eq_ok h
    obtain ⟨rest, hrest, h⟩ := exists_of_bind_eq_ok h
    cases h
    rcases List.mem_cons.mp hb with rfl | hb
    · exact ⟨a, List.mem_cons_self, hfirst⟩
    · obtain ⟨a', ha', hok⟩ := ih hrest hb
      exact ⟨a', List.mem_cons_of_mem _ ha', hok⟩

lemma exists_of_mapM_eq_ok {ε α β : Type} {f : α → Except ε β} {as : List α} {bs : List β}
    (h : as.mapM f = .ok bs) {a : α} (ha : a ∈ as) : ∃ b, f a = .ok b := by
  induction as generalizing bs with
  | nil => cases ha
  | cons first as ih =>
    rw [List.mapM_cons] at h
    obtain ⟨b, hb, h⟩ := exists_of_bind_eq_ok h
    obtain ⟨rest, hrest, -⟩ := exists_of_bind_eq_ok h
    rcases List.mem_cons.mp ha with rfl | ha
    · exact ⟨b, hb⟩
    · exact ih hrest ha

lemma map_eq_of_mapM {ε α β γ : Type} {f : α → Except ε β} {g : α → γ} {g' : β → γ}
    (hkeep : ∀ a b, f a = .ok b → g' b = g a) {as : List α} {bs : List β}
    (h : as.mapM f = .ok bs) : bs.map g' = as.map g := by
  induction as generalizing bs with
  | nil =>
    cases h
    rfl
  | cons a as ih =>
    rw [List.mapM_cons] at h
    obtain ⟨first, hfirst, h⟩ := exists_of_bind_eq_ok h
    obtain ⟨rest, hrest, h⟩ := exists_of_bind_eq_ok h
    cases h
    rw [List.map_cons, List.map_cons, hkeep a first hfirst, ih hrest]

lemma foldlM_keeps {ε α β : Type} {P : α → Prop} {f : α → β → Except ε α} {items : List β}
    (hstep : ∀ a a' b, b ∈ items → P a → f a b = .ok a' → P a') {a a' : α} (h : P a)
    (hrun : items.foldlM f a = .ok a') : P a' := by
  induction items generalizing a with
  | nil =>
    cases hrun
    exact h
  | cons b items ih =>
    rw [List.foldlM_cons] at hrun
    obtain ⟨next, hnext, hrun⟩ := exists_of_bind_eq_ok hrun
    exact ih (fun c c' b' hb' => hstep c c' b' (List.mem_cons_of_mem _ hb'))
      (hstep a next b List.mem_cons_self h hnext) hrun

end Codemem

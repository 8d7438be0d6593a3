import Mathlib

/-!
# Admitting a message once while it is fresh

A server admits a message when its key was not used, and keeps the use of a key until a sweep whose
cutoff passes the time of the use.  A message may only be admitted from some time on, its opening.
Two admissions of messages that share key and opening are told apart as long as no sweep passed
the opening before the second one: then the use recorded by the first is still there.
-/

namespace Codemem

variable {ι κ : Type*}

/-- What a server remembers about the keys it has used: `used` says when a remembered use was
recorded, `admitted` which tickets were admitted under a key and an opening, `swept` how far the
sweeps have come.  Every admission is remembered, or a sweep passed its opening. -/
structure ReplayGuard (used : κ → ℤ → Prop) (admitted : ι → κ → ℤ → Prop) (swept : WithBot ℤ) :
    Prop where
  once : ∀ i j k opening, admitted i k opening → admitted j k opening → i = j
  covered : ∀ i k opening, admitted i k opening →
    (∃ created, used k created ∧ opening ≤ created) ∨ (opening : WithBot ℤ) < swept

namespace ReplayGuard

variable {used used' : κ → ℤ → Prop} {admitted admitted' : ι → κ → ℤ → Prop} {swept : WithBot ℤ}

lemma initial (h : ∀ i k opening, ¬ admitted i k opening) : ReplayGuard used admitted swept where
  once _ _ _ _ hi _ := absurd hi (h _ _ _)
  covered _ _ _ hi := absurd hi (h _ _ _)

lemma mono (h : ReplayGuard used admitted swept) (hused : ∀ k created, used k created →
    used' k created) (hadmitted : ∀ i k opening, admitted' i k opening → admitted i k opening) :
    ReplayGuard used' admitted' swept where
  once i j k opening hi hj := h.once i j k opening (hadmitted _ _ _ hi) (hadmitted _ _ _ hj)
  covered i k opening hi := by
    rcases h.covered i k opening (hadmitted _ _ _ hi) with ⟨created, hcreated, hle⟩ | hswept
    · exact Or.inl ⟨created, hused _ _ hcreated, hle⟩
    · exact Or.inr hswept

lemma sweep (h : ReplayGuard used admitted swept) (cutoff : ℤ) :
    ReplayGuard (fun k created => used k created ∧ cutoff ≤ created) admitted
      (max swept cutoff) where
  once := h.once
  covered i k opening hi := by
    rcases h.covered i k opening hi with ⟨created, hcreated, hle⟩ | hswept
    · by_cases hkept : cutoff ≤ created
      · exact Or.inl ⟨created, ⟨hcreated, hkept⟩, hle⟩
      · refine Or.inr (lt_of_lt_of_le ?_ (le_max_right _ _))
        rw [WithBot.coe_lt_coe]
        omega
    · exact Or.inr (lt_of_lt_of_le hswept (le_max_left _ _))

lemma accept (h : ReplayGuard used admitted swept) (ticket : ι) {k : κ} {opening created : ℤ}
    (hunused : ∀ created, ¬ used k created) (hswept : swept ≤ (opening : WithBot ℤ))
    (hcreated : opening ≤ created)
    (hused' : ∀ k' created', used k' created' ∨ k' = k ∧ created' = created → used' k' created')
    (hadmitted' : ∀ i k' opening', admitted' i k' opening' →
      admitted i k' opening' ∨ i = ticket ∧ k' = k ∧ opening' = opening) :
    ReplayGuard used' admitted' swept where
  once i j k' opening' hi hj := by
    have hfirst : ¬ ∃ i, admitted i k opening := by
      rintro ⟨i, hi⟩
      rcases h.covered i k opening hi with ⟨c, hc, -⟩ | hlt
      · exact hunused c hc
      · exact absurd hswept (not_le.mpr hlt)
    rcases hadmitted' _ _ _ hi with hi | ⟨rfl, rfl, rfl⟩
    · rcases hadmitted' _ _ _ hj with hj | ⟨rfl, rfl, rfl⟩
      · exact h.once i j k' opening' hi hj
      · exact absurd ⟨i, hi⟩ hfirst
    · rcases hadmitted' _ _ _ hj with hj | ⟨rfl, -, -⟩
      · exact absurd ⟨j, hj⟩ hfirst
      · rfl
  covered i k' opening' hi := by
    rcases hadmitted' _ _ _ hi with hi | ⟨rfl, rfl, rfl⟩
    · rcases h.covered i k' opening' hi with ⟨c, hc, hle⟩ | hlt
      · exact Or.inl ⟨c, hused' _ _ (Or.inl hc), hle⟩
      · exact Or.inr hlt
    · exact Or.inl ⟨created, hused' _ _ (Or.inr ⟨rfl, rfl⟩), hcreated⟩

end ReplayGuard

end Codemem

import Codemem.Foundation.Utf16
import Mathlib.Data.List.Lex
import Mathlib.Order.Basic

/-!
# Comparisons of texts

`localeCompare` is a parameter of the models.  What the code relies on is that it is a consistent
comparison; nothing says that texts which compare equal are equal.  A comparison by a key of the
texts is consistent.
-/

namespace Codemem

/-- `localeCompare` is a consistent comparison. -/
structure IsConsistentCompare (compare : String → String → ℤ) : Prop where
  self : ∀ a, compare a a = 0
  swap : ∀ a b, 0 < compare a b ↔ compare b a < 0
  trans : ∀ a b c, compare a b ≤ 0 → compare b c ≤ 0 → compare a c ≤ 0

namespace IsConsistentCompare

variable {compare : String → String → ℤ}

lemma eq_zero_comm (h : IsConsistentCompare compare) {a b : String} :
    compare a b = 0 ↔ compare b a = 0 := by
  have hab := h.swap a b
  have hba := h.swap b a
  omega

lemma eq_zero_trans (h : IsConsistentCompare compare) {a b c : String} (hab : compare a b = 0)
    (hbc : compare b c = 0) : compare a c = 0 := by
  have hle := h.trans a b c hab.le hbc.le
  have hge := h.trans c b a (h.eq_zero_comm.mp hbc).le (h.eq_zero_comm.mp hab).le
  have hswap := h.swap c a
  omega

lemma neg_of_neg_of_nonpos (h : IsConsistentCompare compare) {a b c : String}
    (hab : compare a b < 0) (hbc : compare b c ≤ 0) : compare a c < 0 := by
  by_contra hac
  have hca : compare c a ≤ 0 := by
    have hswap := h.swap c a
    omega
  have hba := h.trans b c a hbc hca
  have hpos := (h.swap b a).mpr hab
  omega

lemma neg_of_nonpos_of_neg (h : IsConsistentCompare compare) {a b c : String}
    (hab : compare a b ≤ 0) (hbc : compare b c < 0) : compare a c < 0 := by
  by_contra hac
  have hca : compare c a ≤ 0 := by
    have hswap := h.swap c a
    omega
  have hcb := h.trans c a b hca hab
  have hpos := (h.swap c b).mpr hbc
  omega

lemma pos_trans (h : IsConsistentCompare compare) {a b c : String} (hab : 0 < compare a b)
    (hbc : 0 < compare b c) : 0 < compare a c := by
  rw [h.swap] at hab hbc ⊢
  exact h.neg_of_neg_of_nonpos hbc hab.le

end IsConsistentCompare

def compareByKey (key : String → List ℕ) (a b : String) : ℤ :=
  if key a < key b then -1 else if key b < key a then 1 else 0

lemma compareByKey_nonpos_iff {key : String → List ℕ} {a b : String} :
    compareByKey key a b ≤ 0 ↔ key a ≤ key b := by
  unfold compareByKey
  rcases lt_trichotomy (key a) (key b) with h | h | h
  · simp [h, h.le]
  · simp [h]
  · simp [h, not_lt_of_gt h, not_le_of_gt h]

lemma isConsistentCompare_byKey (key : String → List ℕ) :
    IsConsistentCompare (compareByKey key) where
  self := fun a => by simp [compareByKey]
  swap := fun a b => by
    unfold compareByKey
    rcases lt_trichotomy (key a) (key b) with h | h | h
    · simp [h, not_lt_of_gt h]
    · simp [h]
    · simp [h, not_lt_of_gt h]
  trans := fun a b c hab hbc => by
    rw [compareByKey_nonpos_iff] at hab hbc ⊢
    exact hab.trans hbc

/-- A comparison by code units that ignores the zero-width joiner, as the runtime's does. -/
def compareIgnoringJoiner : String → String → ℤ :=
  compareByKey fun text => (utf16 text).filter fun unit => unit != 0x200d

end Codemem

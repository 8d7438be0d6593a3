import Mathlib

/-!
# UTF-16 code unit order on texts

A text is compared by some runtimes through its UTF-16 code units and by others through its code
points.  The two orders differ: a character beyond the basic plane is encoded by two surrogates,
which sort below the private use area.

This file defines the code units of a text, proves that they determine the text, and derives the
linear order of texts by their code units.
-/

namespace Codemem

/-- The UTF-16 code units of one character. -/
def utf16Units (c : Char) : List ℕ :=
  if c.toNat < 0x10000 then [c.toNat]
  else [0xD800 + (c.toNat - 0x10000) / 0x400, 0xDC00 + (c.toNat - 0x10000) % 0x400]

/-- The UTF-16 code units of a text. -/
def utf16 (s : String) : List ℕ := s.toList.flatMap utf16Units

lemma char_toNat_not_surrogate (c : Char) : c.toNat < 0xD800 ∨ 0xDFFF < c.toNat := by
  have h := c.valid
  simp only [UInt32.isValidChar, Nat.isValidChar] at h
  rcases h with h | h
  · exact Or.inl h
  · exact Or.inr h.1

lemma char_toNat_lt (c : Char) : c.toNat < 0x110000 := by
  have h := c.valid
  simp only [UInt32.isValidChar, Nat.isValidChar] at h
  rcases h with h | h
  · exact lt_trans h (by norm_num)
  · exact h.2

lemma char_eq_of_toNat_eq {a b : Char} (h : a.toNat = b.toNat) : a = b :=
  Char.ext (UInt32.toNat_inj.mp h)

lemma utf16Units_append_inj {a b : Char} {s t : List ℕ}
    (h : utf16Units a ++ s = utf16Units b ++ t) : a = b ∧ s = t := by
  have ha := char_toNat_not_surrogate a
  have hb := char_toNat_not_surrogate b
  have ha' := char_toNat_lt a
  have hb' := char_toNat_lt b
  unfold utf16Units at h
  split_ifs at h with h1 h2 h2
  · simp only [List.cons_append, List.nil_append, List.cons.injEq] at h
    exact ⟨char_eq_of_toNat_eq h.1, h.2⟩
  · simp only [List.cons_append, List.nil_append, List.cons.injEq] at h
    omega
  · simp only [List.cons_append, List.nil_append, List.cons.injEq] at h
    omega
  · simp only [List.cons_append, List.nil_append, List.cons.injEq] at h
    exact ⟨char_eq_of_toNat_eq (by omega), h.2.2⟩

lemma utf16Units_ne_nil (c : Char) : utf16Units c ≠ [] := by
  unfold utf16Units
  split_ifs <;> simp

lemma flatMap_utf16Units_injective : Function.Injective (List.flatMap utf16Units) := by
  intro s
  induction s with
  | nil =>
    intro t h
    cases t with
    | nil => rfl
    | cons b t => simp [utf16Units_ne_nil] at h
  | cons a s ih =>
    intro t h
    cases t with
    | nil => simp [utf16Units_ne_nil] at h
    | cons b t =>
      rw [List.flatMap_cons, List.flatMap_cons] at h
      obtain ⟨rfl, hst⟩ := utf16Units_append_inj h
      rw [ih hst]

/-- A text is determined by its code units. -/
theorem utf16_injective : Function.Injective utf16 := fun _ _ h =>
  String.toList_injective (flatMap_utf16Units_injective h)

/-- `utf16Lt a b` holds when the text `a` sorts strictly before `b` by code units. -/
def utf16Lt (a b : String) : Prop := utf16 a < utf16 b

instance (a b : String) : Decidable (utf16Lt a b) :=
  inferInstanceAs (Decidable (utf16 a < utf16 b))

lemma utf16_append (a b : String) : utf16 (a ++ b) = utf16 a ++ utf16 b := by
  simp [utf16]

/-- All characters of a text lie in the basic plane. -/
def IsBasicPlane (s : String) : Prop := ∀ c ∈ s.toList, c.toNat < 0x10000

instance (s : String) : Decidable (IsBasicPlane s) :=
  decidable_of_iff (s.toList.all fun c => decide (c.toNat < 0x10000)) (by simp [IsBasicPlane])

lemma utf16_of_isBasicPlane {s : String} (h : IsBasicPlane s) :
    utf16 s = s.toList.map Char.toNat := by
  unfold utf16
  unfold IsBasicPlane at h
  generalize s.toList = cs at h ⊢
  induction cs with
  | nil => rfl
  | cons c cs ih =>
    obtain ⟨hc, hcs⟩ := List.forall_mem_cons.mp h
    rw [List.flatMap_cons, ih hcs, utf16Units, if_pos hc]
    rfl

lemma map_toNat_lt_iff (cs ds : List Char) :
    cs.map Char.toNat < ds.map Char.toNat ↔ cs < ds := by
  induction cs generalizing ds with
  | nil =>
    cases ds with
    | nil => simp
    | cons d ds => simp
  | cons c cs ih =>
    cases ds with
    | nil => simp
    | cons d ds =>
      have heq : c.toNat = d.toNat ↔ c = d := ⟨char_eq_of_toNat_eq, fun h => h ▸ rfl⟩
      have hlt : c.toNat < d.toNat ↔ c < d := by
        rw [Char.lt_def, UInt32.lt_iff_toNat_lt]
        rfl
      rw [List.map_cons, List.map_cons, List.cons_lt_cons_iff, List.cons_lt_cons_iff, ih, heq, hlt]

/-- In the basic plane the two orders of texts agree. -/
theorem utf16Lt_iff_lt {a b : String} (ha : IsBasicPlane a) (hb : IsBasicPlane b) :
    utf16Lt a b ↔ a < b := by
  rw [utf16Lt, utf16_of_isBasicPlane ha, utf16_of_isBasicPlane hb, map_toNat_lt_iff,
    String.lt_iff_toList_lt]

end Codemem

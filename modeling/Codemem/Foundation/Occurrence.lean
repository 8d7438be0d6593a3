import Mathlib.Data.List.Infix
import Mathlib.Tactic.Common

/-!
# The first occurrence of a marker

`indexOf` finds the first place of a marker in a text.  What stands behind that place has no say in
it, a text behind an earlier place has it at the rest of the distance, and a marker without a
separator does not reach across one.
-/

namespace Codemem

variable {α : Type*} [DecidableEq α] {marker : List α}

def indexOf (marker : List α) : List α → Option ℕ
  | [] => if marker.isEmpty then some 0 else none
  | a :: text => if marker.isPrefixOf (a :: text) then some 0 else (indexOf marker text).map (· + 1)

lemma indexOf_append_self (marker rest : List α) : indexOf marker (marker ++ rest) = some 0 := by
  cases h : marker ++ rest with
  | nil =>
    have hnil := (List.append_eq_nil_iff.mp h).1
    simp [indexOf, hnil]
  | cons a text =>
    have hstart : marker.isPrefixOf (a :: text) = true :=
      List.isPrefixOf_iff_prefix.mpr ⟨rest, h⟩
    unfold indexOf
    rw [if_pos hstart]

lemma indexOf_cons_of_not {a : α} {text : List α} (h : ¬marker <+: a :: text) :
    indexOf marker (a :: text) = (indexOf marker text).map (· + 1) := by
  rw [← List.isPrefixOf_iff_prefix] at h
  conv_lhs => unfold indexOf
  rw [if_neg h]

lemma eq_of_indexOf {text : List α} {i : ℕ} (h : indexOf marker text = some i) :
    ∃ rest, text = text.take i ++ marker ++ rest ∧ i + marker.length ≤ text.length := by
  induction text generalizing i with
  | nil =>
    unfold indexOf at h
    split_ifs at h with hempty
    obtain rfl := Option.some.inj h
    rw [List.isEmpty_iff.mp hempty]
    exact ⟨[], rfl, le_rfl⟩
  | cons a text ih =>
    unfold indexOf at h
    split_ifs at h with hstart
    · obtain rfl := Option.some.inj h
      obtain ⟨rest, hrest⟩ := List.isPrefixOf_iff_prefix.mp hstart
      refine ⟨rest, hrest.symm, ?_⟩
      rw [← hrest, List.length_append, Nat.zero_add]
      exact Nat.le_add_right _ _
    · obtain ⟨j, hj, rfl⟩ := Option.map_eq_some_iff.mp h
      obtain ⟨rest, hrest, hle⟩ := ih hj
      refine ⟨rest, ?_, ?_⟩
      · rw [List.take_succ_cons, List.cons_append, List.cons_append, ← hrest]
      · rw [List.length_cons]
        omega

lemma exists_indexOf_le (before rest : List α) :
    ∃ i ≤ before.length, indexOf marker (before ++ marker ++ rest) = some i := by
  induction before with
  | nil => exact ⟨0, le_rfl, indexOf_append_self marker rest⟩
  | cons a before ih =>
    obtain ⟨i, hle, hi⟩ := ih
    by_cases hstart : marker <+: a :: (before ++ marker ++ rest)
    · obtain ⟨tail, htail⟩ := hstart
      refine ⟨0, Nat.zero_le _, ?_⟩
      rw [List.cons_append, List.cons_append, ← htail]
      exact indexOf_append_self marker tail
    · refine ⟨i + 1, Nat.succ_le_succ hle, ?_⟩
      rw [List.cons_append, List.cons_append, indexOf_cons_of_not hstart, hi]
      rfl

lemma indexOf_eq_none_iff {text : List α} : indexOf marker text = none ↔ ¬marker <:+: text := by
  constructor
  · rintro h ⟨before, rest, rfl⟩
    obtain ⟨i, -, hi⟩ := @exists_indexOf_le _ _ marker before rest
    rw [h] at hi
    cases hi
  · intro h
    cases hfound : indexOf marker text with
    | none => rfl
    | some i =>
      obtain ⟨rest, hrest, -⟩ := eq_of_indexOf hfound
      exact absurd ⟨text.take i, rest, hrest.symm⟩ h

lemma indexOf_append_congr {before : List α} (rest rest' : List α)
    (h : indexOf marker (before ++ marker ++ rest) = some before.length) :
    indexOf marker (before ++ marker ++ rest') = some before.length := by
  induction before with
  | nil => exact indexOf_append_self marker rest'
  | cons a before ih =>
    have hno : ∀ tail, ¬marker <+: a :: (before ++ marker ++ tail) := by
      intro tail hstart
      -- the marker would start both texts
      have hshort : marker <+: a :: (before ++ marker) := by
        refine List.prefix_of_prefix_length_le hstart ?_ ?_
        · exact ⟨tail, by simp⟩
        · rw [List.length_cons, List.length_append]
          omega
      obtain ⟨tail', htail'⟩ := hshort
      have hzero : indexOf marker (a :: before ++ marker ++ rest) = some 0 := by
        rw [List.cons_append, ← htail', List.append_assoc]
        exact indexOf_append_self marker _
      rw [hzero] at h
      cases h
    rw [List.cons_append, List.cons_append, indexOf_cons_of_not (hno rest)] at h
    rw [List.cons_append, List.cons_append, indexOf_cons_of_not (hno rest')]
    obtain ⟨j, hj, hlength⟩ := Option.map_eq_some_iff.mp h
    have hprevious : j = before.length := Nat.succ.inj hlength
    rw [ih (hprevious ▸ hj)]
    rfl

lemma indexOf_drop {text : List α} {i n : ℕ} (h : indexOf marker text = some i) (hle : n ≤ i) :
    indexOf marker (text.drop n) = some (i - n) := by
  induction n generalizing text i with
  | zero => exact h
  | succ n ih =>
    cases text with
    | nil =>
      unfold indexOf at h
      split_ifs at h with hempty
      obtain rfl := Option.some.inj h
      exact absurd hle (Nat.not_succ_le_zero n)
    | cons a text =>
      unfold indexOf at h
      split_ifs at h with hstart
      · obtain rfl := Option.some.inj h
        exact absurd hle (Nat.not_succ_le_zero n)
      · obtain ⟨j, hj, rfl⟩ := Option.map_eq_some_iff.mp h
        rw [List.drop_succ_cons, ih hj (Nat.le_of_succ_le_succ hle), Nat.succ_sub_succ]

omit [DecidableEq α] in
lemma not_prefix_append_cons {c : α} (hc : c ∉ marker) {text rest : List α}
    (h : ¬marker <+: text) : ¬marker <+: text ++ c :: rest := by
  intro hstart
  rcases le_or_gt marker.length text.length with hle | hgt
  · exact h (List.prefix_of_prefix_length_le hstart (List.prefix_append _ _) hle)
  · obtain ⟨tail, htail⟩ := hstart
    have hget := congrArg (fun l => l[text.length]?) htail
    simp only [List.getElem?_append_left hgt, List.getElem?_append_right le_rfl, Nat.sub_self,
      List.getElem?_cons_zero] at hget
    exact hc (List.mem_of_getElem? hget)

lemma indexOf_append_cons {c : α} (hc : c ∉ marker) (hne : marker ≠ []) {before : List α}
    (h : ¬marker <:+: before) (rest : List α) :
    indexOf marker (before ++ c :: rest) =
      (indexOf marker rest).map fun i => before.length + 1 + i := by
  induction before with
  | nil =>
    have hstart : ¬marker <+: c :: rest :=
      @not_prefix_append_cons _ _ _ hc [] rest fun hprefix => hne (List.prefix_nil.mp hprefix)
    rw [List.nil_append, indexOf_cons_of_not hstart]
    cases indexOf marker rest with
    | none => rfl
    | some i =>
      rw [Option.map_some, Option.map_some, List.length_nil]
      congr 1
      omega
  | cons a before ih =>
    rw [List.infix_cons_iff, not_or] at h
    have hstart := @not_prefix_append_cons _ _ _ hc _ rest h.1
    rw [List.cons_append] at hstart ⊢
    rw [indexOf_cons_of_not hstart, ih h.2]
    cases indexOf marker rest with
    | none => rfl
    | some i =>
      simp only [Option.map_some, List.length_cons]
      congr 1
      omega

lemma infix_append_cons_iff {c : α} (hc : c ∉ marker) (hne : marker ≠ []) {before rest : List α} :
    marker <:+: before ++ c :: rest ↔ marker <:+: before ∨ marker <:+: rest := by
  constructor
  · intro h
    by_contra hnot
    rw [not_or] at hnot
    have hnone := indexOf_append_cons hc hne hnot.1 rest
    rw [indexOf_eq_none_iff.mpr hnot.2] at hnone
    exact indexOf_eq_none_iff.mp hnone h
  · rintro (h | h)
    · exact h.trans (List.prefix_append _ _).isInfix
    · exact h.trans ((List.suffix_cons c rest).trans (List.suffix_append _ _)).isInfix

end Codemem

import Mathlib.Data.List.DropRight
import Mathlib.Data.List.Basic
import Mathlib.Tactic.Common

/-!
# Texts as code units

A text of the runtime is a list of UTF-16 code units; slices and lengths count units.  Trimming,
joining and slicing change whitespace alone: the units that are not whitespace (`visible`) stay, in
order.
-/

namespace Codemem

/-- The code units that `trim` and `\s` treat as whitespace. -/
def isSpaceUnit (unit : ℕ) : Bool :=
  decide (9 ≤ unit ∧ unit ≤ 13) || unit == 32 || unit == 160 || unit == 0x1680 ||
    decide (0x2000 ≤ unit ∧ unit ≤ 0x200a) || unit == 0x2028 || unit == 0x2029 ||
      unit == 0x202f || unit == 0x205f || unit == 0x3000 || unit == 0xfeff

/-- `text.trim()`. -/
def trimUnits (text : List ℕ) : List ℕ := (text.dropWhile isSpaceUnit).rdropWhile isSpaceUnit

/-- `texts.join(separator)`. -/
def joinUnits (separator : List ℕ) : List (List ℕ) → List ℕ
  | [] => []
  | [text] => text
  | text :: texts => text ++ separator ++ joinUnits separator texts

/-- The slices of a text of a length, while there are units left; the fuel bounds their number. -/
def slicesFrom (size : ℕ) : ℕ → List ℕ → List (List ℕ)
  | 0, _ => []
  | fuel + 1, text =>
    if text.isEmpty then [] else text.take size :: slicesFrom size fuel (text.drop size)

/-- The slices of a text: `for (let i = 0; i < text.length; i += size) text.slice(i, i + size)`. -/
def slicesOf (size : ℕ) (text : List ℕ) : List (List ℕ) := slicesFrom size text.length text

/-- The units of a text that are not whitespace. -/
def visible (text : List ℕ) : List ℕ := text.filter fun unit => !isSpaceUnit unit

section Visible

variable {text texts : List ℕ} {size fuel : ℕ}

@[simp] lemma visible_nil : visible [] = [] := rfl

@[simp] lemma visible_append (a b : List ℕ) : visible (a ++ b) = visible a ++ visible b :=
  List.filter_append _ _

lemma visible_eq_nil (h : ∀ unit ∈ text, isSpaceUnit unit = true) : visible text = [] := by
  refine List.filter_eq_nil_iff.mpr fun unit hunit => ?_
  simp [h unit hunit]

lemma visible_dropWhile (text : List ℕ) : visible (text.dropWhile isSpaceUnit) = visible text := by
  have hsplit := congrArg visible (List.takeWhile_append_dropWhile (p := isSpaceUnit) (l := text))
  have hspaces : visible (text.takeWhile isSpaceUnit) = [] :=
    visible_eq_nil fun _ hunit => List.mem_takeWhile_imp hunit
  rw [visible_append, hspaces, List.nil_append] at hsplit
  exact hsplit

lemma visible_trimUnits (text : List ℕ) : visible (trimUnits text) = visible text := by
  have hreverse : ∀ units : List ℕ, visible units.reverse = (visible units).reverse :=
    fun units => List.filter_reverse
  unfold trimUnits List.rdropWhile
  rw [hreverse, visible_dropWhile, hreverse, List.reverse_reverse, visible_dropWhile]

@[simp] lemma joinUnits_cons_cons (separator first second : List ℕ) (texts : List (List ℕ)) :
    joinUnits separator (first :: second :: texts) =
      first ++ separator ++ joinUnits separator (second :: texts) := rfl

lemma joinUnits_append_singleton (separator : List ℕ) {texts : List (List ℕ)} (hne : texts ≠ [])
    (text : List ℕ) :
    joinUnits separator (texts ++ [text]) = joinUnits separator texts ++ separator ++ text := by
  induction texts with
  | nil => exact absurd rfl hne
  | cons first texts ih =>
    cases texts with
    | nil => rfl
    | cons second texts =>
      rw [List.cons_append, List.cons_append, joinUnits_cons_cons, ← List.cons_append,
        ih (List.cons_ne_nil _ _), joinUnits_cons_cons]
      simp only [List.append_assoc]

lemma length_joinUnits_append_le (separator : List ℕ) (texts : List (List ℕ)) (text : List ℕ) :
    (joinUnits separator (texts ++ [text])).length ≤
      (joinUnits separator texts).length + separator.length + text.length := by
  by_cases hne : texts = []
  · subst hne
    exact Nat.le_add_left _ _
  · rw [joinUnits_append_singleton separator hne, List.length_append, List.length_append]

lemma visible_joinUnits {separator : List ℕ} (hseparator : visible separator = [])
    (texts : List (List ℕ)) : visible (joinUnits separator texts) = visible texts.flatten := by
  induction texts with
  | nil => rfl
  | cons first texts ih =>
    cases texts with
    | nil => simp [joinUnits]
    | cons second texts =>
      rw [joinUnits_cons_cons, visible_append, visible_append, hseparator, ih, List.append_nil,
        List.flatten_cons (l := first), visible_append]

lemma joinUnits_ne_nil {separator : List ℕ} {texts : List (List ℕ)} (hne : texts ≠ [])
    (htexts : ∀ text ∈ texts, text ≠ []) : joinUnits separator texts ≠ [] := by
  cases texts with
  | nil => exact absurd rfl hne
  | cons first rest =>
    have hfirst := htexts first List.mem_cons_self
    cases rest with
    | nil => exact hfirst
    | cons second rest =>
      rw [joinUnits_cons_cons]
      simp [hfirst]

lemma flatten_slicesFrom (hsize : 0 < size) (hfuel : text.length ≤ fuel) :
    (slicesFrom size fuel text).flatten = text := by
  induction fuel generalizing text with
  | zero => exact (List.length_eq_zero_iff.mp (Nat.le_zero.mp hfuel)).symm
  | succ fuel ih =>
    unfold slicesFrom
    split_ifs with hempty
    · exact (List.isEmpty_iff.mp hempty).symm
    · have hdrop : (text.drop size).length ≤ fuel := by
        rw [List.length_drop]
        omega
      rw [List.flatten_cons, ih hdrop, List.take_append_drop]

lemma slicesFrom_bounds (hsize : 0 < size) {slice : List ℕ}
    (h : slice ∈ slicesFrom size fuel text) : slice ≠ [] ∧ slice.length ≤ size := by
  induction fuel generalizing text with
  | zero => cases h
  | succ fuel ih =>
    unfold slicesFrom at h
    split_ifs at h with hempty
    · cases h
    · rcases List.mem_cons.mp h with rfl | h
      · refine ⟨fun hnil => ?_, List.length_take_le _ _⟩
        rcases List.take_eq_nil_iff.mp hnil with hzero | hnone
        · omega
        · exact hempty (List.isEmpty_iff.mpr hnone)
      · exact ih h

end Visible

end Codemem

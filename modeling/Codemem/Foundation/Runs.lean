import Mathlib.Data.List.Pairwise
import Mathlib.Order.Basic
import Mathlib.Data.Int.Order.Basic
import Mathlib.Tactic.Common

/-!
# Runs of integers

A set of integers that is a finite union of intervals is listed as its maximal runs: nonempty
intervals in increasing order, with a gap between any two.  The list is determined by the set
(`IsRuns.eq_of_covers`).
-/

namespace Codemem

/-- An interval of the list has the integer. -/
def CoversInt (runs : List (ℤ × ℤ)) (n : ℤ) : Prop := ∃ run ∈ runs, run.1 ≤ n ∧ n ≤ run.2

/-- Nonempty intervals in increasing order, with gaps between them. -/
structure IsRuns (runs : List (ℤ × ℤ)) : Prop where
  nonempty : ∀ run ∈ runs, run.1 ≤ run.2
  separated : runs.Pairwise fun run run' => run.2 + 1 < run'.1

namespace IsRuns

variable {run : ℤ × ℤ} {runs runs' : List (ℤ × ℤ)}

lemma tail (h : IsRuns (run :: runs)) : IsRuns runs :=
  ⟨fun r hr => h.nonempty r (List.mem_cons_of_mem _ hr), (List.pairwise_cons.mp h.separated).2⟩

lemma not_covers_tail (h : IsRuns (run :: runs)) {n : ℤ} (hn : n ≤ run.2 + 1) :
    ¬ CoversInt runs n := by
  rintro ⟨other, hother, hlo, -⟩
  have hgap := (List.pairwise_cons.mp h.separated).1 other hother
  omega

lemma le_of_covers (h : IsRuns (run :: runs)) {n : ℤ} (hn : CoversInt (run :: runs) n) :
    run.1 ≤ n := by
  obtain ⟨other, hother, hlo, -⟩ := hn
  rcases List.mem_cons.mp hother with rfl | hrest
  · exact hlo
  · have hgap := (List.pairwise_cons.mp h.separated).1 other hrest
    have hfirst := h.nonempty run List.mem_cons_self
    omega

lemma covers_iff_of_head (h : IsRuns (run :: runs)) {n : ℤ} (hlo : run.1 ≤ n)
    (hhi : n ≤ run.2 + 1) : CoversInt (run :: runs) n ↔ n ≤ run.2 := by
  constructor
  · rintro ⟨other, hother, hother'⟩
    rcases List.mem_cons.mp hother with rfl | hrest
    · exact hother'.2
    · exact absurd ⟨other, hrest, hother'⟩ (h.not_covers_tail hhi)
  · exact fun hle => ⟨run, List.mem_cons_self, hlo, hle⟩

/-- The runs of a set are determined by it. -/
theorem eq_of_covers (h : IsRuns runs) (h' : IsRuns runs')
    (hcovers : ∀ n, CoversInt runs n ↔ CoversInt runs' n) : runs = runs' := by
  induction runs generalizing runs' with
  | nil =>
    cases runs' with
    | nil => rfl
    | cons run' runs' =>
      obtain ⟨_, hmem, -⟩ := (hcovers run'.1).mpr
        ⟨run', List.mem_cons_self, le_rfl, h'.nonempty run' List.mem_cons_self⟩
      cases hmem
  | cons run runs ih =>
    cases runs' with
    | nil =>
      obtain ⟨_, hmem, -⟩ := (hcovers run.1).mp
        ⟨run, List.mem_cons_self, le_rfl, h.nonempty run List.mem_cons_self⟩
      cases hmem
    | cons run' runs' =>
      have hne := h.nonempty run List.mem_cons_self
      have hne' := h'.nonempty run' List.mem_cons_self
      -- both lists begin with the least integer, and their first runs end before the first gap
      have hfirst : run.1 = run'.1 := le_antisymm
        (h.le_of_covers ((hcovers _).mpr ⟨run', List.mem_cons_self, le_rfl, hne'⟩))
        (h'.le_of_covers ((hcovers _).mp ⟨run, List.mem_cons_self, le_rfl, hne⟩))
      have hlast : run.2 = run'.2 := by
        rcases lt_trichotomy run.2 run'.2 with hlt | heq | hlt
        · have hnext := (hcovers (run.2 + 1)).mpr
            ⟨run', List.mem_cons_self, by omega, by omega⟩
          have hle := (h.covers_iff_of_head (by omega) le_rfl).mp hnext
          omega
        · exact heq
        · have hnext := (hcovers (run'.2 + 1)).mp
            ⟨run, List.mem_cons_self, by omega, by omega⟩
          have hle := (h'.covers_iff_of_head (by omega) le_rfl).mp hnext
          omega
      obtain rfl : run = run' := Prod.ext hfirst hlast
      rw [ih h.tail h'.tail fun n => ?_]
      by_cases hn : n ≤ run.2 + 1
      · exact iff_of_false (h.not_covers_tail hn) (h'.not_covers_tail hn)
      · have hcons : ∀ rest, CoversInt (run :: rest) n ↔ CoversInt rest n := by
          intro rest
          constructor
          · rintro ⟨other, hother, hlo, hhi⟩
            rcases List.mem_cons.mp hother with rfl | hrest
            · omega
            · exact ⟨other, hrest, hlo, hhi⟩
          · rintro ⟨other, hother, hbounds⟩
            exact ⟨other, List.mem_cons_of_mem _ hother, hbounds⟩
        rw [← hcons runs, ← hcons runs']
        exact hcovers n

end IsRuns

end Codemem

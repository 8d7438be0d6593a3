import Mathlib

/-!
# Union-find without ranks

A forest is a parent function; a root is its own parent.  `find` follows the parents with fuel and
lets every node on its way point to the root.  A forest whose chains are no longer than the fuel is
searched to the root, and a search shortens chains only.  After joining the pairs of a list, two
nodes have one root exactly when the pairs connect them (`represents_unionAll`).
-/

namespace Codemem

namespace UnionFind

variable {κ : Type*} [DecidableEq κ]

/-- The root of a node, and the forest in which the way there is compressed. -/
def find : ℕ → (κ → κ) → κ → κ × (κ → κ)
  | 0, parent, x => (x, parent)
  | fuel + 1, parent, x =>
    if parent x = x then (x, parent)
    else
      let found := find fuel parent (parent x)
      (found.1, Function.update found.2 x found.1)

/-- The root of the second node gets the root of the first as its parent. -/
def union (fuel : ℕ) (parent : κ → κ) (a b : κ) : κ → κ :=
  let foundA := find fuel parent a
  let foundB := find fuel foundA.2 b
  if foundA.1 = foundB.1 then foundB.2 else Function.update foundB.2 foundB.1 foundA.1

/-- The pairs of a list are joined. -/
def unionAll (fuel : ℕ) (parent : κ → κ) (pairs : List (κ × κ)) : κ → κ :=
  pairs.foldl (fun parent pair => union fuel parent pair.1 pair.2) parent

/-- The chain of a node ends in a root after a number of steps. -/
def Reaches (parent : κ → κ) (steps : ℕ) (x root : κ) : Prop :=
  parent^[steps] x = root ∧ parent root = root

namespace Reaches

variable {parent : κ → κ} {m n : ℕ} {x r s : κ}

omit [DecidableEq κ] in
lemma mono (h : Reaches parent m x r) (hle : m ≤ n) : Reaches parent n x r := by
  obtain ⟨k, rfl⟩ := Nat.exists_eq_add_of_le hle
  refine ⟨?_, h.2⟩
  rw [Nat.add_comm, Function.iterate_add_apply, h.1, Function.iterate_fixed h.2]

omit [DecidableEq κ] in
lemma unique (h : Reaches parent m x r) (h' : Reaches parent n x s) : r = s := by
  have hr := (h.mono (Nat.le_max_left m n)).1
  have hs := (h'.mono (Nat.le_max_right m n)).1
  exact hr.symm.trans hs

end Reaches

variable {parent : κ → κ} {fuel k : ℕ} {x r : κ}

lemma reaches_update (hx : Reaches parent k x r) (hne : x ≠ r) {j : ℕ} {y s : κ}
    (hy : Reaches parent j y s) : Reaches (Function.update parent x r) j y s := by
  have hroot : ∀ t, parent t = t → t = x → False := by
    rintro t ht rfl
    have hself : Reaches parent 0 t t := ⟨rfl, ht⟩
    exact hne (hself.unique hx)
  have hfixed : Function.update parent x r s = s := by
    rw [Function.update_of_ne fun heq => hroot s hy.2 heq]
    exact hy.2
  refine ⟨?_, hfixed⟩
  induction j generalizing y with
  | zero => exact hy.1
  | succ j ih =>
    rw [Function.iterate_succ_apply]
    by_cases heq : y = x
    · subst heq
      obtain rfl := hx.unique hy
      rw [Function.update_self, Function.iterate_fixed hfixed]
    · rw [Function.update_of_ne heq]
      refine ih ⟨?_, hy.2⟩
      rw [← Function.iterate_succ_apply]
      exact hy.1

lemma find_spec (hx : Reaches parent k x r) (hk : k ≤ fuel) :
    (find fuel parent x).1 = r ∧
      ∀ j y s, Reaches parent j y s → Reaches (find fuel parent x).2 j y s := by
  induction fuel generalizing x k with
  | zero =>
    obtain rfl := Nat.le_zero.mp hk
    exact ⟨hx.1, fun _ _ _ h => h⟩
  | succ fuel ih =>
    unfold find
    split_ifs with hroot
    · have hself : Reaches parent 0 x x := ⟨rfl, hroot⟩
      exact ⟨hself.unique hx, fun _ _ _ h => h⟩
    · cases k with
      | zero =>
        obtain ⟨rfl, hr⟩ := hx
        exact absurd hr hroot
      | succ k =>
        have hnext : Reaches parent k (parent x) r :=
          ⟨(Function.iterate_succ_apply parent k x).symm.trans hx.1, hx.2⟩
        obtain ⟨hfound, hkeep⟩ := ih hnext (Nat.le_of_succ_le_succ hk)
        have hne : x ≠ r := by
          rintro rfl
          exact hroot hx.2
        refine ⟨hfound, fun j y s hy => ?_⟩
        dsimp only
        rw [hfound]
        exact reaches_update (hkeep _ _ _ hx) hne (hkeep j y s hy)

/-- Every chain ends within a number of steps, and nodes with one root are those that the pairs
connect. -/
structure Represents (parent : κ → κ) (steps : ℕ) (pairs : κ → κ → Prop) : Prop where
  reaches : ∀ x, Reaches parent steps x (parent^[steps] x)
  root_iff : ∀ x y, parent^[steps] x = parent^[steps] y ↔ Relation.EqvGen pairs x y

omit [DecidableEq κ] in
lemma Represents.initial : Represents (id : κ → κ) 0 fun _ _ => False where
  reaches := fun _ => ⟨rfl, rfl⟩
  root_iff := by
    intro x y
    constructor
    · rintro rfl
      exact .refl _
    · intro h
      induction h with
      | rel _ _ h => exact h.elim
      | refl => rfl
      | symm _ _ _ ih => exact ih.symm
      | trans _ _ _ _ _ ih ih' => exact ih.trans ih'

/-- The roots after joining two nodes. -/
lemma reaches_union {steps : ℕ} (hreaches : ∀ x, Reaches parent steps x (parent^[steps] x))
    (hfuel : steps ≤ fuel) (a b z : κ) :
    Reaches (union fuel parent a b) (steps + 1) z
      (if parent^[steps] z = parent^[steps] b then parent^[steps] a else parent^[steps] z) := by
  obtain ⟨hrootA, hkeepA⟩ := find_spec (hreaches a) hfuel
  have hb := hkeepA _ _ _ (hreaches b)
  obtain ⟨hrootB, hkeepB⟩ := find_spec hb hfuel
  have hkeep : ∀ y, Reaches (find fuel (find fuel parent a).2 b).2 steps y (parent^[steps] y) :=
    fun y => hkeepB _ _ _ (hkeepA _ _ _ (hreaches y))
  unfold union
  dsimp only
  rw [hrootA, hrootB]
  generalize (find fuel (find fuel parent a).2 b).2 = forest at hkeep
  split_ifs with hsame hz hz
  · rw [hsame, ← hz]
    exact (hkeep z).mono (Nat.le_succ _)
  · exact (hkeep z).mono (Nat.le_succ _)
  · -- The chain of `z` ends at the root of `b`, which now points to the root of `a`.
    have hrootOfA : Function.update forest (parent^[steps] b) (parent^[steps] a)
        (parent^[steps] a) = parent^[steps] a := by
      rw [Function.update_of_ne hsame]
      exact (hkeep a).2
    refine ⟨?_, hrootOfA⟩
    have hchain : ∀ j y, Reaches forest j y (parent^[steps] b) →
        (Function.update forest (parent^[steps] b) (parent^[steps] a))^[j + 1] y =
          parent^[steps] a := by
      intro j
      induction j with
      | zero =>
        rintro y ⟨rfl, -⟩
        exact Function.update_self _ _ _
      | succ j ih =>
        intro y hy
        rw [Function.iterate_succ_apply]
        by_cases heq : y = parent^[steps] b
        · rw [heq, Function.update_self, Function.iterate_fixed hrootOfA]
        · rw [Function.update_of_ne heq]
          exact ih _ ⟨(Function.iterate_succ_apply forest j y).symm.trans hy.1, hy.2⟩
    exact hchain steps z (hz ▸ hkeep z)
  · -- The chain of `z` does not meet the root of `b`.
    have hfixed : Function.update forest (parent^[steps] b) (parent^[steps] a)
        (parent^[steps] z) = parent^[steps] z := by
      rw [Function.update_of_ne hz]
      exact (hkeep z).2
    refine (show Reaches _ steps z _ from ⟨?_, hfixed⟩).mono (Nat.le_succ _)
    have hchain : ∀ j y, Reaches forest j y (parent^[steps] z) →
        (Function.update forest (parent^[steps] b) (parent^[steps] a))^[j] y =
          parent^[steps] z := by
      intro j
      induction j with
      | zero => exact fun y hy => hy.1
      | succ j ih =>
        intro y hy
        have hne : y ≠ parent^[steps] b := by
          rintro rfl
          have hself : Reaches forest 0 (parent^[steps] b) (parent^[steps] b) :=
            ⟨rfl, (hkeep b).2⟩
          exact hz (hself.unique hy).symm
        rw [Function.iterate_succ_apply, Function.update_of_ne hne]
        exact ih _ ⟨(Function.iterate_succ_apply forest j y).symm.trans hy.1, hy.2⟩
    exact hchain steps z (hkeep z)

lemma Represents.union {steps : ℕ} {pairs : κ → κ → Prop} (h : Represents parent steps pairs)
    (hfuel : steps ≤ fuel) (a b : κ) :
    Represents (UnionFind.union fuel parent a b) (steps + 1)
      fun x y => pairs x y ∨ x = a ∧ y = b := by
  have hroots := reaches_union h.reaches hfuel a b
  have hmono : ∀ {x y}, parent^[steps] x = parent^[steps] y →
      Relation.EqvGen (fun x y => pairs x y ∨ x = a ∧ y = b) x y :=
    fun heq => ((h.root_iff _ _).mp heq).mono fun _ _ => .inl
  have hjoin : Relation.EqvGen (fun x y => pairs x y ∨ x = a ∧ y = b) a b :=
    .rel _ _ (.inr ⟨rfl, rfl⟩)
  refine ⟨fun x => ?_, fun x y => ?_⟩
  · rw [(hroots x).1]
    exact hroots x
  · rw [(hroots x).1, (hroots y).1]
    constructor
    · intro heq
      split_ifs at heq with hx hy hy
      · exact hmono (hx.trans hy.symm)
      · exact .trans _ _ _ (hmono hx) (.trans _ _ _ (.symm _ _ hjoin) (hmono heq))
      · exact .trans _ _ _ (hmono heq) (.trans _ _ _ hjoin (hmono hy.symm))
      · exact hmono heq
    · intro hconnected
      induction hconnected with
      | rel x y hpair =>
        rcases hpair with hpair | ⟨rfl, rfl⟩
        · rw [(h.root_iff x y).mpr (.rel _ _ hpair)]
        · rw [if_pos rfl]
          split_ifs
          · rfl
          · rfl
      | refl => rfl
      | symm _ _ _ ih => exact ih.symm
      | trans _ _ _ _ _ ih ih' => exact ih.trans ih'

/-- Joining the pairs of a list one after the other. -/
theorem represents_unionAll (fuel : ℕ) {pairs : List (κ × κ)} (hfuel : pairs.length ≤ fuel) :
    Represents (unionAll fuel id pairs) pairs.length fun x y => (x, y) ∈ pairs := by
  induction pairs using List.reverseRecOn with
  | nil => simpa [unionAll] using @Represents.initial κ
  | append_singleton pairs pair ih =>
    rw [List.length_append, List.length_singleton] at hfuel ⊢
    have hbefore := ih (Nat.le_of_succ_le hfuel)
    have hall : unionAll fuel id (pairs ++ [pair]) =
        UnionFind.union fuel (unionAll fuel id pairs) pair.1 pair.2 := by
      rw [unionAll, List.foldl_append]
      rfl
    have hpairs : (fun x y => (x, y) ∈ pairs ++ [pair]) =
        fun x y => (x, y) ∈ pairs ∨ x = pair.1 ∧ y = pair.2 := by
      funext x y
      rw [List.mem_append, List.mem_singleton, Prod.ext_iff]
    rw [hall, hpairs]
    exact hbefore.union (Nat.le_of_succ_le hfuel) pair.1 pair.2

end UnionFind

end Codemem

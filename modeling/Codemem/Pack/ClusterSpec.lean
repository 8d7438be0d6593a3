import Codemem.Pack.Clusters

/-!
# Clusters are connected components

Two items are joined when their titles share three words.  The roots of the forest tell which items
are connected (`UnionFind.represents_unionAll`), so a cluster is a component.  The comparison of
representatives follows a strict order, and an item of a cluster that precedes all others comes first
when the cluster is sorted (`chooseRepresentative_eq`).
-/

namespace Codemem

section Components

variable {tools : TextTools} {items : List PackMemory}

/-! ### Pairs -/

lemma mem_of_mem_orderedPairs {α : Type*} {l : List α} {a b : α} (h : (a, b) ∈ orderedPairs l) :
    a ∈ l ∧ b ∈ l := by
  induction l with
  | nil => cases h
  | cons c l ih =>
    rw [orderedPairs, List.mem_append, List.mem_map] at h
    rcases h with ⟨d, hd, heq⟩ | h
    · obtain ⟨rfl, rfl⟩ := Prod.mk.inj heq
      exact ⟨List.mem_cons_self, List.mem_cons_of_mem _ hd⟩
    · exact ⟨List.mem_cons_of_mem _ (ih h).1, List.mem_cons_of_mem _ (ih h).2⟩

lemma mem_orderedPairs_or {α : Type*} {l : List α} {a b : α} (ha : a ∈ l) (hb : b ∈ l)
    (hne : a ≠ b) : (a, b) ∈ orderedPairs l ∨ (b, a) ∈ orderedPairs l := by
  induction l with
  | nil => cases ha
  | cons c l ih =>
    simp only [orderedPairs, List.mem_append, List.mem_map, Prod.mk.injEq]
    rcases List.mem_cons.mp ha with rfl | hrestA
    · exact .inl (.inl ⟨b, (List.mem_cons.mp hb).resolve_left (Ne.symm hne), rfl, rfl⟩)
    · rcases List.mem_cons.mp hb with rfl | hrestB
      · exact .inr (.inl ⟨a, hrestA, rfl, rfl⟩)
      · exact (ih hrestA hrestB).imp .inr .inr

lemma length_overlapWords_comm {a b : List String} (ha : a.Nodup) (hb : b.Nodup) :
    (overlapWords a b).length = (overlapWords b a).length := by
  have hperm : (a.filter fun word => b.contains word).Perm (b.filter fun word => a.contains word) :=
    (List.perm_ext_iff_of_nodup (ha.filter _) (hb.filter _)).mpr fun word => by
      simp only [List.mem_filter, List.contains_iff_mem, and_comm]
  rw [overlapWords, overlapWords, (perm_sortByPos _ _).length_eq, (perm_sortByPos _ _).length_eq,
    hperm.length_eq]

/-- Two items share at least three significant title words. -/
def Joined (tools : TextTools) (items : List PackMemory) (x y : ℤ) : Prop :=
  ∃ a ∈ items, ∃ b ∈ items, a.id = x ∧ b.id = y ∧
    3 ≤ (overlapWords (significantWords tools a.title) (significantWords tools b.title)).length

/-- Two items lie in one component of the graph of joined items. -/
def Connected (tools : TextTools) (items : List PackMemory) (a b : PackMemory) : Prop :=
  Relation.EqvGen (Joined tools items) a.id b.id

lemma eqvGen_joinedPairs_iff {x y : ℤ} :
    Relation.EqvGen (fun x y => (x, y) ∈ joinedPairs tools items) x y ↔
      Relation.EqvGen (Joined tools items) x y := by
  constructor
  · intro h
    refine h.mono fun x y hpair => ?_
    obtain ⟨⟨a, b⟩, hmem, heq⟩ := List.mem_map.mp hpair
    obtain ⟨hpair, hshare⟩ := List.mem_filter.mp hmem
    obtain ⟨ha, hb⟩ := mem_of_mem_orderedPairs hpair
    obtain ⟨rfl, rfl⟩ := Prod.mk.inj heq
    exact ⟨a, ha, b, hb, rfl, rfl, of_decide_eq_true hshare⟩
  · intro h
    have hnodup : ∀ title, (significantWords tools title).Nodup := fun _ => List.nodup_dedup _
    induction h with
    | rel x y hjoined =>
      obtain ⟨a, ha, b, hb, rfl, rfl, hshare⟩ := hjoined
      by_cases hne : a = b
      · rw [hne]
        exact .refl _
      · rcases mem_orderedPairs_or ha hb hne with hpair | hpair
        · exact .rel _ _ (List.mem_map.mpr ⟨(a, b),
            List.mem_filter.mpr ⟨hpair, decide_eq_true hshare⟩, rfl⟩)
        · rw [length_overlapWords_comm (hnodup _) (hnodup _)] at hshare
          exact .symm _ _ (.rel _ _ (List.mem_map.mpr ⟨(b, a),
            List.mem_filter.mpr ⟨hpair, decide_eq_true hshare⟩, rfl⟩))
    | refl x => exact .refl x
    | symm _ _ _ ih => exact .symm _ _ ih
    | trans _ _ _ _ _ ih ih' => exact .trans _ _ _ ih ih'

/-! ### The clusters of the loop -/

def itemsOfRoot (root : ℤ → ℤ) (items : List PackMemory) (r : ℤ) : List PackMemory :=
  items.filter fun item => decide (root item.id = r)

lemma clustersByRoot_eq {parent forest : ℤ → ℤ} {steps fuel : ℕ} (hfuel : steps ≤ fuel)
    (hforest : ∀ x, UnionFind.Reaches forest steps x (parent^[steps] x))
    (groups : List (ℤ × List PackMemory)) :
    (items.foldl (fun acc item =>
      let found := UnionFind.find fuel acc.1 item.id
      (found.2, insertOrUpdate Prod.fst (found.1, [item])
        (fun cluster => (cluster.1, cluster.2 ++ [item])) acc.2)) (forest, groups)).2 =
      items.foldl (fun groups item => insertOrUpdate Prod.fst (parent^[steps] item.id, [item])
        (fun cluster => (cluster.1, cluster.2 ++ [item])) groups) groups := by
  induction items generalizing forest groups with
  | nil => rfl
  | cons item items ih =>
    obtain ⟨hroot, hkeep⟩ := UnionFind.find_spec (hforest item.id) hfuel
    rw [List.foldl_cons, List.foldl_cons]
    dsimp only
    rw [hroot]
    exact ih (fun x => hkeep _ _ _ (hforest x)) _

lemma foldl_collect {r : ℤ} {members : List PackMemory} {root : ℤ → ℤ}
    (hroot : ∀ item ∈ members, root item.id = r) (front : List PackMemory) :
    members.foldl (fun found item => some ((found.map fun cluster : ℤ × List PackMemory =>
        (cluster.1, cluster.2 ++ [item])).getD (root item.id, [item]))) (some (r, front)) =
      some (r, front ++ members) := by
  induction members generalizing front with
  | nil => rw [List.append_nil, List.foldl_nil]
  | cons item members ih =>
    rw [List.foldl_cons, Option.map_some, Option.getD_some,
      ih (fun other hother => hroot other (List.mem_cons_of_mem _ hother)), List.append_assoc,
      List.singleton_append]

lemma mem_clusters_iff {root : ℤ → ℤ} {entry : ℤ × List PackMemory} :
    entry ∈ items.foldl (fun groups item => insertOrUpdate Prod.fst (root item.id, [item])
        (fun cluster => (cluster.1, cluster.2 ++ [item])) groups) [] ↔
      entry.2 = itemsOfRoot root items entry.1 ∧ entry.2 ≠ [] := by
  have hnodup := @nodup_foldl_insertOrUpdate _ _ _ Prod.fst PackMemory
    (fun item => (root item.id, [item])) (fun item cluster => (cluster.1, cluster.2 ++ [item]))
    (fun _ _ _ => rfl) items [] List.nodup_nil
  have hrow := @rowAt_eq_some_iff _ _ _ Prod.fst _ hnodup entry.1 entry
  simp only [and_true] at hrow
  have hfold := @rowAt_foldl_insertOrUpdate _ _ _ Prod.fst PackMemory
    (fun item => (root item.id, [item])) (fun item cluster => (cluster.1, cluster.2 ++ [item]))
    (fun _ _ _ => rfl) entry.1 items []
  rw [← hrow, hfold]
  change (itemsOfRoot root items entry.1).foldl _ none = some entry ↔ _
  have hroot : ∀ item ∈ itemsOfRoot root items entry.1, root item.id = entry.1 :=
    fun item hitem => of_decide_eq_true (List.mem_filter.mp hitem).2
  cases hmembers : itemsOfRoot root items entry.1 with
  | nil =>
    simp only [List.foldl_nil, reduceCtorEq, false_iff, not_and, not_not]
    exact fun h => h
  | cons item members =>
    rw [hmembers] at hroot
    rw [List.foldl_cons, Option.map_none, Option.getD_none,
      hroot item List.mem_cons_self,
      foldl_collect (fun other hother => hroot other (List.mem_cons_of_mem _ hother)),
      Option.some.injEq, List.singleton_append]
    constructor
    · intro heq
      have hsnd : item :: members = entry.2 := congrArg Prod.snd heq
      rw [← hsnd]
      exact ⟨rfl, List.cons_ne_nil _ _⟩
    · rintro ⟨heq, -⟩
      exact Prod.ext rfl heq.symm

/-! ### The representative of a cluster -/

/-- The order of representatives: the greater confidence, the later creation, a narrative, the lower
id. -/
def Precedes (tools : TextTools) (a b : PackMemory) : Prop :=
  b.confidence < a.confidence ∨ a.confidence = b.confidence ∧
    (0 < tools.localeCompare a.createdAt b.createdAt ∨ a.createdAt = b.createdAt ∧
      (b.hasNarrative < a.hasNarrative ∨ a.hasNarrative = b.hasNarrative ∧ a.id < b.id))

lemma compareRepresentatives_neg_iff (hcompare : IsConsistentCompare tools.localeCompare)
    (a b : PackMemory) : compareRepresentatives tools a b < 0 ↔ Precedes tools a b := by
  unfold compareRepresentatives Precedes
  split_ifs with hconfidence hcreated hnarrative
  · have hne : a.confidence ≠ b.confidence := Ne.symm hconfidence
    simp [sub_neg, hne]
  · have hconf : a.confidence = b.confidence := (not_not.mp hconfidence).symm
    have hne : a.createdAt ≠ b.createdAt := Ne.symm hcreated
    simp only [hconf, lt_irrefl, false_or, true_and, hne, false_and, or_false]
    rw [hcompare.swap]
    exact_mod_cast Iff.rfl
  · have hconf : a.confidence = b.confidence := (not_not.mp hconfidence).symm
    have htime : a.createdAt = b.createdAt := (not_not.mp hcreated).symm
    have hne : a.hasNarrative ≠ b.hasNarrative := Ne.symm hnarrative
    simp only [hconf, lt_irrefl, false_or, true_and, htime, hcompare.self, hne, false_and,
      or_false]
    rw [← Int.cast_sub, sub_eq_add_neg]
    norm_cast
    omega
  · have hconf : a.confidence = b.confidence := (not_not.mp hconfidence).symm
    have htime : a.createdAt = b.createdAt := (not_not.mp hcreated).symm
    have heq : a.hasNarrative = b.hasNarrative := (not_not.mp hnarrative).symm
    simp only [hconf, lt_irrefl, false_or, true_and, htime, hcompare.self, heq]
    rw [← Int.cast_sub]
    norm_cast
    omega

lemma Precedes.trans (hcompare : IsConsistentCompare tools.localeCompare) {a b c : PackMemory}
    (h : Precedes tools a b) (h' : Precedes tools b c) : Precedes tools a c := by
  rcases h with h | ⟨hconf, h⟩
  · rcases h' with h' | ⟨hconf', -⟩
    · exact .inl (h'.trans h)
    · exact .inl (hconf' ▸ h)
  · rcases h' with h' | ⟨hconf', h'⟩
    · exact .inl (hconf ▸ h')
    · refine .inr ⟨hconf.trans hconf', ?_⟩
      rcases h with h | ⟨htime, h⟩
      · rcases h' with h' | ⟨htime', -⟩
        · exact .inl (hcompare.pos_trans h h')
        · exact .inl (htime' ▸ h)
      · rcases h' with h' | ⟨htime', h'⟩
        · exact .inl (htime ▸ h')
        · exact .inr ⟨htime.trans htime', by omega⟩

lemma Precedes.irrefl (hcompare : IsConsistentCompare tools.localeCompare) (a : PackMemory) :
    ¬ Precedes tools a a := by
  rintro (h | ⟨-, h | ⟨-, h⟩⟩)
  · exact lt_irrefl _ h
  · rw [hcompare.self] at h
    exact lt_irrefl _ h
  · omega

lemma compareRepresentatives_self (a : PackMemory) : compareRepresentatives tools a a = 0 := by
  simp [compareRepresentatives]

lemma compareRepresentatives_pos (hcompare : IsConsistentCompare tools.localeCompare)
    {a b : PackMemory} (h : Precedes tools a b) : 0 < compareRepresentatives tools b a := by
  unfold compareRepresentatives
  rcases h with hconf | ⟨hconf, htime | ⟨htime, hnarrative | ⟨hnarrative, hid⟩⟩⟩
  · rw [if_pos (ne_of_gt hconf)]
    exact sub_pos.mpr hconf
  · have hne : a.createdAt ≠ b.createdAt := by
      intro heq
      rw [heq, hcompare.self] at htime
      exact lt_irrefl _ htime
    rw [if_neg (not_not.mpr hconf), if_pos hne]
    exact_mod_cast htime
  · rw [if_neg (not_not.mpr hconf), if_neg (not_not.mpr htime), if_pos (ne_of_gt hnarrative)]
    have hpos := sub_pos.mpr hnarrative
    exact_mod_cast hpos
  · rw [if_neg (not_not.mpr hconf), if_neg (not_not.mpr htime), if_neg (not_not.mpr hnarrative)]
    have hpos := sub_pos.mpr hid
    exact_mod_cast hpos

lemma head?_insertionSort {α : Type*} {le : α → α → Prop} [DecidableRel le] {first : α}
    (hself : le first first) {l : List α} (hmem : first ∈ l)
    (hfirst : ∀ b ∈ l, b ≠ first → le first b ∧ ¬ le b first) :
    (l.insertionSort le).head? = some first := by
  induction l with
  | nil => cases hmem
  | cons x l ih =>
    have hrest := fun b hb => hfirst b (List.mem_cons_of_mem _ hb)
    rw [List.insertionSort_cons]
    cases hsort : l.insertionSort le with
    | nil =>
      have hnil : l = [] := by
        have hperm := List.perm_insertionSort le l
        rw [hsort] at hperm
        exact hperm.nil_eq.symm
      rw [hnil] at hmem
      rw [List.mem_singleton.mp hmem]
      rfl
    | cons y sorted =>
      rw [List.orderedInsert_cons]
      by_cases hl : first ∈ l
      · -- the rest already starts with it, and `x` goes before it only when it is it
        have hy := ih hl hrest
        rw [hsort, List.head?_cons, Option.some.injEq] at hy
        subst hy
        split_ifs with hle
        · by_contra hne
          have hx : x ≠ y := fun heq => hne (congrArg some heq)
          exact (hfirst x List.mem_cons_self hx).2 hle
        · rfl
      · obtain rfl := (List.mem_cons.mp hmem).resolve_right hl
        have hy : y ∈ l := by
          have hperm := List.perm_insertionSort le l
          rw [hsort] at hperm
          exact hperm.subset List.mem_cons_self
        rw [if_pos (hrest y hy fun heq => hl (heq ▸ hy)).1]
        rfl

lemma chooseRepresentative_eq (hcompare : IsConsistentCompare tools.localeCompare)
    {cluster : List PackMemory} {r : PackMemory} (hr : r ∈ cluster)
    (hfirst : ∀ b ∈ cluster, b ≠ r → Precedes tools r b) :
    chooseRepresentative tools cluster = some r := by
  refine head?_insertionSort (compareRepresentatives_self r).le hr fun b hb hne => ?_
  have hbefore := hfirst b hb hne
  exact ⟨((compareRepresentatives_neg_iff hcompare r b).mpr hbefore).le,
    not_le_of_gt (compareRepresentatives_pos hcompare hbefore)⟩

end Components

end Codemem

import Codemem.Pack.ClusterSpec

/-!
# What `compressClusters` keeps and records

A cluster of at least two items is recorded as a group: the id of its representative, and the ids of
the other items in increasing order.  The groups determine the three maps of the state and the items
that are filtered out (`compressClusters_components`).
-/

namespace Codemem

section Groups

variable {tools : TextTools} {items : List PackMemory}

/-! ### Clusters and groups -/

/-- The clusters of `compressClusters`. -/
def clustersOf (tools : TextTools) (items : List PackMemory) : List (List PackMemory) :=
  ((clustersByRoot (joinedPairs tools items).length
    (UnionFind.unionAll (joinedPairs tools items).length id (joinedPairs tools items)) items).2).map
      Prod.snd

lemma mem_clustersOf_iff {cluster : List PackMemory} :
    cluster ∈ clustersOf tools items ↔ ∃ r,
      cluster = itemsOfRoot ((UnionFind.unionAll (joinedPairs tools items).length id
        (joinedPairs tools items))^[(joinedPairs tools items).length]) items r ∧ cluster ≠ [] := by
  have hforest := UnionFind.represents_unionAll (joinedPairs tools items).length
    (le_refl (joinedPairs tools items).length)
  have hclusters := @clustersByRoot_eq items _ _ _ _ le_rfl hforest.reaches []
  have hclusters' : (clustersByRoot (joinedPairs tools items).length
      (UnionFind.unionAll (joinedPairs tools items).length id (joinedPairs tools items))
        items).2 = _ := hclusters
  unfold clustersOf
  rw [hclusters', List.mem_map]
  constructor
  · rintro ⟨entry, hentry, rfl⟩
    exact ⟨entry.1, mem_clusters_iff.mp hentry⟩
  · rintro ⟨r, h⟩
    exact ⟨(r, cluster), mem_clusters_iff.mpr h, rfl⟩

open Classical in
noncomputable def componentOf (tools : TextTools) (items : List PackMemory) (a : PackMemory) :
    List PackMemory :=
  items.filter fun b => decide (Connected tools items a b)

lemma mem_componentOf_iff {a b : PackMemory} :
    b ∈ componentOf tools items a ↔ b ∈ items ∧ Connected tools items a b := by
  classical rw [componentOf, List.mem_filter, decide_eq_true_iff]

lemma componentOf_eq {a b : PackMemory} (h : Connected tools items a b) :
    componentOf tools items a = componentOf tools items b := by
  unfold componentOf
  refine List.filter_congr fun c _ => ?_
  rw [decide_eq_decide]
  exact ⟨fun hac => .trans _ _ _ (.symm _ _ h) hac, fun hbc => .trans _ _ _ h hbc⟩

lemma itemsOfRoot_eq {a : PackMemory} :
    itemsOfRoot ((UnionFind.unionAll (joinedPairs tools items).length id
        (joinedPairs tools items))^[(joinedPairs tools items).length]) items
          (((UnionFind.unionAll (joinedPairs tools items).length id
            (joinedPairs tools items))^[(joinedPairs tools items).length]) a.id) =
      componentOf tools items a := by
  have hforest := UnionFind.represents_unionAll (joinedPairs tools items).length
    (le_refl (joinedPairs tools items).length)
  refine List.filter_congr fun b _ => decide_eq_decide.mpr ?_
  rw [eq_comm, hforest.root_iff, eqvGen_joinedPairs_iff]
  rfl

lemma mem_clustersOf_iff_component {cluster : List PackMemory} :
    cluster ∈ clustersOf tools items ↔ ∃ a ∈ items, cluster = componentOf tools items a := by
  rw [mem_clustersOf_iff]
  constructor
  · rintro ⟨r, rfl, hne⟩
    obtain ⟨a, ha⟩ := List.exists_mem_of_ne_nil _ hne
    obtain ⟨hitem, hroot⟩ := List.mem_filter.mp ha
    rw [← of_decide_eq_true hroot]
    exact ⟨a, hitem, itemsOfRoot_eq⟩
  · rintro ⟨a, ha, rfl⟩
    exact ⟨_, itemsOfRoot_eq.symm, List.ne_nil_of_mem (mem_componentOf_iff.mpr ⟨ha, .refl _⟩)⟩

def groupOf (tools : TextTools) (cluster : List PackMemory) : Option (ℤ × List ℤ) :=
  if cluster.length < 2 then none
  else (chooseRepresentative tools cluster).map fun representative =>
    (representative.id, sortByPos id
      ((cluster.filter fun item => item.id ≠ representative.id).map PackMemory.id))

/-- The item that the code chooses to represent its component. -/
structure IsChosen (tools : TextTools) (items : List PackMemory) (a : PackMemory) : Prop where
  mem : a ∈ items
  chosen : chooseRepresentative tools (componentOf tools items a) = some a

/-- A group: a representative and the other items of its component, in increasing order of ids. -/
structure IsGroup (tools : TextTools) (items : List PackMemory) (Represents : PackMemory → Prop)
    (representative : PackMemory) (ids : List ℤ) : Prop where
  represents : Represents representative
  nonempty : ids ≠ []
  increasing : ids.Pairwise (· < ·)
  mem_iff : ∀ x, x ∈ ids ↔
    ∃ b ∈ items, Connected tools items representative b ∧ b ≠ representative ∧ b.id = x

lemma IsChosen.unique {a b : PackMemory} (ha : IsChosen tools items a) (hb : IsChosen tools items b)
    (hconnected : Connected tools items a b) : a = b := by
  have hchosen := ha.chosen
  rw [componentOf_eq hconnected, hb.chosen] at hchosen
  exact (Option.some.inj hchosen).symm

lemma exists_chooseRepresentative (tools : TextTools) {cluster : List PackMemory} (hne : cluster ≠ []) :
    ∃ r ∈ cluster, chooseRepresentative tools cluster = some r := by
  have hperm := List.perm_insertionSort (fun a b => compareRepresentatives tools a b ≤ 0) cluster
  unfold chooseRepresentative
  cases hsort : cluster.insertionSort fun a b => compareRepresentatives tools a b ≤ 0 with
  | nil =>
    rw [hsort] at hperm
    exact absurd hperm.nil_eq.symm hne
  | cons r rest =>
    rw [hsort] at hperm
    exact ⟨r, hperm.subset List.mem_cons_self, rfl⟩

lemma exists_isChosen (tools : TextTools) {a : PackMemory} (ha : a ∈ items) :
    ∃ r, IsChosen tools items r ∧ Connected tools items a r := by
  obtain ⟨r, hr, hchoose⟩ := exists_chooseRepresentative tools
    (List.ne_nil_of_mem (mem_componentOf_iff.mpr ⟨ha, .refl _⟩))
  obtain ⟨hitem, hconnected⟩ := mem_componentOf_iff.mp hr
  rw [componentOf_eq hconnected] at hchoose
  exact ⟨r, ⟨hitem, hchoose⟩, hconnected⟩

section Ids

variable (hids : (items.map PackMemory.id).Nodup)
include hids

lemma pairwise_relatedIds (tools : TextTools) (r : PackMemory) :
    (sortByPos id (((componentOf tools items r).filter fun item => item.id ≠ r.id).map
      PackMemory.id)).Pairwise (· < ·) := by
  have hother : ((componentOf tools items r).filter fun item => item.id ≠ r.id).Sublist items :=
    List.filter_sublist.trans List.filter_sublist
  have hnodup := (hother.map PackMemory.id).nodup hids
  have hsorted := pairwise_sortByPos id
    (((componentOf tools items r).filter fun item => item.id ≠ r.id).map PackMemory.id)
  exact (hsorted.and ((perm_sortByPos id _).nodup_iff.mpr hnodup)).imp
    fun h => lt_of_le_of_ne h.1 h.2

lemma mem_relatedIds_iff {r : PackMemory} (hr : r ∈ items) {x : ℤ} :
    x ∈ sortByPos id (((componentOf tools items r).filter fun item => item.id ≠ r.id).map
        PackMemory.id) ↔
      ∃ b ∈ items, Connected tools items r b ∧ b ≠ r ∧ b.id = x := by
  rw [mem_sortByPos, List.mem_map]
  constructor
  · rintro ⟨b, hb, rfl⟩
    obtain ⟨hcluster, hne⟩ := List.mem_filter.mp hb
    obtain ⟨hitem, hconnected⟩ := mem_componentOf_iff.mp hcluster
    exact ⟨b, hitem, hconnected, fun heq => of_decide_eq_true hne (congrArg _ heq), rfl⟩
  · rintro ⟨b, hitem, hconnected, hne, rfl⟩
    exact ⟨b, List.mem_filter.mpr ⟨mem_componentOf_iff.mpr ⟨hitem, hconnected⟩,
      decide_eq_true fun heq => hne (List.inj_on_of_nodup_map hids hitem hr heq)⟩, rfl⟩

lemma two_le_length_iff {r : PackMemory} (hr : IsChosen tools items r) :
    ¬ (componentOf tools items r).length < 2 ↔
      ∃ b ∈ items, Connected tools items r b ∧ b ≠ r := by
  have hself : r ∈ componentOf tools items r := mem_componentOf_iff.mpr ⟨hr.mem, .refl _⟩
  constructor
  · intro hlength
    by_contra hnone
    push Not at hnone
    have hnodup : (componentOf tools items r).Nodup :=
      (List.Nodup.of_map _ hids).sublist List.filter_sublist
    have hsub : componentOf tools items r ⊆ [r] := fun b hb =>
      List.mem_singleton.mpr (hnone b (mem_componentOf_iff.mp hb).1 (mem_componentOf_iff.mp hb).2)
    have hle := (List.subperm_of_subset hnodup hsub).length_le
    exact hlength (Nat.lt_succ_of_le hle)
  · rintro ⟨b, hb, hconnected, hne⟩ hlt
    have hpos := List.length_pos_of_mem hself
    obtain ⟨c, hc⟩ := List.length_eq_one_iff.mp
      (show (componentOf tools items r).length = 1 by omega)
    have hmem := mem_componentOf_iff.mpr ⟨hb, hconnected⟩
    rw [hc] at hmem hself
    exact hne ((List.mem_singleton.mp hmem).trans (List.mem_singleton.mp hself).symm)

lemma mem_groups_iff {k : ℤ} {ids : List ℤ} :
    (k, ids) ∈ (clustersOf tools items).filterMap (groupOf tools) ↔
      ∃ r, r.id = k ∧ IsGroup tools items (IsChosen tools items) r ids := by
  rw [List.mem_filterMap]
  constructor
  · rintro ⟨cluster, hcluster, hgroup⟩
    obtain ⟨a, ha, rfl⟩ := mem_clustersOf_iff_component.mp hcluster
    obtain ⟨r, hchosen, hconnected⟩ := exists_isChosen tools ha
    rw [componentOf_eq hconnected] at hgroup
    unfold groupOf at hgroup
    split_ifs at hgroup with hlength
    rw [hchosen.chosen, Option.map_some, Option.some.injEq, Prod.mk.injEq] at hgroup
    obtain ⟨rfl, rfl⟩ := hgroup
    refine ⟨r, rfl, hchosen, ?_, pairwise_relatedIds hids tools r,
      fun x => mem_relatedIds_iff hids hchosen.mem⟩
    obtain ⟨b, hb, hrb, hne⟩ := (two_le_length_iff hids hchosen).mp hlength
    exact List.ne_nil_of_mem ((mem_relatedIds_iff hids hchosen.mem).mpr ⟨b, hb, hrb, hne, rfl⟩)
  · rintro ⟨r, rfl, hgroup⟩
    refine ⟨_, mem_clustersOf_iff_component.mpr ⟨r, hgroup.represents.mem, rfl⟩, ?_⟩
    obtain ⟨x, hx⟩ := List.exists_mem_of_ne_nil _ hgroup.nonempty
    obtain ⟨b, hb, hconnected, hne, -⟩ := (hgroup.mem_iff x).mp hx
    have hlength := (two_le_length_iff hids hgroup.represents).mpr ⟨b, hb, hconnected, hne⟩
    have hsorted := pairwise_relatedIds hids tools r
    have hperm := (List.perm_ext_iff_of_nodup (hsorted.imp fun h => ne_of_lt h)
      (hgroup.increasing.imp fun h => ne_of_lt h)).mpr fun x =>
        (mem_relatedIds_iff hids hgroup.represents.mem).trans (hgroup.mem_iff x).symm
    unfold groupOf
    rw [if_neg hlength, hgroup.represents.chosen, Option.map_some,
      hperm.eq_of_pairwise (fun _ _ _ _ h h' => absurd h (not_lt_of_gt h')) hsorted
        hgroup.increasing]

end Ids

/-! ### The maps of the state -/

lemma compressedByRepresentative_foldl (clusters : List (List PackMemory))
    (state : ClusterCompressionState) :
    (clusters.foldl (recordCluster tools) state).compressedByRepresentative =
      (clusters.filterMap (groupOf tools)).foldl
        (fun rows group => insertOrUpdate Prod.fst group (fun _ => group) rows)
          state.compressedByRepresentative := by
  induction clusters generalizing state with
  | nil => rfl
  | cons cluster clusters ih =>
    rw [List.foldl_cons, ih, List.filterMap_cons]
    unfold recordCluster groupOf
    split_ifs with hlength
    · rfl
    · cases hchoose : chooseRepresentative tools cluster with
      | none => rfl
      | some r => rfl

lemma representativeByCompressedId_foldl (clusters : List (List PackMemory))
    (state : ClusterCompressionState) :
    (clusters.foldl (recordCluster tools) state).representativeByCompressedId =
      ((clusters.filterMap (groupOf tools)).flatMap fun group =>
        group.2.map fun x => (x, group.1)).foldl
          (fun rows entry => insertOrUpdate Prod.fst entry (fun _ => entry) rows)
            state.representativeByCompressedId := by
  induction clusters generalizing state with
  | nil => rfl
  | cons cluster clusters ih =>
    rw [List.foldl_cons, ih, List.filterMap_cons]
    unfold recordCluster groupOf
    split_ifs with hlength
    · rfl
    · cases hchoose : chooseRepresentative tools cluster with
      | none => rfl
      | some r =>
        simp only [Option.map_some, List.flatMap_cons, List.foldl_append, List.foldl_map]

lemma clusters_foldl (tools : TextTools) (clusters : List (List PackMemory)) (state : ClusterCompressionState) :
    ((clusters.foldl (recordCluster tools) state).clusters.map
      fun cluster => (cluster.representativeId, cluster.compressedIds)) =
      (state.clusters.map fun cluster => (cluster.representativeId, cluster.compressedIds)) ++
        clusters.filterMap (groupOf tools) := by
  induction clusters generalizing state with
  | nil => rw [List.foldl_nil, List.filterMap_nil, List.append_nil]
  | cons cluster clusters ih =>
    rw [List.foldl_cons, ih, List.filterMap_cons]
    unfold recordCluster groupOf
    split_ifs with hlength
    · rfl
    · cases hchoose : chooseRepresentative tools cluster with
      | none => rfl
      | some r =>
        simp only [Option.map_some, List.map_append, List.map_cons, List.map_nil,
          List.append_assoc, List.singleton_append]

/-- The ids that are filtered out are those of the groups. -/
lemma mem_compressedIdsOf_iff {clusters : List (List PackMemory)} {x : ℤ} :
    x ∈ compressedIdsOf tools clusters ↔
      ∃ group ∈ clusters.filterMap (groupOf tools), x ∈ group.2 := by
  unfold compressedIdsOf
  rw [List.mem_flatMap]
  simp only [List.mem_filterMap]
  have hcluster : ∀ cluster, x ∈ (if cluster.length < 2 then []
      else (chooseRepresentative tools cluster).elim [] fun r =>
        (cluster.filter fun item => item.id ≠ r.id).map PackMemory.id) ↔
      ∃ group, groupOf tools cluster = some group ∧ x ∈ group.2 := by
    intro cluster
    unfold groupOf
    split_ifs with hlength
    · simp
    · cases hchoose : chooseRepresentative tools cluster with
      | none => simp
      | some r => simp
  constructor
  · rintro ⟨cluster, hmem, hx⟩
    obtain ⟨group, hgroup, hx⟩ := (hcluster cluster).mp (by
      split_ifs at hx ⊢
      · exact hx
      · cases hchoose : chooseRepresentative tools cluster with
        | none =>
          rw [hchoose] at hx
          exact hx
        | some r =>
          rw [hchoose] at hx
          exact hx)
    exact ⟨group, ⟨cluster, hmem, hgroup⟩, hx⟩
  · rintro ⟨group, ⟨cluster, hmem, hgroup⟩, hx⟩
    refine ⟨cluster, hmem, ?_⟩
    have hx' := (hcluster cluster).mpr ⟨group, hgroup, hx⟩
    split_ifs at hx' ⊢
    · exact hx'
    · cases hchoose : chooseRepresentative tools cluster with
      | none =>
        rw [hchoose] at hx'
        exact hx'
      | some r =>
        rw [hchoose] at hx'
        exact hx'

/-! ### Components are compressed -/

/-- Every component keeps its representative alone, the others are recorded under it, and what is
kept keeps its order. -/
structure CompressesComponents (tools : TextTools) (items : List PackMemory)
    (Represents : PackMemory → Prop) (result : List PackMemory × ClusterCompressionState) :
    Prop where
  sublist : result.1.Sublist items
  kept_iff : ∀ a, a ∈ result.1 ↔ Represents a
  exists_kept : ∀ a ∈ items, ∃! r, r ∈ result.1 ∧ Connected tools items a r
  recorded_iff : ∀ k ids, (k, ids) ∈ result.2.compressedByRepresentative ↔
    ∃ r, r.id = k ∧ IsGroup tools items Represents r ids
  owner_iff : ∀ x k, (x, k) ∈ result.2.representativeByCompressedId ↔
    ∃ r ids, r.id = k ∧ IsGroup tools items Represents r ids ∧ x ∈ ids
  shown_iff : ∀ k ids, (∃ cluster ∈ result.2.clusters,
    cluster.representativeId = k ∧ cluster.compressedIds = ids) ↔
      ∃ r, r.id = k ∧ IsGroup tools items Represents r ids

lemma exists_kept_of_kept_iff {kept : List PackMemory}
    (hkept : ∀ a, a ∈ kept ↔ IsChosen tools items a) :
    ∀ a ∈ items, ∃! r, r ∈ kept ∧ Connected tools items a r := by
  intro a ha
  obtain ⟨r, hchosen, hconnected⟩ := exists_isChosen tools ha
  refine ⟨r, ⟨(hkept r).mpr hchosen, hconnected⟩, ?_⟩
  rintro s ⟨hs, has⟩
  exact ((hkept s).mp hs).unique hchosen (.trans _ _ _ (.symm _ _ has) hconnected)

section Ids

variable (hids : (items.map PackMemory.id).Nodup)
include hids

lemma IsGroup.unique {r r' : PackMemory} {ids ids' : List ℤ}
    (h : IsGroup tools items (IsChosen tools items) r ids)
    (h' : IsGroup tools items (IsChosen tools items) r' ids') (hid : r.id = r'.id) : ids = ids' := by
  obtain rfl := List.inj_on_of_nodup_map hids h.represents.mem h'.represents.mem hid
  have hperm := (List.perm_ext_iff_of_nodup (h.increasing.imp fun hlt => ne_of_lt hlt)
    (h'.increasing.imp fun hlt => ne_of_lt hlt)).mpr fun x => (h.mem_iff x).trans (h'.mem_iff x).symm
  exact hperm.eq_of_pairwise (fun _ _ _ _ hlt hgt => absurd hlt (not_lt_of_gt hgt)) h.increasing
    h'.increasing

lemma IsGroup.owner_unique {r r' : PackMemory} {ids ids' : List ℤ} {x : ℤ}
    (h : IsGroup tools items (IsChosen tools items) r ids)
    (h' : IsGroup tools items (IsChosen tools items) r' ids') (hx : x ∈ ids) (hx' : x ∈ ids') :
    r = r' := by
  obtain ⟨b, hb, hconnected, -, hbid⟩ := (h.mem_iff x).mp hx
  obtain ⟨b', hb', hconnected', -, hbid'⟩ := (h'.mem_iff x).mp hx'
  obtain rfl := List.inj_on_of_nodup_map hids hb hb' (hbid.trans hbid'.symm)
  exact h.represents.unique h'.represents (.trans _ _ _ hconnected (.symm _ _ hconnected'))

lemma isChosen_iff {a : PackMemory} :
    IsChosen tools items a ↔
      a ∈ items ∧ ¬ ∃ r ids, IsGroup tools items (IsChosen tools items) r ids ∧ a.id ∈ ids := by
  constructor
  · refine fun h => ⟨h.mem, ?_⟩
    rintro ⟨r, ids, hgroup, hmem⟩
    obtain ⟨b, hb, hconnected, hne, hid⟩ := (hgroup.mem_iff _).mp hmem
    obtain rfl := List.inj_on_of_nodup_map hids hb h.mem hid
    exact hne (h.unique hgroup.represents (.symm _ _ hconnected))
  · rintro ⟨ha, hnone⟩
    obtain ⟨r, hchosen, hconnected⟩ := exists_isChosen tools ha
    obtain rfl | hne := eq_or_ne a r
    · exact hchosen
    · -- the component has two items, so its group compresses `a`
      refine absurd ⟨r, _, ⟨hchosen, ?_, pairwise_relatedIds hids tools r,
        fun x => mem_relatedIds_iff hids hchosen.mem⟩, ?_⟩ hnone
      · exact List.ne_nil_of_mem ((mem_relatedIds_iff hids hchosen.mem).mpr
          ⟨a, ha, .symm _ _ hconnected, hne, rfl⟩)
      · exact (mem_relatedIds_iff hids hchosen.mem).mpr
          ⟨a, ha, .symm _ _ hconnected, hne, rfl⟩

/-- Compression keeps the chosen items and records their groups. -/
lemma compressesComponents {mode : PackTraceMode} (hmode : mode ≠ .task) :
    CompressesComponents tools items (IsChosen tools items)
      (compressClusters tools items mode .empty) := by
  unfold compressClusters
  split_ifs with htrivial
  · -- fewer than two items: every item is its own component
    have hlength := htrivial.resolve_left hmode
    have hsame : ∀ a ∈ items, ∀ b ∈ items, a = b := by
      intro a ha b hb
      have hpos := List.length_pos_of_mem ha
      obtain ⟨c, rfl⟩ := List.length_eq_one_iff.mp (show items.length = 1 by omega)
      exact (List.mem_singleton.mp ha).trans (List.mem_singleton.mp hb).symm
    have hkept : ∀ a, a ∈ items ↔ IsChosen tools items a := by
      refine fun a => ⟨fun ha => ?_, fun h => h.mem⟩
      obtain ⟨r, hchosen, -⟩ := exists_isChosen tools ha
      rw [hsame a ha r hchosen.mem]
      exact hchosen
    have hnone : ∀ r ids, ¬ IsGroup tools items (IsChosen tools items) r ids := by
      intro r ids hgroup
      obtain ⟨x, hx⟩ := List.exists_mem_of_ne_nil _ hgroup.nonempty
      obtain ⟨b, hb, -, hne, -⟩ := (hgroup.mem_iff x).mp hx
      exact hne (hsame b hb r hgroup.represents.mem)
    exact {
      sublist := List.Sublist.refl _
      kept_iff := hkept
      exists_kept := exists_kept_of_kept_iff hkept
      recorded_iff := fun k ids => by simp [ClusterCompressionState.empty, hnone]
      owner_iff := fun x k => by simp [ClusterCompressionState.empty, hnone]
      shown_iff := fun k ids => by simp [ClusterCompressionState.empty, hnone] }
  · have hgroups := fun k ids => @mem_groups_iff tools items hids k ids
    have hkept : ∀ a, a ∈ items.filter (fun item =>
        !(compressedIdsOf tools (clustersOf tools items)).contains item.id) ↔
          IsChosen tools items a := by
      intro a
      rw [isChosen_iff hids, List.mem_filter, Bool.not_eq_true', ← Bool.not_eq_true,
        List.contains_iff_mem, mem_compressedIdsOf_iff]
      refine and_congr_right fun _ => not_congr ?_
      constructor
      · rintro ⟨⟨k, ids⟩, hgroup, hmem⟩
        obtain ⟨r, -, hgroup⟩ := (hgroups k ids).mp hgroup
        exact ⟨r, ids, hgroup, hmem⟩
      · rintro ⟨r, ids, hgroup, hmem⟩
        exact ⟨(r.id, ids), (hgroups _ _).mpr ⟨r, rfl, hgroup⟩, hmem⟩
    refine ⟨List.filter_sublist, hkept, exists_kept_of_kept_iff hkept,
      fun k ids => ?_, fun x k => ?_, fun k ids => ?_⟩
    · change (k, ids) ∈ ((clustersOf tools items).foldl (recordCluster tools)
        .empty).compressedByRepresentative ↔ _
      rw [compressedByRepresentative_foldl, ← hgroups]
      refine mem_foldl_insertOrUpdate ?_
      rintro ⟨k, ids⟩ hmem ⟨k', ids'⟩ hmem' rfl
      obtain ⟨r, hid, hgroup⟩ := (hgroups _ _).mp hmem
      obtain ⟨r', hid', hgroup'⟩ := (hgroups _ _).mp hmem'
      exact Prod.ext rfl (hgroup.unique hids hgroup' (hid.trans hid'.symm))
    · change (x, k) ∈ ((clustersOf tools items).foldl (recordCluster tools)
        .empty).representativeByCompressedId ↔ _
      have hentry : ∀ x k, (x, k) ∈ ((clustersOf tools items).filterMap
          (groupOf tools)).flatMap (fun group => group.2.map fun x => (x, group.1)) ↔
          ∃ r ids, r.id = k ∧ IsGroup tools items (IsChosen tools items) r ids ∧ x ∈ ids := by
        intro x k
        rw [List.mem_flatMap]
        constructor
        · rintro ⟨⟨k', ids⟩, hgroup, hmem⟩
          obtain ⟨y, hy, heq⟩ := List.mem_map.mp hmem
          obtain ⟨rfl, rfl⟩ := Prod.mk.inj heq
          obtain ⟨r, hid, hgroup⟩ := (hgroups _ _).mp hgroup
          exact ⟨r, ids, hid, hgroup, hy⟩
        · rintro ⟨r, ids, hid, hgroup, hx⟩
          exact ⟨(k, ids), (hgroups _ _).mpr ⟨r, hid, hgroup⟩, List.mem_map.mpr ⟨x, hx, rfl⟩⟩
      rw [representativeByCompressedId_foldl, ← hentry]
      refine mem_foldl_insertOrUpdate ?_
      rintro ⟨x, k⟩ hmem ⟨x', k'⟩ hmem' rfl
      obtain ⟨r, ids, rfl, hgroup, hx⟩ := (hentry _ _).mp hmem
      obtain ⟨r', ids', rfl, hgroup', hx'⟩ := (hentry _ _).mp hmem'
      rw [hgroup.owner_unique hids hgroup' hx hx']
    · have hshown := (clusters_foldl tools (clustersOf tools items)
        ClusterCompressionState.empty).trans (List.nil_append _)
      rw [← hgroups, ← hshown, List.mem_map]
      exact exists_congr fun cluster => and_congr_right fun _ =>
        (Iff.of_eq (Prod.mk.injEq _ _ _ _)).symm

end Ids

/-! ### Greatest items of components -/

/-- An item that precedes all others of its component. -/
structure IsRepresentative (tools : TextTools) (items : List PackMemory) (a : PackMemory) :
    Prop where
  mem : a ∈ items
  precedes : ∀ b ∈ items, Connected tools items a b → b ≠ a → Precedes tools a b

/-- Every component has an item that precedes all others of it. -/
def HasGreatest (tools : TextTools) (items : List PackMemory) : Prop :=
  ∀ a ∈ items, ∃ r, IsRepresentative tools items r ∧ Connected tools items a r

lemma IsRepresentative.isChosen (hcompare : IsConsistentCompare tools.localeCompare)
    {a : PackMemory} (h : IsRepresentative tools items a) : IsChosen tools items a := by
  refine ⟨h.mem, chooseRepresentative_eq hcompare (mem_componentOf_iff.mpr ⟨h.mem, .refl _⟩) ?_⟩
  intro b hb hne
  obtain ⟨hitem, hconnected⟩ := mem_componentOf_iff.mp hb
  exact h.precedes b hitem hconnected hne

lemma isChosen_eq (hcompare : IsConsistentCompare tools.localeCompare)
    (hgreatest : HasGreatest tools items) :
    IsChosen tools items = IsRepresentative tools items := by
  funext a
  refine propext ⟨fun h => ?_, fun h => h.isChosen hcompare⟩
  obtain ⟨r, hrep, hconnected⟩ := hgreatest a h.mem
  rw [h.unique (hrep.isChosen hcompare) hconnected]
  exact hrep

lemma connected_perm {items' : List PackMemory} (hperm : items'.Perm items) {a b : PackMemory} :
    Connected tools items' a b ↔ Connected tools items a b := by
  have hjoined : Joined tools items' = Joined tools items := by
    funext x y
    simp only [Joined, hperm.mem_iff]
  rw [Connected, Connected, hjoined]

lemma isRepresentative_perm {items' : List PackMemory} (hperm : items'.Perm items) :
    IsRepresentative tools items' = IsRepresentative tools items := by
  funext a
  refine propext ⟨?_, ?_⟩
  · rintro ⟨hmem, hprecedes⟩
    exact ⟨hperm.subset hmem, fun b hb hconnected hne =>
      hprecedes b (hperm.symm.subset hb) ((connected_perm hperm).mpr hconnected) hne⟩
  · rintro ⟨hmem, hprecedes⟩
    exact ⟨hperm.symm.subset hmem, fun b hb hconnected hne =>
      hprecedes b (hperm.subset hb) ((connected_perm hperm).mp hconnected) hne⟩

lemma isGroup_perm {items' : List PackMemory} (hperm : items'.Perm items)
    {Represents : PackMemory → Prop} {r : PackMemory} {ids : List ℤ} :
    IsGroup tools items' Represents r ids ↔ IsGroup tools items Represents r ids := by
  constructor
  · rintro ⟨hrep, hne, hincreasing, hmem⟩
    refine ⟨hrep, hne, hincreasing, fun x => (hmem x).trans ?_⟩
    simp only [hperm.mem_iff, connected_perm hperm]
  · rintro ⟨hrep, hne, hincreasing, hmem⟩
    refine ⟨hrep, hne, hincreasing, fun x => (hmem x).trans ?_⟩
    simp only [hperm.mem_iff, connected_perm hperm]

/-- What `compressClusters` is for: the components are compressed, and the order of the items decides
neither what is kept nor what is recorded. -/
structure CompressionAgrees (tools : TextTools) (items : List PackMemory) (mode : PackTraceMode) :
    Prop where
  components : CompressesComponents tools items (IsRepresentative tools items)
    (compressClusters tools items mode .empty)
  kept_perm : ∀ items' : List PackMemory, items'.Perm items → ∀ a,
    a ∈ (compressClusters tools items' mode .empty).1 ↔
      a ∈ (compressClusters tools items mode .empty).1
  recorded_perm : ∀ items' : List PackMemory, items'.Perm items → ∀ k ids,
    (k, ids) ∈ (compressClusters tools items' mode .empty).2.compressedByRepresentative ↔
      (k, ids) ∈ (compressClusters tools items mode .empty).2.compressedByRepresentative

lemma compressionAgrees_of_hasGreatest (hcompare : IsConsistentCompare tools.localeCompare)
    (hids : (items.map PackMemory.id).Nodup) (hgreatest : HasGreatest tools items)
    {mode : PackTraceMode} (hmode : mode ≠ .task) : CompressionAgrees tools items mode := by
  have hresult' : ∀ items' : List PackMemory, items'.Perm items →
      CompressesComponents tools items' (IsRepresentative tools items)
        (compressClusters tools items' mode .empty) := by
    intro items' hperm
    have hgreatest' : HasGreatest tools items' := by
      intro a ha
      obtain ⟨r, hrep, hconnected⟩ := hgreatest a (hperm.subset ha)
      rw [isRepresentative_perm hperm]
      exact ⟨r, hrep, (connected_perm hperm).mpr hconnected⟩
    rw [← isRepresentative_perm hperm, ← isChosen_eq hcompare hgreatest']
    exact compressesComponents ((hperm.map _).nodup_iff.mpr hids) hmode
  have hresult := hresult' items (List.Perm.refl _)
  refine ⟨hresult, fun items' hperm a => ?_, fun items' hperm k ids => ?_⟩
  · rw [(hresult' items' hperm).kept_iff, hresult.kept_iff]
  · rw [(hresult' items' hperm).recorded_iff, hresult.recorded_iff]
    simp only [isGroup_perm hperm]

/-- No item that nothing in its component precedes has a rival: another item of the component with
the same confidence and another creation time that compares equal. -/
def NoTiedTop (tools : TextTools) (items : List PackMemory) : Prop :=
  ∀ a ∈ items, (∀ b ∈ items, Connected tools items a b → ¬ Precedes tools b a) →
    ∀ b ∈ items, Connected tools items a b → a.confidence = b.confidence →
      tools.localeCompare a.createdAt b.createdAt = 0 → a.createdAt = b.createdAt

lemma tied_of_not_precedes (hcompare : IsConsistentCompare tools.localeCompare) {a b : PackMemory}
    (hid : a.id ≠ b.id) (hab : ¬ Precedes tools a b) (hba : ¬ Precedes tools b a) :
    a.confidence = b.confidence ∧ tools.localeCompare a.createdAt b.createdAt = 0 ∧
      a.createdAt ≠ b.createdAt := by
  have hconf : a.confidence = b.confidence :=
    le_antisymm (not_lt.mp fun h => hab (.inl h)) (not_lt.mp fun h => hba (.inl h))
  have hpos : ¬ 0 < tools.localeCompare a.createdAt b.createdAt :=
    fun h => hab (.inr ⟨hconf, .inl h⟩)
  have hneg : ¬ tools.localeCompare a.createdAt b.createdAt < 0 :=
    fun h => hba (.inr ⟨hconf.symm, .inl ((hcompare.swap _ _).mpr h)⟩)
  refine ⟨hconf, by omega, fun htime => ?_⟩
  rcases lt_trichotomy a.hasNarrative b.hasNarrative with hnarr | hnarr | hnarr
  · exact hba (.inr ⟨hconf.symm, .inr ⟨htime.symm, .inl hnarr⟩⟩)
  · rcases lt_or_gt_of_ne hid with hlt | hgt
    · exact hab (.inr ⟨hconf, .inr ⟨htime, .inr ⟨hnarr, hlt⟩⟩⟩)
    · exact hba (.inr ⟨hconf.symm, .inr ⟨htime.symm, .inr ⟨hnarr.symm, hgt⟩⟩⟩)
  · exact hab (.inr ⟨hconf, .inr ⟨htime, .inl hnarr⟩⟩)

/-- Going up from an item ends at one that nothing in the component precedes. -/
lemma exists_top (hcompare : IsConsistentCompare tools.localeCompare) {a : PackMemory}
    (ha : a ∈ items) : ∃ top ∈ items, Connected tools items a top ∧ (top = a ∨ Precedes tools top a) ∧
      ∀ b ∈ items, Connected tools items a b → ¬ Precedes tools b top := by
  classical
  let above : PackMemory → Finset PackMemory := fun x => items.toFinset.filter fun b =>
    Connected tools items a b ∧ Precedes tools b x
  have hup : ∀ n x, (above x).card ≤ n → x ∈ items → Connected tools items a x →
      (x = a ∨ Precedes tools x a) →
        ∃ top ∈ items, Connected tools items a top ∧ (top = a ∨ Precedes tools top a) ∧
          ∀ b ∈ items, Connected tools items a b → ¬ Precedes tools b top := by
    intro n
    induction n with
    | zero =>
      intro x hcard hx hconnected hxa
      refine ⟨x, hx, hconnected, hxa, fun b hb hab hprecedes => ?_⟩
      have hmem : b ∈ above x := Finset.mem_filter.mpr ⟨List.mem_toFinset.mpr hb, hab, hprecedes⟩
      rw [Finset.card_eq_zero.mp (Nat.le_zero.mp hcard)] at hmem
      exact absurd hmem (Finset.notMem_empty b)
    | succ n ih =>
      intro x hcard hx hconnected hxa
      by_cases htop : ∀ b ∈ items, Connected tools items a b → ¬ Precedes tools b x
      · exact ⟨x, hx, hconnected, hxa, htop⟩
      · push Not at htop
        obtain ⟨b, hb, hab, hprecedes⟩ := htop
        -- what is above `b` is above `x`, and `b` itself is not
        have hsub : above b ⊂ above x := by
          refine Finset.ssubset_iff_subset_ne.mpr ⟨fun c hc => ?_, fun heq => ?_⟩
          · obtain ⟨hc, hac, hcb⟩ := Finset.mem_filter.mp hc
            exact Finset.mem_filter.mpr ⟨hc, hac, hcb.trans hcompare hprecedes⟩
          · have hmem : b ∈ above x :=
              Finset.mem_filter.mpr ⟨List.mem_toFinset.mpr hb, hab, hprecedes⟩
            rw [← heq] at hmem
            exact Precedes.irrefl hcompare b (Finset.mem_filter.mp hmem).2.2
        have hlt := Finset.card_lt_card hsub
        refine ih b (by omega) hb hab (.inr ?_)
        rcases hxa with rfl | hxa
        · exact hprecedes
        · exact hprecedes.trans hcompare hxa
  exact hup _ a le_rfl ha (.refl _) (.inl rfl)

lemma hasGreatest_iff (hcompare : IsConsistentCompare tools.localeCompare)
    (hids : (items.map PackMemory.id).Nodup) :
    HasGreatest tools items ↔ NoTiedTop tools items := by
  constructor
  · intro h a ha htop b hb hconnected hconf htime
    obtain ⟨r, hrep, har⟩ := h a ha
    -- `a` is the greatest item, since nothing precedes it
    obtain rfl : a = r := by
      by_contra hne
      exact htop r hrep.mem har (hrep.precedes a ha (.symm _ _ har) hne)
    by_contra hdiffers
    rcases hrep.precedes b hb hconnected (fun heq => hdiffers (congrArg _ heq).symm) with
      hlt | ⟨-, hpos | ⟨heq, -⟩⟩
    · exact ne_of_gt hlt hconf
    · omega
    · exact hdiffers heq
  · intro h a ha
    obtain ⟨top, htop, hconnected, -, hmax⟩ := exists_top hcompare ha
    refine ⟨top, ⟨htop, fun b hb htb hne => ?_⟩, hconnected⟩
    by_contra hnot
    have hab : Connected tools items a b := .trans _ _ _ hconnected htb
    obtain ⟨hconf, hzero, hdiffers⟩ := tied_of_not_precedes hcompare
      (fun heq => hne (List.inj_on_of_nodup_map hids hb htop heq.symm)) hnot (hmax b hb hab)
    exact hdiffers (h top htop
      (fun c hc htc => hmax c hc (.trans _ _ _ hconnected htc)) b hb htb hconf hzero)

/-- On items with different ids, compression does what it is for exactly when no top item of a
component has a rival whose creation time compares equal though it differs. -/
theorem compressionAgrees_iff (hcompare : IsConsistentCompare tools.localeCompare)
    (hids : (items.map PackMemory.id).Nodup) {mode : PackTraceMode} (hmode : mode ≠ .task) :
    CompressionAgrees tools items mode ↔ NoTiedTop tools items := by
  rw [← hasGreatest_iff hcompare hids]
  constructor
  · intro h a ha
    obtain ⟨r, ⟨hkept, hconnected⟩, -⟩ := h.components.exists_kept a ha
    exact ⟨r, (h.components.kept_iff r).mp hkept, hconnected⟩
  · exact fun h => compressionAgrees_of_hasGreatest hcompare hids h hmode

end Groups

/-! ### Creation times that compare equal -/

/-- A runtime for titles in English. -/
def sampleTextTools : TextTools where
  toLowerCase := fun text => String.ofList (text.toList.map Char.toLower)
  localeCompare := compareIgnoringJoiner

/-- A memory about the alpha, beta and gamma of a project. -/
def sampleClusterMemory (id : ℤ) (createdAt : String) : PackMemory where
  id := id
  kind := "change"
  title := "alpha beta gamma"
  bodyText := ""
  narrative := none
  confidence := 1
  createdAt := createdAt
  isSummaryLike := false

/-- Two memories of one cluster, created at different times. -/
def sampleCluster : List PackMemory :=
  [sampleClusterMemory 1 "2026-01-01T00:00:00Z", sampleClusterMemory 2 "2026-01-02T00:00:00Z"]

theorem compressionAgrees_sample : CompressionAgrees sampleTextTools sampleCluster .default :=
  (compressionAgrees_iff (isConsistentCompare_byKey _) (by decide) (by decide)).mpr fun a ha _ b hb
      _ _ hzero => by
    have hseparates : ∀ a ∈ sampleCluster, ∀ b ∈ sampleCluster,
        sampleTextTools.localeCompare a.createdAt b.createdAt = 0 →
          a.createdAt = b.createdAt := by
      decide +kernel
    exact hseparates a ha b hb hzero

/-- Two memories of one cluster, whose creation times differ in a joiner alone. -/
def tiedCluster : List PackMemory :=
  [sampleClusterMemory 1 "2026-01-01T00:00:00Z",
    sampleClusterMemory 2 "2026-01-01T00:00:00Z\u200d"]

/-- The first of them is kept, whichever it is. -/
theorem tiedCluster_not_agrees : ¬ CompressionAgrees sampleTextTools tiedCluster .default := by
  intro h
  have hkept := h.kept_perm tiedCluster.reverse (List.reverse_perm _)
    (sampleClusterMemory 1 "2026-01-01T00:00:00Z")
  have hfirst : sampleClusterMemory 1 "2026-01-01T00:00:00Z" ∈
      (compressClusters sampleTextTools tiedCluster .default .empty).1 := by
    decide +kernel
  have hlast : sampleClusterMemory 1 "2026-01-01T00:00:00Z" ∉
      (compressClusters sampleTextTools tiedCluster.reverse .default .empty).1 := by
    decide +kernel
  exact hlast (hkept.mpr hfirst)

end Codemem

import Codemem.Foundation.KeyedRows
import Codemem.Foundation.OrderedPage

/-!
# Semantic ranking

`rankPrevalidatedSnapshot` asks the vector index for the nearest chunks of every model, and accepts
the merged answer when a certificate says that no chunk it has not seen can matter; otherwise it
computes all distances.  The distance of a chunk to the query is a value of a linear order.  What the
index answers is a parameter; of several answers in order of the distance any may be given.
-/

namespace Codemem

variable {δ : Type*} [LinearOrder δ]

/-- A memory with a distance. -/
structure Neighbor (δ : Type*) where
  id : ℤ
  distance : δ
  deriving DecidableEq

/-- A row of the vector table with its distance to the query. -/
structure ChunkVector (δ : Type*) where
  rowid : ℤ
  memoryId : ℤ
  model : String
  distance : δ

/-- The read snapshot: the memories, and the rows of the vector table. -/
structure RankingSnapshot (δ : Type*) where
  memoryItems : List ℤ
  vectors : List (ChunkVector δ)

/-- `CandidateScope`: which memories the request may see, and which rows are accepted. -/
structure CandidateScope (δ : Type*) where
  authorized : ℤ → Bool
  accepted : ChunkVector δ → Bool

/-- The rows of some models that a request may see. -/
def RankingSnapshot.eligible (snapshot : RankingSnapshot δ) (scope : CandidateScope δ)
    (models : List String) : List (Neighbor δ) :=
  (snapshot.vectors.filter fun row =>
    snapshot.memoryItems.contains row.memoryId && scope.authorized row.memoryId &&
      models.contains row.model && scope.accepted row).map fun row => ⟨row.memoryId, row.distance⟩

/-- `Probe`, as far as the certificate reads it. -/
structure Probe (δ : Type*) where
  exhausted : Bool
  tailDistance : Option δ

/-- `nativeProbe`: what the index answered for a model, and what it says about the rest. -/
def nativeProbe (answer : String → ℕ → List (Neighbor δ)) (model : String) (k : ℕ) :
    List (Neighbor δ) × Probe δ :=
  let rows := answer model k
  (rows, ⟨decide (rows.length < k), rows.getLast?.map Neighbor.distance⟩)

/-- The position of a memory in a ranking. -/
def Neighbor.rank (neighbor : Neighbor δ) : δ ×ₗ ℤ := toLex (neighbor.distance, neighbor.id)

def mergeNeighbors (neighbors : List (Neighbor δ)) : List (Neighbor δ) :=
  sortByPos Neighbor.rank (neighbors.foldl (fun best neighbor =>
    insertOrUpdate Neighbor.id neighbor
      (fun stored => { stored with distance := min stored.distance neighbor.distance }) best) [])

/-- `MIN(vec_distance_l2(embedding, ?)) … GROUP BY memory_id`. -/
def nearestByMemory (rows : List (Neighbor δ)) : List (Neighbor δ) :=
  (rows.map Neighbor.id).dedup.filterMap fun id =>
    ((rows.filter fun row => row.id == id).map Neighbor.distance).min?.map fun distance =>
      ⟨id, distance⟩

def scalarRank (snapshot : RankingSnapshot δ) (scope : CandidateScope δ) (models : List String)
    (limit : ℕ) : List (Neighbor δ) :=
  (sortByPos Neighbor.rank (nearestByMemory (snapshot.eligible scope models))).take limit

/-- `loadPayloads`: a memory that is not stored is left out. -/
def loadPayloads (snapshot : RankingSnapshot δ) (ranked : List (Neighbor δ)) :
    List (Neighbor δ) :=
  ranked.filter fun neighbor => snapshot.memoryItems.contains neighbor.id

structure RankingResult (δ : Type*) where
  results : List (Neighbor δ)
  native : Bool

/-- The certificate: the last wanted memory is found, and every model has been searched beyond it. -/
def isCertified (merged : List (Neighbor δ)) (probes : List (Probe δ)) (limit : ℕ) : Bool :=
  match merged[limit - 1]? with
  | none => false
  | some nth => probes.all fun probe =>
      probe.exhausted || probe.tailDistance.any fun tail => decide (nth.distance < tail)

/-- `rankPrevalidatedSnapshot`, for a valid request. -/
def rankPrevalidatedSnapshot (answer : String → ℕ → List (Neighbor δ))
    (snapshot : RankingSnapshot δ) (scope : CandidateScope δ) (models : List String) (limit : ℕ) :
    Except String (RankingResult δ) :=
  if limit < 1 ∨ 200 < limit then .error "semantic_limit_must_be_1_to_200"
  else
    let k := min 4096 (max (limit + 1) (4 * limit))
    let outputs := models.map fun model => nativeProbe answer model k
    let merged := mergeNeighbors (outputs.flatMap Prod.fst)
    let certified := isCertified merged (outputs.map Prod.snd) limit
    let ranked := if certified then merged.take limit else scalarRank snapshot scope models limit
    .ok ⟨loadPayloads snapshot ranked, certified⟩

/-! ### Nearest chunks of memories -/

/-- A distance is the least one of a memory. -/
def IsNearest (rows : List (Neighbor δ)) (neighbor : Neighbor δ) : Prop :=
  neighbor ∈ rows ∧ ∀ row ∈ rows, row.id = neighbor.id → neighbor.distance ≤ row.distance

lemma IsNearest.unique {rows : List (Neighbor δ)} {a b : Neighbor δ} (ha : IsNearest rows a)
    (hb : IsNearest rows b) (hid : a.id = b.id) : a = b := by
  have hdistance := le_antisymm (ha.2 b hb.1 hid.symm) (hb.2 a ha.1 hid)
  cases a
  cases b
  dsimp only at hid hdistance
  rw [hid, hdistance]

/-- A ranking lists the least distances of the memories in order. -/
structure IsRanking (rows ranking : List (Neighbor δ)) : Prop where
  sorted : ranking.Pairwise fun a b => a.rank < b.rank
  mem_iff : ∀ neighbor, neighbor ∈ ranking ↔ IsNearest rows neighbor

omit [LinearOrder δ] in
lemma Neighbor.rank_injective : Function.Injective (Neighbor.rank : Neighbor δ → δ ×ₗ ℤ) := by
  intro a b h
  have hpair := toLex.injective h
  cases a
  cases b
  obtain ⟨hdistance, hid⟩ := Prod.mk.inj hpair
  dsimp only at hdistance hid
  rw [hdistance, hid]

lemma isRanking_sortByPos {rows nearest : List (Neighbor δ)} (hnodup : nearest.Nodup)
    (hmem : ∀ neighbor, neighbor ∈ nearest ↔ IsNearest rows neighbor) :
    IsRanking rows (sortByPos Neighbor.rank nearest) := by
  refine ⟨?_, fun neighbor => mem_sortByPos.trans (hmem neighbor)⟩
  have hne := (perm_sortByPos Neighbor.rank nearest).nodup_iff.mpr hnodup
  exact ((pairwise_sortByPos Neighbor.rank nearest).and hne).imp fun h =>
    lt_of_le_of_ne h.1 fun heq => h.2 (Neighbor.rank_injective heq)

/-- The loop of `mergeNeighbors`. -/
def bestOf (rows : List (Neighbor δ)) : List (Neighbor δ) :=
  rows.foldl (fun best neighbor => insertOrUpdate Neighbor.id neighbor
    (fun stored => { stored with distance := min stored.distance neighbor.distance }) best) []

lemma nodup_bestOf (rows : List (Neighbor δ)) : ((bestOf rows).map Neighbor.id).Nodup :=
  @nodup_foldl_insertOrUpdate _ _ _ Neighbor.id (Neighbor δ) (fun row => row)
    (fun row stored => { stored with distance := min stored.distance row.distance })
    (fun _ _ _ => rfl) rows [] List.nodup_nil

/-- The row of a memory is its least distance. -/
lemma rowAt_bestOf_iff (rows : List (Neighbor δ)) (neighbor : Neighbor δ) :
    rowAt Neighbor.id neighbor.id (bestOf rows) = some neighbor ↔ IsNearest rows neighbor := by
  induction rows using List.reverseRecOn generalizing neighbor with
  | nil => exact ⟨fun h => absurd h (by simp [bestOf, rowAt]), fun h => absurd h.1 List.not_mem_nil⟩
  | append_singleton rows row ih =>
    have hstep : bestOf (rows ++ [row]) = insertOrUpdate Neighbor.id row
        (fun stored => { stored with distance := min stored.distance row.distance })
          (bestOf rows) := by
      unfold bestOf
      rw [List.foldl_append]
      rfl
    have hrow := @rowAt_insertOrUpdate _ _ _ Neighbor.id row
      (fun stored => { stored with distance := min stored.distance row.distance }) (fun _ => rfl)
      neighbor.id (bestOf rows)
    have hlater : IsNearest (rows ++ [row]) neighbor ↔
        (neighbor ∈ rows ∨ neighbor = row) ∧
          (∀ other ∈ rows, other.id = neighbor.id → neighbor.distance ≤ other.distance) ∧
            (row.id = neighbor.id → neighbor.distance ≤ row.distance) := by
      unfold IsNearest
      simp only [List.mem_append, List.mem_singleton, or_imp, forall_and, forall_eq]
    rw [hstep, hrow, hlater]
    split_ifs with hid
    · rw [Option.some.injEq]
      cases hstored : rowAt Neighbor.id neighbor.id (bestOf rows) with
      | none =>
        -- no earlier row is of this memory
        have hnone : ∀ other ∈ rows, other.id ≠ neighbor.id := by
          intro other hother hsame
          have hkeys := @mem_keys_foldl_insertOrUpdate _ _ _ Neighbor.id (Neighbor δ)
            (fun row => row)
            (fun row stored => { stored with distance := min stored.distance row.distance })
            (fun _ _ _ => rfl) rows [] neighbor.id
          obtain ⟨found, hfound, hfoundId⟩ :=
            List.mem_map.mp (hkeys.mpr (.inr ⟨other, hother, hsame⟩))
          exact rowAt_eq_none hstored hfound hfoundId
        rw [Option.map_none, Option.getD_none]
        constructor
        · rintro rfl
          exact ⟨.inr rfl, fun other hother hsame => absurd hsame (hnone other hother),
            fun _ => le_rfl⟩
        · rintro ⟨hmem | hmem, -⟩
          · exact absurd rfl (hnone neighbor hmem)
          · exact hmem.symm
      | some stored =>
        have hstoredId := (rowAt_eq_some hstored).2
        have hnearest : IsNearest rows stored := by
          rw [← ih stored, hstoredId]
          exact hstored
        rw [Option.map_some, Option.getD_some]
        constructor
        · rintro rfl
          dsimp only at hid hstoredId ⊢
          refine ⟨?_, fun other hother hsame => ?_, fun _ => min_le_right _ _⟩
          · rcases le_total stored.distance row.distance with hle | hle
            · rw [min_eq_left hle]
              exact .inl hnearest.1
            · rw [min_eq_right hle, hid]
              exact .inr rfl
          · exact (min_le_left _ _).trans (hnearest.2 other hother hsame)
        · rintro ⟨hmem, hrest, hlast⟩
          have hle : min stored.distance row.distance ≤ neighbor.distance := by
            rcases hmem with hmem | rfl
            · exact (min_le_left _ _).trans (hnearest.2 neighbor hmem hstoredId.symm)
            · exact min_le_right _ _
          have hge := le_min (hrest stored hnearest.1 hstoredId) (hlast hid.symm)
          cases neighbor
          dsimp only at hstoredId hle hge ⊢
          rw [hstoredId, le_antisymm hle hge]
    · rw [ih]
      constructor
      · rintro ⟨hmem, hle⟩
        exact ⟨.inl hmem, hle, fun hsame => absurd hsame.symm hid⟩
      · rintro ⟨hmem | rfl, hle, -⟩
        · exact ⟨hmem, hle⟩
        · exact absurd rfl hid

lemma isRanking_mergeNeighbors (rows : List (Neighbor δ)) :
    IsRanking rows (mergeNeighbors rows) := by
  have hnodup := nodup_bestOf rows
  refine isRanking_sortByPos (List.Nodup.of_map _ hnodup) fun neighbor => ?_
  have hrow := @rowAt_eq_some_iff _ _ _ Neighbor.id _ hnodup neighbor.id neighbor
  simp only [and_true] at hrow
  exact hrow.symm.trans (rowAt_bestOf_iff rows neighbor)

lemma mem_nearestByMemory_iff (rows : List (Neighbor δ)) (neighbor : Neighbor δ) :
    neighbor ∈ nearestByMemory rows ↔ IsNearest rows neighbor := by
  unfold nearestByMemory
  simp only [List.mem_filterMap, List.mem_dedup, Option.map_eq_some_iff, List.min?_eq_some_iff,
    List.mem_map, List.mem_filter, beq_iff_eq]
  constructor
  · rintro ⟨id, -, distance, ⟨⟨row, ⟨hrow, rfl⟩, rfl⟩, hle⟩, rfl⟩
    exact ⟨hrow, fun other hother hsame => hle _ ⟨other, ⟨hother, hsame⟩, rfl⟩⟩
  · rintro ⟨hmem, hle⟩
    refine ⟨neighbor.id, ⟨neighbor, hmem, rfl⟩, neighbor.distance, ⟨⟨neighbor, ⟨hmem, rfl⟩, rfl⟩, ?_⟩,
      rfl⟩
    rintro distance ⟨other, ⟨hother, hsame⟩, rfl⟩
    exact hle other hother hsame

lemma isRanking_nearestByMemory (rows : List (Neighbor δ)) :
    IsRanking rows (sortByPos Neighbor.rank (nearestByMemory rows)) := by
  refine isRanking_sortByPos ?_ (mem_nearestByMemory_iff rows)
  refine List.Nodup.filterMap ?_ (List.nodup_dedup _)
  intro id id' neighbor hid hid'
  rw [Option.mem_def, Option.map_eq_some_iff] at hid hid'
  obtain ⟨distance, -, rfl⟩ := hid
  obtain ⟨distance', -, heq⟩ := hid'
  exact (congrArg Neighbor.id heq).symm

/-! ### The certificate -/

/-- What an index may answer: as many rows as there are, up to the limit, in order of distance, and
none that is left out is nearer. -/
structure AnswersNearest (rows answer : List (Neighbor δ)) (k : ℕ) : Prop where
  length : answer.length = min k rows.length
  sorted : answer.Pairwise fun a b => a.distance ≤ b.distance
  nearest : ∃ rest, (answer ++ rest).Perm rows ∧
    ∀ a ∈ answer, ∀ b ∈ rest, a.distance ≤ b.distance

omit [LinearOrder δ] in
lemma take_filter_of_sorted {α : Type*} {l : List α} {keep : α → Bool} {n : ℕ}
    (hsorted : l.Pairwise fun a b => keep b = true → keep a = true)
    (hlength : n ≤ (l.filter keep).length) : (l.filter keep).take n = l.take n := by
  induction l generalizing n with
  | nil => rfl
  | cons a l ih =>
    obtain ⟨hfirst, hrest⟩ := List.pairwise_cons.mp hsorted
    cases n with
    | zero => rfl
    | succ n =>
      by_cases hkeep : keep a = true
      · rw [List.filter_cons_of_pos hkeep] at hlength ⊢
        rw [List.take_succ_cons, List.take_succ_cons,
          ih hrest (Nat.le_of_succ_le_succ hlength)]
      · -- nothing after the first element is kept
        have hnone : (a :: l).filter keep = [] := by
          refine List.filter_eq_nil_iff.mpr fun b hb hkeepB => ?_
          rcases List.mem_cons.mp hb with rfl | hb
          · exact hkeep hkeepB
          · exact hkeep (hfirst b hb hkeepB)
        rw [hnone] at hlength
        exact absurd hlength (Nat.not_succ_le_zero n)

/-- Rankings of two lists that agree up to the last wanted distance begin alike. -/
lemma take_eq_of_agree {rows found ranking merged : List (Neighbor δ)} {limit : ℕ} {nth : Neighbor δ}
    (hranking : IsRanking rows ranking) (hmerged : IsRanking found merged) (hlimit : 1 ≤ limit)
    (hnth : merged[limit - 1]? = some nth) (hfound : found ⊆ rows)
    (hcomplete : ∀ row ∈ rows, row.distance ≤ nth.distance → row ∈ found) :
    merged.take limit = ranking.take limit := by
  let keep : Neighbor δ → Bool := fun neighbor => decide (neighbor.distance ≤ nth.distance)
  have hdown : ∀ {l : List (Neighbor δ)}, (l.Pairwise fun a b => a.rank < b.rank) →
      l.Pairwise fun a b => keep b = true → keep a = true := fun h => h.imp fun hlt hkeep =>
    decide_eq_true ((Prod.Lex.monotone_fst _ _ hlt.le).trans (of_decide_eq_true hkeep))
  -- up to the last wanted distance the least distances are the same
  have hsame : ∀ neighbor, neighbor ∈ merged.filter keep ↔ neighbor ∈ ranking.filter keep := by
    intro neighbor
    rw [List.mem_filter, List.mem_filter, hranking.mem_iff, hmerged.mem_iff]
    refine and_congr_left fun hkeep => ?_
    have hle := of_decide_eq_true hkeep
    constructor
    · rintro ⟨hmem, hleast⟩
      refine ⟨hfound hmem, fun row hrow hid => ?_⟩
      by_contra hlt
      have hnear := (not_le.mp hlt).le.trans hle
      exact hlt (hleast row (hcomplete row hrow hnear) hid)
    · rintro ⟨hmem, hleast⟩
      exact ⟨hcomplete neighbor hmem hle, fun row hrow hid => hleast row (hfound hrow) hid⟩
  have hfilter : merged.filter keep = ranking.filter keep := by
    have hsorted := (hmerged.sorted.filter keep)
    have hsorted' := (hranking.sorted.filter keep)
    have hperm := (List.perm_ext_iff_of_nodup (hsorted.imp fun h heq => absurd (heq ▸ h) (lt_irrefl _))
      (hsorted'.imp fun h heq => absurd (heq ▸ h) (lt_irrefl _))).mpr hsame
    exact hperm.eq_of_pairwise (fun _ _ _ _ h h' => absurd h (not_lt_of_gt h')) hsorted hsorted'
  have hlength : limit ≤ (merged.filter keep).length := by
    obtain ⟨hlt, hget⟩ := List.getElem?_eq_some_iff.mp hnth
    have hfirst : (merged.take limit).filter keep = merged.take limit := by
      refine List.filter_eq_self.mpr fun neighbor hneighbor => decide_eq_true ?_
      obtain ⟨i, hi, rfl⟩ := List.mem_iff_getElem.mp hneighbor
      rw [List.length_take] at hi
      rw [List.getElem_take]
      rcases Nat.lt_or_ge i (limit - 1) with hbefore | hafter
      · have hrank := List.pairwise_iff_getElem.mp hmerged.sorted i (limit - 1) (by omega) hlt hbefore
        rw [hget] at hrank
        exact Prod.Lex.monotone_fst _ _ hrank.le
      · have heq : i = limit - 1 := by omega
        subst heq
        rw [hget]
    have hsub := (List.take_sublist limit merged).filter keep
    rw [hfirst] at hsub
    have hle := hsub.length_le
    rw [List.length_take] at hle
    omega
  rw [← take_filter_of_sorted (hdown hmerged.sorted) hlength, hfilter,
    take_filter_of_sorted (hdown hranking.sorted) (hfilter ▸ hlength)]

lemma mem_answer_of_le {rows answer : List (Neighbor δ)} {k : ℕ} (h : AnswersNearest rows answer k)
    {bound : δ} (hprobe : answer.length < k ∨
      ∃ tail, answer.getLast?.map Neighbor.distance = some tail ∧ bound < tail)
    {row : Neighbor δ} (hrow : row ∈ rows) (hle : row.distance ≤ bound) : row ∈ answer := by
  obtain ⟨rest, hperm, hnearest⟩ := h.nearest
  rcases List.mem_append.mp (hperm.symm.subset hrow) with hmem | hrest
  · exact hmem
  · rcases hprobe with hshort | ⟨tail, htail, hbeyond⟩
    · -- all rows were answered, so nothing is left out
      have hlength := hperm.length_eq
      rw [List.length_append] at hlength
      have hpos := List.length_pos_of_mem hrest
      have hmin := h.length
      omega
    · obtain ⟨last, hlast, rfl⟩ := Option.map_eq_some_iff.mp htail
      have hge := hnearest last (List.mem_of_getLast? hlast) row hrest
      exact absurd (hge.trans hle) (not_le.mpr hbeyond)

/-- The results are the smallest memories by least distance and id, as many as wanted. -/
structure IsSmallest (rows : List (Neighbor δ)) (limit : ℕ) (results : List (Neighbor δ)) : Prop where
  sorted : results.Pairwise fun a b => a.rank < b.rank
  nearest : ∀ neighbor ∈ results, IsNearest rows neighbor
  smallest : ∀ neighbor ∈ results, ∀ other, IsNearest rows other → other ∉ results →
    neighbor.rank < other.rank
  length : results.length = min limit (rows.map Neighbor.id).dedup.length

lemma exists_isNearest {rows : List (Neighbor δ)} {row : Neighbor δ} (hrow : row ∈ rows) :
    ∃ neighbor, IsNearest rows neighbor ∧ neighbor.id = row.id := by
  have hrow' : row.id ∈ (bestOf rows).map Neighbor.id :=
    (@mem_keys_foldl_insertOrUpdate _ _ _ Neighbor.id (Neighbor δ) (fun row => row)
      (fun row stored => { stored with distance := min stored.distance row.distance })
      (fun _ _ _ => rfl) rows [] row.id).mpr (.inr ⟨row, hrow, rfl⟩)
  obtain ⟨neighbor, hneighbor, hid⟩ := List.mem_map.mp hrow'
  refine ⟨neighbor, (rowAt_bestOf_iff rows neighbor).mp ?_, hid⟩
  exact (rowAt_eq_some_iff (nodup_bestOf rows)).mpr ⟨hneighbor, rfl⟩

lemma IsRanking.length_eq {rows ranking : List (Neighbor δ)} (h : IsRanking rows ranking) :
    ranking.length = (rows.map Neighbor.id).dedup.length := by
  have hnodup : (ranking.map Neighbor.id).Nodup := by
    refine List.pairwise_map.mpr (h.sorted.imp_of_mem fun {a b} ha hb hlt hid => ?_)
    have heq := ((h.mem_iff a).mp ha).unique ((h.mem_iff b).mp hb) hid
    exact lt_irrefl _ (heq ▸ hlt)
  have hperm : (ranking.map Neighbor.id).Perm (rows.map Neighbor.id).dedup := by
    refine (List.perm_ext_iff_of_nodup hnodup (List.nodup_dedup _)).mpr fun id => ?_
    rw [List.mem_dedup, List.mem_map, List.mem_map]
    constructor
    · rintro ⟨neighbor, hneighbor, rfl⟩
      exact ⟨neighbor, ((h.mem_iff neighbor).mp hneighbor).1, rfl⟩
    · rintro ⟨row, hrow, rfl⟩
      obtain ⟨neighbor, hnearest, hid⟩ := exists_isNearest hrow
      exact ⟨neighbor, (h.mem_iff neighbor).mpr hnearest, hid⟩
  rw [← hperm.length_eq, List.length_map]

lemma IsRanking.isSmallest_take {rows ranking : List (Neighbor δ)} (h : IsRanking rows ranking)
    (limit : ℕ) : IsSmallest rows limit (ranking.take limit) where
  sorted := h.sorted.sublist (List.take_sublist _ _)
  nearest neighbor hneighbor := (h.mem_iff neighbor).mp (List.mem_of_mem_take hneighbor)
  smallest neighbor hneighbor other hother hnot := by
    have hmem := (h.mem_iff other).mpr hother
    have hsplit := h.sorted
    rw [← List.take_append_drop limit ranking] at hmem hsplit
    have hdrop := (List.mem_append.mp hmem).resolve_left hnot
    exact (List.pairwise_append.mp hsplit).2.2 neighbor hneighbor other hdrop
  length := by rw [List.length_take, h.length_eq]

/-! ### Eligible rows -/

omit [LinearOrder δ] in
lemma mem_eligible_iff {snapshot : RankingSnapshot δ} {scope : CandidateScope δ}
    {models : List String} {row : Neighbor δ} :
    row ∈ snapshot.eligible scope models ↔ ∃ model ∈ models, row ∈ snapshot.eligible scope [model] := by
  unfold RankingSnapshot.eligible
  simp only [List.mem_map, List.mem_filter, Bool.and_eq_true, List.contains_iff_mem,
    List.mem_singleton]
  constructor
  · rintro ⟨vector, ⟨hmem, ⟨hvisible, hmodel⟩, haccepted⟩, rfl⟩
    exact ⟨vector.model, hmodel, vector, ⟨hmem, ⟨hvisible, rfl⟩, haccepted⟩, rfl⟩
  · rintro ⟨model, hmodel, vector, ⟨hmem, ⟨hvisible, rfl⟩, haccepted⟩, rfl⟩
    exact ⟨vector, ⟨hmem, ⟨hvisible, hmodel⟩, haccepted⟩, rfl⟩

omit [LinearOrder δ] in
lemma contains_of_mem_eligible {snapshot : RankingSnapshot δ} {scope : CandidateScope δ}
    {models : List String} {row : Neighbor δ} (h : row ∈ snapshot.eligible scope models) :
    snapshot.memoryItems.contains row.id = true := by
  unfold RankingSnapshot.eligible at h
  obtain ⟨vector, hvector, rfl⟩ := List.mem_map.mp h
  have hkept := (List.mem_filter.mp hvector).2
  rw [Bool.and_eq_true, Bool.and_eq_true, Bool.and_eq_true] at hkept
  exact hkept.1.1.1

lemma isSmallest_scalarRank (snapshot : RankingSnapshot δ) (scope : CandidateScope δ)
    (models : List String) (limit : ℕ) :
    IsSmallest (snapshot.eligible scope models) limit (scalarRank snapshot scope models limit) :=
  (isRanking_nearestByMemory _).isSmallest_take limit

lemma loadPayloads_scalarRank (snapshot : RankingSnapshot δ) (scope : CandidateScope δ)
    (models : List String) (limit : ℕ) :
    loadPayloads snapshot (scalarRank snapshot scope models limit) =
      scalarRank snapshot scope models limit := by
  refine List.filter_eq_self.mpr fun neighbor hneighbor => ?_
  exact contains_of_mem_eligible
    ((isSmallest_scalarRank snapshot scope models limit).nearest neighbor hneighbor).1

lemma take_mergeNeighbors_of_isCertified {answer : String → ℕ → List (Neighbor δ)}
    {snapshot : RankingSnapshot δ} {scope : CandidateScope δ} {models : List String} {limit k : ℕ}
    (hanswer : ∀ model ∈ models,
      AnswersNearest (snapshot.eligible scope [model]) (answer model k) k)
    (hlimit : 1 ≤ limit)
    (hcertified : isCertified
      (mergeNeighbors ((models.map fun model => nativeProbe answer model k).flatMap Prod.fst))
      ((models.map fun model => nativeProbe answer model k).map Prod.snd) limit = true) :
    (mergeNeighbors ((models.map fun model => nativeProbe answer model k).flatMap Prod.fst)).take
      limit = scalarRank snapshot scope models limit := by
  have hfound : (models.map fun model => nativeProbe answer model k).flatMap Prod.fst =
      models.flatMap fun model => answer model k := by
    rw [List.flatMap_map]
    rfl
  rw [hfound] at hcertified ⊢
  unfold isCertified at hcertified
  cases hnth : (mergeNeighbors (models.flatMap fun model => answer model k))[limit - 1]? with
  | none => simp [hnth] at hcertified
  | some nth =>
    simp only [hnth, List.map_map, List.all_map, List.all_eq_true, Function.comp_apply] at hcertified
    refine take_eq_of_agree (isRanking_nearestByMemory _) (isRanking_mergeNeighbors _) hlimit hnth
      (fun row hrow => ?_) fun row hrow hle => ?_
    · obtain ⟨model, hmodel, hrow⟩ := List.mem_flatMap.mp hrow
      obtain ⟨rest, hperm, -⟩ := (hanswer model hmodel).nearest
      exact mem_eligible_iff.mpr
        ⟨model, hmodel, hperm.subset (List.mem_append_left _ hrow)⟩
    · obtain ⟨model, hmodel, hrow⟩ := mem_eligible_iff.mp hrow
      refine List.mem_flatMap.mpr ⟨model, hmodel, ?_⟩
      refine mem_answer_of_le (hanswer model hmodel) ?_ hrow hle
      rcases Bool.or_eq_true_iff.mp (hcertified model hmodel) with hexhausted | htail
      · exact .inl (of_decide_eq_true hexhausted)
      · obtain ⟨tail, htail, hbeyond⟩ := (Option.any_eq_true _ _).mp htail
        exact .inr ⟨tail, htail, of_decide_eq_true hbeyond⟩

/-- A valid request has the scalar ranking for its answer on either path: the `limit` memories that
come first by least distance and id. -/
theorem rankPrevalidatedSnapshot_exact (answer : String → ℕ → List (Neighbor δ))
    (snapshot : RankingSnapshot δ) (scope : CandidateScope δ) (models : List String) (limit : ℕ)
    (hanswer : ∀ model ∈ models, ∀ k,
      AnswersNearest (snapshot.eligible scope [model]) (answer model k) k) :
    (limit < 1 ∨ 200 < limit →
      rankPrevalidatedSnapshot answer snapshot scope models limit =
        .error "semantic_limit_must_be_1_to_200") ∧
    (1 ≤ limit → limit ≤ 200 →
      ∃ native, rankPrevalidatedSnapshot answer snapshot scope models limit =
        .ok ⟨scalarRank snapshot scope models limit, native⟩) ∧
    IsSmallest (snapshot.eligible scope models) limit
      (scalarRank snapshot scope models limit) := by
  refine ⟨fun hinvalid => if_pos hinvalid, fun hpos hle => ?_,
    isSmallest_scalarRank snapshot scope models limit⟩
  have hvalid : ¬(limit < 1 ∨ 200 < limit) := by omega
  unfold rankPrevalidatedSnapshot
  rw [if_neg hvalid]
  refine ⟨_, congrArg Except.ok (congrArg₂ RankingResult.mk ?_ rfl)⟩
  split_ifs with hcertified
  · rw [take_mergeNeighbors_of_isCertified (fun model hmodel => hanswer model hmodel _) hpos
      hcertified, loadPayloads_scalarRank]
  · exact loadPayloads_scalarRank snapshot scope models limit

lemma answersNearest_page (rows : List (Neighbor δ)) (k : ℕ) :
    AnswersNearest rows (page Neighbor.distance k rows) k where
  length := length_page
  sorted := pairwise_page Neighbor.distance k rows
  nearest := by
    have hsorted := pairwise_sortByPos Neighbor.distance rows
    rw [← List.take_append_drop k (sortByPos Neighbor.distance rows)] at hsorted
    refine ⟨(sortByPos Neighbor.distance rows).drop k, ?_, (List.pairwise_append.mp hsorted).2.2⟩
    unfold page
    rw [List.take_append_drop]
    exact perm_sortByPos Neighbor.distance rows

/-- Two models, a memory with two chunks, and a tie. -/
def sampleVectors : RankingSnapshot ℕ :=
  ⟨[1, 2, 3], [⟨1, 2, "small", 5⟩, ⟨2, 2, "small", 9⟩, ⟨3, 1, "large", 5⟩, ⟨4, 3, "large", 7⟩]⟩

/-- All memories and rows are visible. -/
def sampleScope : CandidateScope ℕ := ⟨fun _ => true, fun _ => true⟩

/-- The two nearest memories of the sample. -/
theorem rankPrevalidatedSnapshot_exact_sample :
    (∃ native, rankPrevalidatedSnapshot
      (fun model k => page Neighbor.distance k (sampleVectors.eligible sampleScope [model]))
        sampleVectors sampleScope ["small", "large"] 2 = .ok ⟨[⟨1, 5⟩, ⟨2, 5⟩], native⟩) := by
  have hexact := rankPrevalidatedSnapshot_exact
    (fun model k => page Neighbor.distance k (sampleVectors.eligible sampleScope [model]))
    sampleVectors sampleScope ["small", "large"] 2 fun model _ k => answersNearest_page _ k
  have hranked : scalarRank sampleVectors sampleScope ["small", "large"] 2 = [⟨1, 5⟩, ⟨2, 5⟩] := by
    decide
  rw [← hranked]
  exact hexact.2.1 (by decide) (by decide)

end Codemem

import Codemem.Embeddings.Chunks
import Codemem.Foundation.KeyedRows
import Codemem.Foundation.Paging

/-!
# Pruning obsolete vectors

`pruneObsoleteTargetModelVectors` deletes the rows of a model whose hash is no chunk of their memory
any more.  With the shadow table of row ids it spills the rows of the model and joins them with pages
of active memories; without it, it reads pages of the vector table and deletes as it goes.  Neither
deletes a row that the coverage of a memory rests on, so both delete the same rows.
-/

namespace Codemem

/-- A row of `memory_vectors`. -/
structure VectorRow where
  rowid : ℤ
  memoryId : ℤ
  model : String
  contentHash : Option String
  deriving DecidableEq

/-- The columns of a memory that its chunks come from. -/
structure MemoryTextRow where
  id : ℤ
  title : Option (List ℕ)
  bodyText : Option (List ℕ)
  active : Option ℤ

/-- The vector table with the shadow table of its row ids, and the memories. -/
structure VectorStore where
  rows : List VectorRow
  shadowRowids : List ℤ
  memories : List MemoryTextRow
  rowids_nodup : (rows.map VectorRow.rowid).Nodup
  rowid_pos : ∀ row ∈ rows, 0 < row.rowid
  shadow_perm : shadowRowids.Perm (rows.map VectorRow.rowid)
  ids_nodup : (memories.map MemoryTextRow.id).Nodup
  id_pos : ∀ memory ∈ memories, 0 < memory.id
  active_flag : ∀ memory ∈ memories,
    memory.active = none ∨ memory.active = some 0 ∨ memory.active = some 1

/-- The vector table while it is pruned, and how many rows were deleted. -/
structure PruneState where
  rows : List VectorRow
  deleted : ℕ

def deleteVectorRows (state : PruneState) (rowIds : List ℤ) : PruneState where
  rows := state.rows.filter fun row => !rowIds.contains row.rowid
  deleted := state.deleted + (state.rows.filter fun row => rowIds.contains row.rowid).length

/-- The page size of the scans. -/
def pruneBatchSize : ℕ := 250

section Prune

variable (hashText : List ℕ → String) (model : String)

/-- `chunkHashes(memoryText(title, bodyText))`. -/
def expectedHashes (memory : MemoryTextRow) : List String :=
  (chunkText (trimUnits ((memory.title.getD []) ++ newlineUnit :: (memory.bodyText.getD []))) 1200).map
    hashText

/-- `content_hash == null || !expected.has(content_hash)`. -/
def isStaleHash (expected : List String) (row : VectorRow) : Bool :=
  !row.contentHash.any fun hash => expected.contains hash

def memoryHasCompleteVectorCoverage (rows : List VectorRow) (memory : MemoryTextRow) : Bool :=
  (expectedHashes hashText memory).all fun hash =>
    ((rows.filter fun row => row.memoryId == memory.id && row.model == model).filterMap
      VectorRow.contentHash).contains hash

/-! ### The shadow table -/

def collectTargetVectorRows (store : VectorStore) : List VectorRow :=
  (pagesAbove id pruneBatchSize true (store.shadowRowids.length + 1) 0 store.shadowRowids).flatMap
    fun rowIds => rowIds.filterMap fun rowid =>
      (rowAt VectorRow.rowid rowid store.rows).filter fun row => row.model == model

/-- The pages of `visitTargetVectorRowsForMemories`. -/
def visitTargetVectorRows (scan : List VectorRow) (memoryIds : List ℤ) : List (List VectorRow) :=
  pagesAbove VectorRow.rowid pruneBatchSize true (scan.length + 1) 0
    (scan.filter fun row => memoryIds.contains row.memoryId)

/-- `summarizeTargetVectorCoverage`: the memories of a page whose chunks are all there. -/
def coveredMemories (scan : List VectorRow) (memories : List MemoryTextRow) : List MemoryTextRow :=
  let visited := (visitTargetVectorRows scan (memories.map MemoryTextRow.id)).flatten
  memories.filter fun memory => (expectedHashes hashText memory).all fun hash =>
    ((visited.filter fun row => row.memoryId == memory.id).filterMap
      VectorRow.contentHash).contains hash

def obsoleteOfPage (memories : List MemoryTextRow) (rows : List VectorRow) : List VectorRow :=
  rows.filter fun row => isStaleHash
    (((rowAt MemoryTextRow.id row.memoryId memories).map (expectedHashes hashText)).getD []) row

def pruneActiveMemoryPage (work : PruneState × List VectorRow) (memories : List MemoryTextRow) :
    PruneState × List VectorRow :=
  let covered := (coveredMemories hashText work.2 memories).map MemoryTextRow.id
  ((visitTargetVectorRows work.2 covered).foldl (fun state rows =>
      deleteVectorRows state ((obsoleteOfPage hashText memories rows).map VectorRow.rowid)) work.1,
    work.2.filter fun row => !(memories.map MemoryTextRow.id).contains row.memoryId)

def pruneTargetVectorRowsFromShadowTable (store : VectorStore) : PruneState :=
  let active := store.memories.filter fun memory => memory.active == some 1
  let work := (pagesAbove MemoryTextRow.id pruneBatchSize false (active.length + 1) 0 active).foldl
    (pruneActiveMemoryPage hashText) (⟨store.rows, 0⟩, collectTargetVectorRows model store)
  -- what is left belongs to no active memory
  (pagesAbove VectorRow.rowid pruneBatchSize true (work.2.length + 1) 0 work.2).foldl
    (fun state rows => deleteVectorRows state (rows.map VectorRow.rowid)) work.1

/-! ### The legacy scan -/

/-- The rows of a page that the legacy scan deletes. -/
def obsoleteOfBatch (memories : List MemoryTextRow) (rows batch : List VectorRow) : List VectorRow :=
  batch.filter fun row =>
    match rowAt MemoryTextRow.id row.memoryId memories with
    | none => true
    | some memory =>
      if memory.active = none ∨ memory.active = some 0 then true
      else memoryHasCompleteVectorCoverage hashText model rows memory &&
        isStaleHash (expectedHashes hashText memory) row

/-- The loop of `pruneTargetVectorRowsWithLegacyScan`. -/
def legacyScan (memories : List MemoryTextRow) : ℕ → ℤ → PruneState → PruneState
  | 0, _, state => state
  | fuel + 1, afterRowId, state =>
    let batch := page VectorRow.rowid pruneBatchSize (entriesAbove VectorRow.rowid (some afterRowId)
      (state.rows.filter fun row => row.model == model))
    match lastPos VectorRow.rowid batch with
    | none => state
    | some last => legacyScan memories fuel last (deleteVectorRows state
        ((obsoleteOfBatch hashText model memories state.rows batch).map VectorRow.rowid))

def pruneTargetVectorRowsWithLegacyScan (store : VectorStore) : PruneState :=
  legacyScan hashText model store.memories (store.rows.length + 1) 0 ⟨store.rows, 0⟩

/-! ### What is obsolete -/

def VectorStore.activeMemory (store : VectorStore) (id : ℤ) (memory : MemoryTextRow) : Prop :=
  memory ∈ store.memories ∧ memory.id = id ∧ memory.active = some 1

/-- All chunks of a memory are there. -/
def VectorStore.IsCovered (store : VectorStore) (memory : MemoryTextRow) : Prop :=
  ∀ hash ∈ expectedHashes hashText memory,
    ∃ row ∈ store.rows, row.model = model ∧ row.memoryId = memory.id ∧ row.contentHash = some hash

/-- A row of the model is obsolete when its memory is not active, or has all its chunks and the row is
none of them. -/
def VectorStore.IsObsolete (store : VectorStore) (row : VectorRow) : Prop :=
  row.model = model ∧ ∀ memory, store.activeMemory row.memoryId memory →
    store.IsCovered hashText model memory ∧
      ∀ hash ∈ expectedHashes hashText memory, row.contentHash ≠ some hash

end Prune

/-! ### Deleting rows -/

lemma deleted_add_length_deleteVectorRows (state : PruneState) (rowIds : List ℤ) :
    (deleteVectorRows state rowIds).deleted + (deleteVectorRows state rowIds).rows.length =
      state.deleted + state.rows.length := by
  have hsplit := List.length_eq_length_filter_add (l := state.rows)
    fun row => rowIds.contains row.rowid
  unfold deleteVectorRows
  dsimp only
  omega

lemma rows_foldl_deleteVectorRows {β : Type*} (select : β → List ℤ) (pages : List β)
    (state : PruneState) :
    (pages.foldl (fun state rows => deleteVectorRows state (select rows)) state).rows =
      state.rows.filter fun row => !(pages.flatMap select).contains row.rowid := by
  induction pages generalizing state with
  | nil => simp
  | cons rows pages ih =>
    rw [List.foldl_cons, ih]
    unfold deleteVectorRows
    rw [List.filter_filter]
    refine List.filter_congr fun row _ => ?_
    simp only [List.flatMap_cons, List.contains_eq_mem, List.mem_append, Bool.decide_or]
    rw [Bool.not_or, Bool.and_comm]

lemma deleted_add_length_foldl {β : Type*} (select : β → List ℤ) (pages : List β)
    (state : PruneState) :
    (pages.foldl (fun state rows => deleteVectorRows state (select rows)) state).deleted +
        (pages.foldl (fun state rows => deleteVectorRows state (select rows)) state).rows.length =
      state.deleted + state.rows.length := by
  induction pages generalizing state with
  | nil => rfl
  | cons rows pages ih => rw [List.foldl_cons, ih, deleted_add_length_deleteVectorRows]

lemma eq_of_sublist_of_mem_iff {α : Type*} {l s t : List α} (hnodup : l.Nodup) (hs : s.Sublist l)
    (ht : t.Sublist l) (h : ∀ a, a ∈ s ↔ a ∈ t) : s = t := by
  induction l generalizing s t with
  | nil => rw [List.eq_nil_of_sublist_nil hs, List.eq_nil_of_sublist_nil ht]
  | cons b l ih =>
    obtain ⟨hb, hl⟩ := List.nodup_cons.mp hnodup
    cases hs with
    | cons _ hs =>
      cases ht with
      | cons _ ht => exact ih hl hs ht h
      | cons_cons _ ht => exact absurd (hs.subset ((h b).mpr List.mem_cons_self)) hb
    | cons_cons _ hs =>
      cases ht with
      | cons _ ht => exact absurd (ht.subset ((h b).mp List.mem_cons_self)) hb
      | cons_cons _ ht =>
        rw [ih hl hs ht fun a => ?_]
        constructor
        · intro ha
          have hne : a ≠ b := fun heq => hb (heq ▸ hs.subset ha)
          exact (List.mem_cons.mp ((h a).mp (List.mem_cons_of_mem b ha))).resolve_left hne
        · intro ha
          have hne : a ≠ b := fun heq => hb (heq ▸ ht.subset ha)
          exact (List.mem_cons.mp ((h a).mpr (List.mem_cons_of_mem b ha))).resolve_left hne

/-! ### The spilled rows -/

section Shadow

variable {hashText : List ℕ → String} {model : String} {store : VectorStore}

lemma isStaleHash_iff {expected : List String} {row : VectorRow} :
    isStaleHash expected row = true ↔ ∀ hash ∈ expected, row.contentHash ≠ some hash := by
  unfold isStaleHash
  cases row.contentHash with
  | none => simp
  | some stored =>
    simp only [Option.any_some, List.contains_eq_mem, Bool.not_eq_true', decide_eq_false_iff_not,
      ne_eq, Option.some.injEq]
    exact ⟨fun h hash hhash heq => h (heq ▸ hhash), fun h hmem => h stored hmem rfl⟩

/-- The scan holds the rows of the model whose memory has not been handled. -/
structure IsScan (model : String) (store : VectorStore) (handled : List ℤ) (scan : List VectorRow) :
    Prop where
  nodup : (scan.map VectorRow.rowid).Nodup
  mem_iff : ∀ row, row ∈ scan ↔ row ∈ store.rows ∧ row.model = model ∧ row.memoryId ∉ handled

lemma VectorStore.eq_of_rowid (store : VectorStore) {row other : VectorRow} (hrow : row ∈ store.rows)
    (hother : other ∈ store.rows) (hid : row.rowid = other.rowid) : row = other :=
  List.inj_on_of_nodup_map store.rowids_nodup hrow hother hid

lemma map_rowid_filterMap_sublist (rowIds : List ℤ) (rows : List VectorRow) :
    ((rowIds.filterMap fun rowid => (rowAt VectorRow.rowid rowid rows).filter
      fun row => row.model == model).map VectorRow.rowid).Sublist rowIds := by
  induction rowIds with
  | nil => exact List.Sublist.slnil
  | cons rowid rowIds ih =>
    cases hfound : (rowAt VectorRow.rowid rowid rows).filter fun row => row.model == model with
    | none =>
      simp only [List.filterMap_cons, hfound]
      exact ih.cons rowid
    | some row =>
      have hrow := (rowAt_eq_some (Option.eq_some_of_filter_eq_some hfound)).2
      simp only [List.filterMap_cons, hfound, List.map_cons, hrow]
      exact ih.cons_cons rowid

lemma isScan_collectTargetVectorRows (model : String) (store : VectorStore) :
    IsScan model store [] (collectTargetVectorRows model store) := by
  have hids : (store.shadowRowids.map id).Nodup := by
    rw [List.map_id]
    exact store.shadow_perm.nodup_iff.mpr store.rowids_nodup
  have hall : entriesAbove id (some 0) store.shadowRowids = store.shadowRowids := by
    refine List.filter_eq_self.mpr fun rowid hrowid => ?_
    obtain ⟨row, hrow, rfl⟩ := List.mem_map.mp (store.shadow_perm.mem_iff.mp hrowid)
    exact decide_eq_true (store.rowid_pos row hrow)
  have hpages := @flatten_pagesAbove _ _ _ id pruneBatchSize (by decide) _ hids true
    (store.shadowRowids.length + 1) 0 (by rw [hall]; exact Nat.lt_succ_self _)
  have hcollect : collectTargetVectorRows model store =
      (sortByPos id store.shadowRowids).filterMap fun rowid =>
        (rowAt VectorRow.rowid rowid store.rows).filter fun row => row.model == model := by
    unfold collectTargetVectorRows
    rw [← hall, ← hpages, List.filterMap_flatten, List.flatMap_def, hall]
  have hsortedIds : (sortByPos id store.shadowRowids).Nodup :=
    (perm_sortByPos id _).nodup_iff.mpr (by simpa using hids)
  rw [hcollect]
  refine ⟨(map_rowid_filterMap_sublist _ _).nodup hsortedIds, fun row => ?_⟩
  simp only [List.mem_filterMap, mem_sortByPos, Option.filter_eq_some_iff, beq_iff_eq,
    List.not_mem_nil, not_false_eq_true, and_true, rowAt_eq_some_iff store.rowids_nodup]
  constructor
  · rintro ⟨rowid, -, ⟨hrow, -⟩, hmodel⟩
    exact ⟨hrow, hmodel⟩
  · rintro ⟨hrow, hmodel⟩
    exact ⟨row.rowid, store.shadow_perm.mem_iff.mpr (List.mem_map_of_mem hrow), ⟨hrow, rfl⟩, hmodel⟩

lemma IsScan.mem_visit {handled : List ℤ} {scan : List VectorRow} (h : IsScan model store handled scan)
    (memoryIds : List ℤ) {row : VectorRow} :
    row ∈ (visitTargetVectorRows scan memoryIds).flatten ↔ row ∈ scan ∧ row.memoryId ∈ memoryIds := by
  have hnodup : ((scan.filter fun row => memoryIds.contains row.memoryId).map
      VectorRow.rowid).Nodup := h.nodup.sublist (List.filter_sublist.map _)
  have hall : entriesAbove VectorRow.rowid (some 0)
      (scan.filter fun row => memoryIds.contains row.memoryId) =
        scan.filter fun row => memoryIds.contains row.memoryId := by
    refine List.filter_eq_self.mpr fun row hrow => decide_eq_true ?_
    exact store.rowid_pos row ((h.mem_iff row).mp (List.mem_filter.mp hrow).1).1
  have hfuel : (entriesAbove VectorRow.rowid (some 0)
      (scan.filter fun row => memoryIds.contains row.memoryId)).length < scan.length + 1 := by
    rw [hall]
    exact Nat.lt_succ_of_le (List.length_filter_le _ _)
  unfold visitTargetVectorRows
  rw [flatten_pagesAbove (by decide) hnodup true (scan.length + 1) 0 hfuel, hall, mem_sortByPos,
    List.mem_filter, List.contains_iff_mem]

lemma IsScan.handle {handled : List ℤ} {scan : List VectorRow} (h : IsScan model store handled scan)
    (ids : List ℤ) :
    IsScan model store (handled ++ ids) (scan.filter fun row => !ids.contains row.memoryId) where
  nodup := h.nodup.sublist (List.filter_sublist.map _)
  mem_iff row := by
    rw [List.mem_filter, h.mem_iff, Bool.not_eq_true', List.contains_eq_mem,
      decide_eq_false_iff_not, List.mem_append, not_or, and_assoc, and_assoc]

lemma IsScan.mem_coveredMemories {handled : List ℤ} {scan : List VectorRow}
    (h : IsScan model store handled scan) {memories : List MemoryTextRow}
    (hnew : ∀ memory ∈ memories, memory.id ∉ handled) {memory : MemoryTextRow} :
    memory ∈ coveredMemories hashText scan memories ↔
      memory ∈ memories ∧ store.IsCovered hashText model memory := by
  unfold coveredMemories VectorStore.IsCovered
  rw [List.mem_filter]
  refine and_congr_right fun hmemory => ?_
  rw [List.all_eq_true]
  refine forall₂_congr fun hash _ => ?_
  simp only [List.contains_eq_mem, decide_eq_true_eq, List.mem_filterMap, List.mem_filter,
    h.mem_visit, h.mem_iff, beq_iff_eq]
  constructor
  · rintro ⟨row, ⟨⟨⟨hrow, hmodel, -⟩, -⟩, hid⟩, hhash⟩
    exact ⟨row, hrow, hmodel, hid, hhash⟩
  · rintro ⟨row, hrow, hmodel, hid, hhash⟩
    refine ⟨row, ⟨⟨⟨hrow, hmodel, ?_⟩, ?_⟩, hid⟩, hhash⟩
    · rw [hid]
      exact hnew memory hmemory
    · rw [hid]
      exact List.mem_map_of_mem hmemory

/-- While the shadow path runs: the scan, the stored rows, and the count. -/
structure ShadowInvariant (hashText : List ℕ → String) (model : String) (store : VectorStore)
    (handled : List ℤ) (work : PruneState × List VectorRow) : Prop where
  scan : IsScan model store handled work.2
  sublist : work.1.rows.Sublist store.rows
  mem_iff : ∀ row ∈ store.rows, row ∈ work.1.rows ↔
    ¬(store.IsObsolete hashText model row ∧ row.memoryId ∈ handled)
  count : work.1.deleted + work.1.rows.length = store.rows.length

lemma VectorStore.activeMemory_unique {id : ℤ} {memory other : MemoryTextRow}
    (h : store.activeMemory id memory) (hother : store.activeMemory id other) : memory = other :=
  List.inj_on_of_nodup_map store.ids_nodup h.1 hother.1 (h.2.1.trans hother.2.1.symm)

/-- A page of active memories deletes their obsolete rows. -/
lemma ShadowInvariant.page {handled : List ℤ} {work : PruneState × List VectorRow}
    (h : ShadowInvariant hashText model store handled work) {memories : List MemoryTextRow}
    (hactive : ∀ memory ∈ memories, memory ∈ store.memories ∧ memory.active = some 1)
    (hnodup : (memories.map MemoryTextRow.id).Nodup)
    (hnew : ∀ memory ∈ memories, memory.id ∉ handled) :
    ShadowInvariant hashText model store (handled ++ memories.map MemoryTextRow.id)
      (pruneActiveMemoryPage hashText work memories) := by
  -- which row ids the page deletes
  have hdeleted : ∀ row ∈ store.rows,
      row.rowid ∈ (visitTargetVectorRows work.2 ((coveredMemories hashText work.2 memories).map
          MemoryTextRow.id)).flatMap (fun rows =>
            (obsoleteOfPage hashText memories rows).map VectorRow.rowid) ↔
        store.IsObsolete hashText model row ∧ row.memoryId ∈ memories.map MemoryTextRow.id := by
    intro row hrow
    rw [List.mem_flatMap]
    constructor
    · rintro ⟨rows, hrows, hrowid⟩
      obtain ⟨found, hfound, hid⟩ := List.mem_map.mp hrowid
      obtain ⟨hfound, hstale⟩ := List.mem_filter.mp hfound
      have hvisited := (h.scan.mem_visit _).mp (List.mem_flatten.mpr ⟨rows, hrows, hfound⟩)
      have hscan := (h.scan.mem_iff found).mp hvisited.1
      obtain rfl := store.eq_of_rowid hscan.1 hrow hid
      obtain ⟨memory, hmemory, hmemoryId⟩ := List.mem_map.mp hvisited.2
      obtain ⟨hmem, hcovered⟩ := (h.scan.mem_coveredMemories hnew).mp hmemory
      have hrowAt : rowAt MemoryTextRow.id found.memoryId memories = some memory :=
        (rowAt_eq_some_iff hnodup).mpr ⟨hmem, hmemoryId⟩
      rw [hrowAt, Option.map_some, Option.getD_some, isStaleHash_iff] at hstale
      refine ⟨⟨hscan.2.1, fun other hother => ?_⟩, List.mem_map.mpr ⟨memory, hmem, hmemoryId⟩⟩
      obtain rfl := VectorStore.activeMemory_unique
        ⟨(hactive memory hmem).1, hmemoryId, (hactive memory hmem).2⟩ hother
      exact ⟨hcovered, hstale⟩
    · rintro ⟨⟨hmodel, hobsolete⟩, hid⟩
      obtain ⟨memory, hmem, hmemoryId⟩ := List.mem_map.mp hid
      obtain ⟨hcovered, hstale⟩ := hobsolete memory
        ⟨(hactive memory hmem).1, hmemoryId, (hactive memory hmem).2⟩
      have hscan : row ∈ work.2 := (h.scan.mem_iff row).mpr
        ⟨hrow, hmodel, hmemoryId ▸ hnew memory hmem⟩
      have hcoveredId : row.memoryId ∈ (coveredMemories hashText work.2 memories).map
          MemoryTextRow.id :=
        List.mem_map.mpr ⟨memory, (h.scan.mem_coveredMemories hnew).mpr ⟨hmem, hcovered⟩, hmemoryId⟩
      obtain ⟨rows, hrows, hvisited⟩ :=
        List.mem_flatten.mp ((h.scan.mem_visit _).mpr ⟨hscan, hcoveredId⟩)
      have hrowAt : rowAt MemoryTextRow.id row.memoryId memories = some memory :=
        (rowAt_eq_some_iff hnodup).mpr ⟨hmem, hmemoryId⟩
      refine ⟨rows, hrows, List.mem_map.mpr ⟨row, List.mem_filter.mpr ⟨hvisited, ?_⟩, rfl⟩⟩
      rw [hrowAt, Option.map_some, Option.getD_some, isStaleHash_iff]
      exact hstale
  refine ⟨h.scan.handle _, ?_, fun row hrow => ?_, ?_⟩
  · unfold pruneActiveMemoryPage
    rw [rows_foldl_deleteVectorRows]
    exact List.filter_sublist.trans h.sublist
  · unfold pruneActiveMemoryPage
    rw [rows_foldl_deleteVectorRows, List.mem_filter, h.mem_iff row hrow, Bool.not_eq_true',
      List.contains_eq_mem, decide_eq_false_iff_not, hdeleted row hrow, List.mem_append]
    tauto
  · unfold pruneActiveMemoryPage
    rw [deleted_add_length_foldl]
    exact h.count

lemma ShadowInvariant.pages {handled : List ℤ} {work : PruneState × List VectorRow}
    (h : ShadowInvariant hashText model store handled work) {pages : List (List MemoryTextRow)}
    (hactive : ∀ memory ∈ pages.flatten, memory ∈ store.memories ∧ memory.active = some 1)
    (hnodup : (pages.flatten.map MemoryTextRow.id).Nodup)
    (hnew : ∀ memory ∈ pages.flatten, memory.id ∉ handled) :
    ShadowInvariant hashText model store (handled ++ pages.flatten.map MemoryTextRow.id)
      (pages.foldl (pruneActiveMemoryPage hashText) work) := by
  induction pages generalizing handled work with
  | nil =>
    rw [List.flatten_nil, List.map_nil, List.append_nil]
    exact h
  | cons memories pages ih =>
    rw [List.flatten_cons, List.map_append] at hnodup
    obtain ⟨hfirst, hrest, hdisjoint⟩ := List.nodup_append.mp hnodup
    have hpage := h.page (fun memory hmemory => hactive memory (List.mem_append_left _ hmemory))
      hfirst fun memory hmemory => hnew memory (List.mem_append_left _ hmemory)
    have hnext := ih hpage (fun memory hmemory => hactive memory (List.mem_append_right _ hmemory))
      hrest fun memory hmemory hhandled => by
        rcases List.mem_append.mp hhandled with hbefore | hpageId
        · exact hnew memory (List.mem_append_right _ hmemory) hbefore
        · exact hdisjoint _ hpageId _ (List.mem_map_of_mem hmemory) rfl
    rw [List.flatten_cons, List.map_append, ← List.append_assoc]
    exact hnext

/-- The rows and the count after a complete run. -/
structure IsPruned (hashText : List ℕ → String) (model : String) (store : VectorStore)
    (state : PruneState) : Prop where
  sublist : state.rows.Sublist store.rows
  mem_iff : ∀ row ∈ store.rows, row ∈ state.rows ↔ ¬store.IsObsolete hashText model row
  count : state.deleted + state.rows.length = store.rows.length

lemma ShadowInvariant.remaining {handled : List ℤ} {work : PruneState × List VectorRow}
    (h : ShadowInvariant hashText model store handled work)
    (hhandled : ∀ id, id ∈ handled ↔ ∃ memory, store.activeMemory id memory) :
    IsPruned hashText model store
      ((pagesAbove VectorRow.rowid pruneBatchSize true (work.2.length + 1) 0 work.2).foldl
        (fun state rows => deleteVectorRows state (rows.map VectorRow.rowid)) work.1) := by
  have hall : entriesAbove VectorRow.rowid (some 0) work.2 = work.2 := by
    refine List.filter_eq_self.mpr fun row hrow => decide_eq_true ?_
    exact store.rowid_pos row ((h.scan.mem_iff row).mp hrow).1
  have hpages := @flatten_pagesAbove _ _ _ VectorRow.rowid pruneBatchSize (by decide) _ h.scan.nodup true
    (work.2.length + 1) 0 (by rw [hall]; exact Nat.lt_succ_self _)
  rw [hall] at hpages
  have hdeleted : ∀ row ∈ store.rows,
      row.rowid ∈ (pagesAbove VectorRow.rowid pruneBatchSize true (work.2.length + 1) 0
        work.2).flatMap (fun rows => rows.map VectorRow.rowid) ↔ row ∈ work.2 := by
    intro row hrow
    rw [List.flatMap_def, ← List.map_flatten, hpages, List.mem_map]
    constructor
    · rintro ⟨found, hfound, hid⟩
      rw [mem_sortByPos] at hfound
      rwa [← store.eq_of_rowid ((h.scan.mem_iff found).mp hfound).1 hrow hid]
    · exact fun hscan => ⟨row, mem_sortByPos.mpr hscan, rfl⟩
  refine ⟨?_, fun row hrow => ?_, ?_⟩
  · rw [rows_foldl_deleteVectorRows]
    exact List.filter_sublist.trans h.sublist
  · rw [rows_foldl_deleteVectorRows, List.mem_filter, h.mem_iff row hrow, Bool.not_eq_true',
      List.contains_eq_mem, decide_eq_false_iff_not, hdeleted row hrow, h.scan.mem_iff]
    -- a row of the model whose memory is not active is obsolete
    have hinactive : row.model = model → row.memoryId ∉ handled →
        store.IsObsolete hashText model row := fun hmodel hnot =>
      ⟨hmodel, fun memory hmemory => absurd ((hhandled _).mpr ⟨memory, hmemory⟩) hnot⟩
    have hmodel : store.IsObsolete hashText model row → row.model = model := fun hobs => hobs.1
    tauto
  · rw [deleted_add_length_foldl]
    exact h.count

lemma isPruned_shadowTable (hashText : List ℕ → String) (model : String) (store : VectorStore) :
    IsPruned hashText model store (pruneTargetVectorRowsFromShadowTable hashText model store) := by
  let active := store.memories.filter fun memory => memory.active == some 1
  have hids : (active.map MemoryTextRow.id).Nodup :=
    store.ids_nodup.sublist (List.filter_sublist.map _)
  have hall : entriesAbove MemoryTextRow.id (some 0) active = active := by
    refine List.filter_eq_self.mpr fun memory hmemory => decide_eq_true ?_
    exact store.id_pos memory (List.mem_filter.mp hmemory).1
  have hpages := @flatten_pagesAbove _ _ _ MemoryTextRow.id pruneBatchSize (by decide) _ hids false
    (active.length + 1) 0 (by rw [hall]; exact Nat.lt_succ_self _)
  rw [hall] at hpages
  have hmem : ∀ memory, memory ∈ (pagesAbove MemoryTextRow.id pruneBatchSize false
      (active.length + 1) 0 active).flatten ↔ memory ∈ store.memories ∧ memory.active = some 1 := by
    intro memory
    rw [hpages, mem_sortByPos, List.mem_filter, beq_iff_eq]
  have hstart : ShadowInvariant hashText model store []
      (⟨store.rows, 0⟩, collectTargetVectorRows model store) := by
    refine ⟨isScan_collectTargetVectorRows model store, List.Sublist.refl _, fun row hrow => ?_, ?_⟩
    · simp [hrow]
    · exact Nat.zero_add _
  have hrun := hstart.pages (fun memory hmemory => (hmem memory).mp hmemory)
    (by rw [hpages, ((perm_sortByPos _ _).map _).nodup_iff]; exact hids)
    fun memory _ => List.not_mem_nil
  rw [List.nil_append] at hrun
  refine hrun.remaining fun id => ?_
  rw [List.mem_map]
  constructor
  · rintro ⟨memory, hmemory, rfl⟩
    obtain ⟨hstored, hactive⟩ := (hmem memory).mp hmemory
    exact ⟨memory, hstored, rfl, hactive⟩
  · rintro ⟨memory, hstored, hid, hactive⟩
    exact ⟨memory, (hmem memory).mpr ⟨hstored, hactive⟩, hid⟩

end Shadow

/-! ### The pages of the legacy scan -/

section Legacy

variable {hashText : List ℕ → String} {model : String} {store : VectorStore}

/-- While the legacy scan runs: the obsolete rows up to the cursor are gone, and no others. -/
structure LegacyInvariant (hashText : List ℕ → String) (model : String) (store : VectorStore)
    (afterRowId : ℤ) (state : PruneState) : Prop where
  sublist : state.rows.Sublist store.rows
  mem_iff : ∀ row ∈ store.rows, row ∈ state.rows ↔
    ¬(store.IsObsolete hashText model row ∧ row.rowid ≤ afterRowId)
  count : state.deleted + state.rows.length = store.rows.length

lemma LegacyInvariant.coverage {afterRowId : ℤ} {state : PruneState}
    (h : LegacyInvariant hashText model store afterRowId state) {id : ℤ} {memory : MemoryTextRow}
    (hactive : store.activeMemory id memory) :
    memoryHasCompleteVectorCoverage hashText model state.rows memory = true ↔
      store.IsCovered hashText model memory := by
  unfold memoryHasCompleteVectorCoverage VectorStore.IsCovered
  rw [List.all_eq_true]
  refine forall₂_congr fun hash hhash => ?_
  simp only [List.contains_eq_mem, decide_eq_true_eq, List.mem_filterMap, List.mem_filter,
    Bool.and_eq_true, beq_iff_eq]
  constructor
  · rintro ⟨row, ⟨hrow, hid, hmodel⟩, hstored⟩
    exact ⟨row, h.sublist.subset hrow, hmodel, hid, hstored⟩
  · rintro ⟨row, hrow, hmodel, hid, hstored⟩
    refine ⟨row, ⟨(h.mem_iff row hrow).mpr fun hobsolete => ?_, hid, hmodel⟩, hstored⟩
    -- a chunk of an active memory is not obsolete
    exact (hobsolete.1.2 memory ⟨hactive.1, hid.symm, hactive.2.2⟩).2 hash hhash hstored

lemma LegacyInvariant.mem_obsoleteOfBatch {afterRowId : ℤ} {state : PruneState}
    (h : LegacyInvariant hashText model store afterRowId state) {batch : List VectorRow}
    {row : VectorRow} (hmodel : row.model = model) :
    row ∈ obsoleteOfBatch hashText model store.memories state.rows batch ↔
      row ∈ batch ∧ store.IsObsolete hashText model row := by
  unfold obsoleteOfBatch
  rw [List.mem_filter]
  refine and_congr_right fun _ => ?_
  cases hfound : rowAt MemoryTextRow.id row.memoryId store.memories with
  | none =>
    simp only [true_iff]
    exact ⟨hmodel, fun memory hmemory => absurd hmemory.2.1 (rowAt_eq_none hfound hmemory.1)⟩
  | some memory =>
    obtain ⟨hstored, hid⟩ := rowAt_eq_some hfound
    have hunique : ∀ other, store.activeMemory row.memoryId other → other = memory :=
      fun other hother => List.inj_on_of_nodup_map store.ids_nodup hother.1 hstored
        (hother.2.1.trans hid.symm)
    dsimp only
    split_ifs with hinactive
    · simp only [true_iff]
      refine ⟨hmodel, fun other hother => ?_⟩
      have hflag := hother.2.2
      rw [hunique other hother] at hflag
      rcases hinactive with hnone | hzero
      · rw [hnone] at hflag
        cases hflag
      · rw [hzero] at hflag
        cases hflag
    · have hactive : store.activeMemory row.memoryId memory :=
        ⟨hstored, hid, ((store.active_flag memory hstored).resolve_left
          fun hnone => hinactive (.inl hnone)).resolve_left fun hzero => hinactive (.inr hzero)⟩
      rw [Bool.and_eq_true, h.coverage hactive, isStaleHash_iff]
      constructor
      · rintro ⟨hcovered, hstale⟩
        refine ⟨hmodel, fun other hother => ?_⟩
        rw [hunique other hother]
        exact ⟨hcovered, hstale⟩
      · exact fun hobsolete => hobsolete.2 memory hactive

/-- A page of the legacy scan moves the invariant to its last row. -/
lemma LegacyInvariant.step {afterRowId last : ℤ} {state : PruneState}
    (h : LegacyInvariant hashText model store afterRowId state)
    (hlast : lastPos VectorRow.rowid (page VectorRow.rowid pruneBatchSize
      (entriesAbove VectorRow.rowid (some afterRowId)
        (state.rows.filter fun row => row.model == model))) = some last) :
    LegacyInvariant hashText model store last (deleteVectorRows state
      ((obsoleteOfBatch hashText model store.memories state.rows
        (page VectorRow.rowid pruneBatchSize (entriesAbove VectorRow.rowid (some afterRowId)
          (state.rows.filter fun row => row.model == model)))).map VectorRow.rowid)) := by
  have hlt := lt_lastPos_page hlast
  have hbatch : ∀ row ∈ page VectorRow.rowid pruneBatchSize (entriesAbove VectorRow.rowid
      (some afterRowId) (state.rows.filter fun row => row.model == model)),
      row ∈ state.rows ∧ row.model = model ∧ afterRowId < row.rowid := by
    intro row hrow
    obtain ⟨hmem, habove⟩ := mem_entriesAbove.mp (mem_of_mem_page hrow)
    obtain ⟨hstored, hmodel⟩ := List.mem_filter.mp hmem
    exact ⟨hstored, beq_iff_eq.mp hmodel, habove afterRowId rfl⟩
  refine ⟨List.filter_sublist.trans h.sublist, fun row hrow => ?_, ?_⟩
  · have hdeleted : row.rowid ∈ (obsoleteOfBatch hashText model store.memories state.rows
        (page VectorRow.rowid pruneBatchSize (entriesAbove VectorRow.rowid (some afterRowId)
          (state.rows.filter fun row => row.model == model)))).map VectorRow.rowid ↔
        store.IsObsolete hashText model row ∧ afterRowId < row.rowid ∧ row.rowid ≤ last := by
      rw [List.mem_map]
      constructor
      · rintro ⟨found, hfound, hid⟩
        have hpage := hbatch found (List.mem_filter.mp hfound).1
        obtain rfl := store.eq_of_rowid (h.sublist.subset hpage.1) hrow hid
        exact ⟨((h.mem_obsoleteOfBatch hpage.2.1).mp hfound).2, hpage.2.2,
          pos_le_lastPos hlast (List.mem_filter.mp hfound).1⟩
      · rintro ⟨hobsolete, habove, hle⟩
        have hstored := (h.mem_iff row hrow).mpr fun hgone => absurd hgone.2 (not_le.mpr habove)
        have hentry : row ∈ entriesAbove VectorRow.rowid (some afterRowId)
            (state.rows.filter fun row => row.model == model) := by
          refine mem_entriesAbove.mpr
            ⟨List.mem_filter.mpr ⟨hstored, beq_iff_eq.mpr hobsolete.1⟩, fun c hc => ?_⟩
          obtain rfl := Option.some.inj hc
          exact habove
        have hinj : ∀ a ∈ entriesAbove VectorRow.rowid (some afterRowId)
            (state.rows.filter fun row => row.model == model),
            ∀ b ∈ entriesAbove VectorRow.rowid (some afterRowId)
              (state.rows.filter fun row => row.model == model), a.rowid = b.rowid → a = b :=
          fun a ha b hb => store.eq_of_rowid
            (h.sublist.subset (List.mem_filter.mp (mem_entriesAbove.mp ha).1).1)
            (h.sublist.subset (List.mem_filter.mp (mem_entriesAbove.mp hb).1).1)
        exact ⟨row, (h.mem_obsoleteOfBatch hobsolete.1).mpr
          ⟨mem_page_of_le_lastPos hinj hentry hlast hle, hobsolete⟩, rfl⟩
    unfold deleteVectorRows
    rw [List.mem_filter, h.mem_iff row hrow, Bool.not_eq_true', List.contains_eq_mem,
      decide_eq_false_iff_not, hdeleted, ← not_or]
    refine not_congr ⟨?_, fun hgone => ?_⟩
    · rintro (⟨hobsolete, hle⟩ | ⟨hobsolete, -, hle⟩)
      · exact ⟨hobsolete, hle.trans hlt.le⟩
      · exact ⟨hobsolete, hle⟩
    · rcases le_or_gt row.rowid afterRowId with hle | hgt
      · exact .inl ⟨hgone.1, hle⟩
      · exact .inr ⟨hgone.1, hgt, hgone.2⟩
  · rw [deleted_add_length_deleteVectorRows]
    exact h.count

/-- With enough fuel the legacy scan deletes the obsolete rows. -/
lemma LegacyInvariant.run {fuel : ℕ} {afterRowId : ℤ} {state : PruneState}
    (h : LegacyInvariant hashText model store afterRowId state)
    (hfuel : (entriesAbove VectorRow.rowid (some afterRowId)
      (state.rows.filter fun row => row.model == model)).length < fuel) :
    IsPruned hashText model store (legacyScan hashText model store.memories fuel afterRowId state) := by
  induction fuel generalizing afterRowId state with
  | zero => exact absurd hfuel (Nat.not_lt_zero _)
  | succ fuel ih =>
    unfold legacyScan
    cases hlast : lastPos VectorRow.rowid (page VectorRow.rowid pruneBatchSize
        (entriesAbove VectorRow.rowid (some afterRowId)
          (state.rows.filter fun row => row.model == model))) with
    | none =>
      simp only [hlast]
      rw [lastPos_eq_none_iff, page_eq_nil_iff (by decide)] at hlast
      refine ⟨h.sublist, fun row hrow => ?_, h.count⟩
      rw [h.mem_iff row hrow]
      refine not_congr ⟨fun hgone => hgone.1, fun hobsolete => ⟨hobsolete, ?_⟩⟩
      -- nothing of the model is above the cursor
      by_contra hgt
      have hstored := (h.mem_iff row hrow).mpr fun hgone => hgt hgone.2
      have hentry : row ∈ entriesAbove VectorRow.rowid (some afterRowId)
          (state.rows.filter fun row => row.model == model) := by
        refine mem_entriesAbove.mpr
          ⟨List.mem_filter.mpr ⟨hstored, beq_iff_eq.mpr hobsolete.1⟩, fun c hc => ?_⟩
        obtain rfl := Option.some.inj hc
        exact not_le.mp hgt
      rw [hlast] at hentry
      exact absurd hentry List.not_mem_nil
    | some last =>
      simp only [hlast]
      refine ih (h.step hlast) ?_
      have hless := length_entriesAbove_lt hlast
      have hsub : ((deleteVectorRows state ((obsoleteOfBatch hashText model store.memories
          state.rows (page VectorRow.rowid pruneBatchSize (entriesAbove VectorRow.rowid
            (some afterRowId) (state.rows.filter fun row => row.model == model)))).map
              VectorRow.rowid)).rows.filter fun row => row.model == model).Sublist
          (state.rows.filter fun row => row.model == model) := List.filter_sublist.filter _
      have hle := (hsub.filter fun row => (some last).all fun c => c < row.rowid).length_le
      exact (hle.trans_lt hless).trans_le (Nat.le_of_lt_succ hfuel)

lemma isPruned_legacyScan (hashText : List ℕ → String) (model : String) (store : VectorStore) :
    IsPruned hashText model store (pruneTargetVectorRowsWithLegacyScan hashText model store) := by
  have hstart : LegacyInvariant hashText model store 0 ⟨store.rows, 0⟩ := by
    refine ⟨List.Sublist.refl _, fun row hrow => ?_, Nat.zero_add _⟩
    have hpos := store.rowid_pos row hrow
    simp [hrow, hpos]
  refine hstart.run (Nat.lt_succ_of_le ?_)
  exact (List.length_filter_le _ _).trans (List.length_filter_le _ _)

end Legacy

end Codemem

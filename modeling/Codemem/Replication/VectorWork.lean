import Codemem.Replication.Convergence

/-!
# The vector work of a batch

`applyReplicationOps` returns two sets of row ids: the rows whose vectors are to be written and the
rows whose vectors are to be removed.  An op reads the first row of its import key and queues its
work for that row only.  Where a live row is the first of its key, it stays so until an op of the
batch tombstones or removes it, and that op puts its id in the delete set (`VectorStep`).  For these
rows the two sets match the rows after the batch (`vectorWork_matches_rows`).
-/

namespace Codemem

def IsLookedUp (rows : List MemoryItem) (row : MemoryItem) : Prop :=
  ∀ key, row.importKey = some key →
    rows.find? (fun row' => row'.importKey == some key) = some row

/-- The id belongs to a live row that its import key looks up. -/
def LiveId (rows : List MemoryItem) (id : ℕ) : Prop :=
  ∃ row ∈ rows, row.id = id ∧ row.isLive = true ∧ IsLookedUp rows row

/-- What one op does to the live rows, told by its vector work. -/
inductive VectorStep (rows rows' : List MemoryItem) : List (ℕ × VectorOperation) → Prop
  | nothing (keeps : ∀ id, LiveId rows id → LiveId rows' id) : VectorStep rows rows' []
  | upsert (id : ℕ) (isLive : LiveId rows' id) (keeps : ∀ k, LiveId rows k → LiveId rows' k) :
      VectorStep rows rows' [(id, .upsert)]
  | delete (id : ℕ) (keeps : ∀ k, k ≠ id → LiveId rows k → LiveId rows' k) :
      VectorStep rows rows' [(id, .delete)]

variable {rows : List MemoryItem} {id : ℕ}

/-! ### Live rows after writes -/

lemma IsLookedUp.filter {row : MemoryItem} {keep : MemoryItem → Bool} (h : IsLookedUp rows row)
    (hkeep : keep row = true) : IsLookedUp (rows.filter keep) row := by
  intro key hkey
  obtain ⟨hrow, before, after, hsplit, hbefore⟩ := List.find?_eq_some_iff_append.mp (h key hkey)
  rw [List.find?_eq_some_iff_append]
  refine ⟨hrow, before.filter keep, after.filter keep, ?_, fun a ha => ?_⟩
  · rw [hsplit, List.filter_append, List.filter_cons, if_pos hkeep]
  · exact hbefore a (List.mem_of_mem_filter ha)

lemma LiveId.filter {removed : ℕ} (hne : id ≠ removed) (h : LiveId rows id) :
    LiveId (rows.filter fun row => !(row.id == removed)) id := by
  obtain ⟨row, hmem, hid, hlive, hfirst⟩ := h
  have hkeep : (!(row.id == removed)) = true := by simpa [hid] using hne
  have hfirst' : IsLookedUp (rows.filter fun row => !(row.id == removed)) row :=
    hfirst.filter hkeep
  exact ⟨row, List.mem_filter.mpr ⟨hmem, hkeep⟩, hid, hlive, hfirst'⟩

lemma IsLookedUp.map {row : MemoryItem} {write : MemoryItem → MemoryItem}
    (hkey : ∀ row, (write row).importKey = row.importKey) (h : IsLookedUp rows row) :
    IsLookedUp (rows.map write) (write row) := by
  intro key hrow
  rw [hkey] at hrow
  have hcomp : (fun row' : MemoryItem => row'.importKey == some key) ∘ write =
      fun row' => row'.importKey == some key := by
    funext row'
    simp [hkey]
  rw [List.find?_map, hcomp, h key hrow]
  rfl

lemma LiveId.map {write : MemoryItem → MemoryItem}
    (hkey : ∀ row, (write row).importKey = row.importKey) (hid : ∀ row, (write row).id = row.id)
    (hlive : ∀ row ∈ rows, row.id = id → row.isLive = true → IsLookedUp rows row →
      (write row).isLive = true) (h : LiveId rows id) : LiveId (rows.map write) id := by
  obtain ⟨row, hmem, hrow, hisLive, hfirst⟩ := h
  exact ⟨write row, List.mem_map_of_mem hmem, (hid row).trans hrow,
    hlive row hmem hrow hisLive hfirst, hfirst.map hkey⟩

lemma LiveId.mapId {written : ℕ} {write : MemoryItem → MemoryItem}
    (hkey : ∀ row, (write row).importKey = row.importKey) (hid : ∀ row, (write row).id = row.id)
    (hne : id ≠ written) (h : LiveId rows id) :
    LiveId (rows.map fun row => if row.id == written then write row else row) id := by
  refine h.map (fun row => ?_) (fun row => ?_) fun row _ hrow hlive _ => ?_
  · split_ifs <;> simp [hkey]
  · split_ifs <;> simp [hid]
  · simpa [hrow, hne] using hlive

lemma LiveId.append (new : List MemoryItem) (h : LiveId rows id) : LiveId (rows ++ new) id := by
  obtain ⟨row, hmem, hid, hlive, hfirst⟩ := h
  refine ⟨row, List.mem_append_left _ hmem, hid, hlive, fun key hkey => ?_⟩
  rw [List.find?_append, hfirst key hkey]
  rfl

lemma liveId_append_new {row : MemoryItem} {key : String} (hkey : row.importKey = some key)
    (hnew : rows.find? (fun row' => row'.importKey == some key) = none)
    (hlive : row.isLive = true) : LiveId (rows ++ [row]) row.id := by
  refine ⟨row, by simp, rfl, hlive, fun key' hkey' => ?_⟩
  obtain rfl : key = key' := Option.some.inj (hkey.symm.trans hkey')
  rw [List.find?_append, hnew]
  simp [hkey]

/-! ### The vector work of the handlers -/

variable {ctx : ApplyContext} {st st' : Store} {op : ReplicationOp}

lemma vectorStep_recordOnly (st : Store) (op : ReplicationOp) :
    VectorStep st.memoryItems (st.insertReplicationOpRow op).memoryItems [] := by
  rw [Store.insertReplicationOpRow_memoryItems]
  exact .nothing fun _ h => h

lemma vectorStep_accessCleanup (st : Store) (op : ReplicationOp) (localDeviceId : String) :
    VectorStep st.memoryItems (applyAccessCleanupOp st op localDeviceId).1.memoryItems
      (applyAccessCleanupOp st op localDeviceId).2.vectorWork := by
  unfold applyAccessCleanupOp applyAccessCleanupForLocalDevice
  cases (parseAccessCleanupPayload op).cleanupScopeId with
  | none => exact vectorStep_recordOnly st op
  | some cleanupScopeId =>
    cases hlookup : st.memoryByImportKey op.entityId with
    | none => exact vectorStep_recordOnly st op
    | some existing =>
      simp only
      split
      · exact vectorStep_recordOnly st op
      · rw [Store.insertReplicationOpRow_memoryItems, if_pos rfl]
        exact .delete existing.id fun _ hne h => h.filter hne

lemma vectorStep_reassignOldSide {localDeviceId : String} {reassignment : ReassignScopePayload}
    {tally : OpTally}
    (h : applyReassignOldSide st op localDeviceId reassignment = .ok (st', tally)) :
    VectorStep st.memoryItems st'.memoryItems tally.vectorWork := by
  unfold applyReassignOldSide at h
  cases hlookup : st.memoryByImportKey op.entityId with
  | none =>
    rw [hlookup] at h
    cases h
    exact vectorStep_recordOnly st op
  | some current =>
    rw [hlookup] at h
    simp only at h
    split_ifs at h
    · cases h
      exact vectorStep_recordOnly st op
    · cases h
      exact vectorStep_recordOnly st op
    · cases h
      rw [Store.insertReplicationOpRow_memoryItems, Store.updateMemories,
        recordForeignMemoryRevision_memoryItems]
      exact .delete current.id fun _ hne h => h.mapId (fun _ => rfl) (fun _ => rfl) hne

lemma vectorStep_delete (ctx : ApplyContext) (st : Store) (op : ReplicationOp) :
    VectorStep st.memoryItems (applyDelete ctx st op).1.memoryItems
      (applyDelete ctx st op).2.vectorWork := by
  unfold applyDelete
  cases hlookup : st.memoryByImportKey op.entityId with
  | none => exact vectorStep_recordOnly st op
  | some existing =>
    simp only
    split_ifs
    · exact vectorStep_recordOnly st op
    · simp only [Store.insertReplicationOpRow_memoryItems, Store.updateMemories,
        recordForeignMemoryRevision_memoryItems]
      exact .delete existing.id fun _ hne h => h.mapId (fun _ => rfl) (fun _ => rfl) hne

lemma overwriteRow_isLive {payload : MemoryPayload} {memRow : MemoryItem} (row : MemoryItem)
    (h : ¬ ((nextDeletedAt payload memRow).isSome = true ∨ writtenActive payload memRow = 0)) :
    (overwriteRow op payload (writtenActive payload memRow)
      (nextDeletedAt payload memRow) row).isLive = true := by
  obtain ⟨hdeleted, hactive⟩ := not_or.mp h
  simp only [overwriteRow, MemoryItem.isLive, Option.getD_some, Bool.and_eq_true, bne_iff_ne]
  exact ⟨hactive, by simpa using hdeleted⟩

/-- An update queues the row its key looks up: for removal where it wrote a tombstone or made the
row inactive, and else for writing where the content changed or the row came back. -/
lemma vectorStep_upsertUpdate (ctx : ApplyContext) (payload : MemoryPayload) {memRow : MemoryItem}
    (hlookup : st.memoryByImportKey op.entityId = some memRow) :
    VectorStep st.memoryItems (applyUpsertUpdate ctx st op payload memRow).1.memoryItems
      (updateVectorWork payload memRow) := by
  rw [applyUpsertUpdate_memoryItems]
  obtain ⟨hmem, hkey⟩ := Store.memoryByImportKey_eq_some hlookup
  have hfirst : IsLookedUp st.memoryItems memRow := by
    intro key hrow
    obtain rfl : op.entityId = key := Option.some.inj (hkey.symm.trans hrow)
    exact hlookup
  -- A live row of the key is the row of the lookup.
  have hsame : ∀ row, IsLookedUp st.memoryItems row → row.importKey = some op.entityId →
      row = memRow := by
    intro row hrow hrowKey
    exact Option.some.inj ((hrow _ hrowKey).symm.trans hlookup)
  have hkeeps : ∀ id, (id = memRow.id →
      ¬ ((nextDeletedAt payload memRow).isSome = true ∨ writtenActive payload memRow = 0)) →
      LiveId st.memoryItems id → LiveId (st.memoryItems.map fun row =>
        if row.importKey == some op.entityId then
          overwriteRow op payload (writtenActive payload memRow) (nextDeletedAt payload memRow) row
        else row) id := by
    intro id hid h
    refine h.map (fun row => ?_) (fun row => ?_) fun row _ hrow hlive hrowFirst => ?_
    · split_ifs <;> rfl
    · split_ifs <;> rfl
    · split_ifs with hrowKey
      · have heq := hsame row hrowFirst (by simpa using hrowKey)
        exact overwriteRow_isLive row (hid (hrow.symm.trans (congrArg MemoryItem.id heq)))
      · exact hlive
  unfold updateVectorWork
  dsimp only
  split_ifs with hdelete hupsert
  · exact .delete memRow.id fun k hne => hkeeps k fun heq => absurd heq hne
  · refine .upsert memRow.id ?_ fun k => hkeeps k fun _ => hdelete
    refine ⟨_, List.mem_map_of_mem hmem, ?_, ?_, hfirst.map fun row => ?_⟩
    · split_ifs <;> rfl
    · rw [if_pos (by simpa using hkey)]
      exact overwriteRow_isLive memRow hdelete
    · split_ifs <;> rfl
  · exact .nothing fun k => hkeeps k fun _ => hdelete

lemma vectorStep_upsertInsert (ctx : ApplyContext) (payload : MemoryPayload)
    (hlookup : st.memoryByImportKey op.entityId = none) :
    VectorStep st.memoryItems (applyUpsertInsert ctx st op payload).1.memoryItems
      (applyUpsertInsert ctx st op payload).2.vectorWork := by
  rw [applyUpsertInsert_memoryItems]
  have hwork : (applyUpsertInsert ctx st op payload).2.vectorWork = [(st.nextMemoryId,
      if payload.deletedAt.isSome ∨ payload.active.getD 1 = 0 then .delete else .upsert)] := by
    simp [applyUpsertInsert, tallyApplied, Store.nextMemoryId, Store.insertSession,
      recordForeignMemoryRevision_memoryItems]
  rw [hwork]
  split_ifs with hdead
  · exact .delete _ fun _ _ h => h.append _
  · obtain ⟨hdeleted, hactive⟩ := not_or.mp hdead
    refine .upsert _ ?_ fun _ h => h.append _
    have hkey : ({ insertedRow op payload st.nextSessionId with
      id := st.nextMemoryId } : MemoryItem).importKey = some op.entityId := rfl
    refine liveId_append_new hkey hlookup ?_
    simp only [insertedRow, MemoryItem.isLive, Option.getD_some, Bool.and_eq_true, bne_iff_ne]
    exact ⟨hactive, by simpa using hdeleted⟩

lemma vectorStep_upsert {reassignment : Option ReassignScopePayload} {tally : OpTally}
    (h : applyUpsert ctx st op reassignment = .ok (st', tally)) :
    VectorStep st.memoryItems st'.memoryItems tally.vectorWork := by
  unfold applyUpsert at h
  cases hlookup : st.memoryByImportKey op.entityId with
  | none =>
    rw [hlookup] at h
    rcases hparse : parseMemoryPayload ctx.runtime op with ⟨payload, errors⟩
    rw [hparse] at h
    cases payload with
    | none =>
      cases h
      exact vectorStep_recordOnly st op
    | some payload =>
      obtain ⟨rfl, rfl⟩ := Prod.ext_iff.mp (Except.ok.inj h)
      exact vectorStep_upsertInsert ctx _ hlookup
  | some memRow =>
    rw [hlookup] at h
    simp only at h
    split_ifs at h
    · cases h
      exact vectorStep_recordOnly st op
    · rcases hparse : parseMemoryPayload ctx.runtime op with ⟨payload, errors⟩
      rw [hparse] at h
      cases payload with
      | none =>
        cases h
        exact vectorStep_recordOnly st op
      | some payload =>
        obtain ⟨rfl, rfl⟩ := Prod.ext_iff.mp (Except.ok.inj h)
        exact vectorStep_upsertUpdate ctx _ hlookup

lemma vectorStep_body {localDeviceId : String} {tally : OpTally}
    (h : replicationOpBody ctx localDeviceId st op = .ok (st', tally)) :
    VectorStep st.memoryItems st'.memoryItems tally.vectorWork := by
  unfold replicationOpBody at h
  split_ifs at h
  · cases h
    exact .nothing fun _ h => h
  · cases hop : op.opType with
    | upsert =>
      rw [hop] at h
      exact vectorStep_upsert h
    | delete =>
      rw [hop] at h
      obtain ⟨rfl, rfl⟩ := Prod.ext_iff.mp (Except.ok.inj h)
      exact vectorStep_delete ctx st op
    | accessCleanup =>
      rw [hop] at h
      obtain ⟨rfl, rfl⟩ := Prod.ext_iff.mp (Except.ok.inj h)
      exact vectorStep_accessCleanup st op localDeviceId
    | reassignScope =>
      rw [hop] at h
      cases hparse : parseReassignScopePayload op with
      | error message => rw [hparse] at h; cases h
      | ok reassignment =>
        rw [hparse] at h
        cases hside : reassignment.side with
        | old =>
          simp only [hside] at h
          exact vectorStep_reassignOldSide h
        | new =>
          simp only [hside] at h
          exact vectorStep_upsert h
    | other name =>
      rw [hop] at h
      cases h
      exact vectorStep_recordOnly st op

/-- The vector work of one op in its savepoint; a failed op queues nothing and changes nothing. -/
theorem applyReplicationOp_vectorStep (ctx : ApplyContext) (localDeviceId : String) (st : Store)
    (op : ReplicationOp) :
    VectorStep st.memoryItems (applyReplicationOp ctx localDeviceId st op).1.memoryItems
      (applyReplicationOp ctx localDeviceId st op).2.vectorWork := by
  unfold applyReplicationOp
  cases ctx.fault st op with
  | some message => exact .nothing fun _ h => h
  | none =>
    simp only
    cases hbody : replicationOpBody ctx localDeviceId st op with
    | error message => exact .nothing fun _ h => h
    | ok result => exact vectorStep_body hbody

/-! ### The sets of a batch -/

/-- The two sets of a batch match the rows: no id is in both, every id to write is a live row, and
every row that was live at the start is live or to be removed. -/
structure WorkMatches (before rows : List MemoryItem) (result : ApplyResult) : Prop where
  disjoint : ∀ id ∈ result.upsertMemoryIds, id ∉ result.deleteMemoryIds
  written : ∀ id ∈ result.upsertMemoryIds, LiveId rows id
  removed : ∀ id, LiveId before id → LiveId rows id ∨ id ∈ result.deleteMemoryIds

lemma mem_insertId {ids : List ℕ} {k id : ℕ} :
    k ∈ (if id ∈ ids then ids else ids ++ [id]) ↔ k ∈ ids ∨ k = id := by
  split_ifs with hmem
  · exact ⟨Or.inl, fun h => h.elim (fun h => h) fun h => h ▸ hmem⟩
  · simp

lemma WorkMatches.finish {before rows' : List MemoryItem} {result : ApplyResult} {tally : OpTally}
    (h : WorkMatches before rows result) (hstep : VectorStep rows rows' tally.vectorWork) :
    WorkMatches before rows' (finishReplicationOp result tally) := by
  unfold finishReplicationOp
  generalize tally.vectorWork = work at hstep
  cases hstep with
  | nothing keeps =>
    exact ⟨h.disjoint, fun id hid => keeps id (h.written id hid),
      fun id hid => (h.removed id hid).imp_left (keeps id)⟩
  | upsert id isLive keeps =>
    simp only [List.foldl_cons, List.foldl_nil, mergeVectorWork]
    refine ⟨fun k hk hdelete => ?_, fun k hk => ?_, fun k hk => ?_⟩
    · obtain ⟨hdelete, hne⟩ := List.mem_filter.mp hdelete
      rcases mem_insertId.mp hk with hk | rfl
      · exact h.disjoint k hk hdelete
      · simp at hne
    · rcases mem_insertId.mp hk with hk | rfl
      · exact keeps k (h.written k hk)
      · exact isLive
    · rcases h.removed k hk with hlive | hdelete
      · exact .inl (keeps k hlive)
      · rcases eq_or_ne k id with rfl | hne
        · exact .inl isLive
        · exact .inr (List.mem_filter.mpr ⟨hdelete, by simpa using hne⟩)
  | delete id keeps =>
    simp only [List.foldl_cons, List.foldl_nil, mergeVectorWork]
    refine ⟨fun k hk hdelete => ?_, fun k hk => ?_, fun k hk => ?_⟩
    · obtain ⟨hk, hne⟩ := List.mem_filter.mp hk
      rcases mem_insertId.mp hdelete with hdelete | rfl
      · exact h.disjoint k hk hdelete
      · simp at hne
    · obtain ⟨hk, hne⟩ := List.mem_filter.mp hk
      exact keeps k (by simpa using hne) (h.written k hk)
    · rcases h.removed k hk with hlive | hdelete
      · rcases eq_or_ne k id with rfl | hne
        · exact .inr (mem_insertId.mpr (.inr rfl))
        · exact .inl (keeps k hne hlive)
      · exact .inr (mem_insertId.mpr (.inl hdelete))

lemma foldl_workMatches (ctx : ApplyContext) (localDeviceId : String) (before : List MemoryItem)
    {st : Store} {result : ApplyResult} (h : WorkMatches before st.memoryItems result)
    (ops : List ReplicationOp) :
    let final := ops.foldl (fun acc op =>
      let (st', tally) := applyReplicationOp ctx localDeviceId acc.1 op
      (st', finishReplicationOp acc.2 tally)) (st, result)
    WorkMatches before final.1.memoryItems final.2 := by
  induction ops generalizing st result with
  | nil => exact h
  | cons op ops ih => exact ih (h.finish (applyReplicationOp_vectorStep ctx localDeviceId st op))

lemma applyAll_workMatches (ctx : ApplyContext) (localDeviceId : String) (st : Store)
    (ops : List ReplicationOp) :
    WorkMatches st.memoryItems (applyAll ctx localDeviceId st ops).1.memoryItems
      (applyAll ctx localDeviceId st ops).2 :=
  foldl_workMatches ctx localDeviceId st.memoryItems
    ⟨fun _ h => absurd h List.not_mem_nil, fun _ h => absurd h List.not_mem_nil,
      fun _ h => .inl h⟩ ops

/-- In every batch on every store: no id is both to be written and to be removed; every id to be
written is a live row after the batch; and the id of every live row that its import key looked up
before the batch is the id of a live row after it, or is to be removed. -/
theorem vectorWork_matches_rows (ctx : ApplyContext) (st : Store) (ops : List ReplicationOp)
    (localDeviceId : String) (validation : Option InboundScopeValidationOptions) :
    (∀ id ∈ (applyReplicationOps ctx st ops localDeviceId validation).2.upsertMemoryIds,
      id ∉ (applyReplicationOps ctx st ops localDeviceId validation).2.deleteMemoryIds) ∧
    (∀ id ∈ (applyReplicationOps ctx st ops localDeviceId validation).2.upsertMemoryIds,
      ∃ row ∈ (applyReplicationOps ctx st ops localDeviceId validation).1.memoryItems,
        row.id = id ∧ row.isLive = true) ∧
    ∀ row ∈ st.memoryItems, row.isLive = true → IsLookedUp st.memoryItems row →
      (∃ row' ∈ (applyReplicationOps ctx st ops localDeviceId validation).1.memoryItems,
        row'.id = row.id ∧ row'.isLive = true) ∨
      row.id ∈ (applyReplicationOps ctx st ops localDeviceId validation).2.deleteMemoryIds := by
  have hmatches : WorkMatches st.memoryItems
      (applyReplicationOps ctx st ops localDeviceId validation).1.memoryItems
      (applyReplicationOps ctx st ops localDeviceId validation).2 := by
    unfold applyReplicationOps
    cases hrej : validation.bind (rejectUnretiredScopeFailures st ops localDeviceId) with
    | none => exact applyAll_workMatches ctx localDeviceId st ops
    | some rejected =>
      -- A rejected batch writes no memory and queues nothing.
      cases validation with
      | none => simp at hrej
      | some options =>
        simp only [Option.bind_some, rejectUnretiredScopeFailures, rejectInboundScopeFailures]
          at hrej
        split_ifs at hrej
        · cases hrej
        · cases hrej
          exact ⟨fun _ h => absurd h List.not_mem_nil, fun _ h => absurd h List.not_mem_nil,
            fun _ h => .inl h⟩
  refine ⟨hmatches.disjoint, fun id hid => ?_, fun row hrow hlive hfirst => ?_⟩
  · obtain ⟨row, hrow, hrowId, hlive, -⟩ := hmatches.written id hid
    exact ⟨row, hrow, hrowId, hlive⟩
  · refine (hmatches.removed row.id ⟨row, hrow, rfl, hlive, hfirst⟩).imp_left ?_
    rintro ⟨row', hrow', hrowId, hlive', -⟩
    exact ⟨row', hrow', hrowId, hlive'⟩

/-- The vector work of this input is complete: every row that was live is still there and live, or
its id is to be removed. -/
def RemovalsComplete (st : Store) (ops : List ReplicationOp) : Prop :=
  ∀ row ∈ st.memoryItems, row.isLive = true →
    (∃ row' ∈ (applyReplicationOps (plainContext "2026-01-02") st ops "local" none).1.memoryItems,
      row'.id = row.id ∧ row'.importKey = row.importKey ∧ row'.isLive = true) ∨
    row.id ∈ (applyReplicationOps (plainContext "2026-01-02") st ops "local" none).2.deleteMemoryIds

/-- A live memory of device `remote` in scope `team`. -/
def sampleMemory (id : ℕ) (importKey : String) : MemoryItem where
  id := id
  sessionId := 1
  kind := "discovery"
  title := "title"
  bodyText := "body"
  active := some 1
  createdAt := "2026-01-01"
  updatedAt := "2026-01-01"
  metadataJson := none
  importKey := some importKey
  deletedAt := none
  rev := some 1
  actorId := none
  visibility := none
  workspaceId := none
  workspaceKind := none
  originDeviceId := some "remote"
  scopeId := some "team"
  project := none
  content := MemoryContent.empty

/-- An upsert that retires `m1`. -/
def sampleRetire : ReplicationOp :=
  { sampleUpsert "op-r" "title" 2 with
    payloadJson := some (toJson [("title", .str "title"), ("active", .num 0)]) }

/-- An access cleanup of `m1` in scope `team`. -/
def sampleCleanup : ReplicationOp :=
  { sampleUpsert "op-c" "title" 2 with
    opType := .accessCleanup
    payloadJson := some (toJson [("scope_id", .str "team")]) }

/-- An upsert of another memory. -/
def sampleOther : ReplicationOp := { sampleUpsert "op-o" "title" 1 with entityId := "m2" }

/-- Of two rows with one import key an upsert retires both and queues the first; and a row removed
by a cleanup leaves its id to the next insert, which takes it out of the delete set. -/
theorem vectorWork_misses_rows :
    ¬ RemovalsComplete { Store.empty with memoryItems := [sampleMemory 1 "m1", sampleMemory 2 "m1"] }
        [sampleRetire] ∧
    ¬ RemovalsComplete { Store.empty with memoryItems := [sampleMemory 1 "m1"] }
        [sampleCleanup, sampleOther] := by
  constructor
  · intro h
    exact absurd (h (sampleMemory 2 "m1") (List.mem_cons_of_mem _ List.mem_cons_self)
      (by decide +kernel)) (by decide +kernel)
  · intro h
    exact absurd (h (sampleMemory 1 "m1") List.mem_cons_self (by decide +kernel)) (by decide +kernel)

end Codemem

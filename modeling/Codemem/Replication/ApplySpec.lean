import Codemem.Replication.Apply

/-!
# What one inbound op can do

`applyReplicationOp` is specified once: which tables it leaves alone (`ApplyFrame`), what it adds
to the log, and in which of six ways it changes `memory_items` (`RowEffect`).  Invariants of runs
are proved from these facts, without opening the handlers again.
-/

namespace Codemem

/-! ### Lookups after writes -/

lemma Store.memoryByImportKey_eq_some {st : Store} {key : String} {row : MemoryItem}
    (h : st.memoryByImportKey key = some row) :
    row ∈ st.memoryItems ∧ row.importKey = some key :=
  ⟨List.mem_of_find?_eq_some h, by simpa using List.find?_some h⟩

lemma Store.memoryByImportKey_eq_none_iff {st : Store} {key : String} :
    st.memoryByImportKey key = none ↔ ∀ row ∈ st.memoryItems, row.importKey ≠ some key := by
  simp [Store.memoryByImportKey]

def Store.rowsOf (st : Store) (key : String) : List MemoryItem :=
  st.memoryItems.filter fun row => row.importKey == some key

lemma Store.memoryByImportKey_eq_head? (st : Store) (key : String) :
    st.memoryByImportKey key = (st.rowsOf key).head? := by
  rw [Store.rowsOf, List.head?_filter, Store.memoryByImportKey]

lemma filter_importKey_map {write : MemoryItem → MemoryItem}
    (hkey : ∀ row, (write row).importKey = row.importKey) (rows : List MemoryItem) (key : String) :
    (rows.map write).filter (fun row => row.importKey == some key) =
      (rows.filter fun row => row.importKey == some key).map write := by
  rw [List.filter_map]
  congr 2
  funext row
  simp [hkey]

lemma Store.lt_nextMemoryId {st : Store} {row : MemoryItem} (h : row ∈ st.memoryItems) :
    row.id < st.nextMemoryId := by
  have hle : ∀ l : List ℕ, ∀ n ∈ l, n ≤ l.foldr max 0 := by
    intro l
    induction l with
    | nil => simp
    | cons a l ih =>
      intro n hn
      rcases List.mem_cons.mp hn with rfl | hn
      · exact le_max_left _ _
      · exact (ih n hn).trans (le_max_right _ _)
  exact Nat.lt_succ_of_le (hle _ _ (List.mem_map_of_mem h))

section LogInsert

variable (st : Store) (op : ReplicationOp)

@[simp] lemma Store.insertReplicationOpRow_memoryItems :
    (st.insertReplicationOpRow op).memoryItems = st.memoryItems := by
  unfold Store.insertReplicationOpRow
  split_ifs <;> rfl

@[simp] lemma Store.memoryByImportKey_insertReplicationOpRow (key : String) :
    (st.insertReplicationOpRow op).memoryByImportKey key = st.memoryByImportKey key := by
  simp [Store.memoryByImportKey]

lemma Store.insertReplicationOpRow_eq :
    ∃ ops, st.insertReplicationOpRow op = { st with replicationOps := ops } := by
  unfold Store.insertReplicationOpRow
  split_ifs
  · exact ⟨_, rfl⟩
  · exact ⟨_, rfl⟩

@[simp] lemma Store.hasOp_insertReplicationOpRow :
    (st.insertReplicationOpRow op).hasOp op.opId = true := by
  unfold Store.insertReplicationOpRow
  split_ifs with h
  · exact h
  · simp [Store.hasOp]

lemma Store.hasOp_insertReplicationOpRow_of_ne {opId : String} (h : op.opId ≠ opId) :
    (st.insertReplicationOpRow op).hasOp opId = st.hasOp opId := by
  unfold Store.insertReplicationOpRow
  split_ifs
  · rfl
  · simp [Store.hasOp, h]

end LogInsert

section WriteSimp

variable (st : Store)

@[simp] lemma Store.updateMemories_replicationOps (p : MemoryItem → Bool)
    (f : MemoryItem → MemoryItem) :
    (st.updateMemories p f).replicationOps = st.replicationOps := rfl

@[simp] lemma Store.deleteMemories_replicationOps (p : MemoryItem → Bool) :
    (st.deleteMemories p).replicationOps = st.replicationOps := rfl

@[simp] lemma Store.insertMemory_replicationOps (row : MemoryItem) :
    (st.insertMemory row).replicationOps = st.replicationOps := rfl

@[simp] lemma Store.insertSession_replicationOps (cwd project : Option String) :
    (st.insertSession cwd project).2.replicationOps = st.replicationOps := rfl

@[simp] lemma clearMemoryRefs_replicationOps (id : ℕ) :
    (clearMemoryRefs st id).replicationOps = st.replicationOps := rfl

@[simp] lemma clearMemoryRefs_memoryItems (id : ℕ) :
    (clearMemoryRefs st id).memoryItems = st.memoryItems := rfl

@[simp] lemma populateMemoryRefs_replicationOps (rt : Runtime) (id : ℕ)
    (a b c : Option (List String)) :
    (populateMemoryRefs rt st id a b c).replicationOps = st.replicationOps := rfl

@[simp] lemma populateMemoryRefs_memoryItems (rt : Runtime) (id : ℕ)
    (a b c : Option (List String)) :
    (populateMemoryRefs rt st id a b c).memoryItems = st.memoryItems := rfl

lemma Store.insertReplicationOpRow_replicationOps_congr (st : Store) {st' : Store}
    (h : st'.replicationOps = st.replicationOps) (op : ReplicationOp) :
    (st'.insertReplicationOpRow op).replicationOps =
      (st.insertReplicationOpRow op).replicationOps := by
  have hhas : st'.hasOp op.opId = st.hasOp op.opId := by simp [Store.hasOp, h]
  unfold Store.insertReplicationOpRow
  rw [hhas]
  split_ifs
  · exact h
  · simp [h]

end WriteSimp

/-! ### The frame -/

/-- The tables `applyReplicationOps` may write; every other table of the two stores agrees. -/
def ApplyFrame (st st' : Store) : Prop :=
  ∃ items sessions fileRefs conceptRefs ops revisions, st' =
    { st with
      memoryItems := items
      sessions := sessions
      memoryFileRefs := fileRefs
      memoryConceptRefs := conceptRefs
      replicationOps := ops
      memoryForeignRevisions := revisions }

namespace ApplyFrame

variable {st st' st'' : Store}

lemma refl (st : Store) : ApplyFrame st st := ⟨_, _, _, _, _, _, rfl⟩

lemma trans (h : ApplyFrame st st') (h' : ApplyFrame st' st'') : ApplyFrame st st'' := by
  obtain ⟨_, _, _, _, _, _, rfl⟩ := h
  obtain ⟨_, _, _, _, _, _, rfl⟩ := h'
  exact ⟨_, _, _, _, _, _, rfl⟩

lemma retirements (h : ApplyFrame st st') :
    st'.memoryScopeRetirements = st.memoryScopeRetirements := by
  obtain ⟨_, _, _, _, _, _, rfl⟩ := h
  rfl

lemma sameMembership (h : ApplyFrame st st') : SameMembership st st' := by
  obtain ⟨_, _, _, _, _, _, rfl⟩ := h
  exact ⟨rfl, rfl, rfl⟩

lemma resetState (h : ApplyFrame st st') :
    st'.syncResetStateV2 = st.syncResetStateV2 ∧ st'.syncResetState = st.syncResetState := by
  obtain ⟨_, _, _, _, _, _, rfl⟩ := h
  exact ⟨rfl, rfl⟩

lemma insertReplicationOpRow (h : ApplyFrame st st') (op : ReplicationOp) :
    ApplyFrame st (st'.insertReplicationOpRow op) := by
  obtain ⟨ops, hops⟩ := st'.insertReplicationOpRow_eq op
  rw [hops]
  exact h.trans ⟨_, _, _, _, _, _, rfl⟩

lemma recordForeignMemoryRevision (h : ApplyFrame st st') (entityId : String)
    (path : ForeignWritePath) :
    ApplyFrame st (Codemem.recordForeignMemoryRevision st' entityId path) := by
  obtain ⟨_, hrev⟩ := recordForeignMemoryRevision_eq st' entityId path
  rw [hrev]
  exact h.trans ⟨_, _, _, _, _, _, rfl⟩

lemma updateMemories (h : ApplyFrame st st') (p : MemoryItem → Bool)
    (f : MemoryItem → MemoryItem) : ApplyFrame st (st'.updateMemories p f) :=
  h.trans ⟨_, _, _, _, _, _, rfl⟩

lemma populateMemoryRefs (h : ApplyFrame st st') (rt : Runtime) (id : ℕ)
    (a b c : Option (List String)) :
    ApplyFrame st (Codemem.populateMemoryRefs rt st' id a b c) :=
  h.trans ⟨_, _, _, _, _, _, rfl⟩

end ApplyFrame

/-! ### The clocks of written rows -/

lemma clock_of_foreignRevision {row : MemoryItem} {op : ReplicationOp} {metadata : JsonObject}
    (hrev : row.rev = some op.clockRev) (hupdated : row.updatedAt = op.clockUpdatedAt)
    (hmeta : row.metadataJson = some (toJson (foreignRevisionMetadata op metadata))) :
    row.clock = op.clock := by
  simp [MemoryItem.clock, ReplicationOp.clock, hrev, hupdated, hmeta,
    clockDeviceIdFromMetadataJson, foreignRevisionMetadata, Json.asText]

lemma retractRow_clock (op : ReplicationOp) (reassignment : ReassignScopePayload)
    (row : MemoryItem) : (retractRow op reassignment row).clock = op.clock := by
  have hne : "last_scope_reassignment" ≠ "clock_device_id" := by decide
  simp [MemoryItem.clock, ReplicationOp.clock, retractRow, clockDeviceIdFromMetadataJson,
    foreignRevisionMetadata, JsonObject.get_set_of_ne hne, Json.asText]

lemma tombstoneRow_clock (op : ReplicationOp) (now : String) (row : MemoryItem) :
    (tombstoneRow op now row).clock = op.clock :=
  clock_of_foreignRevision rfl rfl rfl

lemma overwriteRow_clock (op : ReplicationOp) (payload : MemoryPayload) (active : ℚ)
    (deletedAt : Option String) (row : MemoryItem) :
    (overwriteRow op payload active deletedAt row).clock = op.clock :=
  clock_of_foreignRevision rfl rfl rfl

lemma insertedRow_clock (op : ReplicationOp) (payload : MemoryPayload) (sessionId id : ℕ) :
    ({ insertedRow op payload sessionId with id := id } : MemoryItem).clock = op.clock :=
  clock_of_foreignRevision rfl rfl rfl

lemma clock_le_of_accepted {op : ReplicationOp} {reassignment : Option ReassignScopePayload}
    {row : MemoryItem} (h : isNewerClock op.clock row.clock = true ∨
      sameReassignmentClock op reassignment row = true) : row.clock ≤ op.clock := by
  rcases h with h | h
  · exact ((isNewerClock_iff _ _).mp h).le
  · simp only [sameReassignmentClock, Option.any_eq_true] at h
    obtain ⟨r, -, hr⟩ := h
    simp only [Bool.and_eq_true, beq_iff_eq] at hr
    exact hr.1.2.ge

/-! ### The six effects on `memory_items` -/

/-- The ways in which one inbound op changes `memory_items`. -/
inductive RowEffect (ctx : ApplyContext) (st : Store) (op : ReplicationOp) :
    List MemoryItem → Prop
  /-- No row changes. -/
  | unchanged : RowEffect ctx st op st.memoryItems
  /-- An access cleanup removes the row of the import key. -/
  | removed (existing : MemoryItem) (hop : op.opType = .accessCleanup)
      (hlookup : st.memoryByImportKey op.entityId = some existing) :
      RowEffect ctx st op (st.memoryItems.filter fun row => !(row.id == existing.id))
  /-- The old side of a move retracts the row. -/
  | retracted (current : MemoryItem) (reassignment : ReassignScopePayload)
      (hlookup : st.memoryByImportKey op.entityId = some current)
      (hscope : current.effectiveScope = reassignment.oldScopeId)
      (hnewer : isNewerClock op.clock current.clock = true) :
      RowEffect ctx st op (st.memoryItems.map fun row =>
        if row.id == current.id then retractRow op reassignment row else row)
  /-- A delete leaves a tombstone. -/
  | tombstoned (existing : MemoryItem) (hop : op.opType = .delete)
      (hlookup : st.memoryByImportKey op.entityId = some existing)
      (hnewer : isNewerClock op.clock existing.clock = true) :
      RowEffect ctx st op (st.memoryItems.map fun row =>
        if row.id == existing.id then tombstoneRow op ctx.now row else row)
  /-- An upsert, or the new side of a move, overwrites the rows of the import key. -/
  | overwritten (memRow : MemoryItem) (payload : MemoryPayload)
      (reassignment : Option ReassignScopePayload)
      (hmove : ∀ r ∈ reassignment, parseReassignScopePayload op = .ok r)
      (hlookup : st.memoryByImportKey op.entityId = some memRow)
      (hclock : isNewerClock op.clock memRow.clock = true ∨
        sameReassignmentClock op reassignment memRow = true) :
      RowEffect ctx st op (st.memoryItems.map fun row =>
        if row.importKey == some op.entityId then
          overwriteRow op payload (writtenActive payload memRow) (nextDeletedAt payload memRow) row
        else row)
  /-- An upsert, or the new side of a move, inserts the row of a new import key. -/
  | inserted (payload : MemoryPayload) (sessionId : ℕ)
      (hlookup : st.memoryByImportKey op.entityId = none) :
      RowEffect ctx st op
        (st.memoryItems ++ [{ insertedRow op payload sessionId with id := st.nextMemoryId }])

lemma applyUpsertUpdate_memoryItems (ctx : ApplyContext) (st : Store) (op : ReplicationOp)
    (payload : MemoryPayload) (memRow : MemoryItem) :
    (applyUpsertUpdate ctx st op payload memRow).1.memoryItems = st.memoryItems.map fun row =>
      if row.importKey == some op.entityId then
        overwriteRow op payload (writtenActive payload memRow) (nextDeletedAt payload memRow) row
      else row := by
  simp only [applyUpsertUpdate, Store.insertReplicationOpRow_memoryItems,
    populateMemoryRefs_memoryItems, clearMemoryRefs_memoryItems, Store.updateMemories,
    recordForeignMemoryRevision_memoryItems]

lemma applyUpsertInsert_memoryItems (ctx : ApplyContext) (st : Store) (op : ReplicationOp)
    (payload : MemoryPayload) :
    (applyUpsertInsert ctx st op payload).1.memoryItems =
      st.memoryItems ++
        [{ insertedRow op payload st.nextSessionId with id := st.nextMemoryId }] := by
  simp only [applyUpsertInsert, Store.insertReplicationOpRow_memoryItems,
    populateMemoryRefs_memoryItems, Store.insertMemory, Store.insertSession, Store.nextMemoryId,
    recordForeignMemoryRevision_memoryItems]

/-- What a handler promises about the store it returns. -/
structure HandlerSpec (ctx : ApplyContext) (st : Store) (op : ReplicationOp) (st' : Store) :
    Prop where
  frame : ApplyFrame st st'
  log : st'.replicationOps = (st.insertReplicationOpRow op).replicationOps
  rows : RowEffect ctx st op st'.memoryItems

lemma handlerSpec_recordOnly (ctx : ApplyContext) (st : Store) (op : ReplicationOp) :
    HandlerSpec ctx st op (st.insertReplicationOpRow op) where
  frame := (ApplyFrame.refl st).insertReplicationOpRow op
  log := rfl
  rows := by
    rw [Store.insertReplicationOpRow_memoryItems]
    exact .unchanged

lemma handlerSpec_accessCleanup (ctx : ApplyContext) {st : Store} {op : ReplicationOp}
    (localDeviceId : String) (hop : op.opType = .accessCleanup) :
    HandlerSpec ctx st op (applyAccessCleanupOp st op localDeviceId).1 := by
  unfold applyAccessCleanupOp applyAccessCleanupForLocalDevice
  cases (parseAccessCleanupPayload op).cleanupScopeId with
  | none => exact handlerSpec_recordOnly ctx st op
  | some cleanupScopeId =>
    cases hlookup : st.memoryByImportKey op.entityId with
    | none => exact handlerSpec_recordOnly ctx st op
    | some existing =>
      simp only
      split_ifs
      · exact handlerSpec_recordOnly ctx st op
      · refine ⟨ApplyFrame.insertReplicationOpRow ⟨_, _, _, _, _, _, rfl⟩ op, ?_, ?_⟩
        · refine Store.insertReplicationOpRow_replicationOps_congr st ?_ op
          simp
        · rw [Store.insertReplicationOpRow_memoryItems]
          exact .removed existing hop hlookup

lemma handlerSpec_reassignOldSide (ctx : ApplyContext) {st st' : Store} {op : ReplicationOp}
    {localDeviceId : String} {reassignment : ReassignScopePayload} {tally : OpTally}
    (h : applyReassignOldSide st op localDeviceId reassignment = .ok (st', tally)) :
    HandlerSpec ctx st op st' := by
  unfold applyReassignOldSide at h
  cases hlookup : st.memoryByImportKey op.entityId with
  | none =>
    rw [hlookup] at h
    cases h
    exact handlerSpec_recordOnly ctx st op
  | some current =>
    rw [hlookup] at h
    simp only at h
    split_ifs at h with hscope horigin hnewer
    · cases h
      exact handlerSpec_recordOnly ctx st op
    · cases h
      exact handlerSpec_recordOnly ctx st op
    · cases h
      refine ⟨?_, ?_, ?_⟩
      · exact (((ApplyFrame.refl st).recordForeignMemoryRevision _ _).updateMemories _
          _).insertReplicationOpRow op
      · exact Store.insertReplicationOpRow_replicationOps_congr st (by simp) op
      · rw [Store.insertReplicationOpRow_memoryItems, Store.updateMemories,
          recordForeignMemoryRevision_memoryItems]
        exact .retracted current reassignment hlookup (not_not.mp hscope)
          (Bool.eq_true_of_not_eq_false hnewer)

lemma handlerSpec_upsertUpdate {ctx : ApplyContext} {st : Store} {op : ReplicationOp}
    {memRow : MemoryItem} {reassignment : Option ReassignScopePayload} (payload : MemoryPayload)
    (hmove : ∀ r ∈ reassignment, parseReassignScopePayload op = .ok r)
    (hlookup : st.memoryByImportKey op.entityId = some memRow)
    (hclock : isNewerClock op.clock memRow.clock = true ∨
      sameReassignmentClock op reassignment memRow = true) :
    HandlerSpec ctx st op (applyUpsertUpdate ctx st op payload memRow).1 := by
  refine ⟨?_, ?_, ?_⟩
  · exact (((((ApplyFrame.refl st).recordForeignMemoryRevision _ _).updateMemories _
      _).trans ⟨_, _, _, _, _, _, rfl⟩).populateMemoryRefs _ _ _ _ _).insertReplicationOpRow op
  · exact Store.insertReplicationOpRow_replicationOps_congr st (by simp) op
  · rw [applyUpsertUpdate_memoryItems]
    exact .overwritten memRow payload reassignment hmove hlookup hclock

lemma handlerSpec_upsertInsert {ctx : ApplyContext} {st : Store} {op : ReplicationOp}
    (payload : MemoryPayload) (hlookup : st.memoryByImportKey op.entityId = none) :
    HandlerSpec ctx st op (applyUpsertInsert ctx st op payload).1 := by
  refine ⟨?_, ?_, ?_⟩
  · refine ApplyFrame.insertReplicationOpRow (ApplyFrame.populateMemoryRefs ?_ _ _ _ _ _) op
    have h1 : ApplyFrame st
        (st.insertSession none (replicatedProject payload)).2 :=
      ⟨_, _, _, _, _, _, rfl⟩
    exact (h1.recordForeignMemoryRevision _ _).trans ⟨_, _, _, _, _, _, rfl⟩
  · exact Store.insertReplicationOpRow_replicationOps_congr st (by simp) op
  · rw [applyUpsertInsert_memoryItems]
    exact .inserted payload st.nextSessionId hlookup

lemma handlerSpec_upsert {ctx : ApplyContext} {st st' : Store} {op : ReplicationOp}
    {reassignment : Option ReassignScopePayload} {tally : OpTally}
    (hmove : ∀ r ∈ reassignment, parseReassignScopePayload op = .ok r)
    (h : applyUpsert ctx st op reassignment = .ok (st', tally)) : HandlerSpec ctx st op st' := by
  unfold applyUpsert at h
  cases hlookup : st.memoryByImportKey op.entityId with
  | none =>
    rw [hlookup] at h
    rcases hparse : parseMemoryPayload ctx.runtime op with ⟨payload, errors⟩
    rw [hparse] at h
    cases payload with
    | none =>
      cases h
      exact handlerSpec_recordOnly ctx st op
    | some payload =>
      obtain rfl := congrArg Prod.fst (Except.ok.inj h)
      exact handlerSpec_upsertInsert _ hlookup
  | some memRow =>
    rw [hlookup] at h
    simp only at h
    split_ifs at h with hmismatch hclock
    · cases h
      exact handlerSpec_recordOnly ctx st op
    · rcases hparse : parseMemoryPayload ctx.runtime op with ⟨payload, errors⟩
      rw [hparse] at h
      cases payload with
      | none =>
        cases h
        exact handlerSpec_recordOnly ctx st op
      | some payload =>
        obtain rfl := congrArg Prod.fst (Except.ok.inj h)
        refine handlerSpec_upsertUpdate _ hmove hlookup ?_
        by_cases hnewer : isNewerClock op.clock memRow.clock = true
        · exact Or.inl hnewer
        · exact Or.inr (Bool.eq_true_of_not_eq_false fun hsame =>
            hclock ⟨Bool.eq_false_of_not_eq_true hnewer, hsame⟩)

lemma handlerSpec_delete (ctx : ApplyContext) {st : Store} {op : ReplicationOp}
    (hop : op.opType = .delete) : HandlerSpec ctx st op (applyDelete ctx st op).1 := by
  unfold applyDelete
  cases hlookup : st.memoryByImportKey op.entityId with
  | none => exact handlerSpec_recordOnly ctx st op
  | some existing =>
    simp only
    split_ifs with hnewer
    · exact handlerSpec_recordOnly ctx st op
    · refine ⟨?_, ?_, ?_⟩
      · exact (((ApplyFrame.refl st).recordForeignMemoryRevision _ _).updateMemories _
          _).insertReplicationOpRow op
      · exact Store.insertReplicationOpRow_replicationOps_congr st (by simp) op
      · simp only [Store.insertReplicationOpRow_memoryItems, Store.updateMemories,
          recordForeignMemoryRevision_memoryItems]
        exact .tombstoned existing hop hlookup (Bool.eq_true_of_not_eq_false hnewer)

/-- The body of the savepoint either skips the op or meets the specification. -/
theorem replicationOpBody_spec {ctx : ApplyContext} {localDeviceId : String} {st st' : Store}
    {op : ReplicationOp} {tally : OpTally}
    (h : replicationOpBody ctx localDeviceId st op = .ok (st', tally)) :
    st' = st ∧ skipOwnRetiredOrAppliedOp st op localDeviceId = true ∨ HandlerSpec ctx st op st' := by
  unfold replicationOpBody at h
  split_ifs at h with hskip
  · cases h
    exact Or.inl ⟨rfl, hskip⟩
  · right
    cases hop : op.opType with
    | upsert =>
      rw [hop] at h
      exact handlerSpec_upsert (by simp) h
    | delete =>
      rw [hop] at h
      obtain rfl := congrArg Prod.fst (Except.ok.inj h)
      exact handlerSpec_delete ctx hop
    | accessCleanup =>
      rw [hop] at h
      obtain rfl := congrArg Prod.fst (Except.ok.inj h)
      exact handlerSpec_accessCleanup ctx localDeviceId hop
    | reassignScope =>
      rw [hop] at h
      cases hparse : parseReassignScopePayload op with
      | error message => rw [hparse] at h; cases h
      | ok reassignment =>
        rw [hparse] at h
        cases hside : reassignment.side with
        | old =>
          simp only [hside] at h
          exact handlerSpec_reassignOldSide ctx h
        | new =>
          simp only [hside] at h
          exact handlerSpec_upsert (by simpa using hparse) h
    | other name =>
      rw [hop] at h
      cases h
      exact handlerSpec_recordOnly ctx st op

/-- One op in its savepoint either leaves the store as it is or meets the specification. -/
theorem applyReplicationOp_spec (ctx : ApplyContext) (localDeviceId : String) (st : Store)
    (op : ReplicationOp) :
    (applyReplicationOp ctx localDeviceId st op).1 = st ∨
      HandlerSpec ctx st op (applyReplicationOp ctx localDeviceId st op).1 := by
  unfold applyReplicationOp
  cases ctx.fault st op with
  | some message => exact Or.inl rfl
  | none =>
    simp only
    cases hbody : replicationOpBody ctx localDeviceId st op with
    | error message => exact Or.inl rfl
    | ok result =>
      obtain ⟨st', tally⟩ := result
      rcases replicationOpBody_spec hbody with ⟨h, -⟩ | h
      · exact Or.inl h
      · exact Or.inr h

/-- One op changes `memory_items` in one of the six ways. -/
theorem applyReplicationOp_rowEffect (ctx : ApplyContext) (localDeviceId : String) (st : Store)
    (op : ReplicationOp) :
    RowEffect ctx st op (applyReplicationOp ctx localDeviceId st op).1.memoryItems := by
  rcases applyReplicationOp_spec ctx localDeviceId st op with h | h
  · rw [h]
    exact .unchanged
  · exact h.rows

/-- One op stays in the frame. -/
theorem applyReplicationOp_frame (ctx : ApplyContext) (localDeviceId : String) (st : Store)
    (op : ReplicationOp) : ApplyFrame st (applyReplicationOp ctx localDeviceId st op).1 := by
  rcases applyReplicationOp_spec ctx localDeviceId st op with h | h
  · rw [h]
    exact .refl st
  · exact h.frame

/-- One op adds at most itself to the log. -/
theorem applyReplicationOp_log (ctx : ApplyContext) (localDeviceId : String) (st : Store)
    (op : ReplicationOp) :
    (applyReplicationOp ctx localDeviceId st op).1.replicationOps = st.replicationOps ∨
      (applyReplicationOp ctx localDeviceId st op).1.replicationOps =
        (st.insertReplicationOpRow op).replicationOps := by
  rcases applyReplicationOp_spec ctx localDeviceId st op with h | h
  · exact Or.inl (by rw [h])
  · exact Or.inr h.log

/-! ### Batches -/

lemma rejectUnretiredScopeFailures_store {st st' : Store} {ops : List ReplicationOp}
    {localDeviceId : String} {options : InboundScopeValidationOptions} {result : ApplyResult}
    (h : rejectUnretiredScopeFailures st ops localDeviceId options = some (st', result)) :
    st' = { st with syncScopeRejections := st.syncScopeRejections ++ result.rejections } := by
  simp only [rejectUnretiredScopeFailures, rejectInboundScopeFailures] at h
  split_ifs at h with hempty
  · cases h
  · cases h
    rfl

lemma applyAll_store (ctx : ApplyContext) (localDeviceId : String) (st : Store)
    (ops : List ReplicationOp) :
    (applyAll ctx localDeviceId st ops).1 =
      ops.foldl (fun st op => (applyReplicationOp ctx localDeviceId st op).1) st := by
  unfold applyAll
  generalize emptyApplyResult = result
  induction ops generalizing st result with
  | nil => rfl
  | cons op ops ih =>
    rw [List.foldl_cons, List.foldl_cons]
    exact ih _ _

lemma foldl_applyReplicationOp_frame (ctx : ApplyContext) (localDeviceId : String) (st : Store)
    (ops : List ReplicationOp) :
    ApplyFrame st
      (ops.foldl (fun st op => (applyReplicationOp ctx localDeviceId st op).1) st) := by
  induction ops generalizing st with
  | nil => exact .refl st
  | cons op ops ih => exact (applyReplicationOp_frame ctx localDeviceId st op).trans (ih _)

lemma applyReplicationOps_of_admitted {ctx : ApplyContext} {st : Store} {ops : List ReplicationOp}
    {localDeviceId : String} {validation : Option InboundScopeValidationOptions}
    (h : ∀ op ∈ ops, InboundAdmitted st localDeviceId validation op) :
    applyReplicationOps ctx st ops localDeviceId validation =
      applyAll ctx localDeviceId st ops := by
  have hpass : validation.bind (rejectUnretiredScopeFailures st ops localDeviceId) = none := by
    cases validation with
    | none => rfl
    | some options =>
      have hnil : inboundScopeRejections st (ops.filter fun op => !retirementBlocksMemoryOp st op)
          localDeviceId options = [] :=
        inboundScopeRejections_eq_nil fun op hop => h op (List.mem_of_mem_filter hop)
      rw [Option.bind_some, rejectUnretiredScopeFailures,
        (rejectInboundScopeFailures_eq_none_iff _ _ _ _).mpr hnil]
      rfl
  simp only [applyReplicationOps, hpass]

end Codemem

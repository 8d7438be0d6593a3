import Codemem.Foundation.Trace
import Codemem.Replication.Bootstrap

/-!
# Tombstones and the `active` column

A row with a `deleted_at` is meant to be inactive.  Deletes, the old side of a move, snapshot items
and the update branch of an upsert all write the two columns together.  The insert branch of an
upsert copies `active` and `deleted_at` from the payload as they are, so that a payload with a
tombstone and no `active = 0` leaves a live row with a tombstone.  Calls of `applyReplicationOps`
and `mergeBootstrapSnapshot` that insert no such row keep the two columns consistent.
-/

namespace Codemem

/-- Rows with a `deleted_at` are inactive. -/
def TombstonesInactive (rows : List MemoryItem) : Prop :=
  ∀ row ∈ rows, row.deletedAt.isSome = true → row.active = some 0

/-- The rows that a step wrote are inactive and have a `deleted_at`. -/
def LeavesTombstones (rows rows' : List MemoryItem) : Prop :=
  ∀ row ∈ rows', row ∉ rows → row.active = some 0 ∧ row.deletedAt.isSome = true

/-! ### Ops that insert a row -/

def isUpsertSide (op : ReplicationOp) : Bool :=
  match op.opType with
  | .upsert => true
  | .reassignScope =>
    match parseReassignScopePayload op with
    | .ok reassignment => reassignment.side == .new
    | .error _ => false
  | _ => false

def MemoryPayload.liveTombstone (payload : MemoryPayload) : Bool :=
  payload.deletedAt.isSome && payload.active.getD 1 != 0

/-- The op is applied, finds no row of its key, and its payload has a tombstone without
`active = 0`. -/
def InsertsLiveTombstone (ctx : ApplyContext) (localDeviceId : String) (st : Store)
    (op : ReplicationOp) : Prop :=
  ctx.fault st op = none ∧ skipOwnRetiredOrAppliedOp st op localDeviceId = false ∧
    isUpsertSide op = true ∧ st.memoryByImportKey op.entityId = none ∧
    (parseMemoryPayload ctx.runtime op).1.any MemoryPayload.liveTombstone = true

section Ops

variable {ctx : ApplyContext} {localDeviceId : String} {st : Store} {op : ReplicationOp}

lemma applyReplicationOp_of_isUpsertSide (hfault : ctx.fault st op = none)
    (hskip : skipOwnRetiredOrAppliedOp st op localDeviceId = false)
    (hside : isUpsertSide op = true) (hlookup : st.memoryByImportKey op.entityId = none) :
    (applyReplicationOp ctx localDeviceId st op).1 =
      (parseMemoryPayload ctx.runtime op).1.elim (st.insertReplicationOpRow op) fun payload =>
        (applyUpsertInsert ctx st op (redactMemoryFields ctx.scanner payload)).1 := by
  have hbody : ∃ reassignment, replicationOpBody ctx localDeviceId st op =
      applyUpsert ctx st op reassignment := by
    unfold isUpsertSide at hside
    unfold replicationOpBody
    rw [hskip]
    rcases hop : op.opType with _ | _ | _ | _ | name
    · exact ⟨none, rfl⟩
    · simp [hop] at hside
    · simp [hop] at hside
    · rw [hop] at hside
      rcases hparse : parseReassignScopePayload op with message | reassignment
      · simp [hparse] at hside
      · simp only [hparse, beq_iff_eq] at hside
        refine ⟨some reassignment, ?_⟩
        simp [hside]
    · simp [hop] at hside
  obtain ⟨reassignment, hbody⟩ := hbody
  unfold applyReplicationOp
  rw [hfault, hbody]
  unfold applyUpsert
  rw [hlookup]
  rcases parseMemoryPayload ctx.runtime op with ⟨_ | payload, errors⟩
  · rfl
  · rfl

lemma applyReplicationOp_memoryItems_of_not_isUpsertSide
    (hlookup : st.memoryByImportKey op.entityId = none)
    (h : ctx.fault st op = none → skipOwnRetiredOrAppliedOp st op localDeviceId = false →
      isUpsertSide op = false) :
    (applyReplicationOp ctx localDeviceId st op).1.memoryItems = st.memoryItems := by
  unfold applyReplicationOp
  rcases hfault : ctx.fault st op with _ | message
  · rcases hskip : skipOwnRetiredOrAppliedOp st op localDeviceId
    · have hside := h hfault hskip
      unfold replicationOpBody
      rw [hskip]
      unfold isUpsertSide at hside
      rcases hop : op.opType with _ | _ | _ | _ | name
      · simp [hop] at hside
      · simp [applyDelete, hlookup]
      · unfold applyAccessCleanupOp applyAccessCleanupForLocalDevice
        rcases (parseAccessCleanupPayload op).cleanupScopeId with _ | cleanupScopeId
        · simp
        · simp [hlookup]
      · rw [hop] at hside
        rcases hparse : parseReassignScopePayload op with message | reassignment
        · rfl
        · rcases hnew : reassignment.side
          · simp [applyReassignOldSide, hlookup, hnew]
          · simp [hparse, hnew] at hside
      · simp
    · simp [replicationOpBody, hskip]
  · rfl

lemma RowEffect.tombstonesInactive {rows : List MemoryItem} (h : RowEffect ctx st op rows)
    (hlookup : st.memoryByImportKey op.entityId ≠ none)
    (hst : TombstonesInactive st.memoryItems) : TombstonesInactive rows := by
  have hmap : ∀ (selects : MemoryItem → Bool) (write : MemoryItem → MemoryItem),
      (∀ row, (write row).deletedAt.isSome = true → (write row).active = some 0) →
      TombstonesInactive (st.memoryItems.map fun row => if selects row then write row else row) := by
    intro selects write hwrite row hrow hdeleted
    obtain ⟨before, hbefore, rfl⟩ := List.mem_map.mp hrow
    split_ifs at hdeleted ⊢
    · exact hwrite before hdeleted
    · exact hst before hbefore hdeleted
  rcases h with _ | _ | _ | _ | ⟨memRow, payload⟩ | ⟨_, _, hnone⟩
  · exact hst
  · exact fun row hrow => hst row (List.mem_of_mem_filter hrow)
  · exact hmap _ _ fun _ _ => rfl
  · exact hmap _ _ fun _ _ => rfl
  · refine hmap _ _ fun row hdeleted => ?_
    have hnext : (nextDeletedAt payload memRow).isSome = true := hdeleted
    change some (writtenActive payload memRow) = some 0
    rw [writtenActive, if_pos hnext]
  · exact absurd hnone hlookup

/-- One op keeps tombstones inactive unless it inserts a live one. -/
theorem applyReplicationOp_tombstonesInactive_iff (hst : TombstonesInactive st.memoryItems) :
    TombstonesInactive (applyReplicationOp ctx localDeviceId st op).1.memoryItems ↔
      ¬ InsertsLiveTombstone ctx localDeviceId st op := by
  by_cases hlookup : st.memoryByImportKey op.entityId = none
  · by_cases happlied : ctx.fault st op = none ∧
        skipOwnRetiredOrAppliedOp st op localDeviceId = false ∧ isUpsertSide op = true
    · obtain ⟨hfault, hskip, hside⟩ := happlied
      rw [applyReplicationOp_of_isUpsertSide hfault hskip hside hlookup]
      simp only [InsertsLiveTombstone, hfault, hskip, hside, hlookup, true_and]
      rcases (parseMemoryPayload ctx.runtime op).1 with _ | payload
      · simpa using hst
      · rw [Option.elim_some, applyUpsertInsert_memoryItems, Option.any_some]
        constructor
        · intro hall hlive
          have hlive : payload.deletedAt.isSome = true ∧ payload.active.getD 1 ≠ 0 := by
            simpa [MemoryPayload.liveTombstone] using hlive
          have hrow := hall _ (List.mem_append_right _ (List.mem_singleton_self _)) hlive.1
          exact hlive.2 (Option.some.inj hrow)
        · intro hlive row hrow hdeleted
          rcases List.mem_append.mp hrow with hrow | hrow
          · exact hst row hrow hdeleted
          · obtain rfl := List.mem_singleton.mp hrow
            have hdeleted : payload.deletedAt.isSome = true := hdeleted
            have hactive : payload.active.getD 1 = 0 := by
              simpa [MemoryPayload.liveTombstone, hdeleted] using hlive
            exact congrArg some hactive
    · rw [applyReplicationOp_memoryItems_of_not_isUpsertSide hlookup fun hfault hskip =>
        Bool.eq_false_of_not_eq_true fun hside => happlied ⟨hfault, hskip, hside⟩]
      exact iff_of_true hst fun h => happlied ⟨h.1, h.2.1, h.2.2.1⟩
  · exact iff_of_true
      ((applyReplicationOp_rowEffect ctx localDeviceId st op).tombstonesInactive hlookup hst)
      fun h => hlookup h.2.2.2.1

lemma applyReplicationOp_leavesTombstones (hop : op.opType = .delete) :
    LeavesTombstones st.memoryItems
      (applyReplicationOp ctx localDeviceId st op).1.memoryItems := by
  have hsame : LeavesTombstones st.memoryItems st.memoryItems :=
    fun row hrow hnot => absurd hrow hnot
  unfold applyReplicationOp replicationOpBody
  rcases ctx.fault st op with _ | message
  · dsimp only
    split_ifs with hskip
    · exact hsame
    · rw [hop]
      dsimp only
      unfold applyDelete
      rcases st.memoryByImportKey op.entityId with _ | existing
      · simpa using hsame
      · dsimp only
        split_ifs with hclock
        · simpa using hsame
        · simp only [Store.insertReplicationOpRow_memoryItems, Store.updateMemories,
            recordForeignMemoryRevision_memoryItems]
          intro row hrow hnot
          obtain ⟨before, hbefore, rfl⟩ := List.mem_map.mp hrow
          split_ifs at hnot ⊢ with hid
          · refine ⟨rfl, ?_⟩
            change (before.deletedAt.or (some ctx.now)).isSome = true
            simp
          · exact absurd hbefore hnot
  · exact hsame

end Ops

/-! ### Snapshot items -/

section Items

variable {scanner : SecretScanner} {bootstrapScopeId : Option String} {st : Store}
  {item : SnapshotItem}

lemma mergeItem_memoryItems (scanner : SecretScanner) (bootstrapScopeId : Option String)
    (st : Store) (item : SnapshotItem) :
    (mergeItem scanner bootstrapScopeId st item).memoryItems = st.memoryItems ∨
      ∃ kept payload sessionId id, kept ⊆ st.memoryItems ∧
        (mergeItem scanner bootstrapScopeId st item).memoryItems = kept ++
          [{ snapshotRow scanner item payload bootstrapScopeId sessionId with id := id }] := by
  unfold mergeItem
  rcases parseSnapshotPayload item with _ | payload
  · exact Or.inl rfl
  · dsimp only
    split_ifs
    · exact Or.inl rfl
    · right
      unfold insertSnapshotItem
      generalize hst1 : (st.deleteMemories fun row =>
        (existingSnapshotRows st bootstrapScopeId item.entityId).any fun r => r.id == row.id) = st1
      have hkept : st1.memoryItems ⊆ st.memoryItems := by
        rw [← hst1]
        exact fun row hrow => List.mem_of_mem_filter hrow
      have hsession : (ensureSessionForBootstrap st1 (snapshotProject payload)).2.memoryItems =
          st1.memoryItems := by
        unfold ensureSessionForBootstrap
        dsimp only
        split
        · rfl
        · rfl
      generalize ensureSessionForBootstrap st1 (snapshotProject payload) = session at hsession
      refine ⟨_, payload, session.1, session.2.nextMemoryId, hkept, ?_⟩
      rw [recordForeignMemoryRevision_memoryItems, ← hsession]
      rfl

lemma mergeItem_tombstonesInactive (hst : TombstonesInactive st.memoryItems) :
    TombstonesInactive (mergeItem scanner bootstrapScopeId st item).memoryItems := by
  rcases mergeItem_memoryItems scanner bootstrapScopeId st item with h | ⟨kept, payload, sessionId,
    id, hkept, h⟩
  · rw [h]
    exact hst
  · rw [h]
    intro row hrow hdeleted
    rcases List.mem_append.mp hrow with hrow | hrow
    · exact hst row (hkept hrow) hdeleted
    · obtain rfl := List.mem_singleton.mp hrow
      simp only [snapshotRow] at hdeleted ⊢
      split_ifs at hdeleted ⊢ with hop
      · rfl
      · simp at hdeleted

lemma mergeItem_leavesTombstones (hop : item.opType = .delete) :
    LeavesTombstones st.memoryItems (mergeItem scanner bootstrapScopeId st item).memoryItems := by
  rcases mergeItem_memoryItems scanner bootstrapScopeId st item with h | ⟨kept, payload, sessionId,
    id, hkept, h⟩
  · rw [h]
    exact fun row hrow hnot => absurd hrow hnot
  · rw [h]
    intro row hrow hnot
    rcases List.mem_append.mp hrow with hrow | hrow
    · exact absurd (hkept hrow) hnot
    · obtain rfl := List.mem_singleton.mp hrow
      simp [snapshotRow, hop]

end Items

/-! ### Runs of calls -/

/-- A call of one of the two functions. -/
inductive InboundCall where
  | applyOps (ctx : ApplyContext) (ops : List ReplicationOp) (localDeviceId : String)
      (validation : Option InboundScopeValidationOptions)
  | mergeSnapshot (ctx : SnapshotContext) (peerDeviceId : String) (items : List SnapshotItem)
      (resetInfo : ResetInfo) (preserveCursor : Bool)

namespace InboundCall

/-- The store after a call; a merge that throws is rolled back. -/
def run (st : Store) : InboundCall → Store
  | .applyOps ctx ops localDeviceId validation =>
    (applyReplicationOps ctx st ops localDeviceId validation).1
  | .mergeSnapshot ctx peerDeviceId items resetInfo preserveCursor =>
    match mergeBootstrapSnapshot ctx st peerDeviceId items resetInfo preserveCursor with
    | .ok st' => st'
    | .error _ => st

/-- One op after the other, as the transaction of a batch applies them. -/
def opStep (ctx : ApplyContext) (localDeviceId : String) (st : Store) (op : ReplicationOp) :
    Store :=
  (applyReplicationOp ctx localDeviceId st op).1

/-- The batch passes the scope validation. -/
def Admits (st : Store) (ops : List ReplicationOp) (localDeviceId : String)
    (validation : Option InboundScopeValidationOptions) : Prop :=
  validation.bind (rejectUnretiredScopeFailures st ops localDeviceId) = none

def InsertsNoLiveTombstone (st : Store) : InboundCall → Prop
  | .applyOps ctx ops localDeviceId validation => Admits st ops localDeviceId validation →
      StepsMeet (opStep ctx localDeviceId)
        (fun st op => ¬ InsertsLiveTombstone ctx localDeviceId st op) st ops
  | .mergeSnapshot .. => True

/-- What each delete of the call writes is inactive and has a `deleted_at`. -/
def DeletesLeaveTombstones (st : Store) : InboundCall → Prop
  | .applyOps ctx ops localDeviceId validation => Admits st ops localDeviceId validation →
      StepsMeet (opStep ctx localDeviceId) (fun st op => op.opType = .delete →
        LeavesTombstones st.memoryItems (opStep ctx localDeviceId st op).memoryItems) st ops
  | .mergeSnapshot ctx _ items resetInfo _ =>
      StepsMeet (mergeItem ctx.scanner (cleanText resetInfo.scopeId))
        (fun st item => item.opType = .delete → LeavesTombstones st.memoryItems
          (mergeItem ctx.scanner (cleanText resetInfo.scopeId) st item).memoryItems)
        st (retirementSnapshotItems st items (cleanText resetInfo.scopeId))

lemma run_tombstonesInactive {st : Store} {call : InboundCall}
    (h : call.InsertsNoLiveTombstone st) (hst : TombstonesInactive st.memoryItems) :
    TombstonesInactive (call.run st).memoryItems := by
  rcases call with ⟨ctx, ops, localDeviceId, validation⟩ | ⟨ctx, peerDeviceId, items, resetInfo,
    preserveCursor⟩
  · change TombstonesInactive (applyReplicationOps ctx st ops localDeviceId validation).1.memoryItems
    unfold applyReplicationOps
    rcases hadmits : validation.bind (rejectUnretiredScopeFailures st ops localDeviceId) with
      _ | ⟨st', result⟩
    · change TombstonesInactive (applyAll ctx localDeviceId st ops).1.memoryItems
      rw [applyAll_store]
      exact (h hadmits).foldl (P := fun st => TombstonesInactive st.memoryItems) hst
        fun st op hop hst => (applyReplicationOp_tombstonesInactive_iff hst).mpr hop
    · obtain ⟨options, -, hrejected⟩ := Option.bind_eq_some_iff.mp hadmits
      obtain rfl := rejectUnretiredScopeFailures_store hrejected
      exact hst
  · have hitems : TombstonesInactive ((retirementSnapshotItems st items
        (cleanText resetInfo.scopeId)).foldl
          (mergeItem ctx.scanner (cleanText resetInfo.scopeId)) st).memoryItems := by
      clear h
      generalize retirementSnapshotItems st items (cleanText resetInfo.scopeId) = accepted
      induction accepted generalizing st with
      | nil => exact hst
      | cons item accepted ih => exact ih (mergeItem_tombstonesInactive hst)
    unfold run mergeBootstrapSnapshot
    dsimp only
    split_ifs
    · exact hst
    · exact hitems
    · dsimp only
      rw [(advanceSnapshotBoundary_frame ctx _ peerDeviceId resetInfo).memoryItems]
      exact hitems

lemma deletesLeaveTombstones (st : Store) (call : InboundCall) :
    call.DeletesLeaveTombstones st := by
  rcases call with ⟨ctx, ops, localDeviceId, validation⟩ | ⟨ctx, peerDeviceId, items, resetInfo,
    preserveCursor⟩
  · exact fun _ => stepsMeet_of_forall fun op _ st hop => applyReplicationOp_leavesTombstones hop
  · exact stepsMeet_of_forall fun item _ st hop => mergeItem_leavesTombstones hop

end InboundCall

/-- In every run of calls that insert no live row with a tombstone, rows with a tombstone are
inactive after every call, and each delete leaves its rows inactive and with a tombstone. -/
theorem tombstones_inactive_of_run (st : Store) (calls : List InboundCall)
    (hst : TombstonesInactive st.memoryItems)
    (hcalls : StepsMeet InboundCall.run (fun st call => call.InsertsNoLiveTombstone st) st calls) :
    (∀ st' ∈ visited InboundCall.run st calls, TombstonesInactive st'.memoryItems) ∧
      StepsMeet InboundCall.run (fun st call => call.DeletesLeaveTombstones st) st calls :=
  ⟨hcalls.always hst fun _ _ h hst => InboundCall.run_tombstonesInactive h hst,
    stepsMeet_of_forall fun call _ st => call.deletesLeaveTombstones st⟩

/-! ### The insert branch -/

/-- An upsert of an unknown memory with a tombstone and the given `active`. -/
def sampleTombstoneUpsert (active : ℚ) : ReplicationOp where
  opId := "op-1"
  entityType := .memoryItem
  entityId := "m1"
  opType := .upsert
  payloadJson := some (toJson [("title", .str "title"), ("active", .num active),
    ("deleted_at", .str "2026-01-01")])
  clockRev := 1
  clockUpdatedAt := "2026-01-01"
  clockDeviceId := "remote"
  deviceId := "remote"
  createdAt := "2026-01-01"
  scopeId := some "team"

/-- The call that receives it. -/
def sampleTombstoneCall (active : ℚ) : InboundCall :=
  .applyOps (plainContext "2026-01-02") [sampleTombstoneUpsert active] "local" none

/-- The run keeps the columns consistent when the payload says that the memory is inactive. -/
theorem tombstones_inactive_of_run_sample :
    (∀ st' ∈ visited InboundCall.run Store.empty [sampleTombstoneCall 0],
      TombstonesInactive st'.memoryItems) ∧
      StepsMeet InboundCall.run (fun st call => call.DeletesLeaveTombstones st) Store.empty
        [sampleTombstoneCall 0] := by
  refine tombstones_inactive_of_run Store.empty [sampleTombstoneCall 0] (fun _ h => ?_)
    ⟨fun _ => ⟨fun h => ?_, trivial⟩, trivial⟩
  · exact absurd h (by simp [Store.empty])
  · exact absurd h.2.2.2.2 (by decide)

/-- An upsert of an unknown memory with a tombstone and `active = 1` leaves an active row with a
`deleted_at`. -/
theorem insert_keeps_live_tombstone :
    TombstonesInactive Store.empty.memoryItems ∧
      ¬ ∀ st' ∈ visited InboundCall.run Store.empty [sampleTombstoneCall 1],
        TombstonesInactive st'.memoryItems := by
  refine ⟨fun _ h => absurd h (by simp [Store.empty]), fun hall => ?_⟩
  have hlive : ((InboundCall.run Store.empty (sampleTombstoneCall 1)).memoryItems.map fun row =>
      (row.deletedAt, row.active)) = [(some "2026-01-01", some 1)] := by decide
  have hrows : ∀ pair ∈ (InboundCall.run Store.empty (sampleTombstoneCall 1)).memoryItems.map
      (fun row => (row.deletedAt, row.active)), pair.1.isSome = true → pair.2 = some 0 := by
    intro pair hpair
    obtain ⟨row, hrow, rfl⟩ := List.mem_map.mp hpair
    exact hall _ (by simp) row hrow
  rw [hlive] at hrows
  exact absurd (hrows _ List.mem_cons_self rfl) (by decide)

end Codemem

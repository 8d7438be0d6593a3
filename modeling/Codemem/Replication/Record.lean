import Codemem.Foundation.Fallible
import Codemem.Replication.Retirement

/-!
# Recording local ops

`recordReplicationOp` logs one upsert or delete of a stored memory, `recordScopeReassignment` moves
a memory to another scope and logs the two sides of the move.  Both read the row, and the first
also stamps a row that has no scope yet.
-/

namespace Codemem

/-- What a local write takes from its surroundings. -/
structure LocalContext where
  /-- The device that writes. -/
  deviceId : String
  /-- The wall clock. -/
  now : String
  /-- The random id drawn for the call. -/
  randomUUID : String
  /-- `resolveProjectScope` for a row without a scope of its own. -/
  resolveProjectScope : Store → MemoryItem → String
  /-- The hash of `deterministicReassignOpId`: operation, memory, old scope, new scope, side. -/
  reassignOpId : String → String → String → String → ReassignSide → String

/-! ### Stamping a row with its scope -/

/-- `scope_id IS NULL OR TRIM(scope_id) = ''`, where SQL trims blanks only. -/
def sqlBlankScope (scopeId : Option String) : Bool :=
  scopeId.all fun s => s.toList.all (· == ' ')

/-- `ensureMemoryScopeId`: the scope of a row, written back where the row has none. -/
def ensureMemoryScopeId (ctx : LocalContext) (st : Store) (memoryId : ℕ) :
    Option String × Store :=
  match st.memoryById memoryId with
  | none => (none, st)
  | some row =>
    match cleanText row.scopeId with
    | some scopeId => (some scopeId, st)
    | none =>
      let scopeId := ctx.resolveProjectScope st row
      if scopeId.toList.isEmpty then (none, st)
      else
        (some scopeId, st.updateMemories
          (fun r => r.id == memoryId && sqlBlankScope r.scopeId)
          (fun r => { r with scopeId := some scopeId }))

/-! ### Upserts and deletes -/

/-- The options of `recordReplicationOp`; an inner `none` of `scopeId` is an explicit `null`. -/
structure RecordOptions where
  memoryId : ℕ
  opType : OpType
  deviceId : String
  payload : Option JsonObject
  scopeId : Option (Option String)
  clockRev : Option ℤ
  clockUpdatedAt : Option String
  clockDeviceId : Option String
  createdAt : Option String
  opId : Option String

/-- The options with nothing but the memory, the kind of op and the device. -/
def RecordOptions.plain (memoryId : ℕ) (opType : OpType) (deviceId : String) : RecordOptions :=
  ⟨memoryId, opType, deviceId, none, none, none, none, none, none, none⟩

/-- `SELECT project FROM sessions WHERE id = ?`, for a row with a session. -/
def sessionProject (st : Store) (sessionId : ℕ) : Option String :=
  if sessionId = 0 then none
  else (st.sessions.find? fun s => s.id == sessionId).bind Session.project

/-- The payload `recordReplicationOp` builds from a row. -/
def recordedPayload (row : MemoryItem) (project scopeId : Option String) : JsonObject :=
  [("project", jsonText project), ("session_id", .num row.sessionId), ("kind", .str row.kind),
   ("title", .str row.title), ("subtitle", jsonText row.content.subtitle),
   ("body_text", .str row.bodyText), ("confidence", jsonNum row.content.confidence),
   ("active", jsonNum row.active), ("created_at", .str row.createdAt),
   ("updated_at", .str row.updatedAt), ("metadata_json", parseSqliteJson row.metadataJson),
   ("actor_id", jsonText row.actorId),
   ("actor_display_name", jsonText row.content.actorDisplayName),
   ("visibility", jsonText row.visibility), ("workspace_id", jsonText row.workspaceId),
   ("workspace_kind", jsonText row.workspaceKind),
   ("origin_device_id", jsonText row.originDeviceId),
   ("origin_source", jsonText row.content.originSource),
   ("trust_state", jsonText row.content.trustState),
   ("facts", parseSqliteJson row.content.facts), ("narrative", jsonText row.content.narrative),
   ("concepts", parseSqliteJson row.content.concepts),
   ("files_read", parseSqliteJson row.content.filesRead),
   ("files_modified", parseSqliteJson row.content.filesModified),
   ("user_prompt_id", jsonNum row.content.userPromptId),
   ("prompt_number", jsonNum row.content.promptNumber),
   ("deleted_at", jsonText row.deletedAt), ("scope_id", jsonText scopeId)]

/-- The payload text of an op: an explicit payload wins except for the scope of an upsert. -/
def recordedPayloadJson (st : Store) (opts : RecordOptions) (row : Option MemoryItem)
    (scopeId : Option String) : Option JsonText :=
  match opts.payload, row with
  | some payload, some _ =>
    some (toJson (if opts.opType = .upsert then payload.set "scope_id" (jsonText scopeId)
      else payload))
  | some payload, none => some (toJson payload)
  | none, some row =>
    if opts.opType = .upsert then
      some (toJson (recordedPayload row (sessionProject st row.sessionId) scopeId))
    else none
  | none, none => none

def recordedClockDevice (opts : RecordOptions) (row : Option MemoryItem) : String :=
  match cleanText opts.clockDeviceId with
  | some device => device
  | none =>
    match (((fromJson (row.bind MemoryItem.metadataJson)).get "clock_device_id").bind
        Json.asText) with
    | some device => if (cleanText (some device)).isSome then device else opts.deviceId
    | none => opts.deviceId

/-- The op `recordReplicationOp` logs, given the row and its scope. -/
def recordedOp (ctx : LocalContext) (st : Store) (opts : RecordOptions) (row : Option MemoryItem)
    (scopeId : Option String) : ReplicationOp where
  opId := opts.opId.getD ctx.randomUUID
  entityType := .memoryItem
  entityId := (row.bind MemoryItem.importKey).getD (toString opts.memoryId)
  opType := opts.opType
  payloadJson := recordedPayloadJson st opts row scopeId
  clockRev := opts.clockRev.getD ((row.bind MemoryItem.rev).getD 0)
  clockUpdatedAt := opts.clockUpdatedAt.getD
    ((row.map MemoryItem.updatedAt).getD (opts.createdAt.getD ctx.now))
  clockDeviceId := recordedClockDevice opts row
  deviceId := opts.deviceId
  createdAt := opts.createdAt.getD ctx.now
  scopeId := scopeId

/-- `INSERT INTO replication_ops`: an op id already present raises an error. -/
def insertNewOp (st : Store) (op : ReplicationOp) : Except String Store :=
  if st.hasOp op.opId then .error "UNIQUE constraint failed: replication_ops.op_id"
  else .ok { st with replicationOps := st.replicationOps ++ [op] }

lemma insertNewOp_eq_ok {st st' : Store} {op : ReplicationOp} (h : insertNewOp st op = .ok st') :
    st.hasOp op.opId = false ∧ st' = { st with replicationOps := st.replicationOps ++ [op] } := by
  unfold insertNewOp at h
  split_ifs at h with hhas
  cases h
  exact ⟨Bool.eq_false_of_not_eq_true hhas, rfl⟩

/-- The scope of a recorded op, and the store with the row stamped. -/
def recordedScope (ctx : LocalContext) (st : Store) (opts : RecordOptions) :
    Option String × Store :=
  match opts.scopeId with
  | some scopeId => (scopeId, st)
  | none => ensureMemoryScopeId ctx st opts.memoryId

/-- `recordReplicationOp`.  A failed insertion leaves a scope stamped on the row behind, so the
store is returned beside the outcome. -/
def recordReplicationOp (ctx : LocalContext) (st : Store) (opts : RecordOptions) :
    Store × Except String String :=
  let row := st.memoryById opts.memoryId
  let (scopeId, st1) := recordedScope ctx st opts
  let op := recordedOp ctx st1 opts row scopeId
  match insertNewOp st1 op with
  | .error message => (st1, .error message)
  | .ok st2 => (st2, .ok op.opId)

/-- A write that sets no column but the scope. -/
def StampsScope (write : MemoryItem → MemoryItem) : Prop :=
  ∀ row, ∃ scopeId, write row = { row with scopeId := scopeId }

lemma ensureMemoryScopeId_store (ctx : LocalContext) (st : Store) (memoryId : ℕ) :
    ∃ write, StampsScope write ∧ (∀ row, row.id ≠ memoryId → write row = row) ∧
      (ensureMemoryScopeId ctx st memoryId).2 =
        { st with memoryItems := st.memoryItems.map write } := by
  have hkeep : ∃ write, StampsScope write ∧ (∀ row, row.id ≠ memoryId → write row = row) ∧ st =
      { st with memoryItems := st.memoryItems.map write } :=
    ⟨id, fun row => ⟨row.scopeId, rfl⟩, fun _ _ => rfl, by simp⟩
  unfold ensureMemoryScopeId
  cases st.memoryById memoryId with
  | none => exact hkeep
  | some row =>
    cases hscope : cleanText row.scopeId with
    | some scopeId => simpa [hscope] using hkeep
    | none =>
      simp only [hscope]
      split_ifs with hempty
      · exact hkeep
      · refine ⟨fun r => if r.id == memoryId && sqlBlankScope r.scopeId then
          { r with scopeId := some (ctx.resolveProjectScope st row) } else r, fun r => ?_,
          fun r hne => ?_, rfl⟩
        · dsimp only
          split_ifs
          · exact ⟨_, rfl⟩
          · exact ⟨r.scopeId, rfl⟩
        · simp [hne]

lemma recordedScope_store (ctx : LocalContext) (st : Store) (opts : RecordOptions) :
    ∃ write, StampsScope write ∧ (recordedScope ctx st opts).2 =
      { st with memoryItems := st.memoryItems.map write } := by
  unfold recordedScope
  cases opts.scopeId with
  | some scopeId => exact ⟨id, fun row => ⟨row.scopeId, rfl⟩, by simp⟩
  | none =>
    obtain ⟨write, hwrite, -, hstore⟩ := ensureMemoryScopeId_store ctx st opts.memoryId
    exact ⟨write, hwrite, hstore⟩

/-- The op that `recordReplicationOp` logs. -/
def loggedOp (ctx : LocalContext) (st : Store) (opts : RecordOptions) : ReplicationOp :=
  recordedOp ctx st opts (st.memoryById opts.memoryId) (recordedScope ctx st opts).1

/-- Recording an op stamps rows, and logs the op unless its id is taken. -/
theorem recordReplicationOp_store (ctx : LocalContext) (st : Store) (opts : RecordOptions) :
    ∃ write, StampsScope write ∧ (recordReplicationOp ctx st opts).1 =
      { st with
        memoryItems := st.memoryItems.map write
        replicationOps := if st.hasOp (loggedOp ctx st opts).opId then st.replicationOps
          else st.replicationOps ++ [loggedOp ctx st opts] } := by
  obtain ⟨write, hwrite, hstore⟩ := recordedScope_store ctx st opts
  refine ⟨write, hwrite, ?_⟩
  unfold recordReplicationOp loggedOp
  generalize recordedScope ctx st opts = stamped at hstore ⊢
  obtain ⟨scopeId, st1⟩ := stamped
  obtain rfl : st1 = _ := hstore
  simp only [insertNewOp]
  split_ifs with hhas hhas' hhas'
  · rfl
  · exact absurd hhas hhas'
  · exact absurd hhas' hhas
  · rfl

lemma recordReplicationOp_of_scope {ctx : LocalContext} {st st' : Store} {opts : RecordOptions}
    {scopeId : Option String} {opId : String} (hscope : opts.scopeId = some scopeId)
    (h : recordReplicationOp ctx st opts = (st', .ok opId)) :
    st' = { st with replicationOps := st.replicationOps ++
      [recordedOp ctx st opts (st.memoryById opts.memoryId) scopeId] } := by
  simp only [recordReplicationOp, recordedScope, hscope] at h
  cases hinsert : insertNewOp st (recordedOp ctx st opts (st.memoryById opts.memoryId) scopeId) with
  | error message => simp [hinsert] at h
  | ok st2 =>
    rw [hinsert] at h
    exact (Prod.mk.inj h).1.symm.trans (insertNewOp_eq_ok hinsert).2

/-! ### Scope reassignment -/

/-- The options of `recordScopeReassignment`. -/
structure ReassignmentOptions where
  operationId : String
  memoryId : ℕ
  oldScopeId : String
  newScopeId : String
  deviceId : String
  createdAt : Option String

/-- What `recordScopeReassignment` returns. -/
structure ReassignmentResult where
  revision : ℤ
  oldOpId : String
  newOpId : String
  deriving DecidableEq, Repr

def reassignmentEntityId (existing : MemoryItem) : String :=
  existing.importKey.getD (toString existing.id)

def reassignRow (existing : MemoryItem) (operationId oldScopeId newScopeId deviceId : String)
    (revision : ℤ) (createdAt : String) (row : MemoryItem) : MemoryItem :=
  { row with
    scopeId := some newScopeId
    rev := some revision
    updatedAt := createdAt
    metadataJson := some (toJson ((((fromJson existing.metadataJson).set "clock_device_id"
      (.str deviceId)).set "scope_id" (.str newScopeId)).set "last_scope_reassignment"
      (.obj [("operation_id", .str operationId), ("old_scope_id", .str oldScopeId),
        ("new_scope_id", .str newScopeId), ("revision", .num revision)]))) }

/-- The fields both sides of a move carry. -/
def reassignCommon (operationId memoryId oldScopeId newScopeId : String) (revision : ℤ) :
    JsonObject :=
  [("operation_id", .str operationId), ("memory_id", .str memoryId),
   ("old_scope_id", .str oldScopeId), ("new_scope_id", .str newScopeId),
   ("revision", .num revision)]

/-- One side of a move, as an op. -/
def reassignOp (opId memoryId deviceId createdAt scopeId : String) (revision : ℤ)
    (payload : JsonObject) : ReplicationOp where
  opId := opId
  entityType := .memoryItem
  entityId := memoryId
  opType := .reassignScope
  payloadJson := some (toJson payload)
  clockRev := revision
  clockUpdatedAt := createdAt
  clockDeviceId := deviceId
  deviceId := deviceId
  createdAt := createdAt
  scopeId := some scopeId

/-- The transaction of a move that was not recorded before. -/
def writeScopeReassignment (ctx : LocalContext) (st : Store) (existing : MemoryItem)
    (operationId oldScopeId newScopeId deviceId createdAt : String) :
    Except String (Store × ReassignmentResult) :=
  let memoryId := reassignmentEntityId existing
  let oldOpId := ctx.reassignOpId operationId memoryId oldScopeId newScopeId .old
  let newOpId := ctx.reassignOpId operationId memoryId oldScopeId newScopeId .new
  let revision := existing.rev.getD 0 + 1
  let write := reassignRow existing operationId oldScopeId newScopeId deviceId revision createdAt
  let updated := write existing
  let st1 := st.updateMemories (fun row => row.id == existing.id) write
  let common := reassignCommon operationId memoryId oldScopeId newScopeId revision
  let project := (cleanText updated.project).or
    (cleanText (sessionProject st1 updated.sessionId))
  let newPayload := (common ++ [("side", .str "new"), ("scope_id", .str newScopeId),
    ("project", jsonText project)]).foldr (fun e o => JsonObject.set o e.1 e.2)
    (buildPayloadFromMemoryRow updated)
  if isMemoryScopeRetired st memoryId (some newScopeId) then .error "memory_scope_retired"
  else do
    let st2 ← insertNewOp st1 (reassignOp oldOpId memoryId deviceId createdAt oldScopeId revision
      (common ++ [("side", .str "old")]))
    let st3 ← insertNewOp st2 (reassignOp newOpId memoryId deviceId createdAt newScopeId revision
      newPayload)
    pure (st3, ⟨revision, oldOpId, newOpId⟩)

def recordScopeReassignment (ctx : LocalContext) (st : Store) (opts : ReassignmentOptions) :
    Except String (Store × ReassignmentResult) :=
  match cleanText (some opts.operationId), cleanText (some opts.oldScopeId),
      cleanText (some opts.newScopeId), cleanText (some opts.deviceId) with
  | some operationId, some oldScopeId, some newScopeId, some deviceId =>
    if oldScopeId = newScopeId ∨ opts.memoryId = 0 then .error "reassign_input_invalid"
    else match st.memoryById opts.memoryId with
      | none => .error "reassign_memory_not_found"
      | some existing =>
        let memoryId := reassignmentEntityId existing
        let oldOpId := ctx.reassignOpId operationId memoryId oldScopeId newScopeId .old
        let newOpId := ctx.reassignOpId operationId memoryId oldScopeId newScopeId .new
        match st.replicationOps.filter fun op => op.opId == oldOpId || op.opId == newOpId with
        | [] =>
          if existing.effectiveScope ≠ oldScopeId then .error "reassign_old_scope_mismatch"
          else writeScopeReassignment ctx st existing operationId oldScopeId newScopeId deviceId
            (opts.createdAt.getD ctx.now)
        | [first, second] =>
          -- the move was recorded before: report it again
          if first.clockRev ≠ second.clockRev then .error "reassign_replay_conflict"
          else .ok (st, ⟨first.clockRev, oldOpId, newOpId⟩)
        | _ => .error "reassign_replay_conflict"
  | _, _, _, _ => .error "reassign_input_invalid"

end Codemem

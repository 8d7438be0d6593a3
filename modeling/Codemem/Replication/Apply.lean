import Codemem.Replication.InboundScope

/-!
# Applying inbound replication ops

`applyReplicationOps` runs all ops of a batch in one transaction and each op in a savepoint of its
own.  The handlers follow the branches of the source: own, retired and already recorded ops are
skipped; a reassignment has an old and a new side; an upsert inserts or updates the row of
its import key; a delete leaves a tombstone on an existing row.
-/

namespace Codemem

/-- What `applyReplicationOps` takes from its surroundings: the runtime, the scanner, the wall
clock, and the error a database statement raises while an op is processed, if one does. -/
structure ApplyContext where
  runtime : Runtime
  scanner : SecretScanner
  now : String
  fault : Store → ReplicationOp → Option String

/-- A context for inputs that need no coercion and hold no secret: a runtime without numerals, a
scanner that finds nothing, and a database that raises no error. -/
def plainContext (now : String) : ApplyContext where
  runtime := ⟨fun _ => none, fun _ => "", fun _ => "", toLowerCase⟩
  scanner := ⟨id, id⟩
  now := now
  fault := fun _ _ => none

/-- The counters and the vector work of one op. -/
structure OpTally where
  applied : ℕ
  skipped : ℕ
  conflicts : ℕ
  errors : List String
  vectorWork : List (ℕ × VectorOperation)
  deriving DecidableEq, Repr

def tallyApplied (vectorWork : List (ℕ × VectorOperation)) : OpTally := ⟨1, 0, 0, [], vectorWork⟩

def tallySkipped (errors : List String) : OpTally := ⟨0, 1, 0, errors, []⟩

/-- The tally of an op that lost against the stored clock. -/
def tallyConflict : OpTally := ⟨0, 0, 1, [], []⟩

/-! ### Helpers of the handlers -/

def skipOwnOrRetiredMemoryOp (st : Store) (op : ReplicationOp) (localDeviceId : String) : Bool :=
  op.deviceId == localDeviceId || retirementBlocksMemoryOp st op

def skipOwnRetiredOrAppliedOp (st : Store) (op : ReplicationOp) (localDeviceId : String) : Bool :=
  skipOwnOrRetiredMemoryOp st op localDeviceId || st.hasOp op.opId

/-- The metadata part of `foreignRevisionMetadata`: the op's device becomes the clock device. -/
def foreignRevisionMetadata (op : ReplicationOp) (metadata : JsonObject) : JsonObject :=
  metadata.set "clock_device_id" (.str op.clockDeviceId)

def clearMemoryRefs (st : Store) (memoryId : ℕ) : Store :=
  { st with
    memoryFileRefs := st.memoryFileRefs.filter fun r => r.memoryId != memoryId
    memoryConceptRefs := st.memoryConceptRefs.filter fun r => r.memoryId != memoryId }

/-- `INSERT OR IGNORE` of the file references of one relation. -/
def insertFileRefs (memoryId : ℕ) (relation : String) (paths : Option (List String))
    (refs : List MemoryFileRef) : List MemoryFileRef :=
  (paths.getD []).foldl (fun acc path =>
    let ref : MemoryFileRef := ⟨memoryId, path, relation⟩
    if path.toList.isEmpty ∨ ref ∈ acc then acc else acc ++ [ref]) refs

/-- `INSERT OR IGNORE` of the concept references. -/
def insertConceptRefs (rt : Runtime) (memoryId : ℕ) (concepts : Option (List String))
    (refs : List MemoryConceptRef) : List MemoryConceptRef :=
  (concepts.getD []).foldl (fun acc concept =>
    let ref : MemoryConceptRef := ⟨memoryId, rt.lowerCase (trim concept)⟩
    if ref.concept.toList.isEmpty ∨ ref ∈ acc then acc else acc ++ [ref]) refs

def populateMemoryRefs (rt : Runtime) (st : Store) (memoryId : ℕ)
    (filesRead filesModified concepts : Option (List String)) : Store :=
  { st with
    memoryFileRefs := insertFileRefs memoryId "modified" filesModified
      (insertFileRefs memoryId "read" filesRead st.memoryFileRefs)
    memoryConceptRefs := insertConceptRefs rt memoryId concepts st.memoryConceptRefs }

/-- The scope an op writes: its own trimmed scope, if it has one. -/
def opScopeId (op : ReplicationOp) : Option String := cleanText op.scopeId

def replicatedProject (payload : MemoryPayload) : Option String := cleanText payload.project

def resolveReplicatedTextUpdate (nextValue : Option String) (currentValue : String) : String :=
  nextValue.getD currentValue

/-! ### Access cleanup -/

/-- `applyAccessCleanupForLocalDevice`: whether the op is settled, and its vector work. -/
def applyAccessCleanupForLocalDevice (st : Store) (op : ReplicationOp) (localDeviceId : String) :
    Bool × Store × List (ℕ × VectorOperation) :=
  match (parseAccessCleanupPayload op).cleanupScopeId with
  | none => (false, st, [])
  | some cleanupScopeId =>
    match st.memoryByImportKey op.entityId with
    | none => (true, st, [])
    | some existing =>
      let sourceDeviceId := (cleanText (some op.clockDeviceId)).or (cleanText (some op.deviceId))
      let originDeviceId := cleanText existing.originDeviceId
      if hasRecordedLocalCreation st op.entityId = true ∨ sourceDeviceId = none ∨
          originDeviceId ≠ sourceDeviceId ∨ originDeviceId = some localDeviceId ∨
          originDeviceId = some "local" ∨ cleanText existing.scopeId ≠ some cleanupScopeId then
        (false, st, [])
      else
        (true, (clearMemoryRefs st existing.id).deleteMemories fun row => row.id == existing.id,
          [(existing.id, .delete)])

def applyAccessCleanupOp (st : Store) (op : ReplicationOp) (localDeviceId : String) :
    Store × OpTally :=
  let (cleaned, st', work) := applyAccessCleanupForLocalDevice st op localDeviceId
  (st'.insertReplicationOpRow op, if cleaned then tallyApplied work else tallySkipped [])

/-! ### The old side of a reassignment -/

/-- The origin check of a move out of the default scope. -/
def reassignOriginMatches (op : ReplicationOp) (current : MemoryItem) (localDeviceId : String) :
    Bool :=
  let senderDeviceId := cleanText (some op.clockDeviceId)
  let originDeviceId := cleanText current.originDeviceId
  senderDeviceId.isSome && cleanText (some op.deviceId) == senderDeviceId &&
    originDeviceId == senderDeviceId && originDeviceId != some localDeviceId

/-- The tombstone the old side of a move leaves on a row. -/
def retractRow (op : ReplicationOp) (reassignment : ReassignScopePayload) (row : MemoryItem) :
    MemoryItem :=
  { row with
    active := some 0
    deletedAt := some op.clockUpdatedAt
    rev := some op.clockRev
    updatedAt := op.clockUpdatedAt
    metadataJson := some (toJson ((foreignRevisionMetadata op (fromJson row.metadataJson)).set
      "last_scope_reassignment" (.obj reassignment.toRecord))) }

def applyReassignOldSide (st : Store) (op : ReplicationOp) (localDeviceId : String)
    (reassignment : ReassignScopePayload) : Except String (Store × OpTally) :=
  match st.memoryByImportKey op.entityId with
  | none => .ok (st.insertReplicationOpRow op, tallySkipped [])
  | some current =>
    if current.effectiveScope ≠ reassignment.oldScopeId then
      .ok (st.insertReplicationOpRow op, tallySkipped [])
    else if reassignment.oldScopeId = defaultSyncScopeId ∧
        reassignOriginMatches op current localDeviceId = false then
      .error "reassign_origin_mismatch"
    else if isNewerClock op.clock current.clock = false then
      .ok (st.insertReplicationOpRow op, tallyConflict)
    else
      let st' := (recordForeignMemoryRevision st op.entityId .replication).updateMemories
        (fun row => row.id == current.id) (retractRow op reassignment)
      .ok (st'.insertReplicationOpRow op, tallyApplied [(current.id, .delete)])

/-! ### Upserts and the new side of a reassignment -/

/-- The content columns an upsert writes over a row. -/
def replaceContent (payload : MemoryPayload) (old : MemoryContent) : MemoryContent where
  subtitle := payload.subtitle
  confidence := payload.confidence.or old.confidence
  actorDisplayName := payload.actorDisplayName.or old.actorDisplayName
  originSource := payload.originSource.or old.originSource
  trustState := payload.trustState.or old.trustState
  narrative := payload.narrative
  facts := toJsonNullable payload.facts
  concepts := toJsonNullable payload.concepts
  filesRead := toJsonNullable payload.filesRead
  filesModified := toJsonNullable payload.filesModified
  userPromptId := payload.userPromptId
  promptNumber := payload.promptNumber

/-- The columns an upsert writes over a row of its import key. -/
def overwriteRow (op : ReplicationOp) (payload : MemoryPayload) (writtenActive : ℚ)
    (nextDeletedAt : Option String) (row : MemoryItem) : MemoryItem :=
  { row with
    kind := payload.kind.getD row.kind
    title := payload.title.getD row.title
    bodyText := payload.bodyText.getD row.bodyText
    active := some writtenActive
    updatedAt := op.clockUpdatedAt
    metadataJson := some (toJson (foreignRevisionMetadata op payload.metadataJson))
    rev := some op.clockRev
    deletedAt := nextDeletedAt
    actorId := payload.actorId.or row.actorId
    visibility := payload.visibility.or row.visibility
    workspaceId := payload.workspaceId.or row.workspaceId
    workspaceKind := payload.workspaceKind.or row.workspaceKind
    originDeviceId := payload.originDeviceId.or row.originDeviceId
    scopeId := (opScopeId op).or row.scopeId
    project := (replicatedProject payload).or row.project
    content := replaceContent payload row.content }

/-- The row an upsert inserts when its import key is new. -/
def insertedRow (op : ReplicationOp) (payload : MemoryPayload) (sessionId : ℕ) : MemoryItem where
  id := 0
  sessionId := sessionId
  kind := payload.kind.getD "discovery"
  title := payload.title.getD ""
  bodyText := payload.bodyText.getD ""
  active := some (payload.active.getD 1)
  createdAt := payload.createdAt.getD op.clockUpdatedAt
  updatedAt := op.clockUpdatedAt
  metadataJson := some (toJson (foreignRevisionMetadata op payload.metadataJson))
  importKey := some op.entityId
  deletedAt := payload.deletedAt
  rev := some op.clockRev
  actorId := payload.actorId
  visibility := payload.visibility
  workspaceId := payload.workspaceId
  workspaceKind := payload.workspaceKind
  originDeviceId := payload.originDeviceId
  scopeId := opScopeId op
  project := replicatedProject payload
  content :=
    { replaceContent payload MemoryContent.empty with
      confidence := some (payload.confidence.getD (1 / 2)) }

/-- The new side of a move takes over a row that its old side left at the same clock. -/
def sameReassignmentClock (op : ReplicationOp) (reassignment : Option ReassignScopePayload)
    (memRow : MemoryItem) : Bool :=
  reassignment.any fun r =>
    r.side == .new && op.clock == memRow.clock && memRow.effectiveScope == r.oldScopeId

/-- The row is in neither scope of the move. -/
def reassignScopeMismatch (reassignment : Option ReassignScopePayload) (memRow : MemoryItem) :
    Bool :=
  reassignment.any fun r =>
    memRow.effectiveScope != r.oldScopeId && memRow.effectiveScope != r.newScopeId

/-- The `active` column after an update: a tombstoned row stays inactive. -/
def nextDeletedAt (payload : MemoryPayload) (memRow : MemoryItem) : Option String :=
  if payload.hasDeletedAt then payload.deletedAt else memRow.deletedAt

def writtenActive (payload : MemoryPayload) (memRow : MemoryItem) : ℚ :=
  if (nextDeletedAt payload memRow).isSome then 0
  else payload.active.getD (memRow.active.getD 1)

def updateVectorWork (payload : MemoryPayload) (memRow : MemoryItem) :
    List (ℕ × VectorOperation) :=
  let contentChanged := resolveReplicatedTextUpdate payload.title memRow.title ≠ memRow.title ∨
    resolveReplicatedTextUpdate payload.bodyText memRow.bodyText ≠ memRow.bodyText
  let wasInactive := memRow.active.getD 1 = 0 ∨ memRow.deletedAt.isSome
  let nextActive := payload.active.getD (memRow.active.getD 1)
  let becomesActive := nextActive ≠ 0 ∧ (nextDeletedAt payload memRow).isNone
  if (nextDeletedAt payload memRow).isSome ∨ writtenActive payload memRow = 0 then
    [(memRow.id, .delete)]
  else if contentChanged ∨ (wasInactive ∧ becomesActive) then [(memRow.id, .upsert)]
  else []

/-- The update branch: every row of the import key is overwritten. -/
def applyUpsertUpdate (ctx : ApplyContext) (st : Store) (op : ReplicationOp)
    (payload : MemoryPayload) (memRow : MemoryItem) : Store × OpTally :=
  let st1 := (recordForeignMemoryRevision st op.entityId .replication).updateMemories
    (fun row => row.importKey == some op.entityId)
    (overwriteRow op payload (writtenActive payload memRow) (nextDeletedAt payload memRow))
  let st2 := populateMemoryRefs ctx.runtime (clearMemoryRefs st1 memRow.id) memRow.id
    (asStringArrayOrNull payload.filesRead) (asStringArrayOrNull payload.filesModified)
    (asStringArrayOrNull payload.concepts)
  (st2.insertReplicationOpRow op, tallyApplied (updateVectorWork payload memRow))

/-- The insert branch: the row belongs to a session of its own. -/
def applyUpsertInsert (ctx : ApplyContext) (st : Store) (op : ReplicationOp)
    (payload : MemoryPayload) : Store × OpTally :=
  -- `ensureSessionForReplication` without a session id
  let (sessionId, st1) := st.insertSession none (replicatedProject payload)
  let st2 := recordForeignMemoryRevision st1 op.entityId .replication
  let memoryId := st2.nextMemoryId
  let st3 := populateMemoryRefs ctx.runtime (st2.insertMemory (insertedRow op payload sessionId))
    memoryId (asStringArrayOrNull payload.filesRead) (asStringArrayOrNull payload.filesModified)
    (asStringArrayOrNull payload.concepts)
  let work : ℕ × VectorOperation :=
    (memoryId, if payload.deletedAt.isSome ∨ payload.active.getD 1 = 0 then .delete else .upsert)
  (st3.insertReplicationOpRow op, tallyApplied [work])

/-- The upsert branch, shared by the new side of a reassignment. -/
def applyUpsert (ctx : ApplyContext) (st : Store) (op : ReplicationOp)
    (reassignment : Option ReassignScopePayload) : Except String (Store × OpTally) :=
  match st.memoryByImportKey op.entityId with
  | some memRow =>
    if reassignScopeMismatch reassignment memRow then .error "reassign_existing_scope_mismatch"
    else if isNewerClock op.clock memRow.clock = false ∧
        sameReassignmentClock op reassignment memRow = false then
      -- record the op so that it is not processed again
      .ok (st.insertReplicationOpRow op, tallyConflict)
    else match parseMemoryPayload ctx.runtime op with
      | (none, errors) => .ok (st.insertReplicationOpRow op, tallySkipped errors)
      | (some payload, _) =>
        .ok (applyUpsertUpdate ctx st op (redactMemoryFields ctx.scanner payload) memRow)
  | none =>
    match parseMemoryPayload ctx.runtime op with
    | (none, errors) => .ok (st.insertReplicationOpRow op, tallySkipped errors)
    | (some payload, _) =>
      .ok (applyUpsertInsert ctx st op (redactMemoryFields ctx.scanner payload))

/-! ### Deletes -/

/-- The tombstone a delete leaves on a row. -/
def tombstoneRow (op : ReplicationOp) (now : String) (row : MemoryItem) : MemoryItem :=
  { row with
    active := some 0
    deletedAt := row.deletedAt.or (some now)
    rev := some op.clockRev
    updatedAt := op.clockUpdatedAt
    metadataJson := some (toJson (foreignRevisionMetadata op (fromJson row.metadataJson)))
    scopeId := (opScopeId op).or row.scopeId }

def applyDelete (ctx : ApplyContext) (st : Store) (op : ReplicationOp) : Store × OpTally :=
  match st.memoryByImportKey op.entityId with
  | some existing =>
    if isNewerClock op.clock existing.clock = false then
      (st.insertReplicationOpRow op, tallyConflict)
    else
      let st' := (recordForeignMemoryRevision st op.entityId .replication).updateMemories
        (fun row => row.id == existing.id) (tombstoneRow op ctx.now)
      (st'.insertReplicationOpRow op, tallyApplied [(existing.id, .delete)])
  | none =>
    -- the delete is recorded in the log only: no row keeps its clock
    (st.insertReplicationOpRow op, tallySkipped [])

/-! ### One op and one batch -/

def replicationOpBody (ctx : ApplyContext) (localDeviceId : String) (st : Store)
    (op : ReplicationOp) : Except String (Store × OpTally) :=
  if skipOwnRetiredOrAppliedOp st op localDeviceId then .ok (st, tallySkipped [])
  else match op.opType with
    | .reassignScope =>
      match parseReassignScopePayload op with
      | .error message => .error message
      | .ok reassignment =>
        match reassignment.side with
        | .old => applyReassignOldSide st op localDeviceId reassignment
        | .new => applyUpsert ctx st op (some reassignment)
    | .accessCleanup => .ok (applyAccessCleanupOp st op localDeviceId)
    | .upsert => applyUpsert ctx st op none
    | .delete => .ok (applyDelete ctx st op)
    | .other _ => .ok (st.insertReplicationOpRow op, tallySkipped [])

/-- One op in its savepoint: an error rolls everything back and is reported. -/
def applyReplicationOp (ctx : ApplyContext) (localDeviceId : String) (st : Store)
    (op : ReplicationOp) : Store × OpTally :=
  let outcome : Except String (Store × OpTally) :=
    match ctx.fault st op with
    | some message => .error message
    | none => replicationOpBody ctx localDeviceId st op
  match outcome with
  | .ok result => result
  | .error message => (st, ⟨0, 0, 0, ["op " ++ op.opId ++ ": " ++ message], []⟩)

/-- One entry of the vector work of an op, merged into the sets of the batch. -/
def mergeVectorWork (result : ApplyResult) (work : ℕ × VectorOperation) : ApplyResult :=
  let insert (ids : List ℕ) := if work.1 ∈ ids then ids else ids ++ [work.1]
  let remove (ids : List ℕ) := ids.filter (· != work.1)
  match work.2 with
  | .upsert =>
    { result with
      deleteMemoryIds := remove result.deleteMemoryIds
      upsertMemoryIds := insert result.upsertMemoryIds }
  | .delete =>
    { result with
      upsertMemoryIds := remove result.upsertMemoryIds
      deleteMemoryIds := insert result.deleteMemoryIds }

/-- `finishReplicationOp`: add the tally of one op to the result of the batch. -/
def finishReplicationOp (result : ApplyResult) (tally : OpTally) : ApplyResult :=
  tally.vectorWork.foldl mergeVectorWork
    { result with
      applied := result.applied + tally.applied
      skipped := result.skipped + tally.skipped
      conflicts := result.conflicts + tally.conflicts
      errors := result.errors ++ tally.errors }

/-- The transaction over all ops of a batch. -/
def applyAll (ctx : ApplyContext) (localDeviceId : String) (st : Store)
    (ops : List ReplicationOp) : Store × ApplyResult :=
  ops.foldl (fun acc op =>
    let (st', tally) := applyReplicationOp ctx localDeviceId acc.1 op
    (st', finishReplicationOp acc.2 tally)) (st, emptyApplyResult)

/-- `rejectUnretiredScopeFailures`: retired ops do not count against the batch. -/
def rejectUnretiredScopeFailures (st : Store) (ops : List ReplicationOp) (localDeviceId : String)
    (options : InboundScopeValidationOptions) : Option (Store × ApplyResult) :=
  let eligible := ops.filter fun op => !retirementBlocksMemoryOp st op
  (rejectInboundScopeFailures st eligible localDeviceId options).map fun (st', result) =>
    (st', { result with skipped := result.skipped + (ops.length - eligible.length) })

def applyReplicationOps (ctx : ApplyContext) (st : Store) (ops : List ReplicationOp)
    (localDeviceId : String) (inboundScopeValidation : Option InboundScopeValidationOptions) :
    Store × ApplyResult :=
  match inboundScopeValidation.bind (rejectUnretiredScopeFailures st ops localDeviceId) with
  | some rejected => rejected
  | none => applyAll ctx localDeviceId st ops

end Codemem

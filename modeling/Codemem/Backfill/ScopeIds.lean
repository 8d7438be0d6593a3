import Codemem.Backfill.Jobs
import Codemem.Foundation.Trace
import Codemem.Store.MemoryFilters

/-!
# The scope backfill

Memories and replication ops from before sharing domains have no scope.  A pass classifies a batch
of memories, and then gives ops the scope of the memory that they name.  The viewer asks at its
start whether a pass is needed: instead of the join it compares the number of ops without a scope
and the highest id of a scoped memory with what they were when the job was completed.
-/

namespace Codemem

/-! ### The tables -/

/-- What the classification of a memory reads, its session joined. -/
structure LegacyMemoryScopeInput where
  visibility : Option String
  workspaceKind : Option String
  workspaceId : Option String
  cwd : Option String
  gitRemote : Option String
  deriving DecidableEq

/-- A row of `memory_items`. -/
structure ScopeMemory where
  id : ℕ
  importKey : Option String
  scopeId : Option String
  legacy : LegacyMemoryScopeInput
  deriving DecidableEq

/-- A row of `replication_ops`. -/
structure ScopeOp where
  opId : String
  entityType : String
  entityId : String
  scopeId : Option String
  createdAt : String
  deriving DecidableEq

structure ScopeIdTables where
  scopes : List String
  memories : List ScopeMemory
  ops : List ScopeOp
  deriving DecidableEq

/-- `op_id` is the primary key. -/
def ScopeIdTables.UniqueOps (tables : ScopeIdTables) : Prop := (tables.ops.map ScopeOp.opId).Nodup

/-- `scope_id IS NULL OR scope_id = ''`. -/
def isUnscoped (scopeId : Option String) : Bool := scopeId.all fun scope => scope == ""

/-- An op of a memory without a scope. -/
def ScopeOp.isUnstamped (op : ScopeOp) : Bool :=
  op.entityType == "memory_item" && isUnscoped op.scopeId

/-- `LOCAL_DEFAULT_SCOPE_ID`. -/
def localDefaultScopeId : String := "local-default"

inductive ScopeBackfillReason where
  | privateOrPersonal
  | sharedWithCanonicalWorkspaceReview
  | sharedAmbiguousReview
  deriving DecidableEq

structure LegacyMemoryScopeClassification where
  scopeId : String
  reason : ScopeBackfillReason
  needsReview : Bool
  deriving DecidableEq

def hasCanonicalWorkspaceSignal (input : LegacyMemoryScopeInput) : Bool :=
  (cleanText input.gitRemote).isSome || (cleanText input.cwd).isSome ||
    (cleanText input.workspaceId).any fun workspaceId => workspaceId != "shared:default"

def classifyLegacyMemoryScope (input : LegacyMemoryScopeInput) : LegacyMemoryScopeClassification :=
  let visibility := (cleanText input.visibility).map toLowerCase
  let workspaceKind := (cleanText input.workspaceKind).map toLowerCase
  let workspaceId := (cleanText input.workspaceId).map toLowerCase
  if visibility = some "private" ∨ visibility = some "personal" ∨ workspaceKind = some "personal" ∨
      workspaceId.any (hasPrefix "personal:") = true then
    ⟨localDefaultScopeId, .privateOrPersonal, false⟩
  else
    ⟨legacySharedReviewScopeId,
      if hasCanonicalWorkspaceSignal input then .sharedWithCanonicalWorkspaceReview
      else .sharedAmbiguousReview, true⟩

namespace ScopeIdTables

variable (tables : ScopeIdTables)

/-- The scopes that the backfill needs. -/
def missingScopes : List String :=
  [localDefaultScopeId, legacySharedReviewScopeId].filter fun scope => !tables.scopes.contains scope

/-- `ensureScopeBackfillScopes`: the tables it leaves. -/
def ensureScopes : ScopeIdTables := { tables with scopes := tables.scopes ++ tables.missingScopes }

def pendingMemories : List ScopeMemory := tables.memories.filter fun row => isUnscoped row.scopeId

/-- The ops of memories without a scope. -/
def unstampedOps : List ScopeOp := tables.ops.filter ScopeOp.isUnstamped

/-- `countAllUnstampedReplicationOps`. -/
def countUnstamped : ℕ := tables.unstampedOps.length

def maxStampedMemoryId : ℕ :=
  ((tables.memories.filter fun row => !isUnscoped row.scopeId).map ScopeMemory.id).foldl max 0

/-- `selectMemoryScopeCandidates`. -/
def selectMemories (limit : ℕ) : List ScopeMemory :=
  (tables.pendingMemories.insertionSort fun row row' => row.id ≤ row'.id).take limit

def importMatches (key : String) : List ScopeMemory :=
  tables.memories.filter fun row => row.importKey == some key && !isUnscoped row.scopeId

def idMatches (key : String) : List ScopeMemory :=
  tables.memories.filter fun row => toString row.id == key && !isUnscoped row.scopeId

/-- The scopes that an op can get; an import key takes precedence over an id. -/
def opCandidates (op : ScopeOp) : List (ScopeOp × Option String) :=
  (tables.importMatches op.entityId ++
    if (tables.importMatches op.entityId).isEmpty then tables.idMatches op.entityId else []).map
      fun row => (op, row.scopeId)

/-- `selectReplicationOpScopeCandidates`. -/
def selectOps (limit : ℕ) : List (ScopeOp × Option String) :=
  ((tables.unstampedOps.flatMap tables.opCandidates).insertionSort fun candidate candidate' =>
    toLex (candidate.1.createdAt, candidate.1.opId) ≤
      toLex (candidate'.1.createdAt, candidate'.1.opId)).take limit

/-- `updateMemoryScope`. -/
def stampMemory (row : ScopeMemory) : ScopeIdTables :=
  { tables with memories := tables.memories.map fun stored =>
      if stored.id = row.id ∧ isUnscoped stored.scopeId = true then
        { stored with scopeId := some (classifyLegacyMemoryScope row.legacy).scopeId }
      else stored }

/-- `updateOpScope`, unless the scope of the candidate is blank. -/
def stampOp (candidate : ScopeOp × Option String) : ScopeIdTables :=
  match cleanText candidate.2 with
  | none => tables
  | some scopeId =>
    { tables with ops := tables.ops.map fun stored =>
        if stored.opId = candidate.1.opId ∧ isUnscoped stored.scopeId = true then
          { stored with scopeId := some scopeId }
        else stored }

end ScopeIdTables

/-- The ops that the transaction of `backfillScopeIds` selects, once the memories are stamped: none
after a full batch of memories. -/
def selectedOps (memoryRows : List ScopeMemory) (memoryLimit opLimit : ℕ) (tables : ScopeIdTables) :
    List (ScopeOp × Option String) :=
  if memoryLimit ≤ memoryRows.length then [] else tables.selectOps opLimit

/-- The transaction of `backfillScopeIds`: the tables and the number of ops that it checked. -/
def applyScopeBatch (memoryRows : List ScopeMemory) (memoryLimit opLimit : ℕ)
    (tables : ScopeIdTables) : ScopeIdTables × ℕ :=
  let stamped := memoryRows.foldl ScopeIdTables.stampMemory tables
  let opRows := selectedOps memoryRows memoryLimit opLimit stamped
  (opRows.foldl ScopeIdTables.stampOp stamped, opRows.length)

/-- `backfillScopeIds`, run alone. -/
def backfillScopeIds (memoryLimit opLimit : ℕ) (tables : ScopeIdTables) : ScopeIdTables :=
  let ensured := tables.ensureScopes
  (applyScopeBatch (ensured.selectMemories (max 1 memoryLimit)) (max 1 memoryLimit) (max 1 opLimit)
    ensured).1

/-! ### The probe -/

/-- `ScopeBackfillMetadata`, but for the counts that only the progress shows. -/
structure ScopeBackfillMetadata where
  remainingMemories : Option ℕ
  remainingReplicationOps : Option ℕ
  unstampedReplicationOpsAtCompletion : Option ℕ
  maxStampedMemoryIdAtCompletion : Option ℕ
  exhaustedInPreviousPass : Bool

abbrev ScopeJob := MaintenanceJobRecord ScopeBackfillMetadata

/-- `job.metadata ?? {}`. -/
def scopeMetadata (job : Option ScopeJob) : ScopeBackfillMetadata :=
  (job.map MaintenanceJobRecord.metadata).getD ⟨none, none, none, none, false⟩

def hasPendingScopeBackfill (tables : ScopeIdTables) (job : Option ScopeJob) : Bool :=
  if tables.missingScopes ≠ [] then true
  else if tables.pendingMemories ≠ [] then true
  else if (job.any fun job => job.status == .running) = true then true
  else if tables.countUnstamped = 0 then false
  else if isCompleted job = false then true
  else
    match (scopeMetadata job).unstampedReplicationOpsAtCompletion with
    | none => true
    | some opWatermark =>
      if opWatermark < tables.countUnstamped then true
      else
        match (scopeMetadata job).maxStampedMemoryIdAtCompletion with
        | none => true
        | some memoryWatermark => tables.memories.any fun row =>
            decide (memoryWatermark < row.id) && !isUnscoped row.scopeId

/-! ### A pass -/

/-- What a pass knows of its job and its batch size. -/
structure ScopeContext where
  batchSize : ℕ
  existingJob : Option ScopeJob

def ScopeContext.startingFresh (ctx : ScopeContext) : Bool := startsFresh ctx.existingJob

/-- `previouslyExhausted`, after the start of the job. -/
def ScopeContext.previouslyExhausted (ctx : ScopeContext) : Bool :=
  !ctx.startingFresh && (scopeMetadata ctx.existingJob).exhaustedInPreviousPass

/-- The result of `backfillScopeIds` that a pass goes on with. -/
structure ScopeBatchResult where
  checkedReplicationOps : ℕ
  remainingMemoryItems : ℕ
  remainingReplicationOps : ℕ

/-- `runScopeBackfillPass` before its next statement or transaction. -/
inductive ScopePass where
  | readJob (batchSize : ℕ)
  | countMemories (ctx : ScopeContext)
  | countOps (ctx : ScopeContext) (memoryPending : ℕ)
  | countScopes (ctx : ScopeContext) (memoryPending opPending : ℕ)
  | startJob (ctx : ScopeContext) (memoryPending opPending missingScopes : ℕ)
  | ensureScopes (ctx : ScopeContext)
  | selectMemories (ctx : ScopeContext)
  | applyBatch (ctx : ScopeContext) (rows : List ScopeMemory)
  | countRemainingMemories (ctx : ScopeContext) (checked : ℕ)
  | countRemainingOps (ctx : ScopeContext) (checked remainingMemories : ℕ)
  | countRemainingScopes (ctx : ScopeContext) (result : ScopeBatchResult)
  | update (metadata : ScopeBackfillMetadata)
  | captureOps (metadata : ScopeBackfillMetadata)
  | captureMemory (metadata : ScopeBackfillMetadata) (opWatermark : ℕ)
  | complete (metadata : ScopeBackfillMetadata)

/-- The pass after its first three counts. -/
def ScopePass.counted (ctx : ScopeContext) (memoryPending opPending missingScopes : ℕ) :
    Option ScopePass :=
  if memoryPending + opPending + missingScopes = 0 then
    if isUncompleted ctx.existingJob then
      let quiescent : ScopeBackfillMetadata :=
        { scopeMetadata ctx.existingJob with
          remainingMemories := some 0
          remainingReplicationOps := some 0 }
      if (scopeMetadata ctx.existingJob).exhaustedInPreviousPass then some (.captureOps quiescent)
      else some (.update { quiescent with exhaustedInPreviousPass := true })
    else none
  else if ctx.startingFresh then some (.startJob ctx memoryPending opPending missingScopes)
  else some (.ensureScopes ctx)

def ScopePass.judged (ctx : ScopeContext) (result : ScopeBatchResult) (missingScopes : ℕ) :
    ScopePass :=
  let passLooksDone := decide (result.remainingMemoryItems = 0 ∧
    result.checkedReplicationOps = 0 ∧ missingScopes = 0)
  let metadata : ScopeBackfillMetadata :=
    { remainingMemories := some result.remainingMemoryItems
      remainingReplicationOps := some result.remainingReplicationOps
      unstampedReplicationOpsAtCompletion := none
      maxStampedMemoryIdAtCompletion := none
      exhaustedInPreviousPass := passLooksDone }
  if passLooksDone && ctx.previouslyExhausted then .captureOps metadata else .update metadata

/-- A job row with new metadata; the texts of its progress are left out. -/
def writeScopeJob (status : Option MaintenanceJobStatus) (metadata : ScopeBackfillMetadata)
    (job : Option ScopeJob) : Option ScopeJob :=
  job.map fun existing =>
    { existing with status := status.getD existing.status, metadata := metadata }

/-- `startMaintenanceJob`, with no watermarks. -/
def startedScopeJob (memoryPending opPending missingScopes : ℕ) : ScopeJob :=
  ⟨.running, none, 0, some (memoryPending + opPending + missingScopes),
    ⟨some memoryPending, some opPending, none, none, false⟩⟩

/-- The tables, the job and the pass that runs. -/
structure ScopeSystem where
  tables : ScopeIdTables
  job : Option ScopeJob
  pass : Option ScopePass

/-- The next statement or transaction of a pass. -/
def ScopePass.next (s : ScopeSystem) : ScopePass → ScopeSystem
  | .readJob batchSize => { s with pass := some (.countMemories ⟨max 1 batchSize, s.job⟩) }
  | .countMemories ctx => { s with pass := some (.countOps ctx s.tables.pendingMemories.length) }
  | .countOps ctx memoryPending =>
    { s with pass := some (.countScopes ctx memoryPending s.tables.countUnstamped) }
  | .countScopes ctx memoryPending opPending =>
    { s with pass := counted ctx memoryPending opPending s.tables.missingScopes.length }
  | .startJob ctx memoryPending opPending missingScopes =>
    { s with
      job := some (startedScopeJob memoryPending opPending missingScopes)
      pass := some (.ensureScopes ctx) }
  | .ensureScopes ctx =>
    { s with tables := s.tables.ensureScopes, pass := some (.selectMemories ctx) }
  | .selectMemories ctx =>
    { s with pass := some (.applyBatch ctx (s.tables.selectMemories ctx.batchSize)) }
  | .applyBatch ctx rows =>
    let applied := applyScopeBatch rows ctx.batchSize ctx.batchSize s.tables
    { s with tables := applied.1, pass := some (.countRemainingMemories ctx applied.2) }
  | .countRemainingMemories ctx checked =>
    { s with pass := some (.countRemainingOps ctx checked s.tables.pendingMemories.length) }
  | .countRemainingOps ctx checked remainingMemories =>
    { s with pass := some (.countRemainingScopes ctx
        ⟨checked, remainingMemories, s.tables.countUnstamped⟩) }
  | .countRemainingScopes ctx result =>
    { s with pass := some (judged ctx result s.tables.missingScopes.length) }
  | .update metadata => { s with job := writeScopeJob none metadata s.job, pass := none }
  | .captureOps metadata => { s with pass := some (.captureMemory metadata s.tables.countUnstamped) }
  | .captureMemory metadata opWatermark =>
    { s with pass := some (.complete
        { metadata with
          unstampedReplicationOpsAtCompletion := some opWatermark
          maxStampedMemoryIdAtCompletion := some s.tables.maxStampedMemoryId }) }
  | .complete metadata =>
    { s with job := writeScopeJob (some .completed) metadata s.job, pass := none }

/-- A pass begins, goes on, or stops for good; another writer commits any tables. -/
inductive ScopeAction where
  | begin (batchSize : ℕ)
  | next
  | stop
  | commit (tables : { tables : ScopeIdTables // tables.UniqueOps })

def scopeStep (s : ScopeSystem) : ScopeAction → ScopeSystem
  | .begin batchSize => if s.pass.isSome then s else { s with pass := some (.readJob batchSize) }
  | .next =>
    match s.pass with
    | none => s
    | some pass => pass.next s
  | .stop => { s with pass := none }
  | .commit tables => { s with tables := tables }

/-- Any tables, before the first pass. -/
def ScopeSystem.start (tables : { tables : ScopeIdTables // tables.UniqueOps }) : ScopeSystem :=
  ⟨tables, none, none⟩

end Codemem

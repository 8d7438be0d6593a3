import Codemem.Backfill.Jobs
import Codemem.Store.Duplicates
import Codemem.Foundation.OrderedPage

/-!
# The dedup-key backfill

Memories that came from a peer have no `dedup_key`.  A pass of the job plans the keys of one batch
in order of creation and writes them.  A row without a key stays as it is where its title yields
none, or where it is active and another active memory of its session has the key already.

Before the job is completed, `completeOrRewind` looks once more for rows to fill, in one
transaction with the write of the status.
-/

namespace Codemem

/-! ### The plan -/

def scanPosition (row : MemoryItem) : String ×ₗ ℕ := toLex (row.createdAt, row.id)

/-- The place a scan starts behind. -/
def scanCursorPosition (afterId : ℕ) (afterCreatedAt : Option String) : String ×ₗ ℕ :=
  toLex (if 0 < afterId then afterCreatedAt.getD "" else "", afterId)

def MaintainedStore.selectDedupKeyCandidateRows (db : MaintainedStore) (rowLimit : Option ℕ)
    (afterId : ℕ) (afterCreatedAt : Option String) : List MemoryItem :=
  takeLimit rowLimit (sortByPos scanPosition
    (entriesAbove scanPosition (some (scanCursorPosition afterId afterCreatedAt))
      (db.store.memoryItems.filter fun row => (db.dedupKey row.id).isNone)))

/-- `hasActiveConflict`: another active memory of the session has the key. -/
def MaintainedStore.hasActiveConflict (db : MaintainedStore) (row : MemoryItem) (key : String) :
    Bool :=
  db.store.memoryItems.any fun other =>
    other.id != row.id && other.active == some 1 && other.sessionId == row.sessionId &&
      other.kind == row.kind && other.visibility == row.visibility &&
      other.workspaceId == row.workspaceId && db.dedupKey other.id == some key

def buildDedupActiveScopeKey (row : MemoryItem) (dedupKey : String) : String :=
  "\u001f".intercalate
    [toString row.sessionId, row.kind, row.visibility.getD "", row.workspaceId.getD "", dedupKey]

/-- What `planMemoryDedupKeys` has found after some of the rows. -/
structure DedupKeyScan where
  checked : ℕ
  updated : ℕ
  skipped : ℕ
  backfillable : ℕ
  updates : List (ℕ × String)
  seenActiveScopes : List String

/-- No row has been looked at. -/
def DedupKeyScan.empty : DedupKeyScan := ⟨0, 0, 0, 0, [], []⟩

/-- One round of the loop of `planMemoryDedupKeys`. -/
def MaintainedStore.scanDedupKeyRow (tools : DedupTools) (db : MaintainedStore)
    (updateLimit : Option ℕ) (scan : DedupKeyScan) (row : MemoryItem) : DedupKeyScan :=
  match tools.buildMemoryDedupKey row.title with
  | none => { scan with checked := scan.checked + 1, skipped := scan.skipped + 1 }
  | some key =>
    let scopeKey := buildDedupActiveScopeKey row key
    if row.active = some 1 ∧
        (scopeKey ∈ scan.seenActiveScopes ∨ db.hasActiveConflict row key = true) then
      { scan with checked := scan.checked + 1, skipped := scan.skipped + 1 }
    else
      { checked := scan.checked + 1
        updated := scan.updated + 1
        skipped := scan.skipped
        backfillable := scan.backfillable + 1
        updates :=
          if updateLimit.all fun limit => limit == 0 || decide (scan.updates.length < limit) then
            scan.updates ++ [(row.id, key)]
          else scan.updates
        seenActiveScopes :=
          if row.active = some 1 then scan.seenActiveScopes ++ [scopeKey]
          else scan.seenActiveScopes }

/-- `planMemoryDedupKeys(db, { updateLimit: 1 }).backfillable`, in one state of the tables: how many
rows are pending. -/
def MaintainedStore.backfillableDedupKeys (tools : DedupTools) (db : MaintainedStore) : ℕ :=
  ((db.selectDedupKeyCandidateRows none 0 none).foldl (db.scanDedupKeyRow tools (some 1))
    .empty).backfillable

structure BackfillDedupKeysPlan where
  scan : DedupKeyScan
  lastScannedId : ℕ
  lastScannedCreatedAt : Option String
  exhausted : Bool

/-- The plan for the rows that were selected behind a cursor. -/
def backfillDedupKeysPlan (rowLimit : ℕ) (afterId : ℕ) (afterCreatedAt : Option String)
    (rows : List MemoryItem) (scan : DedupKeyScan) : BackfillDedupKeysPlan where
  scan := scan
  lastScannedId := (rows.getLast?.map MemoryItem.id).getD afterId
  lastScannedCreatedAt := (rows.getLast?.map MemoryItem.createdAt).or afterCreatedAt
  exhausted := decide (rows.length < rowLimit)

/-! ### Writing keys -/

/-- The unique index over the active memories of a session, where `NULL` equals nothing. -/
def MaintainedStore.violatesDedupIndex (db : MaintainedStore) (row : MemoryItem) (key : String) :
    Bool :=
  row.active == some 1 && row.visibility.isSome && row.workspaceId.isSome &&
    db.hasActiveConflict row key

lemma keepsForm_setDedupKey (now : String) (id : ℕ) :
    KeepsForm fun row => if row.id == id then { row with updatedAt := now } else row where
  id row := by
    split_ifs
    · rfl
    · rfl
  sessionId row := by
    split_ifs
    · rfl
    · rfl
  metadata row h := by
    split_ifs
    · exact h
    · exact h

/-- `UPDATE memory_items SET dedup_key = ?, updated_at = ? WHERE id = ?`. -/
def BackfillStore.setDedupKey (now : String) (s : BackfillStore) (update : ℕ × String) :
    Except String BackfillStore :=
  match s.memories.store.memoryById update.1 with
  | none => .ok s
  | some row =>
    if s.memories.violatesDedupIndex row update.2 then
      .error "UNIQUE constraint failed: idx_memory_items_same_session_dedup_unique"
    else
      .ok { s with
        memories := s.memories.setDedupKey now update
        wellFormed := s.wellFormed.of_map (keepsForm_setDedupKey now update.1) rfl }

def BackfillStore.applyMemoryDedupKeyUpdates (now : String) (updates : List (ℕ × String))
    (s : BackfillStore) : Except String BackfillStore :=
  updates.foldlM (BackfillStore.setDedupKey now) s

/-! ### Completing the job -/

/-- `cursorMetadata`. -/
def DedupKeyBackfillMetadata.withCursor (metadata : DedupKeyBackfillMetadata) (id : ℕ)
    (createdAt : Option String) : DedupKeyBackfillMetadata :=
  { metadata with lastCursorId := some id, lastCursorCreatedAt := createdAt }

def rewindForLateRows (completion : JobProgress DedupKeyBackfillMetadata) (remaining : ℕ) :
    JobProgress DedupKeyBackfillMetadata :=
  let processed := completion.metadata.processedUpdates.getD 0
  let total := processed + remaining
  { message := "Rescanning for memories added during the dedup-key backfill"
    progressCurrent := processed
    progressTotal := total
    metadata :=
      { completion.metadata with
        totalBackfillable := some total
        remainingBackfillable := some remaining
        skippedRows := some 0
        lastCursorId := some 0
        lastCursorCreatedAt := none } }

def BackfillStore.completeOrRewind (tools : DedupTools)
    (completion : JobProgress DedupKeyBackfillMetadata) (s : BackfillStore) :
    PassOutcome × BackfillStore :=
  let remaining := s.memories.backfillableDedupKeys tools
  if 0 < remaining then
    (.processed, { s with
      dedupKeyJob := updateMaintenanceJob (rewindForLateRows completion remaining) s.dedupKeyJob })
  else
    (.completed, { s with dedupKeyJob := completeMaintenanceJob completion s.dedupKeyJob })

/-! ### A pass -/

/-- What a pass knows once it has read the row of its job. -/
structure DedupKeyContext where
  batchSize : ℕ
  existingJob : Option (MaintenanceJobRecord DedupKeyBackfillMetadata)
  existingMetadata : DedupKeyBackfillMetadata

namespace DedupKeyContext

variable (ctx : DedupKeyContext)

/-- `Math.max(1, options.batchSize ?? 250)`. -/
def rowLimit : ℕ := max 1 ctx.batchSize

def startingFresh : Bool := startsFresh ctx.existingJob

/-- `resumeCursor`: the id. -/
def afterId : ℕ := if ctx.startingFresh then 0 else ctx.existingMetadata.lastCursorId.getD 0

/-- `resumeCursor`: the time of creation. -/
def afterCreatedAt : Option String :=
  if ctx.startingFresh then none else ctx.existingMetadata.lastCursorCreatedAt

def processedBefore : ℕ :=
  if ctx.startingFresh then 0 else ctx.existingMetadata.processedUpdates.getD 0

/-- The completion of a job whose scan found no row. -/
def emptyCompletion : JobProgress DedupKeyBackfillMetadata :=
  let processedUpdates := ctx.existingMetadata.processedUpdates.getD 0
  let skippedRows := ctx.existingMetadata.skippedRows.getD 0
  { message :=
      if 0 < skippedRows then s!"No backfillable dedup keys remaining ({skippedRows} skipped)"
      else "Dedup-key backfill complete"
    progressCurrent := processedUpdates
    progressTotal := ctx.existingMetadata.totalBackfillable.getD processedUpdates
    metadata :=
      { ctx.existingMetadata with
        remainingBackfillable := some 0
        checkedRows := some 0
        lastBatchUpdated := some 0
        lastCursorId := some ctx.afterId
        lastCursorCreatedAt := ctx.afterCreatedAt } }

def cumulativeSkipped (plan : BackfillDedupKeysPlan) : ℕ :=
  if ctx.startingFresh then plan.scan.skipped
  else ctx.existingMetadata.skippedRows.getD 0 + plan.scan.skipped

def startedJob (plan : BackfillDedupKeysPlan) (initialTotal : ℕ) :
    MaintenanceJobRecord DedupKeyBackfillMetadata :=
  startMaintenanceJob s!"Backfilling {initialTotal} legacy memories with dedup keys" initialTotal
    { totalBackfillable := some initialTotal
      processedUpdates := some ctx.processedBefore
      remainingBackfillable := some initialTotal
      skippedRows := some 0
      checkedRows := some plan.scan.checked
      lastBatchUpdated := some 0
      lastCursorId := some 0
      lastCursorCreatedAt := none }

/-- The completion of a job whose scan came to its end. -/
def finalCompletion (plan : BackfillDedupKeysPlan) (finalProgressTotal : ℕ) :
    JobProgress DedupKeyBackfillMetadata :=
  let skipped := ctx.cumulativeSkipped plan
  { message :=
      if 0 < skipped then s!"Dedup-key backfill complete ({skipped} skipped)"
      else "Dedup-key backfill complete"
    progressCurrent := finalProgressTotal
    progressTotal := finalProgressTotal
    metadata :=
      { totalBackfillable := some finalProgressTotal
        processedUpdates := some (ctx.processedBefore + plan.scan.updates.length)
        remainingBackfillable := some 0
        skippedRows := some skipped
        checkedRows := some plan.scan.checked
        lastBatchUpdated := some plan.scan.updates.length
        lastCursorId := some plan.lastScannedId
        lastCursorCreatedAt := plan.lastScannedCreatedAt } }

/-- The progress after a batch with more rows behind it. -/
def progress (plan : BackfillDedupKeysPlan) (progressTotal : ℕ) :
    JobProgress DedupKeyBackfillMetadata :=
  let processedAfter := ctx.processedBefore + plan.scan.updates.length
  { message := s!"Backfilled {processedAfter} of {progressTotal} legacy dedup keys"
    progressCurrent := processedAfter
    progressTotal := progressTotal
    metadata :=
      { totalBackfillable := some progressTotal
        processedUpdates := some processedAfter
        remainingBackfillable := some (progressTotal - processedAfter)
        skippedRows := some (ctx.cumulativeSkipped plan)
        checkedRows := some plan.scan.checked
        lastBatchUpdated := some plan.scan.updates.length
        lastCursorId := some plan.lastScannedId
        lastCursorCreatedAt := plan.lastScannedCreatedAt } }

end DedupKeyContext

/-- A pass of `runDedupKeyBackfillPass` before its next statement. -/
inductive DedupKeyPass where
  | readJob (batchSize : ℕ)
  | readMetadata (batchSize : ℕ)
      (existingJob : Option (MaintenanceJobRecord DedupKeyBackfillMetadata))
  | select (ctx : DedupKeyContext)
  | scanRow (ctx : DedupKeyContext) (rows : List MemoryItem) (row : MemoryItem)
      (rest : List MemoryItem) (scan : DedupKeyScan)
  | selectTotal (ctx : DedupKeyContext) (plan : BackfillDedupKeysPlan)
  | countRow (ctx : DedupKeyContext) (plan : BackfillDedupKeysPlan) (row : MemoryItem)
      (rest : List MemoryItem) (scan : DedupKeyScan)
  | startJob (ctx : DedupKeyContext) (plan : BackfillDedupKeysPlan) (initialTotal : ℕ)
  | applyUpdates (ctx : DedupKeyContext) (plan : BackfillDedupKeysPlan) (progressTotal : ℕ)
  | readTotal (ctx : DedupKeyContext) (plan : BackfillDedupKeysPlan) (progressTotal : ℕ)
  | completeOrRewind (completion : JobProgress DedupKeyBackfillMetadata)
  | readForUpdate (input : JobProgress DedupKeyBackfillMetadata)
  | update (existing : MaintenanceJobRecord DedupKeyBackfillMetadata)
      (input : JobProgress DedupKeyBackfillMetadata)
  | ended (outcome : PassOutcome)

namespace DedupKeyPass

/-- The pass once its batch is planned. -/
def planned (ctx : DedupKeyContext) (rows : List MemoryItem) (scan : DedupKeyScan) :
    DedupKeyPass :=
  let plan := backfillDedupKeysPlan ctx.rowLimit ctx.afterId ctx.afterCreatedAt rows scan
  if scan.checked = 0 then
    if isUncompleted ctx.existingJob then .completeOrRewind ctx.emptyCompletion else .ended .idle
  else if ctx.startingFresh then .selectTotal ctx plan
  else .applyUpdates ctx plan (ctx.existingMetadata.totalBackfillable.getD 0)

/-- The pass after its batch, whose rows are still to be looked at from some row on. -/
def scanFrom (ctx : DedupKeyContext) (rows : List MemoryItem) (scan : DedupKeyScan) :
    List MemoryItem → DedupKeyPass
  | [] => planned ctx rows scan
  | row :: rest => .scanRow ctx rows row rest scan

/-- The pass while it counts the rows of a job that starts. -/
def countFrom (ctx : DedupKeyContext) (plan : BackfillDedupKeysPlan) (scan : DedupKeyScan) :
    List MemoryItem → DedupKeyPass
  | [] => .startJob ctx plan scan.backfillable
  | row :: rest => .countRow ctx plan row rest scan

/-- The next statement of `runDedupKeyBackfillPass`. -/
def next (tools : DedupTools) (now : String) (s : BackfillStore) :
    DedupKeyPass → DedupKeyPass × BackfillStore
  | .readJob batchSize => (.readMetadata batchSize s.dedupKeyJob, s)
  | .readMetadata batchSize existingJob =>
    (.select ⟨batchSize, existingJob, dedupKeyMetadata s.dedupKeyJob⟩, s)
  | .select ctx =>
    let rows := s.memories.selectDedupKeyCandidateRows (some ctx.rowLimit) ctx.afterId
      ctx.afterCreatedAt
    (scanFrom ctx rows .empty rows, s)
  | .scanRow ctx rows row rest scan =>
    (scanFrom ctx rows (s.memories.scanDedupKeyRow tools (some ctx.rowLimit) scan row) rest, s)
  | .selectTotal ctx plan =>
    (countFrom ctx plan .empty (s.memories.selectDedupKeyCandidateRows none 0 none), s)
  | .countRow ctx plan row rest scan =>
    (countFrom ctx plan (s.memories.scanDedupKeyRow tools (some 1) scan row) rest, s)
  | .startJob ctx plan initialTotal =>
    (.applyUpdates ctx plan initialTotal, { s with dedupKeyJob := some (ctx.startedJob plan initialTotal) })
  | .applyUpdates ctx plan progressTotal =>
    match s.applyMemoryDedupKeyUpdates now plan.scan.updates with
    | .error message => (.ended (.failed message), s)
    | .ok s' =>
      if plan.exhausted then (.readTotal ctx plan progressTotal, s')
      else (.readForUpdate (ctx.progress plan progressTotal), s')
  | .readTotal ctx plan progressTotal =>
    (.completeOrRewind (ctx.finalCompletion plan
      ((dedupKeyMetadata s.dedupKeyJob).totalBackfillable.getD progressTotal)), s)
  | .completeOrRewind completion =>
    let result := s.completeOrRewind tools completion
    (.ended result.1, result.2)
  | .readForUpdate input =>
    match s.dedupKeyJob with
    | none => (.ended .processed, s)
    | some existing => (.update existing input, s)
  | .update existing input =>
    (.ended .processed,
      { s with dedupKeyJob := s.dedupKeyJob.map fun _ => updatedJob existing none input })
  | .ended outcome => (.ended outcome, s)

end DedupKeyPass

end Codemem

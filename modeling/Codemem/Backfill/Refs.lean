import Codemem.Backfill.Jobs
import Codemem.Foundation.OrderedPage

/-!
# The ref backfill

Files and concepts of a memory are JSON arrays in its row, and rows of `memory_file_refs` and
`memory_concept_refs` beside it.  The job fills these tables for memories that were written before
they existed.  A memory is pending while one of its arrays has an item and its table no row.

Each row of a batch is one transaction, which also moves the cursor.  The last one completes the
job where the batch was short or nothing is pending.
-/

namespace Codemem

/-! ### Pending rows -/

/-- `json_valid(x) AND json_type(x) = 'array' AND json_array_length(x) > 0`. -/
def isFilledArray (text : Option JsonText) : Bool :=
  match text.bind JsonText.parse with
  | some (.arr items) => !items.isEmpty
  | _ => false

def Store.fileRefsPending (st : Store) (row : MemoryItem) : Bool :=
  (isFilledArray row.content.filesRead || isFilledArray row.content.filesModified) &&
    !st.memoryFileRefs.any fun ref => ref.memoryId == row.id

def Store.conceptRefsPending (st : Store) (row : MemoryItem) : Bool :=
  isFilledArray row.content.concepts &&
    !st.memoryConceptRefs.any fun ref => ref.memoryId == row.id

/-- `REF_BACKFILL_PENDING_WHERE`. -/
def Store.refBackfillPending (st : Store) (row : MemoryItem) : Bool :=
  row.active == some 1 && (st.fileRefsPending row || st.conceptRefsPending row)

/-- The rows that are pending. -/
def Store.refBackfillRows (st : Store) : List MemoryItem :=
  st.memoryItems.filter st.refBackfillPending

def Store.hasPendingRefBackfill (st : Store) : Bool := !st.refBackfillRows.isEmpty

/-- The batch that `runRefBackfillPass` selects. -/
def Store.selectRefBackfillRows (st : Store) (lastCursorId batchSize : ℕ) : List MemoryItem :=
  page MemoryItem.id batchSize (entriesAbove MemoryItem.id (some lastCursorId) st.refBackfillRows)

/-! ### Inserting refs -/

def safeJsonArray (value : Option JsonText) : Option (List String) :=
  match value.bind JsonText.parse with
  | some (.arr items) => some (items.filterMap Json.asText)
  | _ => none

def Store.insertRowRefs (rt : Runtime) (st : Store) (row : MemoryItem) : Store :=
  populateMemoryRefs rt st row.id (safeJsonArray row.content.filesRead)
    (safeJsonArray row.content.filesModified) (safeJsonArray row.content.concepts)

def BackfillStore.insertRowRefs (rt : Runtime) (s : BackfillStore) (row : MemoryItem) :
    BackfillStore :=
  { s with
    memories := { s.memories with store := s.memories.store.insertRowRefs rt row }
    wellFormed := s.wellFormed.of_items rfl }

/-! ### A pass -/

/-- What a pass knows once it has read the row of its job. -/
structure RefContext where
  batchSize : ℕ
  existingJob : Option (MaintenanceJobRecord RefBackfillMetadata)
  existingMetadata : RefBackfillMetadata

namespace RefContext

variable (ctx : RefContext)

/-- `Math.max(1, options.batchSize ?? 50)`. -/
def rowLimit : ℕ := max 1 ctx.batchSize

def startingFresh : Bool := startsFresh ctx.existingJob

def lastCursorId : ℕ := if ctx.startingFresh then 0 else ctx.existingMetadata.lastCursorId.getD 0

def processedBefore : ℕ :=
  if ctx.startingFresh then 0 else ctx.existingMetadata.processed.getD 0

/-- The completion of a job whose scan found no row. -/
def emptyCompletion : JobProgress RefBackfillMetadata :=
  let processed := ctx.existingMetadata.processed.getD 0
  { message := "Ref backfill complete"
    progressCurrent := processed
    progressTotal := ctx.existingMetadata.totalBackfillable.getD processed
    metadata :=
      { ctx.existingMetadata with
        remaining := some 0
        lastCursorId := some ctx.lastCursorId } }

def startedJob (initialTotal : ℕ) : MaintenanceJobRecord RefBackfillMetadata :=
  startMaintenanceJob s!"Backfilling refs for {initialTotal} memories" initialTotal
    { totalBackfillable := some initialTotal
      processed := some ctx.processedBefore
      remaining := some initialTotal
      lastCursorId := some 0 }

end RefContext

/-- `recordBatchProgress`: the input of the completion. -/
def refCompletion (job : Option (MaintenanceJobRecord RefBackfillMetadata))
    (processedAfter progressTotal newCursor : ℕ) : JobProgress RefBackfillMetadata :=
  let finalProgressTotal := (refMetadata job).totalBackfillable.getD progressTotal
  { message := "Ref backfill complete"
    progressCurrent := finalProgressTotal
    progressTotal := finalProgressTotal
    metadata :=
      { totalBackfillable := some finalProgressTotal
        processed := some processedAfter
        remaining := some 0
        lastCursorId := some newCursor } }

/-- `recordBatchProgress`: the input of the update. -/
def refProgress (processedAfter progressTotal newCursor : ℕ) : JobProgress RefBackfillMetadata where
  message := s!"Backfilled refs for {processedAfter} of {progressTotal} memories"
  progressCurrent := processedAfter
  progressTotal := progressTotal
  metadata :=
    { totalBackfillable := some progressTotal
      processed := some processedAfter
      remaining := some (progressTotal - processedAfter)
      lastCursorId := some newCursor }

/-- `recordBatchProgress`. -/
def BackfillStore.recordRefProgress (s : BackfillStore)
    (processedAfter progressTotal newCursor : ℕ) (exhausted : Bool) : BackfillStore :=
  { s with
    refJob :=
      if exhausted then
        completeMaintenanceJob (refCompletion s.refJob processedAfter progressTotal newCursor)
          s.refJob
      else updateMaintenanceJob (refProgress processedAfter progressTotal newCursor) s.refJob }

/-- A batch of rows in progress: the rows that are left begin with the one at `index`. -/
structure RefBatch where
  ctx : RefContext
  rows : List MemoryItem
  progressTotal : ℕ
  index : ℕ

/-- `exhausted`, for the last row of the batch or another one, once its refs are written. -/
def RefBatch.exhausted (batch : RefBatch) (isLastRow : Bool) (st : Store) : Bool :=
  isLastRow && (decide (batch.rows.length < batch.ctx.rowLimit) || !st.hasPendingRefBackfill)

/-- A pass of `runRefBackfillPass` before its next statement or transaction. -/
inductive RefPass where
  | readJob (batchSize : ℕ)
  | readMetadata (batchSize : ℕ) (existingJob : Option (MaintenanceJobRecord RefBackfillMetadata))
  | select (ctx : RefContext)
  | readForCompletion (input : JobProgress RefBackfillMetadata)
  | complete (existing : MaintenanceJobRecord RefBackfillMetadata)
      (input : JobProgress RefBackfillMetadata)
  | count (ctx : RefContext) (row : MemoryItem) (rest : List MemoryItem)
  | startJob (ctx : RefContext) (row : MemoryItem) (rest : List MemoryItem) (initialTotal : ℕ)
  | processRow (batch : RefBatch) (row : MemoryItem) (rest : List MemoryItem)
  | ended (outcome : PassOutcome)

namespace RefPass

def selected (ctx : RefContext) : List MemoryItem → RefPass
  | [] =>
    if isUncompleted ctx.existingJob then .readForCompletion ctx.emptyCompletion
    else .ended .idle
  | row :: rest =>
    if ctx.startingFresh then .count ctx row rest
    else .processRow ⟨ctx, row :: rest, ctx.existingMetadata.totalBackfillable.getD 0, 0⟩ row rest

/-- The pass after a row of its batch. -/
def processed (batch : RefBatch) (exhausted : Bool) : List MemoryItem → RefPass
  | [] => .ended (if exhausted then .completed else .processed)
  | row :: rest => .processRow { batch with index := batch.index + 1 } row rest

/-- The next statement or transaction of `runRefBackfillPass`. -/
def next (rt : Runtime) (s : BackfillStore) : RefPass → RefPass × BackfillStore
  | .readJob batchSize => (.readMetadata batchSize s.refJob, s)
  | .readMetadata batchSize existingJob =>
    (.select ⟨batchSize, existingJob, refMetadata s.refJob⟩, s)
  | .select ctx =>
    (selected ctx (s.memories.store.selectRefBackfillRows ctx.lastCursorId ctx.rowLimit), s)
  | .readForCompletion input =>
    match s.refJob with
    | none => (.ended .idle, s)
    | some existing => (.complete existing input, s)
  | .complete existing input =>
    (.ended .completed,
      { s with refJob := s.refJob.map fun _ => updatedJob existing (some .completed) input })
  | .count ctx row rest =>
    (.startJob ctx row rest s.memories.store.refBackfillRows.length, s)
  | .startJob ctx row rest initialTotal =>
    (.processRow ⟨ctx, row :: rest, initialTotal, 0⟩ row rest,
      { s with refJob := some (ctx.startedJob initialTotal) })
  | .processRow batch row rest =>
    let s' := s.insertRowRefs rt row
    let exhausted := batch.exhausted rest.isEmpty s'.memories.store
    (processed batch exhausted rest,
      s'.recordRefProgress (batch.ctx.processedBefore + batch.index + 1) batch.progressTotal row.id
        exhausted)
  | .ended outcome => (.ended outcome, s)

end RefPass

end Codemem

import Codemem.Store.Identity
import Codemem.Store.Maintenance

/-!
# Backfill jobs

The store migrates old memories in the background.  Three jobs share one pattern: a row of
`maintenance_jobs` holds the state of the job and the cursor of its scan, and each pass of the job
handles one batch of rows above the cursor.  The process that runs a pass shares the database with
other processes, which write between any two statements.
-/

namespace Codemem

/-! ### Job rows -/

inductive MaintenanceJobStatus where
  | pending
  | running
  | completed
  | failed
  | cancelled
  deriving DecidableEq, Repr

/-- A row of `maintenance_jobs`, with the metadata of its kind. -/
structure MaintenanceJobRecord (μ : Type) where
  status : MaintenanceJobStatus
  message : Option String
  progressCurrent : ℕ
  progressTotal : Option ℕ
  metadata : μ

/-- `UpdateMaintenanceJobInput` as the backfills fill it, but for the status. -/
structure JobProgress (μ : Type) where
  message : String
  progressCurrent : ℕ
  progressTotal : ℕ
  metadata : μ

variable {μ : Type}

/-- A pass scans from the start: the job has no row yet, or its last run has come to an end. -/
def startsFresh (existingJob : Option (MaintenanceJobRecord μ)) : Bool :=
  existingJob.all fun job => job.status == .completed || job.status == .failed

/-- `existingJob && existingJob.status !== "completed"`. -/
def isUncompleted (existingJob : Option (MaintenanceJobRecord μ)) : Bool :=
  existingJob.any fun job => job.status != .completed

/-- `startMaintenanceJob`: the row it writes. -/
def startMaintenanceJob (message : String) (progressTotal : ℕ) (metadata : μ) : MaintenanceJobRecord μ :=
  ⟨.running, some message, 0, some progressTotal, metadata⟩

/-- The row that `updateMaintenanceJob` writes, given the row it read. -/
def updatedJob (existing : MaintenanceJobRecord μ) (status : Option MaintenanceJobStatus)
    (input : JobProgress μ) : MaintenanceJobRecord μ :=
  ⟨status.getD existing.status, some input.message, input.progressCurrent,
    some input.progressTotal, input.metadata⟩

/-- `updateMaintenanceJob` in a transaction. -/
def updateMaintenanceJob (input : JobProgress μ) (job : Option (MaintenanceJobRecord μ)) :
    Option (MaintenanceJobRecord μ) :=
  job.map fun existing => updatedJob existing none input

/-- `completeMaintenanceJob` in a transaction. -/
def completeMaintenanceJob (input : JobProgress μ) (job : Option (MaintenanceJobRecord μ)) :
    Option (MaintenanceJobRecord μ) :=
  job.map fun existing => updatedJob existing (some .completed) input

def isCompleted (job : Option (MaintenanceJobRecord μ)) : Bool :=
  job.any fun job => job.status == .completed

/-- How a pass ends: it completed the job, it returned that there may be more work, it found
nothing to do, or it threw. -/
inductive PassOutcome where
  | completed
  | processed
  | idle
  | failed (message : String)
  deriving DecidableEq, Repr

/-! ### Metadata -/

structure DedupKeyBackfillMetadata where
  totalBackfillable : Option ℕ
  processedUpdates : Option ℕ
  remainingBackfillable : Option ℕ
  skippedRows : Option ℕ
  checkedRows : Option ℕ
  lastBatchUpdated : Option ℕ
  lastCursorId : Option ℕ
  lastCursorCreatedAt : Option String

structure RefBackfillMetadata where
  totalBackfillable : Option ℕ
  processed : Option ℕ
  remaining : Option ℕ
  lastCursorId : Option ℕ

structure SummaryDedupBackfillMetadata where
  totalSessions : Option ℕ
  processedSessions : Option ℕ
  supersededRows : Option ℕ
  lastSessionId : Option ℕ

/-- `getExistingMetadata` of the dedup-key job. -/
def dedupKeyMetadata (job : Option (MaintenanceJobRecord DedupKeyBackfillMetadata)) :
    DedupKeyBackfillMetadata :=
  (job.map MaintenanceJobRecord.metadata).getD ⟨none, none, none, none, none, none, none, none⟩

/-- `getExistingMetadata` of the ref job. -/
def refMetadata (job : Option (MaintenanceJobRecord RefBackfillMetadata)) : RefBackfillMetadata :=
  (job.map MaintenanceJobRecord.metadata).getD ⟨none, none, none, none⟩

/-- `getExistingMetadata` of the summary job. -/
def summaryMetadata (job : Option (MaintenanceJobRecord SummaryDedupBackfillMetadata)) :
    SummaryDedupBackfillMetadata :=
  (job.map MaintenanceJobRecord.metadata).getD ⟨none, none, none, none⟩

/-! ### The tables -/

/-- What the schema and the writers of `memory_items` promise: ids are primary keys that start
from 1, and metadata is JSON. -/
structure MaintainedStore.WellFormed (db : MaintainedStore) : Prop where
  unique : db.store.UniqueIds
  positive : ∀ row ∈ db.store.memoryItems, 0 < row.id ∧ 0 < row.sessionId
  metadata : ∀ row ∈ db.store.memoryItems, ∀ text ∈ row.metadataJson, text.parse.isSome

/-- The memories, and the rows of the three jobs. -/
structure BackfillStore where
  memories : MaintainedStore
  wellFormed : memories.WellFormed
  dedupKeyJob : Option (MaintenanceJobRecord DedupKeyBackfillMetadata)
  refJob : Option (MaintenanceJobRecord RefBackfillMetadata)
  summaryJob : Option (MaintenanceJobRecord SummaryDedupBackfillMetadata)

/-- A write of rows that leaves ids, sessions and the form of the metadata alone. -/
structure KeepsForm (write : MemoryItem → MemoryItem) : Prop where
  id : ∀ row, (write row).id = row.id
  sessionId : ∀ row, (write row).sessionId = row.sessionId
  metadata : ∀ row, (∀ text ∈ row.metadataJson, text.parse.isSome) →
    ∀ text ∈ (write row).metadataJson, text.parse.isSome

lemma MaintainedStore.WellFormed.of_map {db db' : MaintainedStore} (h : db.WellFormed)
    {write : MemoryItem → MemoryItem} (hwrite : KeepsForm write)
    (hitems : db'.store.memoryItems = db.store.memoryItems.map write) : db'.WellFormed where
  unique := Store.uniqueIds_of_map hwrite.id hitems h.unique
  positive row hrow := by
    rw [hitems] at hrow
    obtain ⟨before, hbefore, rfl⟩ := List.mem_map.mp hrow
    rw [hwrite.id, hwrite.sessionId]
    exact h.positive before hbefore
  metadata row hrow := by
    rw [hitems] at hrow
    obtain ⟨before, hbefore, rfl⟩ := List.mem_map.mp hrow
    exact hwrite.metadata before (h.metadata before hbefore)

lemma MaintainedStore.WellFormed.of_items {db db' : MaintainedStore} (h : db.WellFormed)
    (hitems : db'.store.memoryItems = db.store.memoryItems) : db'.WellFormed :=
  have hwrite : KeepsForm id := ⟨fun _ => rfl, fun _ => rfl, fun _ h => h⟩
  h.of_map hwrite (by rw [hitems, List.map_id])

end Codemem

import Codemem.Backfill.Jobs
import Codemem.Store.LatestSummary
import Codemem.Foundation.OrderedPage

/-!
# The summary backfill

A session is pending while it has more than one active summary of the observer.  A pass plans a
batch of sessions above the cursor: the newest summary of each wins, the others are superseded, in
one transaction with the progress of the job.  That transaction completes the job where no session
is pending; a pass that plans nothing completes it without a look.
-/

namespace Codemem

/-! ### Pending sessions -/

def Store.activeObserverSummaries (st : Store) (sessionId : ℕ) : List MemoryItem :=
  st.memoryItems.filter (isPriorObserverSummary sessionId)

/-- `GROUP BY session_id HAVING COUNT(*) > 1`. -/
def Store.summaryDedupPending (st : Store) (sessionId : ℕ) : Bool :=
  decide (1 < (st.activeObserverSummaries sessionId).length)

def Store.pendingSummarySessions (st : Store) : List ℕ :=
  (st.memoryItems.map MemoryItem.sessionId).dedup.filter st.summaryDedupPending

def Store.countPendingSessions (st : Store) : ℕ := st.pendingSummarySessions.length

def Store.hasPendingSummaryDedupBackfill (st : Store) : Bool := decide (0 < st.countPendingSessions)

/-! ### Plans -/

structure SessionPlan where
  sessionId : ℕ
  winnerId : ℕ
  superseded : List MemoryItem

/-- `ORDER BY created_at DESC, id DESC`. -/
def newestSummaryFirst (row : MemoryItem) : (String ×ₗ ℕ)ᵒᵈ :=
  OrderDual.toDual (toLex (row.createdAt, row.id))

/-- The plan for a session, where it still has two summaries. -/
def Store.sessionPlan (st : Store) (sessionId : ℕ) : Option SessionPlan :=
  match sortByPos newestSummaryFirst (st.activeObserverSummaries sessionId) with
  | winner :: second :: rest => some ⟨sessionId, winner.id, second :: rest⟩
  | _ => none

/-- The sessions that `planBatch` selects. -/
def Store.selectSummarySessions (st : Store) (afterSessionId batchSize : ℕ) : List ℕ :=
  page id batchSize (entriesAbove id (some afterSessionId) st.pendingSummarySessions)

/-! ### Superseding -/

/-- A row once `applySessionPlan` superseded it. -/
def dedupedRow (ctx : LocalContext) (winnerId : ℕ) (read row : MemoryItem) : MemoryItem :=
  { row with
    active := some 0
    deletedAt := some ctx.now
    updatedAt := ctx.now
    metadataJson := some (toJson ((((fromJson read.metadataJson).set "superseded_at"
      (.str ctx.now)).set "superseded_by" (.num winnerId)).set "clock_device_id"
      (.str ctx.deviceId)))
    rev := some (read.rev.getD 0 + 1) }

/-- The store after a summary is superseded.  A delete op that cannot be recorded is left out. -/
def Store.supersedeSummary (ctx : LocalContext) (winnerId : ℕ) (st : Store) (read : MemoryItem) :
    Store :=
  (recordReplicationOp ctx
    (st.updateMemories (fun row => row.id == read.id) (dedupedRow ctx winnerId read))
    (.plain read.id .delete ctx.deviceId)).1

lemma Store.supersedeSummary_rows (ctx : LocalContext) (winnerId : ℕ) (st : Store)
    (read : MemoryItem) : ∃ stamp, StampsScope stamp ∧
      (st.supersedeSummary ctx winnerId read).memoryItems = st.memoryItems.map fun row =>
        stamp (if row.id == read.id then dedupedRow ctx winnerId read row else row) := by
  obtain ⟨stamp, hstamp, hstore⟩ := recordReplicationOp_store ctx
    (st.updateMemories (fun row => row.id == read.id) (dedupedRow ctx winnerId read))
    (.plain read.id .delete ctx.deviceId)
  refine ⟨stamp, hstamp, ?_⟩
  rw [Store.supersedeSummary, hstore, Store.updateMemories]
  dsimp only
  rw [List.map_map]
  rfl

lemma keepsForm_supersede (ctx : LocalContext) (winnerId : ℕ) (read : MemoryItem)
    {stamp : MemoryItem → MemoryItem} (hstamp : StampsScope stamp) :
    KeepsForm fun row =>
      stamp (if row.id == read.id then dedupedRow ctx winnerId read row else row) where
  id row := by
    obtain ⟨scopeId, hscope⟩ := hstamp (if row.id == read.id then dedupedRow ctx winnerId read row
      else row)
    rw [hscope]
    split_ifs
    · rfl
    · rfl
  sessionId row := by
    obtain ⟨scopeId, hscope⟩ := hstamp (if row.id == read.id then dedupedRow ctx winnerId read row
      else row)
    rw [hscope]
    split_ifs
    · rfl
    · rfl
  metadata row h := by
    obtain ⟨scopeId, hscope⟩ := hstamp (if row.id == read.id then dedupedRow ctx winnerId read row
      else row)
    rw [hscope]
    split_ifs
    · intro text htext
      cases htext
      rfl
    · exact h

lemma MaintainedStore.WellFormed.supersedeSummary {db : MaintainedStore} (h : db.WellFormed)
    (ctx : LocalContext) (winnerId : ℕ) (read : MemoryItem) :
    MaintainedStore.WellFormed
      { db with store := db.store.supersedeSummary ctx winnerId read } := by
  obtain ⟨stamp, hstamp, hrows⟩ := db.store.supersedeSummary_rows ctx winnerId read
  exact h.of_map (keepsForm_supersede ctx winnerId read hstamp) hrows

/-- One round of `applySessionPlan`. -/
def BackfillStore.supersedeSummary (ctx : ℕ → LocalContext) (winnerId : ℕ) (s : BackfillStore)
    (read : MemoryItem) : BackfillStore :=
  { s with
    memories :=
      { s.memories with
        store := s.memories.store.supersedeSummary (ctx read.id) winnerId read }
    wellFormed := s.wellFormed.supersedeSummary (ctx read.id) winnerId read }

/-- `applySessionPlan`; the op of each row draws an id of its own. -/
def BackfillStore.applySessionPlan (ctx : ℕ → LocalContext) (s : BackfillStore)
    (plan : SessionPlan) : BackfillStore :=
  plan.superseded.foldl (fun s read => s.supersedeSummary ctx plan.winnerId read) s

/-! ### A pass -/

/-- What a pass knows once it has read the row of its job. -/
structure SummaryContext where
  batchSize : ℕ
  existingJob : Option (MaintenanceJobRecord SummaryDedupBackfillMetadata)
  existingMetadata : SummaryDedupBackfillMetadata

namespace SummaryContext

variable (ctx : SummaryContext)

/-- `Math.max(1, options.batchSize ?? 50)`. -/
def sessionLimit : ℕ := max 1 ctx.batchSize

def startingFresh : Bool := startsFresh ctx.existingJob

def lastSessionId : ℕ := if ctx.startingFresh then 0 else ctx.existingMetadata.lastSessionId.getD 0

def processedBefore : ℕ :=
  if ctx.startingFresh then 0 else ctx.existingMetadata.processedSessions.getD 0

def supersededBefore : ℕ :=
  if ctx.startingFresh then 0 else ctx.existingMetadata.supersededRows.getD 0

/-- The completion of a job for which no session was planned. -/
def emptyCompletion : JobProgress SummaryDedupBackfillMetadata where
  message :=
    if 0 < ctx.supersededBefore then
      s!"Session-summary dedup complete ({ctx.supersededBefore} rows superseded)"
    else "Session-summary dedup complete"
  progressCurrent := ctx.processedBefore
  progressTotal := ctx.existingMetadata.totalSessions.getD ctx.processedBefore
  metadata := { ctx.existingMetadata with lastSessionId := some ctx.lastSessionId }

def startedJob (initialTotal : ℕ) : MaintenanceJobRecord SummaryDedupBackfillMetadata :=
  startMaintenanceJob
    s!"Cleaning up {initialTotal} sessions with duplicate observer summaries" initialTotal
    { totalSessions := some initialTotal
      processedSessions := some ctx.processedBefore
      supersededRows := some ctx.supersededBefore
      lastSessionId := some ctx.lastSessionId }

end SummaryContext

/-- `recordBatchProgress`: what both of its inputs share. -/
def summaryProgress (message : String)
    (processedAfter totalSessions supersededAfter maxSessionId : ℕ) : JobProgress SummaryDedupBackfillMetadata where
  message := message
  progressCurrent := processedAfter
  progressTotal := totalSessions
  metadata :=
    { totalSessions := some totalSessions
      processedSessions := some processedAfter
      supersededRows := some supersededAfter
      lastSessionId := some maxSessionId }

/-- `recordBatchProgress`. -/
def BackfillStore.recordSummaryProgress (s : BackfillStore)
    (existingMetadata : SummaryDedupBackfillMetadata)
    (processedAfter supersededAfter maxSessionId : ℕ) : PassOutcome × BackfillStore :=
  let remaining := s.memories.store.countPendingSessions
  let total := max (existingMetadata.totalSessions.getD processedAfter)
    (processedAfter + remaining)
  if remaining = 0 then
    let message := s!"Session-summary dedup complete ({supersededAfter} rows superseded across " ++
      s!"{processedAfter} sessions)"
    (.completed, { s with
      summaryJob := completeMaintenanceJob
        (summaryProgress message processedAfter total supersededAfter maxSessionId) s.summaryJob })
  else
    let message := s!"Deduplicated {processedAfter} of {total} sessions " ++
      s!"({supersededAfter} rows superseded)"
    (.processed, { s with
      summaryJob := updateMaintenanceJob
        (summaryProgress message processedAfter total supersededAfter maxSessionId) s.summaryJob })

/-- `runTxn`: the plans are applied and the progress recorded. -/
def BackfillStore.applySummaryBatch (draw : ℕ → LocalContext) (ctx : SummaryContext)
    (plans : List SessionPlan) (s : BackfillStore) : PassOutcome × BackfillStore :=
  (plans.foldl (BackfillStore.applySessionPlan draw) s).recordSummaryProgress ctx.existingMetadata
    (ctx.processedBefore + plans.length)
    (ctx.supersededBefore + (plans.map fun plan => plan.superseded.length).sum)
    ((plans.map SessionPlan.sessionId).foldl max ctx.lastSessionId)

/-- A pass of `runSummaryDedupBackfillPass` before its next statement or transaction. -/
inductive SummaryPass where
  | readJob (batchSize : ℕ)
  | readMetadata (batchSize : ℕ)
      (existingJob : Option (MaintenanceJobRecord SummaryDedupBackfillMetadata))
  | selectSessions (ctx : SummaryContext)
  | planSession (ctx : SummaryContext) (sessionRows : List ℕ) (plans : List SessionPlan)
      (sessionId : ℕ) (rest : List ℕ)
  | readForCompletion (input : JobProgress SummaryDedupBackfillMetadata)
  | complete (existing : MaintenanceJobRecord SummaryDedupBackfillMetadata)
      (input : JobProgress SummaryDedupBackfillMetadata)
  | count (ctx : SummaryContext) (plans : List SessionPlan)
  | startJob (ctx : SummaryContext) (plans : List SessionPlan) (initialTotal : ℕ)
  | applyPlans (ctx : SummaryContext) (plans : List SessionPlan)
  | ended (outcome : PassOutcome)

namespace SummaryPass

def planned (ctx : SummaryContext) (plans : List SessionPlan) : SummaryPass :=
  if plans.isEmpty then
    if isUncompleted ctx.existingJob then .readForCompletion ctx.emptyCompletion
    else .ended .idle
  else if ctx.startingFresh then .count ctx plans
  else .applyPlans ctx plans

/-- The pass while sessions of its batch are still to be planned. -/
def planFrom (ctx : SummaryContext) (sessionRows : List ℕ) (plans : List SessionPlan) :
    List ℕ → SummaryPass
  | [] => planned ctx plans
  | sessionId :: rest => .planSession ctx sessionRows plans sessionId rest

/-- The next statement or transaction of `runSummaryDedupBackfillPass`. -/
def next (draw : ℕ → LocalContext) (s : BackfillStore) : SummaryPass → SummaryPass × BackfillStore
  | .readJob batchSize => (.readMetadata batchSize s.summaryJob, s)
  | .readMetadata batchSize existingJob =>
    (.selectSessions ⟨batchSize, existingJob, summaryMetadata s.summaryJob⟩, s)
  | .selectSessions ctx =>
    let sessionRows := s.memories.store.selectSummarySessions ctx.lastSessionId ctx.sessionLimit
    (planFrom ctx sessionRows [] sessionRows, s)
  | .planSession ctx sessionRows plans sessionId rest =>
    (planFrom ctx sessionRows (plans ++ (s.memories.store.sessionPlan sessionId).toList) rest, s)
  | .readForCompletion input =>
    match s.summaryJob with
    | none => (.ended .idle, s)
    | some existing => (.complete existing input, s)
  | .complete existing input =>
    (.ended .completed,
      { s with summaryJob := s.summaryJob.map fun _ => updatedJob existing (some .completed) input })
  | .count ctx plans => (.startJob ctx plans s.memories.store.countPendingSessions, s)
  | .startJob ctx plans initialTotal =>
    (.applyPlans ctx plans, { s with summaryJob := some (ctx.startedJob initialTotal) })
  | .applyPlans ctx plans =>
    let result := s.applySummaryBatch draw ctx plans
    (.ended result.1, result.2)
  | .ended outcome => (.ended outcome, s)

end SummaryPass

end Codemem

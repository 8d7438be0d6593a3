import Codemem.Store.Duplicates

/-!
# The summaries of the observer

The ingest pipeline persists what the observer made of a session: some observations and at most
one summary.  Before it remembers the summary it supersedes the summaries the observer wrote for
the session earlier (`supersedePriorObserverSummaries`), so that one of them is active at a time.
-/

namespace Codemem

/-! ### Plans -/

/-- `REMEMBER_MEMORY_KINDS`. -/
def rememberMemoryKinds : List String :=
  ["discovery", "change", "feature", "bugfix", "refactor", "decision", "exploration"]

def validateMemoryKind (kind : String) : Except String String :=
  let normalized := toLowerCase (trim kind)
  if normalized ∈ rememberMemoryKinds ++ ["session_summary"] then .ok normalized
  else .error ("Invalid memory kind \"" ++ kind ++ "\". Allowed: " ++
    ", ".intercalate (rememberMemoryKinds ++ ["session_summary"]))

structure PlannedMemory where
  kind : String
  title : String
  bodyText : String
  confidence : ℚ
  metadata : JsonObject

/-- The `source` field of a record of metadata. -/
def JsonObject.source (metadata : JsonObject) : Option String :=
  (metadata.get "source").bind Json.asText

/-- `PersistIngestPlan`, as `buildPlannedMemories` puts it together: the observations that passed
the capture rules, then the summary. -/
structure PersistIngestPlan where
  observations : List PlannedMemory
  summary : Option PlannedMemory
  observation_kind : ∀ memory ∈ observations, memory.kind ∈ rememberMemoryKinds
  observation_source : ∀ memory ∈ observations, memory.metadata.source = some "observer"
  summary_kind : ∀ memory ∈ summary, memory.kind = "session_summary"
  summary_source : ∀ memory ∈ summary, memory.metadata.source = some "observer_summary"

def PersistIngestPlan.memories (plan : PersistIngestPlan) : List PlannedMemory :=
  plan.observations ++ plan.summary.toList

def PersistIngestPlan.summaryIndex (plan : PersistIngestPlan) : Option ℕ :=
  plan.summary.map fun _ => plan.observations.length

/-- What remembering one planned memory draws. -/
structure IngestDraw where
  now : String
  randomImportKey : String
  /-- `allocateLocalCaptureMemorySource`. -/
  allocatedSource : Option String
  /-- `recorded_at` of a recovery, read from the clock. -/
  recoveredAt : String
  /-- The random op id. -/
  randomUUID : String

/-- A call of `persistIngestPlan`: the store object and its surroundings, the session, the plan, and
what the call draws. -/
structure IngestCall where
  ms : MemoryStore
  tools : DedupTools
  sessionId : ℕ
  plan : PersistIngestPlan
  /-- `stage.historicalRecovery.occurredAt`. -/
  historicalRecovery : Option String
  /-- `memoryCreatedAt`: the time of an event as an ISO text, or the error it throws. -/
  memoryCreatedAt : String → String → Except String String
  /-- `assertLocalIdentityCurrent` and `assertSessionScopeWritable` on the metadata. -/
  assertWritable : JsonObject → Except String Unit
  /-- `resolveSessionScopeId` for the session and a workspace. -/
  sessionScopeId : String → String
  foreignDeviceConfigured : Bool
  /-- The draws for the planned memory at an index. -/
  draw : ℕ → IngestDraw

/-! ### Superseding -/

/-- The rows `supersedePriorObserverSummaries` selects. -/
def isPriorObserverSummary (sessionId : ℕ) (row : MemoryItem) : Bool :=
  row.sessionId == sessionId && row.kind == "session_summary" && row.active == some 1 &&
    (fromJson row.metadataJson).source == some "observer_summary"

def MemoryStore.supersededRow (ms : MemoryStore) (existing row : MemoryItem) : MemoryItem :=
  { row with
    active := some 0
    deletedAt := some ms.now
    updatedAt := ms.now
    metadataJson := some (toJson (((fromJson existing.metadataJson).set "superseded_at"
      (.str ms.now)).set "clock_device_id" (.str ms.deviceId)))
    rev := some (existing.rev.getD 0 + 1) }

/-- The tombstone of one prior summary, and its delete op unless logging it fails. -/
def MemoryStore.supersede (ms : MemoryStore) (st : Store) (row : MemoryItem) : Store :=
  (recordReplicationOp ms.toLocalContext
    (st.updateMemories (fun r => r.id == row.id) (ms.supersededRow row))
    (.plain row.id .delete ms.deviceId)).1

/-- `supersedePriorObserverSummaries`: the ids of the superseded rows, and the store. -/
def MemoryStore.supersedePriorObserverSummaries (ms : MemoryStore) (st : Store)
    (sessionId : ℕ) : List ℕ × Store :=
  let rows := st.memoryItems.filter (isPriorObserverSummary sessionId)
  (rows.map MemoryItem.id, rows.foldl ms.supersede st)

/-- The annotation of one superseded row. -/
def markRow (replacementId : ℕ) (st : Store) (id : ℕ) : Store :=
  match st.memoryById id with
  | none => st
  | some row =>
    st.updateMemories (fun r => r.id == id) fun r =>
      { r with metadataJson := some (toJson ((fromJson row.metadataJson).set "superseded_by"
          (.num replacementId))) }

def markSupersededBy (st : Store) (supersededIds : List ℕ) (replacementId : ℕ) : Store :=
  supersededIds.foldl (markRow replacementId) st

/-! ### Persisting -/

def IngestCall.metadata (call : IngestCall) (memory : PlannedMemory) (drawn : IngestDraw) :
    JsonObject :=
  if call.historicalRecovery.isSome then
    [("visibility", .str "private"), ("workspace_kind", .str "personal"),
      ("workspace_id", .str ("personal:" ++ call.ms.actorId)), ("actor_id", .str call.ms.actorId),
      ("recovered_at", .str drawn.recoveredAt)].foldl (fun o e => JsonObject.set o e.1 e.2)
      memory.metadata
  else memory.metadata

/-- The store object while the planned memory is remembered. -/
def IngestCall.writer (call : IngestCall) (drawn : IngestDraw) : MemoryStore :=
  { call.ms with now := drawn.now, randomUUID := drawn.randomUUID }

/-- The arguments of `remember`, with the kind already checked. -/
def IngestCall.rememberInput (call : IngestCall) (memory : PlannedMemory) (drawn : IngestDraw)
    (kind : String) (createdAt : Option String) : RememberInput :=
  let input : RememberInput :=
    { sessionId := call.sessionId
      kind := kind
      title := memory.title
      bodyText := memory.bodyText
      confidence := memory.confidence
      metadata := some (call.metadata memory drawn)
      createdAt := createdAt
      replicate := call.historicalRecovery.isNone
      existingDuplicate := none
      sessionScopeId := ""
      foreignDeviceConfigured := call.foreignDeviceConfigured
      allocatedSource := drawn.allocatedSource
      randomImportKey := drawn.randomImportKey }
  let workspaceId := (call.ms.resolveProvenance (call.ms.newMemoryMetadata input)).workspaceId
  { input with sessionScopeId := call.sessionScopeId workspaceId }

/-- `rememberForUser`: the id of the memory that holds the content, and the store. -/
def IngestCall.rememberForUser (call : IngestCall) (ds : DedupStore) (memory : PlannedMemory)
    (drawn : IngestDraw) : Except String (ℕ × DedupStore) := do
  let kind ← validateMemoryKind memory.kind
  let _ ← call.assertWritable (call.metadata memory drawn)
  let createdAt ← call.historicalRecovery.mapM fun occurredAt =>
    call.memoryCreatedAt occurredAt drawn.now
  (call.writer drawn).rememberOnce call.tools ds
    (call.rememberInput memory drawn kind createdAt)

/-- Remembering the planned summary, which supersedes the earlier ones. -/
def IngestCall.persistSummary (call : IngestCall) (ds : DedupStore) (memory : PlannedMemory)
    (drawn : IngestDraw) : Except String DedupStore := do
  let superseded := call.ms.supersedePriorObserverSummaries ds.store call.sessionId
  let (id, ds1) ← call.rememberForUser { ds with store := superseded.2 } memory drawn
  pure { ds1 with store := markSupersededBy ds1.store superseded.1 id }

/-- One turn of the loop over the planned memories. -/
def IngestCall.persistMemory (call : IngestCall) (ds : DedupStore)
    (entry : PlannedMemory × ℕ) : Except String DedupStore :=
  if some entry.2 = call.plan.summaryIndex then
    call.persistSummary ds entry.1 (call.draw entry.2)
  else (call.rememberForUser ds entry.1 (call.draw entry.2)).map Prod.snd

/-- `persistIngestPlan`, in its transaction. -/
def IngestCall.run (call : IngestCall) (ds : DedupStore) : Except String DedupStore := do
  let _ ← call.assertWritable []
  call.plan.memories.zipIdx.foldlM call.persistMemory ds

/-- The store after a call: an error rolls everything back. -/
def DedupStore.persist (ds : DedupStore) (call : IngestCall) : DedupStore :=
  match call.run ds with
  | .ok ds' => ds'
  | .error _ => ds

/-! ### The rows of the steps -/

section Rows

variable {ms : MemoryStore} {ds ds' : DedupStore} {st st' : Store} {call : IngestCall}
  {memory : PlannedMemory} {drawn : IngestDraw} {id : ℕ}

lemma recordReplicationOp_rows (ctx : LocalContext) (st : Store) (opts : RecordOptions) :
    ∃ write, StampsScope write ∧ (∀ row, row.id ≠ opts.memoryId → write row = row) ∧
      (recordReplicationOp ctx st opts).1.memoryItems = st.memoryItems.map write := by
  have hstamp : ∃ write, StampsScope write ∧ (∀ row, row.id ≠ opts.memoryId → write row = row) ∧
      (recordedScope ctx st opts).2.memoryItems = st.memoryItems.map write := by
    unfold recordedScope
    cases opts.scopeId with
    | some scopeId => exact ⟨id, fun row => ⟨row.scopeId, rfl⟩, fun _ _ => rfl, by simp⟩
    | none =>
      obtain ⟨write, hwrite, hother, hstore⟩ := ensureMemoryScopeId_store ctx st opts.memoryId
      exact ⟨write, hwrite, hother, by rw [hstore]⟩
  obtain ⟨write, hwrite, hother, hrows⟩ := hstamp
  refine ⟨write, hwrite, hother, ?_⟩
  unfold recordReplicationOp
  generalize recordedScope ctx st opts = stamped at hrows ⊢
  obtain ⟨scopeId, st1⟩ := stamped
  dsimp only at hrows ⊢
  cases hinsert : insertNewOp st1
      (recordedOp ctx st1 opts (st.memoryById opts.memoryId) scopeId) with
  | error message => exact hrows
  | ok st2 =>
    rw [(insertNewOp_eq_ok hinsert).2]
    exact hrows

/-- The row a call of `remember` inserted for a planned memory. -/
structure IngestCall.Inserted (call : IngestCall) (memory : PlannedMemory) (drawn : IngestDraw)
    (row : MemoryItem) : Prop where
  session : row.sessionId = call.sessionId
  kind : validateMemoryKind memory.kind = .ok row.kind
  title : row.title = call.ms.scanner.scan memory.title
  bodyText : row.bodyText = call.ms.scanner.scan memory.bodyText
  active : row.active = some 1
  source : (fromJson row.metadataJson).source =
    (call.ms.scanner.redactValue (call.metadata memory drawn)).source

lemma newMemoryMetadata_source (ms : MemoryStore) (input : RememberInput) :
    (ms.newMemoryMetadata input).source =
      (ms.scanner.redactValue (input.metadata.getD [])).source := by
  unfold MemoryStore.newMemoryMetadata
  dsimp only
  split
  · rfl
  · unfold JsonObject.source
    rw [JsonObject.get_set_of_ne (by decide)]

lemma remember_rows {input : RememberInput} (hdup : input.existingDuplicate = none)
    (h : ms.remember st input = .ok (id, st')) :
    id = st.nextMemoryId ∧ ∃ write, StampsScope write ∧
      (∀ row, row.id ≠ id → write row = row) ∧
      st'.memoryItems = st.memoryItems.map write ++
        [write { ms.rememberedRow (bindAllocatedSource ms st input) input (ms.createdKey input) with
          id := id }] := by
  have hrun : committed st ((ms.remember st input).map Prod.snd) = st' := by
    rw [h]
    rfl
  have hid : id = st.nextMemoryId := by
    unfold MemoryStore.remember at h
    rw [hdup] at h
    dsimp only at h
    split_ifs at h
    cases h
    simp only [Store.nextMemoryId, bindAllocatedSource_memoryItems]
  have hcreates : ms.creates input = true := by
    unfold MemoryStore.remember at h
    rw [hdup] at h
    dsimp only at h
    split_ifs at h with hallowed
    simp only [MemoryStore.creates, hdup, Option.isNone_none, Bool.true_and]
    simpa using hallowed
  rw [remember_eq_of_creates hcreates] at hrun
  have hinserted := (@insertedMemory_store ms st input).2
  refine ⟨hid, ?_⟩
  subst hid
  split_ifs at hrun with hreplicate
  · obtain ⟨write, hwrite, hother, hrows⟩ := recordReplicationOp_rows ms.toLocalContext
      (ms.insertedMemory st input) (.plain st.nextMemoryId .upsert ms.deviceId)
    rw [hrun, hinserted, List.map_append] at hrows
    exact ⟨write, hwrite, hother, hrows⟩
  · rw [← hrun, hinserted]
    exact ⟨fun row => row, fun row => ⟨row.scopeId, rfl⟩, fun _ _ => rfl, by simp⟩

end Rows

/-! ### Sessions and their summaries -/

/-- The active memories of a session that carry the source of the observer's summaries. -/
def Store.observerSummaries (st : Store) (sessionId : ℕ) : List MemoryItem :=
  st.memoryItems.filter fun row =>
    row.sessionId == sessionId && row.active == some 1 &&
      (fromJson row.metadataJson).source == some "observer_summary"

end Codemem

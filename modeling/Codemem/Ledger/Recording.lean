import Codemem.Ledger.Attempts

/-!
# The retrieval ledger

Recording an attempt inserts its row and the rows of its exposures.  Where the attempt is there
already, nothing is written, and the record is refused unless it agrees with what is stored in all
columns but those that a delivery, a reconciled completion, a finalized retention or the deletion of
a memory may change.
-/

namespace Codemem

structure LedgerMemory where
  id : ℚ
  active : ℚ
  deletedAt : Option String
  importKey : Option String
  originDeviceId : Option String
  rev : ℚ
  updatedAt : String
  scopeId : Option String
  kind : String

/-- The tables of the ledger, and those it refers to. -/
structure LedgerDb where
  attempts : List SqlRow
  exposures : List SqlRow
  nextExposureId : ℕ
  sessions : List ℚ
  memories : List LedgerMemory

/-- The exposures of a ledger belong to its attempts: the column refers to the table. -/
structure RetrievalLedger extends LedgerDb where
  owned : ∀ exposure ∈ exposures, ∃ attempt ∈ attempts,
    (attempt.get "attempt_id").same (exposure.get "attempt_id") = true

namespace LedgerDb

/-- `SELECT * FROM retrieval_attempts WHERE attempt_id = ?`. -/
def attempt? (db : LedgerDb) (id : SqlValue) : Option SqlRow :=
  db.attempts.find? fun row => (row.get "attempt_id").same id

/-- `SELECT * FROM retrieval_exposures WHERE attempt_id = ? ORDER BY rank`. -/
def exposuresOf (db : LedgerDb) (id : SqlValue) : List SqlRow :=
  orderByRank (db.exposures.filter fun row => (row.get "attempt_id").same id)

/-- `insertRow(db, "retrieval_attempts", row)`. -/
def insertAttempt (db : LedgerDb) (row : SqlRow) : Except String LedgerDb := do
  rejectIf ((row.get "session_id").asNumber.any (· ∉ db.sessions) = true)
    "FOREIGN KEY constraint failed"
  .ok { db with attempts := db.attempts ++ [row] }

/-- The trigger on exposures keeps the memory: it is there, and is the one that was exposed. -/
def keepsMemory (db : LedgerDb) (dates : LedgerDates) (row : SqlRow) : Bool :=
  let text := fun column => (row.get column).asText
  let number := fun column => (row.get column).asNumber
  let blank := fun column => (text column).all fun value => sqlTrim value == ""
  db.memories.any fun memory =>
    number "memory_id" == some memory.id && memory.active != 0 && memory.deletedAt.isNone &&
      (!blank "memory_import_key" && text "memory_import_key" == memory.importKey &&
          (blank "origin_device_id" || text "origin_device_id" == memory.originDeviceId) ||
        blank "memory_import_key" && number "memory_rev" == some memory.rev &&
          ((text "memory_updated_at").bind dates.julianday).isSome &&
          (text "memory_updated_at").bind dates.julianday == dates.julianday memory.updatedAt &&
          text "memory_scope_id" == memory.scopeId && text "memory_kind" == some memory.kind &&
          number "memory_active" == some memory.active &&
          text "memory_deleted_at" == memory.deletedAt)

/-- `insertRow(db, "retrieval_exposures", row)`, and the trigger on exposures. -/
def insertExposure (dates : LedgerDates) (db : LedgerDb) (row : SqlRow) : Except String LedgerDb := do
  rejectIf (db.exposures.any (fun other =>
    (other.get "attempt_id").same (row.get "attempt_id") &&
      (other.get "rank").same (row.get "rank")) = true)
    "UNIQUE constraint failed: retrieval_exposures.attempt_id, retrieval_exposures.rank"
  let kept := if db.keepsMemory dates row then row else row.set "memory_id" .null
  .ok { db with
    exposures := db.exposures ++ [("exposure_id", .number db.nextExposureId) :: kept]
    nextExposureId := db.nextExposureId + 1 }

end LedgerDb

/-! ### Retries -/

def rowsEqual (expected actual : SqlRow) (ignoredKeys : List String) : Bool :=
  expected.all fun entry => ignoredKeys.contains entry.1 || (actual.get entry.1).same entry.2

def hasSameRetryRetentionPolicy (dates : LedgerDates) (expected existing : SqlRow) : Bool :=
  (expected.get "retention_pinned").same (existing.get "retention_pinned") &&
    (expected.get "retention_finalized_at").same (existing.get "retention_finalized_at") &&
    match expected.get "retention_until", existing.get "retention_until" with
    | .null, .null => true
    | .text stop, .text stop' =>
      match dates.parse stop, (expected.get "started_at").asText.bind dates.parse,
        dates.parse stop', (existing.get "started_at").asText.bind dates.parse with
      | some stop, some start, some stop', some start' => stop - start == stop' - start'
      | _, _, _, _ => false
    | _, _ => false

def memoryIdentityMatchesExposure (exposure : SqlRow) (memory : LedgerMemory) : Bool :=
  let filled := fun value : Option String => value.any fun text => trim text != ""
  let importKey := (exposure.get "memory_import_key").asText
  let originDeviceId := (exposure.get "origin_device_id").asText
  filled importKey && importKey == memory.importKey &&
    (!filled originDeviceId || originDeviceId == memory.originDeviceId)

def isAllowedDeliveryTransition (previous next : String) : Bool :=
  match previous with
  | "not_attempted" => ["handed_off", "failed", "unknown"].contains next
  | "failed" => ["handed_off", "unknown"].contains next
  | "unknown" => ["handed_off", "failed"].contains next
  | _ => false

def exposureRowsEqualAfterMemoryDeletion (db : LedgerDb) (expected actual : SqlRow)
    (ignoredKeys : List String) : Bool :=
  rowsEqual expected actual ignoredKeys ||
    ((actual.get "memory_id").same .null && (expected.get "memory_id").asNumber.isSome &&
      rowsEqual expected actual (ignoredKeys ++ ["memory_id"]) &&
      match db.memories.find? fun memory =>
          some memory.id == (expected.get "memory_id").asNumber with
      | none => true
      | some memory => memory.active == 0 || memory.deletedAt.isSome ||
          ((expected.get "memory_import_key").asText.any fun key => trim key != "") &&
            !memoryIdentityMatchesExposure expected memory)

def decodeIsoTimestamp (dates : LedgerDates) (value : SqlValue) : Option String :=
  value.asText.filter fun text =>
    match isoTimestamp dates (some text) "persisted timestamp" with
    | .ok (some normalized) => normalized == text
    | _ => false

/-- The delivery of an attempt went on after it was recorded. -/
def deliveryTransitioned (attempt existing : SqlRow) : Bool :=
  isAllowedDeliveryTransition ((attempt.get "delivery_status").asText.getD "")
    ((existing.get "delivery_status").asText.getD "")

def ignoredAttemptKeys (dates : LedgerDates) (attempt existing : SqlRow) : List String :=
  let same := fun column => (existing.get column).same (attempt.get column)
  let holds := fun (row : SqlRow) column value => (row.get column).same (.text value)
  let retentionFinalized := (attempt.get "retention_pinned").same (.number 1) &&
    (existing.get "retention_pinned").same (.number 0) &&
    (existing.get "retention_until").asText.isSome &&
    (decodeIsoTimestamp dates (existing.get "retention_finalized_at")).isSome
  let reconciledCompletionRetry := !(existing.get "request_id").same .null && same "request_id" &&
    same "retrieval_status" && same "delivery_status" &&
    (holds attempt "retrieval_status" "succeeded" && holds attempt "delivery_status" "handed_off" ||
      holds attempt "retrieval_status" "no_results" &&
        holds attempt "delivery_status" "not_attempted")
  (if deliveryTransitioned attempt existing then ["delivery_status"] else []) ++
    (if reconciledCompletionRetry then ["started_at", "completed_at", "latency_ms"] else []) ++
    (if reconciledCompletionRetry && hasSameRetryRetentionPolicy dates attempt existing then
      ["retention_until"] else []) ++
    (if retentionFinalized then ["retention_pinned", "retention_until", "retention_finalized_at"]
      else [])

/-- The columns of an exposure in which a retry may differ. -/
def ignoredExposureKeys (attempt existing row : SqlRow) : List String :=
  if deliveryTransitioned attempt existing && (row.get "disposition").same (.text "selected") then
    ["exposure_id", "handoff_status"] else ["exposure_id"]

/-- What is stored of an attempt agrees with a record of it. -/
def checkRetry (dates : LedgerDates) (db : LedgerDb) (attempt existing : SqlRow)
    (exposures existingExposures : List SqlRow) : Except String Unit := do
  let selectedCount := (existing.get "selected_count").asNumber.getD 0
  let deliveryStatus := (existing.get "delivery_status").asText.getD ""
  assertFailedRetrievalInvariant ((existing.get "retrieval_status").asText.getD "") deliveryStatus
    selectedCount existingExposures.length
  assertDeliverySelectionInvariant deliveryStatus selectedCount
  rejectIf (rowsEqual attempt existing (ignoredAttemptKeys dates attempt existing) = false ∨
    existingExposures.length ≠ exposures.length ∨
    (exposures.zip existingExposures).all (fun pair => exposureRowsEqualAfterMemoryDeletion db
      pair.1 pair.2 (ignoredExposureKeys attempt existing pair.1)) = false)
    "retrieval attempt retry conflicts with persisted data"

/-! ### Records and reads -/

/-- `RetrievalExposureRecord`: what is decoded of a row, and its columns. -/
structure RetrievalExposureRecord where
  columns : SqlRow
  memoryActive : Option Bool
  scoreSummary : Option Json
  reasonCodes : Option (List String)

/-- `RetrievalAttemptRecord`: what is decoded of a row, and its columns. -/
structure RetrievalAttemptRecord where
  columns : SqlRow
  evaluationCheckoutId : Option String
  evaluationFixtureId : Option String
  evaluationSeed : Option ℚ
  workingSetFiles : Option (List String)
  filterSummary : Option Json
  retentionPinned : Bool
  retentionFinalizedAt : Option String
  exposures : List RetrievalExposureRecord

def decodeEvaluationReplayMetadata (row : SqlRow) :
    Option (Option String × Option String × Option ℚ) := do
  let checkout ← (optionalStableId (row.get "evaluation_checkout_id").asText
    "persisted evaluationCheckoutId").toOption
  let fixture ← (optionalStableId (row.get "evaluation_fixture_id").asText
    "persisted evaluationFixtureId").toOption
  let seed ← (nonNegativeInteger (row.get "evaluation_seed").asNumber "evaluationSeed").toOption
  let bounded := fun column => (row.get column).asText.any fun text =>
    (requiredString text "" 128).isOk
  guard (if (row.get "surface").same (.text "evaluation_replay") = true then
    (row.get "trigger").same (.text "evaluation") = true ∧ bounded "experiment_id" = true ∧
      bounded "experiment_cell_id" = true ∧ checkout.isNone ≠ fixture.isNone ∧ seed.isSome = true
    else checkout.isNone = true ∧ fixture.isNone = true ∧ seed.isNone = true)
  some (checkout, fixture, seed)

def readExposure (byteLength : ByteLength) (row : SqlRow) : RetrievalExposureRecord where
  columns := row
  memoryActive := match (row.get "memory_active").asNumber with
    | some 0 => some false
    | some 1 => some true
    | _ => none
  scoreSummary := decodeScoreSummary byteLength (row.get "score_summary_json").asJson
  reasonCodes := decodeReasonCodes byteLength (row.get "reason_codes_json").asJson

def attemptRecord (byteLength : ByteLength) (dates : LedgerDates) (row : SqlRow)
    (metadata : Option String × Option String × Option ℚ) (exposures : List SqlRow) :
    RetrievalAttemptRecord where
  columns := row
  evaluationCheckoutId := metadata.1
  evaluationFixtureId := metadata.2.1
  evaluationSeed := metadata.2.2
  workingSetFiles := decodeWorkingSetFiles byteLength (row.get "working_set_files_json").asJson
  filterSummary := decodeFilterSummary byteLength (row.get "filter_summary_json").asJson
  retentionPinned := (row.get "retention_pinned").same (.number 1)
  retentionFinalizedAt := decodeIsoTimestamp dates (row.get "retention_finalized_at")
  exposures := exposures.map (readExposure byteLength)

def readAttempt (byteLength : ByteLength) (dates : LedgerDates) (db : LedgerDb) (id : SqlValue) :
    Option RetrievalAttemptRecord :=
  match db.attempt? id with
  | none => none
  | some row =>
    if (row.get "contract_version").same (.number 1) = true then
      (decodeEvaluationReplayMetadata row).map fun metadata =>
        attemptRecord byteLength dates row metadata (db.exposuresOf id)
    else none

def getRetrievalAttempt (byteLength : ByteLength) (dates : LedgerDates) (db : LedgerDb)
    (attemptId : String) : Except String (Option RetrievalAttemptRecord) :=
  (validateUuid attemptId "attemptId").map fun id => readAttempt byteLength dates db (.text id)

/-- The request of an attempt is known under another attempt. -/
def isRequestTaken (db : LedgerDb) (attempt : SqlRow) : Bool :=
  let same := fun (row : SqlRow) column => (row.get column).same (attempt.get column)
  !(attempt.get "request_id").same .null &&
    ((db.attempts.find? fun row => same row "source" && same row "surface" &&
      same row "request_id").any fun row => !same row "attempt_id")

/-- The transaction of a record: the tables after it, and whether it inserted the attempt. -/
def writeAttempt (dates : LedgerDates) (db : LedgerDb) (attempt : SqlRow)
    (exposures : List SqlRow) : Except String (LedgerDb × Bool) := do
  rejectIf (isRequestTaken db attempt = true)
    "request identity is already associated with another retrieval attempt"
  match db.attempt? (attempt.get "attempt_id") with
  | some existing =>
    checkRetry dates db attempt existing exposures (db.exposuresOf (attempt.get "attempt_id"))
    .ok (db, false)
  | none =>
    let db ← db.insertAttempt attempt
    let db ← exposures.foldlM (LedgerDb.insertExposure dates) db
    .ok (db, true)

/-- `recordRetrievalAttempt(db, input)`, with the tables after it. -/
def recordRetrievalAttempt (byteLength : ByteLength) (dates : LedgerDates) (db : LedgerDb)
    (input : RecordRetrievalAttemptInput) :
    Except String (LedgerDb × RetrievalAttemptRecord × Bool) := do
  let attempt ← canonicalAttempt byteLength dates input
  let exposures ← canonicalExposures byteLength dates input (attempt.get "attempt_id")
  let written ← writeAttempt dates db attempt exposures
  match readAttempt byteLength dates written.1 (attempt.get "attempt_id") with
  | none => .error "retrieval attempt was not persisted"
  | some saved => .ok (written.1, saved, written.2)

end Codemem

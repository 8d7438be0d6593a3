import Codemem.Replication.SnapshotPage
import Codemem.Replication.StaleRows
import Codemem.Store.Mutation

/-!
# Recovery of memories as local copies

A preview shows the memories that a request names, with a digest of what it read.  A commit makes
one local copy of each, under an operation id, when the digest is still that of the store.  The
constants of a preview, the snapshot of a local creation and the vectors of a copy are left out.
-/

namespace Codemem

structure RecoveredCopy where
  originalMemoryId : ℕ
  recoveredMemoryId : ℕ
  recoveredIdentity : String

structure RecoveryResult where
  operationId : String
  idempotent : Bool
  copies : List RecoveredCopy

/-- A row of `memory_ownership_recoveries`. -/
structure RecoveryReceipt where
  operationId : String
  actorId : String
  deviceId : String
  requestIds : List ℕ
  reviewedDigest : String
  result : RecoveryResult

/-- `evidence`: what a preview shows of a row beside its columns. -/
structure RecoveryEvidence where
  memoryId : ℕ
  verifiedSourceDeviceId : Option String
  recoveredVisibility : Option String

/-- The store and the table of recoveries. -/
structure RecoveryDb where
  store : Store
  receipts : List RecoveryReceipt

/-- The body of a request; an entry of `memoryIds` that is no number is `none`. -/
structure RecoveryBody where
  version : Option ℚ
  memoryIds : Option (List (Option ℚ))
  operationId : Option String
  reviewedDigest : Option String
  acknowledgeOriginalsRetained : Bool

/-- The store object of a call, and what it draws: the entity id that
`allocateLocalCaptureMemorySource` binds for the copy of each memory. -/
structure RecoveryContext extends MemoryStore where
  syncDeviceId : Option String
  hasCurrentConfiguredIdentity : Bool
  allocate : ℕ → Option String
  /-- `scanner.redactValue(content)` of a row. -/
  redactRow : MemoryItem → MemoryItem
  /-- The SHA-256 of the request, the rows, their evidence, the actor and the device. -/
  digest : List ℕ → List MemoryItem → List RecoveryEvidence → String → String → String

/-! ### Requests -/

/-- A memory id: `Number.isSafeInteger(id) && id > 0`. -/
def recoveryMemoryId : Option ℚ → Except String ℕ
  | none => .error "ownership_request_invalid"
  | some id => do
    rejectIf (id.den ≠ 1 ∨ id ≤ 0 ∨ 9007199254740991 < id) "ownership_request_invalid"
    .ok id.num.toNat

/-- `request(value)`: the distinct memory ids in their order. -/
def recoveryRequest (body : RecoveryBody) : Except String (List ℕ) := do
  rejectIf (body.version ≠ some 1 ∨
    body.memoryIds.all (fun ids => ids.isEmpty || decide (100 < ids.length)) = true)
    "ownership_request_invalid"
  let ids ← (body.memoryIds.getD []).mapM recoveryMemoryId
  .ok (ids.dedup.insertionSort (· ≤ ·))

/-- `/^[a-zA-Z0-9_-]{16,128}$/u`. -/
def isOperationId (text : String) : Bool :=
  decide (16 ≤ text.toList.length ∧ text.toList.length ≤ 128) &&
    text.toList.all fun c => c.isAlphanum || c == '_' || c == '-'

/-- `/^ownership-recovery-v1:[0-9a-f]{64}$/u`. -/
def isReviewedDigest (text : String) : Bool :=
  let digits := text.toList.drop 22
  hasPrefix "ownership-recovery-v1:" text && decide (digits.length = 64) &&
    digits.all fun c => c.isDigit || ('a' ≤ c && c ≤ 'f')

/-- `commitRequest(value)`: the ids, the operation id and the reviewed digest. -/
def commitRequest (body : RecoveryBody) : Except String (List ℕ × String × String) := do
  let ids ← recoveryRequest body
  match body.operationId, body.reviewedDigest with
  | some operationId, some reviewedDigest =>
    rejectIf (isOperationId operationId = false ∨ isReviewedDigest reviewedDigest = false ∨
      body.acknowledgeOriginalsRetained = false) "ownership_confirmation_required"
    .ok (ids, operationId, reviewedDigest)
  | _, _ => .error "ownership_confirmation_required"

/-! ### Previews -/

def privacySignals (rt : Runtime) (row : MemoryItem) : List String :=
  match (row.metadataJson.map JsonText.parse).getD (some (.obj [])) with
  | some (.obj metadata) =>
    [row.visibility, row.workspaceKind, row.workspaceId, row.scopeId].map
        (fun column => lowerText rt (column.map Json.str)) ++
      ["visibility", "workspace_kind", "workspace_id", "scope_id"].map
        fun key => lowerText rt (JsonObject.get metadata key)
  | _ => ["unknown"]

def saysPrivate (rt : Runtime) (row : MemoryItem) : Bool :=
  (privacySignals rt row).any fun value => hasPrefix "private" value || hasPrefix "personal" value

def recoveredVisibility (rt : Runtime) (row : MemoryItem) : Option String :=
  if saysPrivate rt row then some "private" else row.visibility

/-- The `WHERE` clause of `readableRows`: a requested live row that the store object finds. -/
def isReadable (ctx : RecoveryContext) (st : Store) (ids : List ℕ) (row : MemoryItem) : Bool :=
  ids.contains row.id && row.active == some 1 && row.deletedAt.isNone && ctx.finds st row.id

/-- `readableRows(store, input)`: the rows in the order of their ids, each with a project. -/
def readableRows (ctx : RecoveryContext) (st : Store) (ids : List ℕ) :
    Except String (List MemoryItem) := do
  let rows := (st.memoryItems.filter (isReadable ctx st ids)).insertionSort fun row row' =>
    row.id ≤ row'.id
  rejectIf (rows.length ≠ ids.length) "ownership_records_unavailable"
  .ok (rows.map fun row =>
    { row with project := row.project.or (sessionProject st row.sessionId) })

def assertRecoverable (ctx : RecoveryContext) (rows : List MemoryItem) : Except String Unit := do
  rejectIf (ctx.syncDeviceId ≠ some ctx.deviceId ∨ ctx.hasCurrentConfiguredIdentity = false)
    "ownership_identity_changed"
  rejectIf (ctx.needsAttention = true) "ownership_sync_reset_pending"
  rows.forM fun row => do
    rejectIf ("unknown" ∈ privacySignals ctx.runtime row) "ownership_privacy_evidence_invalid"
    rejectIf (saysPrivate ctx.runtime row = true ∧
      (row.actorId ≠ some ctx.actorId ∨ ctx.memoryOwnedBySelf row = false))
      "ownership_private_record_not_owned"

/-- `evidence(store, row)`. -/
def recoveryEvidence (ctx : RecoveryContext) (st : Store) (row : MemoryItem) : RecoveryEvidence where
  memoryId := row.id
  verifiedSourceDeviceId := ((row.importKey.filter fun key => !key.toList.isEmpty).bind
    (getVerifiedMemorySource st)).map MemorySourceBinding.sourceDeviceId
  recoveredVisibility := recoveredVisibility ctx.runtime row

/-- `previewState(store, input)`: the rows and the digest of the preview. -/
def previewState (ctx : RecoveryContext) (st : Store) (ids : List ℕ) :
    Except String (List MemoryItem × String) := do
  let rows ← readableRows ctx st ids
  assertRecoverable ctx rows
  .ok (rows, "ownership-recovery-v1:" ++
    ctx.digest ids rows (rows.map (recoveryEvidence ctx st)) ctx.actorId ctx.deviceId)

def previewMemoryOwnershipRecovery (ctx : RecoveryContext) (db : RecoveryDb) (body : RecoveryBody) :
    Except String (List MemoryItem × String) := do
  let ids ← recoveryRequest body
  previewState ctx db.store ids

/-! ### Commits -/

def refValues (value : Option JsonText) : Option (List String) :=
  match value.bind JsonText.parse with
  | some (.arr items) => some (items.filterMap Json.asText)
  | _ => none

def recoveredMetadata (ctx : RecoveryContext) (original : MemoryItem)
    (operationId entityId : String) : JsonObject :=
  let text := fun value : Option String => value.elim Json.null Json.str
  [("import_key", .str entityId), ("actor_id", .str ctx.actorId),
    ("origin_device_id", .str ctx.deviceId), ("clock_device_id", .str ctx.deviceId),
    ("visibility", text (recoveredVisibility ctx.runtime original)),
    ("workspace_id", text original.workspaceId), ("workspace_kind", text original.workspaceKind),
    ("scope_id", .str defaultSyncScopeId), ("recovered_copy", .bool true),
    ("recovery", .obj [
      ("original_metadata", ((original.metadataJson.bind JsonText.parse).getD (.obj []))),
      ("operation_id", .str operationId), ("original_memory_id", .num original.id),
      ("original_import_key", text original.importKey),
      ("reported_original_source", text original.originDeviceId),
      ("original_retained", .bool true), ("source_verification", .str "not_asserted")])]

def recoveredRow (ctx : RecoveryContext) (sessionId : ℕ) (original : MemoryItem)
    (operationId entityId : String) : MemoryItem :=
  let scanned := ctx.redactRow original
  { scanned with
    sessionId := sessionId
    importKey := some entityId
    originDeviceId := some ctx.deviceId
    actorId := some ctx.actorId
    visibility := recoveredVisibility ctx.runtime original
    scopeId := some defaultSyncScopeId
    metadataJson := some (toJson
      (ctx.scanner.redactValue (recoveredMetadata ctx original operationId entityId)))
    rev := some 1
    createdAt := ctx.now
    updatedAt := ctx.now
    content := { scanned.content with
      originSource := some "manual_recovery"
      actorDisplayName := none
      trustState := original.content.trustState
      userPromptId := none
      promptNumber := none } }

/-- `copyRow(store, original, operationId, now)`, after the copies that were made before it. -/
def copyRow (ctx : RecoveryContext) (operationId : String) (made : Store × List RecoveredCopy)
    (original : MemoryItem) : Except String (Store × List RecoveredCopy) :=
  match ctx.allocate original.id with
  | none => .error "ownership_identity_changed"
  | some entityId =>
    let scanned := ctx.redactRow original
    let binding : MemorySourceBinding := ⟨entityId, ctx.deviceId, .localCreation⟩
    let bound : Store :=
      { made.1 with memorySourceBindings := made.1.memorySourceBindings ++ [binding] }
    let (sessionId, st) := bound.insertSession none scanned.project
    let memoryId := st.nextMemoryId
    .ok (populateMemoryRefs ctx.runtime
        (st.insertMemory (recoveredRow ctx sessionId original operationId entityId)) memoryId
        (refValues scanned.content.filesRead) (refValues scanned.content.filesModified)
        (refValues scanned.content.concepts),
      made.2 ++ [⟨original.id, memoryId, entityId⟩])

/-- A receipt is of another request. -/
def RecoveryReceipt.conflicts (receipt : RecoveryReceipt) (ctx : RecoveryContext) (ids : List ℕ)
    (reviewedDigest : String) : Prop :=
  receipt.actorId ≠ ctx.actorId ∨ receipt.deviceId ≠ ctx.deviceId ∨ receipt.requestIds ≠ ids ∨
    receipt.reviewedDigest ≠ reviewedDigest

instance (receipt : RecoveryReceipt) (ctx : RecoveryContext) (ids : List ℕ)
    (reviewedDigest : String) : Decidable (receipt.conflicts ctx ids reviewedDigest) :=
  inferInstanceAs (Decidable (_ ∨ _ ∨ _ ∨ _))

/-- `commitMemoryOwnershipRecovery(store, value)`: the tables after it, and its result. -/
def commitMemoryOwnershipRecovery (ctx : RecoveryContext) (db : RecoveryDb) (body : RecoveryBody) :
    Except String (RecoveryDb × RecoveryResult) := do
  let (ids, operationId, reviewedDigest) ← commitRequest body
  match db.receipts.find? fun receipt => receipt.operationId == operationId with
  | some receipt =>
    rejectIf (receipt.conflicts ctx ids reviewedDigest) "ownership_recovery_operation_conflict"
    let _ ← previewState ctx db.store ids
    .ok (db, { receipt.result with idempotent := true })
  | none =>
    let current ← previewState ctx db.store ids
    rejectIf (current.2 ≠ reviewedDigest) "ownership_preview_stale"
    let made ← current.1.foldlM (copyRow ctx operationId) (db.store, [])
    let result : RecoveryResult := ⟨operationId, false, made.2⟩
    .ok (⟨made.1, db.receipts ++
      [⟨operationId, ctx.actorId, ctx.deviceId, ids, reviewedDigest, result⟩]⟩, result)

end Codemem

import Codemem.Foundation.OrderedPage
import Codemem.Replication.ResetState
import Codemem.Replication.Retirement

/-!
# Reading the log

The log is read in pages ordered by `(created_at, op_id)`, from a cursor that names a position as
the text `created_at|op_id`.  Peers read one scope and the ops of the serving device; the push
path reads all ops of the device.
-/

namespace Codemem

/-- The position of an op in the log, in the order of SQLite. -/
def ReplicationOp.position (op : ReplicationOp) : String ×ₗ String :=
  toLex (op.createdAt, op.opId)

def ReplicationOp.cursor (op : ReplicationOp) : String := computeCursor op.createdAt op.opId

/-- The position a cursor text names. -/
def cursorPosition (cursor : String) : Option (String ×ₗ String) :=
  (parseCursor cursor).map toLex

/-- The scope filter: the log of the default scope includes the ops without a scope. -/
def inScopeLog (scopeId : String) (op : ReplicationOp) : Bool :=
  if scopeId = defaultSyncScopeId then op.scopeId.isNone || op.scopeId == some defaultSyncScopeId
  else op.scopeId == some scopeId

def ReplicationOp.logScope (op : ReplicationOp) : String := op.scopeId.getD defaultSyncScopeId

lemma inScopeLog_iff {scopeId : String} {op : ReplicationOp} :
    inScopeLog scopeId op = true ↔ op.logScope = scopeId := by
  unfold inScopeLog ReplicationOp.logScope
  cases op.scopeId with
  | none => by_cases h : scopeId = defaultSyncScopeId <;> simp [h, eq_comm]
  | some s =>
    by_cases h : scopeId = defaultSyncScopeId
    · simp [h]
    · simp [h]

/-- The device filter of an author stream, with the legacy device `local`. -/
def fromDevice (deviceId : Option String) (op : ReplicationOp) : Bool :=
  deviceId.all fun d =>
    d.toList.isEmpty || (op.deviceId == d && op.clockDeviceId == d) || op.deviceId == "local"

/-- The cursor filter: an empty cursor, or one without a bar, filters nothing. -/
def startPosition (cursor : Option String) : Option (String ×ₗ String) :=
  cursor.bind cursorPosition

/-- `loadReplicationOpsSince`: a missing scope filters nothing, an inner `none` is the default
scope. -/
def loadReplicationOpsSince (st : Store) (cursor : Option String) (limit : ℕ)
    (deviceId : Option String) (scopeId : Option (Option String)) :
    List ReplicationOp × Option String :=
  let rows := page ReplicationOp.position limit
    (entriesAbove ReplicationOp.position (startPosition cursor)
      (st.replicationOps.filter fun op => fromDevice deviceId op &&
        scopeId.all fun s => inScopeLog (normalizeSyncStateScopeId s) op))
  (rows, rows.getLast?.map ReplicationOp.cursor)

/-- The position from which `loadLocalOpsSince` reads: a cursor without a bar is a time stamp. -/
def localStartPosition (cursor : Option String) : Option (String ×ₗ String) :=
  match cursor with
  | none => none
  | some c => if c.toList.isEmpty then none else some ((cursorPosition c).getD (toLex (c, "")))

/-- `loadLocalOpsSince` of the push path. -/
def loadLocalOpsSince (st : Store) (cursor : Option String) (deviceId : String) (limit : ℕ) :
    List ReplicationOp × Option String :=
  let rows := page ReplicationOp.position limit
    (entriesAbove ReplicationOp.position (localStartPosition cursor)
      (st.replicationOps.filter fun op => op.deviceId == deviceId))
  (rows, rows.getLast?.map ReplicationOp.cursor)

def cursorAdvances (current candidate : Option String) : Bool :=
  match candidate with
  | none => false
  | some c =>
    if '|' ∉ c.toList then false
    else match current with
      | none => true
      | some s => s.toList.isEmpty || decide (jsLt s c)

/-! ### The route for peers -/

/-- The options of `loadReplicationOpsForPeer`; `scopeId` as for `loadReplicationOpsSince`. -/
structure PeerRequest where
  since : Option String
  limit : ℕ
  deviceId : Option String
  scopeId : Option (Option String)
  generation : Option ℤ
  snapshotId : Option String
  baselineCursor : Option String

/-- The reasons `loadReplicationOpsForPeer` gives for a reset. -/
inductive ResetReason where
  | generationMismatch
  | boundaryMismatch
  | staleCursor
  deriving DecidableEq, Repr

/-- `LoadReplicationOpsForPeerResult`. -/
inductive PeerResponse where
  | resetRequired (boundary : SyncResetBoundary) (reason : ResetReason)
  | ops (boundary : SyncResetBoundary) (ops : List ReplicationOp) (nextCursor : Option String)

/-- `peerBoundaryOps`: retired memories and the default scope do not leave the device. -/
def crossesPeerBoundary (st : Store) (op : ReplicationOp) : Bool :=
  if op.entityType ≠ .memoryItem then true
  else if retirementBlocksMemoryOp st op then false
  else if op.opType = .accessCleanup ∨ op.opType = .reassignScope then true
  else (cleanText op.scopeId).any (· != defaultSyncScopeId)

/-- The request names the boundary of the server. -/
def requestMatches (boundary : SyncResetBoundary) (request : PeerRequest) :
    Except ResetReason Unit :=
  let baseline := normalizeCursor request.baselineCursor
  if request.generation.any (· != boundary.generation) then .error .generationMismatch
  else if request.generation.isNone ∨ (normalizeCursor request.snapshotId).isNone ∨
      baseline ≠ boundary.baselineCursor then .error .boundaryMismatch
  else if normalizeCursor request.snapshotId ≠ some boundary.snapshotId then
    .error .boundaryMismatch
  else .ok ()

/-- The cursor lies behind the floor, as texts; a missing cursor never does. -/
def isStaleCursor (since floor : Option String) : Bool :=
  since.any fun s => floor.any fun f => decide (jsLt s f)

def loadReplicationOpsForPeer (snapshotId : String) (st : Store) (request : PeerRequest) :
    PeerResponse × Store :=
  let (boundary, st1) := getSyncResetState snapshotId st (request.scopeId.getD none)
  let since := normalizeCursor request.since
  match requestMatches boundary request with
  | .error reason => (.resetRequired boundary reason, st1)
  | .ok () =>
    if isStaleCursor since boundary.retainedFloorCursor then
      (.resetRequired boundary .staleCursor, st1)
    else
      let (ops, nextCursor) := loadReplicationOpsSince st1 since request.limit request.deviceId
        (some (request.scopeId.getD none))
      (.ops boundary (ops.filter (crossesPeerBoundary st1)) nextCursor, st1)

/-! ### Positions and texts -/

lemma cursorPosition_cursor {op : ReplicationOp} (h : '|' ∉ op.createdAt.toList) :
    cursorPosition op.cursor = some op.position := by
  simp [cursorPosition, ReplicationOp.cursor, parseCursor_computeCursor h, ReplicationOp.position]

end Codemem

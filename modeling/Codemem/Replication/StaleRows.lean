import Codemem.Replication.Apply
import Codemem.Store.MemoryFilters
import Mathlib.Data.List.Sort

/-!
# Cleanup of stale rows from peers

`reconcileStalePeerReceivedRows` goes through the active rows and removes those that came from a
peer and whose scope this device may not use; `diagnoseStalePeerReceivedRows` runs the same loop
without the writes.  Evidence of local creation keeps a row: a recorded creation that still matches
the row, or a label that says the row is from here.
-/

namespace Codemem

/-! ### Evidence of local creation -/

/-- A row of `memory_local_creation_snapshots`. -/
structure CreationSnapshot where
  entityId : String
  scopeId : Option String
  contentJson : String
  sourcePublicKey : Option String
  sourceFingerprint : Option String
  deriving DecidableEq, Repr

/-- A row of `sync_device`, and the tuple an adoption records. -/
structure DeviceTuple where
  deviceId : String
  publicKey : String
  fingerprint : String
  deriving DecidableEq, Repr

/-- The tables and helpers that local creation is decided from; a table that may be missing is an
option. -/
structure CreationEvidence where
  /-- The creation snapshots; their table is made together with that of the foreign revisions. -/
  snapshots : Option (List CreationSnapshot)
  syncDevice : Option (List DeviceTuple)
  /-- `captureBirth`. -/
  localCapture : Option String
  captureAdoption : Option (List (String × DeviceTuple))
  /-- The text that `CREATION_CONTENT_SQL` makes of the content columns of a row. -/
  creationContent : MemoryItem → String
  publicKeyBytes : String → Option String
  fingerprintPublicKey : String → String

def getVerifiedMemorySource (st : Store) (entityId : String) : Option MemorySourceBinding :=
  st.memorySourceBindings.find? fun b => b.entityId == entityId

def matchesLocalCaptureRuntime (ev : CreationEvidence) (tuple : DeviceTuple) (deviceId : String)
    (publicKey : Option String) : Bool :=
  let stored := ev.publicKeyBytes tuple.publicKey
  tuple.deviceId == deviceId && stored.isSome && publicKey.isSome &&
    publicKey.bind ev.publicKeyBytes == stored &&
    ev.fingerprintPublicKey tuple.publicKey == tuple.fingerprint

/-- `localCreationSourceIds`; `publicKey` is the expected or the loaded key. -/
def localCreationSourceIds (ev : CreationEvidence) (st : Store) (deviceId : String)
    (publicKey : Option String) : List String :=
  if (st.memorySourceBindings.any fun b => b.evidence == .localCreation) = false then []
  else match ev.syncDevice.getD [] with
    | [tuple] =>
      if tuple.deviceId ≠ deviceId then []
      else if matchesLocalCaptureRuntime ev tuple deviceId publicKey = false then []
      else match ev.localCapture, ev.captureAdoption with
        | some captureId, some adoptions =>
          match adoptions.find? fun adoption => adoption.1 == captureId with
          | some adoption => if adoption.2 = tuple then [deviceId, captureId] else [deviceId]
          | none => [deviceId]
        | _, _ => [deviceId]
    | devices =>
      if devices.isEmpty ∧ (ev.captureAdoption.getD []).isEmpty ∧ deviceId = "local" then
        ev.localCapture.toList
      else []

/-- `keyMatchSql`: the device that signed the snapshot is still known by the same key. -/
def creationKeyMatches (ev : CreationEvidence) (st : Store) (creation : CreationSnapshot) : Bool :=
  creation.sourcePublicKey.isNone || (ev.syncDevice.getD []).any fun device =>
    (getVerifiedMemorySource st creation.entityId).any
      (fun binding => binding.sourceDeviceId == device.deviceId) &&
    creation.sourcePublicKey == some device.publicKey &&
    creation.sourceFingerprint == some device.fingerprint

/-- `matchingLocalCreationClause` for one row: its creation is recorded, and since then neither its
scope nor its content has changed and no foreign revision was written. -/
def matchingLocalCreation (ev : CreationEvidence) (st : Store) (snapshots : List CreationSnapshot)
    (row : MemoryItem) : Bool :=
  snapshots.any fun creation =>
    row.importKey == some creation.entityId && creation.scopeId == row.scopeId &&
      creation.contentJson == ev.creationContent row && creationKeyMatches ev st creation &&
      !st.memoryForeignRevisions.any fun revision => revision.entityId == creation.entityId

/-- `hasMatchingLocalCreation` without a memory id: any row of the import key may match. -/
def hasMatchingLocalCreation (ev : CreationEvidence) (st : Store) (entityId : String)
    (sourceIds : List String) : Bool :=
  match ev.snapshots with
  | none => false
  | some snapshots =>
    !sourceIds.isEmpty &&
      (getVerifiedMemorySource st entityId).any (fun binding =>
        binding.evidence == .localCreation && sourceIds.contains binding.sourceDeviceId) &&
      st.memoryItems.any fun row =>
        row.importKey == some entityId && matchingLocalCreation ev st snapshots row

/-! ### The decision for one row -/

/-- `StalePeerReceivedRowReason`, as far as the code gives it. -/
inductive StaleReason
  | authorizationUnknown
  | missingImportKey
  | missingOriginDevice
  | unverifiedLocalCreation
  deriving DecidableEq, Repr

/-- `StalePeerReceivedRowDiagnostic`. -/
structure StaleDiagnostic where
  memoryId : ℕ
  importKey : Option String
  originDeviceId : Option String
  scopeId : Option String
  reason : StaleReason
  deriving DecidableEq, Repr

/-- `stalePeerCandidateDiagnostic`, with the cleaned columns of the row. -/
def stalePeerCandidateDiagnostic (row : MemoryItem) (reason : StaleReason) : StaleDiagnostic :=
  ⟨row.id, cleanText row.importKey, cleanText row.originDeviceId, cleanText row.scopeId, reason⟩

/-- What becomes of a row: it is retained, it is reported, or it is a candidate for removal, with
the peer and scope whose cursor is cleared. -/
inductive StaleDecision
  | retain
  | report (reason : StaleReason)
  | delete (cursor : Option (String × String))
  deriving DecidableEq, Repr

def legacyLocalRetentionScope (st : Store) (scopeId : Option String) : Bool :=
  match cleanText scopeId with
  | none => true
  | some scope =>
    scope == defaultSyncScopeId || scope == legacySharedReviewScopeId ||
      st.replicationScopes.any fun s => s.scopeId == scope && s.authorityType.isUnmanaged

/-- `retainOrDiagnoseLocalRow`: the decision for a row that may be from here. -/
def retainOrDiagnoseLocalRow (ev : CreationEvidence) (st : Store) (row : MemoryItem)
    (localDeviceId : String) (creationSources : List String) : Option StaleDecision :=
  let importKey := cleanText row.importKey
  let origin := cleanText row.originDeviceId
  let recorded := importKey.any (hasRecordedLocalCreation st)
  if importKey.any (hasMatchingLocalCreation ev st · creationSources) then some .retain
  -- Legacy labels retain old rows, but cannot override an unmatched creation record.
  else if recorded = false ∧ origin = some localDeviceId ∧
      legacyLocalRetentionScope st row.scopeId = true then some .retain
  else if recorded = false ∧ origin ≠ some localDeviceId ∧ origin ≠ some "local" then none
  else some (.report .unverifiedLocalCreation)

def stalePeerCandidateIsDeletable : AuthorizationState → Bool
  | .revoked => true
  | .scopeInactive => true
  | .staleEpoch => true
  | _ => false

/-- The decision for a row of a scope other than the default one, by the authorization and the
membership of this device. -/
def scopedRowDecision (auth : CachedScopeAuthorization) (membership : Option ScopeMembership)
    (originDeviceId scopeId : String) : StaleDecision :=
  if auth.authorized then .retain
  else if auth.scope.isNone then .report .authorizationUnknown
  else if membership.isNone then .delete (some (originDeviceId, scopeId))
  else if stalePeerCandidateIsDeletable auth.state = false then .report .authorizationUnknown
  else .delete (some (originDeviceId, scopeId))

/-- The authorizations looked up so far in a cleanup. -/
abbrev AuthorizationByScope :=
  List (String × CachedScopeAuthorization × Option ScopeMembership)

/-- `authorizationByScope.get`, or the lookup and the cache with it. -/
def cachedAuthorization (st : Store) (localDeviceId scopeId : String)
    (cache : AuthorizationByScope) :
    (CachedScopeAuthorization × Option ScopeMembership) × AuthorizationByScope :=
  match cache.find? fun entry => entry.1 == scopeId with
  | some entry => (entry.2, cache)
  | none =>
    let auth := (getCachedScopeAuthorization st localDeviceId scopeId,
      st.membershipOf (trim localDeviceId) (trim scopeId))
    (auth, (scopeId, auth) :: cache)

/-- The body of the loop, up to its writes. -/
def staleRowDecision (ev : CreationEvidence) (st : Store) (localDeviceId : String)
    (creationSources : List String) (cache : AuthorizationByScope) (row : MemoryItem) :
    StaleDecision × AuthorizationByScope :=
  match retainOrDiagnoseLocalRow ev st row localDeviceId creationSources with
  | some decision => (decision, cache)
  | none =>
    match cleanText row.originDeviceId, cleanText row.scopeId with
    | none, _ => (.report .missingOriginDevice, cache)
    | some _, none => (.delete none, cache)
    | some originDeviceId, some scopeId =>
      if scopeId = defaultSyncScopeId then (.delete none, cache)
      else if (cleanText row.importKey).isNone then (.report .missingImportKey, cache)
      else
        let (auth, cache') := cachedAuthorization st localDeviceId scopeId cache
        (scopedRowDecision auth.1 auth.2 originDeviceId scopeId, cache')

/-! ### The loop -/

/-- `ReconcileStalePeerReceivedRowsResult`. -/
structure StaleCleanupResult where
  checked : ℕ
  deleted : ℕ
  deletedMemoryIds : List ℕ
  retained : ℕ
  ambiguous : List StaleDiagnostic
  deriving DecidableEq, Repr

/-- The writes of `deleteCandidate`. -/
def deleteCandidateRow (st : Store) (memoryId : ℕ) (cursor : Option (String × String)) : Store :=
  let removed := (clearMemoryRefs st memoryId).deleteMemories fun row => row.id == memoryId
  match cursor with
  | some (originDeviceId, scopeId) =>
    if scopeId ≠ defaultSyncScopeId then
      clearReplicationCursorLastApplied removed originDeviceId (some scopeId)
    else removed
  | none => removed

/-- A decision is entered into the result. -/
def StaleCleanupResult.enter (result : StaleCleanupResult) (row : MemoryItem) :
    StaleDecision → StaleCleanupResult
  | .retain => { result with retained := result.retained + 1 }
  | .report reason =>
    { result with
      ambiguous := result.ambiguous ++ [stalePeerCandidateDiagnostic row reason] }
  | .delete _ =>
    { result with
      deleted := result.deleted + 1
      deletedMemoryIds := result.deletedMemoryIds ++ [row.id] }

/-- The store after a decision: only a real run removes a candidate. -/
def StaleDecision.carryOut (st : Store) (deleteRows : Bool) (row : MemoryItem) :
    StaleDecision → Store
  | .delete cursor => if deleteRows then deleteCandidateRow st row.id cursor else st
  | _ => st

/-- The state of the loop: the store, the authorizations looked up and the result. -/
structure StaleCleanup where
  st : Store
  cache : AuthorizationByScope
  result : StaleCleanupResult

/-- One row of the loop. -/
def StaleCleanup.visit (ev : CreationEvidence) (localDeviceId : String)
    (creationSources : List String) (deleteRows : Bool) (s : StaleCleanup) (row : MemoryItem) :
    StaleCleanup :=
  let (decision, cache) := staleRowDecision ev s.st localDeviceId creationSources s.cache row
  ⟨decision.carryOut s.st deleteRows row, cache, s.result.enter row decision⟩

/-- The options of a cleanup; `publicKey` is the expected key or the one the runtime loads. -/
structure ReconcileStaleOptions where
  localDeviceId : String
  maxRows : Option ℚ
  peerDeviceId : Option String
  publicKey : Option String

/-- `stalePeerReceivedRows`: the active rows by id, of one peer if one is given. -/
def stalePeerReceivedRows (st : Store) (peerDeviceId : Option String) (maxRows : Option ℕ) :
    List MemoryItem :=
  let rows := (st.memoryItems.filter fun row =>
    row.active == some 1 && (peerDeviceId.isNone || row.originDeviceId == peerDeviceId)).insertionSort
      fun a b => a.id ≤ b.id
  match maxRows with
  | none => rows
  | some n => rows.take n

def reconcileStalePeerReceivedRowsInternal (ev : CreationEvidence) (st : Store)
    (options : ReconcileStaleOptions) (deleteRows : Bool) :
    Except String (Store × StaleCleanupResult) :=
  match cleanText (some options.localDeviceId) with
  | none => .error "localDeviceId must be a non-empty string"
  | some localDeviceId =>
    let rows := stalePeerReceivedRows st (cleanText options.peerDeviceId)
      (options.maxRows.map fun n => n.floor.toNat)
    let creationSources := localCreationSourceIds ev st localDeviceId options.publicKey
    let final := rows.foldl (StaleCleanup.visit ev localDeviceId creationSources deleteRows)
      ⟨st, [], ⟨rows.length, 0, [], 0, []⟩⟩
    .ok (final.st, final.result)

def reconcileStalePeerReceivedRows (ev : CreationEvidence) (st : Store)
    (options : ReconcileStaleOptions) : Except String (Store × StaleCleanupResult) :=
  reconcileStalePeerReceivedRowsInternal ev st options true

/-- `diagnoseStalePeerReceivedRows`; the fields of its result are renamed only. -/
def diagnoseStalePeerReceivedRows (ev : CreationEvidence) (st : Store)
    (options : ReconcileStaleOptions) : Except String (Store × StaleCleanupResult) :=
  reconcileStalePeerReceivedRowsInternal ev st options false

end Codemem

import Codemem.Foundation.KeyedRows
import Codemem.Scope.Snapshot
import Codemem.Store.Tables

/-!
# The membership cache

The cache keeps scopes, memberships, the proof of each current member, and one refresh state for
each authority.  `persistCurrentSnapshots` writes the checked batches of one fetch in a single
transaction, unless another refresh of the authority committed in between.
-/

namespace Codemem

/-- A row of `scope_membership_cache_state`. -/
structure CacheStateRow where
  authority : CacheAuthority
  lastRefreshAt : String
  lastSuccessAt : Option String
  lastError : Option String
  updatedAt : String
  refreshRevision : ℤ
  deriving DecidableEq

/-- A row of `scope_membership_authorization_evidence`. -/
structure EvidenceRow where
  authority : CacheAuthority
  scopeId : String
  deviceId : String
  evidenceJson : JsonText

structure MembershipCache where
  replicationScopes : List CoordinatorScope
  scopeMemberships : List CoordinatorScopeMembership
  cacheStates : List CacheStateRow
  authorizationEvidence : List EvidenceRow
  denyOverlays : List DenyOverlay

/-- `a = b` of SQL: a missing value equals nothing. -/
def sqlEq (a b : Option String) : Bool := a.isSome && a == b

namespace MembershipCache

/-! ### Revisions -/

def readRefreshRevision (cache : MembershipCache) (authority : CacheAuthority) : Except String ℤ :=
  let revision := ((rowAt CacheStateRow.authority authority cache.cacheStates).map
    CacheStateRow.refreshRevision).getD 0
  if revision < 0 ∨ maxSafeInteger ≤ revision then
    .error "Scope membership cache revision unavailable."
  else .ok revision

/-- `input.ok ? input.now : null`; the refresh is in order when there is no error. -/
def refreshSuccessAt (error : Option String) (now : String) : Option String :=
  if error.isNone then some now else none

def firstState (authority : CacheAuthority) (error : Option String) (now : String) :
    CacheStateRow :=
  ⟨authority, now, refreshSuccessAt error now, error, now, 1⟩

def nextState (error : Option String) (now : String) (stored : CacheStateRow) : CacheStateRow :=
  { stored with
    lastRefreshAt := now
    lastSuccessAt := (refreshSuccessAt error now).or stored.lastSuccessAt
    lastError := error
    updatedAt := now
    refreshRevision := stored.refreshRevision + 1 }

def recordRefreshState (cache : MembershipCache) (authority : CacheAuthority)
    (error : Option String) (now : String) : Except String MembershipCache := do
  let _ ← cache.readRefreshRevision authority
  -- the read revision is below the bound of the update already
  pure { cache with
    cacheStates := insertOrUpdate CacheStateRow.authority (firstState authority error now)
      (nextState error now) cache.cacheStates }

/-- `recordRefreshFailure`: the cache, and the reported error. -/
def recordRefreshFailure (cache : MembershipCache) (authority : CacheAuthority)
    (error now : String) (expectedRevision : Option ℤ) : MembershipCache × String :=
  match expectedRevision with
  | none => (cache, "Scope membership cache revision unavailable.")
  | some expected =>
    match cache.readRefreshRevision authority with
    | .error _ => (cache, "Scope membership cache refresh state unavailable.")
    | .ok revision =>
      -- a delayed failure must not overwrite a newer refresh
      if revision ≠ expected then (cache, error)
      else match cache.recordRefreshState authority (some error) now with
        | .error _ => (cache, "Scope membership cache refresh state unavailable.")
        | .ok cache' => (cache', error)

/-! ### Scopes and memberships -/

def upsertScope (cache : MembershipCache) (scope : CoordinatorScope) : MembershipCache :=
  { cache with
    replicationScopes := insertOrUpdate CoordinatorScope.scopeId scope
      (fun stored =>
        if stored.membershipEpoch ≤ scope.membershipEpoch then
          { stored with
            label := scope.label
            kind := scope.kind
            authorityType := scope.authorityType
            coordinatorId := scope.coordinatorId
            groupId := scope.groupId
            manifestIssuerDeviceId := scope.manifestIssuerDeviceId
            membershipEpoch := scope.membershipEpoch
            manifestHash := scope.manifestHash
            status := scope.status
            updatedAt := scope.updatedAt }
        else stored)
      cache.replicationScopes }

/-- The rows of the scope that a snapshot does not list, as long as they are of its source. -/
def omittedBySnapshot (batch : CurrentScopeBatch) (authority : CacheAuthority)
    (row : CoordinatorScopeMembership) : Bool :=
  row.scopeId == batch.scope.scopeId &&
    (let coordinatorId := row.coordinatorId.getD authority.coordinatorId
     coordinatorId == authority.coordinatorId ||
       some coordinatorId == batch.sourceCoordinatorId) &&
    row.groupId.getD authority.groupId == authority.groupId && row.status != "revoked" &&
    !(batch.memberships.map CoordinatorScopeMembership.deviceId).contains row.deviceId

/-- The revocation of a row, at the epoch of the scope or its own later one. -/
def revokeRow (batch : CurrentScopeBatch) (authority : CacheAuthority) (timestamp : String)
    (row : CoordinatorScopeMembership) : CoordinatorScopeMembership :=
  { row with
    status := "revoked"
    membershipEpoch :=
      if batch.scope.membershipEpoch < row.membershipEpoch then row.membershipEpoch
      else batch.scope.membershipEpoch
    coordinatorId := some authority.coordinatorId
    groupId := some authority.groupId
    updatedAt := timestamp }

/-- `reconcileScopeMembershipSnapshot`: absence from the complete list revokes. -/
def reconcileScopeMembershipSnapshot (cache : MembershipCache) (batch : CurrentScopeBatch)
    (authority : CacheAuthority) (timestamp : String) : MembershipCache :=
  { cache with
    scopeMemberships := updateRows (omittedBySnapshot batch authority)
      (revokeRow batch authority timestamp) cache.scopeMemberships }

/-- `reconcileGroupScopeSnapshot`: scopes of the authority that the catalog omits are archived. -/
def reconcileGroupScopeSnapshot (cache : MembershipCache) (authority : CacheAuthority)
    (scopes : List CoordinatorScope) (timestamp : String) : MembershipCache :=
  let ofAuthority (row : CoordinatorScope) : Bool :=
    row.coordinatorId == some authority.coordinatorId && row.groupId == some authority.groupId
  let missing := (cache.replicationScopes.filter fun row => ofAuthority row &&
    row.status != "archived" && !(scopes.map CoordinatorScope.scopeId).contains row.scopeId).map
      CoordinatorScope.scopeId
  if missing.isEmpty then cache
  else
    { cache with
      replicationScopes := updateRows (fun row => ofAuthority row && missing.contains row.scopeId)
        (fun row => { row with status := "archived", updatedAt := timestamp })
        cache.replicationScopes }

/-- `upsertCachedScopeMemberships`: an update needs a later epoch, or the same one on a row that is
not revoked. -/
def upsertCachedScopeMemberships (cache : MembershipCache)
    (memberships : List CoordinatorScopeMembership) : MembershipCache :=
  { cache with
    scopeMemberships := memberships.foldl
      (fun rows membership => insertOrUpdate CoordinatorScopeMembership.key membership
        (fun stored =>
          if stored.membershipEpoch < membership.membershipEpoch ∨
              (membership.membershipEpoch = stored.membershipEpoch ∧ stored.status ≠ "revoked") then
            { stored with
              role := membership.role
              status := membership.status
              membershipEpoch := membership.membershipEpoch
              coordinatorId := membership.coordinatorId
              groupId := membership.groupId
              manifestIssuerDeviceId := membership.manifestIssuerDeviceId
              manifestHash := membership.manifestHash
              signedManifestJson := membership.signedManifestJson
              updatedAt := membership.updatedAt }
          else stored)
        rows)
      cache.scopeMemberships }

def matchesSnapshotSource (coordinatorId groupId : Option String) (batch : CurrentScopeBatch) :
    Bool :=
  (groupId.isNone || groupId == batch.scope.groupId) &&
    (coordinatorId.isNone || coordinatorId == batch.scope.coordinatorId ||
      coordinatorId == batch.sourceCoordinatorId)

def migrateSnapshotMembershipAuthority (cache : MembershipCache) (batch : CurrentScopeBatch) :
    MembershipCache :=
  { cache with
    scopeMemberships := updateRows
      (fun row =>
        let coordinatorId := row.coordinatorId.or batch.scope.coordinatorId
        row.scopeId == batch.scope.scopeId &&
          sqlEq (row.groupId.or batch.scope.groupId) batch.scope.groupId &&
          (sqlEq coordinatorId batch.scope.coordinatorId ||
            sqlEq coordinatorId batch.sourceCoordinatorId))
      (fun row =>
        { row with coordinatorId := batch.scope.coordinatorId, groupId := batch.scope.groupId })
      cache.scopeMemberships }

/-- The checks of one cached membership against a snapshot: whether the snapshot would revive it. -/
def requireUnsupersededMember (batch : CurrentScopeBatch) (row : CoordinatorScopeMembership) :
    Except String Bool :=
  let member := batch.memberships.find? fun membership => membership.deviceId == row.deviceId
  if (member.any fun m => m.membershipEpoch < row.membershipEpoch) = true ∨
      matchesSnapshotSource row.coordinatorId row.groupId batch = false then
    .error "Current scope snapshot superseded by cached membership."
  else .ok (member.any fun m =>
    row.status == "revoked" && row.membershipEpoch == m.membershipEpoch)

/-- `requireUnsupersededSnapshot`: whether the snapshot would revive a revoked membership. -/
def requireUnsupersededSnapshot (cache : MembershipCache) (batch : CurrentScopeBatch) :
    Except String Bool :=
  let stored := rowAt CoordinatorScope.scopeId batch.scope.scopeId cache.replicationScopes
  if stored.any fun s => batch.scope.membershipEpoch < s.membershipEpoch ||
      !matchesSnapshotSource s.coordinatorId s.groupId batch then
    .error "Current scope snapshot conflicts with cached authority or epoch."
  else do
    let conflicts ← (cache.scopeMemberships.filter fun row =>
      row.scopeId == batch.scope.scopeId).mapM (requireUnsupersededMember batch)
    pure (conflicts.any id)

end MembershipCache

/-! ### Evidence -/

section Evidence

-- the digest of the blob of a public key, if it is an Ed25519 key
variable (keyIdOf : String → Option String)

/-- `SCOPE_AUTHORITY_FIELDS` agree. -/
def sameScopeAuthority (left right : CoordinatorScope) : Bool :=
  left.scopeId == right.scopeId && left.kind == right.kind &&
    left.authorityType == right.authorityType && left.coordinatorId == right.coordinatorId &&
    left.groupId == right.groupId && left.manifestIssuerDeviceId == right.manifestIssuerDeviceId &&
    left.membershipEpoch == right.membershipEpoch && left.manifestHash == right.manifestHash &&
    left.status == right.status

/-- `MEMBER_AUTHORITY_FIELDS` agree. -/
def sameMemberAuthority (left right : CoordinatorScopeMembership) : Bool :=
  left.scopeId == right.scopeId && left.deviceId == right.deviceId && left.role == right.role &&
    left.status == right.status && left.membershipEpoch == right.membershipEpoch &&
    left.coordinatorId == right.coordinatorId && left.groupId == right.groupId &&
    left.manifestIssuerDeviceId == right.manifestIssuerDeviceId &&
    left.manifestHash == right.manifestHash && left.signedManifestJson == right.signedManifestJson

def matchesRows (batch : CurrentScopeBatch) (scope : CoordinatorScope)
    (member : CoordinatorScopeMembership) : Bool :=
  match batch.memberships with
  | [captured] => sameScopeAuthority batch.scope scope && sameMemberAuthority captured member
  | _ => false

/-- `parseEvidence`: the scope of the stored snapshot plays the catalog scope. -/
def parseEvidence (raw : JsonText) (authority : CacheAuthority) : Option CurrentScopeBatch :=
  match raw.parse with
  | none => none
  | some snapshot =>
    match requireScope ((snapshot.asObject.getD []).get "scope") authority.groupId with
    | .error _ => none
    | .ok scope =>
      match normalizeScopeSnapshot keyIdOf snapshot scope authority.groupId
          authority.coordinatorId with
      | .error _ => none
      | .ok batch => if batch.evidence.items.length = 1 then some batch else none

def singleMemberEvidence (batch : CurrentScopeBatch) (item : SnapshotMember) :
    ScopeMembershipSnapshot :=
  { batch.evidence with items := [item] }

def sameProof (previous current : CurrentScopeBatch) : Bool :=
  match previous.evidence.items, current.evidence.items, current.memberships with
  | oldItem :: _, item :: _, member :: _ =>
    matchesRows previous current.scope member &&
      previous.sourceCoordinatorId == current.sourceCoordinatorId &&
      oldItem.keyId == item.keyId && sameMemberAuthority oldItem.membership item.membership &&
      (oldItem.enrollment.groupId == item.enrollment.groupId &&
        oldItem.enrollment.deviceId == item.enrollment.deviceId &&
        oldItem.enrollment.fingerprint == item.enrollment.fingerprint &&
        oldItem.enrollment.enabled == item.enrollment.enabled)
  | _, _, _ => false

/-- The current proof of a stored evidence row, if the batches still hold one. -/
def currentProof (batches : List CurrentScopeBatch) (authority : CacheAuthority)
    (row : EvidenceRow) : Except String (Option CurrentScopeBatch) :=
  match batches.find? fun batch => batch.scope.scopeId == row.scopeId with
  | none => .ok none
  | some batch =>
    match (batch.memberships.zip batch.evidence.items).find? fun pair =>
        pair.1.deviceId == row.deviceId with
    | none => .ok none
    | some (_, item) =>
      (normalizeScopeSnapshot keyIdOf (snapshotJson (singleMemberEvidence batch item))
        batch.evidence.scope authority.groupId authority.coordinatorId).map some

/-- Whether `pruneEvidence` keeps a row. -/
def keepsEvidence (batches : List CurrentScopeBatch) (authority : CacheAuthority)
    (row : EvidenceRow) : Except String Bool := do
  if row.authority ≠ authority then pure true
  else
    let old := parseEvidence keyIdOf row.evidenceJson authority
    let current ← currentProof keyIdOf batches authority row
    match old, current with
    | some old, some current => pure (sameProof old current)
    | _, _ => pure false

namespace MembershipCache

def reconcileScopeAuthorizationEvidence (cache : MembershipCache)
    (batches : List CurrentScopeBatch) (authority : CacheAuthority) (removalOnly : Bool) :
    Except String MembershipCache :=
  if removalOnly then do
    let kept ← cache.authorizationEvidence.filterM (keepsEvidence keyIdOf batches authority)
    pure { cache with authorizationEvidence := kept }
  else
    .ok { cache with
      authorizationEvidence :=
        (cache.authorizationEvidence.filter fun row => row.authority != authority) ++
          batches.flatMap fun batch => (batch.memberships.zip batch.evidence.items).map fun pair =>
            ⟨authority, batch.scope.scopeId, pair.1.deviceId,
              .encoded (snapshotJson (singleMemberEvidence batch pair.2))⟩ }

/-! ### The transaction -/

/-- What a transaction of `persistCurrentSnapshots` did: nothing, because a newer refresh was
committed, or a refresh, in order or with a revival conflict. -/
inductive PersistOutcome where
  | superseded
  | committed (error : Option String)
  deriving DecidableEq, Repr

/-- What `persistCurrentSnapshots` returns. -/
def PersistOutcome.error : PersistOutcome → Option String
  | .superseded => some "Current scope snapshot superseded by a newer cache refresh."
  | .committed error => error

/-- The error of a snapshot that would revive a revoked membership. -/
def revivalError : String :=
  "Current scope snapshot cannot revive cached revoked membership at the same epoch."

/-- The writes of one batch; a conflict leaves only the revocations. -/
def persistBatch (authority : CacheAuthority) (timestamp : String) (conflict : Bool)
    (cache : MembershipCache) (batch : CurrentScopeBatch) : MembershipCache :=
  let upserted :=
    if conflict then cache
    else ((cache.upsertScope batch.scope).migrateSnapshotMembershipAuthority
      batch).upsertCachedScopeMemberships batch.memberships
  upserted.reconcileScopeMembershipSnapshot batch authority timestamp

/-- `persistCurrentSnapshots`: a thrown error rolls everything back. -/
def persistCurrentSnapshots (cache : MembershipCache) (batches : List CurrentScopeBatch)
    (authority : CacheAuthority) (timestamp : String) (expectedRevision : ℤ) :
    Except String (MembershipCache × PersistOutcome) := do
  let revision ← cache.readRefreshRevision authority
  if revision ≠ expectedRevision then pure (cache, .superseded)
  else
    -- every batch is checked before the first write
    let conflicts ← batches.mapM cache.requireUnsupersededSnapshot
    let conflict := conflicts.any id
    let error := if conflict then some revivalError else none
    let reconciled := batches.foldl (persistBatch authority timestamp conflict) cache
    let archived := reconciled.reconcileGroupScopeSnapshot authority
      (batches.map CurrentScopeBatch.scope) timestamp
    match archived.reconcileScopeAuthorizationEvidence keyIdOf batches authority conflict with
    | .error _ => .error "Scope authorization evidence unavailable."
    | .ok proven => do
      let recorded ← proven.recordRefreshState authority error timestamp
      pure (recorded, .committed error)

end MembershipCache

end Evidence

end Codemem

import Codemem.Foundation.Fallible
import Codemem.Coordinator.RequestAuth
import Codemem.Coordinator.ScopeStores

/-!
# Tables of the admission of devices

The invites, join requests, bootstrap grants and ownership facts of the SQLite coordinator store,
beside its enrollments, revocations and scopes.  A table of invites carries the unique indexes of
`coordinator_invites`: a statement that would violate one of them fails.
-/

namespace Codemem

/-! ### Invites -/

inductive CoordinatorInviteKind where
  | legacyEnrollment
  | projectShare
  | teamMember
  | addDevice
deriving DecidableEq

/-- A row of `coordinator_invites`. -/
structure CoordinatorInvite where
  inviteId : String
  groupId : String
  token : String
  policy : String
  expiresAt : String
  createdAt : String
  createdBy : Option String
  revokedAt : Option String
  operationId : Option String
  reviewedProjectSetDigest : Option String
  tokenDigest : Option String
  inviterActorId : Option String
  inviterDisplayName : Option String
  inviterDeviceId : Option String
  pendingPersonId : Option String
  projectSummariesJson : Option String
  projectIntentJson : Option String
  consumedAt : Option String
  boundDeviceId : Option String
  boundPublicKey : Option String
  boundFingerprint : Option String
  recipientActorId : Option String
  recipientDisplayName : Option String
  recipientDeviceDisplayName : Option String
  trustState : Option String
  bootstrapGrantId : Option String
  inviteKind : Option CoordinatorInviteKind
  policyTeamId : Option String
  targetIdentityId : Option String
  assignedIdentityId : Option String
  reviewedPreviewDigest : Option String
  reviewedIntentJson : Option String
deriving DecidableEq

/-- The primary key and the unique indexes of `coordinator_invites`. -/
structure InvitesUnique (rows : List CoordinatorInvite) : Prop where
  ids : (rows.map CoordinatorInvite.inviteId).Nodup
  tokens : (rows.map CoordinatorInvite.token).Nodup
  digests : (rows.filterMap CoordinatorInvite.tokenDigest).Nodup
  operations : (rows.filterMap CoordinatorInvite.operationId).Nodup

instance (rows : List CoordinatorInvite) : Decidable (InvitesUnique rows) :=
  decidable_of_iff ((rows.map CoordinatorInvite.inviteId).Nodup ∧
      (rows.map CoordinatorInvite.token).Nodup ∧
      (rows.filterMap CoordinatorInvite.tokenDigest).Nodup ∧
      (rows.filterMap CoordinatorInvite.operationId).Nodup)
    ⟨fun ⟨ids, tokens, digests, operations⟩ => ⟨ids, tokens, digests, operations⟩,
      fun ⟨ids, tokens, digests, operations⟩ => ⟨ids, tokens, digests, operations⟩⟩

/-- The table `coordinator_invites`. -/
structure InviteTable where
  rows : List CoordinatorInvite
  unique : InvitesUnique rows
deriving DecidableEq

namespace InviteTable

/-- The table without rows. -/
def empty : InviteTable := ⟨[], by simp, by simp, by simp, by simp⟩

/-- A statement leaves these rows, or fails. -/
def write (rows : List CoordinatorInvite) : Except String InviteTable :=
  if h : InvitesUnique rows then .ok ⟨rows, h⟩ else .error "UNIQUE constraint failed"

/-- `SELECT … WHERE invite_id = ?`. -/
def byId (table : InviteTable) (inviteId : String) : Option CoordinatorInvite :=
  rowAt CoordinatorInvite.inviteId inviteId table.rows

/-- `INSERT INTO coordinator_invites`. -/
def insert (table : InviteTable) (row : CoordinatorInvite) : Except String InviteTable :=
  write (table.rows ++ [row])

/-- `UPDATE coordinator_invites SET … WHERE …`. -/
def update (table : InviteTable) (selects : CoordinatorInvite → Bool)
    (set : CoordinatorInvite → CoordinatorInvite) : Except String InviteTable :=
  write (updateRows selects set table.rows)

end InviteTable

/-! ### The other tables -/

/-- A row of `coordinator_device_ownership_bindings`, as far as guards read it. -/
structure DeviceOwnershipBinding where
  deviceId : String
  keyId : String
deriving DecidableEq

/-- A row of `coordinator_legacy_owner_resolutions`, as far as its subject is concerned. -/
structure OwnerResolution where
  coordinatorId : String
  deviceId : String
  keyId : String
deriving DecidableEq

/-- What the catalog says about `coordinator_legacy_owner_resolutions`, and its rows. -/
inductive OwnerResolutionCatalog where
  | unsupported
  | missing
  | ready (rows : List OwnerResolution)
deriving DecidableEq

/-- A row of `coordinator_join_requests`. -/
structure CoordinatorJoinRequest where
  requestId : String
  groupId : String
  deviceId : String
  publicKey : String
  fingerprint : String
  displayName : Option String
  token : String
  status : String
  createdAt : String
  reviewedAt : Option String
  reviewedBy : Option String
deriving DecidableEq

/-- A row of `coordinator_bootstrap_grants`. -/
structure CoordinatorBootstrapGrant where
  grantId : String
  groupId : String
  seedDeviceId : String
  workerDeviceId : String
  expiresAt : String
  createdAt : String
  createdBy : Option String
  revokedAt : Option String
deriving DecidableEq

/-- The tables of the coordinator. -/
structure AdmissionTables where
  scope : ScopeTables
  ownershipBindings : List DeviceOwnershipBinding
  ownerResolutions : OwnerResolutionCatalog
  invites : InviteTable
  joinRequests : List CoordinatorJoinRequest
  bootstrapGrants : List CoordinatorBootstrapGrant
  nonces : List RequestNonceRow

namespace AdmissionTables

/-- Groups, enrollments and revocations. -/
abbrev devices (tables : AdmissionTables) : DeviceTables := tables.scope.devices

def withEnrolled (tables : AdmissionTables) (rows : List EnrolledDeviceRow) : AdmissionTables :=
  { tables with
    scope := { tables.scope with
      devices := { tables.scope.devices with enrolledDevices := rows } } }

def enrollment (tables : AdmissionTables) (groupId deviceId : String) :
    Option EnrolledDeviceRow :=
  rowAt EnrolledDeviceRow.key (groupId, deviceId) tables.devices.enrolledDevices

def enabledEnrollment (tables : AdmissionTables) (groupId deviceId : String) :
    Option EnrolledDeviceRow :=
  (tables.enrollment groupId deviceId).filter EnrolledDeviceRow.enabled

/-- `DEVICE_REVOCATION_SUBJECT_EXISTS_SQL`, where the device may be missing too. -/
def subjectRevoked (tables : AdmissionTables) (deviceId keyId : Option String) : Bool :=
  (deviceId.any fun id => tables.devices.revocations.contains (.deviceId id)) ||
    keyId.any fun id => tables.devices.revocations.contains (.ed25519Key id)

/-- `DEVICE_OWNERSHIP_SUBJECT_EXISTS_SQL`. -/
def subjectOwned (tables : AdmissionTables) (deviceId : String) (keyId : Option String) : Bool :=
  tables.ownershipBindings.any fun row => row.deviceId == deviceId || keyId == some row.keyId

/-- The group is stored and not archived. -/
def liveGroup (tables : AdmissionTables) (groupId : String) : Bool :=
  tables.devices.groups.any fun row => row.groupId == groupId && row.archivedAt.isNone

@[simp] lemma withEnrolled_invites (tables : AdmissionTables) (rows : List EnrolledDeviceRow) :
    (tables.withEnrolled rows).invites = tables.invites := rfl

@[simp] lemma withEnrolled_enrolledDevices (tables : AdmissionTables)
    (rows : List EnrolledDeviceRow) :
    (tables.withEnrolled rows).devices.enrolledDevices = rows := rfl

@[simp] lemma withEnrolled_bootstrapGrants (tables : AdmissionTables)
    (rows : List EnrolledDeviceRow) :
    (tables.withEnrolled rows).bootstrapGrants = tables.bootstrapGrants := rfl

end AdmissionTables

/-- An answer of a statement or call, with the tables it leaves. -/
abbrev Stored (α : Type) := α × AdmissionTables

/-- `db.transaction(…).immediate()`: a transaction that throws leaves the tables as they were. -/
def inTransaction {α : Type} (tables : AdmissionTables)
    (body : AdmissionTables → Except String (Stored α)) : Except String α × AdmissionTables :=
  match body tables with
  | .error error => (.error error, tables)
  | .ok (answer, tables') => (.ok answer, tables')

end Codemem

import Codemem.Coordinator.Invites

/-!
# Writes of enrollments and bootstrap grants

`enrollDeviceSync`, `setDeviceEnabled`, `removeDevice` and `insertBootstrapGrantSync` of the SQLite
coordinator store.  Every enrollment is guarded by the revocation ledger and by the ownership
bindings, in the statement that writes it.
-/

namespace Codemem

/-- `CoordinatorEnrollDeviceInput`. -/
structure EnrollDeviceInput where
  deviceId : String
  publicKey : String
  fingerprint : String
  identityId : Option String
  displayName : Option String

/-- `CoordinatorCreateBootstrapGrantInput`. -/
structure BootstrapGrantInput where
  groupId : String
  seedDeviceId : String
  workerDeviceId : String
  expiresAt : String
  createdBy : Option String
deriving DecidableEq

def normalizeCoordinatorBootstrapGrantInput (opts : BootstrapGrantInput) :
    Except String BootstrapGrantInput :=
  let normalized : BootstrapGrantInput :=
    ⟨trim opts.groupId, trim opts.seedDeviceId, trim opts.workerDeviceId, trim opts.expiresAt,
      cleanText opts.createdBy⟩
  if normalized.groupId = "" ∨ normalized.seedDeviceId = "" ∨ normalized.workerDeviceId = "" ∨
      normalized.expiresAt = "" then
    .error "groupId, seedDeviceId, workerDeviceId, and expiresAt are required."
  else .ok normalized

def bootstrapGrantRow (input : BootstrapGrantInput) (grantId createdAt : String) :
    CoordinatorBootstrapGrant :=
  ⟨grantId, input.groupId, input.seedDeviceId, input.workerDeviceId, input.expiresAt, createdAt,
    input.createdBy, none⟩

namespace AdmissionTables

/-- `enrollmentRevocationKeyId(publicKey)` of the stored enrollment of a device. -/
def storedKeyId (primitives : SignaturePrimitives) (tables : AdmissionTables)
    (groupId deviceId : String) : Option String :=
  (tables.enrollment groupId deviceId).bind fun row =>
    ed25519KeyIdForRevocation primitives row.publicKey

/-! ### Enrolling -/

/-- The row that `LEGACY_ENROLLMENT_WRITE_SQL` inserts. -/
def enrolledRow (groupId : String) (input : EnrollDeviceInput) (now : String) :
    EnrolledDeviceRow where
  groupId := groupId
  deviceId := input.deviceId
  publicKey := input.publicKey
  fingerprint := input.fingerprint
  identityId := input.identityId
  displayName := input.displayName
  enabled := true
  createdAt := now

/-- What `LEGACY_ENROLLMENT_WRITE_SQL` sets in a stored row. -/
def reenrolledRow (input : EnrollDeviceInput) (stored : EnrolledDeviceRow) : EnrolledDeviceRow :=
  { stored with
    publicKey := input.publicKey
    fingerprint := input.fingerprint
    identityId := stored.identityId <|> input.identityId
    displayName := input.displayName
    enabled := true }

/-- Two identities do not contradict each other. -/
def compatibleIdentity (stored incoming : Option String) : Bool :=
  incoming.isNone || stored.isNone || stored == incoming

/-- `enrollDeviceSync(groupId, opts)`.  It runs inside one transaction, so that the key it has
captured is the stored one when the statement runs. -/
def enrollDeviceSync (primitives : SignaturePrimitives) (tables : AdmissionTables)
    (groupId : String) (input : EnrollDeviceInput) (now : String) :
    Except String AdmissionTables := do
  let keyId := ed25519KeyIdForRevocation primitives input.publicKey
  let currentKeyId := tables.storedKeyId primitives groupId input.deviceId
  rejectIf (tables.subjectRevoked (some input.deviceId) keyId = true) "device_revoked"
  rejectIf ((tables.subjectOwned input.deviceId keyId ||
      tables.subjectOwned input.deviceId currentKeyId) = true)
    "device_ownership_requires_verified_identity"
  rejectIf ((tables.enrollment groupId input.deviceId).any (fun stored =>
      !compatibleIdentity stored.identityId input.identityId) = true) "invite_identity_conflict"
  .ok (tables.withEnrolled (insertOrUpdate EnrolledDeviceRow.key
    (enrolledRow groupId input now) (reenrolledRow input) tables.devices.enrolledDevices))

def enrollDevice (primitives : SignaturePrimitives) (tables : AdmissionTables)
    (groupId : String) (input : EnrollDeviceInput) (now : String) :
    Except String Unit × AdmissionTables :=
  inTransaction tables fun tables =>
    (tables.enrollDeviceSync primitives groupId input now).map fun tables' => ((), tables')

/-- The rows of one device with another value of `enabled`. -/
def withEnabled (tables : AdmissionTables) (groupId deviceId : String) (enabled : Bool) :
    AdmissionTables :=
  tables.withEnrolled (updateRows (fun row => decide (row.key = (groupId, deviceId)))
    (fun row => { row with enabled := enabled }) tables.devices.enrolledDevices)

def setDeviceEnabled (primitives : SignaturePrimitives) (tables : AdmissionTables)
    (groupId deviceId : String) (enabled : Bool) : Except String Bool × AdmissionTables :=
  if enabled then
    match tables.enrollment groupId deviceId with
    | none => (.ok false, tables)
    | some row =>
      let keyId := ed25519KeyIdForRevocation primitives row.publicKey
      if tables.subjectRevoked (some deviceId) keyId then (.ok false, tables)
      else if tables.subjectOwned deviceId keyId then
        (.error "device_ownership_requires_verified_identity", tables)
      else (.ok true, tables.withEnabled groupId deviceId true)
  else (.ok (tables.enrollment groupId deviceId).isSome, tables.withEnabled groupId deviceId false)

def removeDevice (tables : AdmissionTables) (groupId deviceId : String) :
    Except String Bool × AdmissionTables :=
  (.ok (tables.enrollment groupId deviceId).isSome,
    tables.withEnrolled (tables.devices.enrolledDevices.filter fun row =>
      decide (row.key ≠ (groupId, deviceId))))

/-! ### Bootstrap grants -/

/-- `INSERT INTO coordinator_bootstrap_grants`: `grant_id` is the primary key. -/
def insertBootstrapGrantRow (tables : AdmissionTables) (row : CoordinatorBootstrapGrant) :
    Except String (Stored CoordinatorBootstrapGrant) :=
  if tables.bootstrapGrants.any fun stored => stored.grantId == row.grantId then
    .error "UNIQUE constraint failed"
  else .ok (row, { tables with bootstrapGrants := tables.bootstrapGrants ++ [row] })

/-- `insertBootstrapGrantSync(db, opts, grantId, createdAt, authorization)`: `authorization` is the
check that an authorized insertion repeats. -/
def insertBootstrapGrantSync (tables : AdmissionTables) (opts : BootstrapGrantInput)
    (grantId createdAt : String) (authorization : Except String Unit) :
    Except String (Stored CoordinatorBootstrapGrant) := do
  let normalized ← normalizeCoordinatorBootstrapGrantInput opts
  authorization
  tables.insertBootstrapGrantRow (bootstrapGrantRow normalized grantId createdAt)

end AdmissionTables

end Codemem

import Codemem.Foundation.KeyedRows
import Codemem.Coordinator.Ed25519KeyId

/-!
# Groups, enrollments and revocations of the coordinator

The tables that the admission of a request reads: `groups`, `enrolled_devices` and
`coordinator_device_revocations`.  A revocation names a device id or the canonical id of a key.
-/

namespace Codemem

/-- A row of `groups`, as far as admission reads it. -/
structure CoordinatorGroupRow where
  groupId : String
  archivedAt : Option String
deriving DecidableEq, Repr

/-- A row of `enrolled_devices`. -/
structure EnrolledDeviceRow where
  groupId : String
  deviceId : String
  publicKey : String
  fingerprint : String
  identityId : Option String
  displayName : Option String
  enabled : Bool
  createdAt : String
deriving DecidableEq, Repr

def EnrolledDeviceRow.key (row : EnrolledDeviceRow) : String × String := (row.groupId, row.deviceId)

/-- What a row of `coordinator_device_revocations` is about: `(subject_kind, subject_value)`. -/
inductive RevocationSubject
  | deviceId (value : String)
  | ed25519Key (value : String)
deriving DecidableEq, Repr

/-- The tables of the coordinator that decide about a device. -/
structure DeviceTables where
  groups : List CoordinatorGroupRow
  enrolledDevices : List EnrolledDeviceRow
  revocations : List RevocationSubject
deriving DecidableEq, Repr

namespace DeviceTables

/-- `DEVICE_REVOCATION_SUBJECT_EXISTS_SQL`: a missing key id matches no row. -/
def revoked (tables : DeviceTables) (deviceId : String) (keyId : Option String) : Bool :=
  tables.revocations.contains (.deviceId deviceId) ||
    keyId.any fun id => tables.revocations.contains (.ed25519Key id)

def getEnrollment (tables : DeviceTables) (groupId deviceId : String) (includeDisabled : Bool) :
    Option EnrolledDeviceRow :=
  (rowAt EnrolledDeviceRow.key (groupId, deviceId) tables.enrolledDevices).filter fun row =>
    includeDisabled || row.enabled

def getGroup (tables : DeviceTables) (groupId : String) : Option CoordinatorGroupRow :=
  rowAt CoordinatorGroupRow.groupId groupId tables.groups

end DeviceTables

def exactText (value : String) : Bool :=
  value != "" && !value.toList.contains (Char.ofNat 0)

end Codemem

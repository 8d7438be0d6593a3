import Codemem.Foundation.Fallible
import Codemem.Recipients.IdentityTables

/-!
# Switching the local identity

`applyLocalIdentitySwitch` carries out a switch that the coordinator has bound: in one transaction it
makes the target the local actor and moves the binding of this device to it.
-/

namespace Codemem

/-- `"local_identity_switch_conflict"`. -/
def switchConflict : String := "local_identity_switch_conflict"

/-- The environment and the configured actor that a switch checks. -/
structure LocalIdentitySwitchContext where
  actorIdOverride : Option String
  deviceIdOverride : Option String
  configuredActor : String

def configStillPrevious (configured previous deviceId : String) : Bool :=
  configured == previous || (configured == "" && previous == "local:" ++ deviceId)

def assertConfigStillPrevious (row : LocalIdentitySwitch) (context : LocalIdentitySwitchContext) :
    Except String Unit := do
  rejectIf (context.actorIdOverride.isSome = true ∨
    context.deviceIdOverride.any (fun id => trim id != "") = true) "local_identity_override_set"
  rejectIf (configStillPrevious context.configuredActor row.previousIdentityId row.deviceId = false)
    switchConflict

def wireKey (key : String) : String :=
  match (sshKeyFields key).2 with
  | none => (sshKeyFields key).1
  | some data => (sshKeyFields key).1 ++ " " ++ data

def publicKeyBytes (value : String) : Option String :=
  if (sshKeyFields value).1 = "ssh-ed25519" then
    (sshKeyFields value).2.map fun bytes => "ssh-ed25519 " ++ bytes
  else none

/-! ### Assigning a device -/

/-- The decisions that a reassignment of a device takes back. -/
def PolicyTables.clearsDecision (policy : PolicyTables) (deviceId : String)
    (row : PolicyTeamDeviceDecision) : Bool :=
  row.deviceId == deviceId && row.decision == "included" &&
    policy.teams.any fun team =>
      team.teamId == row.teamId && team.deviceEligibilityMode == "reviewed_allowlist"

/-- `assignIdentityDeviceInTransaction(db, input)`, for the assignment that the caller expects. -/
def PolicyTables.assignIdentityDevice (policy : PolicyTables)
    (deviceId targetIdentityId displayName : String) (expectation : Option (String × ℤ)) :
    Except String PolicyTables :=
  match rowAt IdentityDevice.deviceId deviceId policy.identityDevices with
  | none => do
    rejectIf (expectation ≠ none) "team_setup_assignment_changed"
    .ok { policy with
      identityDevices := policy.identityDevices ++
        [⟨deviceId, targetIdentityId, displayName, "active", 0⟩] }
  | some before => do
    rejectIf (before.status ≠ "active" ∨
      expectation ≠ some (before.identityId, before.assignmentVersion))
      "team_setup_assignment_changed"
    if before.identityId = targetIdentityId then .ok policy
    else
      .ok { policy with
        identityDevices := updateRows
          (fun row => row.deviceId == deviceId && row.identityId == before.identityId &&
            decide (row.assignmentVersion = before.assignmentVersion) && row.status == "active")
          (fun row => { row with
            identityId := targetIdentityId
            assignmentVersion := row.assignmentVersion + 1 }) policy.identityDevices
        teamDeviceDecisions := updateRows (policy.clearsDecision deviceId)
          (fun row => { row with decision := "unresolved" }) policy.teamDeviceDecisions }

namespace IdentityDb

variable (db : IdentityDb)

/-! ### The state of the device -/

/-- `readRow(db, attemptId)`. -/
def readSwitch (attemptId : String) : Option LocalIdentitySwitch :=
  rowAt LocalIdentitySwitch.attemptId attemptId db.switches

def localDevice : Except String SyncDeviceTuple :=
  match db.syncDevices with
  | [device] => .ok device
  | _ => .error switchConflict

def currentLocalActor : Except String String :=
  match db.policy.identities.filter fun actor => db.localActorIds.contains actor.identityId with
  | [actor] =>
    if actor.status = "active" ∧ actor.mergedIntoIdentityId = none then .ok actor.identityId
    else .error switchConflict
  | _ => .error switchConflict

/-- `assertLocalCaptureAdoptionActors(db, deviceId, actorId)` finds a conflict. -/
def adoptionActorConflict (deviceId actorId : String) : Bool :=
  db.policy.identities.any fun actor =>
    ["local:local", "local:" ++ deviceId, actorId].contains actor.identityId &&
      (!db.localActorIds.contains actor.identityId || actor.status != "active" ||
        actor.mergedIntoIdentityId.isSome)

/-- `adoptCapture(db, deviceId, actorId, publicKey)`: the capture of this device is bound to it. -/
def adoptCapture (fingerprintPublicKey : String → String) (device : SyncDeviceTuple)
    (actorId publicKey : String) : Except String IdentityDb :=
  match db.localCapture with
  | none => .ok db
  | some captureId =>
    if publicKeyBytes device.publicKey = none ∨
        publicKeyBytes publicKey ≠ publicKeyBytes device.publicKey ∨
        fingerprintPublicKey device.publicKey ≠ device.fingerprint then .ok db
    else
      match rowAt Prod.fst captureId db.localCaptureAdoptions with
      | some adopted =>
        if adopted.2 = device then .ok db else .error switchConflict
      | none => do
        rejectIf (db.adoptionActorConflict device.deviceId actorId = true) switchConflict
        .ok { db with localCaptureAdoptions := db.localCaptureAdoptions ++ [(captureId, device)] }

/-! ### The switch -/

def switchActors (row : LocalIdentitySwitch) (displayName : String) : Except String IdentityDb := do
  let target := rowAt PolicyIdentity.identityId row.targetIdentityId db.policy.identities
  rejectIf ((target.any fun actor =>
    actor.status != "active" || actor.mergedIntoIdentityId.isSome) = true) switchConflict
  .ok { db with
    localActorIds := (db.localActorIds.filter fun id => decide (id ≠ row.previousIdentityId)) ++
      [row.targetIdentityId]
    policy := { db.policy with
      identities := if target.isSome then db.policy.identities
        else db.policy.identities ++ [⟨row.targetIdentityId, displayName, "active", none⟩] } }

def switchDeviceBinding (row : LocalIdentitySwitch) (displayName : String) :
    Except String IdentityDb := do
  let current := db.currentBinding row.deviceId
  rejectIf ((current.any fun binding =>
    binding.status != "active" || binding.identityId != row.previousIdentityId) = true)
    switchConflict
  let policy ← db.policy.assignIdentityDevice row.deviceId row.targetIdentityId displayName
    (current.map fun binding => (binding.identityId, binding.assignmentVersion))
  .ok { db with policy := policy }

/-- `bumpGeneration(db, actorId, now)` and the new state of the record. -/
def commitSwitch (row : LocalIdentitySwitch) : IdentityDb :=
  { db with
    generation := some ((db.generation.map Prod.fst).getD 0 + 1, row.targetIdentityId)
    switches := updateRows (fun stored => stored.attemptId == row.attemptId &&
        decide (stored.state = .coordinatorBound))
      (fun stored => { stored with state := .dbCommitted }) db.switches }

/-- The transaction of `applyLocalIdentitySwitch`, for a switch that the coordinator has bound. -/
def switchBody (fingerprintPublicKey : String → String) (row : LocalIdentitySwitch)
    (displayName expectedPublicKey : String) : Except String IdentityDb := do
  rejectIf (row.state ≠ .coordinatorBound) switchConflict
  let device ← db.localDevice
  rejectIf (device.deviceId ≠ row.deviceId ∨
    wireKey device.publicKey ≠ wireKey expectedPublicKey) switchConflict
  let actorId ← db.currentLocalActor
  rejectIf (actorId ≠ row.previousIdentityId) switchConflict
  let adopted ← db.adoptCapture fingerprintPublicKey device row.previousIdentityId expectedPublicKey
  let switched ← adopted.switchActors row displayName
  let bound ← switched.switchDeviceBinding row displayName
  .ok (bound.commitSwitch row)

def applyLocalIdentitySwitch (fingerprintPublicKey : String → String)
    (attemptId displayName expectedPublicKey : String) (context : LocalIdentitySwitchContext) :
    Except String IdentityDb := do
  rejectIf (trim displayName = "") switchConflict
  match db.readSwitch attemptId with
  | none => .error "local_identity_switch_not_found"
  | some row =>
    if row.state = .dbCommitted ∨ row.state = .completed then .ok db
    else do
      assertConfigStillPrevious row context
      db.switchBody fingerprintPublicKey row (trim displayName) expectedPublicKey

end IdentityDb

end Codemem

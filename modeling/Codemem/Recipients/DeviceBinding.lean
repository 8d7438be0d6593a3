import Codemem.Foundation.Fallible
import Codemem.Recipients.IdentityTables

/-!
# Binding devices to identities

`commitDeviceIdentityBindings` binds devices to identities as a user has confirmed it, in one
transaction: it compares the reviewed evidence, writes the bindings and wakes the policies of the
identities that lost or gained a device.
-/

namespace Codemem

/-! ### Requests and evidence -/

inductive DeviceIdentityInventoryState where
  | configured
  | setupRequired
  | pairingRequired
  | conflicted
deriving DecidableEq

/-- `DeviceIdentityInventoryItemV1`, as far as bindings read it. -/
structure DeviceIdentityInventoryItem where
  deviceId : String
  evidenceDeviceIds : List String
  displayName : String
  state : DeviceIdentityInventoryState
  identityId : Option String
  validatedFingerprint : Option String
  isLocal : Bool
  sources : List String
  conflictCodes : List String
deriving DecidableEq

/-- `DeviceIdentityInventoryV1`. -/
structure DeviceIdentityInventory where
  items : List DeviceIdentityInventoryItem
  available : Bool
  safeErrorCode : Option String
  truncated : Bool

/-- `DeviceIdentityBindingSelectionV1`. -/
structure DeviceIdentityBindingSelection where
  deviceId : String
  targetIdentityId : String
  confirmed : Bool
  allowRebind : Option Bool
deriving DecidableEq

structure ReviewedItemEvidence where
  deviceId : String
  evidenceDeviceIds : List String
  state : DeviceIdentityInventoryState
  identityId : Option String
  validatedFingerprint : Option String
  isLocal : Bool
  sources : List String
  conflictCodes : List String
deriving DecidableEq

def reviewedItemEvidence (item : DeviceIdentityInventoryItem) : ReviewedItemEvidence :=
  ⟨item.deviceId, item.evidenceDeviceIds, item.state, item.identityId, item.validatedFingerprint,
    item.isLocal, item.sources, item.conflictCodes⟩

/-- What the digest of a preview covers. -/
structure BindingPreviewFacts where
  selectedItems : List ReviewedItemEvidence
  coordinatorAvailable : Bool
  inventoryTruncated : Bool
  request : List NormalizedBinding

/-- The inventory of the devices, which reads peers and enrollments too, and the digests. -/
structure BindingTools where
  listDeviceIdentityInventory : IdentityDb → DeviceIdentityInventory
  previewDigest : BindingPreviewFacts → String
  commitDigest : List NormalizedBinding → String → String

/-- `DeviceIdentityBindingStatusV1`. -/
inductive DeviceIdentityBindingStatus where
  | applied
  | invalid
  | notFound
  | stale
  | conflict
deriving DecidableEq

structure BindingRefusal where
  status : DeviceIdentityBindingStatus
  errorCode : String
deriving DecidableEq

/-- `DeviceIdentityBindingPreviewV1` of a request that is ready. -/
structure DeviceIdentityBindingPreview where
  reviewedInventoryDigest : String
  outcomes : List DeviceIdentityBindingOutcome

def normalizedRequest (bindings : List DeviceIdentityBindingSelection) : List NormalizedBinding :=
  bindings.map fun binding => ⟨binding.deviceId, binding.targetIdentityId, binding.confirmed,
    binding.allowRebind == some true⟩

def validSelection (value : DeviceIdentityBindingSelection) : Bool :=
  trim value.deviceId == value.deviceId && value.deviceId != "" &&
    trim value.targetIdentityId == value.targetIdentityId && value.targetIdentityId != "" &&
    value.confirmed

/-- `BINDING_LIMIT`. -/
def bindingLimit : ℕ := 100

/-! ### Previews -/

/-- `outcome(item, selection, deviceId)`. -/
def bindingOutcome (item : DeviceIdentityInventoryItem)
    (selection : DeviceIdentityBindingSelection) (deviceId : String) :
    Except BindingRefusal DeviceIdentityBindingOutcome :=
  let outcome (action : DeviceIdentityBindingAction) : DeviceIdentityBindingOutcome :=
    ⟨deviceId, item.displayName, selection.targetIdentityId, item.identityId, action, item.isLocal⟩
  match item.state with
  | .pairingRequired => .error ⟨.conflict, "device_pairing_required"⟩
  | .conflicted => .error ⟨.conflict, "device_evidence_conflict"⟩
  | .configured =>
    if item.identityId = some selection.targetIdentityId then .ok (outcome .unchanged)
    else if selection.allowRebind = some true then .ok (outcome .rebind)
    else .error ⟨.conflict, "device_rebind_confirmation_required"⟩
  | .setupRequired => .ok (outcome .bind)

namespace IdentityDb

variable (tools : BindingTools) (db : IdentityDb)

def authoritativeDeviceId (item : DeviceIdentityInventoryItem) : Except BindingRefusal String :=
  if item.state = .configured then
    match item.evidenceDeviceIds.filter fun deviceId =>
      (db.currentBinding deviceId).any fun row => row.status == "active" with
    | [deviceId] => .ok deviceId
    | _ => .error ⟨.conflict, "device_evidence_conflict"⟩
  else .ok item.deviceId

def plannedOutcome (planned : DeviceIdentityBindingSelection × DeviceIdentityInventoryItem) :
    Except BindingRefusal DeviceIdentityBindingOutcome :=
  if db.isActiveUnmergedActor planned.1.targetIdentityId then do
    let deviceId ← db.authoritativeDeviceId planned.2
    bindingOutcome planned.2 planned.1 deviceId
  else .error ⟨.notFound, "target_identity_unavailable"⟩

/-- The item of a selection; a later item of a device takes the place of an earlier one. -/
def selectedItem (inventory : DeviceIdentityInventory)
    (selection : DeviceIdentityBindingSelection) :
    Except BindingRefusal (DeviceIdentityBindingSelection × DeviceIdentityInventoryItem) :=
  match rowAt DeviceIdentityInventoryItem.deviceId selection.deviceId inventory.items.reverse with
  | none => .error ⟨.notFound, "device_not_found"⟩
  | some item => .ok (selection, item)

/-- The inventory is complete enough for the selected items. -/
def inventoryComplete (inventory : DeviceIdentityInventory)
    (items : List DeviceIdentityInventoryItem) : Bool :=
  inventory.available ||
    (inventory.safeErrorCode == some "coordinator_not_configured" &&
      items.all DeviceIdentityInventoryItem.isLocal)

def previewDeviceIdentityBindings (bindings : List DeviceIdentityBindingSelection) :
    Except BindingRefusal DeviceIdentityBindingPreview :=
  if bindings = [] ∨ bindingLimit < bindings.length ∨ bindings.all validSelection = false then
    .error ⟨.invalid, "binding_request_invalid"⟩
  else if ¬ (bindings.map DeviceIdentityBindingSelection.deviceId).Nodup then
    .error ⟨.invalid, "duplicate_device_id"⟩
  else
    let inventory := tools.listDeviceIdentityInventory db
    if inventory.truncated then .error ⟨.conflict, "device_inventory_truncated"⟩
    else do
      let selected ← bindings.mapM (selectedItem inventory)
      if inventoryComplete inventory (selected.map Prod.snd) = false then
        .error ⟨.conflict, "device_inventory_incomplete"⟩
      else do
        let outcomes ← selected.mapM db.plannedOutcome
        .ok ⟨tools.previewDigest
          ⟨selected.map fun planned => reviewedItemEvidence planned.2, inventory.available,
            inventory.truncated, normalizedRequest bindings⟩, outcomes⟩

/-! ### Commits -/

/-- `DeviceIdentityBindingCommitV1` of a commit that is applied or was applied before. -/
structure BindingCommit where
  outcomes : List DeviceIdentityBindingOutcome
  idempotent : Bool

/-- The bindings of a stored commit still hold. -/
def stillApplied (outcomes : List DeviceIdentityBindingOutcome) : Bool :=
  outcomes.all fun item =>
    ((db.currentBinding item.deviceId).any fun binding =>
      binding.status == "active" && binding.identityId == item.targetIdentityId) &&
    db.isActiveUnmergedActor item.targetIdentityId

/-- `exactRetry(db, …)`: the answer to a repeated commit. -/
def exactRetry (bindings : List DeviceIdentityBindingSelection) (commitDigest : String) :
    Option (Except BindingRefusal BindingCommit) :=
  (rowAt StoredBindingCommit.commitDigest commitDigest db.bindingCommits).map fun stored =>
    if stored.request ≠ normalizedRequest bindings then
      .error ⟨.conflict, "binding_commit_conflict"⟩
    else if db.stillApplied stored.outcomes = false then .error ⟨.stale, "binding_retry_stale"⟩
    else
      match db.previewDeviceIdentityBindings tools bindings with
      | .error refusal => .error refusal
      | .ok revalidated =>
        if (revalidated.outcomes.any fun item => decide (item.action ≠ .unchanged)) = true then
          .error ⟨.stale, "binding_retry_stale"⟩
        else .ok ⟨stored.outcomes, true⟩

/-- `UPDATE identity_devices SET identity_id = ?, status = 'active' …`, with the trigger that counts
the assignments. -/
def reboundDevice (targetIdentityId : String) (row : IdentityDevice) : IdentityDevice :=
  { row with
    identityId := targetIdentityId
    status := "active"
    assignmentVersion :=
      if row.identityId = targetIdentityId then row.assignmentVersion
      else row.assignmentVersion + 1 }

def rebinds (outcome : DeviceIdentityBindingOutcome) (row : IdentityDevice) : Bool :=
  row.deviceId == outcome.deviceId && outcome.previousIdentityId == some row.identityId &&
    row.status == "active"

def writtenDevices (outcome : DeviceIdentityBindingOutcome) : List IdentityDevice :=
  match outcome.action with
  | .rebind => updateRows (rebinds outcome) (reboundDevice outcome.targetIdentityId)
      db.policy.identityDevices
  | .bind => db.policy.identityDevices ++
      [⟨outcome.deviceId, outcome.targetIdentityId, outcome.displayName, "active", 0⟩]
  | .unchanged => db.policy.identityDevices

def writeBinding (commitDigest : String) (db : IdentityDb)
    (outcome : DeviceIdentityBindingOutcome) : Except BindingRefusal IdentityDb :=
  let before := db.currentBinding outcome.deviceId
  if outcome.action = .bind ∧ before.isSome = true then
    .error ⟨.conflict, "binding_write_conflict"⟩
  else if outcome.action = .rebind ∧ (before.any fun row => row.status == "active" &&
      outcome.previousIdentityId == some row.identityId) = false then
    .error ⟨.stale, "binding_rebind_stale"⟩
  else if outcome.action = .unchanged ∧ (before.any fun row => row.status == "active" &&
      row.identityId == outcome.targetIdentityId) = false then
    .error ⟨.stale, "binding_unchanged_stale"⟩
  else if outcome.action = .rebind ∧
      (db.policy.identityDevices.filter (rebinds outcome)).length ≠ 1 then
    .error ⟨.stale, "binding_rebind_stale"⟩
  else
    let written : IdentityDb :=
      { db with policy := { db.policy with identityDevices := db.writtenDevices outcome } }
    if ((written.currentBinding outcome.deviceId).any fun row => row.status == "active" &&
        row.identityId == outcome.targetIdentityId) = false then
      .error ⟨.stale, "binding_write_stale"⟩
    else if db.bindingAudit.contains (commitDigest, outcome.deviceId) then
      .error ⟨.conflict, "binding_commit_conflict"⟩
    else .ok { written with bindingAudit := db.bindingAudit ++ [(commitDigest, outcome.deviceId)] }

/-- The identities whose devices a commit changes: `wakePoliciesForBindingChanges`. -/
def changedIdentities (outcomes : List DeviceIdentityBindingOutcome) : List String :=
  (outcomes.filter fun outcome => decide (outcome.action ≠ .unchanged)).flatMap fun outcome =>
    (outcome.previousIdentityId.filter fun id => decide (id ≠ "")).toList ++
      [outcome.targetIdentityId]

def commitDeviceIdentityBindings (localActorId : String)
    (bindings : List DeviceIdentityBindingSelection) (reviewedInventoryDigest : String) :
    Except BindingRefusal BindingCommit × IdentityDb :=
  if reviewedInventoryDigest = "" then
    (.error ⟨.invalid, "reviewed_inventory_digest_required"⟩, db)
  else
    let commitDigest := tools.commitDigest (normalizedRequest bindings) reviewedInventoryDigest
    match db.exactRetry tools bindings commitDigest with
    | some answer => (answer, db)
    | none =>
      match db.previewDeviceIdentityBindings tools bindings with
      | .error refusal => (.error refusal, db)
      | .ok preview =>
        if preview.reviewedInventoryDigest ≠ reviewedInventoryDigest then
          (.error ⟨.stale, "binding_evidence_stale"⟩, db)
        else if db.isActiveUnmergedLocalActor localActorId = false then
          (.error ⟨.invalid, "deciding_identity_unavailable"⟩, db)
        else
          let recorded : IdentityDb :=
            { db with
              bindingCommits := db.bindingCommits ++
                [⟨commitDigest, normalizedRequest bindings, preview.outcomes⟩] }
          match preview.outcomes.foldlM (writeBinding commitDigest) recorded with
          | .error refusal => (.error refusal, db)
          | .ok written =>
            (.ok ⟨preview.outcomes, false⟩,
              written.wakeRecipientPoliciesForIdentities (changedIdentities preview.outcomes))

end IdentityDb

end Codemem

import Codemem.Recipients.EffectiveDevices
import Codemem.Foundation.Fallible

/-!
# The tables of the reconciler

For every project the reconciler keeps one row with the state of its authority, which also carries
the lease of the run at work, the steps with the effects that were asked for, and the deny overlays
of devices whose revocation is not verified yet.

Times are milliseconds.  A digest is modelled by what it is taken of: two digests are equal exactly
when their contents are.
-/

namespace Codemem

/-! ### Digests -/

/-- `deviceDigest`: the digest of sorted device identifiers. -/
structure DeviceDigest where
  deviceIds : List String
  deriving DecidableEq, Repr

def deviceDigest (deviceIds : List String) : DeviceDigest := ⟨sortByPos utf16 deviceIds⟩

/-- `recipient-policy-parity-v1`: the digest of the evidence of a parity pass. -/
structure ParityEvidence where
  canonicalProjectIdentity : String
  generation : ℕ
  scopeId : String
  desiredDevicesDigest : DeviceDigest
  deviceIds : List String
  deriving DecidableEq, Repr

/-- `recipient-policy-snapshot-state-v1`: the digest of the fingerprint of a snapshot. -/
structure SnapshotStateKey where
  fingerprint : String
  deriving DecidableEq, Repr

/-- `recipient-policy-pass-v1`: the digest of the fingerprint and the time of a snapshot. -/
structure PassKey where
  fingerprint : String
  observedAt : ℤ
  deriving DecidableEq, Repr

/-! ### Rows -/

/-- `RecipientPolicyAuthorityState`. -/
inductive AuthorityStatus where
  | legacy
  | eligible
  | active
  | rolledBack
  deriving DecidableEq, Repr

/-- A row of `recipient_policy_authority_states`. -/
structure AuthorityState where
  canonicalProjectIdentity : String
  authorityState : AuthorityStatus
  generation : ℕ
  desiredDevicesDigest : Option DeviceDigest
  currentDevicesDigest : Option DeviceDigest
  stableParityEvidenceDigest : Option ParityEvidence
  stableParityPassedAt : Option ℤ
  freshSnapshotFingerprint : Option String
  freshSnapshotObservedAt : Option ℤ
  safeErrorCode : Option String
  stateChangedAt : ℤ
  lastErrorAt : Option ℤ
  attemptCount : ℕ
  lastAttemptAt : Option ℤ
  wakeEpoch : ℕ
  lastCompletedAt : Option ℤ
  leaseOwner : Option String
  leaseAcquiredAt : Option ℤ
  leaseExpiresAt : Option ℤ
  updatedAt : ℤ
  deriving DecidableEq, Repr

/-- The row that a first run inserts. -/
def AuthorityState.fresh (projectId : String) (now : ℤ) : AuthorityState where
  canonicalProjectIdentity := projectId
  authorityState := .legacy
  generation := 0
  desiredDevicesDigest := none
  currentDevicesDigest := none
  stableParityEvidenceDigest := none
  stableParityPassedAt := none
  freshSnapshotFingerprint := none
  freshSnapshotObservedAt := none
  safeErrorCode := none
  stateChangedAt := now
  lastErrorAt := none
  attemptCount := 0
  lastAttemptAt := none
  wakeEpoch := 0
  lastCompletedAt := none
  leaseOwner := none
  leaseAcquiredAt := none
  leaseExpiresAt := none
  updatedAt := now

inductive EnrollmentRevocationReason where
  | enrollmentDisabled
  | enrollmentIdentityConflict
  deriving DecidableEq, Repr

inductive EnrollmentRevocationPhase where
  | steadyState
  | postGrant
  deriving DecidableEq, Repr

inductive StepKey where
  | revoke (snapshotStateKey : SnapshotStateKey) (deviceId : String)
  | revokeEnrollment (reason : EnrollmentRevocationReason) (phase : EnrollmentRevocationPhase)
      (snapshotStateKey : SnapshotStateKey) (deviceId : String)
  | refreshAfterRevocations (scopeId : String) (phase : EnrollmentRevocationPhase)
      (snapshotStateKey : SnapshotStateKey) (revocation : StepKey)
  | capability (passKey : PassKey) (deviceId : String)
  | grant (snapshotStateKey : SnapshotStateKey) (deviceId : String)
  | refresh (passKey : PassKey)
  deriving DecidableEq, Repr

/-- The payload of a step, which its digest stands for. -/
inductive StepPayload where
  | revocation (scopeId deviceId : String)
  | grant (scopeId deviceId : String)
  | capability (deviceId : String) (passKey : PassKey)
  | project (canonicalProjectIdentity : String)
  deriving DecidableEq, Repr

/-- `deterministicRecipientPolicyReconciliationEffectId`, by what it is the digest of. -/
structure EffectId where
  canonicalProjectIdentity : String
  generation : ℕ
  stepKey : StepKey
  payload : StepPayload
  deriving DecidableEq, Repr

inductive StepStatus where
  | pending
  | running
  | completed
  | failed
  deriving DecidableEq, Repr

/-- A row of `recipient_policy_reconciliation_steps`. -/
structure ReconciliationStep where
  canonicalProjectIdentity : String
  generation : ℕ
  stepKey : StepKey
  effectId : EffectId
  payload : StepPayload
  status : StepStatus
  attemptCount : ℕ
  startedAt : Option ℤ
  completedAt : Option ℤ
  lastAttemptAt : Option ℤ
  safeErrorCode : Option String
  errorAt : Option ℤ
  leaseOwner : Option String
  leaseAcquiredAt : Option ℤ
  leaseExpiresAt : Option ℤ
  updatedAt : ℤ
  deriving DecidableEq, Repr

abbrev StepId := String × ℕ × StepKey

/-- The primary key of a step. -/
def ReconciliationStep.id (step : ReconciliationStep) : StepId :=
  (step.canonicalProjectIdentity, step.generation, step.stepKey)

/-- A row of `recipient_policy_deny_overlays`. -/
structure PolicyDenyOverlay where
  canonicalProjectIdentity : String
  scopeId : String
  deviceId : String
  generation : ℕ
  reasonCode : String
  updatedAt : ℤ
  deriving DecidableEq, Repr

/-- The primary key of an overlay. -/
def PolicyDenyOverlay.id (overlay : PolicyDenyOverlay) : String × String × String :=
  (overlay.canonicalProjectIdentity, overlay.scopeId, overlay.deviceId)

/-- The tables that the reconciler reads and writes, and the clock. -/
structure ReconcilerDb where
  policy : PolicyTables
  authorityStates : List AuthorityState
  steps : List ReconciliationStep
  overlays : List PolicyDenyOverlay
  now : ℤ

/-- `validId`. -/
def isValidId (value : String) : Bool :=
  !value.toList.isEmpty && value == trim value &&
    !value.toList.any fun c => decide (c.toNat < 0x20 ∨ 0x7F ≤ c.toNat ∧ c.toNat ≤ 0x9F)

/-! ### The managed boundary -/

/-- Both identities of a mapping stand for the project. -/
def PolicyTables.mapsTo (db : PolicyTables) (mapping : ProjectScopeMapping) (projectId : String) :
    Bool :=
  (mapping.workspaceIdentity.any fun workspace => db.canonical workspace == projectId) &&
    db.canonical mapping.projectPattern == projectId

def PolicyTables.mappedProjectsForScope (db : PolicyTables) (mappings : List ProjectScopeMapping) :
    List String :=
  (mappings.filterMap fun mapping => mapping.workspaceIdentity.bind fun workspace =>
    if db.canonical workspace == db.canonical mapping.projectPattern then
      some (db.canonical workspace)
    else none).eraseDups

/-- The active scopes with an identifier that a coordinator manages for one project. -/
def PolicyTables.managedScopes (db : PolicyTables) (scopeId : String) : List ManagedScope :=
  db.replicationScopes.filter fun scope =>
    scope.scopeId == scopeId && scope.kind == "managed_project" &&
      scope.authorityType == "coordinator" && scope.status == "active"

/-- `boundary`: the scope that the project is mapped to. -/
def PolicyTables.boundary (db : PolicyTables) (projectId : String) : Except String String :=
  let matching := db.projectScopeMappings.filter fun mapping => db.mapsTo mapping projectId
  match (matching.map ProjectScopeMapping.scopeId).eraseDups with
  | [scopeId] =>
    if !isValidId scopeId then .error "recipient_policy_exact_mapping_required"
    else
      let scopeMappings := db.projectScopeMappings.filter fun mapping => mapping.scopeId == scopeId
      match db.managedScopes scopeId with
      | [scope] =>
        if db.mappedProjectsForScope scopeMappings == [projectId] &&
            (scopeMappings.all fun mapping => db.mapsTo mapping projectId) &&
            isValidId (scope.coordinatorId.getD "") && isValidId (scope.groupId.getD "") then
          .ok scope.scopeId
        else .error "recipient_policy_active_managed_scope_required"
      | _ => .error "recipient_policy_active_managed_scope_required"
  | _ => .error "recipient_policy_exact_mapping_required"

namespace ReconcilerDb

variable (db : ReconcilerDb)

/-! ### Authority rows -/

/-- `getRecipientPolicyAuthorityState`. -/
def authority (projectId : String) : Option AuthorityState :=
  rowAt AuthorityState.canonicalProjectIdentity projectId db.authorityStates

def updateAuthority (projectId : String) (write : AuthorityState → AuthorityState) :
    ReconcilerDb :=
  { db with
    authorityStates := updateRows (fun row => row.canonicalProjectIdentity == projectId) write
      db.authorityStates }

end ReconcilerDb

end Codemem

import Codemem.Coordinator.ScopeTables

/-!
# Input rules of the coordinator stores

The part of `coordinator-store-input-rules.ts` that both stores apply to scopes and memberships.  An
epoch may be left out; a requested one is cut down to an integer and must not move backwards.
-/

namespace Codemem

def normalizeEpoch (value : NumberInput) (fallback : ℤ) : Except String ℤ :=
  match value with
  | .absent => .ok fallback
  | .notFinite => .error "membershipEpoch must be non-negative."
  | .finite number =>
    if number < 0 then .error "membershipEpoch must be non-negative." else .ok number.floor

/-- `opts.membershipEpoch == null ? null : normalizeEpoch(opts.membershipEpoch)`. -/
def requestedEpoch (value : NumberInput) : Except String (Option ℤ) :=
  match value with
  | .absent => .ok none
  | value => (normalizeEpoch value 0).map some

/-! ### Scopes -/

structure CoordinatorCreateScopeInput where
  scopeId : String
  label : String
  kind : Option String
  authorityType : Option String
  coordinatorId : Option String
  groupId : Option String
  manifestIssuerDeviceId : Option String
  membershipEpoch : NumberInput
  manifestHash : Option String
  status : Option String
deriving DecidableEq

/-- `CoordinatorUpdateScopeInput`: a field that is `none` is left out of the object. -/
structure CoordinatorUpdateScopeInput where
  scopeId : String
  label : Option (Option String)
  kind : Option (Option String)
  authorityType : Option (Option String)
  coordinatorId : Option (Option String)
  groupId : Option (Option String)
  manifestIssuerDeviceId : Option (Option String)
  membershipEpoch : NumberInput
  manifestHash : Option (Option String)
  status : Option (Option String)
deriving DecidableEq

/-- A scope as the rules leave it, before the store adds its time stamps. -/
structure NormalizedScope where
  scopeId : String
  label : String
  kind : String
  authorityType : String
  coordinatorId : Option String
  groupId : Option String
  manifestIssuerDeviceId : Option String
  membershipEpoch : ℤ
  manifestHash : Option String
  status : String
deriving DecidableEq

def normalizeCoordinatorCreateScopeInput (opts : CoordinatorCreateScopeInput) :
    Except String NormalizedScope :=
  match cleanText opts.scopeId, cleanText opts.label with
  | some scopeId, some label => do
    let membershipEpoch ← normalizeEpoch opts.membershipEpoch 0
    .ok {
      scopeId := scopeId
      label := label
      kind := (cleanText opts.kind).getD "user"
      authorityType := (cleanText opts.authorityType).getD "coordinator"
      coordinatorId := cleanText opts.coordinatorId
      groupId := cleanText opts.groupId
      manifestIssuerDeviceId := cleanText opts.manifestIssuerDeviceId
      membershipEpoch := membershipEpoch
      manifestHash := cleanText opts.manifestHash
      status := (cleanText opts.status).getD "active" }
  | _, _ => .error "scopeId and label are required."

def cleanRequiredUpdate (value : Option (Option String)) (current fieldName : String) :
    Except String String :=
  match value with
  | none => .ok current
  | some value =>
    match cleanText value with
    | none => .error (fieldName ++ " must not be empty.")
    | some cleaned => .ok cleaned

def cleanNullableUpdate (value : Option (Option String)) (current : Option String) :
    Option String :=
  match value with
  | none => current
  | some value => cleanText value

/-- The epoch an update writes: the requested one, unless it moves backwards. -/
def updatedScopeEpoch (requested : Option ℤ) (current : ℤ) : Except String ℤ :=
  match requested with
  | none => .ok current
  | some epoch =>
    if epoch < current then .error "membershipEpoch must not move backwards." else .ok epoch

def normalizeCoordinatorUpdateScopeInput (opts : CoordinatorUpdateScopeInput)
    (existing : CoordinatorScope) : Except String NormalizedScope :=
  match cleanText opts.scopeId with
  | none => .error "scopeId is required."
  | some scopeId => do
    let requested ← requestedEpoch opts.membershipEpoch
    let membershipEpoch ← updatedScopeEpoch requested existing.membershipEpoch
    let label ← cleanRequiredUpdate opts.label existing.label "label"
    let kind ← cleanRequiredUpdate opts.kind existing.kind "kind"
    let authorityType ← cleanRequiredUpdate opts.authorityType existing.authorityType
      "authorityType"
    let status ← cleanRequiredUpdate opts.status existing.status "status"
    .ok {
      scopeId := scopeId
      label := label
      kind := kind
      authorityType := authorityType
      coordinatorId := cleanNullableUpdate opts.coordinatorId existing.coordinatorId
      groupId := cleanNullableUpdate opts.groupId existing.groupId
      manifestIssuerDeviceId :=
        cleanNullableUpdate opts.manifestIssuerDeviceId existing.manifestIssuerDeviceId
      membershipEpoch := membershipEpoch
      manifestHash := cleanNullableUpdate opts.manifestHash existing.manifestHash
      status := status }

/-! ### Memberships -/

/-- A grant as the rules leave it. -/
structure NormalizedGrant where
  scopeId : String
  deviceId : String
  role : String
  membershipEpoch : ℤ
  coordinatorId : Option String
  groupId : Option String
  manifestIssuerDeviceId : Option String
  manifestHash : Option String
  signedManifestJson : Option String
  actorType : Option String
  actorId : Option String
deriving DecidableEq

/-- The message of `CoordinatorMembershipError("scope_group_mismatch")`. -/
def scopeGroupMismatch : String := "membership groupId must match the scope groupId."

def validateMembershipScopeBindings (opts : CoordinatorGrantScopeMembershipInput)
    (scope : CoordinatorScope) : Except String Unit :=
  if (cleanText opts.coordinatorId).isSome = true ∧
      cleanText opts.coordinatorId ≠ scope.coordinatorId then
    .error "membership coordinatorId must match the scope coordinatorId."
  else if (cleanText opts.groupId).isSome = true ∧ cleanText opts.groupId ≠ scope.groupId then
    .error scopeGroupMismatch
  else .ok ()

/-- The epoch below which an explicit grant moves a membership backwards. -/
def minimumGrantEpoch (existing : CoordinatorScopeMembership) : ℤ :=
  if existing.status = "revoked" then existing.membershipEpoch + 1 else existing.membershipEpoch

def normalizeMembershipEpoch (opts : CoordinatorGrantScopeMembershipInput)
    (scope : CoordinatorScope) (existing : Option CoordinatorScopeMembership) :
    Except String ℤ := do
  let requested ← requestedEpoch opts.membershipEpoch
  let inheritedEpoch := scope.membershipEpoch
  match requested, existing with
  | some epoch, existing =>
    if epoch < inheritedEpoch then
      .error "membershipEpoch must not be lower than the scope membershipEpoch."
    else if existing.any fun row => decide (epoch < minimumGrantEpoch row) then
      .error "membershipEpoch must not move backwards."
    else .ok epoch
  | none, some row => .ok (max inheritedEpoch (minimumGrantEpoch row))
  | none, none => .ok inheritedEpoch

def normalizeCoordinatorGrantScopeMembershipInput (opts : CoordinatorGrantScopeMembershipInput)
    (scope : CoordinatorScope) (existing : Option CoordinatorScopeMembership) :
    Except String NormalizedGrant :=
  match cleanText opts.scopeId, cleanText opts.deviceId with
  | some scopeId, some deviceId => do
    let _ ← validateMembershipScopeBindings opts scope
    let membershipEpoch ← normalizeMembershipEpoch opts scope existing
    .ok {
      scopeId := scopeId
      deviceId := deviceId
      role := (cleanText opts.role).getD "member"
      membershipEpoch := membershipEpoch
      coordinatorId := scope.coordinatorId
      groupId := scope.groupId
      manifestIssuerDeviceId :=
        (cleanText opts.manifestIssuerDeviceId).or scope.manifestIssuerDeviceId
      manifestHash := (cleanText opts.manifestHash).or scope.manifestHash
      signedManifestJson := cleanText opts.signedManifestJson
      actorType := cleanText opts.actorType
      actorId := cleanText opts.actorId }
  | _, _ => .error "scopeId and deviceId are required."

end Codemem

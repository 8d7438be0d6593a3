import Codemem.Coordinator.StoreInputRules

/-!
# Granting and revoking memberships

`grantScopeMembership` and `revokeScopeMembership` of both coordinator stores.  The SQLite store runs
each call in one immediate transaction.  The D1 store sends one statement after the other and is
suspended at each of them; what it changes it changes in one atomic batch, whose statements see
through `changes()` whether the one before them changed a row.
-/

namespace Codemem

/-! ### Calls -/

/-- A grant whose effect id has been checked. -/
structure GrantCall where
  opts : CoordinatorGrantScopeMembershipInput
  effectId : String

def GrantCall.request (call : GrantCall) : MembershipEffectRequest :=
  grantMembershipEffectRequestJson call.opts

/-- A revocation whose ids have been checked. -/
structure RevokeCall where
  opts : CoordinatorRevokeScopeMembershipInput
  scopeId : String
  deviceId : String
  effectId : String

/-- The contents of the request of a revocation. -/
def RevokeCall.request (call : RevokeCall) : MembershipEffectRequest :=
  revokeMembershipEffectRequestJson call.opts

/-- The beginning of `grantScopeMembership(opts)`. -/
def startGrant (opts : CoordinatorGrantScopeMembershipInput) : Except String GrantCall :=
  (normalizeMembershipEffectId opts.effectId).map fun effectId => ⟨opts, effectId⟩

/-- The beginning of `revokeScopeMembership(opts)`. -/
def startRevoke (opts : CoordinatorRevokeScopeMembershipInput) : Except String RevokeCall :=
  match cleanText opts.scopeId, cleanText opts.deviceId with
  | some scopeId, some deviceId =>
    (normalizeMembershipEffectId opts.effectId).map fun effectId =>
      ⟨opts, scopeId, deviceId, effectId⟩
  | _, _ => .error "scopeId and deviceId are required."

/-- The scope that a grant needs: an active one. -/
def activeScope : Option CoordinatorScope → Except String CoordinatorScope
  | none => .error "scopeId must reference an existing scope."
  | some scope => if scope.status = "active" then .ok scope else .error "scope is not active."

/-- The group in which a grant needs an enabled enrollment of the device. -/
def NormalizedGrant.enrollmentGroup (grant : NormalizedGrant) : Option String :=
  grant.groupId.filter fun groupId => groupId != ""

/-- The enrollment that a grant needs. -/
def requireEnrollment : Option EnrolledDeviceRow → Except String Unit
  | none => .error "device must be enrolled and enabled in the scope group."
  | some _ => .ok ()

def requireScopeGroup (requestedGroupId : Option String) (scope : Option CoordinatorScope) :
    Except String Unit :=
  if requestedGroupId.isSome = true ∧ requestedGroupId ≠ scope.bind CoordinatorScope.groupId then
    .error scopeGroupMismatch
  else .ok ()

/-- A revocation with the membership it was decided on: an explicit epoch is greater than the one of
that membership. -/
structure RevokePlan where
  call : RevokeCall
  membershipEpoch : Option ℤ
  existing : Option CoordinatorScopeMembership
  epoch_lt : ∀ epoch ∈ membershipEpoch, ∀ row ∈ existing, row.membershipEpoch < epoch

/-- `membershipEpoch != null && existing && membershipEpoch <= existing.membership_epoch` throws. -/
def planRevoke (call : RevokeCall) (membershipEpoch : Option ℤ)
    (existing : Option CoordinatorScopeMembership) : Except String RevokePlan :=
  if h : ∀ epoch ∈ membershipEpoch, ∀ row ∈ existing, row.membershipEpoch < epoch then
    .ok ⟨call, membershipEpoch, existing, h⟩
  else .error "membershipEpoch must increase on revoke."

/-! ### Writes -/

def NormalizedGrant.row (grant : NormalizedGrant) (now : String) : CoordinatorScopeMembership where
  scopeId := grant.scopeId
  deviceId := grant.deviceId
  role := grant.role
  status := "active"
  membershipEpoch := grant.membershipEpoch
  coordinatorId := grant.coordinatorId
  groupId := grant.groupId
  manifestIssuerDeviceId := grant.manifestIssuerDeviceId
  manifestHash := grant.manifestHash
  signedManifestJson := grant.signedManifestJson
  updatedAt := now

/-- The row a revocation leaves of a membership. -/
def RevokePlan.row (plan : RevokePlan) (now : String) (stored : CoordinatorScopeMembership) :
    CoordinatorScopeMembership :=
  { stored with
    status := "revoked"
    membershipEpoch := plan.membershipEpoch.getD (stored.membershipEpoch + 1)
    manifestHash := (cleanText plan.call.opts.manifestHash).or stored.manifestHash
    signedManifestJson := (cleanText plan.call.opts.signedManifestJson).or
      stored.signedManifestJson
    updatedAt := now }

/-- The condition of the `ON CONFLICT` clause of a grant. -/
def grantSupersedes (epoch : ℤ) (stored : CoordinatorScopeMembership) : Bool :=
  decide (stored.membershipEpoch < epoch) ||
    (decide (epoch = stored.membershipEpoch) && stored.status != "revoked")

/-- The condition of the `UPDATE` of a revocation: the epoch and the status are still those of the
membership it was decided on. -/
def RevokePlan.matches (plan : RevokePlan) (stored : CoordinatorScopeMembership) : Bool :=
  decide (stored.membershipEpoch = (plan.existing.map (·.membershipEpoch)).getD (-1)) &&
    stored.status == (plan.existing.map (·.status)).getD ""

namespace ScopeTables

/-- The row of its key is replaced, or a new row is added. -/
def writeMembership (tables : ScopeTables) (row : CoordinatorScopeMembership) : ScopeTables :=
  { tables with
    memberships := insertOrUpdate CoordinatorScopeMembership.key row (fun _ => row)
      tables.memberships }

/-- `INSERT INTO coordinator_scope_memberships … ON CONFLICT DO UPDATE`, and whether it changed a
row. -/
def upsertMembership (tables : ScopeTables) (row : CoordinatorScopeMembership) :
    ScopeTables × Bool :=
  if (tables.getScopeMembership row.scopeId row.deviceId).all
      (grantSupersedes row.membershipEpoch) then
    (tables.writeMembership row, true)
  else (tables, false)

/-- `UPDATE coordinator_scope_memberships SET status = 'revoked' …`, and whether it changed a row. -/
def revokeMembership (tables : ScopeTables) (plan : RevokePlan) (now : String) :
    ScopeTables × Bool :=
  match tables.getScopeMembership plan.call.scopeId plan.call.deviceId with
  | none => (tables, false)
  | some stored =>
    if plan.matches stored then (tables.writeMembership (plan.row now stored), true)
    else (tables, false)

end ScopeTables

def GrantCall.receipt (call : GrantCall) (row : CoordinatorScopeMembership) (now : String) :
    MembershipEffectReceipt :=
  ⟨call.effectId, call.request, true, row.scopeId, row.deviceId, some row, now⟩

/-- The receipt of a revocation. -/
def RevokeCall.receipt (call : RevokeCall) (row : Option CoordinatorScopeMembership)
    (now : String) : MembershipEffectReceipt :=
  ⟨call.effectId, call.request, row.isSome, call.scopeId, call.deviceId, row, now⟩

def membershipAuditRow (effectId : String) (action : MembershipAction)
    (row : CoordinatorScopeMembership) (previous : Option CoordinatorScopeMembership)
    (actorType actorId : Option String) (now : String) : MembershipAuditRow where
  effectId := effectId
  action := action
  scopeId := row.scopeId
  deviceId := row.deviceId
  columns := row.columns
  previous := previous.map CoordinatorScopeMembership.columns
  coordinatorId := row.coordinatorId
  groupId := row.groupId
  actorType := actorType
  actorId := actorId
  manifestHash := row.manifestHash
  createdAt := now

/-! ### The SQLite store -/

/-- A constraint violation rolls the transaction back. -/
def orConstraint {α : Type} : Option α → Except String α
  | none => .error "UNIQUE constraint failed"
  | some value => .ok value

namespace ScopeTables

def assertScopeMembershipDeviceEnrolled (tables : ScopeTables) (grant : NormalizedGrant) :
    Except String Unit :=
  match grant.enrollmentGroup with
  | none => .ok ()
  | some groupId => requireEnrollment (tables.devices.getEnrollment groupId grant.deviceId false)

/-- `insertMembershipAuditSync` and then `insertMembershipEffectReceiptSync`. -/
def recordMembershipChange (tables : ScopeTables) (audit : MembershipAuditRow)
    (receipt : MembershipEffectReceipt) : Except String ScopeTables := do
  let audited ← orConstraint (tables.insertMembershipAudit audit)
  orConstraint (audited.insertMembershipEffectReceipt receipt)

/-- `grantScopeMembership(opts)` of the SQLite store at the time `now`. -/
def grantScopeMembership (tables : ScopeTables) (opts : CoordinatorGrantScopeMembershipInput)
    (now : String) : Except String (MembershipOutcome × ScopeTables) := do
  let call ← startGrant opts
  match tables.getMembershipEffectReceipt call.effectId with
  | some receipt => (answerFromReceipt receipt call.request).map fun answer => (answer, tables)
  | none =>
    let scope ← activeScope ((cleanText opts.scopeId).bind tables.getScope)
    let existing := (cleanText opts.scopeId).bind fun scopeId =>
      (cleanText opts.deviceId).bind fun deviceId => tables.getScopeMembership scopeId deviceId
    let grant ← normalizeCoordinatorGrantScopeMembershipInput opts scope existing
    let _ ← tables.assertScopeMembershipDeviceEnrolled grant
    match tables.upsertMembership (grant.row now) with
    | (_, false) => .error "scope membership grant was not applied."
    | (written, true) =>
      let audit := membershipAuditRow call.effectId .grant (grant.row now) existing grant.actorType
        grant.actorId now
      (written.recordMembershipChange audit (call.receipt (grant.row now) now)).map fun recorded =>
        (.granted (grant.row now), recorded)

/-- `revokeScopeMembership(opts)` of the SQLite store at the time `now`. -/
def revokeScopeMembership (tables : ScopeTables) (opts : CoordinatorRevokeScopeMembershipInput)
    (now : String) : Except String (MembershipOutcome × ScopeTables) := do
  let call ← startRevoke opts
  match tables.getMembershipEffectReceipt call.effectId with
  | some receipt => (answerFromReceipt receipt call.request).map fun answer => (answer, tables)
  | none =>
    let membershipEpoch ← requestedEpoch opts.membershipEpoch
    let _ ← requireScopeGroup (cleanText opts.groupId)
      ((cleanText opts.groupId).bind fun _ => tables.getScope call.scopeId)
    match tables.getScopeMembership call.scopeId call.deviceId with
    | none =>
      (orConstraint (tables.insertMembershipEffectReceipt (call.receipt none now))).map
        fun recorded => (.revoked false, recorded)
    | some existing =>
      let plan ← planRevoke call membershipEpoch (some existing)
      match tables.revokeMembership plan now with
      | (_, false) => .ok (.revoked false, tables)
      | (written, true) =>
        let row := plan.row now existing
        let audit := membershipAuditRow call.effectId .revoke row (some existing)
          (cleanText opts.actorType) (cleanText opts.actorId) now
        (written.recordMembershipChange audit (call.receipt (some row) now)).map fun recorded =>
          (.revoked true, recorded)

end ScopeTables

/-! ### The batches of the D1 store -/

/-- The tables in the middle of a batch, and whether the last statement changed a row. -/
abbrev BatchState := ScopeTables × Bool

/-- `prepareGrantEffectReceipt`: only after a statement that changed a row. -/
def prepareGrantEffectReceipt (call : GrantCall) (grant : NormalizedGrant) (now : String)
    (batch : BatchState) : Option BatchState :=
  if batch.2 = true then
    match batch.1.getScopeMembership grant.scopeId grant.deviceId with
    | none => some (batch.1, false)
    | some row =>
      (batch.1.insertMembershipEffectReceipt (call.receipt row now)).map fun tables => (tables, true)
  else some (batch.1, false)

/-- `prepareRevokeEffectReceipt`: the receipt says whether the statement before changed a row. -/
def prepareRevokeEffectReceipt (call : RevokeCall) (now : String) (batch : BatchState) :
    Option BatchState :=
  if (batch.1.getMembershipEffectReceipt call.effectId).isSome then some (batch.1, false)
  else
    let row := if batch.2 = true then batch.1.getScopeMembership call.scopeId call.deviceId else none
    (batch.1.insertMembershipEffectReceipt
      { call.receipt row now with outcomeApplied := batch.2 }).map fun tables => (tables, true)

/-- What `prepareMembershipAuditFromCurrentRow` is given. -/
structure MembershipAuditInput where
  effectId : String
  request : MembershipEffectRequest
  action : MembershipAction
  previous : Option CoordinatorScopeMembership
  scopeId : String
  deviceId : String
  status : String
  membershipEpoch : ℤ
  updatedAt : String
  actorType : Option String
  actorId : Option String

/-- `prepareMembershipAuditFromCurrentRow`: only for the request that inserted an applied receipt.
Where the membership is not the expected one, the columns that must not be null are, and the batch
fails. -/
def prepareMembershipAuditFromCurrentRow (input : MembershipAuditInput) (batch : BatchState) :
    Option BatchState :=
  if batch.2 = true ∧ (batch.1.getMembershipEffectReceipt input.effectId).any
      (fun receipt => decide (receipt.request = input.request) && receipt.outcomeApplied) = true then
    match (batch.1.getScopeMembership input.scopeId input.deviceId).filter fun row =>
        row.status == input.status && decide (row.membershipEpoch = input.membershipEpoch) &&
          row.updatedAt == input.updatedAt with
    | none => none
    | some row =>
      (batch.1.insertMembershipAudit (membershipAuditRow input.effectId input.action row
        input.previous input.actorType input.actorId input.updatedAt)).map fun tables =>
          (tables, true)
  else some (batch.1, false)

/-- What the audit statement of a grant is given; `existing` is the membership it was decided on. -/
def GrantCall.auditInput (call : GrantCall) (existing : Option CoordinatorScopeMembership)
    (grant : NormalizedGrant) (now : String) : MembershipAuditInput where
  effectId := call.effectId
  request := call.request
  action := .grant
  previous := existing
  scopeId := grant.scopeId
  deviceId := grant.deviceId
  status := "active"
  membershipEpoch := grant.membershipEpoch
  updatedAt := now
  actorType := grant.actorType
  actorId := grant.actorId

/-- What the audit statement of a revocation is given. -/
def RevokePlan.auditInput (plan : RevokePlan) (now : String) : MembershipAuditInput where
  effectId := plan.call.effectId
  request := plan.call.request
  action := .revoke
  previous := plan.existing
  scopeId := plan.call.scopeId
  deviceId := plan.call.deviceId
  status := "revoked"
  membershipEpoch := plan.membershipEpoch.getD
    ((plan.existing.map (·.membershipEpoch)).getD (-1) + 1)
  updatedAt := now
  actorType := cleanText plan.call.opts.actorType
  actorId := cleanText plan.call.opts.actorId

def runGrantBatch (tables : ScopeTables) (call : GrantCall)
    (existing : Option CoordinatorScopeMembership) (grant : NormalizedGrant) (now : String) :
    Option ScopeTables :=
  let written :=
    if (tables.getMembershipEffectReceipt call.effectId).isSome then (tables, false)
    else tables.upsertMembership (grant.row now)
  (prepareGrantEffectReceipt call grant now written).bind fun recorded =>
    (prepareMembershipAuditFromCurrentRow (call.auditInput existing grant now) recorded).map Prod.fst

/-- The batch of a revocation. -/
def runRevokeBatch (tables : ScopeTables) (plan : RevokePlan) (now : String) :
    Option ScopeTables :=
  let written :=
    if (tables.getMembershipEffectReceipt plan.call.effectId).isSome then (tables, false)
    else tables.revokeMembership plan now
  (prepareRevokeEffectReceipt plan.call now written).bind fun recorded =>
    (prepareMembershipAuditFromCurrentRow (plan.auditInput now) recorded).map Prod.fst

/-! ### The calls of the D1 store -/

/-- A call that is suspended at a statement, or has come to an end. -/
inductive CallProgress (ς α : Type) where
  | suspended (stage : ς)
  | ended (result : Except String α)

/-- The statements at which a change of a membership is suspended. -/
inductive MembershipStage where
  | grantLookup (call : GrantCall)
  | grantScope (call : GrantCall) (scopeId : String)
  | grantExisting (call : GrantCall) (scope : CoordinatorScope) (scopeId deviceId : String)
  | grantEnrollment (call : GrantCall) (existing : Option CoordinatorScopeMembership)
      (grant : NormalizedGrant) (groupId : String)
  | grantBatch (call : GrantCall) (existing : Option CoordinatorScopeMembership)
      (grant : NormalizedGrant) (now : String)
  | grantOutcome (call : GrantCall)
  | revokeLookup (call : RevokeCall)
  | revokeScope (call : RevokeCall) (membershipEpoch : Option ℤ)
  | revokeExisting (call : RevokeCall) (membershipEpoch : Option ℤ)
  | revokeBatch (plan : RevokePlan) (now : String)
  | revokeRecheck (plan : RevokePlan)
  | revokeOutcome (call : RevokeCall)

namespace MembershipStage

def effectId : MembershipStage → String
  | grantLookup call => call.effectId
  | grantScope call _ => call.effectId
  | grantExisting call _ _ _ => call.effectId
  | grantEnrollment call _ _ _ => call.effectId
  | grantBatch call _ _ _ => call.effectId
  | grantOutcome call => call.effectId
  | revokeLookup call => call.effectId
  | revokeScope call _ => call.effectId
  | revokeExisting call _ => call.effectId
  | revokeBatch plan _ => plan.call.effectId
  | revokeRecheck plan => plan.call.effectId
  | revokeOutcome call => call.effectId

/-- The contents of the request of the call. -/
def request : MembershipStage → MembershipEffectRequest
  | grantLookup call => call.request
  | grantScope call _ => call.request
  | grantExisting call _ _ _ => call.request
  | grantEnrollment call _ _ _ => call.request
  | grantBatch call _ _ _ => call.request
  | grantOutcome call => call.request
  | revokeLookup call => call.request
  | revokeScope call _ => call.request
  | revokeExisting call _ => call.request
  | revokeBatch plan _ => plan.call.request
  | revokeRecheck plan => plan.call.request
  | revokeOutcome call => call.request

end MembershipStage

abbrev MembershipProgress := CallProgress MembershipStage MembershipOutcome

/-- A call goes on after a check, or ends with its error. -/
def CallProgress.after {ς α β : Type} (check : Except String β) (next : β → CallProgress ς α) :
    CallProgress ς α :=
  match check with
  | .error error => .ended (.error error)
  | .ok value => next value

/-- After the lookup of its receipt found nothing, a grant reads its scope. -/
def grantAfterLookup (call : GrantCall) : MembershipProgress :=
  match cleanText call.opts.scopeId with
  | none => .ended (.error "scopeId must reference an existing scope.")
  | some scopeId => .suspended (.grantScope call scopeId)

/-- After it has its scope, a grant reads the membership it changes. -/
def grantAfterScope (call : GrantCall) (scope : CoordinatorScope) (scopeId : String) :
    MembershipProgress :=
  match cleanText call.opts.deviceId with
  | none => .ended (.error "scopeId and deviceId are required.")
  | some deviceId => .suspended (.grantExisting call scope scopeId deviceId)

/-- After it has read the membership, a grant is checked and reads the enrollment. -/
def grantAfterExisting (call : GrantCall) (scope : CoordinatorScope)
    (existing : Option CoordinatorScopeMembership) (now : String) : MembershipProgress :=
  .after (normalizeCoordinatorGrantScopeMembershipInput call.opts scope existing) fun grant =>
    match grant.enrollmentGroup with
    | none => .suspended (.grantBatch call existing grant now)
    | some groupId => .suspended (.grantEnrollment call existing grant groupId)

/-- After the lookup of its receipt found nothing, a revocation reads the scope where a group is
named. -/
def revokeAfterLookup (call : RevokeCall) : MembershipProgress :=
  .after (requestedEpoch call.opts.membershipEpoch) fun membershipEpoch =>
    match cleanText call.opts.groupId with
    | none => .suspended (.revokeExisting call membershipEpoch)
    | some _ => .suspended (.revokeScope call membershipEpoch)

/-- The last read of a call: the receipt that is stored under its effect id. -/
def answerOfCall (tables : ScopeTables) (effectId : String) (request : MembershipEffectRequest)
    (missing : String) : Except String MembershipOutcome :=
  match tables.getMembershipEffectReceipt effectId with
  | none => .error missing
  | some receipt => answerFromReceipt receipt request

/-- The statement at which a call is suspended is executed, and the call runs up to the next one.
`now` is the time at which it goes on. -/
def MembershipStage.next (tables : ScopeTables) (now : String) :
    MembershipStage → MembershipProgress × ScopeTables
  | grantLookup call =>
    match tables.getMembershipEffectReceipt call.effectId with
    | some receipt => (.ended (answerFromReceipt receipt call.request), tables)
    | none => (grantAfterLookup call, tables)
  | grantScope call scopeId =>
    (.after (activeScope (tables.getScope scopeId)) fun scope =>
      grantAfterScope call scope scopeId, tables)
  | grantExisting call scope scopeId deviceId =>
    (grantAfterExisting call scope (tables.getScopeMembership scopeId deviceId) now, tables)
  | grantEnrollment call existing grant groupId =>
    (.after (requireEnrollment (tables.devices.getEnrollment groupId grant.deviceId false))
      fun _ => .suspended (.grantBatch call existing grant now), tables)
  | grantBatch call existing grant sentAt =>
    match runGrantBatch tables call existing grant sentAt with
    | none => (.ended (.error "UNIQUE constraint failed"), tables)
    | some tables' => (.suspended (.grantOutcome call), tables')
  | grantOutcome call =>
    (.ended (answerOfCall tables call.effectId call.request
      "scope membership grant was not applied."), tables)
  | revokeLookup call =>
    match tables.getMembershipEffectReceipt call.effectId with
    | some receipt => (.ended (answerFromReceipt receipt call.request), tables)
    | none => (revokeAfterLookup call, tables)
  | revokeScope call membershipEpoch =>
    (.after (requireScopeGroup (cleanText call.opts.groupId) (tables.getScope call.scopeId))
      fun _ => .suspended (.revokeExisting call membershipEpoch), tables)
  | revokeExisting call membershipEpoch =>
    (.after (planRevoke call membershipEpoch
        (tables.getScopeMembership call.scopeId call.deviceId))
      fun plan => .suspended (.revokeBatch plan now), tables)
  | revokeBatch plan sentAt =>
    match runRevokeBatch tables plan sentAt with
    | none => (.suspended (.revokeRecheck plan), tables)
    | some tables' => (.suspended (.revokeOutcome plan.call), tables')
  | revokeRecheck plan =>
    let current := tables.getScopeMembership plan.call.scopeId plan.call.deviceId
    if plan.existing.any (fun row => !current.any fun found =>
        decide (found.membershipEpoch = row.membershipEpoch) && found.status == row.status) = true
    then (.ended (.ok (.revoked false)), tables)
    else (.ended (.error "UNIQUE constraint failed"), tables)
  | revokeOutcome call =>
    (.ended (answerOfCall tables call.effectId call.request
      "scope membership revoke receipt was not persisted."), tables)

end Codemem

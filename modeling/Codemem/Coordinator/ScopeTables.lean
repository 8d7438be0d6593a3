import Codemem.Coordinator.Tables
import Codemem.Scope.Snapshot

/-!
# Scopes, memberships and the membership ledger of the coordinator

The tables `coordinator_scopes`, `coordinator_scope_memberships`,
`coordinator_scope_membership_effect_receipts` and `coordinator_scope_membership_audit_log`.  A
change of a membership carries an effect id: its receipt is stored under the id together with the
request, and the audit log repeats the columns of the membership before and after the change.
-/

namespace Codemem

/-! ### Inputs -/

/-- `number | null | undefined`. -/
inductive NumberInput where
  | absent
  | notFinite
  | finite (value : ℚ)
deriving DecidableEq

/-- `JSON.stringify(value ?? null)`: a number that is not finite is written as `null`. -/
def NumberInput.json : NumberInput → Option ℚ
  | .absent => none
  | .notFinite => none
  | .finite value => some value

structure CoordinatorGrantScopeMembershipInput where
  effectId : String
  scopeId : String
  deviceId : String
  role : Option String
  membershipEpoch : NumberInput
  coordinatorId : Option String
  groupId : Option String
  manifestIssuerDeviceId : Option String
  manifestHash : Option String
  signedManifestJson : Option String
  actorType : Option String
  actorId : Option String
deriving DecidableEq

structure CoordinatorRevokeScopeMembershipInput where
  effectId : String
  scopeId : String
  deviceId : String
  groupId : Option String
  membershipEpoch : NumberInput
  manifestHash : Option String
  signedManifestJson : Option String
  actorType : Option String
  actorId : Option String
deriving DecidableEq

/-- The columns `action` and `request_json` of a receipt: the contents of the JSON text. -/
inductive MembershipEffectRequest where
  | grant (scopeId deviceId role : Option String) (membershipEpoch : Option ℚ)
      (coordinatorId groupId manifestIssuerDeviceId manifestHash signedManifestJson actorType
        actorId : Option String)
  | revoke (scopeId deviceId groupId : Option String) (membershipEpoch : Option ℚ)
      (manifestHash signedManifestJson actorType actorId : Option String)
deriving DecidableEq

def grantMembershipEffectRequestJson (opts : CoordinatorGrantScopeMembershipInput) :
    MembershipEffectRequest :=
  .grant (cleanText opts.scopeId) (cleanText opts.deviceId) (cleanText opts.role)
    opts.membershipEpoch.json (cleanText opts.coordinatorId) (cleanText opts.groupId)
    (cleanText opts.manifestIssuerDeviceId) (cleanText opts.manifestHash)
    (cleanText opts.signedManifestJson) (cleanText opts.actorType) (cleanText opts.actorId)

def revokeMembershipEffectRequestJson (opts : CoordinatorRevokeScopeMembershipInput) :
    MembershipEffectRequest :=
  .revoke (cleanText opts.scopeId) (cleanText opts.deviceId) (cleanText opts.groupId)
    opts.membershipEpoch.json (cleanText opts.manifestHash) (cleanText opts.signedManifestJson)
    (cleanText opts.actorType) (cleanText opts.actorId)

/-! ### Rows -/

/-- The columns of a membership whose earlier values an audit row repeats. -/
structure MembershipColumns where
  role : String
  status : String
  membershipEpoch : ℤ
deriving DecidableEq

/-- The columns of a membership that the audit log repeats. -/
def CoordinatorScopeMembership.columns (membership : CoordinatorScopeMembership) :
    MembershipColumns :=
  ⟨membership.role, membership.status, membership.membershipEpoch⟩

/-- `CoordinatorMembershipEffectReceipt`.  The columns from `role` to `updated_at` are null
together; otherwise they repeat a membership. -/
structure MembershipEffectReceipt where
  effectId : String
  request : MembershipEffectRequest
  outcomeApplied : Bool
  scopeId : String
  deviceId : String
  membership : Option CoordinatorScopeMembership
  createdAt : String
deriving DecidableEq

/-- The `action` of an audit row. -/
inductive MembershipAction where
  | grant
  | revoke
deriving DecidableEq

/-- A row of `coordinator_scope_membership_audit_log`. -/
structure MembershipAuditRow where
  effectId : String
  action : MembershipAction
  scopeId : String
  deviceId : String
  columns : MembershipColumns
  previous : Option MembershipColumns
  coordinatorId : Option String
  groupId : Option String
  actorType : Option String
  actorId : Option String
  manifestHash : Option String
  createdAt : String
deriving DecidableEq

def MembershipAuditRow.key (row : MembershipAuditRow) : String × String :=
  (row.scopeId, row.deviceId)

/-- The tables of the coordinator that decide about scopes and their members. -/
structure ScopeTables where
  devices : DeviceTables
  scopes : List CoordinatorScope
  memberships : List CoordinatorScopeMembership
  effectReceipts : List MembershipEffectReceipt
  auditLog : List MembershipAuditRow
deriving DecidableEq

namespace ScopeTables

def getScope (tables : ScopeTables) (scopeId : String) : Option CoordinatorScope :=
  rowAt CoordinatorScope.scopeId scopeId tables.scopes

def getScopeMembership (tables : ScopeTables) (scopeId deviceId : String) :
    Option CoordinatorScopeMembership :=
  rowAt CoordinatorScopeMembership.key (scopeId, deviceId) tables.memberships

def getMembershipEffectReceipt (tables : ScopeTables) (effectId : String) :
    Option MembershipEffectReceipt :=
  rowAt MembershipEffectReceipt.effectId effectId tables.effectReceipts

/-- `INSERT INTO coordinator_scope_membership_effect_receipts`: `effect_id` is the primary key. -/
def insertMembershipEffectReceipt (tables : ScopeTables) (receipt : MembershipEffectReceipt) :
    Option ScopeTables :=
  if (tables.getMembershipEffectReceipt receipt.effectId).isSome then none
  else some { tables with effectReceipts := tables.effectReceipts ++ [receipt] }

/-- `INSERT INTO coordinator_scope_membership_audit_log`: `effect_id` is unique. -/
def insertMembershipAudit (tables : ScopeTables) (row : MembershipAuditRow) :
    Option ScopeTables :=
  if tables.auditLog.any fun stored => stored.effectId == row.effectId then none
  else some { tables with auditLog := tables.auditLog ++ [row] }

end ScopeTables

/-! ### Receipts -/

/-- `[\p{Cc}\p{Cf}]`. -/
def isControlOrFormat (c : Char) : Bool :=
  let n := c.toNat
  [(0x0, 0x1F), (0x7F, 0x9F), (0xAD, 0xAD), (0x600, 0x605), (0x61C, 0x61C), (0x6DD, 0x6DD),
    (0x70F, 0x70F), (0x890, 0x891), (0x8E2, 0x8E2), (0x180E, 0x180E), (0x200B, 0x200F),
    (0x202A, 0x202E), (0x2060, 0x2064), (0x2066, 0x206F), (0xFEFF, 0xFEFF), (0xFFF9, 0xFFFB),
    (0x110BD, 0x110BD), (0x110CD, 0x110CD), (0x13430, 0x1343F), (0x1BCA0, 0x1BCA3),
    (0x1D173, 0x1D17A), (0xE0001, 0xE0001), (0xE0020, 0xE007F)].any fun range =>
      decide (range.1 ≤ n ∧ n ≤ range.2)

def normalizeMembershipEffectId (value : String) : Except String String :=
  match cleanText value with
  | none => .error "effectId is required."
  | some effectId =>
    if 512 < (utf16 effectId).length ∨ effectId.toList.any isControlOrFormat = true then
      .error "effectId is invalid."
    else .ok effectId

def assertMatchingMembershipEffectReceipt (receipt : MembershipEffectReceipt)
    (request : MembershipEffectRequest) : Except String Unit :=
  if receipt.request = request then .ok () else .error "scope_membership_effect_conflict"

/-- What a change of a membership answers: the granted membership, or whether it was revoked. -/
inductive MembershipOutcome where
  | granted (membership : CoordinatorScopeMembership)
  | revoked (applied : Bool)
deriving DecidableEq

def membershipFromEffectReceipt (receipt : MembershipEffectReceipt) :
    Except String CoordinatorScopeMembership :=
  match receipt.request, receipt.outcomeApplied, receipt.membership with
  | .grant .., true, some membership =>
    .ok { membership with scopeId := receipt.scopeId, deviceId := receipt.deviceId }
  | _, _, _ => .error "scope_membership_effect_receipt_invalid"

/-- What a call answers from a receipt of its own request. -/
def MembershipEffectReceipt.outcome (receipt : MembershipEffectReceipt) :
    Except String MembershipOutcome :=
  match receipt.request with
  | .grant .. => (membershipFromEffectReceipt receipt).map .granted
  | .revoke .. => .ok (.revoked receipt.outcomeApplied)

/-- What a call answers from a receipt under its effect id. -/
def answerFromReceipt (receipt : MembershipEffectReceipt) (request : MembershipEffectRequest) :
    Except String MembershipOutcome :=
  (assertMatchingMembershipEffectReceipt receipt request).bind fun _ => receipt.outcome

end Codemem

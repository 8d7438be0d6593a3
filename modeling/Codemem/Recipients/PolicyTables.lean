import Codemem.Recipients.RepositoryAliases
import Codemem.Foundation.OrderedPage

/-!
# The recipient policy tables

A project is shared with recipients: identities (`actors`) and teams.  A team has members, and the
devices of its members are eligible by its mode: all of them except the excluded ones, or only those
that were reviewed and included.  Identifiers that take part are strict texts.
-/

namespace Codemem

/-! ### Strict identifiers -/

/-- A character of the classes `Cc` and `Cf`. -/
def isControlOrFormatChar (c : Char) : Bool :=
  let n := c.toNat
  n < 0x20 || (0x7F ≤ n && n ≤ 0x9F) || n == 0xAD || (0x600 ≤ n && n ≤ 0x605) || n == 0x61C ||
    n == 0x6DD || n == 0x70F || (0x890 ≤ n && n ≤ 0x891) || n == 0x8E2 || n == 0x180E ||
    (0x200B ≤ n && n ≤ 0x200F) || (0x202A ≤ n && n ≤ 0x202E) || (0x2060 ≤ n && n ≤ 0x2064) ||
    (0x2066 ≤ n && n ≤ 0x206F) || n == 0xFEFF || (0xFFF9 ≤ n && n ≤ 0xFFFB) || n == 0x110BD ||
    n == 0x110CD || (0x13430 ≤ n && n ≤ 0x1343F) || (0x1BCA0 ≤ n && n ≤ 0x1BCA3) ||
    (0x1D173 ≤ n && n ≤ 0x1D17A) || n == 0xE0001 || (0xE0020 ≤ n && n ≤ 0xE007F)

def isStrictRecipientPolicyText (value : String) (maxUtf16Units : ℕ) : Bool :=
  !value.toList.isEmpty && value == trim value && decide ((utf16 value).length ≤ maxUtf16Units) &&
    !value.toList.any isControlOrFormatChar

def isStrictRecipientPolicyId (value : String) : Bool := isStrictRecipientPolicyText value 256

def isStrictRecipientPolicyProjectIdentity (value : String) : Bool :=
  isStrictRecipientPolicyText value 2048

/-- `Number.isSafeInteger(value) && value >= 0`. -/
def isSafeNatural (value : ℤ) : Bool := decide (0 ≤ value ∧ value ≤ 9007199254740991)

/-! ### Rows -/

/-- A row of `actors`. -/
structure PolicyIdentity where
  identityId : String
  displayName : String
  status : String
  mergedIntoIdentityId : Option String
  deriving DecidableEq

/-- `identity.status === "merged" || identity.mergedIntoIdentityId`. -/
def PolicyIdentity.isMerged (identity : PolicyIdentity) : Bool :=
  identity.status == "merged" || identity.mergedIntoIdentityId.any fun id => !id.toList.isEmpty

/-- A row of `policy_teams`. -/
structure PolicyTeam where
  teamId : String
  displayName : String
  status : String
  deviceEligibilityMode : String
  deriving DecidableEq

/-- A row of `policy_team_memberships`. -/
structure PolicyTeamMembership where
  teamId : String
  identityId : String
  status : String
  deriving DecidableEq

/-- A row of `policy_team_device_decisions`. -/
structure PolicyTeamDeviceDecision where
  teamId : String
  deviceId : String
  decision : String
  assignmentVersion : ℤ
  deriving DecidableEq

/-- A row of `identity_devices`. -/
structure IdentityDevice where
  deviceId : String
  identityId : String
  displayName : String
  status : String
  assignmentVersion : ℤ
  deriving DecidableEq

/-- A row of `project_recipients`. -/
structure ProjectRecipient where
  canonicalProjectIdentity : String
  recipientKind : String
  recipientId : String
  status : String
  updatedAt : String
  deriving DecidableEq

/-- `KNOWN_DEVICE_STATUSES` and `KNOWN_RECIPIENT_STATUSES`. -/
def isKnownPolicyStatus (status : String) : Bool := status == "active" || status == "revoked"

/-- A row of `project_scope_mappings`. -/
structure ProjectScopeMapping where
  workspaceIdentity : Option String
  projectPattern : String
  scopeId : String
  deriving DecidableEq

/-- A row of `replication_scopes`, as far as the managed boundary reads it. -/
structure ManagedScope where
  scopeId : String
  kind : String
  authorityType : String
  status : String
  coordinatorId : Option String
  groupId : Option String
  deriving DecidableEq

/-- The tables that a policy is derived from, and what the file system says about workspaces. -/
structure PolicyTables where
  resolveGitRepositoryIdentity : String → Option String
  sessions : List SessionWorkspace
  identities : List PolicyIdentity
  teams : List PolicyTeam
  teamMemberships : List PolicyTeamMembership
  teamDeviceDecisions : List PolicyTeamDeviceDecision
  identityDevices : List IdentityDevice
  projectRecipients : List ProjectRecipient
  projectScopeMappings : List ProjectScopeMapping
  replicationScopes : List ManagedScope

/-- The identity map of the sessions. -/
def PolicyTables.repositoryIdentities (db : PolicyTables) : RepositoryIdentities :=
  repositoryIdentitiesByWorkspace db.resolveGitRepositoryIdentity db.sessions

/-- `canonicalRepositoryProjectIdentity` over the map of the sessions. -/
def PolicyTables.canonical (db : PolicyTables) (projectIdentity : String) : String :=
  canonicalRepositoryProjectIdentity db.repositoryIdentities projectIdentity

/-! ### Team eligibility -/

inductive DerivationBlockCode where
  | canonicalProjectIdentityInvalid
  | projectRecipientInvalid
  | identityMissing
  | identityMerged
  | identityNotActive
  | teamMissing
  | teamNotActive
  | teamDeviceEligibilityModeInvalid
  | teamMembershipInvalid
  | teamMembershipModeInvalid
  | teamMemberIdentityMissing
  | teamMemberIdentityMerged
  | teamMemberIdentityNotActive
  | teamDeviceDecisionInvalid
  | deviceIdentityConflict
  | identityDeviceInvalid
  deriving DecidableEq, Repr

/-- `DERIVATION_BLOCK_PRECEDENCE`: the order in which the codes are listed. -/
def DerivationBlockCode.precedence (code : DerivationBlockCode) : ℕ := code.ctorIdx

def DerivationBlockCode.text : DerivationBlockCode → String
  | canonicalProjectIdentityInvalid => "canonical_project_identity_invalid"
  | projectRecipientInvalid => "project_recipient_invalid"
  | identityMissing => "identity_missing"
  | identityMerged => "identity_merged"
  | identityNotActive => "identity_not_active"
  | teamMissing => "team_missing"
  | teamNotActive => "team_not_active"
  | teamDeviceEligibilityModeInvalid => "team_device_eligibility_mode_invalid"
  | teamMembershipInvalid => "team_membership_invalid"
  | teamMembershipModeInvalid => "team_membership_mode_invalid"
  | teamMemberIdentityMissing => "team_member_identity_missing"
  | teamMemberIdentityMerged => "team_member_identity_merged"
  | teamMemberIdentityNotActive => "team_member_identity_not_active"
  | teamDeviceDecisionInvalid => "team_device_decision_invalid"
  | deviceIdentityConflict => "device_identity_conflict"
  | identityDeviceInvalid => "identity_device_invalid"

/-- A reason with the identifier it is about. -/
structure DerivationBlock where
  code : DerivationBlockCode
  referenceId : String
  deriving DecidableEq, Repr

/-- Blocks without repetitions, by precedence and identifier. -/
def sortedBlocks (blocks : List DerivationBlock) : List DerivationBlock :=
  sortByPos (fun block => toLex (block.code.precedence, utf16 block.referenceId)) blocks.eraseDups

/-- The devices of a team and the members they belong to. -/
structure TeamEligibility where
  activeMemberIdentityIds : List String
  eligibleDeviceIds : List String
  deriving DecidableEq

def isPolicyTeamMembershipActiveForMode (mode status : String) : Bool :=
  (mode == "person_all_devices" && status == "active") ||
    (mode == "reviewed_allowlist" && status == "reviewed_active")

section TeamEligibility

variable (teamId mode : String)

def membershipBlock (membership : PolicyTeamMembership) : Option DerivationBlock :=
  if !isStrictRecipientPolicyId membership.identityId then
    some ⟨.teamMembershipInvalid, teamId ++ ":" ++ membership.identityId⟩
  else if isPolicyTeamMembershipActiveForMode mode membership.status then none
  else if membership.status == "pending" || membership.status == "revoked" then none
  else some ⟨.teamMembershipModeInvalid, teamId ++ ":" ++ membership.identityId⟩

/-- The members that the mode counts. -/
def activeMembers (memberships : List PolicyTeamMembership) : List String :=
  ((memberships.filter fun membership =>
    isStrictRecipientPolicyId membership.identityId &&
      isPolicyTeamMembershipActiveForMode mode membership.status).map
        PolicyTeamMembership.identityId).eraseDups

def memberBlock (identities : List PolicyIdentity) (identityId : String) :
    Option DerivationBlock :=
  match rowAt PolicyIdentity.identityId identityId identities with
  | none => some ⟨.teamMemberIdentityMissing, identityId⟩
  | some identity =>
    if identity.isMerged then some ⟨.teamMemberIdentityMerged, identityId⟩
    else if identity.status != "active" then some ⟨.teamMemberIdentityNotActive, identityId⟩
    else none

def refusesDecision (accepted : List PolicyTeamDeviceDecision)
    (decision : PolicyTeamDeviceDecision) : Bool :=
  !isStrictRecipientPolicyId decision.deviceId ||
    !(["included", "excluded", "unresolved"].contains decision.decision) ||
    !isSafeNatural decision.assignmentVersion ||
    (accepted.any fun earlier => earlier.deviceId == decision.deviceId) ||
    (mode == "person_all_devices" && decision.decision != "excluded")

/-- `collectDeviceDecisions`: the accepted decisions and the blocks of the others. -/
def collectDeviceDecisions (decisions : List PolicyTeamDeviceDecision) :
    List PolicyTeamDeviceDecision × List DerivationBlock :=
  decisions.foldl (fun acc decision =>
    if refusesDecision mode acc.1 decision then
      (acc.1, acc.2 ++ [⟨.teamDeviceDecisionInvalid, teamId ++ ":" ++ decision.deviceId⟩])
    else (acc.1 ++ [decision], acc.2)) ([], [])

/-- A device row of a member whose identifiers or version are not well formed. -/
def IdentityDevice.isMalformed (device : IdentityDevice) : Bool :=
  !isStrictRecipientPolicyId device.identityId || !isStrictRecipientPolicyId device.deviceId ||
    !isSafeNatural device.assignmentVersion

def memberDeviceBlock (device : IdentityDevice) : Option DerivationBlock :=
  if !isKnownPolicyStatus device.status then some ⟨.identityDeviceInvalid, device.deviceId⟩
  else if device.status == "active" && device.isMalformed then
    some ⟨.identityDeviceInvalid, device.deviceId⟩
  else none

/-- An active device of an active member is eligible under the mode and the decisions. -/
def isEligibleDevice (decisions : List PolicyTeamDeviceDecision) (device : IdentityDevice) : Bool :=
  device.status == "active" && !device.isMalformed &&
    (let decision := rowAt PolicyTeamDeviceDecision.deviceId device.deviceId decisions
    if mode == "person_all_devices" then !decision.any fun row => row.decision == "excluded"
    else decision.any fun row =>
      row.decision == "included" && row.assignmentVersion == device.assignmentVersion)

/-- `derivePolicyTeamDeviceEligibility`: the members and devices of a team, or what blocks it. -/
def derivePolicyTeamDeviceEligibility (memberships : List PolicyTeamMembership)
    (identities : List PolicyIdentity) (devices : List IdentityDevice)
    (decisions : List PolicyTeamDeviceDecision) : Except (List DerivationBlock) TeamEligibility :=
  if mode != "person_all_devices" && mode != "reviewed_allowlist" then
    .error [⟨.teamDeviceEligibilityModeInvalid, teamId⟩]
  else
    let members := activeMembers mode memberships
    let collected := collectDeviceDecisions teamId mode decisions
    let memberDevices := devices.filter fun device => members.contains device.identityId
    let blocks := memberships.filterMap (membershipBlock teamId mode) ++
      members.filterMap (memberBlock identities) ++ collected.2 ++
      memberDevices.filterMap memberDeviceBlock
    if blocks.isEmpty then
      .ok ⟨sortByPos utf16 members, sortByPos utf16
        ((memberDevices.filter (isEligibleDevice mode collected.1)).map
          IdentityDevice.deviceId).eraseDups⟩
    else .error (sortedBlocks blocks)

end TeamEligibility

end Codemem

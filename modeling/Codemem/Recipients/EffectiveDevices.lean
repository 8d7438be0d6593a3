import Codemem.Recipients.PolicyTables

/-!
# Effective devices of a project

The devices that the policy of a project desires: those of its identity recipients and the eligible
ones of its team recipients.  A derivation is blocked as a whole by any row that it cannot judge, and
a blocked derivation desires no device.
-/

namespace Codemem

/-- Why a device is desired. -/
inductive EffectiveDeviceSource where
  | directIdentity
  | teamMembership (teamId : String)
  deriving DecidableEq

/-- `sourceKey`, as far as it orders the sources. -/
def EffectiveDeviceSource.key : EffectiveDeviceSource → List ℕ
  | directIdentity => utf16 "direct_identity"
  | teamMembership teamId => utf16 "team_membership" ++ 0 :: utf16 teamId

/-- A device that a policy desires. -/
structure EffectiveDevice where
  canonicalProjectIdentity : String
  identityId : String
  deviceId : String
  sources : List EffectiveDeviceSource
  deriving DecidableEq

structure DerivationInput where
  canonicalProjectIdentity : String
  projectRecipients : List ProjectRecipient
  identities : List PolicyIdentity
  teams : List PolicyTeam
  teamMemberships : List PolicyTeamMembership
  teamDeviceDecisions : List PolicyTeamDeviceDecision
  identityDevices : List IdentityDevice

/-- What a derivation comes across: a reason to block, or a device of an identity. -/
inductive DerivationEvent where
  | block (block : DerivationBlock)
  | device (identityId deviceId : String) (source : EffectiveDeviceSource)
  deriving DecidableEq

/-- The blocks and the devices found so far. -/
structure DerivationState where
  blocked : List DerivationBlock
  effective : List EffectiveDevice

/-- `addEffectiveDevice`: a device that another identity claimed already is a conflict. -/
def DerivationState.addEffectiveDevice (state : DerivationState) (projectId identityId : String)
    (deviceId : String) (source : EffectiveDeviceSource) : DerivationState :=
  match rowAt EffectiveDevice.deviceId deviceId state.effective with
  | none => { state with effective := state.effective ++ [⟨projectId, identityId, deviceId, [source]⟩] }
  | some current =>
    if current.identityId != identityId then
      { state with blocked := state.blocked ++ [⟨.deviceIdentityConflict, deviceId⟩] }
    else
      { state with
        effective := updateRows (fun row => row.deviceId == deviceId)
          (fun row => { row with
            sources := sortByPos EffectiveDeviceSource.key (row.sources ++ [source]).eraseDups })
          state.effective }

/-- The state after an event. -/
def DerivationState.apply (projectId : String) (state : DerivationState) :
    DerivationEvent → DerivationState
  | .block block => { state with blocked := state.blocked ++ [block] }
  | .device identityId deviceId source =>
    state.addEffectiveDevice projectId identityId deviceId source

/-- `activeIdentityCode`, with the codes for a missing, an inactive and a merged identity. -/
def activeIdentityCode (identity : Option PolicyIdentity)
    (missing inactive merged : DerivationBlockCode) : Option DerivationBlockCode :=
  match identity with
  | none => some missing
  | some identity =>
    if identity.isMerged then some merged
    else if identity.status != "active" then some inactive
    else none

namespace DerivationInput

variable (input : DerivationInput)

/-- What a device row of an expanded identity gives. -/
def deviceEvent (identityId : String) (source : EffectiveDeviceSource)
    (allowedDeviceIds : Option (List String)) (device : IdentityDevice) : Option DerivationEvent :=
  if !isKnownPolicyStatus device.status then
    some (.block ⟨.identityDeviceInvalid, device.deviceId⟩)
  else if device.status != "active" then none
  else if allowedDeviceIds.any fun allowed => !allowed.contains device.deviceId then none
  else if !isStrictRecipientPolicyId device.identityId ||
      !isStrictRecipientPolicyId device.deviceId then
    some (.block ⟨.identityDeviceInvalid, device.deviceId⟩)
  else some (.device identityId device.deviceId source)

def expandIdentity (identityId : String) (source : EffectiveDeviceSource)
    (missing inactive merged : DerivationBlockCode) (allowedDeviceIds : Option (List String)) :
    List DerivationEvent :=
  match activeIdentityCode (rowAt PolicyIdentity.identityId identityId input.identities)
      missing inactive merged with
  | some code => [.block ⟨code, identityId⟩]
  | none =>
    (input.identityDevices.filter fun device => device.identityId == identityId).filterMap
      (deviceEvent identityId source allowedDeviceIds)

/-- The block of a membership row with an identifier that is not strict. -/
def strictMembershipEvent (membership : PolicyTeamMembership) : Option DerivationEvent :=
  if !isStrictRecipientPolicyId membership.teamId ||
      !isStrictRecipientPolicyId membership.identityId then
    some (.block ⟨.teamMembershipInvalid, membership.teamId ++ ":" ++ membership.identityId⟩)
  else none

/-- `derivePolicyTeamDeviceEligibility` of a team of the input. -/
def teamEligibility (team : PolicyTeam) : Except (List DerivationBlock) TeamEligibility :=
  derivePolicyTeamDeviceEligibility team.teamId team.deviceEligibilityMode
    (input.teamMemberships.filter fun membership => membership.teamId == team.teamId)
    input.identities input.identityDevices
    (input.teamDeviceDecisions.filter fun decision => decision.teamId == team.teamId)

/-- What an active team gives. -/
def teamEvents (team : PolicyTeam) : List DerivationEvent :=
  (input.teamMemberships.filter fun membership => membership.teamId == team.teamId).filterMap
      strictMembershipEvent ++
    match input.teamEligibility team with
    | .error blocked => blocked.map DerivationEvent.block
    | .ok eligibility =>
      eligibility.activeMemberIdentityIds.flatMap fun identityId =>
        input.expandIdentity identityId (.teamMembership team.teamId) .teamMemberIdentityMissing
          .teamMemberIdentityNotActive .teamMemberIdentityMerged
          (some eligibility.eligibleDeviceIds)

/-- What a recipient row of the project gives. -/
def recipientEvents (recipient : ProjectRecipient) : List DerivationEvent :=
  let invalid := [DerivationEvent.block ⟨.projectRecipientInvalid, recipient.recipientId⟩]
  if !isKnownPolicyStatus recipient.status then invalid
  else if recipient.status != "active" then []
  else if !isStrictRecipientPolicyId recipient.recipientId then invalid
  else if recipient.recipientKind == "identity" then
    input.expandIdentity recipient.recipientId .directIdentity .identityMissing .identityNotActive
      .identityMerged none
  else if recipient.recipientKind != "team" then invalid
  else
    match rowAt PolicyTeam.teamId recipient.recipientId input.teams with
    | none => [.block ⟨.teamMissing, recipient.recipientId⟩]
    | some team =>
      if team.status != "active" then [.block ⟨.teamNotActive, recipient.recipientId⟩]
      else input.teamEvents team

/-- All that the derivation comes across, in order. -/
def events : List DerivationEvent :=
  (if isStrictRecipientPolicyProjectIdentity input.canonicalProjectIdentity then []
    else [.block ⟨.canonicalProjectIdentityInvalid, input.canonicalProjectIdentity⟩]) ++
  (input.projectRecipients.filter fun recipient =>
    recipient.canonicalProjectIdentity == input.canonicalProjectIdentity).flatMap
      input.recipientEvents

/-- The blocks and devices of the input. -/
def finalState : DerivationState :=
  input.events.foldl (DerivationState.apply input.canonicalProjectIdentity) ⟨[], []⟩

end DerivationInput

/-- The result of a derivation: it is eligible when nothing is blocked. -/
structure Derivation where
  canonicalProjectIdentity : String
  devices : List EffectiveDevice
  blocked : List DerivationBlock

/-- `derivation.status === "eligible"`. -/
def Derivation.eligible (derivation : Derivation) : Bool := derivation.blocked.isEmpty

def deriveRecipientPolicyEffectiveDevices (input : DerivationInput) : Derivation :=
  let state := input.finalState
  { canonicalProjectIdentity := input.canonicalProjectIdentity
    devices := if state.blocked.isEmpty then
        sortByPos (fun device => toLex (utf16 device.deviceId, utf16 device.identityId))
          state.effective
      else []
    blocked := sortedBlocks state.blocked }

/-! ### From the tables -/

/-- A later row of a recipient takes the place of an earlier one: the row of the canonical identity
wins, otherwise the row that was written last. -/
def replacesRecipient (canonicalIdentity : String) (row current : ProjectRecipient) : Bool :=
  if current.canonicalProjectIdentity == canonicalIdentity &&
      row.canonicalProjectIdentity != canonicalIdentity then false
  else row.canonicalProjectIdentity == canonicalIdentity ||
    decide (jsLt current.updatedAt row.updatedAt)

def winningRecipients (canonicalIdentity : String) (rows : List ProjectRecipient) :
    List ProjectRecipient :=
  rows.foldl (fun kept row =>
    insertOrUpdate (fun row => (row.recipientKind, row.recipientId)) row
      (fun current => if replacesRecipient canonicalIdentity row current then row else current) kept)
    []

namespace PolicyTables

variable (db : PolicyTables)

/-- The identity, its canonical one and the workspaces that stand for it. -/
def projectAliases (canonicalIdentity projectIdentity : String) : List String :=
  [canonicalIdentity, projectIdentity] ++
    (db.repositoryIdentities.filter fun entry => entry.2 == canonicalIdentity).map Prod.fst

def canonicalProjectRecipientRows (projectIdentity : String) : List ProjectRecipient :=
  let canonicalIdentity := db.canonical projectIdentity
  let rows := sortByPos (fun row => toLex (row.recipientKind, row.recipientId))
    (db.projectRecipients.filter fun row =>
      (db.projectAliases canonicalIdentity projectIdentity).contains row.canonicalProjectIdentity)
  (winningRecipients canonicalIdentity (rows.filter fun row =>
    db.canonical row.canonicalProjectIdentity == canonicalIdentity)).map fun row =>
      { row with canonicalProjectIdentity := canonicalIdentity }

/-- The input that `deriveRecipientPolicyEffectiveDevicesFromDatabase` reads for a canonical
identity. -/
def derivationInput (canonicalIdentity : String) : DerivationInput where
  canonicalProjectIdentity := canonicalIdentity
  projectRecipients := db.canonicalProjectRecipientRows canonicalIdentity
  identities := sortByPos PolicyIdentity.identityId db.identities
  teams := sortByPos PolicyTeam.teamId db.teams
  teamMemberships := sortByPos (fun row => toLex (row.teamId, row.identityId)) db.teamMemberships
  teamDeviceDecisions := sortByPos (fun row => toLex (row.teamId, row.deviceId))
    db.teamDeviceDecisions
  identityDevices := sortByPos (fun row => toLex (row.identityId, row.deviceId)) db.identityDevices

def deriveRecipientPolicyEffectiveDevicesFromDatabase (projectIdentity : String) : Derivation :=
  deriveRecipientPolicyEffectiveDevices (db.derivationInput (db.canonical projectIdentity))

end PolicyTables

end Codemem

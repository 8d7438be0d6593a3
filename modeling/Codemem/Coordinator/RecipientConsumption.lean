import Codemem.Coordinator.InviteConsumption

/-!
# Consuming recipient invites

`consumeRecipientInvite` of the SQLite coordinator store.  Before its transaction it inspects the
invite and prepares a predicate about the retained owner of the device, which the transaction checks
before and after its writes.
-/

namespace Codemem

/-! ### Inspection -/

/-- `/^identity:[A-Za-z0-9_-]{18,24}$/`. -/
def isCoordinatorAssignedIdentityId (value : String) : Bool :=
  let rest := (sliceFrom 9 value).toList
  hasPrefix "identity:" value && decide (18 ≤ rest.length ∧ rest.length ≤ 24) &&
    rest.all fun c => c.isAlphanum || c == '_' || c == '-'

/-- `CoordinatorRecipientInviteInspection`, as far as a consumption reads it: the identity is the
assigned or the targeted one. -/
structure RecipientInviteInspection where
  kind : CoordinatorInviteKind
  identityId : String
  reviewedIntent : Json

def inspectCoordinatorRecipientInvite (tools : InviteTools) (invite : CoordinatorInvite) :
    Except String (Option RecipientInviteInspection) :=
  match invite.inviteKind with
  | some .teamMember => do
    rejectIf (truthy invite.policyTeamId = false ∨
        invite.assignedIdentityId.any isCoordinatorAssignedIdentityId = false ∨
        truthy invite.reviewedPreviewDigest = false) "invite_invalid"
    let intent ← tools.parseReviewedIntent invite.reviewedIntentJson
      (.teamMember (invite.policyTeamId.getD "")) (invite.reviewedPreviewDigest.getD "")
    .ok (some ⟨.teamMember, invite.assignedIdentityId.getD "", intent⟩)
  | some .addDevice => do
    rejectIf (truthy invite.targetIdentityId = false ∨
        truthy invite.reviewedPreviewDigest = false) "invite_invalid"
    let intent ← tools.parseReviewedIntent invite.reviewedIntentJson
      (.addDevice (invite.targetIdentityId.getD "")) (invite.reviewedPreviewDigest.getD "")
    .ok (some ⟨.addDevice, invite.targetIdentityId.getD "", intent⟩)
  | some .legacyEnrollment => .ok none
  | some .projectShare => .ok none
  | none => .ok none

/-- `recipientInviteAuthoritativeIdentityId(inspection)`. -/
def RecipientInviteInspection.authoritativeIdentityId (inspection : RecipientInviteInspection) :
    String :=
  trim inspection.identityId

/-! ### The owner of the device -/

/-- `CoordinatorConsumeRecipientInviteInput`. -/
structure ConsumeRecipientInviteInput where
  coordinatorId : Option String
  token : String
  inviteKind : CoordinatorInviteKind
  identityId : String
  deviceId : String
  publicKey : String
  fingerprint : String
  recipientDisplayName : Option String
  deviceDisplayName : Option String
  now : String
deriving DecidableEq

def ConsumeRecipientInviteInput.recipient (opts : ConsumeRecipientInviteInput) : InviteRecipient :=
  ⟨opts.deviceId, opts.publicKey, opts.fingerprint, opts.identityId⟩

def validateRecipientOwnerInput (opts : ConsumeRecipientInviteInput) : Except String Unit :=
  rejectIf (opts.identityId = "" ∨ opts.deviceId = "" ∨ opts.publicKey = "" ∨
      opts.fingerprint = "" ∨ opts.identityId ≠ trim opts.identityId ∨
      opts.deviceId ≠ trim opts.deviceId ∨ 256 < (utf16 opts.identityId).length ∨
      256 < (utf16 opts.deviceId).length ∨ opts.identityId.toList.any isControlOrFormat = true ∨
      opts.deviceId.toList.any isControlOrFormat = true) "invite_identity_conflict"

def isAuthControllerId (value : String) : Bool :=
  value != "" && decide ((utf16 value).length ≤ 256) && trim value == value &&
    !value.toList.any isControlOrFormat

/-- A consumed invite as the evidence about an owner reads it. -/
structure InviteEvidence where
  inviteId : String
  groupId : String
  policy : String
  createdAt : String
  expiresAt : String
  consumedAt : Option String
  revokedAt : Option String
  boundDeviceId : Option String
  boundPublicKey : Option String
  boundFingerprint : Option String
  inviteKind : Option CoordinatorInviteKind
  assignedIdentityId : Option String
  targetIdentityId : Option String
  recipientActorId : Option String
  reviewedPreviewDigest : Option String
deriving DecidableEq

def CoordinatorInvite.evidence (invite : CoordinatorInvite) : InviteEvidence :=
  ⟨invite.inviteId, invite.groupId, invite.policy, invite.createdAt, invite.expiresAt,
    invite.consumedAt, invite.revokedAt, invite.boundDeviceId, invite.boundPublicKey,
    invite.boundFingerprint, invite.inviteKind, invite.assignedIdentityId, invite.targetIdentityId,
    invite.recipientActorId, invite.reviewedPreviewDigest⟩

/-- The evidence about owners, as far as calls of the store change it. -/
structure OwnerEvidence where
  invites : List InviteEvidence
  bindings : List DeviceOwnershipBinding
  revocations : List RevocationSubject
  resolutions : List OwnerResolution
deriving DecidableEq

/-- The device whose owner is asked for. -/
structure OwnerSubject where
  coordinatorId : String
  deviceId : String
  publicKey : String
  fingerprint : String
  keyId : Option String
  ownerIdentityId : String
deriving DecidableEq

def OwnerResolution.about (deviceId : String) (keyId : Option String) (row : OwnerResolution) :
    Bool :=
  row.deviceId == deviceId || keyId == some row.keyId

/-- `NegativeOwnerConsistency`: what the predicate pins.  A resolved owner pins the evidence it was
classified from. -/
inductive OwnerConsistency where
  | missing
  | absent (coordinatorId : Option String) (deviceId : String) (keyId : Option String)
  | resolved (evidence : OwnerEvidence)
deriving DecidableEq

namespace AdmissionTables

/-- The retained resolutions, where the catalog has the table. -/
def resolutions (tables : AdmissionTables) : List OwnerResolution :=
  match tables.ownerResolutions with
  | .unsupported => []
  | .missing => []
  | .ready rows => rows

/-- `EVIDENCE_QUERIES`: what they read from tables that change. -/
def ownerEvidence (tables : AdmissionTables) : OwnerEvidence where
  invites := (tables.invites.rows.filter fun row => row.consumedAt.isSome).map
    CoordinatorInvite.evidence
  bindings := tables.ownershipBindings
  revocations := tables.devices.revocations
  resolutions := tables.resolutions

/-- No retained resolution of the coordinator is about the device. -/
def resolutionsAbsent (tables : AdmissionTables) (coordinatorId : Option String)
    (deviceId : String) (keyId : Option String) : Bool :=
  !tables.resolutions.any fun row =>
    coordinatorId.all (· == row.coordinatorId) && row.about deviceId keyId

/-- The predicate holds. -/
def matchesOwner (tables : AdmissionTables) : OwnerConsistency → Bool
  | .missing => decide (tables.ownerResolutions = .missing)
  | .absent coordinatorId deviceId keyId =>
    decide (tables.ownerResolutions ≠ .missing) &&
      tables.resolutionsAbsent coordinatorId deviceId keyId
  | .resolved evidence => decide (tables.ownerEvidence = evidence)

/-- `retainedRecheck` holds: only the retained resolutions count. -/
def retainsOwner (tables : AdmissionTables) : OwnerConsistency → Bool
  | .resolved evidence => decide (tables.resolutions = evidence.resolutions)
  | consistency => tables.matchesOwner consistency

/-- `prepareRecipientOwnerConsistency(backend, input)`: `classify` says whether the evidence about a
subject with retained resolutions is compatible with the owner. -/
def prepareRecipientOwnerConsistency (primitives : SignaturePrimitives)
    (classify : OwnerEvidence → OwnerSubject → Bool) (tables : AdmissionTables)
    (opts : ConsumeRecipientInviteInput) : Option OwnerConsistency :=
  let keyId := ed25519KeyIdForRevocation primitives opts.publicKey
  let absent := tables.resolutionsAbsent opts.coordinatorId opts.deviceId keyId
  if opts.coordinatorId.all isAuthControllerId = false then none
  else
    match tables.ownerResolutions with
    | .unsupported => none
    | .missing => some .missing
    | .ready _ =>
      if absent then some (.absent opts.coordinatorId opts.deviceId keyId)
      else
        match opts.coordinatorId with
        | none => none
        | some coordinatorId =>
          if classify tables.ownerEvidence ⟨coordinatorId, opts.deviceId, opts.publicKey,
              opts.fingerprint, keyId, opts.identityId⟩ then some (.resolved tables.ownerEvidence)
          else none

end AdmissionTables

/-! ### Consumption -/

/-- The columns of the reviewed intent are those that were inspected. -/
def CoordinatorInvite.sameReview (invite preflight : CoordinatorInvite) : Prop :=
  invite.inviteId = preflight.inviteId ∧
    invite.reviewedIntentJson = preflight.reviewedIntentJson ∧
    invite.reviewedPreviewDigest = preflight.reviewedPreviewDigest ∧
    invite.policyTeamId = preflight.policyTeamId ∧
    invite.targetIdentityId = preflight.targetIdentityId ∧
    invite.assignedIdentityId = preflight.assignedIdentityId

instance (invite preflight : CoordinatorInvite) : Decidable (invite.sameReview preflight) :=
  inferInstanceAs (Decidable (_ ∧ _))

/-- What `consumeRecipientInvite` knows before its transaction. -/
structure RecipientPreflight where
  invite : Option CoordinatorInvite
  inspection : Option RecipientInviteInspection
  consistency : Option OwnerConsistency
  consumedAt : String

/-- A consumption in its transaction: the invite as it was found, and what was captured. -/
structure RecipientConsumption where
  opts : ConsumeRecipientInviteInput
  consumedAt : String
  invite : CoordinatorInvite
  inspection : RecipientInviteInspection
  consistency : OwnerConsistency
  subjects : ParticipantSubjects

namespace AdmissionTables

/-- `assertRecipientOwnerPin(predicate)`. -/
def assertOwnerPin (holds : Bool) : Except String Unit :=
  rejectIf (holds = false) "device_ownership_authorization_unavailable"

/-- The condition of `recipientInviteAuthorization`. -/
def recipientAuthorized (tables : AdmissionTables) (subjects : ParticipantSubjects) : Bool :=
  !tables.participantsRevoked subjects && !tables.subjectOwned subjects.deviceId subjects.keyId

def assertRecipientInviteAuthorized (primitives : SignaturePrimitives) (tables : AdmissionTables)
    (invite : CoordinatorInvite) (recipient : InviteRecipient) (subjects : ParticipantSubjects) :
    Except String Unit := do
  tables.validateRecipientInviteParticipants primitives invite recipient
  rejectIf (tables.participantsRevoked subjects = true) "device_revoked"
  rejectIf (tables.subjectOwned subjects.deviceId subjects.keyId = true)
    "device_ownership_requires_verified_identity"

/-- The preflight of `consumeRecipientInvite`, outside its transaction. -/
def recipientPreflight (tools : InviteTools) (classify : OwnerEvidence → OwnerSubject → Bool)
    (tables : AdmissionTables) (opts : ConsumeRecipientInviteInput) :
    Except String RecipientPreflight := do
  let consumedAt ← normalizeInviteExpiresAt tools opts.now
  validateRecipientOwnerInput opts
  let consistency := tables.prepareRecipientOwnerConsistency tools.primitives classify opts
  match getInviteByTokenForInspection tools tables.invites opts.token with
  | none => .ok ⟨none, none, consistency, consumedAt⟩
  | some invite => do
    let inspection ← inspectCoordinatorRecipientInvite tools invite
    .ok ⟨some invite, inspection, consistency, consumedAt⟩

/-- The checks about the invite that `consumeRecipientInvite` has found in its transaction. -/
def checkRecipientInvite (tools : InviteTools) (tables : AdmissionTables)
    (opts : ConsumeRecipientInviteInput) (consumedAt : String)
    (inspection : RecipientInviteInspection) (preflight invite : CoordinatorInvite) :
    Except String Unit := do
  rejectIf (¬ invite.sameReview preflight ∨ inspection.kind ≠ opts.inviteKind ∨
    truthy invite.revokedAt = true) "invite_invalid"
  tables.checkInviteGroup invite
  rejectIf (truthy invite.consumedAt = false ∧ dateLe tools invite.expiresAt consumedAt = true)
    "invite_expired"
  rejectIf (tools.fingerprintPublicKey opts.publicKey ≠ opts.fingerprint) "fingerprint_mismatch"
  rejectIf (inspection.authoritativeIdentityId ≠ opts.identityId) "invite_identity_conflict"
  rejectIf (truthy invite.consumedAt = true ∧ ¬ invite.boundTo opts.recipient)
    "invite_already_bound"
  rejectIf (truthy invite.consumedAt = true ∧
    invite.recipientActorId ≠ some inspection.authoritativeIdentityId) "invite_identity_conflict"

/-- The beginning of the transaction: the invite is found, checked and authorized. -/
def findRecipientInvite (tools : InviteTools) (tables : AdmissionTables)
    (opts : ConsumeRecipientInviteInput) (preflight : RecipientPreflight) :
    Except String RecipientConsumption :=
  match getInviteByTokenForInspection tools tables.invites opts.token, preflight.inspection,
      preflight.invite with
  | some invite, some inspection, some preflightInvite => do
    tables.checkRecipientInvite tools opts preflight.consumedAt inspection preflightInvite invite
    tables.validateRecipientInviteParticipants tools.primitives invite opts.recipient
    let subjects := tables.participantSubjects tools.primitives invite opts.recipient
    tables.assertRecipientInviteAuthorized tools.primitives invite opts.recipient subjects
    match preflight.consistency with
    | none => .error "device_ownership_authorization_unavailable"
    | some consistency => do
      assertOwnerPin (tables.matchesOwner consistency)
      .ok ⟨opts, preflight.consumedAt, invite, inspection, consistency, subjects⟩
  | _, _, _ => .error "invite_invalid"

def consumedByRecipient (opts : ConsumeRecipientInviteInput) (consumedAt : String)
    (row : CoordinatorInvite) : CoordinatorInvite :=
  { row with
    token := consumedMarker row.inviteId
    consumedAt := some consumedAt
    boundDeviceId := some opts.deviceId
    boundPublicKey := some opts.publicKey
    boundFingerprint := some opts.fingerprint
    recipientActorId := some opts.identityId
    recipientDisplayName := opts.recipientDisplayName
    recipientDeviceDisplayName := opts.deviceDisplayName }

def selectsRecipientInvite (tables : AdmissionTables) (consumption : RecipientConsumption)
    (row : CoordinatorInvite) : Bool :=
  row.inviteId == consumption.invite.inviteId && row.consumedAt.isNone && row.revokedAt.isNone &&
    decide (consumption.consumedAt < row.expiresAt) &&
    row.inviteKind == some consumption.opts.inviteKind && tables.liveGroup row.groupId &&
    tables.recipientAuthorized consumption.subjects && tables.matchesOwner consumption.consistency

/-- `consumeRecipientOwnerToken(invite, opts, options)`: whether a row was changed, and the invites
after it. -/
def consumeRecipientOwnerToken (tables : AdmissionTables) (consumption : RecipientConsumption) :
    Except String (Bool × InviteTable) :=
  if truthy consumption.invite.consumedAt then .ok (false, tables.invites)
  else
    (tables.invites.update (tables.selectsRecipientInvite consumption)
      (consumedByRecipient consumption.opts consumption.consumedAt)).map fun invites =>
        (tables.invites.rows.any (tables.selectsRecipientInvite consumption), invites)

/-- The invite is bound to the device, and it is checked that it is. -/
def bindRecipientInvite (tables : AdmissionTables) (consumption : RecipientConsumption) :
    Except String (Stored Bool) := do
  let written ← tables.consumeRecipientOwnerToken consumption
  match written.2.byId consumption.invite.inviteId with
  | none => .error "invite_invalid"
  | some saved => do
    rejectIf (¬ saved.boundTo consumption.opts.recipient) "invite_already_bound"
    rejectIf (saved.recipientActorId ≠ some consumption.inspection.authoritativeIdentityId)
      "invite_identity_conflict"
    .ok (written.1, { tables with invites := written.2 })

/-- The enrollment that an accepted recipient invite inserts. -/
def recipientRow (consumption : RecipientConsumption) : EnrolledDeviceRow where
  groupId := consumption.invite.groupId
  deviceId := consumption.opts.deviceId
  publicKey := consumption.opts.publicKey
  fingerprint := consumption.opts.fingerprint
  identityId := some consumption.inspection.authoritativeIdentityId
  displayName := consumption.opts.deviceDisplayName
  enabled := true
  createdAt := consumption.consumedAt

/-- What an accepted recipient invite sets in a stored enrollment: nothing where the identity is
another one. -/
def recipientUpdate (consumption : RecipientConsumption) (stored : EnrolledDeviceRow) :
    EnrolledDeviceRow :=
  let identityId := some consumption.inspection.authoritativeIdentityId
  if stored.identityId.isNone || stored.identityId == identityId then
    { stored with
      publicKey := consumption.opts.publicKey
      fingerprint := consumption.opts.fingerprint
      identityId := stored.identityId <|> identityId
      displayName := stored.displayName <|> consumption.opts.deviceDisplayName
      enabled := true }
  else stored

/-- The rows whose identity `repairRecipientOwnerIdentity` fills in. -/
def repairsRecipient (tables : AdmissionTables) (consumption : RecipientConsumption)
    (row : EnrolledDeviceRow) : Bool :=
  decide (row.key = (consumption.invite.groupId, consumption.opts.deviceId)) &&
    row.identityId.isNone && row.publicKey == consumption.opts.publicKey &&
    row.fingerprint == consumption.opts.fingerprint &&
    tables.recipientAuthorized consumption.subjects && tables.matchesOwner consumption.consistency

/-- The device of an accepted recipient invite is enrolled, or its missing identity is filled in:
whether only the retained owner has to hold at the end. -/
def enrollRecipient (tables : AdmissionTables) (consumption : RecipientConsumption)
    (changed : Bool) : Stored Bool :=
  if changed then
    if tables.recipientAuthorized consumption.subjects &&
        tables.retainsOwner consumption.consistency then
      (true, tables.withEnrolled (insertOrUpdate EnrolledDeviceRow.key (recipientRow consumption)
        (recipientUpdate consumption) tables.devices.enrolledDevices))
    else (true, tables)
  else
    (tables.devices.enrolledDevices.any (tables.repairsRecipient consumption),
      tables.withEnrolled (updateRows (tables.repairsRecipient consumption)
        (fun row => { row with identityId := some consumption.opts.identityId })
        tables.devices.enrolledDevices))

/-- The pin that is pending: the retained owner, or the whole predicate. -/
def pendingPin (tables : AdmissionTables) (consumption : RecipientConsumption)
    (retained : Bool) : Bool :=
  if retained then tables.retainsOwner consumption.consistency
  else tables.matchesOwner consumption.consistency

def validateAcceptedRecipientOwner (tables : AdmissionTables) (consumption : RecipientConsumption) :
    Except String Unit :=
  match tables.enabledEnrollment consumption.invite.groupId consumption.opts.deviceId with
  | none => .error "invite_acceptance_incomplete"
  | some row =>
    rejectIf (row.publicKey ≠ consumption.opts.publicKey ∨
      row.fingerprint ≠ consumption.opts.fingerprint ∨
      row.identityId ≠ some consumption.opts.identityId) "invite_identity_conflict"

/-- The authorization that the insertion of a grant repeats. -/
def recipientGrantAuthorization (primitives : SignaturePrimitives) (tables : AdmissionTables)
    (consumption : RecipientConsumption) : Except String Unit :=
  if tables.recipientAuthorized consumption.subjects then .ok ()
  else do
    tables.assertRecipientInviteAuthorized primitives consumption.invite consumption.opts.recipient
      consumption.subjects
    .error "invite_acceptance_incomplete"

def issueRecipientGrant (tools : InviteTools) (tables : AdmissionTables)
    (consumption : RecipientConsumption) (retained : Bool) (grantId : String) :
    Except String (Stored (Option CoordinatorBootstrapGrant)) :=
  let invite := consumption.invite
  let input (seed : EnrolledDeviceRow) : BootstrapGrantInput :=
    ⟨invite.groupId, seed.deviceId, consumption.opts.deviceId, invite.expiresAt,
      some consumption.inspection.authoritativeIdentityId⟩
  if consumption.inspection.kind = .addDevice ∧ truthy invite.bootstrapGrantId = false ∧
      dateGt tools invite.expiresAt consumption.consumedAt = true then
    match tables.seedEnrollment invite with
    | none => .ok (none, tables)
    | some seed =>
      tables.issueInviteGrant invite
        (fun _ => tables.recipientAuthorized consumption.subjects &&
          tables.pendingPin consumption retained)
        (input seed) grantId consumption.consumedAt
        (fun tables => tables.recipientGrantAuthorization tools.primitives consumption)
  else .ok (none, tables)

/-- The end of `consumeRecipientInvite`: the last checks and the answer. -/
def finishRecipientInvite (primitives : SignaturePrimitives) (tables : AdmissionTables)
    (consumption : RecipientConsumption) (changed retained : Bool)
    (grant : Option CoordinatorBootstrapGrant) : Except String InviteAcceptance :=
  match tables.invites.byId consumption.invite.inviteId with
  | none => .error "invite_invalid"
  | some saved => do
    tables.assertRecipientInviteAuthorized primitives saved consumption.opts.recipient
      consumption.subjects
    assertOwnerPin (tables.pendingPin consumption retained)
    .ok ⟨changed, saved, none, none, some consumption.inspection.reviewedIntent,
      grant <|> saved.bootstrapGrantId.bind tables.bootstrapGrant⟩

/-- The transaction of `consumeRecipientInvite(input)`. -/
def consumeRecipientInviteBody (tools : InviteTools) (opts : ConsumeRecipientInviteInput)
    (preflight : RecipientPreflight) (draw : ConsumeDraw) (tables : AdmissionTables) :
    Except String (Stored InviteAcceptance) := do
  let consumption ← tables.findRecipientInvite tools opts preflight
  let consumed ← tables.bindRecipientInvite consumption
  let enrolled := consumed.2.enrollRecipient consumption consumed.1
  enrolled.2.assertRecipientInviteAuthorized tools.primitives consumption.invite opts.recipient
    consumption.subjects
  enrolled.2.validateAcceptedRecipientOwner consumption
  let granted ← enrolled.2.issueRecipientGrant tools consumption enrolled.1 draw.grantId.text
  let acceptance ← granted.2.finishRecipientInvite tools.primitives consumption consumed.1
    enrolled.1 granted.1
  .ok (acceptance, granted.2)

def consumeRecipientInvite (tools : InviteTools)
    (classify : OwnerEvidence → OwnerSubject → Bool) (tables : AdmissionTables)
    (opts : ConsumeRecipientInviteInput) (draw : ConsumeDraw) :
    Except String InviteAcceptance × AdmissionTables :=
  match tables.recipientPreflight tools classify opts with
  | .error error => (.error error, tables)
  | .ok preflight => inTransaction tables (consumeRecipientInviteBody tools opts preflight draw)

end AdmissionTables

end Codemem

import Codemem.Coordinator.EnrollmentWrites

/-!
# Consuming invites

`consumeProjectInvite` and `consumeRecipientInvite` of the SQLite coordinator store.  Each runs in
one immediate transaction: it finds the invite, checks it and its participants, binds it, enrolls the
device and issues at most one bootstrap grant.  Guards are captured once and evaluated again by every
statement that writes.
-/

namespace Codemem

/-! ### Participants -/

/-- The device that consumes an invite. -/
structure InviteRecipient where
  deviceId : String
  publicKey : String
  fingerprint : String
  identityId : String
deriving DecidableEq

/-- The subjects that the revocation ledger is asked about: the recipient and the inviter. -/
structure ParticipantSubjects where
  deviceId : String
  keyId : Option String
  inviterDeviceId : Option String
  inviterKeyId : Option String
deriving DecidableEq

namespace AdmissionTables

def inviterEnrollment (tables : AdmissionTables) (invite : CoordinatorInvite) :
    Option EnrolledDeviceRow :=
  invite.inviterDeviceId.bind fun deviceId =>
    if deviceId = "" then none else tables.enrollment invite.groupId deviceId

/-- The participants of a consumption. -/
def participantSubjects (primitives : SignaturePrimitives) (tables : AdmissionTables)
    (invite : CoordinatorInvite) (recipient : InviteRecipient) : ParticipantSubjects where
  deviceId := recipient.deviceId
  keyId := ed25519KeyIdForRevocation primitives recipient.publicKey
  inviterDeviceId := invite.inviterDeviceId
  inviterKeyId := (tables.inviterEnrollment invite).bind fun row =>
    ed25519KeyIdForRevocation primitives row.publicKey

@[simp] lemma participantSubjects_deviceId (primitives : SignaturePrimitives)
    (tables : AdmissionTables) (invite : CoordinatorInvite) (recipient : InviteRecipient) :
    (tables.participantSubjects primitives invite recipient).deviceId = recipient.deviceId := rfl

@[simp] lemma participantSubjects_keyId (primitives : SignaturePrimitives)
    (tables : AdmissionTables) (invite : CoordinatorInvite) (recipient : InviteRecipient) :
    (tables.participantSubjects primitives invite recipient).keyId =
      ed25519KeyIdForRevocation primitives recipient.publicKey := by
  unfold participantSubjects
  dsimp only

@[simp] lemma participantSubjects_inviterDeviceId (primitives : SignaturePrimitives)
    (tables : AdmissionTables) (invite : CoordinatorInvite) (recipient : InviteRecipient) :
    (tables.participantSubjects primitives invite recipient).inviterDeviceId =
      invite.inviterDeviceId := rfl

def participantsRevoked (tables : AdmissionTables) (subjects : ParticipantSubjects) : Bool :=
  tables.subjectRevoked (some subjects.deviceId) subjects.keyId ||
    tables.subjectRevoked subjects.inviterDeviceId subjects.inviterKeyId

/-- The stored enrollment of a device contradicts the recipient. -/
def enrollmentConflicts (recipient : InviteRecipient) (row : EnrolledDeviceRow) : Bool :=
  decide (row.publicKey ≠ recipient.publicKey) ||
    decide (row.fingerprint ≠ recipient.fingerprint) ||
    row.identityId.any fun identityId => decide (identityId ≠ recipient.identityId)

def validateRecipientInviteParticipants (primitives : SignaturePrimitives)
    (tables : AdmissionTables) (invite : CoordinatorInvite) (recipient : InviteRecipient) :
    Except String Unit := do
  rejectIf ((tables.enrollment invite.groupId recipient.deviceId).any
    (enrollmentConflicts recipient) = true) "invite_identity_conflict"
  rejectIf (tables.participantsRevoked (tables.participantSubjects primitives invite recipient) =
    true) "device_revoked"

end AdmissionTables

/-! ### Project invites -/

/-- `CoordinatorConsumeProjectInviteInput`. -/
structure ConsumeProjectInviteInput where
  token : String
  operationId : String
  deviceId : String
  publicKey : String
  fingerprint : String
  recipientActorId : String
  recipientDisplayName : String
  deviceDisplayName : String
  now : String
deriving DecidableEq

def ConsumeProjectInviteInput.recipient (opts : ConsumeProjectInviteInput) : InviteRecipient :=
  ⟨opts.deviceId, opts.publicKey, opts.fingerprint, opts.recipientActorId⟩

@[simp] lemma ConsumeProjectInviteInput.recipient_publicKey (opts : ConsumeProjectInviteInput) :
    opts.recipient.publicKey = opts.publicKey := rfl

/-- The invite is bound to this device and key. -/
def CoordinatorInvite.boundTo (invite : CoordinatorInvite) (recipient : InviteRecipient) : Prop :=
  invite.boundDeviceId = some recipient.deviceId ∧
    invite.boundPublicKey = some recipient.publicKey ∧
    invite.boundFingerprint = some recipient.fingerprint

instance (invite : CoordinatorInvite) (recipient : InviteRecipient) :
    Decidable (invite.boundTo recipient) :=
  inferInstanceAs (Decidable (_ ∧ _))

def CoordinatorInvite.names (invite : CoordinatorInvite) (opts : ConsumeProjectInviteInput) :
    Prop :=
  invite.recipientActorId = some opts.recipientActorId ∧
    invite.recipientDisplayName = some opts.recipientDisplayName ∧
    invite.recipientDeviceDisplayName = some opts.deviceDisplayName

instance (invite : CoordinatorInvite) (opts : ConsumeProjectInviteInput) :
    Decidable (invite.names opts) :=
  inferInstanceAs (Decidable (_ ∧ _))

/-- `projectInviteGuardEvidence` and `legacyProjectInviteOwnershipEvidence`: what a guard pins. -/
structure ProjectInviteGuard where
  invite : CoordinatorInvite
  opts : ConsumeProjectInviteInput
  inviter : Option EnrolledDeviceRow
  subjects : ParticipantSubjects
  currentKeyId : Option String

namespace AdmissionTables

/-- The columns that `eligibilitySql` compares; `=` is never true of a missing value. -/
def pinsInvite (captured row : CoordinatorInvite) : Bool :=
  row.inviteId == captured.inviteId && row.groupId == captured.groupId &&
    row.revokedAt.isNone && (row.operationId.isSome && row.operationId == captured.operationId) &&
    (row.projectIntentJson.isSome && row.projectIntentJson == captured.projectIntentJson) &&
    row.reviewedProjectSetDigest == captured.reviewedProjectSetDigest &&
    row.tokenDigest == captured.tokenDigest &&
    row.projectSummariesJson == captured.projectSummariesJson &&
    row.inviterActorId == captured.inviterActorId &&
    row.inviterDeviceId == captured.inviterDeviceId && row.expiresAt == captured.expiresAt

/-- The inviter is enrolled as it was captured. -/
def pinsInviter (tables : AdmissionTables) (invite : CoordinatorInvite)
    (captured : Option EnrolledDeviceRow) : Bool :=
  let current := invite.inviterDeviceId.bind (tables.enrollment invite.groupId)
  match captured with
  | none => current.isNone
  | some inviter => current.any fun row => row.publicKey == inviter.publicKey &&
      row.fingerprint == inviter.fingerprint && row.enabled == inviter.enabled

/-- `ownershipSql`. -/
def guardOwned (tables : AdmissionTables) (guard : ProjectInviteGuard) : Bool :=
  tables.subjectOwned guard.opts.deviceId guard.subjects.keyId ||
    tables.subjectOwned guard.opts.deviceId guard.currentKeyId

/-- `eligibilitySql`. -/
def projectEligible (tables : AdmissionTables) (guard : ProjectInviteGuard) : Bool :=
  (tables.invites.rows.any (pinsInvite guard.invite) && tables.liveGroup guard.invite.groupId &&
      tables.pinsInviter guard.invite guard.inviter &&
      !(tables.enrollment guard.invite.groupId guard.opts.deviceId).any
        (enrollmentConflicts guard.opts.recipient) &&
      !tables.participantsRevoked guard.subjects) && !tables.guardOwned guard

/-- `boundEligibilitySql`. -/
def boundEligible (tables : AdmissionTables) (guard : ProjectInviteGuard) : Bool :=
  tables.projectEligible guard && (tables.invites.byId guard.invite.inviteId).any fun row =>
    row.consumedAt.isSome && decide (row.boundTo guard.opts.recipient) &&
      decide (row.names guard.opts)

def prepareProjectInviteGuards (primitives : SignaturePrimitives) (tables : AdmissionTables)
    (invite : CoordinatorInvite) (opts : ConsumeProjectInviteInput) :
    Except String ProjectInviteGuard := do
  let guard : ProjectInviteGuard :=
    { invite := invite
      opts := opts
      inviter := tables.inviterEnrollment invite
      subjects := tables.participantSubjects primitives invite opts.recipient
      currentKeyId := tables.storedKeyId primitives invite.groupId opts.deviceId }
  rejectIf (tables.participantsRevoked guard.subjects = true) "device_revoked"
  rejectIf (tables.guardOwned guard = true) "device_ownership_requires_verified_identity"
  tables.validateRecipientInviteParticipants primitives invite opts.recipient
  .ok guard

def assertProjectInviteEligible (primitives : SignaturePrimitives) (tables : AdmissionTables)
    (invite : CoordinatorInvite) (guard : ProjectInviteGuard) : Except String Unit := do
  let state := tables.invites.byId invite.inviteId
  rejectIf (state.all (fun row => truthy row.revokedAt) = true) "invite_invalid"
  rejectIf (tables.devices.getGroup invite.groupId = none) "group_not_found"
  rejectIf (((tables.devices.getGroup invite.groupId).any fun group =>
    truthy group.archivedAt) = true) "group_archived"
  let _ ← tables.prepareProjectInviteGuards primitives invite guard.opts
  rejectIf (tables.boundEligible guard = false) "invite_acceptance_incomplete"

/-- The group of an invite is stored and not archived. -/
def checkInviteGroup (tables : AdmissionTables) (invite : CoordinatorInvite) :
    Except String Unit := do
  rejectIf (tables.devices.getGroup invite.groupId = none) "group_not_found"
  rejectIf (((tables.devices.getGroup invite.groupId).any fun group =>
    truthy group.archivedAt) = true) "group_archived"

/-- The invite that a project invite is consumed through, after the checks before the guards. -/
def findProjectInvite (tools : InviteTools) (tables : AdmissionTables)
    (opts : ConsumeProjectInviteInput) (consumedAt : String) : Except String CoordinatorInvite :=
  match getInviteByTokenForInspection tools tables.invites opts.token with
  | none => .error "invite_invalid"
  | some invite => do
    rejectIf (truthy invite.operationId = false ∨ truthy invite.projectIntentJson = false ∨
      truthy invite.revokedAt = true) "invite_invalid"
    tables.checkInviteGroup invite
    rejectIf (invite.operationId ≠ some opts.operationId) "invite_invalid"
    rejectIf (tools.fingerprintPublicKey opts.publicKey ≠ opts.fingerprint) "fingerprint_mismatch"
    rejectIf (truthy invite.consumedAt = false ∧ dateLe tools invite.expiresAt consumedAt = true)
      "invite_expired"
    rejectIf (truthy invite.consumedAt = true ∧ ¬ invite.boundTo opts.recipient)
      "invite_already_bound"
    rejectIf (truthy invite.consumedAt = true ∧ ¬ invite.names opts) "invite_identity_conflict"
    .ok invite

def consumedByProject (opts : ConsumeProjectInviteInput) (consumedAt : String)
    (row : CoordinatorInvite) : CoordinatorInvite :=
  { row with
    token := consumedMarker row.inviteId
    consumedAt := some consumedAt
    boundDeviceId := some opts.deviceId
    boundPublicKey := some opts.publicKey
    boundFingerprint := some opts.fingerprint
    recipientActorId := some opts.recipientActorId
    recipientDisplayName := some opts.recipientDisplayName
    recipientDeviceDisplayName := some opts.deviceDisplayName
    trustState := some "pending_inviter_device" }

/-- The rows that the consumption of a project invite selects. -/
def selectsUnconsumed (tables : AdmissionTables) (guard : ProjectInviteGuard)
    (row : CoordinatorInvite) : Bool :=
  row.inviteId == guard.invite.inviteId && row.consumedAt.isNone &&
    tables.liveGroup row.groupId && tables.projectEligible guard

/-- An unconsumed project invite is bound to the device: whether it was, and the invite after it. -/
def bindProjectInvite (tables : AdmissionTables) (guard : ProjectInviteGuard)
    (consumedAt : String) : Except String (Stored (Bool × CoordinatorInvite)) :=
  if truthy guard.invite.consumedAt then .ok ((false, guard.invite), tables)
  else do
    let selects := tables.selectsUnconsumed guard
    let accepted := tables.invites.rows.any selects
    let invites ← tables.invites.update selects (consumedByProject guard.opts consumedAt)
    match invites.byId guard.invite.inviteId with
    | none => .error "invite_invalid"
    | some invite => do
      rejectIf (accepted = false ∧ ((tables.devices.getGroup invite.groupId).any fun group =>
        truthy group.archivedAt) = true) "group_archived"
      rejectIf (accepted = false ∧ ¬ invite.boundTo guard.opts.recipient) "invite_already_bound"
      .ok ((accepted, invite), { tables with invites := invites })

/-- The device of an accepted project invite is enrolled; a repeat fills in a missing identity. -/
def enrollProjectRecipient (primitives : SignaturePrimitives) (tables : AdmissionTables)
    (guard : ProjectInviteGuard) (invite : CoordinatorInvite) (accepted : Bool) (now : String) :
    Except String AdmissionTables :=
  let opts := guard.opts
  if accepted then do
    tables.assertProjectInviteEligible primitives invite guard
    tables.enrollDeviceSync primitives invite.groupId
      ⟨opts.deviceId, opts.publicKey, opts.fingerprint, some opts.recipientActorId,
        some opts.deviceDisplayName⟩ now
  else
    .ok (tables.withEnrolled (updateRows
      (fun row => decide (row.key = (invite.groupId, opts.deviceId)) && row.identityId.isNone &&
        row.enabled && row.publicKey == opts.publicKey && row.fingerprint == opts.fingerprint &&
        tables.boundEligible guard)
      (fun row => { row with identityId := some opts.recipientActorId })
      tables.devices.enrolledDevices))

/-- The bootstrap grant is recorded in the invite. -/
def claimedForGrant (grantId : String) (row : CoordinatorInvite) : CoordinatorInvite :=
  { row with
    bootstrapGrantId := some grantId
    trustState := some "bootstrap_grant_created" }

/-- The enabled enrollment of the inviter, who seeds the new device. -/
def seedEnrollment (tables : AdmissionTables) (invite : CoordinatorInvite) :
    Option EnrolledDeviceRow :=
  (tables.inviterEnrollment invite).filter EnrolledDeviceRow.enabled

/-- An invite that has no grant yet and has not expired claims one: the rows that `selects` picks. -/
def issueInviteGrant (tables : AdmissionTables) (invite : CoordinatorInvite)
    (selects : CoordinatorInvite → Bool) (input : BootstrapGrantInput) (grantId consumedAt : String)
    (authorization : AdmissionTables → Except String Unit) :
    Except String (Stored (Option CoordinatorBootstrapGrant)) := do
  let claims : CoordinatorInvite → Bool := fun row =>
    row.inviteId == invite.inviteId && row.bootstrapGrantId.isNone && selects row
  let claimed := tables.invites.rows.any claims
  let invites ← tables.invites.update claims (claimedForGrant grantId)
  let tables := { tables with invites := invites }
  if claimed then
    (tables.insertBootstrapGrantSync input grantId consumedAt (authorization tables)).map
      fun result => (some result.1, result.2)
  else .ok (none, tables)

def issueProjectGrant (tools : InviteTools) (tables : AdmissionTables)
    (guard : ProjectInviteGuard) (invite : CoordinatorInvite) (grantId consumedAt : String) :
    Except String (Stored (Option CoordinatorBootstrapGrant)) :=
  match tables.seedEnrollment invite with
  | none => .ok (none, tables)
  | some seed =>
    if truthy invite.bootstrapGrantId = false ∧ dateGt tools invite.expiresAt consumedAt = true then
      tables.issueInviteGrant invite
        (fun row => decide (row.boundDeviceId = some guard.opts.deviceId) &&
          tables.boundEligible guard)
        ⟨invite.groupId, seed.deviceId, guard.opts.deviceId, invite.expiresAt,
          invite.inviterActorId⟩ grantId consumedAt (fun _ => .ok ())
    else .ok (none, tables)

/-- `SELECT … FROM coordinator_bootstrap_grants WHERE grant_id = ?`. -/
def bootstrapGrant (tables : AdmissionTables) (grantId : String) :
    Option CoordinatorBootstrapGrant :=
  rowAt CoordinatorBootstrapGrant.grantId grantId tables.bootstrapGrants

end AdmissionTables

/-- What the consumption of an invite answers. -/
structure InviteAcceptance where
  accepted : Bool
  invite : CoordinatorInvite
  enrollment : Option EnrolledDeviceRow
  seedEnrollment : Option EnrolledDeviceRow
  reviewedIntent : Option Json
  bootstrapGrant : Option CoordinatorBootstrapGrant

/-- What a call draws when it issues a grant, and the clock it enrolls by. -/
structure ConsumeDraw where
  grantId : UrlToken
  nowISO : String

namespace AdmissionTables

/-- The end of `consumeProjectInvite`: the last checks and the answer. -/
def finishProjectInvite (primitives : SignaturePrimitives) (tables : AdmissionTables)
    (guard : ProjectInviteGuard) (accepted : Bool) (seed : Option EnrolledDeviceRow)
    (grant : Option CoordinatorBootstrapGrant) : Except String InviteAcceptance :=
  match tables.invites.byId guard.invite.inviteId with
  | none => .error "invite_invalid"
  | some saved => do
    tables.assertProjectInviteEligible primitives saved guard
    match tables.enabledEnrollment guard.invite.groupId guard.opts.deviceId with
    | none => .error "invite_acceptance_incomplete"
    | some enrollment => do
      rejectIf (enrollment.identityId ≠ some guard.opts.recipientActorId)
        "invite_identity_conflict"
      .ok ⟨accepted, saved, some enrollment, seed, none,
        grant <|> saved.bootstrapGrantId.bind tables.bootstrapGrant⟩

/-- The transaction of `consumeProjectInvite(input)`. -/
def consumeProjectInviteBody (tools : InviteTools) (opts : ConsumeProjectInviteInput)
    (draw : ConsumeDraw) (consumedAt : String) (tables : AdmissionTables) :
    Except String (Stored InviteAcceptance) := do
  let found ← tables.findProjectInvite tools opts consumedAt
  let guard ← tables.prepareProjectInviteGuards tools.primitives found opts
  let bound ← tables.bindProjectInvite guard consumedAt
  rejectIf (¬ bound.1.2.names opts) "invite_identity_conflict"
  let enrolled ← bound.2.enrollProjectRecipient tools.primitives guard bound.1.2 bound.1.1
    draw.nowISO
  let granted ← enrolled.issueProjectGrant tools guard bound.1.2 draw.grantId.text consumedAt
  let acceptance ← granted.2.finishProjectInvite tools.primitives guard bound.1.1
    (enrolled.seedEnrollment bound.1.2) granted.1
  .ok (acceptance, granted.2)

def consumeProjectInvite (tools : InviteTools) (tables : AdmissionTables)
    (opts : ConsumeProjectInviteInput) (draw : ConsumeDraw) :
    Except String InviteAcceptance × AdmissionTables :=
  match normalizeInviteExpiresAt tools opts.now with
  | .error error => (.error error, tables)
  | .ok consumedAt => inTransaction tables (consumeProjectInviteBody tools opts draw consumedAt)

end AdmissionTables

end Codemem

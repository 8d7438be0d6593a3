import Codemem.Json
import Codemem.Coordinator.InviteTables

/-!
# Creating and finding invites

`createInvite` and the lookups by token of the SQLite coordinator store, with the rules for the
metadata of an invite.  The digest of a token, the fingerprint of a key, the dates of the language
and the review of an access intent are parameters.
-/

namespace Codemem

/-! ### Parameters -/

/-- `RecipientReviewedIntentTargetV1`. -/
inductive ReviewedIntentTarget where
  | teamMember (policyTeamId : String)
  | addDevice (targetIdentityId : String)
deriving DecidableEq

/-- What the invites use of the language, and of the review of access intents:
`reviewedIntentJson` verifies an intent and writes its canonical text, `parseReviewedIntent` reads a
stored text, and both throw where the intent does not fit its target and digest.  A date is never
written as the empty text. -/
structure InviteTools where
  primitives : SignaturePrimitives
  tokenDigest : String → String
  fingerprintPublicKey : String → String
  dateMillis : String → Option ℤ
  isoString : ℤ → String
  isoString_ne : ∀ millis, isoString millis ≠ ""
  reviewedIntentJson : Json → ReviewedIntentTarget → String → Except String String
  parseReviewedIntent : Option String → ReviewedIntentTarget → String → Except String Json

/-- A text of `tokenUrlSafe(bytes)`: its alphabet has no colon. -/
structure UrlToken where
  text : String
  noColon : ':' ∉ text.toList

def normalizeInviteExpiresAt (tools : InviteTools) (value : String) : Except String String :=
  match if trim value = "" then none else tools.dateMillis (trim value) with
  | none => .error "expiresAt must be a valid date."
  | some millis => .ok (tools.isoString millis)

/-- `new Date(left) <= new Date(right)`: false where one of them is no date. -/
def dateLe (tools : InviteTools) (left right : String) : Bool :=
  (tools.dateMillis left).any fun l => (tools.dateMillis right).any fun r => decide (l ≤ r)

/-- `new Date(left) > new Date(right)`. -/
def dateGt (tools : InviteTools) (left right : String) : Bool :=
  (tools.dateMillis left).any fun l => (tools.dateMillis right).any fun r => decide (r < l)

/-! ### Metadata -/

/-- `CoordinatorCreateInviteInput`; lists of projects are given by their JSON texts. -/
structure CoordinatorCreateInviteInput where
  groupId : String
  policy : String
  expiresAt : String
  createdBy : Option String
  operationId : Option String
  reviewedProjectSetDigest : Option String
  inviterActorId : Option String
  inviterDisplayName : Option String
  inviterDeviceId : Option String
  pendingPersonId : Option String
  projectSummaries : Option String
  projectIntent : Option String
  inviteKind : Option CoordinatorInviteKind
  policyTeamId : Option String
  targetIdentityId : Option String
  reviewedPreviewDigest : Option String
  reviewedIntent : Option Json

/-- The metadata of an invite after `normalizeCoordinatorInviteMetadata`. -/
structure NormalizedInviteMetadata where
  inviteKind : CoordinatorInviteKind
  policyTeamId : Option String
  targetIdentityId : Option String
  reviewedPreviewDigest : Option String
  reviewedIntentJson : Option String
deriving DecidableEq

/-- `/^[a-f0-9]{64}$/`. -/
def isSha256Digest (value : String) : Bool :=
  value.length == 64 && value.toList.all fun c => c.isDigit || ('a' ≤ c && c ≤ 'f')

def validateInviteMetadataIdentifiers (metadata : NormalizedInviteMetadata) :
    Except String Unit := do
  rejectIf (([metadata.policyTeamId, metadata.targetIdentityId].reduceOption.any fun value =>
    decide (256 < (utf16 value).length) || value.toList.any isControlOrFormat) = true)
      "recipient invite identifier is invalid."
  rejectIf (metadata.reviewedPreviewDigest.any (fun digest => !isSha256Digest digest) = true)
    "reviewedPreviewDigest must be a SHA-256 digest."

/-- `INVITE_METADATA_VALIDATORS[metadata.inviteKind](operationId, metadata)`. -/
def validateInviteMetadataShape (operationId : Option String)
    (metadata : NormalizedInviteMetadata) : Except String Unit :=
  match metadata.inviteKind with
  | .projectShare => do
    rejectIf (operationId = none) "project_share invite requires operationId."
    rejectIf (metadata.policyTeamId ≠ none ∨ metadata.targetIdentityId ≠ none ∨
        metadata.reviewedPreviewDigest ≠ none)
      "recipient invite metadata requires a recipient invite kind."
  | .legacyEnrollment => do
    rejectIf (operationId ≠ none) "legacy_enrollment invite cannot reference an operation."
    rejectIf (metadata.policyTeamId ≠ none ∨ metadata.targetIdentityId ≠ none ∨
        metadata.reviewedPreviewDigest ≠ none)
      "recipient invite metadata requires a recipient invite kind."
  | .teamMember =>
    rejectIf (metadata.policyTeamId = none ∨ metadata.reviewedPreviewDigest = none ∨
        metadata.targetIdentityId ≠ none ∨ operationId ≠ none)
      "team_member invite metadata is invalid."
  | .addDevice =>
    rejectIf (metadata.targetIdentityId = none ∨ metadata.reviewedPreviewDigest = none ∨
        metadata.policyTeamId ≠ none ∨ operationId ≠ none)
      "add_device invite metadata is invalid."

def reviewedIntentTarget (metadata : NormalizedInviteMetadata) :
    Except String (ReviewedIntentTarget × String) :=
  match metadata.inviteKind, metadata.policyTeamId, metadata.targetIdentityId,
      metadata.reviewedPreviewDigest with
  | .teamMember, some policyTeamId, _, some digest => .ok (.teamMember policyTeamId, digest)
  | .addDevice, _, some targetIdentityId, some digest => .ok (.addDevice targetIdentityId, digest)
  | _, _, _, _ => .error "recipient invite metadata requires a recipient invite kind."

def normalizeCoordinatorInviteMetadata (tools : InviteTools)
    (opts : CoordinatorCreateInviteInput) : Except String NormalizedInviteMetadata := do
  let metadata : NormalizedInviteMetadata :=
    { inviteKind := opts.inviteKind.getD
        (if (cleanText opts.operationId).isSome then .projectShare else .legacyEnrollment)
      policyTeamId := cleanText opts.policyTeamId
      targetIdentityId := cleanText opts.targetIdentityId
      reviewedPreviewDigest := cleanText opts.reviewedPreviewDigest
      reviewedIntentJson := none }
  validateInviteMetadataIdentifiers metadata
  validateInviteMetadataShape (cleanText opts.operationId) metadata
  match opts.reviewedIntent with
  | none => do
    rejectIf (metadata.inviteKind = .teamMember ∨ metadata.inviteKind = .addDevice)
      "recipient_invite_review_unavailable"
    .ok metadata
  | some intent => do
    let target ← reviewedIntentTarget metadata
    let text ← tools.reviewedIntentJson intent target.1 target.2
    .ok { metadata with reviewedIntentJson := some text }

/-! ### Creation -/

/-- What `createInvite` draws: an id, a token and the rest of an assigned identity. -/
structure InviteDraw where
  inviteId : UrlToken
  token : UrlToken
  identity : UrlToken

/-- An invite that is about to be created: what the call computes before its statements. -/
structure InvitePlan where
  opts : CoordinatorCreateInviteInput
  now : String
  expiresAt : String
  draw : InviteDraw
  metadata : NormalizedInviteMetadata

namespace InvitePlan

/-- `clean(opts.operationId)`. -/
def operationId (plan : InvitePlan) : Option String := cleanText plan.opts.operationId

/-- The row that `createInvite` inserts. -/
def row (tools : InviteTools) (plan : InvitePlan) : CoordinatorInvite where
  inviteId := plan.draw.inviteId.text
  groupId := plan.opts.groupId
  token := plan.draw.token.text
  policy := plan.opts.policy
  expiresAt := plan.expiresAt
  createdAt := plan.now
  createdBy := plan.opts.createdBy
  revokedAt := none
  operationId := plan.operationId
  reviewedProjectSetDigest := cleanText plan.opts.reviewedProjectSetDigest
  tokenDigest := some (tools.tokenDigest plan.draw.token.text)
  inviterActorId := cleanText plan.opts.inviterActorId
  inviterDisplayName := cleanText plan.opts.inviterDisplayName
  inviterDeviceId := cleanText plan.opts.inviterDeviceId
  pendingPersonId := cleanText plan.opts.pendingPersonId
  projectSummariesJson := plan.opts.projectSummaries
  projectIntentJson := plan.opts.projectIntent
  consumedAt := none
  boundDeviceId := none
  boundPublicKey := none
  boundFingerprint := none
  recipientActorId := none
  recipientDisplayName := none
  recipientDeviceDisplayName := none
  trustState := if plan.operationId.isSome then some "pending" else none
  bootstrapGrantId := none
  inviteKind := some plan.metadata.inviteKind
  policyTeamId := plan.metadata.policyTeamId
  targetIdentityId := plan.metadata.targetIdentityId
  assignedIdentityId :=
    if plan.metadata.inviteKind = .teamMember then some ("identity:" ++ plan.draw.identity.text)
    else none
  reviewedPreviewDigest := plan.metadata.reviewedPreviewDigest
  reviewedIntentJson := plan.metadata.reviewedIntentJson

/-- A stored invite of the operation has the intent of this call. -/
def SameIntent (tools : InviteTools) (plan : InvitePlan) (existing : CoordinatorInvite) : Prop :=
  let new := plan.row tools
  existing.groupId = new.groupId ∧ existing.policy = new.policy ∧
    existing.inviteKind = new.inviteKind ∧
    existing.reviewedProjectSetDigest = new.reviewedProjectSetDigest ∧
    existing.inviterActorId = new.inviterActorId ∧
    existing.inviterDisplayName = new.inviterDisplayName ∧
    existing.inviterDeviceId = new.inviterDeviceId ∧
    existing.pendingPersonId = new.pendingPersonId ∧
    existing.projectSummariesJson = new.projectSummariesJson ∧
    existing.projectIntentJson = new.projectIntentJson ∧
    existing.policyTeamId = new.policyTeamId ∧ existing.targetIdentityId = new.targetIdentityId ∧
    existing.reviewedPreviewDigest = new.reviewedPreviewDigest ∧
    existing.reviewedIntentJson = new.reviewedIntentJson

instance (tools : InviteTools) (plan : InvitePlan) (existing : CoordinatorInvite) :
    Decidable (plan.SameIntent tools existing) :=
  inferInstanceAs (Decidable (_ ∧ _))

def readOperationInvite (tools : InviteTools) (plan : InvitePlan) (invites : InviteTable) :
    Except String (Option CoordinatorInvite) :=
  match plan.operationId.bind fun operationId =>
      invites.rows.find? fun row => row.operationId == some operationId with
  | none => .ok none
  | some existing => do
    rejectIf (truthy existing.consumedAt = true) "invite_already_bound"
    rejectIf (¬ plan.SameIntent tools existing) "invite_operation_intent_conflict"
    .ok (some existing)

def renews (plan : InvitePlan) (existing row : CoordinatorInvite) : Bool :=
  plan.operationId.isSome && row.operationId == plan.operationId && row.token == existing.token &&
    (row.revokedAt.isSome || decide (row.expiresAt ≤ plan.now))

/-- The columns that a renewal sets. -/
def renewed (tools : InviteTools) (plan : InvitePlan) (row : CoordinatorInvite) :
    CoordinatorInvite :=
  { row with
    token := plan.draw.token.text
    tokenDigest := some (tools.tokenDigest plan.draw.token.text)
    expiresAt := plan.expiresAt
    createdAt := plan.now
    createdBy := plan.opts.createdBy
    revokedAt := none }

/-- `renewOperationInvite(existing)`: the answer, and the invites it leaves. -/
def renewOperationInvite (tools : InviteTools) (plan : InvitePlan) (invites : InviteTable)
    (existing : CoordinatorInvite) : Except String CoordinatorInvite × InviteTable :=
  if truthy existing.revokedAt = false ∧ plan.now < existing.expiresAt then
    (.ok existing, invites)
  else
    match invites.update (plan.renews existing) (plan.renewed tools) with
    | .error error => (.error error, invites)
    | .ok invites' =>
      match plan.readOperationInvite tools invites' with
      | .error error => (.error error, invites')
      | .ok none => (.error "invite_operation_reissue_failed", invites')
      | .ok (some renewed) => (.ok renewed, invites')

/-- The insertion, and the answer where it fails because the operation has an invite by now. -/
def insertInvite (tools : InviteTools) (plan : InvitePlan) (invites : InviteTable) :
    Except String CoordinatorInvite × InviteTable :=
  match invites.insert (plan.row tools) with
  | .ok invites' =>
    match invites'.byId (plan.row tools).inviteId with
    | none => (.error "row missing", invites')
    | some row => (.ok row, invites')
  | .error error =>
    match plan.readOperationInvite tools invites with
    | .error error' => (.error error', invites)
    | .ok none => (.error error, invites)
    | .ok (some existing) => plan.renewOperationInvite tools invites existing

/-- The statements of `createInvite`. -/
def run (tools : InviteTools) (plan : InvitePlan) (invites : InviteTable) :
    Except String CoordinatorInvite × InviteTable :=
  match plan.readOperationInvite tools invites with
  | .error error => (.error error, invites)
  | .ok (some existing) => plan.renewOperationInvite tools invites existing
  | .ok none => plan.insertInvite tools invites

end InvitePlan

/-- The part of `createInvite` before its statements. -/
def planInvite (tools : InviteTools) (opts : CoordinatorCreateInviteInput) (now : String)
    (draw : InviteDraw) : Except String InvitePlan := do
  let expiresAt ← normalizeInviteExpiresAt tools opts.expiresAt
  let metadata ← normalizeCoordinatorInviteMetadata tools opts
  rejectIf ((cleanText opts.operationId).isSome ≠ (cleanText opts.reviewedProjectSetDigest).isSome)
    "operationId and reviewedProjectSetDigest must be provided together."
  .ok ⟨opts, now, expiresAt, draw, metadata⟩

def createInvite (tools : InviteTools) (tables : AdmissionTables)
    (opts : CoordinatorCreateInviteInput) (now : String) (draw : InviteDraw) :
    Except String CoordinatorInvite × AdmissionTables :=
  match planInvite tools opts now draw with
  | .error error => (.error error, tables)
  | .ok plan =>
    let result := plan.run tools tables.invites
    (result.1, { tables with invites := result.2 })

/-! ### Lookups -/

/-- `token_digest = ? OR token = ?`. -/
def matchesToken (tools : InviteTools) (token : String) (row : CoordinatorInvite) : Bool :=
  row.tokenDigest == some (tools.tokenDigest token) || row.token == token

def getInviteByTokenForInspection (tools : InviteTools) (invites : InviteTable)
    (token : String) : Option CoordinatorInvite :=
  invites.rows.find? (matchesToken tools token)

def getInviteByToken (tools : InviteTools) (invites : InviteTable) (token now : String) :
    Option CoordinatorInvite :=
  invites.rows.find? fun row =>
    matchesToken tools token row && row.revokedAt.isNone && decide (now < row.expiresAt)

/-- What a consumed invite has in its `token` column. -/
def consumedMarker (inviteId : String) : String := "consumed:" ++ inviteId

end Codemem

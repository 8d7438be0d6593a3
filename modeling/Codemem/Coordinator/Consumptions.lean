import Codemem.Coordinator.ConsumptionStages

/-!
# Accepted consumptions

An accepted consumption leaves an invite that is bound to its device and an enabled enrollment of that
device.  Both survive every later consumption.
-/

namespace Codemem

/-! ### Consumptions -/

/-- A consumption of either kind. -/
inductive ConsumeInput where
  | project (opts : ConsumeProjectInviteInput)
  | recipient (opts : ConsumeRecipientInviteInput)
deriving DecidableEq

namespace ConsumeInput

/-- The token that is presented. -/
def token : ConsumeInput → String
  | project opts => opts.token
  | recipient opts => opts.token

def device : ConsumeInput → InviteRecipient
  | project opts => opts.recipient
  | recipient opts => opts.recipient

/-- The call. -/
def run (tools : InviteTools) (classify : OwnerEvidence → OwnerSubject → Bool)
    (tables : AdmissionTables) (draw : ConsumeDraw) :
    ConsumeInput → Except String InviteAcceptance × AdmissionTables
  | project opts => tables.consumeProjectInvite tools opts draw
  | recipient opts => tables.consumeRecipientInvite tools classify opts draw

end ConsumeInput

/-! ### What is left -/

/-- A consumed invite that accepts its input again: its columns are those that the input is checked
against. -/
structure RowAccepts (tools : InviteTools) (input : ConsumeInput) (row : CoordinatorInvite) :
    Prop where
  consumed : row.consumedAt.isSome = true
  bound : row.boundTo input.device
  identity : row.recipientActorId = some input.device.identityId
  revoked : row.revokedAt = none
  fingerprint : tools.fingerprintPublicKey input.device.publicKey = input.device.fingerprint
  project : ∀ opts, input = .project opts → row.names opts ∧
    row.operationId = some opts.operationId ∧ truthy row.operationId = true ∧
    truthy row.projectIntentJson = true ∧
    ∃ consumedAt, normalizeInviteExpiresAt tools opts.now = .ok consumedAt
  recipient : ∀ opts, input = .recipient opts →
    (∃ inspection, inspectCoordinatorRecipientInvite tools row = .ok (some inspection) ∧
      inspection.kind = opts.inviteKind ∧
      inspection.authoritativeIdentityId = opts.identityId) ∧
    validateRecipientOwnerInput opts = .ok () ∧
    ∃ consumedAt, normalizeInviteExpiresAt tools opts.now = .ok consumedAt

lemma RowAccepts.advance {tools : InviteTools} {input : ConsumeInput}
    {row row' : CoordinatorInvite} (h : RowAccepts tools input row)
    (hadvances : InviteAdvances row row') : RowAccepts tools input row' := by
  have hfinal := hadvances.final h.consumed
  rw [hfinal]
  exact ⟨h.consumed, h.bound, h.identity, h.revoked, h.fingerprint, h.project, h.recipient⟩

/-- Tables that let a device repeat the consumption of an invite. -/
structure TablesAccept (primitives : SignaturePrimitives) (tables : AdmissionTables)
    (row : CoordinatorInvite) (device : InviteRecipient) : Prop where
  group : tables.devices.getGroup row.groupId ≠ none
  unarchived : ((tables.devices.getGroup row.groupId).any fun group => truthy group.archivedAt) =
    false
  live : tables.liveGroup row.groupId = true
  enrolled : ∃ enrollment, tables.enrollment row.groupId device.deviceId = some enrollment ∧
    enrollment.publicKey = device.publicKey ∧ enrollment.fingerprint = device.fingerprint ∧
    enrollment.identityId = some device.identityId ∧ enrollment.enabled = true
  unrevoked : tables.participantsRevoked (tables.participantSubjects primitives row device) = false
  unowned : tables.subjectOwned device.deviceId
    (ed25519KeyIdForRevocation primitives device.publicKey) = false

namespace AdmissionTables

variable {tools : InviteTools} {primitives : SignaturePrimitives} {tables tables' : AdmissionTables}

lemma subjectRevoked_eq_false_iff {deviceId keyId : Option String} :
    tables.subjectRevoked deviceId keyId = false ↔ tables.subjectRevoked deviceId none = false ∧
      tables.subjectRevoked none keyId = false := by
  unfold subjectRevoked
  simp

lemma participantsRevoked_eq_false_iff {subjects : ParticipantSubjects} :
    tables.participantsRevoked subjects = false ↔
      tables.subjectRevoked (some subjects.deviceId) subjects.keyId = false ∧
        tables.subjectRevoked subjects.inviterDeviceId subjects.inviterKeyId = false := by
  unfold participantsRevoked
  rw [Bool.or_eq_false_iff]

end AdmissionTables

lemma TablesAccept.device_unrevoked {primitives : SignaturePrimitives} {tables : AdmissionTables}
    {row : CoordinatorInvite} {device : InviteRecipient}
    (h : TablesAccept primitives tables row device) :
    tables.subjectRevoked (some device.deviceId)
      (ed25519KeyIdForRevocation primitives device.publicKey) = false := by
  have hdevice := (AdmissionTables.participantsRevoked_eq_false_iff.mp h.unrevoked).1
  rw [AdmissionTables.participantSubjects_deviceId,
    AdmissionTables.participantSubjects_keyId] at hdevice
  exact hdevice

/-- Tables go on letting the device repeat its consumption. -/
lemma TablesAccept.advance {primitives : SignaturePrimitives} {before after : AdmissionTables}
    {row row' : CoordinatorInvite} {device : InviteRecipient}
    (h : TablesAccept primitives before row device)
    (hadvances : AdmissionAdvances primitives before after) (hgroup : row'.groupId = row.groupId)
    (hinviter : row'.inviterDeviceId = row.inviterDeviceId) :
    TablesAccept primitives after row' device where
  group := by
    unfold DeviceTables.getGroup
    rw [hadvances.groups, hgroup]
    exact h.group
  unarchived := by
    unfold DeviceTables.getGroup
    rw [hadvances.groups, hgroup]
    exact h.unarchived
  live := by
    unfold AdmissionTables.liveGroup
    rw [hadvances.groups, hgroup]
    exact h.live
  enrolled := by
    obtain ⟨enrollment, hstored, hkey, hfingerprint, hidentity, hon⟩ := h.enrolled
    obtain ⟨enrollment', hstored', hkept⟩ := hadvances.enrollments _ enrollment hstored
    rw [hgroup]
    exact ⟨enrollment', hstored', hkept.publicKey.trans hkey, hkept.fingerprint.trans hfingerprint,
      hkept.identityId _ hidentity, hkept.enabled hon⟩
  unrevoked := by
    have hbefore := AdmissionTables.participantsRevoked_eq_false_iff.mp h.unrevoked
    refine AdmissionTables.participantsRevoked_eq_false_iff.mpr ⟨?_, ?_⟩
    · rw [hadvances.subjectRevoked_eq]
      exact hbefore.1
    · rw [hadvances.subjectRevoked_eq]
      unfold AdmissionTables.participantSubjects AdmissionTables.inviterEnrollment at hbefore ⊢
      dsimp only at hbefore ⊢
      rw [hinviter, hgroup]
      refine AdmissionTables.subjectRevoked_eq_false_iff.mpr
        ⟨(AdmissionTables.subjectRevoked_eq_false_iff.mp hbefore.2).1, ?_⟩
      have hkeyBefore := (AdmissionTables.subjectRevoked_eq_false_iff.mp hbefore.2).2
      rcases hdevice : row.inviterDeviceId with _ | deviceId
      · rfl
      · rw [hdevice] at hkeyBefore
        rw [Option.bind_some] at hkeyBefore ⊢
        by_cases hblank : deviceId = ""
        · rw [if_pos hblank]
          rfl
        · rw [if_neg hblank] at hkeyBefore ⊢
          rcases hstored : after.enrollment row.groupId deviceId with _ | inviter
          · rfl
          · rw [Option.bind_some]
            rcases hadvances.admitted _ _ inviter hstored with ⟨stored, hfound, hkey, -⟩ | hclean
            · have hsame := (rowAt_eq_some hstored).2
              rw [show inviter.groupId = row.groupId from congrArg Prod.fst hsame,
                show inviter.deviceId = deviceId from congrArg Prod.snd hsame] at hfound
              rw [hfound, Option.bind_some, ← hkey] at hkeyBefore
              exact hkeyBefore
            · exact (AdmissionTables.subjectRevoked_eq_false_iff.mp hclean).2
  unowned := by
    rw [hadvances.subjectOwned_eq]
    exact h.unowned

/-! ### What a consumption has done -/

/-- What a successful consumption has done. -/
structure Consumed (tools : InviteTools) (before after : AdmissionTables) (input : ConsumeInput)
    (acceptance : InviteAcceptance) : Prop where
  advances : ConsumptionAdvances tools.primitives before after
  resolved : ∃ found, getInviteByTokenForInspection tools before.invites input.token = some found ∧
    found.inviteId = acceptance.invite.inviteId
  stored : after.invites.byId acceptance.invite.inviteId = some acceptance.invite
  grants : ∃ grant : BootstrapGrantInput, grant.groupId = acceptance.invite.groupId ∧
    grant.workerDeviceId = input.device.deviceId ∧
    AdmissionTables.GrantsAdded acceptance.invite.inviteId grant before after
  unrevoked : after.subjectRevoked (some input.device.deviceId)
    (ed25519KeyIdForRevocation tools.primitives input.device.publicKey) = false
  enrolled : ∃ enrollment, after.enrollment acceptance.invite.groupId input.device.deviceId =
    some enrollment ∧ enrollment.publicKey = input.device.publicKey
  accepted : acceptance.accepted = true → RowAccepts tools input acceptance.invite ∧
    TablesAccept tools.primitives after acceptance.invite input.device

namespace AdmissionTables

variable {tools : InviteTools} {primitives : SignaturePrimitives} {tables tables' : AdmissionTables}

lemma GrantsAdded.of_advances {before mid after : AdmissionTables} {inviteId : String}
    {input : BootstrapGrantInput} {row : CoordinatorInvite}
    (h : GrantsAdded inviteId input mid after)
    (hadvances : Evolves CoordinatorInvite.inviteId InviteAdvances before.invites.rows
      mid.invites.rows) (hgrants : mid.bootstrapGrants = before.bootstrapGrants)
    (hrow : before.invites.byId inviteId = some row) : GrantsAdded inviteId input before after := by
  rcases h with h | ⟨grantId, createdAt, normalized, found, row', hinput, hrows, hfound, hnone,
    hafter, hsome⟩
  · exact .none (h.trans hgrants)
  · refine .one grantId createdAt normalized row row' hinput (hgrants ▸ hrows) hrow ?_ hafter hsome
    obtain ⟨row'', hstored, hadv⟩ := hadvances inviteId row hrow
    rw [show row'' = found from Option.some.inj (hstored.symm.trans hfound)] at hadv
    rcases hgranted : row.bootstrapGrantId with _ | grant
    · rfl
    · rw [hadv.granted (by rw [hgranted]; rfl), hgranted] at hnone
      cases hnone

lemma ne_of_normalizeInviteExpiresAt {value time : String}
    (h : normalizeInviteExpiresAt tools value = .ok time) : time ≠ "" := by
  unfold normalizeInviteExpiresAt at h
  rcases hdate : (if trim value = "" then none else tools.dateMillis (trim value)) with _ | millis
  · rw [hdate] at h
    cases h
  · rw [hdate] at h
    rw [← Except.ok.inj h]
    exact tools.isoString_ne millis

lemma byId_of_getInviteByToken {invites : InviteTable} {token : String} {found : CoordinatorInvite}
    (h : getInviteByTokenForInspection tools invites token = some found) :
    invites.byId found.inviteId = some found :=
  InviteTable.byId_of_mem (List.mem_of_find?_eq_some h)

lemma findProjectInvite_eq_ok {opts : ConsumeProjectInviteInput} {consumedAt : String}
    {found : CoordinatorInvite} (h : tables.findProjectInvite tools opts consumedAt = .ok found) :
    getInviteByTokenForInspection tools tables.invites opts.token = some found ∧
      truthy found.operationId = true ∧ truthy found.projectIntentJson = true ∧
      found.operationId = some opts.operationId ∧
      tools.fingerprintPublicKey opts.publicKey = opts.fingerprint := by
  unfold findProjectInvite at h
  rcases hfound : getInviteByTokenForInspection tools tables.invites opts.token with _ | invite
  · rw [hfound] at h
    cases h
  · rw [hfound] at h
    obtain ⟨_, hvalid, h⟩ := exists_of_bind_eq_ok h
    obtain ⟨_, -, h⟩ := exists_of_bind_eq_ok h
    obtain ⟨_, hoperation, h⟩ := exists_of_bind_eq_ok h
    obtain ⟨_, hfingerprint, h⟩ := exists_of_bind_eq_ok h
    obtain ⟨_, -, h⟩ := exists_of_bind_eq_ok h
    obtain ⟨_, -, h⟩ := exists_of_bind_eq_ok h
    obtain ⟨_, -, h⟩ := exists_of_bind_eq_ok h
    cases h
    have hvalid' := not_of_rejectIf_eq_ok hvalid
    rw [not_or, not_or, Bool.not_eq_false, Bool.not_eq_false] at hvalid'
    exact ⟨rfl, hvalid'.1, hvalid'.2.1, not_not.mp (not_of_rejectIf_eq_ok hoperation),
      not_not.mp (not_of_rejectIf_eq_ok hfingerprint)⟩

lemma of_boundEligible {guard : ProjectInviteGuard} {row : CoordinatorInvite}
    (hstored : tables.invites.byId guard.invite.inviteId = some row)
    (h : tables.boundEligible guard = true) :
    row.consumedAt.isSome = true ∧ row.boundTo guard.opts.recipient ∧ row.names guard.opts ∧
      row.groupId = guard.invite.groupId ∧ row.revokedAt = none ∧
      row.operationId = guard.invite.operationId ∧
      row.projectIntentJson = guard.invite.projectIntentJson ∧
      tables.liveGroup guard.invite.groupId = true := by
  unfold boundEligible projectEligible at h
  rw [hstored, Option.any_some] at h
  simp only [Bool.and_eq_true, decide_eq_true_eq] at h
  obtain ⟨⟨⟨⟨⟨⟨hpinned, hlive⟩, -⟩, -⟩, -⟩, -⟩, ⟨hconsumed, hbound⟩, hnames⟩ := h
  obtain ⟨pinned, hmem, hpins⟩ := List.any_eq_true.mp hpinned
  unfold pinsInvite at hpins
  simp only [Bool.and_eq_true, beq_iff_eq] at hpins
  obtain ⟨⟨⟨⟨⟨⟨⟨⟨⟨⟨hid, hgroup⟩, hrevoked⟩, -, hoperation⟩, -, hintent⟩, -⟩, -⟩, -⟩, -⟩, -⟩, -⟩ := hpins
  have hsame : pinned = row := by
    have hbyId := InviteTable.byId_of_mem hmem
    rw [hid] at hbyId
    exact Option.some.inj (hbyId.symm.trans hstored)
  rw [hsame] at hgroup hrevoked hoperation hintent
  exact ⟨hconsumed, hbound, hnames, hgroup, Option.isNone_iff_eq_none.mp hrevoked, hoperation,
    hintent, hlive⟩

lemma stages_of_consumeProjectInvite {opts : ConsumeProjectInviteInput} {draw : ConsumeDraw}
    {consumedAt : String} {acceptance : InviteAcceptance} (hdated : consumedAt ≠ "")
    (h : tables.consumeProjectInviteBody tools opts draw consumedAt = .ok (acceptance, tables')) :
    ∃ found guard, tables.findProjectInvite tools opts consumedAt = .ok found ∧
      guard.invite = found ∧ guard.opts = opts ∧ ConsumptionAdvances tools.primitives tables tables' ∧
      (∃ input : BootstrapGrantInput, input.groupId = found.groupId ∧
        input.workerDeviceId = opts.deviceId ∧
        GrantsAdded found.inviteId input tables tables') ∧
      tables'.invites.byId found.inviteId = some acceptance.invite ∧
      tables'.assertProjectInviteEligible tools.primitives acceptance.invite guard = .ok () ∧
      ∃ enrollment, tables'.enrollment found.groupId opts.deviceId = some enrollment ∧
        enrollment.enabled = true ∧ enrollment.identityId = some opts.recipientActorId := by
  obtain ⟨found, hfound, h⟩ := exists_of_bind_eq_ok h
  obtain ⟨guard, hguard, h⟩ := exists_of_bind_eq_ok h
  obtain ⟨bound, hbound, h⟩ := exists_of_bind_eq_ok h
  obtain ⟨_, -, h⟩ := exists_of_bind_eq_ok h
  obtain ⟨enrolled, henrolled, h⟩ := exists_of_bind_eq_ok h
  obtain ⟨granted, hgranted, h⟩ := exists_of_bind_eq_ok h
  obtain ⟨answer, hfinish, h⟩ := exists_of_bind_eq_ok h
  cases h
  have hstored := byId_of_getInviteByToken (findProjectInvite_eq_ok hfound).1
  obtain ⟨hcaptured, -⟩ := prepareProjectInviteGuards_eq_ok hguard
  have hinvite : guard.invite = found := by rw [hcaptured]
  have hopts : guard.opts = opts := by rw [hcaptured]
  rw [← hinvite] at hstored
  obtain ⟨hadvBound, -, hgrantsBound, hboundStored⟩ :=
    bindProjectInvite_eq_ok tools.primitives hdated hstored hbound
  obtain ⟨hadvEnrolled, -, hgrantsEnrolled⟩ := enrollProjectRecipient_eq_ok henrolled
  obtain ⟨hadvGranted, -, input, hinputGroup, hinputWorker, hadded⟩ :=
    issueProjectGrant_eq_ok tools.primitives hgranted
  obtain ⟨-, hsaved, heligible, henrollment⟩ := finishProjectInvite_eq_ok hfinish
  have hadvances := hadvBound.trans hadvEnrolled
  have hboundId : bound.1.2.inviteId = guard.invite.inviteId :=
    (InviteTable.byId_eq_some hboundStored).2
  have hboundGroup : bound.1.2.groupId = guard.invite.groupId := by
    obtain ⟨row, hboundRow, hadv⟩ := hadvBound.invites _ _ hstored
    rw [Option.some.inj (hboundStored.symm.trans hboundRow)]
    exact hadv.groupId
  rw [hboundId] at hadded
  rw [hboundGroup] at hinputGroup
  rw [hopts] at hinputWorker henrollment
  rw [hinvite] at hinputGroup hadded hsaved henrollment hstored
  exact ⟨found, guard, hfound, hinvite, hopts, hadvances.trans hadvGranted,
    ⟨input, hinputGroup, hinputWorker, hadded.of_advances hadvances.invites
      (hgrantsEnrolled.trans hgrantsBound) hstored⟩, hsaved, heligible, henrollment⟩

lemma accepts_of_eligible {opts : ConsumeProjectInviteInput} {consumedAt : String}
    {found row : CoordinatorInvite} {guard : ProjectInviteGuard} {enrollment : EnrolledDeviceRow}
    (hnow : normalizeInviteExpiresAt tools opts.now = .ok consumedAt)
    (hfound : tables'.findProjectInvite tools opts consumedAt = .ok found)
    (hinvite : guard.invite = found) (hopts : guard.opts = opts)
    (hrow : tables.invites.byId found.inviteId = some row)
    (heligible : tables.assertProjectInviteEligible tools.primitives row guard = .ok ())
    (hstored : tables.enrollment found.groupId opts.deviceId = some enrollment)
    (hon : enrollment.enabled = true)
    (hidentity : enrollment.identityId = some opts.recipientActorId) :
    row.groupId = found.groupId ∧ enrollment.publicKey = opts.publicKey ∧
      RowAccepts tools (.project opts) row ∧
      TablesAccept tools.primitives tables row opts.recipient := by
  obtain ⟨hgroup, hunarchived, hunrevoked, hconflict, hunowned, hbind⟩ :=
    assertProjectInviteEligible_eq_ok heligible
  obtain ⟨-, hoperation, hintent, hsameOperation, hfingerprint⟩ := findProjectInvite_eq_ok hfound
  rw [← hinvite] at hrow
  obtain ⟨hconsumed, hbound, hnames, hsameGroup, hrevoked, hop, hintentEq, hlive⟩ :=
    of_boundEligible hrow hbind
  rw [hopts] at hbound hnames hunrevoked hconflict hunowned
  rw [hinvite] at hsameGroup hop hintentEq hlive
  rw [hsameGroup, hstored, Option.any_some] at hconflict
  obtain ⟨hkey, hsameFingerprint, -⟩ := of_enrollmentConflicts hconflict
  refine ⟨hsameGroup, hkey,
    ⟨hconsumed, hbound, hnames.1, hrevoked, hfingerprint, fun opts' hopts' => ?_,
      fun opts' hopts' => by cases hopts'⟩,
    ⟨hgroup, hunarchived, hsameGroup ▸ hlive, ?_, hunrevoked, hunowned⟩⟩
  · rw [← ConsumeInput.project.inj hopts', hop, hintentEq]
    exact ⟨hnames, hsameOperation, hoperation, hintent, consumedAt, hnow⟩
  · rw [hsameGroup]
    exact ⟨enrollment, hstored, hkey, hsameFingerprint, hidentity, hon⟩

lemma consumed_project {opts : ConsumeProjectInviteInput} {draw : ConsumeDraw}
    {acceptance : InviteAcceptance}
    (h : tables.consumeProjectInvite tools opts draw = (.ok acceptance, tables')) :
    Consumed tools tables tables' (.project opts) acceptance := by
  unfold consumeProjectInvite at h
  rcases hnow : normalizeInviteExpiresAt tools opts.now with error | consumedAt
  · rw [hnow] at h
    cases h
  · rw [hnow] at h
    dsimp only at h
    unfold inTransaction at h
    rcases hbody : tables.consumeProjectInviteBody tools opts draw consumedAt with error | result
    · rw [hbody] at h
      cases h
    · rw [hbody] at h
      cases h
      obtain ⟨found, guard, hfound, hinvite, hopts, hadvances, ⟨input, hgroup, hworker, hadded⟩,
        hsaved, heligible, enrollment, hstored, hon, hidentity⟩ :=
          stages_of_consumeProjectInvite (ne_of_normalizeInviteExpiresAt hnow) hbody
      obtain ⟨hsameGroup, hkey, hrow, htables⟩ :=
        accepts_of_eligible hnow hfound hinvite hopts hsaved heligible hstored hon hidentity
      have hid := (InviteTable.byId_eq_some hsaved).2
      refine ⟨hadvances, ⟨found, (findProjectInvite_eq_ok hfound).1, hid.symm⟩, hid ▸ hsaved,
        ⟨input, hgroup.trans hsameGroup.symm, hworker, hid ▸ hadded⟩,
        htables.device_unrevoked, ?_, fun _ => ⟨hrow, htables⟩⟩
      rw [hsameGroup]
      exact ⟨enrollment, hstored, hkey⟩

/-- What the lookup of a recipient invite has found and checked. -/
lemma findRecipientInvite_eq_ok {opts : ConsumeRecipientInviteInput}
    {preflight : RecipientPreflight} {consumption : RecipientConsumption}
    (h : tables.findRecipientInvite tools opts preflight = .ok consumption) :
    consumption.opts = opts ∧ consumption.consumedAt = preflight.consumedAt ∧
      getInviteByTokenForInspection tools tables.invites opts.token = some consumption.invite ∧
      preflight.inspection = some consumption.inspection ∧
      preflight.consistency = some consumption.consistency ∧
      consumption.subjects =
        tables.participantSubjects tools.primitives consumption.invite opts.recipient ∧
      tables.checkInviteGroup consumption.invite = .ok () ∧
      consumption.inspection.kind = opts.inviteKind ∧
      tools.fingerprintPublicKey opts.publicKey = opts.fingerprint ∧
      consumption.inspection.authoritativeIdentityId = opts.identityId ∧
      tables.assertRecipientInviteAuthorized tools.primitives consumption.invite opts.recipient
        consumption.subjects = .ok () := by
  unfold findRecipientInvite at h
  rcases hfound : getInviteByTokenForInspection tools tables.invites opts.token with _ | invite
  · rw [hfound] at h
    cases h
  · rcases hinspection : preflight.inspection with _ | inspection
    · rw [hfound, hinspection] at h
      cases h
    · rcases hpreflight : preflight.invite with _ | preflightInvite
      · rw [hfound, hinspection, hpreflight] at h
        cases h
      · rw [hfound, hinspection, hpreflight] at h
        obtain ⟨_, hcheck, h⟩ := exists_of_bind_eq_ok h
        obtain ⟨_, -, h⟩ := exists_of_bind_eq_ok h
        obtain ⟨_, hauthorized, h⟩ := exists_of_bind_eq_ok h
        rcases hconsistency : preflight.consistency with _ | consistency
        · rw [hconsistency] at h
          cases h
        · rw [hconsistency] at h
          obtain ⟨_, -, h⟩ := exists_of_bind_eq_ok h
          cases h
          obtain ⟨_, hvalid, hcheck⟩ := exists_of_bind_eq_ok hcheck
          obtain ⟨_, hgroup, hcheck⟩ := exists_of_bind_eq_ok hcheck
          obtain ⟨_, -, hcheck⟩ := exists_of_bind_eq_ok hcheck
          obtain ⟨_, hfingerprint, hcheck⟩ := exists_of_bind_eq_ok hcheck
          obtain ⟨_, hidentity, -⟩ := exists_of_bind_eq_ok hcheck
          have hvalid' := not_of_rejectIf_eq_ok hvalid
          rw [not_or, not_or, not_not] at hvalid'
          exact ⟨rfl, rfl, rfl, rfl, rfl, rfl, hgroup, not_not.mp hvalid'.2.1,
            not_not.mp (not_of_rejectIf_eq_ok hfingerprint),
            not_not.mp (not_of_rejectIf_eq_ok hidentity), hauthorized⟩

lemma bindRecipientInvite_of_changed {consumption : RecipientConsumption}
    (hstored : tables.invites.byId consumption.invite.inviteId = some consumption.invite)
    (h : tables.bindRecipientInvite consumption = .ok (true, tables')) :
    tables'.invites.byId consumption.invite.inviteId =
        some (consumedByRecipient consumption.opts consumption.consumedAt consumption.invite) ∧
      consumption.invite.revokedAt = none ∧
      tables.liveGroup consumption.invite.groupId = true := by
  obtain ⟨written, hwritten, h⟩ := exists_of_bind_eq_ok h
  unfold consumeRecipientOwnerToken at hwritten
  rcases hsaved : written.2.byId consumption.invite.inviteId with _ | saved
  · rw [hsaved] at h
    cases h
  · rw [hsaved] at h
    obtain ⟨_, -, h⟩ := exists_of_bind_eq_ok h
    obtain ⟨_, -, h⟩ := exists_of_bind_eq_ok h
    have hresult := Except.ok.inj h
    have hchanged : written.1 = true := congrArg Prod.fst hresult
    have htables : ({ tables with invites := written.2 } : AdmissionTables) = tables' :=
      congrArg Prod.snd hresult
    split_ifs at hwritten
    · rw [← Except.ok.inj hwritten] at hchanged
      cases hchanged
    · obtain ⟨invites, hinvites, hpair⟩ := exists_of_map_eq_ok hwritten
      rw [← hpair] at hchanged htables
      obtain ⟨row, hrow, hselects⟩ := List.any_eq_true.mp hchanged
      have hselected := hselects
      unfold selectsRecipientInvite at hselected
      simp only [Bool.and_eq_true, beq_iff_eq] at hselected
      obtain ⟨⟨⟨⟨⟨⟨⟨hid, -⟩, hrevoked⟩, -⟩, -⟩, hlive⟩, -⟩, -⟩ := hselected
      have hsame : row = consumption.invite := by
        have hbyId := InviteTable.byId_of_mem hrow
        rw [hid] at hbyId
        exact Option.some.inj (hbyId.symm.trans hstored)
      rw [hsame] at hselects hrevoked hlive
      refine ⟨?_, Option.isNone_iff_eq_none.mp hrevoked, hlive⟩
      rw [← htables]
      dsimp only
      rw [InviteTable.byId_update hinvites (fun _ => rfl), hstored, Option.map_some, if_pos hselects]

lemma inspect_consumedByRecipient (opts : ConsumeRecipientInviteInput) (consumedAt : String)
    (invite : CoordinatorInvite) :
    inspectCoordinatorRecipientInvite tools (consumedByRecipient opts consumedAt invite) =
      inspectCoordinatorRecipientInvite tools invite := rfl

lemma stages_of_consumeRecipientInvite {opts : ConsumeRecipientInviteInput} {draw : ConsumeDraw}
    {preflight : RecipientPreflight} {acceptance : InviteAcceptance}
    (hdated : preflight.consumedAt ≠ "") (h : tables.consumeRecipientInviteBody tools opts preflight draw =
      .ok (acceptance, tables')) :
    ∃ consumption changed bound,
      tables.findRecipientInvite tools opts preflight = .ok consumption ∧
      tables.bindRecipientInvite consumption = .ok (changed, bound) ∧
      acceptance.accepted = changed ∧ ConsumptionAdvances tools.primitives tables tables' ∧
      ConsumptionAdvances tools.primitives bound tables' ∧
      (∃ input : BootstrapGrantInput, input.groupId = consumption.invite.groupId ∧
        input.workerDeviceId = opts.deviceId ∧
        GrantsAdded consumption.invite.inviteId input tables tables') ∧
      tables'.invites.byId consumption.invite.inviteId = some acceptance.invite ∧
      tables'.assertRecipientInviteAuthorized tools.primitives acceptance.invite opts.recipient
        consumption.subjects = .ok () ∧
      ∃ enrollment, tables'.enrollment consumption.invite.groupId opts.deviceId =
        some enrollment ∧ enrollment.enabled = true ∧ enrollment.publicKey = opts.publicKey ∧
        enrollment.fingerprint = opts.fingerprint ∧
        enrollment.identityId = some opts.identityId := by
  obtain ⟨consumption, hfound, h⟩ := exists_of_bind_eq_ok h
  obtain ⟨⟨changed, bound⟩, hbound, h⟩ := exists_of_bind_eq_ok h
  obtain ⟨_, hauthorized, h⟩ := exists_of_bind_eq_ok h
  obtain ⟨_, howner, h⟩ := exists_of_bind_eq_ok h
  obtain ⟨granted, hgranted, h⟩ := exists_of_bind_eq_ok h
  obtain ⟨answer, hfinish, h⟩ := exists_of_bind_eq_ok h
  cases h
  obtain ⟨hopts, hconsumedAt, hlookup, -, -, hsubjects, -, -, -, -, hauthorizedBefore⟩ :=
    findRecipientInvite_eq_ok hfound
  have hstored := byId_of_getInviteByToken hlookup
  obtain ⟨hadvBound, hscopeBound, hgrantsBound, -⟩ :=
    bindRecipientInvite_eq_ok tools.primitives (hconsumedAt ▸ hdated) hbound
  -- binding changes no enrollment, so the check before it still holds
  obtain ⟨-, hconflict, -, -⟩ := assertRecipientInviteAuthorized_eq_ok hauthorizedBefore
  have hsame : (bound.enrollment consumption.invite.groupId consumption.opts.deviceId).any
      (enrollmentConflicts consumption.opts.recipient) = false := by
    unfold enrollment AdmissionTables.devices
    dsimp only at hscopeBound
    rw [hscopeBound, hopts]
    exact hconflict
  obtain ⟨hadvEnrolled, -, hgrantsEnrolled⟩ :=
    enrollRecipient_advances tools.primitives changed
      (by rw [hsubjects, hopts]; exact ⟨rfl, participantSubjects_keyId _ _ _ _⟩) hsame
  obtain ⟨hadvGranted, hscopeGranted, input, hinputGroup, hinputWorker, hadded⟩ :=
    issueRecipientGrant_eq_ok tools.primitives hgranted
  obtain ⟨haccepted, hsaved, hauthorizedAfter⟩ := finishRecipientInvite_eq_ok hfinish
  have hadvances := hadvBound.trans hadvEnrolled
  have henrollment : ∃ enrollment, granted.2.enrollment consumption.invite.groupId opts.deviceId =
      some enrollment ∧ enrollment.enabled = true ∧ enrollment.publicKey = opts.publicKey ∧
      enrollment.fingerprint = opts.fingerprint ∧
      enrollment.identityId = some opts.identityId := by
    unfold validateAcceptedRecipientOwner at howner
    rw [hopts] at howner
    have hread : granted.2.enrollment consumption.invite.groupId opts.deviceId =
        (bound.enrollRecipient consumption changed).2.enrollment consumption.invite.groupId
          opts.deviceId := by
      unfold enrollment AdmissionTables.devices
      rw [hscopeGranted]
    rcases hrow : (bound.enrollRecipient consumption changed).2.enabledEnrollment
      consumption.invite.groupId opts.deviceId with _ | row
    · rw [hrow] at howner
      cases howner
    · rw [hrow] at howner
      have hvalid := not_of_rejectIf_eq_ok howner
      simp only [not_or, ne_eq, not_not] at hvalid
      have hfilter := Option.filter_eq_some_iff.mp hrow
      exact ⟨row, hread.trans hfilter.1, hfilter.2, hvalid⟩
  rw [hopts] at hinputWorker hauthorizedAfter
  exact ⟨consumption, changed, bound, hfound, hbound, haccepted, hadvances.trans hadvGranted,
    hadvEnrolled.trans hadvGranted, ⟨input, hinputGroup, hinputWorker, hadded.of_advances
      hadvances.invites (hgrantsEnrolled.trans hgrantsBound) hstored⟩, hsaved, hauthorizedAfter,
    henrollment⟩

lemma recipientPreflight_eq_ok {classify : OwnerEvidence → OwnerSubject → Bool}
    {opts : ConsumeRecipientInviteInput} {preflight : RecipientPreflight}
    (h : tables.recipientPreflight tools classify opts = .ok preflight) :
    normalizeInviteExpiresAt tools opts.now = .ok preflight.consumedAt ∧
      validateRecipientOwnerInput opts = .ok () ∧
      ∀ inspection, preflight.inspection = some inspection →
        ∃ invite, getInviteByTokenForInspection tools tables.invites opts.token = some invite ∧
          inspectCoordinatorRecipientInvite tools invite = .ok (some inspection) := by
  obtain ⟨consumedAt, hnow, h⟩ := exists_of_bind_eq_ok h
  obtain ⟨_, hvalid, h⟩ := exists_of_bind_eq_ok h
  dsimp only at h
  rcases hfound : getInviteByTokenForInspection tools tables.invites opts.token with _ | invite
  · rw [hfound] at h
    cases h
    exact ⟨hnow, hvalid, fun inspection hinspection => by cases hinspection⟩
  · rw [hfound] at h
    obtain ⟨found, hinspect, h⟩ := exists_of_bind_eq_ok h
    cases h
    refine ⟨hnow, hvalid, fun inspection hinspection => ⟨invite, rfl, ?_⟩⟩
    rw [hinspect]
    exact congrArg Except.ok hinspection

lemma checkInviteGroup_eq_ok {invite : CoordinatorInvite} {u : Unit}
    (h : tables.checkInviteGroup invite = .ok u) :
    tables.devices.getGroup invite.groupId ≠ none ∧
      ((tables.devices.getGroup invite.groupId).any fun group => truthy group.archivedAt) =
        false := by
  obtain ⟨_, hgroup, harchived⟩ := exists_of_bind_eq_ok h
  exact ⟨not_of_rejectIf_eq_ok hgroup,
    Bool.eq_false_of_not_eq_true (not_of_rejectIf_eq_ok harchived)⟩

/-- A recipient invite that was bound and enrolled accepts its input again. -/
lemma accepts_of_changed {opts : ConsumeRecipientInviteInput} {preflight : RecipientPreflight}
    {classify : OwnerEvidence → OwnerSubject → Bool} {consumption : RecipientConsumption}
    {bound : AdmissionTables} {row : CoordinatorInvite} {enrollment : EnrolledDeviceRow}
    (hpreflight : tables.recipientPreflight tools classify opts = .ok preflight)
    (hfound : tables.findRecipientInvite tools opts preflight = .ok consumption)
    (hbound : tables.bindRecipientInvite consumption = .ok (true, bound))
    (hadvances : ConsumptionAdvances tools.primitives tables tables')
    (hadvances' : ConsumptionAdvances tools.primitives bound tables')
    (hrow : tables'.invites.byId consumption.invite.inviteId = some row)
    (hauthorized : tables'.assertRecipientInviteAuthorized tools.primitives row opts.recipient
      consumption.subjects = .ok ())
    (hstored : tables'.enrollment consumption.invite.groupId opts.deviceId = some enrollment)
    (henrolled : enrollment.enabled = true ∧ enrollment.publicKey = opts.publicKey ∧
      enrollment.fingerprint = opts.fingerprint ∧
      enrollment.identityId = some opts.identityId) :
    RowAccepts tools (.recipient opts) row ∧
      TablesAccept tools.primitives tables' row opts.recipient := by
  obtain ⟨hopts, -, hlookup, hinspection, -, hsubjects, hgroup, hkind, hfingerprint, hidentity, -⟩ :=
    findRecipientInvite_eq_ok hfound
  obtain ⟨hnow, hvalid, hinspected⟩ := recipientPreflight_eq_ok hpreflight
  obtain ⟨hboundRow, hrevoked, hlive⟩ :=
    bindRecipientInvite_of_changed (byId_of_getInviteByToken hlookup) hbound
  obtain ⟨invite, hlookup', hinspect⟩ := hinspected _ hinspection
  rw [show invite = consumption.invite from Option.some.inj (hlookup'.symm.trans hlookup)]
    at hinspect
  obtain ⟨hexists, hunarchived⟩ := checkInviteGroup_eq_ok hgroup
  obtain ⟨hunrevoked, -, -, hunowned⟩ := assertRecipientInviteAuthorized_eq_ok hauthorized
  -- the invite as it was bound; what follows changes only its grant and trust state
  have hbindRow : RowAccepts tools (.recipient opts)
      (consumedByRecipient consumption.opts consumption.consumedAt consumption.invite) := by
    refine ⟨rfl, ?_, ?_, hrevoked, hfingerprint, fun _ h => (by cases h), fun opts' h => ?_⟩
    · rw [hopts]
      exact ⟨rfl, rfl, rfl⟩
    · rw [hopts]
      rfl
    · rw [← ConsumeInput.recipient.inj h]
      rw [inspect_consumedByRecipient]
      exact ⟨⟨consumption.inspection, hinspect, hkind, hidentity⟩, hvalid,
        preflight.consumedAt, hnow⟩
  obtain ⟨row', hrow', hadv⟩ := hadvances'.invites _ _ hboundRow
  rw [show row' = row from Option.some.inj (hrow'.symm.trans hrow)] at hadv
  have hsameGroup : row.groupId = consumption.invite.groupId := hadv.groupId
  refine ⟨hbindRow.advance hadv, ⟨?_, ?_, ?_, ?_, hunrevoked, ?_⟩⟩
  · unfold DeviceTables.getGroup
    rw [hadvances.groups, hsameGroup]
    exact hexists
  · unfold DeviceTables.getGroup
    rw [hadvances.groups, hsameGroup]
    exact hunarchived
  · unfold liveGroup
    rw [hadvances.groups, hsameGroup]
    exact hlive
  · rw [hsameGroup]
    exact ⟨enrollment, hstored, henrolled.2.1, henrolled.2.2.1, henrolled.2.2.2, henrolled.1⟩
  · rw [hsubjects, participantSubjects_keyId, participantSubjects_deviceId] at hunowned
    exact hunowned

lemma consumed_recipient {classify : OwnerEvidence → OwnerSubject → Bool}
    {opts : ConsumeRecipientInviteInput} {draw : ConsumeDraw} {acceptance : InviteAcceptance}
    (h : tables.consumeRecipientInvite tools classify opts draw = (.ok acceptance, tables')) :
    Consumed tools tables tables' (.recipient opts) acceptance := by
  unfold consumeRecipientInvite at h
  rcases hpreflight : tables.recipientPreflight tools classify opts with error | preflight
  · rw [hpreflight] at h
    cases h
  · rw [hpreflight] at h
    dsimp only at h
    unfold inTransaction at h
    rcases hbody : tables.consumeRecipientInviteBody tools opts preflight draw with error | result
    · rw [hbody] at h
      cases h
    · rw [hbody] at h
      cases h
      obtain ⟨consumption, changed, bound, hfound, hbound, haccepted, hadvances, hadvances',
        ⟨input, hgroup, hworker, hadded⟩, hsaved, hauthorized, enrollment, hstored, hon, hkey,
        hrest⟩ := stages_of_consumeRecipientInvite
          (ne_of_normalizeInviteExpiresAt (recipientPreflight_eq_ok hpreflight).1) hbody
      obtain ⟨-, -, hlookup, -, -, hsubjects, -⟩ := findRecipientInvite_eq_ok hfound
      have hid := (InviteTable.byId_eq_some hsaved).2
      have hsameGroup : result.1.invite.groupId = consumption.invite.groupId := by
        obtain ⟨row, hrow, hadv⟩ :=
          hadvances.invites _ _ (byId_of_getInviteByToken hlookup)
        rw [Option.some.inj (hsaved.symm.trans hrow)]
        exact hadv.groupId
      obtain ⟨-, -, hunrevoked, -⟩ := assertRecipientInviteAuthorized_eq_ok hauthorized
      have hdevice := (participantsRevoked_eq_false_iff.mp hunrevoked).1
      rw [hsubjects, participantSubjects_keyId, participantSubjects_deviceId] at hdevice
      refine ⟨hadvances, ⟨consumption.invite, hlookup, hid.symm⟩, hid ▸ hsaved,
        ⟨input, hgroup.trans hsameGroup.symm, hworker, hid ▸ hadded⟩, hdevice, ?_, fun hon' => ?_⟩
      · rw [hsameGroup]
        exact ⟨enrollment, hstored, hkey⟩
      · rw [haccepted] at hon'
        rw [hon'] at hbound
        exact accepts_of_changed hpreflight hfound hbound hadvances hadvances' hsaved hauthorized
          hstored ⟨hon, hkey, hrest⟩

lemma consumed_of_run {classify : OwnerEvidence → OwnerSubject → Bool} {input : ConsumeInput}
    {draw : ConsumeDraw} {acceptance : InviteAcceptance}
    (h : input.run tools classify tables draw = (.ok acceptance, tables')) :
    Consumed tools tables tables' input acceptance := by
  rcases input with opts | opts
  · exact consumed_project h
  · exact consumed_recipient h

end AdmissionTables

end Codemem

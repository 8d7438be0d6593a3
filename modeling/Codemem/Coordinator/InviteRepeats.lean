import Codemem.Coordinator.Consumptions

/-!
# Repeated consumptions

A device that repeats an accepted consumption gets the invite again, as long as a bootstrap grant
that is still due can be inserted and, for a recipient invite, the owner of the device can still be
classified.  The repeat enrolls nothing.
-/

namespace Codemem

/-! ### The condition -/

/-- The grant that a repeat still has to issue can be inserted: its ids and its expiry are not blank
and the drawn id is free. -/
def GrantInsertable (tools : InviteTools) (tables : AdmissionTables) (invite : CoordinatorInvite)
    (deviceId now grantId : String) : Prop :=
  ∀ seed, tables.seedEnrollment invite = some seed → truthy invite.bootstrapGrantId = false →
    (∀ consumedAt, normalizeInviteExpiresAt tools now = .ok consumedAt →
      dateGt tools invite.expiresAt consumedAt = true →
        trim invite.groupId ≠ "" ∧ trim seed.deviceId ≠ "" ∧ trim deviceId ≠ "" ∧
          trim invite.expiresAt ≠ "" ∧
          (tables.bootstrapGrants.any fun stored => stored.grantId == grantId) = false)

/-- A repeat of an accepted consumption can go through. -/
def ConsumeInput.Repeatable (tools : InviteTools) (classify : OwnerEvidence → OwnerSubject → Bool)
    (tables : AdmissionTables) (draw : ConsumeDraw) (invite : CoordinatorInvite) :
    ConsumeInput → Prop
  | .project opts => GrantInsertable tools tables invite opts.deviceId opts.now draw.grantId.text
  | .recipient opts =>
    GrantInsertable tools tables invite opts.deviceId opts.now draw.grantId.text ∧
      (tables.prepareRecipientOwnerConsistency tools.primitives classify opts).isSome = true

/-- An invite whose consumption was accepted, and tables that still accept it. -/
structure Settled (tools : InviteTools) (tables : AdmissionTables) (input : ConsumeInput)
    (row : CoordinatorInvite) : Prop where
  stored : tables.invites.byId row.inviteId = some row
  rowAccepts : RowAccepts tools input row
  tablesAccept : TablesAccept tools.primitives tables row input.device
  dated : truthy row.consumedAt = true
  inviter : row.inviterDeviceId ≠ some ""

namespace AdmissionTables

variable {tools : InviteTools} {tables tables' : AdmissionTables} {row saved : CoordinatorInvite}

/-! ### Grants -/

lemma exists_normalizeGrantInput {input : BootstrapGrantInput} (hgroup : trim input.groupId ≠ "")
    (hseed : trim input.seedDeviceId ≠ "") (hworker : trim input.workerDeviceId ≠ "")
    (hexpiry : trim input.expiresAt ≠ "") :
    ∃ normalized, normalizeCoordinatorBootstrapGrantInput input = .ok normalized := by
  unfold normalizeCoordinatorBootstrapGrantInput
  dsimp only
  rw [if_neg (by simp [hgroup, hseed, hworker, hexpiry])]
  exact ⟨_, rfl⟩

lemma exists_issueInviteGrant {selects : CoordinatorInvite → Bool} {input : BootstrapGrantInput}
    {grantId consumedAt : String} {authorization : AdmissionTables → Except String Unit}
    (hinput : ∃ normalized, normalizeCoordinatorBootstrapGrantInput input = .ok normalized)
    (hfree : (tables.bootstrapGrants.any fun stored => stored.grantId == grantId) = false)
    (hauthorized : ∀ invites : InviteTable,
      authorization { tables with invites := invites } = .ok ()) :
    ∃ result, tables.issueInviteGrant row selects input grantId consumedAt authorization =
      .ok result := by
  obtain ⟨normalized, hnormalized⟩ := hinput
  have hclaim : ∃ invites, tables.invites.update
      (fun r => r.inviteId == row.inviteId && r.bootstrapGrantId.isNone && selects r)
      (claimedForGrant grantId) = .ok invites :=
    InviteTable.exists_update fun r => ⟨rfl, rfl, rfl, rfl⟩
  obtain ⟨invites, hinvites⟩ := hclaim
  unfold issueInviteGrant
  dsimp only
  rw [hinvites, bind_ok]
  split_ifs
  · unfold insertBootstrapGrantSync insertBootstrapGrantRow
    rw [hnormalized, bind_ok, hauthorized, bind_ok]
    rw [if_neg (by
      change ¬ (tables.bootstrapGrants.any fun stored => stored.grantId == grantId) = true
      rw [hfree]
      simp)]
    exact ⟨_, rfl⟩
  · exact ⟨_, rfl⟩

/-! ### Project invites -/

lemma enrollment_repaired {selects : EnrolledDeviceRow → Bool} {identityId : String}
    {groupId deviceId : String} {stored : EnrolledDeviceRow}
    (hselects : ∀ r, selects r = true → r.key = (groupId, deviceId) ∧ r.identityId = none)
    (hstored : tables.enrollment groupId deviceId = some stored)
    (hidentity : stored.identityId.isSome = true) (group device : String) :
    (tables.withEnrolled (updateRows selects
      (fun r => { r with identityId := some identityId })
      tables.devices.enrolledDevices)).enrollment group device =
        tables.enrollment group device := by
  have hread : rowAt EnrolledDeviceRow.key (group, device) (updateRows selects
      (fun r => { r with identityId := some identityId }) tables.devices.enrolledDevices) =
      (rowAt EnrolledDeviceRow.key (group, device) tables.devices.enrolledDevices).map fun r =>
        if selects r then { r with identityId := some identityId } else r := by
    refine rowAt_updateRows ?_ _ _
    exact fun _ => rfl
  unfold enrollment
  rw [withEnrolled_enrolledDevices, hread]
  rcases hfound : rowAt EnrolledDeviceRow.key (group, device) tables.devices.enrolledDevices with
    _ | found
  · rfl
  · rw [Option.map_some]
    split_ifs with hselected
    · obtain ⟨hkey, hnone⟩ := hselects found hselected
      have hsame : (group, device) = (groupId, deviceId) := (rowAt_eq_some hfound).2.symm.trans hkey
      unfold enrollment at hstored
      rw [← hsame, hfound] at hstored
      rw [← Option.some.inj hstored, hnone] at hidentity
      cases hidentity
    · rfl

lemma pinsInviter_captured (h : row.inviterDeviceId ≠ some "")
    (hsame : ∀ group device, tables'.enrollment group device = tables.enrollment group device) :
    tables'.pinsInviter row (tables.inviterEnrollment row) = true := by
  unfold pinsInviter inviterEnrollment
  dsimp only
  rcases hdevice : row.inviterDeviceId with _ | deviceId
  · rfl
  · have hblank : deviceId ≠ "" := fun hempty => h (by rw [hdevice, hempty])
    rw [Option.bind_some, Option.bind_some, if_neg hblank, hsame]
    rcases tables.enrollment row.groupId deviceId with _ | inviter
    · rfl
    · simp

lemma storedKeyId_of_accepts {primitives : SignaturePrimitives} {device : InviteRecipient}
    (h : TablesAccept primitives tables row device) :
    tables.storedKeyId primitives row.groupId device.deviceId =
      ed25519KeyIdForRevocation primitives device.publicKey := by
  obtain ⟨enrollment, hstored, hkey, -⟩ := h.enrolled
  unfold storedKeyId
  rw [hstored, Option.bind_some, hkey]

lemma noConflict_of_accepts {primitives : SignaturePrimitives} {device : InviteRecipient}
    (h : TablesAccept primitives tables row device) :
    (tables.enrollment row.groupId device.deviceId).any (enrollmentConflicts device) = false := by
  obtain ⟨enrollment, hstored, hkey, hfingerprint, hidentity, -⟩ := h.enrolled
  rw [hstored, Option.any_some]
  unfold enrollmentConflicts
  rw [hkey, hfingerprint, hidentity]
  simp

lemma validateParticipants_of_accepts {primitives : SignaturePrimitives} {device : InviteRecipient}
    (h : TablesAccept primitives tables row device) :
    tables.validateRecipientInviteParticipants primitives row device = .ok () := by
  unfold validateRecipientInviteParticipants
  rw [rejectIf_of_not (by rw [noConflict_of_accepts h]; simp), bind_ok]
  exact rejectIf_of_not (by rw [h.unrevoked]; simp)

def repeatGuard (primitives : SignaturePrimitives) (tables : AdmissionTables)
    (row : CoordinatorInvite) (opts : ConsumeProjectInviteInput) : ProjectInviteGuard :=
  ⟨row, opts, tables.inviterEnrollment row, tables.participantSubjects primitives row opts.recipient,
    tables.storedKeyId primitives row.groupId opts.deviceId⟩

lemma guardOwned_of_accepts {primitives : SignaturePrimitives} {opts : ConsumeProjectInviteInput}
    (h : TablesAccept primitives tables row opts.recipient)
    (h' : TablesAccept primitives tables' row opts.recipient) :
    tables'.guardOwned (repeatGuard primitives tables row opts) = false := by
  unfold guardOwned repeatGuard
  dsimp only
  have hkey := storedKeyId_of_accepts h
  have hdevice : opts.recipient.deviceId = opts.deviceId := rfl
  rw [hdevice] at hkey
  rw [hkey, participantSubjects_keyId, Bool.or_eq_false_iff]
  exact ⟨h'.unowned, h'.unowned⟩

lemma prepareProjectInviteGuards_repeat {primitives : SignaturePrimitives}
    {opts : ConsumeProjectInviteInput} (h : TablesAccept primitives tables row opts.recipient) :
    tables.prepareProjectInviteGuards primitives row opts =
      .ok (repeatGuard primitives tables row opts) := by
  unfold prepareProjectInviteGuards
  dsimp only
  rw [rejectIf_of_not (by rw [h.unrevoked]; simp), bind_ok]
  have howned := guardOwned_of_accepts h h
  unfold repeatGuard at howned
  rw [rejectIf_of_not (by rw [howned]; simp), bind_ok, validateParticipants_of_accepts h, bind_ok]
  rfl

/-- An accepted project invite is eligible in later tables with the same enrollments. -/
lemma boundEligible_of_accepts {opts : ConsumeProjectInviteInput}
    (h : Settled tools tables (.project opts) row)
    (hsaved : tables'.invites.byId row.inviteId = some saved) (hadvances : InviteAdvances row saved)
    (htables : TablesAccept tools.primitives tables' row opts.recipient)
    (hsame : ∀ group device, tables'.enrollment group device = tables.enrollment group device) :
    tables'.boundEligible (repeatGuard tools.primitives tables row opts) = true := by
  obtain ⟨hnames, -, hoperation, hintent, -⟩ := h.rowAccepts.project opts rfl
  have hfinal := hadvances.final h.rowAccepts.consumed
  have hoperation' : row.operationId.isSome = true := by
    rcases hvalue : row.operationId with _ | value
    · rw [hvalue] at hoperation
      cases hoperation
    · rfl
  have hintent' : row.projectIntentJson.isSome = true := by
    rcases hvalue : row.projectIntentJson with _ | value
    · rw [hvalue] at hintent
      cases hintent
    · rfl
  have hpins : pinsInvite row saved = true := by
    unfold pinsInvite
    rw [hfinal]
    simp [hoperation', hintent', h.rowAccepts.revoked]
  have hpinned : tables'.invites.rows.any (pinsInvite row) = true :=
    List.any_eq_true.mpr ⟨saved, (InviteTable.byId_eq_some hsaved).1, hpins⟩
  have heligible : tables'.projectEligible (repeatGuard tools.primitives tables row opts) =
      true := by
    have hsubjects : tables'.participantsRevoked
        (tables.participantSubjects tools.primitives row opts.recipient) = false := by
      -- the subjects that were captured are those of the tables now
      have hcurrent := htables.unrevoked
      unfold participantSubjects inviterEnrollment at hcurrent ⊢
      simp only [hsame] at hcurrent
      exact hcurrent
    unfold projectEligible
    rw [Bool.and_eq_true, Bool.not_eq_true', guardOwned_of_accepts h.tablesAccept htables]
    refine ⟨?_, rfl⟩
    unfold repeatGuard
    dsimp only
    have hconflict := noConflict_of_accepts htables
    have hdevice : opts.recipient.deviceId = opts.deviceId := rfl
    rw [hdevice] at hconflict
    rw [hpinned, htables.live, pinsInviter_captured h.inviter hsame, hconflict, hsubjects]
    rfl
  unfold boundEligible
  rw [heligible, Bool.true_and]
  have hid : (repeatGuard tools.primitives tables row opts).invite.inviteId = row.inviteId := rfl
  rw [hid, hsaved, Option.any_some, hfinal]
  have hbound : row.boundTo opts.recipient := h.rowAccepts.bound
  simp only [Bool.and_eq_true, decide_eq_true_eq]
  exact ⟨⟨h.rowAccepts.consumed, hbound⟩, hnames⟩

/-- The end of a repeat: the invite is eligible and the device is enrolled. -/
lemma finishProjectInvite_repeat {opts : ConsumeProjectInviteInput}
    (h : Settled tools tables (.project opts) row)
    (hsaved : tables'.invites.byId row.inviteId = some saved) (hadvances : InviteAdvances row saved)
    (htables : TablesAccept tools.primitives tables' row opts.recipient)
    (hsame : ∀ group device, tables'.enrollment group device = tables.enrollment group device)
    (seed : Option EnrolledDeviceRow) (grant : Option CoordinatorBootstrapGrant) :
    ∃ acceptance, tables'.finishProjectInvite tools.primitives
      (repeatGuard tools.primitives tables row opts) false seed grant = .ok acceptance ∧
        acceptance.accepted = false ∧ acceptance.invite = saved := by
  have hfinal := hadvances.final h.rowAccepts.consumed
  have hgroup : saved.groupId = row.groupId := hadvances.groupId
  have hid : saved.inviteId = row.inviteId := (InviteTable.byId_eq_some hsaved).2
  have hsavedTables : TablesAccept tools.primitives tables' saved opts.recipient :=
    htables.advance (.refl _ _) hgroup (by rw [hfinal])
  have heligible : tables'.assertProjectInviteEligible tools.primitives saved
      (repeatGuard tools.primitives tables row opts) = .ok () := by
    have hstored : tables'.invites.byId saved.inviteId = some saved := by
      rw [hid]
      exact hsaved
    have hrevoked : saved.revokedAt = none := by
      rw [hfinal]
      exact h.rowAccepts.revoked
    have hbound := boundEligible_of_accepts h hsaved hadvances htables hsame
    unfold assertProjectInviteEligible
    dsimp only
    rw [hstored, rejectIf_of_not (by simp [hrevoked, truthy]), bind_ok,
      rejectIf_of_not hsavedTables.group, bind_ok,
      rejectIf_of_not (by rw [hsavedTables.unarchived]; simp), bind_ok]
    have hprepared : tables'.prepareProjectInviteGuards tools.primitives saved
        (repeatGuard tools.primitives tables row opts).opts = .ok (repeatGuard tools.primitives
          tables' saved opts) := prepareProjectInviteGuards_repeat hsavedTables
    rw [hprepared, bind_ok, rejectIf_of_not (by rw [hbound]; simp)]
  obtain ⟨enrollment, hstored, -, -, hidentity, hon⟩ := htables.enrolled
  have henabled : tables'.enabledEnrollment row.groupId opts.deviceId = some enrollment := by
    unfold enabledEnrollment
    have hstored' : tables'.enrollment row.groupId opts.deviceId = some enrollment := hstored
    rw [hstored', Option.filter_eq_some_iff]
    exact ⟨rfl, hon⟩
  unfold finishProjectInvite
  have hguardId : (repeatGuard tools.primitives tables row opts).invite.inviteId = row.inviteId := rfl
  have hguardGroup : (repeatGuard tools.primitives tables row opts).invite.groupId = row.groupId := rfl
  have hguardDevice : (repeatGuard tools.primitives tables row opts).opts.deviceId =
    opts.deviceId := rfl
  rw [hguardId, hsaved]
  dsimp only
  rw [heligible, bind_ok, hguardGroup, hguardDevice, henabled]
  dsimp only
  have hactor : enrollment.identityId = some opts.recipientActorId := hidentity
  refine ⟨⟨false, saved, some enrollment, seed, none,
    grant <|> saved.bootstrapGrantId.bind tables'.bootstrapGrant⟩, ?_, rfl, rfl⟩
  have hguardActor : (repeatGuard tools.primitives tables row opts).opts.recipientActorId =
    opts.recipientActorId := rfl
  rw [hguardActor, rejectIf_of_not (by rw [hactor]; simp), bind_ok]

lemma findProjectInvite_repeat {opts : ConsumeProjectInviteInput} {consumedAt : String}
    (h : Settled tools tables (.project opts) row)
    (hfound : getInviteByTokenForInspection tools tables.invites opts.token = some row) :
    tables.findProjectInvite tools opts consumedAt = .ok row := by
  obtain ⟨hnames, hoperation, hoperation', hintent, -⟩ := h.rowAccepts.project opts rfl
  have hbound : row.boundTo opts.recipient := h.rowAccepts.bound
  have hfingerprint : tools.fingerprintPublicKey opts.publicKey = opts.fingerprint :=
    h.rowAccepts.fingerprint
  unfold findProjectInvite
  rw [hfound]
  dsimp only
  have hrevoked : truthy row.revokedAt = false := by
    rw [h.rowAccepts.revoked]
    rfl
  rw [rejectIf_of_not (by simp [hoperation', hintent, hrevoked]), bind_ok]
  unfold checkInviteGroup
  rw [rejectIf_of_not h.tablesAccept.group, bind_ok,
    rejectIf_of_not (by rw [h.tablesAccept.unarchived]; simp), bind_ok,
    rejectIf_of_not (by simp [hoperation]), bind_ok, rejectIf_of_not (by simp [hfingerprint]),
    bind_ok, rejectIf_of_not (by simp [h.dated]), bind_ok, rejectIf_of_not (by simp [hbound]),
    bind_ok, rejectIf_of_not (by simp [hnames]), bind_ok]

/-- Repeating an accepted consumption of a project invite succeeds and enrolls nothing. -/
theorem consumeProjectInvite_repeat {opts : ConsumeProjectInviteInput} {draw : ConsumeDraw}
    (h : Settled tools tables (.project opts) row)
    (hfound : getInviteByTokenForInspection tools tables.invites opts.token = some row)
    (hgrant : GrantInsertable tools tables row opts.deviceId opts.now draw.grantId.text) :
    ∃ acceptance after, tables.consumeProjectInvite tools opts draw = (.ok acceptance, after) ∧
      acceptance.accepted = false ∧ acceptance.invite.inviteId = row.inviteId ∧
      ∀ group device, after.enrollment group device = tables.enrollment group device := by
  obtain ⟨hnames, -, -, -, consumedAt, hnow⟩ := h.rowAccepts.project opts rfl
  -- the repair leaves the enrollments alone
  have hrepaired : ∃ enrolled, tables.enrollProjectRecipient tools.primitives
      (repeatGuard tools.primitives tables row opts) row false draw.nowISO = .ok enrolled ∧
      ConsumptionAdvances tools.primitives tables enrolled ∧ enrolled.invites = tables.invites ∧
      enrolled.bootstrapGrants = tables.bootstrapGrants ∧
      ∀ group device, enrolled.enrollment group device = tables.enrollment group device := by
    obtain ⟨stored, hstored, -, -, hidentity, -⟩ := h.tablesAccept.enrolled
    refine ⟨_, rfl, .of_sameInvites (.of_identity fun r hr => ?_) rfl, rfl, rfl, ?_⟩
    · simp only [Bool.and_eq_true, Option.isNone_iff_eq_none] at hr
      exact hr.1.1.1.1.2
    · refine enrollment_repaired (fun r hr => ?_) hstored (by rw [hidentity]; rfl)
      simp only [Bool.and_eq_true, Option.isNone_iff_eq_none, decide_eq_true_eq] at hr
      exact ⟨hr.1.1.1.1.1, hr.1.1.1.1.2⟩
  obtain ⟨enrolled, henrolled, hadvEnrolled, hinvites, hgrants, hsame⟩ := hrepaired
  -- the grant that is still due can be inserted
  have hissued : ∃ granted, enrolled.issueProjectGrant tools
      (repeatGuard tools.primitives tables row opts) row draw.grantId.text consumedAt =
        .ok granted := by
    have hseedSame : enrolled.seedEnrollment row = tables.seedEnrollment row := by
      unfold seedEnrollment inviterEnrollment
      simp only [hsame]
    unfold issueProjectGrant
    rw [hseedSame]
    rcases hseed : tables.seedEnrollment row with _ | seed
    · exact ⟨_, rfl⟩
    · dsimp only
      split_ifs with hdue
      · obtain ⟨hgroup, hseedId, hworker, hexpiry, hfree⟩ :=
          hgrant seed hseed hdue.1 consumedAt hnow hdue.2
        exact exists_issueInviteGrant (exists_normalizeGrantInput hgroup hseedId hworker hexpiry)
          (by rw [hgrants]; exact hfree) fun _ => rfl
      · exact ⟨_, rfl⟩
  obtain ⟨granted, hgranted⟩ := hissued
  obtain ⟨hadvGranted, hscope, -⟩ := issueProjectGrant_eq_ok tools.primitives hgranted
  have hadvances := hadvEnrolled.trans hadvGranted
  obtain ⟨saved, hsaved, hrowAdvances⟩ := hadvances.invites _ _ h.stored
  have hsame' : ∀ group device, granted.2.enrollment group device =
      tables.enrollment group device := by
    intro group device
    rw [← hsame]
    unfold enrollment AdmissionTables.devices
    rw [hscope]
  have htables : TablesAccept tools.primitives granted.2 row opts.recipient :=
    TablesAccept.advance h.tablesAccept hadvances.toAdmissionAdvances rfl rfl
  obtain ⟨acceptance, hfinish, haccepted, hinvite⟩ := finishProjectInvite_repeat h hsaved
    hrowAdvances htables hsame' (enrolled.seedEnrollment row) granted.1
  refine ⟨acceptance, granted.2, ?_, haccepted, ?_, hsame'⟩
  · have hbody : tables.consumeProjectInviteBody tools opts draw consumedAt =
        .ok (acceptance, granted.2) := by
      have hbind : tables.bindProjectInvite (repeatGuard tools.primitives tables row opts)
          consumedAt = .ok ((false, row), tables) := by
        unfold bindProjectInvite
        exact if_pos h.dated
      unfold consumeProjectInviteBody
      rw [findProjectInvite_repeat h hfound, bind_ok,
        prepareProjectInviteGuards_repeat h.tablesAccept, bind_ok, hbind, bind_ok,
        rejectIf_of_not (by simp [hnames]), bind_ok]
      dsimp only
      rw [henrolled, bind_ok, hgranted, bind_ok, hfinish, bind_ok]
    unfold consumeProjectInvite inTransaction
    rw [hnow]
    dsimp only
    rw [hbody]
  · rw [hinvite]
    exact (InviteTable.byId_eq_some hsaved).2

/-! ### Recipient invites -/

lemma matchesOwner_of_prepare {primitives : SignaturePrimitives}
    {classify : OwnerEvidence → OwnerSubject → Bool} {opts : ConsumeRecipientInviteInput}
    {consistency : OwnerConsistency}
    (h : tables.prepareRecipientOwnerConsistency primitives classify opts = some consistency) :
    tables.matchesOwner consistency = true := by
  unfold prepareRecipientOwnerConsistency at h
  dsimp only at h
  by_cases hcontroller : opts.coordinatorId.all isAuthControllerId = false
  · rw [if_pos hcontroller] at h
    cases h
  rw [if_neg hcontroller] at h
  rcases hcatalog : tables.ownerResolutions with _ | _ | rows
  · rw [hcatalog] at h
    cases h
  · rw [hcatalog] at h
    cases h
    unfold matchesOwner
    rw [hcatalog]
    rfl
  · rw [hcatalog] at h
    dsimp only at h
    split_ifs at h with habsent
    · cases h
      unfold matchesOwner
      dsimp only
      rw [hcatalog, habsent]
      simp
    · rcases hcoordinator : opts.coordinatorId with _ | coordinatorId
      · rw [hcoordinator] at h
        cases h
      · rw [hcoordinator] at h
        dsimp only at h
        split_ifs at h
        cases h
        unfold matchesOwner
        simp

lemma matchesOwner_congr (hevidence : tables'.ownerEvidence = tables.ownerEvidence)
    (hresolutions : tables'.ownerResolutions = tables.ownerResolutions)
    (consistency : OwnerConsistency) :
    tables'.matchesOwner consistency = tables.matchesOwner consistency := by
  rcases consistency with _ | ⟨coordinatorId, deviceId, keyId⟩ | evidence
  · unfold matchesOwner
    rw [hresolutions]
  · unfold matchesOwner resolutionsAbsent resolutions
    rw [hresolutions]
  · unfold matchesOwner
    rw [hevidence]

lemma ownerEvidence_claimed {invites : InviteTable} {selects : CoordinatorInvite → Bool}
    {grantId : String} (h : tables.invites.update selects (claimedForGrant grantId) = .ok invites)
    (hinvites : tables'.invites = invites) (hbindings : tables'.ownershipBindings =
      tables.ownershipBindings) (hrevocations : tables'.devices.revocations =
      tables.devices.revocations) (hresolutions : tables'.ownerResolutions =
      tables.ownerResolutions) : tables'.ownerEvidence = tables.ownerEvidence := by
  unfold ownerEvidence resolutions
  rw [hbindings, hrevocations, hresolutions, hinvites, InviteTable.rows_of_write h]
  have hcomp : (fun r : CoordinatorInvite => r.consumedAt.isSome) ∘
      (fun r => if selects r then claimedForGrant grantId r else r) =
        fun r => r.consumedAt.isSome := by
    funext r
    rw [Function.comp_apply]
    split_ifs
    · rfl
    · rfl
  have hevidence : CoordinatorInvite.evidence ∘
      (fun r => if selects r then claimedForGrant grantId r else r) =
        CoordinatorInvite.evidence := by
    funext r
    rw [Function.comp_apply]
    split_ifs
    · rfl
    · rfl
  unfold updateRows
  rw [List.filter_map, List.map_map, hcomp, hevidence]

lemma issueInviteGrant_ownerEvidence {selects : CoordinatorInvite → Bool}
    {input : BootstrapGrantInput} {grantId consumedAt : String}
    {authorization : AdmissionTables → Except String Unit}
    {result : Stored (Option CoordinatorBootstrapGrant)}
    (h : tables.issueInviteGrant row selects input grantId consumedAt authorization =
      .ok result) :
    result.2.ownerEvidence = tables.ownerEvidence ∧
      result.2.ownerResolutions = tables.ownerResolutions := by
  obtain ⟨invites, hinvites, h⟩ := exists_of_bind_eq_ok h
  split_ifs at h with hclaimed
  · obtain ⟨inserted, hinserted, h⟩ := exists_of_map_eq_ok h
    obtain ⟨normalized, -, htables⟩ := insertBootstrapGrantSync_eq_ok hinserted
    rw [← h]
    dsimp only
    rw [htables]
    exact ⟨ownerEvidence_claimed hinvites rfl rfl rfl rfl, rfl⟩
  · cases h
    exact ⟨ownerEvidence_claimed hinvites rfl rfl rfl rfl, rfl⟩

lemma recipientAuthorized_of_accepts {primitives : SignaturePrimitives} {device : InviteRecipient}
    (h : TablesAccept primitives tables row device) :
    tables.recipientAuthorized (tables.participantSubjects primitives row device) = true := by
  unfold recipientAuthorized
  rw [h.unrevoked, participantSubjects_deviceId, participantSubjects_keyId, h.unowned]
  rfl

lemma assertRecipientAuthorized_of_accepts {primitives : SignaturePrimitives}
    {device : InviteRecipient} (h : TablesAccept primitives tables' saved device)
    (hgroup : saved.groupId = row.groupId) (hinviter : saved.inviterDeviceId = row.inviterDeviceId)
    (hsame : ∀ group deviceId, tables'.enrollment group deviceId =
      tables.enrollment group deviceId) :
    tables'.assertRecipientInviteAuthorized primitives saved device
      (tables.participantSubjects primitives row device) = .ok () := by
  have hsubjects : tables'.participantsRevoked (tables.participantSubjects primitives row device) =
      false := by
    have hcurrent := h.unrevoked
    unfold participantSubjects inviterEnrollment at hcurrent ⊢
    simp only [hsame, hgroup, hinviter] at hcurrent
    exact hcurrent
  have howned : tables'.subjectOwned (tables.participantSubjects primitives row device).deviceId
      (tables.participantSubjects primitives row device).keyId = false := by
    rw [participantSubjects_deviceId, participantSubjects_keyId]
    exact h.unowned
  unfold assertRecipientInviteAuthorized
  rw [validateParticipants_of_accepts h, bind_ok, rejectIf_of_not (by rw [hsubjects]; simp), bind_ok,
    rejectIf_of_not (by rw [howned]; simp)]

lemma retainsOwner_of_matches {consistency : OwnerConsistency}
    (h : tables.matchesOwner consistency = true) : tables.retainsOwner consistency = true := by
  rcases consistency with _ | ⟨coordinatorId, deviceId, keyId⟩ | evidence
  · exact h
  · exact h
  · unfold matchesOwner at h
    dsimp only at h
    rw [decide_eq_true_eq] at h
    unfold retainsOwner
    dsimp only
    rw [decide_eq_true_eq, ← h]
    rfl

lemma validateAcceptedOwner_of_accepts {primitives : SignaturePrimitives}
    {consumption : RecipientConsumption}
    (h : TablesAccept primitives tables consumption.invite consumption.opts.recipient) :
    tables.validateAcceptedRecipientOwner consumption = .ok () := by
  obtain ⟨enrollment, hstored, hkey, hfingerprint, hidentity, hon⟩ := h.enrolled
  have henabled : tables.enabledEnrollment consumption.invite.groupId consumption.opts.deviceId =
      some enrollment := by
    unfold enabledEnrollment
    rw [Option.filter_eq_some_iff]
    exact ⟨hstored, hon⟩
  unfold validateAcceptedRecipientOwner
  rw [henabled]
  dsimp only
  refine rejectIf_of_not ?_
  rw [not_or, not_or, not_not, not_not, not_not]
  exact ⟨hkey, hfingerprint, hidentity⟩

/-- The invite of a repeat is found, checked and authorized. -/
lemma findRecipientInvite_repeat {opts : ConsumeRecipientInviteInput}
    {preflight : RecipientPreflight} {inspection : RecipientInviteInspection}
    {consistency : OwnerConsistency} (h : Settled tools tables (.recipient opts) row)
    (hfound : getInviteByTokenForInspection tools tables.invites opts.token = some row)
    (hinvite : preflight.invite = some row) (hinspection : preflight.inspection = some inspection)
    (hkind : inspection.kind = opts.inviteKind)
    (hidentity : inspection.authoritativeIdentityId = opts.identityId)
    (hconsistency : preflight.consistency = some consistency)
    (hmatches : tables.matchesOwner consistency = true) :
    tables.findRecipientInvite tools opts preflight =
      .ok ⟨opts, preflight.consumedAt, row, inspection, consistency,
        tables.participantSubjects tools.primitives row opts.recipient⟩ := by
  have hbound : row.boundTo opts.recipient := h.rowAccepts.bound
  have hfingerprint : tools.fingerprintPublicKey opts.publicKey = opts.fingerprint :=
    h.rowAccepts.fingerprint
  have hactor : row.recipientActorId = some opts.identityId := h.rowAccepts.identity
  have hrevoked : truthy row.revokedAt = false := by
    rw [h.rowAccepts.revoked]
    rfl
  have hchecked : tables.checkRecipientInvite tools opts preflight.consumedAt inspection row row =
      .ok () := by
    have hreview : row.sameReview row := ⟨rfl, rfl, rfl, rfl, rfl, rfl⟩
    unfold checkRecipientInvite checkInviteGroup
    rw [rejectIf_of_not (by simp [hreview, hkind, hrevoked]), bind_ok,
      rejectIf_of_not h.tablesAccept.group, bind_ok,
      rejectIf_of_not (by rw [h.tablesAccept.unarchived]; simp), bind_ok,
      rejectIf_of_not (by simp [h.dated]), bind_ok, rejectIf_of_not (by simp [hfingerprint]),
      bind_ok, rejectIf_of_not (by simp [hidentity]), bind_ok, rejectIf_of_not (by simp [hbound]),
      bind_ok, rejectIf_of_not (by simp [hidentity, hactor])]
  have haccepts : TablesAccept tools.primitives tables row opts.recipient := h.tablesAccept
  have hauthorized : tables.assertRecipientInviteAuthorized tools.primitives row opts.recipient
      (tables.participantSubjects tools.primitives row opts.recipient) = .ok () :=
    assertRecipientAuthorized_of_accepts haccepts rfl rfl fun _ _ => rfl
  unfold findRecipientInvite
  rw [hfound, hinspection, hinvite]
  dsimp only
  rw [hchecked, bind_ok, validateParticipants_of_accepts haccepts, bind_ok, hauthorized,
    bind_ok, hconsistency]
  dsimp only
  unfold assertOwnerPin
  rw [rejectIf_of_not (by rw [hmatches]; simp), bind_ok]

lemma recipientPreflight_repeat {classify : OwnerEvidence → OwnerSubject → Bool}
    {opts : ConsumeRecipientInviteInput} (h : Settled tools tables (.recipient opts) row)
    (hfound : getInviteByTokenForInspection tools tables.invites opts.token = some row) :
    ∃ preflight inspection, tables.recipientPreflight tools classify opts = .ok preflight ∧
      normalizeInviteExpiresAt tools opts.now = .ok preflight.consumedAt ∧
      preflight.invite = some row ∧ preflight.inspection = some inspection ∧
      inspection.kind = opts.inviteKind ∧
      inspection.authoritativeIdentityId = opts.identityId ∧
      preflight.consistency = tables.prepareRecipientOwnerConsistency tools.primitives classify
        opts := by
  obtain ⟨⟨inspection, hinspect, hkind, hidentity⟩, hvalid, consumedAt, hnow⟩ :=
    h.rowAccepts.recipient opts rfl
  refine ⟨⟨some row, some inspection, tables.prepareRecipientOwnerConsistency tools.primitives
    classify opts, consumedAt⟩, inspection, ?_, hnow, rfl, rfl, hkind, hidentity, rfl⟩
  unfold recipientPreflight
  rw [hnow, bind_ok, hvalid, bind_ok]
  dsimp only
  rw [hfound]
  dsimp only
  rw [hinspect, bind_ok]

/-- Repeating an accepted consumption of a recipient invite succeeds and enrolls nothing. -/
theorem consumeRecipientInvite_repeat {classify : OwnerEvidence → OwnerSubject → Bool}
    {opts : ConsumeRecipientInviteInput} {draw : ConsumeDraw}
    (h : Settled tools tables (.recipient opts) row)
    (hfound : getInviteByTokenForInspection tools tables.invites opts.token = some row)
    (hgrant : GrantInsertable tools tables row opts.deviceId opts.now draw.grantId.text)
    (howner : (tables.prepareRecipientOwnerConsistency tools.primitives classify opts).isSome =
      true) :
    ∃ acceptance after,
      tables.consumeRecipientInvite tools classify opts draw = (.ok acceptance, after) ∧
      acceptance.accepted = false ∧ acceptance.invite.inviteId = row.inviteId ∧
      ∀ group device, after.enrollment group device = tables.enrollment group device := by
  obtain ⟨consistency, hconsistency⟩ := Option.isSome_iff_exists.mp howner
  have hmatches := matchesOwner_of_prepare hconsistency
  obtain ⟨preflight, inspection, hpreflight, hnow, hinvite, hinspection, hkind, hidentity,
    hprepared⟩ := recipientPreflight_repeat h hfound
  rw [hconsistency] at hprepared
  have hfind := findRecipientInvite_repeat h hfound hinvite hinspection hkind hidentity hprepared
    hmatches
  generalize hconsumption : (⟨opts, preflight.consumedAt, row, inspection, consistency,
    tables.participantSubjects tools.primitives row opts.recipient⟩ : RecipientConsumption) =
      consumption at hfind
  have hopts : consumption.opts = opts := by rw [← hconsumption]
  have hrow : consumption.invite = row := by rw [← hconsumption]
  have hinsp : consumption.inspection = inspection := by rw [← hconsumption]
  have hcons : consumption.consistency = consistency := by rw [← hconsumption]
  have hconsumedAt : consumption.consumedAt = preflight.consumedAt := by rw [← hconsumption]
  have hsubjects : consumption.subjects =
      tables.participantSubjects tools.primitives row opts.recipient := by rw [← hconsumption]
  have hbind : tables.bindRecipientInvite consumption = .ok (false, tables) := by
    have hbound : row.boundTo opts.recipient := h.rowAccepts.bound
    have hactor : row.recipientActorId = some opts.identityId := h.rowAccepts.identity
    unfold bindRecipientInvite consumeRecipientOwnerToken
    rw [hrow, if_pos h.dated, bind_ok, h.stored]
    dsimp only
    rw [hopts, rejectIf_of_not (by simp [hbound]), bind_ok,
      rejectIf_of_not (by simp [hactor, hinsp, hidentity]), bind_ok]
  -- the repair leaves the enrollments alone
  have hrepaired : ∃ retained enrolled, tables.enrollRecipient consumption false =
      (retained, enrolled) ∧ ConsumptionAdvances tools.primitives tables enrolled ∧
      enrolled.bootstrapGrants = tables.bootstrapGrants ∧
      enrolled.ownerEvidence = tables.ownerEvidence ∧
      enrolled.ownerResolutions = tables.ownerResolutions ∧
      ∀ group device, enrolled.enrollment group device = tables.enrollment group device := by
    obtain ⟨stored, hstored, -, -, hstoredIdentity, -⟩ := h.tablesAccept.enrolled
    refine ⟨_, _, rfl, .of_sameInvites (.of_identity fun r hr => ?_) rfl, rfl, rfl, rfl, ?_⟩
    · simp only [repairsRecipient, Bool.and_eq_true, Option.isNone_iff_eq_none] at hr
      exact hr.1.1.1.1.2
    · refine enrollment_repaired (fun r hr => ?_) hstored (by rw [hstoredIdentity]; rfl)
      simp only [repairsRecipient, Bool.and_eq_true, Option.isNone_iff_eq_none,
        decide_eq_true_eq] at hr
      rw [hrow, hopts] at hr
      exact ⟨hr.1.1.1.1.1, hr.1.1.1.1.2⟩
  obtain ⟨retained, enrolled, henrolled, hadvEnrolled, hgrants, hevidence, hresolutions, hsame⟩ :=
    hrepaired
  have hissued : ∃ granted, enrolled.issueRecipientGrant tools consumption retained
      draw.grantId.text = .ok granted := by
    have hseedSame : enrolled.seedEnrollment row = tables.seedEnrollment row := by
      unfold seedEnrollment inviterEnrollment
      simp only [hsame]
    have hauthorization : ∀ invites : InviteTable, ({ enrolled with invites := invites } :
        AdmissionTables).recipientGrantAuthorization tools.primitives consumption = .ok () := by
      intro invites
      have hauthorized : ({ enrolled with invites := invites } :
          AdmissionTables).recipientAuthorized consumption.subjects = true := by
        have hbefore := recipientAuthorized_of_accepts h.tablesAccept
        have hdevice : (ConsumeInput.recipient opts).device = opts.recipient := rfl
        rw [hdevice, ← hsubjects] at hbefore
        unfold recipientAuthorized participantsRevoked subjectRevoked subjectOwned at hbefore ⊢
        dsimp only [AdmissionTables.devices] at hbefore ⊢
        rw [hadvEnrolled.revocations, hadvEnrolled.bindings]
        exact hbefore
      unfold recipientGrantAuthorization
      rw [if_pos hauthorized]
    unfold issueRecipientGrant
    dsimp only
    split_ifs with hdue
    · rw [hrow, hseedSame]
      rcases hseed : tables.seedEnrollment row with _ | seed
      · exact ⟨_, rfl⟩
      · dsimp only
        rw [hrow, hconsumedAt] at hdue
        obtain ⟨hgroup, hseedId, hworker, hexpiry, hfree⟩ :=
          hgrant seed hseed hdue.2.1 preflight.consumedAt hnow hdue.2.2
        refine exists_issueInviteGrant (exists_normalizeGrantInput hgroup hseedId ?_ hexpiry)
          (by rw [hgrants]; exact hfree) hauthorization
        rw [hopts]
        exact hworker
    · exact ⟨_, rfl⟩
  obtain ⟨granted, hgranted⟩ := hissued
  obtain ⟨hadvGranted, hscope, -⟩ := issueRecipientGrant_eq_ok tools.primitives hgranted
  have hevidenceGranted : granted.2.ownerEvidence = enrolled.ownerEvidence ∧
      granted.2.ownerResolutions = enrolled.ownerResolutions := by
    unfold issueRecipientGrant at hgranted
    dsimp only at hgranted
    split_ifs at hgranted with hdue
    · rcases hseed : enrolled.seedEnrollment consumption.invite with _ | seed
      · rw [hseed] at hgranted
        cases hgranted
        exact ⟨rfl, rfl⟩
      · rw [hseed] at hgranted
        exact issueInviteGrant_ownerEvidence hgranted
    · cases hgranted
      exact ⟨rfl, rfl⟩
  have hadvances := hadvEnrolled.trans hadvGranted
  obtain ⟨saved, hsaved, hrowAdvances⟩ := hadvances.invites _ _ h.stored
  have hsame' : ∀ group device, granted.2.enrollment group device =
      tables.enrollment group device := by
    intro group device
    rw [← hsame]
    unfold enrollment AdmissionTables.devices
    rw [hscope]
  have hfinal := hrowAdvances.final h.rowAccepts.consumed
  have hgroup : saved.groupId = row.groupId := hrowAdvances.groupId
  have hinviter : saved.inviterDeviceId = row.inviterDeviceId := by rw [hfinal]
  have hafter : granted.2.matchesOwner consistency = true := by
    rw [matchesOwner_congr (hevidenceGranted.1.trans hevidence)
      (hevidenceGranted.2.trans hresolutions)]
    exact hmatches
  have hpin : granted.2.pendingPin consumption retained = true := by
    unfold pendingPin
    rw [hcons]
    split_ifs
    · exact retainsOwner_of_matches hafter
    · exact hafter
  have hstored : granted.2.invites.byId row.inviteId = some saved := hsaved
  have hbefore : TablesAccept tools.primitives enrolled row opts.recipient :=
    TablesAccept.advance h.tablesAccept hadvEnrolled.toAdmissionAdvances rfl rfl
  have hlast : TablesAccept tools.primitives granted.2 saved opts.recipient :=
    TablesAccept.advance h.tablesAccept hadvances.toAdmissionAdvances hgroup hinviter
  have hfinish : ∃ acceptance, granted.2.finishRecipientInvite tools.primitives consumption false
      retained granted.1 = .ok acceptance ∧ acceptance.accepted = false ∧
        acceptance.invite = saved := by
    unfold finishRecipientInvite
    rw [hrow, hstored]
    dsimp only
    rw [hopts, hsubjects, assertRecipientAuthorized_of_accepts hlast hgroup hinviter hsame', bind_ok]
    unfold assertOwnerPin
    rw [rejectIf_of_not (by rw [hpin]; simp), bind_ok]
    exact ⟨_, rfl, rfl, rfl⟩
  obtain ⟨acceptance, hfinish, haccepted, hsavedInvite⟩ := hfinish
  refine ⟨acceptance, granted.2, ?_, haccepted, ?_, hsame'⟩
  · have hbody : tables.consumeRecipientInviteBody tools opts preflight draw =
        .ok (acceptance, granted.2) := by
      have hauthorized : enrolled.assertRecipientInviteAuthorized tools.primitives
          consumption.invite opts.recipient consumption.subjects = .ok () := by
        rw [hrow, hsubjects]
        exact assertRecipientAuthorized_of_accepts hbefore rfl rfl hsame
      have howner' : enrolled.validateAcceptedRecipientOwner consumption = .ok () := by
        have hrecipient : TablesAccept tools.primitives enrolled consumption.invite
            consumption.opts.recipient := by
          rw [hrow, hopts]
          exact hbefore
        exact validateAcceptedOwner_of_accepts hrecipient
      unfold consumeRecipientInviteBody
      rw [hfind, bind_ok, hbind, bind_ok]
      dsimp only
      rw [henrolled]
      dsimp only
      rw [hauthorized, bind_ok, howner', bind_ok, hgranted, bind_ok, hfinish, bind_ok]
    unfold consumeRecipientInvite inTransaction
    rw [hpreflight]
    dsimp only
    rw [hbody]
  · rw [hsavedInvite]
    exact (InviteTable.byId_eq_some hsaved).2

end AdmissionTables

/-- Repeating an accepted consumption succeeds and enrolls nothing. -/
theorem Settled.repeats {tools : InviteTools} {classify : OwnerEvidence → OwnerSubject → Bool}
    {tables : AdmissionTables} {input : ConsumeInput} {row : CoordinatorInvite} {draw : ConsumeDraw}
    (h : Settled tools tables input row)
    (hfound : getInviteByTokenForInspection tools tables.invites input.token = some row)
    (hrepeatable : input.Repeatable tools classify tables draw row) :
    ∃ acceptance after, input.run tools classify tables draw = (.ok acceptance, after) ∧
      acceptance.accepted = false ∧ acceptance.invite.inviteId = row.inviteId ∧
      ∀ group device, after.enrollment group device = tables.enrollment group device := by
  rcases input with opts | opts
  · exact AdmissionTables.consumeProjectInvite_repeat h hfound hrepeatable
  · exact AdmissionTables.consumeRecipientInvite_repeat h hfound hrepeatable.1 hrepeatable.2

end Codemem

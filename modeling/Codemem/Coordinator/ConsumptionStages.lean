import Codemem.Coordinator.AdmissionAdvances

/-!
# The stages of a consumption

One lemma for each stage of the consumption of an invite: how it advances the tables, and which
bootstrap grants it adds.
-/

namespace Codemem

namespace AdmissionTables

variable {tools : InviteTools} {primitives : SignaturePrimitives} {tables tables' : AdmissionTables}

/-! ### Bootstrap grants -/

/-- A stage adds no bootstrap grant, or one for the input, which the invite of the id had not and now
has recorded. -/
inductive GrantsAdded (inviteId : String) (input : BootstrapGrantInput) (tables tables' :
    AdmissionTables) : Prop where
  | none (h : tables'.bootstrapGrants = tables.bootstrapGrants)
  | one (grantId createdAt : String) (normalized : BootstrapGrantInput)
      (row row' : CoordinatorInvite)
      (hinput : normalizeCoordinatorBootstrapGrantInput input = .ok normalized)
      (hrows : tables'.bootstrapGrants =
        tables.bootstrapGrants ++ [bootstrapGrantRow normalized grantId createdAt])
      (hbefore : tables.invites.byId inviteId = some row) (hnone : row.bootstrapGrantId = .none)
      (hafter : tables'.invites.byId inviteId = some row')
      (hsome : row'.bootstrapGrantId.isSome = true)

lemma insertBootstrapGrantSync_eq_ok {opts : BootstrapGrantInput} {grantId createdAt : String}
    {authorization : Except String Unit} {result : Stored CoordinatorBootstrapGrant}
    (h : tables.insertBootstrapGrantSync opts grantId createdAt authorization = .ok result) :
    ∃ normalized, normalizeCoordinatorBootstrapGrantInput opts = .ok normalized ∧
      result.2 = { tables with bootstrapGrants := tables.bootstrapGrants ++
        [bootstrapGrantRow normalized grantId createdAt] } := by
  obtain ⟨normalized, hnormalized, h⟩ := exists_of_bind_eq_ok h
  obtain ⟨-, -, h⟩ := exists_of_bind_eq_ok h
  refine ⟨normalized, hnormalized, ?_⟩
  unfold insertBootstrapGrantRow at h
  split_ifs at h
  cases h
  rfl

lemma inviteAdvances_claimed {row : CoordinatorInvite} (grantId : String)
    (h : row.bootstrapGrantId = none) : InviteAdvances row (claimedForGrant grantId row) :=
  ⟨rfl, fun _ => rfl, fun hgranted => absurd hgranted (by rw [h]; simp)⟩

variable (primitives) in
lemma issueInviteGrant_eq_ok {invite : CoordinatorInvite} {selects : CoordinatorInvite → Bool}
    {input : BootstrapGrantInput} {grantId consumedAt : String}
    {authorization : AdmissionTables → Except String Unit}
    {result : Stored (Option CoordinatorBootstrapGrant)}
    (h : tables.issueInviteGrant invite selects input grantId consumedAt authorization =
      .ok result) :
    ConsumptionAdvances primitives tables result.2 ∧ result.2.scope = tables.scope ∧
      GrantsAdded invite.inviteId input tables result.2 := by
  obtain ⟨invites, hinvites, h⟩ := exists_of_bind_eq_ok h
  have hadvances : ConsumptionAdvances primitives tables { tables with invites := invites } := by
    refine .of_update hinvites (fun row hrow => inviteAdvances_claimed grantId ?_)
      fun row => ⟨rfl, rfl, rfl, .inl ⟨rfl, rfl⟩⟩
    rw [Bool.and_eq_true, Bool.and_eq_true] at hrow
    exact Option.isNone_iff_eq_none.mp hrow.1.2
  split_ifs at h with hclaimed
  · obtain ⟨inserted, hinserted, h⟩ := exists_of_map_eq_ok h
    obtain ⟨normalized, hnormalized, htables⟩ := insertBootstrapGrantSync_eq_ok hinserted
    rw [← h]
    dsimp only
    rw [htables]
    refine ⟨hadvances.trans (.of_sameInvites (.of_grants _) rfl), rfl, ?_⟩
    obtain ⟨row, hrow, hclaims⟩ := List.any_eq_true.mp hclaimed
    have hclaims' := hclaims
    rw [Bool.and_eq_true, Bool.and_eq_true, beq_iff_eq] at hclaims'
    have hstored : tables.invites.byId invite.inviteId = some row := by
      rw [← hclaims'.1.1]
      exact InviteTable.byId_of_mem hrow
    refine .one grantId consumedAt normalized row (claimedForGrant grantId row) hnormalized rfl
      hstored (Option.isNone_iff_eq_none.mp hclaims'.1.2) ?_ rfl
    rw [InviteTable.byId_update hinvites (fun _ => rfl), hstored, Option.map_some, if_pos hclaims]
  · cases h
    exact ⟨hadvances, rfl, .none rfl⟩

/-! ### Project invites -/

variable (primitives) in
lemma bindProjectInvite_eq_ok {guard : ProjectInviteGuard} {consumedAt : String}
    {result : Stored (Bool × CoordinatorInvite)}
    (hdated : consumedAt ≠ "")
    (hstored : tables.invites.byId guard.invite.inviteId = some guard.invite)
    (h : tables.bindProjectInvite guard consumedAt = .ok result) :
    ConsumptionAdvances primitives tables result.2 ∧ result.2.scope = tables.scope ∧
      result.2.bootstrapGrants = tables.bootstrapGrants ∧
      result.2.invites.byId guard.invite.inviteId = some result.1.2 := by
  unfold bindProjectInvite at h
  split_ifs at h with hconsumed
  · cases h
    exact ⟨.refl primitives tables, rfl, rfl, hstored⟩
  · obtain ⟨invites, hinvites, h⟩ := exists_of_bind_eq_ok h
    rcases hrow : invites.byId guard.invite.inviteId with _ | invite
    · rw [hrow] at h
      cases h
    · rw [hrow] at h
      obtain ⟨-, -, h⟩ := exists_of_bind_eq_ok h
      obtain ⟨-, -, h⟩ := exists_of_bind_eq_ok h
      cases h
      refine ⟨.of_update hinvites (fun row hselects => ?_)
        fun row => ⟨rfl, rfl, rfl, .inr ⟨rfl, consumedAt, rfl, hdated⟩⟩, rfl, rfl, hrow⟩
      unfold selectsUnconsumed at hselects
      rw [Bool.and_eq_true, Bool.and_eq_true, Bool.and_eq_true] at hselects
      refine ⟨rfl, fun hsome => absurd hsome ?_, fun _ => rfl⟩
      rw [Option.isNone_iff_eq_none.mp hselects.1.1.2]
      simp

lemma prepareProjectInviteGuards_eq_ok {invite : CoordinatorInvite}
    {opts : ConsumeProjectInviteInput} {guard : ProjectInviteGuard}
    (h : tables.prepareProjectInviteGuards primitives invite opts = .ok guard) :
    guard = ⟨invite, opts, tables.inviterEnrollment invite,
        tables.participantSubjects primitives invite opts.recipient,
        tables.storedKeyId primitives invite.groupId opts.deviceId⟩ ∧
      tables.participantsRevoked (tables.participantSubjects primitives invite opts.recipient) =
        false ∧ tables.guardOwned guard = false ∧
      (tables.enrollment invite.groupId opts.deviceId).any (enrollmentConflicts opts.recipient) =
        false := by
  obtain ⟨_, hrevoked, h⟩ := exists_of_bind_eq_ok h
  obtain ⟨_, howned, h⟩ := exists_of_bind_eq_ok h
  obtain ⟨_, hparticipants, h⟩ := exists_of_bind_eq_ok h
  obtain ⟨_, hconflict, _⟩ := exists_of_bind_eq_ok hparticipants
  cases h
  exact ⟨rfl, Bool.eq_false_of_not_eq_true (not_of_rejectIf_eq_ok hrevoked),
    Bool.eq_false_of_not_eq_true (not_of_rejectIf_eq_ok howned),
    Bool.eq_false_of_not_eq_true (not_of_rejectIf_eq_ok hconflict)⟩

lemma of_enrollmentConflicts {recipient : InviteRecipient} {row : EnrolledDeviceRow}
    (h : enrollmentConflicts recipient row = false) :
    row.publicKey = recipient.publicKey ∧ row.fingerprint = recipient.fingerprint ∧
      ∀ identityId, row.identityId = some identityId → identityId = recipient.identityId := by
  unfold enrollmentConflicts at h
  rw [Bool.or_eq_false_iff, Bool.or_eq_false_iff, decide_eq_false_iff_not, not_not,
    decide_eq_false_iff_not, not_not] at h
  refine ⟨h.1.1, h.1.2, fun identityId hidentity => ?_⟩
  rw [hidentity, Option.any_some, decide_eq_false_iff_not, not_not] at h
  exact h.2

/-- A row written for a device and a key that are not revoked is admitted, and the others stay. -/
lemma admittedFrom_insertOrUpdate {row row' : EnrolledDeviceRow}
    {write : EnrolledDeviceRow → EnrolledDeviceRow}
    (hkey : ∀ stored, (write stored).key = stored.key)
    (hclean : tables.subjectRevoked (some row.deviceId)
      (ed25519KeyIdForRevocation primitives row.publicKey) = false)
    (hwritten : ∀ stored, tables.enrollment row.groupId row.deviceId = some stored →
      (write stored).publicKey = row.publicKey) {groupId deviceId : String}
    (hrow' : (tables.withEnrolled (insertOrUpdate EnrolledDeviceRow.key row write
      tables.devices.enrolledDevices)).enrollment groupId deviceId = some row') :
    tables.AdmittedFrom primitives row' := by
  have hfound : rowAt EnrolledDeviceRow.key (groupId, deviceId) (insertOrUpdate
      EnrolledDeviceRow.key row write tables.devices.enrolledDevices) = some row' := hrow'
  have hrowKey := (rowAt_eq_some hfound).2
  rw [rowAt_insertOrUpdate hkey] at hfound
  by_cases hsame : (groupId, deviceId) = row.key
  · -- the written row has the key of the new one, which is not revoked
    rw [if_pos hsame] at hfound
    have hdevice : row'.deviceId = row.deviceId :=
      congrArg Prod.snd (hrowKey.trans hsame)
    refine .inr ?_
    rw [hsame] at hfound
    rcases hstored : rowAt EnrolledDeviceRow.key row.key tables.devices.enrolledDevices with
      _ | stored
    · rw [hstored] at hfound
      rw [← Option.some.inj hfound]
      exact hclean
    · rw [hstored] at hfound
      have hkeyEq : row'.publicKey = row.publicKey := by
        rw [← Option.some.inj hfound]
        exact hwritten stored hstored
      rw [hdevice, hkeyEq]
      exact hclean
  · rw [if_neg hsame] at hfound
    exact AdmissionAdvances.admittedFrom_stored groupId deviceId hfound

/-- Writing the row of a device that is not revoked, over a row of the same key, admits it. -/
lemma advances_insertOrUpdate {row : EnrolledDeviceRow}
    {write : EnrolledDeviceRow → EnrolledDeviceRow}
    (hkey : ∀ stored, (write stored).key = stored.key)
    (hkept : ∀ stored, tables.enrollment row.groupId row.deviceId = some stored →
      EnrollmentKept stored (write stored))
    (hclean : tables.subjectRevoked (some row.deviceId)
      (ed25519KeyIdForRevocation primitives row.publicKey) = false)
    (hwritten : ∀ stored, tables.enrollment row.groupId row.deviceId = some stored →
      (write stored).publicKey = row.publicKey) :
    ConsumptionAdvances primitives tables (tables.withEnrolled
      (insertOrUpdate EnrolledDeviceRow.key row write tables.devices.enrolledDevices)) := by
  have hread : ∀ key, rowAt EnrolledDeviceRow.key key (insertOrUpdate EnrolledDeviceRow.key row
      write tables.devices.enrolledDevices) = if key = row.key then
        some (((rowAt EnrolledDeviceRow.key key tables.devices.enrolledDevices).map write).getD row)
      else rowAt EnrolledDeviceRow.key key tables.devices.enrolledDevices :=
    fun key => rowAt_insertOrUpdate hkey key _
  refine .of_sameInvites (.of_enrolled (fun key stored hstored => ?_)
    fun _ _ _ => admittedFrom_insertOrUpdate hkey hclean hwritten) rfl
  by_cases hsame : key = row.key
  · rw [hsame] at hstored
    have hkeep := hkept stored hstored
    refine ⟨write stored, ?_, hkeep⟩
    rw [hread, if_pos hsame, hsame, hstored, Option.map_some, Option.getD_some]
  · refine ⟨stored, ?_, .refl stored⟩
    rw [hread, if_neg hsame]
    exact hstored

lemma enrollDeviceSync_eq_ok {groupId : String} {input : EnrollDeviceInput} {now : String}
    (hsame : ∀ stored, tables.enrollment groupId input.deviceId = some stored →
      stored.publicKey = input.publicKey ∧ stored.fingerprint = input.fingerprint)
    (h : tables.enrollDeviceSync primitives groupId input now = .ok tables') :
    ConsumptionAdvances primitives tables tables' := by
  obtain ⟨_, hrevoked, h⟩ := exists_of_bind_eq_ok h
  obtain ⟨_, -, h⟩ := exists_of_bind_eq_ok h
  obtain ⟨_, -, h⟩ := exists_of_bind_eq_ok h
  cases h
  refine advances_insertOrUpdate (fun stored => rfl) (fun stored hstored => ?_)
    (Bool.eq_false_of_not_eq_true (not_of_rejectIf_eq_ok hrevoked)) fun stored _ => rfl
  obtain ⟨hkey, hfingerprint⟩ := hsame stored hstored
  refine ⟨hkey.symm, hfingerprint.symm, fun identityId hidentity => ?_, fun _ => rfl⟩
  unfold reenrolledRow
  dsimp only
  rw [hidentity]
  rfl

lemma assertProjectInviteEligible_eq_ok {invite : CoordinatorInvite} {guard : ProjectInviteGuard}
    {u : Unit} (h : tables.assertProjectInviteEligible primitives invite guard = .ok u) :
    tables.devices.getGroup invite.groupId ≠ none ∧
      ((tables.devices.getGroup invite.groupId).any fun group => truthy group.archivedAt) =
        false ∧
      tables.participantsRevoked (tables.participantSubjects primitives invite
        guard.opts.recipient) = false ∧
      (tables.enrollment invite.groupId guard.opts.deviceId).any
        (enrollmentConflicts guard.opts.recipient) = false ∧
      tables.subjectOwned guard.opts.deviceId
        (ed25519KeyIdForRevocation primitives guard.opts.publicKey) = false ∧
      tables.boundEligible guard = true := by
  obtain ⟨_, -, h⟩ := exists_of_bind_eq_ok h
  obtain ⟨_, hgroup, h⟩ := exists_of_bind_eq_ok h
  obtain ⟨_, harchived, h⟩ := exists_of_bind_eq_ok h
  obtain ⟨prepared, hprepared, h⟩ := exists_of_bind_eq_ok h
  obtain ⟨hcaptured, hrevoked, howned, hconflict⟩ := prepareProjectInviteGuards_eq_ok hprepared
  rw [hcaptured] at howned
  unfold guardOwned at howned
  rw [Bool.or_eq_false_iff, participantSubjects_keyId,
    ConsumeProjectInviteInput.recipient_publicKey] at howned
  exact ⟨not_of_rejectIf_eq_ok hgroup, Bool.eq_false_of_not_eq_true
    (not_of_rejectIf_eq_ok harchived), hrevoked, hconflict, howned.1,
      Bool.eq_true_of_not_eq_false (not_of_rejectIf_eq_ok h)⟩

lemma enrollProjectRecipient_eq_ok {guard : ProjectInviteGuard} {invite : CoordinatorInvite}
    {accepted : Bool} {now : String}
    (h : tables.enrollProjectRecipient primitives guard invite accepted now = .ok tables') :
    ConsumptionAdvances primitives tables tables' ∧ tables'.invites = tables.invites ∧
      tables'.bootstrapGrants = tables.bootstrapGrants := by
  unfold enrollProjectRecipient at h
  dsimp only at h
  split_ifs at h with haccepted
  · obtain ⟨_, heligible, henrolled⟩ := exists_of_bind_eq_ok h
    obtain ⟨-, -, -, hconflict, -, -⟩ := assertProjectInviteEligible_eq_ok heligible
    refine ⟨enrollDeviceSync_eq_ok (fun stored hstored => ?_) henrolled, ?_⟩
    · rw [hstored, Option.any_some] at hconflict
      have hsame := of_enrollmentConflicts hconflict
      exact ⟨hsame.1, hsame.2.1⟩
    · obtain ⟨_, -, h⟩ := exists_of_bind_eq_ok henrolled
      obtain ⟨_, -, h⟩ := exists_of_bind_eq_ok h
      obtain ⟨_, -, h⟩ := exists_of_bind_eq_ok h
      cases h
      exact ⟨rfl, rfl⟩
  · cases h
    refine ⟨.of_sameInvites (.of_identity fun row hrow => ?_) rfl, rfl, rfl⟩
    simp only [Bool.and_eq_true] at hrow
    exact Option.isNone_iff_eq_none.mp hrow.1.1.1.1.2

variable (primitives) in
lemma issueProjectGrant_eq_ok {guard : ProjectInviteGuard} {invite : CoordinatorInvite}
    {grantId consumedAt : String} {result : Stored (Option CoordinatorBootstrapGrant)}
    (h : tables.issueProjectGrant tools guard invite grantId consumedAt = .ok result) :
    ConsumptionAdvances primitives tables result.2 ∧ result.2.scope = tables.scope ∧
      ∃ input : BootstrapGrantInput, input.groupId = invite.groupId ∧
        input.workerDeviceId = guard.opts.deviceId ∧
        GrantsAdded invite.inviteId input tables result.2 := by
  have hnothing (seed : String) : ∃ input : BootstrapGrantInput, input.groupId = invite.groupId ∧
      input.workerDeviceId = guard.opts.deviceId ∧
        GrantsAdded invite.inviteId input tables tables :=
    ⟨⟨invite.groupId, seed, guard.opts.deviceId, invite.expiresAt, none⟩, rfl, rfl, .none rfl⟩
  unfold issueProjectGrant at h
  rcases hseed : tables.seedEnrollment invite with _ | seed
  · rw [hseed] at h
    cases h
    exact ⟨.refl primitives tables, rfl, hnothing ""⟩
  · rw [hseed] at h
    dsimp only at h
    split_ifs at h
    · obtain ⟨hadvances, hscope, hgrants⟩ := issueInviteGrant_eq_ok primitives h
      exact ⟨hadvances, hscope, _, rfl, rfl, hgrants⟩
    · cases h
      exact ⟨.refl primitives tables, rfl, hnothing ""⟩

lemma finishProjectInvite_eq_ok {guard : ProjectInviteGuard} {accepted : Bool}
    {seed : Option EnrolledDeviceRow} {grant : Option CoordinatorBootstrapGrant}
    {acceptance : InviteAcceptance}
    (h : tables.finishProjectInvite primitives guard accepted seed grant = .ok acceptance) :
    acceptance.accepted = accepted ∧
      tables.invites.byId guard.invite.inviteId = some acceptance.invite ∧
      tables.assertProjectInviteEligible primitives acceptance.invite guard = .ok () ∧
      ∃ enrollment, tables.enrollment guard.invite.groupId guard.opts.deviceId = some enrollment ∧
        enrollment.enabled = true ∧
        enrollment.identityId = some guard.opts.recipientActorId := by
  unfold finishProjectInvite at h
  rcases hsaved : tables.invites.byId guard.invite.inviteId with _ | saved
  · rw [hsaved] at h
    cases h
  · rw [hsaved] at h
    obtain ⟨_, heligible, h⟩ := exists_of_bind_eq_ok h
    rcases henrolled : tables.enabledEnrollment guard.invite.groupId guard.opts.deviceId with
      _ | enrollment
    · rw [henrolled] at h
      cases h
    · rw [henrolled] at h
      obtain ⟨_, hidentity, h⟩ := exists_of_bind_eq_ok h
      cases h
      have hfound := Option.filter_eq_some_iff.mp henrolled
      exact ⟨rfl, rfl, heligible, enrollment, hfound.1, hfound.2,
        not_not.mp (not_of_rejectIf_eq_ok hidentity)⟩

/-! ### Recipient invites -/

variable (primitives) in
lemma bindRecipientInvite_eq_ok {consumption : RecipientConsumption} {result : Stored Bool}
    (hdated : consumption.consumedAt ≠ "") (h : tables.bindRecipientInvite consumption = .ok result) :
    ConsumptionAdvances primitives tables result.2 ∧ result.2.scope = tables.scope ∧
      result.2.bootstrapGrants = tables.bootstrapGrants ∧
      ∃ saved, result.2.invites.byId consumption.invite.inviteId = some saved ∧
        saved.boundTo consumption.opts.recipient ∧
        saved.recipientActorId = some consumption.inspection.authoritativeIdentityId := by
  obtain ⟨written, hwritten, h⟩ := exists_of_bind_eq_ok h
  rcases hsaved : written.2.byId consumption.invite.inviteId with _ | saved
  · rw [hsaved] at h
    cases h
  · rw [hsaved] at h
    obtain ⟨_, hbound, h⟩ := exists_of_bind_eq_ok h
    obtain ⟨_, hactor, h⟩ := exists_of_bind_eq_ok h
    cases h
    refine ⟨?_, rfl, rfl, saved, hsaved, not_not.mp (not_of_rejectIf_eq_ok hbound),
      not_not.mp (not_of_rejectIf_eq_ok hactor)⟩
    unfold consumeRecipientOwnerToken at hwritten
    split_ifs at hwritten
    · cases hwritten
      exact .refl primitives tables
    · obtain ⟨invites, hinvites, rfl⟩ := exists_of_map_eq_ok hwritten
      refine .of_update hinvites (fun row hselects => ?_)
        fun row => ⟨rfl, rfl, rfl, .inr ⟨rfl, consumption.consumedAt, rfl, hdated⟩⟩
      unfold selectsRecipientInvite at hselects
      simp only [Bool.and_eq_true] at hselects
      refine ⟨rfl, fun hsome => absurd hsome ?_, fun _ => rfl⟩
      rw [Option.isNone_iff_eq_none.mp hselects.1.1.1.1.1.1.2]
      simp

lemma not_revoked_of_recipientAuthorized {subjects : ParticipantSubjects}
    (h : tables.recipientAuthorized subjects = true) :
    tables.subjectRevoked (some subjects.deviceId) subjects.keyId = false := by
  unfold recipientAuthorized participantsRevoked at h
  rw [Bool.and_eq_true, Bool.not_eq_true', Bool.or_eq_false_iff] at h
  exact h.1.1

variable (primitives) in
lemma enrollRecipient_advances {consumption : RecipientConsumption} (changed : Bool)
    (hsubjects : consumption.subjects.deviceId = consumption.opts.deviceId ∧
      consumption.subjects.keyId =
        ed25519KeyIdForRevocation primitives consumption.opts.publicKey)
    (hsame : (tables.enrollment consumption.invite.groupId consumption.opts.deviceId).any
      (enrollmentConflicts consumption.opts.recipient) = false) :
    ConsumptionAdvances primitives tables (tables.enrollRecipient consumption changed).2 ∧
      (tables.enrollRecipient consumption changed).2.invites = tables.invites ∧
      (tables.enrollRecipient consumption changed).2.bootstrapGrants = tables.bootstrapGrants := by
  unfold enrollRecipient
  split_ifs with hchanged hwrites
  · refine ⟨advances_insertOrUpdate (fun stored => ?_) (fun stored hstored => ?_) ?_
      fun stored hstored => ?_, rfl, rfl⟩
    · unfold recipientUpdate
      dsimp only
      split_ifs
      · rfl
      · rfl
    · rw [show tables.enrollment consumption.invite.groupId consumption.opts.deviceId =
        some stored from hstored, Option.any_some] at hsame
      obtain ⟨hkey, hfingerprint, -⟩ := of_enrollmentConflicts hsame
      unfold recipientUpdate
      dsimp only
      split_ifs
      · refine ⟨hkey.symm, hfingerprint.symm, fun identityId hidentity => ?_, fun _ => rfl⟩
        dsimp only
        rw [hidentity]
        rfl
      · exact .refl stored
    · rw [Bool.and_eq_true] at hwrites
      have hclean := not_revoked_of_recipientAuthorized hwrites.1
      rw [hsubjects.1, hsubjects.2] at hclean
      exact hclean
    · rw [show tables.enrollment consumption.invite.groupId consumption.opts.deviceId =
        some stored from hstored, Option.any_some] at hsame
      unfold recipientUpdate
      dsimp only
      split_ifs
      · rfl
      · exact (of_enrollmentConflicts hsame).1
  · exact ⟨.refl primitives tables, rfl, rfl⟩
  · refine ⟨.of_sameInvites (.of_identity fun row hrow => ?_) rfl, rfl, rfl⟩
    unfold repairsRecipient at hrow
    simp only [Bool.and_eq_true] at hrow
    exact Option.isNone_iff_eq_none.mp hrow.1.1.1.1.2

variable (primitives) in
lemma issueRecipientGrant_eq_ok {consumption : RecipientConsumption} {retained : Bool}
    {grantId : String} {result : Stored (Option CoordinatorBootstrapGrant)}
    (h : tables.issueRecipientGrant tools consumption retained grantId = .ok result) :
    ConsumptionAdvances primitives tables result.2 ∧ result.2.scope = tables.scope ∧
      ∃ input : BootstrapGrantInput, input.groupId = consumption.invite.groupId ∧
        input.workerDeviceId = consumption.opts.deviceId ∧
        GrantsAdded consumption.invite.inviteId input tables result.2 := by
  have hnothing : ∃ input : BootstrapGrantInput, input.groupId = consumption.invite.groupId ∧
      input.workerDeviceId = consumption.opts.deviceId ∧
        GrantsAdded consumption.invite.inviteId input tables tables :=
    ⟨⟨consumption.invite.groupId, "", consumption.opts.deviceId, "", none⟩, rfl, rfl, .none rfl⟩
  unfold issueRecipientGrant at h
  dsimp only at h
  split_ifs at h
  · rcases hseed : tables.seedEnrollment consumption.invite with _ | seed
    · rw [hseed] at h
      cases h
      exact ⟨.refl primitives tables, rfl, hnothing⟩
    · rw [hseed] at h
      obtain ⟨hadvances, hscope, hgrants⟩ := issueInviteGrant_eq_ok primitives h
      exact ⟨hadvances, hscope, _, rfl, rfl, hgrants⟩
  · cases h
    exact ⟨.refl primitives tables, rfl, hnothing⟩

lemma assertRecipientInviteAuthorized_eq_ok {invite : CoordinatorInvite}
    {recipient : InviteRecipient} {subjects : ParticipantSubjects} {u : Unit}
    (h : tables.assertRecipientInviteAuthorized primitives invite recipient subjects = .ok u) :
    tables.participantsRevoked (tables.participantSubjects primitives invite recipient) = false ∧
      (tables.enrollment invite.groupId recipient.deviceId).any (enrollmentConflicts recipient) =
        false ∧ tables.participantsRevoked subjects = false ∧
      tables.subjectOwned subjects.deviceId subjects.keyId = false := by
  obtain ⟨_, hparticipants, h⟩ := exists_of_bind_eq_ok h
  obtain ⟨_, hrevoked, howned⟩ := exists_of_bind_eq_ok h
  obtain ⟨_, hconflict, hcurrent⟩ := exists_of_bind_eq_ok hparticipants
  exact ⟨Bool.eq_false_of_not_eq_true (not_of_rejectIf_eq_ok hcurrent),
    Bool.eq_false_of_not_eq_true (not_of_rejectIf_eq_ok hconflict),
    Bool.eq_false_of_not_eq_true (not_of_rejectIf_eq_ok hrevoked),
    Bool.eq_false_of_not_eq_true (not_of_rejectIf_eq_ok howned)⟩

lemma finishRecipientInvite_eq_ok {consumption : RecipientConsumption} {changed retained : Bool}
    {grant : Option CoordinatorBootstrapGrant} {acceptance : InviteAcceptance}
    (h : tables.finishRecipientInvite primitives consumption changed retained grant =
      .ok acceptance) :
    acceptance.accepted = changed ∧
      tables.invites.byId consumption.invite.inviteId = some acceptance.invite ∧
      tables.assertRecipientInviteAuthorized primitives acceptance.invite
        consumption.opts.recipient consumption.subjects = .ok () := by
  unfold finishRecipientInvite at h
  rcases hsaved : tables.invites.byId consumption.invite.inviteId with _ | saved
  · rw [hsaved] at h
    cases h
  · rw [hsaved] at h
    obtain ⟨_, hauthorized, h⟩ := exists_of_bind_eq_ok h
    obtain ⟨_, -, h⟩ := exists_of_bind_eq_ok h
    cases h
    exact ⟨rfl, rfl, hauthorized⟩

end AdmissionTables

end Codemem

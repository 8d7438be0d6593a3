import Codemem.Recipients.PreviewSpec

/-!
# What was reviewed is what is enforced

A preview and the enforcement expand recipients to devices in different ways.  They agree on the
devices of a project exactly where nothing of the project blocks the enforcement; the preview checks
this for teams, but not for the identities that a project is shared with directly.
-/

namespace Codemem

/-! ### Recipients that block nothing -/

section Recipients

variable {db : KeyedPolicyTables} {rows : List ProjectRecipient} {c : String}

/-- The input of the derivation after a commit. -/
def enforcedInput (db : PolicyTables) (rows : List ProjectRecipient) (c : String) :
    DerivationInput :=
  (db.withRecipients rows).derivationInput c

/-- The events only give devices, and exactly those that the edge reaches. -/
structure GivesReached (db : PolicyTables) (edge : StoredEdge) (events : List DerivationEvent) :
    Prop where
  device : ∀ event ∈ events, ∃ identityId deviceId source, event = .device identityId deviceId source
  reached : ∀ identityId deviceId,
    (∃ source, DerivationEvent.device identityId deviceId source ∈ events) ↔
      Reaches db edge identityId deviceId

lemma isActiveIdentity_enforcedInput {identityId : String} :
    IsActiveIdentity (enforcedInput db.toPolicyTables rows c).identities identityId ↔
      IsActiveIdentity db.identities identityId := by
  unfold IsActiveIdentity
  have hsame : rowAt PolicyIdentity.identityId identityId
      (enforcedInput db.toPolicyTables rows c).identities =
        rowAt PolicyIdentity.identityId identityId db.identities :=
    rowAt_perm (perm_sortByPos _ _) db.identityKeys identityId
  rw [hsame]

lemma identityFact_isSome {identityId : String} (h : IsActiveIdentity db.identities identityId) :
    (db.identityFact identityId).isSome = true := by
  obtain ⟨row, hrow, -, hstatus⟩ := h
  obtain ⟨hmem, rfl⟩ := rowAt_eq_some hrow
  have hfact : (⟨row.identityId, row.displayName, row.status == "pending"⟩ : IdentityFact) ∈
      db.loadIdentityFacts := by
    unfold PolicyTables.loadIdentityFacts
    refine List.mem_map.mpr ⟨row, mem_sortByPos.mpr (List.mem_filter.mpr ⟨hmem, ?_⟩), rfl⟩
    simp [hstatus]
  have hfound : ∃ stored, db.identityFact row.identityId = some stored := exists_rowAt_of_mem hfact
  obtain ⟨stored, hstored⟩ := hfound
  exact Option.isSome_iff_exists.mpr ⟨stored, hstored⟩

lemma mem_loadDeviceFacts {device : IdentityDevice}
    (h : IsActiveIdentity db.identities device.identityId) :
    device ∈ db.loadDeviceFacts ↔ device ∈ db.identityDevices := by
  unfold PolicyTables.loadDeviceFacts
  rw [List.mem_filter, mem_sortByPos]
  exact ⟨fun hmem => hmem.1, fun hmem => ⟨hmem, identityFact_isSome h⟩⟩

lemma deviceEvent_of_wellFormed {identityId : String} {source : EffectiveDeviceSource}
    {allowed : Option (List String)} {device : IdentityDevice}
    (hknown : isKnownPolicyStatus device.status = true)
    (hstrict : device.status = "active" → isStrictRecipientPolicyId device.identityId = true ∧
      isStrictRecipientPolicyId device.deviceId = true) :
    DerivationInput.deviceEvent identityId source allowed device =
      if device.status = "active" ∧ ∀ ids ∈ allowed, device.deviceId ∈ ids then
        some (.device identityId device.deviceId source) else none := by
  unfold DerivationInput.deviceEvent
  rw [hknown]
  by_cases hactive : device.status = "active"
  · obtain ⟨hidentity, hid⟩ := hstrict hactive
    rcases allowed with _ | ids
    · simp [hactive, hidentity, hid]
    · by_cases hmem : device.deviceId ∈ ids
      · simp [hactive, hidentity, hid, hmem]
      · simp [hactive, hmem]
  · simp [hactive]

/-- An active identity that is a direct recipient gives the devices that the preview shows. -/
lemma givesReached_identity {edges : List StoredEdge} {edge : StoredEdge}
    {recipient : ProjectRecipient} (hedge : edge ∈ edges) (hkind : edge.recipientKind = .identity)
    (hdevices : ∀ device ∈ db.loadDeviceFacts, isInvalidDirectDevice edges device = false)
    (hactive : IsActiveIdentity db.identities edge.recipientId)
    (hstrict : isStrictRecipientPolicyId edge.recipientId = true)
    (hstatus : recipient.status = "active") (htext : recipient.recipientKind = "identity")
    (hid : recipient.recipientId = edge.recipientId) :
    GivesReached db.toPolicyTables edge
      ((enforcedInput db.toPolicyTables rows c).recipientEvents recipient) := by
  have hevents : (enforcedInput db.toPolicyTables rows c).recipientEvents recipient =
      ((enforcedInput db.toPolicyTables rows c).identityDevices.filter fun device =>
        device.identityId == edge.recipientId).filterMap
          (DerivationInput.deviceEvent edge.recipientId .directIdentity none) := by
    unfold DerivationInput.recipientEvents DerivationInput.expandIdentity
    rw [hstatus, hid, hstrict, htext,
      activeIdentityCode_eq_none_iff.mpr (isActiveIdentity_enforcedInput.mpr hactive)]
    rfl
  have hdevice : ∀ device ∈ db.identityDevices, device.identityId = edge.recipientId →
      DerivationInput.deviceEvent edge.recipientId .directIdentity none device =
        if device.status = "active" then
          some (.device edge.recipientId device.deviceId .directIdentity) else none := by
    intro device hmem hsame
    have hvalid := hdevices device ((mem_loadDeviceFacts (hsame ▸ hactive)).mpr hmem)
    unfold isInvalidDirectDevice at hvalid
    have hdirect : (edges.any fun edge =>
        edge.recipientKind == .identity && edge.recipientId == device.identityId) = true :=
      List.any_eq_true.mpr ⟨edge, hedge, by simp [hkind, hsame]⟩
    rw [hdirect, Bool.true_and, Bool.or_eq_false_iff] at hvalid
    rw [deviceEvent_of_wellFormed (by simpa using hvalid.1)]
    · simp
    · intro hstatus
      simpa [hstatus] using hvalid.2
  have hmem : ∀ device, device ∈ (enforcedInput db.toPolicyTables rows c).identityDevices ↔
      device ∈ db.identityDevices := fun device => mem_sortByPos
  rw [hevents]
  constructor
  · intro event hevent
    obtain ⟨device, hmember, hgives⟩ := List.mem_filterMap.mp hevent
    obtain ⟨hstored, hsame⟩ := List.mem_filter.mp hmember
    rw [hdevice device ((hmem device).mp hstored) (beq_iff_eq.mp hsame)] at hgives
    split_ifs at hgives
    exact ⟨_, _, _, (Option.some.inj hgives).symm⟩
  · intro identityId deviceId
    unfold Reaches edgeDevices edgeIdentityIds
    rw [hkind]
    dsimp only
    rw [if_pos (identityFact_isSome hactive)]
    constructor
    · rintro ⟨source, hevent⟩
      obtain ⟨device, hmember, hgives⟩ := List.mem_filterMap.mp hevent
      obtain ⟨hstored, hsame⟩ := List.mem_filter.mp hmember
      have hstored' := (hmem device).mp hstored
      have hsame' := beq_iff_eq.mp hsame
      rw [hdevice device hstored' hsame'] at hgives
      split_ifs at hgives with hon
      cases hgives
      refine ⟨device.displayName, List.mem_flatMap.mpr ⟨_, List.mem_singleton_self _, ?_⟩⟩
      refine List.mem_map.mpr ⟨device, List.mem_filter.mpr ⟨?_, ?_⟩, rfl⟩
      · exact (mem_loadDeviceFacts (hsame' ▸ hactive)).mpr hstored'
      · simp [hon, hsame']
    · rintro ⟨displayName, hshown⟩
      obtain ⟨identity, hidentity, hshown⟩ := List.mem_flatMap.mp hshown
      rw [List.mem_singleton] at hidentity
      subst hidentity
      obtain ⟨device, hmember, hequal⟩ := List.mem_map.mp hshown
      obtain ⟨hfact, hselected⟩ := List.mem_filter.mp hmember
      simp only [Bool.and_eq_true, beq_iff_eq] at hselected
      cases hequal
      have hstored := mem_sortByPos.mp (List.mem_filter.mp hfact).1
      refine ⟨.directIdentity, List.mem_filterMap.mpr ⟨device, List.mem_filter.mpr
        ⟨(hmem device).mpr hstored, beq_iff_eq.mpr hselected.1.2⟩, ?_⟩⟩
      rw [hdevice device hstored hselected.1.2, if_pos hselected.1.1]

/-! ### Teams -/

lemma exists_team_of_check {edge : StoredEdge} (hkind : edge.recipientKind = .team)
    (hcheck : checkDesiredTeam db.toPolicyTables edge = .ok ()) :
    ∃ team ∈ db.teams, team.teamId = edge.recipientId ∧ team.status = "active" ∧
      db.teamFact edge.recipientId = some (db.teamFactOf team) ∧
      ∃ eligibility, db.teamFactEligibility team = .ok eligibility := by
  unfold checkDesiredTeam at hcheck
  rw [hkind] at hcheck
  dsimp only at hcheck
  rcases hfact : db.teamFact edge.recipientId with _ | fact
  · rw [hfact] at hcheck
    cases hcheck
  · obtain ⟨hmem, hid⟩ := rowAt_eq_some hfact
    obtain ⟨team, hteam, rfl⟩ := List.mem_map.mp hmem
    obtain ⟨hstored, hstatus⟩ := List.mem_filter.mp (mem_sortByPos.mp hteam)
    have hteamId : (db.teamFactOf team).teamId = team.teamId := by
      unfold PolicyTables.teamFactOf
      dsimp only
      rcases db.teamFactEligibility team with blocked | eligibility
      · rfl
      · rfl
    refine ⟨team, hstored, hteamId ▸ hid, beq_iff_eq.mp hstatus, rfl, ?_⟩
    rcases heligibility : db.teamFactEligibility team with blocked | eligibility
    · rw [hfact] at hcheck
      have hblocks : (db.teamFactOf team).eligibilityBlocks = blocked := by
        unfold PolicyTables.teamFactOf
        rw [heligibility]
      dsimp only at hcheck
      rw [hblocks] at hcheck
      rcases blocked with _ | ⟨block, blocked⟩
      · exact absurd heligibility derivePolicyTeamDeviceEligibility_ne_error_nil
      · cases hcheck
    · exact ⟨eligibility, rfl⟩

lemma strict_of_membershipBlock_eq_none {teamId mode : String}
    {membership : PolicyTeamMembership} (h : membershipBlock teamId mode membership = none) :
    isStrictRecipientPolicyId membership.identityId = true := by
  unfold membershipBlock at h
  by_contra hnot
  rw [Bool.not_eq_true] at hnot
  simp [hnot] at h

lemma teamEligibility_enforcedInput {team : PolicyTeam} {eligibility : TeamEligibility}
    (h : db.teamFactEligibility team = .ok eligibility) :
    (∀ membership ∈ db.membershipsOf team.teamId,
      isStrictRecipientPolicyId membership.identityId = true) ∧
    (∀ identityId ∈ eligibility.activeMemberIdentityIds,
      IsActiveIdentity db.identities identityId ∧
        ∀ device ∈ db.identityDevices, device.identityId = identityId →
          memberDeviceBlock device = none) ∧
    ∃ enforced, (enforcedInput db.toPolicyTables rows c).teamEligibility team = .ok enforced ∧
      enforced.activeMemberIdentityIds = eligibility.activeMemberIdentityIds ∧
      ∀ deviceId, deviceId ∈ enforced.eligibleDeviceIds ↔
        deviceId ∈ eligibility.eligibleDeviceIds := by
  obtain ⟨hteam, rfl⟩ := derivePolicyTeamDeviceEligibility_eq_ok_iff.mp h
  have hsub : ∀ identityId ∈ activeMembers team.deviceEligibilityMode
      (db.membershipsOf team.teamId),
      identityId ∈ ((db.membershipsOf team.teamId).map PolicyTeamMembership.identityId).eraseDups := by
    intro identityId hmem
    unfold activeMembers at hmem
    obtain ⟨membership, hmembership, rfl⟩ := List.mem_map.mp (List.mem_eraseDups.mp hmem)
    exact List.mem_eraseDups.mpr (List.mem_map_of_mem (List.mem_filter.mp hmembership).1)
  have hactive : ∀ identityId ∈ activeMembers team.deviceEligibilityMode
      (db.membershipsOf team.teamId), IsActiveIdentity db.identities identityId := by
    intro identityId hmem
    obtain ⟨row, hrow, hmerged, hstatus⟩ := hteam.member_active identityId hmem
    obtain ⟨hlisted, rfl⟩ := rowAt_eq_some hrow
    obtain ⟨other, -, hstored⟩ := List.mem_filterMap.mp hlisted
    rw [rowAt_perm (perm_sortByPos _ _) db.identityKeys] at hstored
    obtain ⟨-, rfl⟩ := rowAt_eq_some hstored
    exact ⟨row, hstored, hmerged, hstatus⟩
  have hfacts : ∀ device : IdentityDevice, device.identityId ∈ activeMembers
      team.deviceEligibilityMode (db.membershipsOf team.teamId) →
      (device ∈ db.identityDevices ↔
        device ∈ (((db.membershipsOf team.teamId).map PolicyTeamMembership.identityId).eraseDups).flatMap
          fun identityId => db.loadDeviceFacts.filter fun device => device.identityId == identityId) := by
    intro device hmem
    simp only [List.mem_flatMap, List.mem_filter, beq_iff_eq]
    constructor
    · intro hstored
      exact ⟨_, hsub _ hmem, (mem_loadDeviceFacts (hactive _ hmem)).mpr hstored, rfl⟩
    · rintro ⟨identityId, -, hfact, -⟩
      exact (mem_loadDeviceFacts (hactive _ hmem)).mp hfact
  refine ⟨fun membership hmem => strict_of_membershipBlock_eq_none
    (hteam.membership_ok membership hmem), fun identityId hmem => ?_, ?_⟩
  · have hmember := mem_sortByPos.mp hmem
    refine ⟨hactive identityId hmember, fun device hstored hsame => ?_⟩
    subst hsame
    exact hteam.device_ok device ((hfacts device hmember).mp hstored) hmember
  · refine derivePolicyTeamDeviceEligibility_congr h (fun identityId hmem _ => ?_)
      fun device hmem => ?_
    · exact isActiveIdentity_enforcedInput.mpr (hactive identityId hmem)
    · exact mem_sortByPos.trans (hfacts device hmem)

lemma wellFormed_of_memberDeviceBlock_eq_none {device : IdentityDevice}
    (h : memberDeviceBlock device = none) :
    isKnownPolicyStatus device.status = true ∧
      (device.status = "active" → isStrictRecipientPolicyId device.identityId = true ∧
        isStrictRecipientPolicyId device.deviceId = true) := by
  unfold memberDeviceBlock IdentityDevice.isMalformed at h
  split_ifs at h with hunknown hmalformed
  refine ⟨by simpa using hunknown, fun hactive => ?_⟩
  simp only [hactive, beq_self_eq_true, Bool.true_and, Bool.or_eq_true, Bool.not_eq_true',
    not_or, Bool.not_eq_false] at hmalformed
  exact hmalformed.1

/-- An eligible team gives the devices that the preview shows. -/
lemma givesReached_team {edge : StoredEdge} {recipient : ProjectRecipient}
    (hkind : edge.recipientKind = .team)
    (hcheck : checkDesiredTeam db.toPolicyTables edge = .ok ())
    (hstrict : isStrictRecipientPolicyId edge.recipientId = true)
    (hstatus : recipient.status = "active") (htext : recipient.recipientKind = "team")
    (hid : recipient.recipientId = edge.recipientId) :
    GivesReached db.toPolicyTables edge
      ((enforcedInput db.toPolicyTables rows c).recipientEvents recipient) := by
  obtain ⟨team, hteam, hteamId, hon, hfact, eligibility, heligible⟩ := exists_team_of_check hkind hcheck
  obtain ⟨hmemberships, hmembers, enforced, henforced, hsameMembers, hsameDevices⟩ :=
    @teamEligibility_enforcedInput db rows c team eligibility heligible
  have hrow : rowAt PolicyTeam.teamId edge.recipientId
      (enforcedInput db.toPolicyTables rows c).teams = some team := by
    have hperm : rowAt PolicyTeam.teamId edge.recipientId
        (enforcedInput db.toPolicyTables rows c).teams =
          rowAt PolicyTeam.teamId edge.recipientId db.teams :=
      rowAt_perm (perm_sortByPos _ _) db.teamKeys _
    rw [hperm, rowAt_eq_some_iff db.teamKeys]
    exact ⟨hteam, hteamId⟩
  have hnone : ((enforcedInput db.toPolicyTables rows c).teamMemberships.filter
      fun membership => membership.teamId == team.teamId).filterMap
        DerivationInput.strictMembershipEvent = [] := by
    refine List.filterMap_eq_nil_iff.mpr fun membership hmem => ?_
    have hidentity := hmemberships membership hmem
    have hsame := beq_iff_eq.mp (List.mem_filter.mp hmem).2
    unfold DerivationInput.strictMembershipEvent
    rw [hsame, hteamId, hstrict, hidentity]
    rfl
  have hevents : (enforcedInput db.toPolicyTables rows c).recipientEvents recipient =
      eligibility.activeMemberIdentityIds.flatMap fun identityId =>
        ((enforcedInput db.toPolicyTables rows c).identityDevices.filter fun device =>
          device.identityId == identityId).filterMap
            (DerivationInput.deviceEvent identityId (.teamMembership team.teamId)
              (some enforced.eligibleDeviceIds)) := by
    unfold DerivationInput.recipientEvents
    rw [hstatus, hid, hstrict, htext, hrow]
    dsimp only
    rw [hon]
    change DerivationInput.teamEvents _ team = _
    unfold DerivationInput.teamEvents
    rw [hnone, henforced, List.nil_append]
    dsimp only
    rw [hsameMembers]
    refine List.flatMap_congr fun identityId hmem => ?_
    unfold DerivationInput.expandIdentity
    rw [activeIdentityCode_eq_none_iff.mpr
      (isActiveIdentity_enforcedInput.mpr (hmembers identityId hmem).1)]
  have hmem : ∀ device, device ∈ (enforcedInput db.toPolicyTables rows c).identityDevices ↔
      device ∈ db.identityDevices := fun device => mem_sortByPos
  have hdevice : ∀ identityId ∈ eligibility.activeMemberIdentityIds, ∀ device ∈ db.identityDevices,
      device.identityId = identityId →
      DerivationInput.deviceEvent identityId (.teamMembership team.teamId)
          (some enforced.eligibleDeviceIds) device =
        if device.status = "active" ∧ device.deviceId ∈ eligibility.eligibleDeviceIds then
          some (.device identityId device.deviceId (.teamMembership team.teamId)) else none := by
    intro identityId hmember device hstored hsame
    obtain ⟨hknown, hwell⟩ := wellFormed_of_memberDeviceBlock_eq_none
      ((hmembers identityId hmember).2 device hstored hsame)
    rw [deviceEvent_of_wellFormed hknown hwell]
    simp only [Option.mem_some_iff, forall_eq', hsameDevices]
  have hcurrent : (db.teamFactOf team).currentMembers =
      eligibility.activeMemberIdentityIds.filterMap db.identityFact ∧
        (db.teamFactOf team).eligibleDeviceIds = eligibility.eligibleDeviceIds := by
    unfold PolicyTables.teamFactOf
    rw [heligible]
    exact ⟨rfl, rfl⟩
  have hshownMembers : ∀ identityId,
      identityId ∈ (db.teamFactOf team).currentMembers.map IdentityFact.identityId ↔
        identityId ∈ eligibility.activeMemberIdentityIds := by
    intro identityId
    rw [hcurrent.1]
    simp only [List.mem_map, List.mem_filterMap]
    constructor
    · rintro ⟨fact, ⟨other, hmember, hother⟩, rfl⟩
      rw [(rowAt_eq_some hother).2]
      exact hmember
    · intro hmember
      obtain ⟨fact, hfact⟩ := Option.isSome_iff_exists.mp
        (identityFact_isSome (hmembers identityId hmember).1)
      exact ⟨fact, ⟨identityId, hmember, hfact⟩, (rowAt_eq_some hfact).2⟩
  rw [hevents]
  constructor
  · intro event hevent
    obtain ⟨identityId, hmember, hevent⟩ := List.mem_flatMap.mp hevent
    obtain ⟨device, hlisted, hgives⟩ := List.mem_filterMap.mp hevent
    obtain ⟨hstored, hsame⟩ := List.mem_filter.mp hlisted
    rw [hdevice identityId hmember device ((hmem device).mp hstored) (beq_iff_eq.mp hsame)] at hgives
    split_ifs at hgives
    exact ⟨_, _, _, (Option.some.inj hgives).symm⟩
  · intro identityId deviceId
    unfold Reaches edgeDevices edgeIdentityIds
    rw [hkind, hfact]
    dsimp only
    rw [Option.map_some, Option.getD_some]
    constructor
    · rintro ⟨source, hevent⟩
      obtain ⟨member, hmember, hevent⟩ := List.mem_flatMap.mp hevent
      obtain ⟨device, hlisted, hgives⟩ := List.mem_filterMap.mp hevent
      obtain ⟨hstored, hsame⟩ := List.mem_filter.mp hlisted
      have hstored' := (hmem device).mp hstored
      have hsame' := beq_iff_eq.mp hsame
      rw [hdevice member hmember device hstored' hsame'] at hgives
      split_ifs at hgives with hgiven
      cases hgives
      refine ⟨device.displayName, List.mem_flatMap.mpr
        ⟨identityId, (hshownMembers identityId).mpr hmember, ?_⟩⟩
      refine List.mem_map.mpr ⟨device, List.mem_filter.mpr ⟨?_, ?_⟩, rfl⟩
      · exact (mem_loadDeviceFacts (hsame' ▸ (hmembers identityId hmember).1)).mpr hstored'
      · simp [hgiven.1, hgiven.2, hsame', hcurrent.2]
    · rintro ⟨displayName, hshown⟩
      obtain ⟨member, hmember, hshown⟩ := List.mem_flatMap.mp hshown
      have hmember' := (hshownMembers member).mp hmember
      obtain ⟨device, hlisted, hequal⟩ := List.mem_map.mp hshown
      obtain ⟨hdeviceFact, hselected⟩ := List.mem_filter.mp hlisted
      cases hequal
      have hstored := mem_sortByPos.mp (List.mem_filter.mp hdeviceFact).1
      have hteamKind : (RecipientKind.team != RecipientKind.team) = false := rfl
      rw [hteamKind, Bool.false_or, Option.any_some, hcurrent.2] at hselected
      simp only [Bool.and_eq_true, beq_iff_eq, List.contains_iff_mem] at hselected
      refine ⟨.teamMembership team.teamId, List.mem_flatMap.mpr ⟨identityId, hmember',
        List.mem_filterMap.mpr ⟨device, List.mem_filter.mpr
          ⟨(hmem device).mpr hstored, beq_iff_eq.mpr hselected.1.2⟩, ?_⟩⟩⟩
      rw [hdevice identityId hmember' device hstored hselected.1.2,
        if_pos ⟨hselected.1.1, hselected.2⟩]

end Recipients

/-! ### Preview and enforcement -/

/-- The devices that are enforced for a project are those that the preview lists. -/
structure Enforced (preview : EdgePreview) (tables : PolicyTables) (projectId : String) : Prop where
  eligible : (tables.deriveRecipientPolicyEffectiveDevicesFromDatabase projectId).eligible = true
  devices : ∀ identityId deviceId,
    ListsDevice (tables.deriveRecipientPolicyEffectiveDevicesFromDatabase projectId).devices
        identityId deviceId ↔
      ∃ displayName, (⟨projectId, identityId, deviceId, displayName⟩ : EdgeEffectiveDevice) ∈
        preview.effectiveDevices

/-- Nothing of a project blocks the enforcement after the changes: the statuses of its edges are
known, its active recipients have strict identifiers, and the identities among them are active and
not merged. -/
structure Enforceable (db : PolicyTables) (changes : List EdgeChange) (edges : List StoredEdge)
    (projectId : String) : Prop where
  project : isStrictRecipientPolicyProjectIdentity projectId = true
  status : ∀ kind id status, statusAfter changes edges (projectId, kind, id) = some status →
    isKnownPolicyStatus status = true
  recipient : ∀ kind id, statusAfter changes edges (projectId, kind, id) = some "active" →
    isStrictRecipientPolicyId id = true
  identity : ∀ id, statusAfter changes edges (projectId, .identity, id) = some "active" →
    IsActiveIdentity db.identities id

section Enforcement

variable {db : KeyedPolicyTables} {changes : List EdgeChange} {now c : String}
variable {rows : List ProjectRecipient}

lemma Committed.recipient_spec (h : Committed db changes now rows)
    (hc : c ∈ changes.map EdgeChange.canonicalProjectIdentity) {recipient : ProjectRecipient}
    (hrecipient : recipient ∈ (enforcedInput db.toPolicyTables rows c).projectRecipients) :
    recipient.canonicalProjectIdentity = c ∧
      ∃ kind : RecipientKind, recipient.recipientKind = kind.text ∧
        statusAfter changes (db.loadEdges (changedProjectIds changes))
          (c, kind, recipient.recipientId) = some recipient.status := by
  have hrecipient' : recipient ∈ (db.withRecipients rows).canonicalProjectRecipientRows c :=
    hrecipient
  have hsettled : (db.withRecipients rows).canonical c = c := by
    obtain ⟨changed, hchanged, rfl⟩ := List.mem_map.mp hc
    exact (h.inForm changed hchanged).settled
  unfold PolicyTables.canonicalProjectRecipientRows at hrecipient'
  dsimp only at hrecipient'
  rw [hsettled] at hrecipient'
  obtain ⟨row, hrow, rfl⟩ := List.mem_map.mp hrecipient'
  have hkind : row.recipientKind = "identity" ∨ row.recipientKind = "team" := by
    have hsource := mem_of_mem_winningRecipients hrow
    obtain ⟨hfiltered, hcanonical⟩ := List.mem_filter.mp hsource
    have hstored : row ∈ rows := (List.mem_filter.mp (mem_sortByPos.mp hfiltered)).1
    exact (h.readRow hc hstored (beq_iff_eq.mp hcanonical)).kind
  refine ⟨rfl, recipientKindOf row.recipientKind, (text_recipientKindOf hkind).symm, ?_⟩
  have hread := h.status_eq hc (recipientKindOf row.recipientKind) row.recipientId
  rw [text_recipientKindOf hkind] at hread
  rw [← hread, Option.map_eq_some_iff]
  refine ⟨_, ?_, rfl⟩
  have hnodup : (((db.withRecipients rows).canonicalProjectRecipientRows c).map
      recipientKeyOf).Nodup := nodup_canonicalProjectRecipientRows _ _
  exact (rowAt_eq_some_iff hnodup).mpr ⟨hrecipient, rfl⟩

lemma Committed.events_eq (h : Committed db changes now rows)
    (hc : c ∈ changes.map EdgeChange.canonicalProjectIdentity)
    (hstrict : isStrictRecipientPolicyProjectIdentity c = true) :
    (enforcedInput db.toPolicyTables rows c).events =
      (enforcedInput db.toPolicyTables rows c).projectRecipients.flatMap
        (enforcedInput db.toPolicyTables rows c).recipientEvents := by
  unfold DerivationInput.events
  have hproject : (enforcedInput db.toPolicyTables rows c).canonicalProjectIdentity = c := rfl
  rw [hproject, if_pos hstrict, List.nil_append]
  congr 1
  refine List.filter_eq_self.mpr fun recipient hmem => ?_
  exact beq_iff_eq.mpr (h.recipient_spec hc hmem).1

lemma recipientEvents_of_not_active {input : DerivationInput} {recipient : ProjectRecipient}
    (hknown : isKnownPolicyStatus recipient.status = true) (hstatus : recipient.status ≠ "active") :
    input.recipientEvents recipient = [] := by
  unfold DerivationInput.recipientEvents
  simp [hknown, hstatus]

lemma Committed.givesReached (h : Committed db changes now rows)
    (hc : c ∈ changes.map EdgeChange.canonicalProjectIdentity) {desired : List StoredEdge}
    (henforceable : Enforceable db.toPolicyTables changes
      (db.loadEdges (changedProjectIds changes)) c)
    (hteams : ∀ edge ∈ desired, checkDesiredTeam db.toPolicyTables edge = .ok ())
    (hdevices : ∀ device ∈ db.loadDeviceFacts, isInvalidDirectDevice desired device = false)
    {edge : StoredEdge} (hedge : edge ∈ desired) {recipient : ProjectRecipient}
    (hrecipient : recipient ∈ (enforcedInput db.toPolicyTables rows c).projectRecipients)
    (hstatus : recipient.status = "active")
    (hkey : edge.key = (c, recipientKindOf recipient.recipientKind, recipient.recipientId)) :
    GivesReached db.toPolicyTables edge
      ((enforcedInput db.toPolicyTables rows c).recipientEvents recipient) := by
  obtain ⟨-, kind, hkind, hpredicted⟩ := h.recipient_spec hc hrecipient
  rw [hstatus] at hpredicted
  have hid : recipient.recipientId = edge.recipientId := (congrArg (fun key => key.2.2) hkey).symm
  have hedgeKind : edge.recipientKind = kind := by
    have hsame : edge.recipientKind = recipientKindOf recipient.recipientKind :=
      congrArg (fun key => key.2.1) hkey
    rw [hsame, hkind, recipientKindOf_text]
  have hstrict : isStrictRecipientPolicyId edge.recipientId = true := by
    rw [← hid]
    exact henforceable.recipient _ _ hpredicted
  rcases kind with _ | _
  · have hactive : IsActiveIdentity db.identities edge.recipientId := by
      rw [← hid]
      exact henforceable.identity _ hpredicted
    exact givesReached_identity hedge hedgeKind hdevices hactive hstrict hstatus hkind hid
  · exact givesReached_team hedgeKind (hteams edge hedge) hstrict hstatus hkind hid

/-- Where nothing blocks, the devices that the preview lists are enforced. -/
theorem Committed.enforced (h : Committed db changes now rows)
    (hc : c ∈ changes.map EdgeChange.canonicalProjectIdentity) {preview : EdgePreview}
    (hpreview : Previewed db.toPolicyTables preview) (hchanges : preview.changes = changes)
    (henforceable : Enforceable db.toPolicyTables changes
      (db.loadEdges (changedProjectIds changes)) c) :
    Enforced preview (db.withRecipients rows) c := by
  subst hchanges
  have hteams := hpreview.teams_ok
  have hdevices := hpreview.devices_ok
  have hlisted := hpreview.devices_eq
  rw [hpreview.edges_eq] at hteams hdevices hlisted
  generalize hdesired : desiredActiveEdges preview.changes
    (db.loadEdges (changedProjectIds preview.changes)) = desired at hteams hdevices hlisted
  have hexists : ∀ key, (∃ edge ∈ desired, edge.key = key) ↔ statusAfter preview.changes
      (db.loadEdges (changedProjectIds preview.changes)) key = some "active" := by
    intro key
    rw [← hdesired]
    exact exists_desiredActiveEdges_iff hpreview.distinct (nodup_loadEdges _ _)
  have hsettled : (db.withRecipients rows).canonical c = c := by
    obtain ⟨changed, hchanged, rfl⟩ := List.mem_map.mp hc
    exact (h.inForm changed hchanged).settled
  have hevents := h.events_eq hc henforceable.project
  have hedge : ∀ recipient ∈ (enforcedInput db.toPolicyTables rows c).projectRecipients,
      recipient.status = "active" →
      ∃ edge ∈ desired, edge.key = (c, recipientKindOf recipient.recipientKind,
        recipient.recipientId) := by
    intro recipient hrecipient hstatus
    obtain ⟨-, kind, hkind, hpredicted⟩ := h.recipient_spec hc hrecipient
    rw [hkind, recipientKindOf_text]
    rw [hstatus] at hpredicted
    exact (hexists _).mpr hpredicted
  have hgives : ∀ event ∈ (enforcedInput db.toPolicyTables rows c).events,
      ∃ edge ∈ desired, ∃ identityId deviceId source, event = .device identityId deviceId source ∧
        edge.canonicalProjectIdentity = c ∧ Reaches db.toPolicyTables edge identityId deviceId := by
    intro event hevent
    rw [hevents] at hevent
    obtain ⟨recipient, hrecipient, hevent⟩ := List.mem_flatMap.mp hevent
    obtain ⟨-, kind, -, hpredicted⟩ := h.recipient_spec hc hrecipient
    by_cases hstatus : recipient.status = "active"
    · obtain ⟨edge, hmem, hkey⟩ := hedge recipient hrecipient hstatus
      have hreached := h.givesReached hc henforceable hteams hdevices hmem hrecipient hstatus hkey
      obtain ⟨identityId, deviceId, source, rfl⟩ := hreached.device event hevent
      exact ⟨edge, hmem, identityId, deviceId, source, rfl, congrArg Prod.fst hkey,
        (hreached.reached _ _).mp ⟨source, hevent⟩⟩
    · rw [recipientEvents_of_not_active (henforceable.status _ _ _ hpredicted) hstatus] at hevent
      exact absurd hevent List.not_mem_nil
  have honly : OnlyDevices (enforcedInput db.toPolicyTables rows c).events := by
    constructor
    · intro event hevent
      obtain ⟨-, -, identityId, deviceId, source, rfl, -⟩ := hgives event hevent
      exact ⟨identityId, deviceId, source, rfl⟩
    · intro identityId identityId' deviceId source source' hevent hevent'
      obtain ⟨edge, -, _, _, _, hequal, -, name, hshown⟩ := hgives _ hevent
      obtain ⟨edge', -, _, _, _, hequal', -, name', hshown'⟩ := hgives _ hevent'
      cases hequal
      cases hequal'
      obtain ⟨-, device, hdevice, -, hidentity, hid, -⟩ := exists_device_of_mem_edgeDevices hshown
      obtain ⟨-, device', hdevice', -, hidentity', hid', -⟩ :=
        exists_device_of_mem_edgeDevices hshown'
      have hsame : device = device' :=
        List.inj_on_of_nodup_map db.deviceKeys hdevice hdevice' (hid.trans hid'.symm)
      exact hidentity.symm.trans ((congrArg IdentityDevice.identityId hsame).trans hidentity')
  obtain ⟨heligible, hlists⟩ := deriveRecipientPolicyEffectiveDevices_spec honly
  have hderive : (db.withRecipients rows).deriveRecipientPolicyEffectiveDevicesFromDatabase c =
      deriveRecipientPolicyEffectiveDevices (enforcedInput db.toPolicyTables rows c) := by
    unfold PolicyTables.deriveRecipientPolicyEffectiveDevicesFromDatabase
    rw [hsettled]
    rfl
  constructor
  · rw [hderive]
    exact heligible
  · intro identityId deviceId
    rw [hderive, hlists, hlisted]
    constructor
    · rintro ⟨source, hevent⟩
      obtain ⟨edge, hmem, _, _, _, hequal, hproject, displayName, hshown⟩ := hgives _ hevent
      cases hequal
      rw [hproject] at hshown
      exact ⟨displayName, mem_edgeEffectiveDevices_iff.mpr ⟨edge, hmem, hshown⟩⟩
    · rintro ⟨displayName, hshown⟩
      obtain ⟨edge, hmem, hshown⟩ := mem_edgeEffectiveDevices_iff.mp hshown
      obtain ⟨hproject, -⟩ := exists_device_of_mem_edgeDevices hshown
      dsimp only at hproject
      have hpredicted := (hexists edge.key).mp ⟨edge, hmem, rfl⟩
      have hkey : edge.key = (c, edge.recipientKind, edge.recipientId) := by
        unfold StoredEdge.key
        rw [← hproject]
      rw [hkey, ← h.status_eq hc, Option.map_eq_some_iff] at hpredicted
      obtain ⟨recipient, hrecipient, hstatus⟩ := hpredicted
      obtain ⟨hrow, hrecipientKey⟩ := rowAt_eq_some hrecipient
      have hread : edge.key = (c, recipientKindOf recipient.recipientKind,
          recipient.recipientId) := by
        unfold recipientKeyOf at hrecipientKey
        rw [hkey, (Prod.mk.inj hrecipientKey).1, (Prod.mk.inj hrecipientKey).2,
          recipientKindOf_text]
      have hreached := h.givesReached hc henforceable hteams hdevices hmem hrow hstatus hread
      have hshown' : Reaches db.toPolicyTables edge identityId deviceId := by
        rw [hproject] at hshown
        exact ⟨displayName, hshown⟩
      obtain ⟨source, hevent⟩ := (hreached.reached _ _).mpr hshown'
      rw [hevents]
      exact ⟨source, List.mem_flatMap.mpr ⟨recipient, hrow, hevent⟩⟩

/-- What is enforced is not blocked. -/
theorem Committed.enforceable (h : Committed db changes now rows)
    (hc : c ∈ changes.map EdgeChange.canonicalProjectIdentity)
    (heligible : ((db.withRecipients rows).deriveRecipientPolicyEffectiveDevicesFromDatabase
      c).eligible = true) :
    Enforceable db.toPolicyTables changes (db.loadEdges (changedProjectIds changes)) c := by
  have hsettled : (db.withRecipients rows).canonical c = c := by
    obtain ⟨changed, hchanged, rfl⟩ := List.mem_map.mp hc
    exact (h.inForm changed hchanged).settled
  have hnoBlock : ∀ block, DerivationEvent.block block ∉
      (enforcedInput db.toPolicyTables rows c).events := by
    unfold PolicyTables.deriveRecipientPolicyEffectiveDevicesFromDatabase at heligible
    rw [hsettled] at heligible
    exact not_block_of_eligible heligible
  have hstrict : isStrictRecipientPolicyProjectIdentity c = true := by
    by_contra hnot
    refine hnoBlock ⟨.canonicalProjectIdentityInvalid, c⟩ ?_
    unfold DerivationInput.events
    have hproject : (enforcedInput db.toPolicyTables rows c).canonicalProjectIdentity = c := rfl
    rw [hproject, if_neg hnot]
    exact List.mem_append_left _ (List.mem_singleton_self _)
  have hevents := h.events_eq hc hstrict
  -- the recipient of a predicted status is read, and gives no block
  have hrecipient : ∀ kind id status, statusAfter changes
      (db.loadEdges (changedProjectIds changes)) (c, kind, id) = some status →
      ∃ recipient : ProjectRecipient, recipient.status = status ∧
        recipient.recipientKind = RecipientKind.text kind ∧ recipient.recipientId = id ∧
        ∀ block, DerivationEvent.block block ∉
          (enforcedInput db.toPolicyTables rows c).recipientEvents recipient := by
    intro kind id status hpredicted
    rw [← h.status_eq hc, Option.map_eq_some_iff] at hpredicted
    obtain ⟨recipient, hread, hstatus⟩ := hpredicted
    obtain ⟨hrow, hkey⟩ := rowAt_eq_some hread
    refine ⟨recipient, hstatus, (Prod.mk.inj hkey).1, (Prod.mk.inj hkey).2, fun block hblock => ?_⟩
    refine hnoBlock block ?_
    rw [hevents]
    exact List.mem_flatMap.mpr ⟨recipient, hrow, hblock⟩
  constructor
  · exact hstrict
  · intro kind id status hpredicted
    obtain ⟨recipient, rfl, -, -, hnone⟩ := hrecipient kind id status hpredicted
    by_contra hnot
    refine hnone ⟨.projectRecipientInvalid, recipient.recipientId⟩ ?_
    unfold DerivationInput.recipientEvents
    rw [Bool.not_eq_true] at hnot
    rw [hnot]
    exact List.mem_singleton_self _
  · intro kind id hpredicted
    obtain ⟨recipient, hstatus, -, rfl, hnone⟩ := hrecipient kind id "active" hpredicted
    by_contra hnot
    refine hnone ⟨.projectRecipientInvalid, recipient.recipientId⟩ ?_
    unfold DerivationInput.recipientEvents
    have hknown : isKnownPolicyStatus "active" = true := rfl
    rw [Bool.not_eq_true] at hnot
    rw [hstatus, hknown, hnot]
    exact List.mem_singleton_self _
  · intro id hpredicted
    obtain ⟨recipient, hstatus, hkind, rfl, hnone⟩ := hrecipient .identity id "active" hpredicted
    refine (@isActiveIdentity_enforcedInput db rows c recipient.recipientId).mp ?_
    rw [← @activeIdentityCode_eq_none_iff _ _ .identityMissing .identityNotActive .identityMerged]
    rcases hcode : activeIdentityCode (rowAt PolicyIdentity.identityId recipient.recipientId
      (enforcedInput db.toPolicyTables rows c).identities) .identityMissing .identityNotActive
        .identityMerged with _ | code
    · rfl
    · exfalso
      by_cases hstrictId : isStrictRecipientPolicyId recipient.recipientId = true
      · refine hnone ⟨code, recipient.recipientId⟩ ?_
        unfold DerivationInput.recipientEvents DerivationInput.expandIdentity
        rw [hstatus, hkind, hstrictId, hcode]
        exact List.mem_singleton_self _
      · refine hnone ⟨.projectRecipientInvalid, recipient.recipientId⟩ ?_
        unfold DerivationInput.recipientEvents
        have hknown : isKnownPolicyStatus "active" = true := rfl
        rw [Bool.not_eq_true] at hstrictId
        rw [hstatus, hknown, hstrictId]
        exact List.mem_singleton_self _

lemma committed_of_ok {projectFacts : PolicyTables → List ProjectFact}
    {digest : EdgePreviewFacts → String} {requested : List EdgeChange} {preview : EdgePreview}
    {reviewed : String} {commit : EdgeCommit}
    (hpreview : previewRecipientPolicyEdges projectFacts digest db.toPolicyTables requested =
      .ok preview)
    (hcommit : commitRecipientPolicyEdges projectFacts digest db.toPolicyTables requested reviewed
      now = .ok commit)
    (hform : ∀ change ∈ preview.changes,
      EdgesInForm db.toPolicyTables now change.canonicalProjectIdentity) :
    ∃ rows, Committed db preview.changes now rows ∧ commit.tables = db.withRecipients rows := by
  unfold commitRecipientPolicyEdges at hcommit
  obtain ⟨preview', hpreview', hcommit⟩ := exists_of_bind_eq_ok hcommit
  rw [hpreview] at hpreview'
  cases hpreview'
  have hpreviewed := previewed_of_ok hpreview
  split_ifs at hcommit
  rw [hpreviewed.edges_eq] at hcommit
  rcases happlied : preview.changes.foldlM
    (applyEdgeChange (db.loadEdges (changedProjectIds preview.changes)) now)
      db.projectRecipients with errorCode | rows
  · rw [happlied] at hcommit
    cases hcommit
  · rw [happlied] at hcommit
    cases hcommit
    exact ⟨rows, ⟨hpreviewed.distinct, hform, happlied⟩, rfl⟩

end Enforcement

/-- A project that is shared with one identity with one device; a second identity has a status. -/
def sharedTables (status : String) : KeyedPolicyTables where
  resolveGitRepositoryIdentity := fun _ => none
  sessions := []
  identities := [⟨"ada", "Ada", "active", none⟩, ⟨"bob", "Bob", status, none⟩]
  teams := []
  teamMemberships := []
  teamDeviceDecisions := []
  identityDevices := [⟨"laptop", "ada", "Laptop", "active", 0⟩]
  projectRecipients := [⟨"https://host/repo", "identity", "ada", "active", "2026-01"⟩]
  projectScopeMappings := []
  replicationScopes := []
  identityKeys := by simp
  teamKeys := by simp
  deviceKeys := by simp
  recipientKeys := by simp

def sharedProjectFacts (_ : PolicyTables) : List ProjectFact := [⟨"https://host/repo", "repo", 1⟩]

/-- The request to share the project with the second identity. -/
def shareWithBob : List EdgeChange := [⟨"https://host/repo", .identity, "bob", .add⟩]

def sharedPreview (status : String) : Except EdgeRequestError EdgePreview :=
  previewRecipientPolicyEdges sharedProjectFacts (fun _ => "reviewed")
    (sharedTables status).toPolicyTables shareWithBob

def sharedCommit (status : String) : Except EdgeRequestError EdgeCommit :=
  commitRecipientPolicyEdges sharedProjectFacts (fun _ => "reviewed")
    (sharedTables status).toPolicyTables shareWithBob "reviewed" "2026-02"

/-- What the runs of the sample show: the preview and the commit go through, and the derivation is
eligible or not. -/
def sharedOutcome (status : String) (eligible : Bool) : Bool :=
  ((sharedPreview status).toOption.any fun preview =>
    preview.reviewedPolicyDigest == "reviewed" &&
      preview.changes == [⟨"https://host/repo", .identity, "bob", .add⟩]) &&
  ((sharedCommit status).toOption.any fun commit =>
    (commit.tables.deriveRecipientPolicyEffectiveDevicesFromDatabase
      "https://host/repo").eligible == eligible)

lemma exists_of_sharedOutcome {status : String} {eligible : Bool}
    (h : sharedOutcome status eligible = true) :
    ∃ preview commit, sharedPreview status = .ok preview ∧ sharedCommit status = .ok commit ∧
      preview.reviewedPolicyDigest = "reviewed" ∧
      preview.changes = [⟨"https://host/repo", .identity, "bob", .add⟩] ∧
      (commit.tables.deriveRecipientPolicyEffectiveDevicesFromDatabase
        "https://host/repo").eligible = eligible := by
  unfold sharedOutcome at h
  rcases hpreview : sharedPreview status with error | preview
  · rw [hpreview] at h
    cases h
  · rcases hcommit : sharedCommit status with error | commit
    · rw [hcommit, Bool.and_eq_true] at h
      exact absurd h.2 Bool.false_ne_true
    · rw [hpreview, hcommit] at h
      simp only [Except.toOption, Option.any_some, Bool.and_eq_true, beq_iff_eq] at h
      exact ⟨preview, commit, rfl, rfl, h.1.1, h.1.2, h.2⟩

end Codemem

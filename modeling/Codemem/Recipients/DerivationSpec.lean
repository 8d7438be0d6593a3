import Codemem.Recipients.EffectiveDevices

/-!
# What a derivation yields

A team is eligible when none of its rows is refused.  A derivation in which nothing is blocked
yields exactly the devices that it came across.
-/

namespace Codemem

/-- The stored identity is active and not merged. -/
def IsActiveIdentity (identities : List PolicyIdentity) (identityId : String) : Prop :=
  ∃ row, rowAt PolicyIdentity.identityId identityId identities = some row ∧
    row.isMerged = false ∧ row.status = "active"

section Team

variable {teamId mode : String} {memberships : List PolicyTeamMembership}
variable {identities identities' : List PolicyIdentity} {devices devices' : List IdentityDevice}
variable {decisions : List PolicyTeamDeviceDecision} {eligibility : TeamEligibility}

lemma activeIdentityCode_eq_none_iff {identityId : String}
    {missing inactive merged : DerivationBlockCode} :
    activeIdentityCode (rowAt PolicyIdentity.identityId identityId identities) missing inactive
        merged = none ↔ IsActiveIdentity identities identityId := by
  unfold activeIdentityCode IsActiveIdentity
  rcases rowAt PolicyIdentity.identityId identityId identities with _ | row
  · simp
  · rcases hmerged : row.isMerged with _ | _
    · simp [hmerged]
    · simp [hmerged]

lemma memberBlock_eq_none_iff {identityId : String} :
    memberBlock identities identityId = none ↔ IsActiveIdentity identities identityId := by
  unfold memberBlock IsActiveIdentity
  rcases rowAt PolicyIdentity.identityId identityId identities with _ | row
  · simp
  · rcases hmerged : row.isMerged with _ | _
    · simp [hmerged]
    · simp [hmerged]

/-- No row of a team is refused. -/
structure EligibleTeam (teamId mode : String) (memberships : List PolicyTeamMembership)
    (identities : List PolicyIdentity) (devices : List IdentityDevice)
    (decisions : List PolicyTeamDeviceDecision) : Prop where
  mode_known : mode = "person_all_devices" ∨ mode = "reviewed_allowlist"
  membership_ok : ∀ membership ∈ memberships, membershipBlock teamId mode membership = none
  member_active : ∀ identityId ∈ activeMembers mode memberships,
    IsActiveIdentity identities identityId
  decisions_ok : (collectDeviceDecisions teamId mode decisions).2 = []
  device_ok : ∀ device ∈ devices, device.identityId ∈ activeMembers mode memberships →
    memberDeviceBlock device = none

/-- The eligibility of a team with no refused row. -/
def eligibleTeamResult (teamId mode : String) (memberships : List PolicyTeamMembership)
    (devices : List IdentityDevice) (decisions : List PolicyTeamDeviceDecision) :
    TeamEligibility :=
  ⟨sortByPos utf16 (activeMembers mode memberships), sortByPos utf16
    (((devices.filter fun device =>
      (activeMembers mode memberships).contains device.identityId).filter
        (isEligibleDevice mode (collectDeviceDecisions teamId mode decisions).1)).map
          IdentityDevice.deviceId).eraseDups⟩

/-- A team is eligible exactly when no row is refused. -/
lemma derivePolicyTeamDeviceEligibility_eq_ok_iff :
    derivePolicyTeamDeviceEligibility teamId mode memberships identities devices decisions =
        .ok eligibility ↔
      EligibleTeam teamId mode memberships identities devices decisions ∧
        eligibility = eligibleTeamResult teamId mode memberships devices decisions := by
  unfold derivePolicyTeamDeviceEligibility
  by_cases hmode : mode = "person_all_devices" ∨ mode = "reviewed_allowlist"
  · have hknown : (mode != "person_all_devices" && mode != "reviewed_allowlist") = false := by
      rcases hmode with rfl | rfl
      · rfl
      · decide
    rw [hknown, if_neg Bool.false_ne_true]
    dsimp only
    have hempty : (memberships.filterMap (membershipBlock teamId mode) ++
        (activeMembers mode memberships).filterMap (memberBlock identities) ++
        (collectDeviceDecisions teamId mode decisions).2 ++
        (devices.filter fun device =>
          (activeMembers mode memberships).contains device.identityId).filterMap
            memberDeviceBlock).isEmpty = true ↔
        EligibleTeam teamId mode memberships identities devices decisions := by
      rw [List.isEmpty_iff, List.append_eq_nil_iff, List.append_eq_nil_iff, List.append_eq_nil_iff,
        List.filterMap_eq_nil_iff, List.filterMap_eq_nil_iff, List.filterMap_eq_nil_iff]
      constructor
      · rintro ⟨⟨⟨hmemberships, hmembers⟩, hdecisions⟩, hdevices⟩
        refine ⟨hmode, hmemberships, fun id hid => memberBlock_eq_none_iff.mp (hmembers id hid),
          hdecisions, fun device hdevice hmember => hdevices device ?_⟩
        exact List.mem_filter.mpr ⟨hdevice, List.contains_iff_mem.mpr hmember⟩
      · intro h
        refine ⟨⟨⟨h.membership_ok, fun id hid => memberBlock_eq_none_iff.mpr
          (h.member_active id hid)⟩, h.decisions_ok⟩, fun device hdevice => ?_⟩
        obtain ⟨hmem, hmember⟩ := List.mem_filter.mp hdevice
        exact h.device_ok device hmem (List.contains_iff_mem.mp hmember)
    split_ifs with hblocks
    · rw [Except.ok.injEq]
      constructor
      · rintro rfl
        exact ⟨hempty.mp hblocks, rfl⟩
      · rintro ⟨-, rfl⟩
        rfl
    · constructor
      · intro h
        cases h
      · rintro ⟨h, -⟩
        exact absurd (hempty.mpr h) hblocks
  · have hunknown : (mode != "person_all_devices" && mode != "reviewed_allowlist") = true := by
      rw [not_or] at hmode
      simp [hmode.1, hmode.2]
    rw [hunknown, if_pos rfl]
    constructor
    · intro h
      cases h
    · rintro ⟨h, -⟩
      exact absurd h.mode_known hmode

lemma derivePolicyTeamDeviceEligibility_ne_error_nil :
    derivePolicyTeamDeviceEligibility teamId mode memberships identities devices decisions ≠
      .error [] := by
  unfold derivePolicyTeamDeviceEligibility
  split_ifs
  · intro h
    cases h
  · dsimp only
    split_ifs with hblocks
    · intro h
      cases h
    · intro h
      rw [Except.error.injEq, sortedBlocks, sortByPos_eq_nil_iff] at h
      refine hblocks (List.isEmpty_iff.mpr (List.eq_nil_iff_forall_not_mem.mpr fun block hblock => ?_))
      have hmem := List.mem_eraseDups.mpr hblock
      rw [h] at hmem
      exact absurd hmem List.not_mem_nil

lemma mem_eligibleDeviceIds {deviceId : String} :
    deviceId ∈ (eligibleTeamResult teamId mode memberships devices decisions).eligibleDeviceIds ↔
      ∃ device ∈ devices, device.identityId ∈ activeMembers mode memberships ∧
        isEligibleDevice mode (collectDeviceDecisions teamId mode decisions).1 device = true ∧
        device.deviceId = deviceId := by
  unfold eligibleTeamResult
  simp only [mem_sortByPos, List.mem_eraseDups, List.mem_map, List.mem_filter,
    List.contains_iff_mem]
  constructor
  · rintro ⟨device, ⟨⟨hmem, hmember⟩, heligible⟩, rfl⟩
    exact ⟨device, hmem, hmember, heligible, rfl⟩
  · rintro ⟨device, hmem, hmember, heligible, rfl⟩
    exact ⟨device, ⟨⟨hmem, hmember⟩, heligible⟩, rfl⟩

lemma derivePolicyTeamDeviceEligibility_congr
    (h : derivePolicyTeamDeviceEligibility teamId mode memberships identities devices decisions =
      .ok eligibility)
    (hidentities : ∀ identityId ∈ activeMembers mode memberships,
      IsActiveIdentity identities identityId → IsActiveIdentity identities' identityId)
    (hdevices : ∀ device, device.identityId ∈ activeMembers mode memberships →
      (device ∈ devices' ↔ device ∈ devices)) :
    ∃ eligibility', derivePolicyTeamDeviceEligibility teamId mode memberships identities' devices'
        decisions = .ok eligibility' ∧
      eligibility'.activeMemberIdentityIds = eligibility.activeMemberIdentityIds ∧
      ∀ deviceId, deviceId ∈ eligibility'.eligibleDeviceIds ↔
        deviceId ∈ eligibility.eligibleDeviceIds := by
  obtain ⟨hteam, rfl⟩ := derivePolicyTeamDeviceEligibility_eq_ok_iff.mp h
  refine ⟨_, derivePolicyTeamDeviceEligibility_eq_ok_iff.mpr ⟨?_, rfl⟩, rfl, fun deviceId => ?_⟩
  · exact
      { mode_known := hteam.mode_known
        membership_ok := hteam.membership_ok
        member_active := fun id hid => hidentities id hid (hteam.member_active id hid)
        decisions_ok := hteam.decisions_ok
        device_ok := fun device hdevice hmember =>
          hteam.device_ok device ((hdevices device hmember).mp hdevice) hmember }
  · rw [mem_eligibleDeviceIds, mem_eligibleDeviceIds]
    constructor
    · rintro ⟨device, hmem, hmember, hrest⟩
      exact ⟨device, (hdevices device hmember).mp hmem, hmember, hrest⟩
    · rintro ⟨device, hmem, hmember, hrest⟩
      exact ⟨device, (hdevices device hmember).mpr hmem, hmember, hrest⟩

end Team

/-! ### Derivations without a block -/

/-- Only devices were come across, and each of one identity. -/
structure OnlyDevices (events : List DerivationEvent) : Prop where
  device : ∀ event ∈ events, ∃ identityId deviceId source, event = .device identityId deviceId source
  owner : ∀ identityId identityId' deviceId source source',
    .device identityId deviceId source ∈ events → .device identityId' deviceId source' ∈ events →
      identityId = identityId'

def ListsDevice (devices : List EffectiveDevice) (identityId deviceId : String) : Prop :=
  ∃ device ∈ devices, device.identityId = identityId ∧ device.deviceId = deviceId

/-- Adding a device of the same or no identity lists it, and keeps the listed ones. -/
lemma addEffectiveDevice_spec {state : DerivationState} {projectId identityId deviceId : String}
    {source : EffectiveDeviceSource}
    (howner : ∀ identityId', ListsDevice state.effective identityId' deviceId →
      identityId' = identityId) :
    (state.addEffectiveDevice projectId identityId deviceId source).blocked = state.blocked ∧
      ∀ identityId' deviceId',
        ListsDevice (state.addEffectiveDevice projectId identityId deviceId source).effective
            identityId' deviceId' ↔
          ListsDevice state.effective identityId' deviceId' ∨
            identityId' = identityId ∧ deviceId' = deviceId := by
  unfold DerivationState.addEffectiveDevice
  rcases hcurrent : rowAt EffectiveDevice.deviceId deviceId state.effective with _ | current
  · refine ⟨rfl, fun identityId' deviceId' => ?_⟩
    unfold ListsDevice
    simp only [List.mem_append, List.mem_singleton, or_and_right, exists_or, exists_eq_left]
    constructor
    · rintro (hold | ⟨rfl, rfl⟩)
      · exact .inl hold
      · exact .inr ⟨rfl, rfl⟩
    · rintro (hold | ⟨rfl, rfl⟩)
      · exact .inl hold
      · exact .inr ⟨rfl, rfl⟩
  · obtain ⟨hmem, hdevice⟩ := rowAt_eq_some hcurrent
    have hsame : current.identityId = identityId := howner _ ⟨current, hmem, rfl, hdevice⟩
    have hequal : (current.identityId != identityId) = false := by simp [hsame]
    dsimp only
    rw [hequal, if_neg Bool.false_ne_true]
    refine ⟨rfl, fun identityId' deviceId' => ?_⟩
    dsimp only
    constructor
    · rintro ⟨row, hrow, rfl, rfl⟩
      obtain ⟨stored, hstored, ⟨-, rfl⟩ | ⟨-, rfl⟩⟩ := mem_updateRows hrow
      · exact .inl ⟨stored, hstored, rfl, rfl⟩
      · exact .inl ⟨row, hstored, rfl, rfl⟩
    · have hkept : ∀ row ∈ state.effective, ∃ row' ∈ updateRows
          (fun row => row.deviceId == deviceId)
          (fun row : EffectiveDevice => { row with
            sources := sortByPos EffectiveDeviceSource.key (row.sources ++ [source]).eraseDups })
          state.effective, row'.identityId = row.identityId ∧ row'.deviceId = row.deviceId := by
        intro row hrow
        refine ⟨_, List.mem_map_of_mem hrow, ?_, ?_⟩
        · split_ifs
          · rfl
          · rfl
        · split_ifs
          · rfl
          · rfl
      rintro (⟨row, hrow, rfl, rfl⟩ | ⟨rfl, rfl⟩)
      · obtain ⟨row', hrow', hidentity, hid⟩ := hkept row hrow
        exact ⟨row', hrow', hidentity, hid⟩
      · obtain ⟨row', hrow', hidentity, hid⟩ := hkept current hmem
        exact ⟨row', hrow', hidentity.trans hsame, hid.trans hdevice⟩

/-- A derivation that only came across devices lists exactly them. -/
theorem foldl_apply_spec {projectId : String} {events : List DerivationEvent}
    (h : OnlyDevices events) :
    (events.foldl (DerivationState.apply projectId) ⟨[], []⟩).blocked = [] ∧
      ∀ identityId deviceId,
        ListsDevice (events.foldl (DerivationState.apply projectId) ⟨[], []⟩).effective identityId
            deviceId ↔
          ∃ source, DerivationEvent.device identityId deviceId source ∈ events := by
  induction events using List.reverseRecOn with
  | nil => simp [ListsDevice]
  | append_singleton events event ih =>
    have hevents : OnlyDevices events :=
      ⟨fun e he => h.device e (List.mem_append_left _ he), fun i i' d s s' hs hs' =>
        h.owner i i' d s s' (List.mem_append_left _ hs) (List.mem_append_left _ hs')⟩
    obtain ⟨hblocked, hlists⟩ := ih hevents
    have hlast : event ∈ events ++ [event] := by simp
    obtain ⟨identityId, deviceId, source, rfl⟩ := h.device event hlast
    rw [List.foldl_append, List.foldl_cons, List.foldl_nil]
    generalize events.foldl (DerivationState.apply projectId) ⟨[], []⟩ = state at hblocked hlists
    have hspec := @addEffectiveDevice_spec state projectId identityId deviceId source
      fun identityId' hlisted => by
        obtain ⟨source', hsource'⟩ := (hlists identityId' deviceId).mp hlisted
        exact h.owner _ _ deviceId source' source (List.mem_append_left _ hsource') hlast
    refine ⟨hspec.1.trans hblocked, fun identityId' deviceId' => ?_⟩
    change ListsDevice (state.addEffectiveDevice projectId identityId deviceId source).effective _ _ ↔ _
    rw [hspec.2, hlists]
    simp only [List.mem_append, List.mem_singleton, exists_or, DerivationEvent.device.injEq]
    constructor
    · rintro (hold | ⟨rfl, rfl⟩)
      · exact .inl hold
      · exact .inr ⟨source, rfl, rfl, rfl⟩
    · rintro (hold | ⟨source', rfl, rfl, -⟩)
      · exact .inl hold
      · exact .inr ⟨rfl, rfl⟩

lemma mem_blocked_of_mem {projectId : String} {events : List DerivationEvent}
    {block : DerivationBlock} (h : DerivationEvent.block block ∈ events) :
    block ∈ (events.foldl (DerivationState.apply projectId) ⟨[], []⟩).blocked := by
  have hkeep : ∀ (state : DerivationState) (event : DerivationEvent),
      block ∈ state.blocked → block ∈ (state.apply projectId event).blocked := by
    intro state event hmem
    rcases event with other | ⟨identityId, deviceId, source⟩
    · exact List.mem_append_left _ hmem
    · unfold DerivationState.apply DerivationState.addEffectiveDevice
      dsimp only
      rcases rowAt EffectiveDevice.deviceId deviceId state.effective with _ | current
      · exact hmem
      · dsimp only
        split_ifs
        · exact List.mem_append_left _ hmem
        · exact hmem
  induction events using List.reverseRecOn with
  | nil => exact absurd h List.not_mem_nil
  | append_singleton events event ih =>
    rw [List.foldl_append, List.foldl_cons, List.foldl_nil]
    rcases List.mem_append.mp h with hold | hlast
    · exact hkeep _ _ (ih hold)
    · rw [← List.mem_singleton.mp hlast]
      exact List.mem_append_right _ (List.mem_singleton_self block)

lemma not_block_of_eligible {input : DerivationInput}
    (h : (deriveRecipientPolicyEffectiveDevices input).eligible = true) (block : DerivationBlock) :
    DerivationEvent.block block ∉ input.events := by
  intro hmem
  have hblocked : block ∈ input.finalState.blocked := mem_blocked_of_mem hmem
  have hnone : sortedBlocks input.finalState.blocked = [] := List.isEmpty_iff.mp h
  have hlisted : block ∈ sortedBlocks input.finalState.blocked :=
    mem_sortByPos.mpr (List.mem_eraseDups.mpr hblocked)
  rw [hnone] at hlisted
  exact absurd hlisted List.not_mem_nil

/-- A derivation that only came across devices is eligible and yields exactly them. -/
theorem deriveRecipientPolicyEffectiveDevices_spec {input : DerivationInput}
    (h : OnlyDevices input.events) :
    (deriveRecipientPolicyEffectiveDevices input).eligible = true ∧
      ∀ identityId deviceId,
        ListsDevice (deriveRecipientPolicyEffectiveDevices input).devices identityId deviceId ↔
          ∃ source, DerivationEvent.device identityId deviceId source ∈ input.events := by
  obtain ⟨hblocked, hlists⟩ := @foldl_apply_spec input.canonicalProjectIdentity input.events h
  have hstate : input.finalState.blocked = [] := hblocked
  unfold deriveRecipientPolicyEffectiveDevices Derivation.eligible
  dsimp only
  rw [hstate]
  refine ⟨rfl, fun identityId deviceId => ?_⟩
  rw [← hlists]
  unfold ListsDevice
  simp [DerivationInput.finalState]

end Codemem

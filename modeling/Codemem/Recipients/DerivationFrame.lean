import Codemem.Recipients.DerivationSpec

/-!
# What a derivation depends on

The devices of a project depend on an identity only through the active recipients that reach it:
recipients of the identity itself, and active teams that count it as a member.  Changes of the rows
of other identities leave the derivation alone.
-/

namespace Codemem

/-! ### Reaching an identity -/

namespace PolicyTables

variable (db : PolicyTables)

/-- The active teams that count the identity as a member. -/
def teamsOfIdentity (identityId : String) : List String :=
  (db.teamMemberships.filter fun membership => membership.identityId == identityId &&
    db.teams.any fun team => team.teamId == membership.teamId && team.status == "active" &&
      isPolicyTeamMembershipActiveForMode team.deviceEligibilityMode membership.status).map
        PolicyTeamMembership.teamId

/-- The recipient is active and stands for the identity or for a team of it. -/
def reaches (identityId : String) (recipient : ProjectRecipient) : Bool :=
  recipient.status == "active" &&
    ((recipient.recipientKind == "identity" && recipient.recipientId == identityId) ||
      (recipient.recipientKind == "team" &&
        (db.teamsOfIdentity identityId).contains recipient.recipientId))

end PolicyTables

/-- The tables agree but for the rows of some identities and for decisions about their devices. -/
structure AgreeOff (changed : List String) (db db' : PolicyTables) : Prop where
  repositories : db'.repositoryIdentities = db.repositoryIdentities
  projectRecipients : db'.projectRecipients = db.projectRecipients
  teams : db'.teams = db.teams
  teamMemberships : db'.teamMemberships = db.teamMemberships
  identities : (db'.identities.filter fun row => !changed.contains row.identityId) =
    db.identities.filter fun row => !changed.contains row.identityId
  identityDevices : (db'.identityDevices.filter fun row => !changed.contains row.identityId) =
    db.identityDevices.filter fun row => !changed.contains row.identityId
  decisions : ∃ clears : PolicyTeamDeviceDecision → Bool,
    db'.teamDeviceDecisions = updateRows clears (fun row => { row with decision := "unresolved" })
      db.teamDeviceDecisions ∧
    ∀ row, clears row = true → row.decision = "included" ∧
      ∀ device ∈ db.identityDevices, device.deviceId = row.deviceId →
        device.identityId ∈ changed

/-! ### Cleared decisions -/

section Cleared

variable {clears : PolicyTeamDeviceDecision → Bool}
  (hincluded : ∀ row, clears row = true → row.decision = "included")

/-- A decision that is no longer settled, if it is cleared. -/
def clearedDecision (clears : PolicyTeamDeviceDecision → Bool) (row : PolicyTeamDeviceDecision) :
    PolicyTeamDeviceDecision :=
  if clears row then { row with decision := "unresolved" } else row

@[simp] lemma clearedDecision_teamId (row : PolicyTeamDeviceDecision) :
    (clearedDecision clears row).teamId = row.teamId := by
  unfold clearedDecision
  split_ifs
  · rfl
  · rfl

@[simp] lemma clearedDecision_deviceId (row : PolicyTeamDeviceDecision) :
    (clearedDecision clears row).deviceId = row.deviceId := by
  unfold clearedDecision
  split_ifs
  · rfl
  · rfl

@[simp] lemma clearedDecision_assignmentVersion (row : PolicyTeamDeviceDecision) :
    (clearedDecision clears row).assignmentVersion = row.assignmentVersion := by
  unfold clearedDecision
  split_ifs
  · rfl
  · rfl

include hincluded

lemma refusesDecision_cleared (mode : String) (accepted : List PolicyTeamDeviceDecision)
    (row : PolicyTeamDeviceDecision) :
    refusesDecision mode (accepted.map (clearedDecision clears)) (clearedDecision clears row) =
      refusesDecision mode accepted row := by
  have hany : ((accepted.map (clearedDecision clears)).any fun earlier =>
      earlier.deviceId == row.deviceId) =
        accepted.any fun earlier => earlier.deviceId == row.deviceId := by
    rw [List.any_map]
    congr 1
    funext earlier
    simp
  unfold refusesDecision
  rw [clearedDecision_deviceId, clearedDecision_assignmentVersion, hany]
  by_cases hclears : clears row = true
  · have hdecision : (clearedDecision clears row).decision = "unresolved" := by
      unfold clearedDecision
      rw [if_pos hclears]
    have hunresolved : (["included", "excluded", "unresolved"].contains "unresolved") = true := by
      decide
    have hincludedMem : (["included", "excluded", "unresolved"].contains "included") = true := by
      decide
    have hne : ("unresolved" != "excluded") = true := by decide
    have hne' : ("included" != "excluded") = true := by decide
    rw [hdecision, hincluded row hclears, hunresolved, hincludedMem, hne, hne']
  · have hsame : clearedDecision clears row = row := by
      unfold clearedDecision
      rw [if_neg hclears]
    rw [hsame]

lemma collectDeviceDecisions_cleared (teamId mode : String)
    (decisions : List PolicyTeamDeviceDecision) :
    collectDeviceDecisions teamId mode (decisions.map (clearedDecision clears)) =
      ((collectDeviceDecisions teamId mode decisions).1.map (clearedDecision clears),
        (collectDeviceDecisions teamId mode decisions).2) := by
  have hfold : ∀ (acc : List PolicyTeamDeviceDecision × List DerivationBlock),
      (decisions.map (clearedDecision clears)).foldl (fun acc decision =>
        if refusesDecision mode acc.1 decision then
          (acc.1, acc.2 ++ [⟨.teamDeviceDecisionInvalid, teamId ++ ":" ++ decision.deviceId⟩])
        else (acc.1 ++ [decision], acc.2)) (acc.1.map (clearedDecision clears), acc.2) =
      ((decisions.foldl (fun acc decision =>
        if refusesDecision mode acc.1 decision then
          (acc.1, acc.2 ++ [⟨.teamDeviceDecisionInvalid, teamId ++ ":" ++ decision.deviceId⟩])
        else (acc.1 ++ [decision], acc.2)) acc).1.map (clearedDecision clears),
       (decisions.foldl (fun acc decision =>
        if refusesDecision mode acc.1 decision then
          (acc.1, acc.2 ++ [⟨.teamDeviceDecisionInvalid, teamId ++ ":" ++ decision.deviceId⟩])
        else (acc.1 ++ [decision], acc.2)) acc).2) := by
    induction decisions with
    | nil => exact fun _ => rfl
    | cons decision decisions ih =>
      intro acc
      rw [List.map_cons, List.foldl_cons, List.foldl_cons,
        refusesDecision_cleared hincluded, clearedDecision_deviceId]
      split_ifs with hrefused
      · exact ih (acc.1, acc.2 ++ [⟨.teamDeviceDecisionInvalid, teamId ++ ":" ++ decision.deviceId⟩])
      · have hnext := ih (acc.1 ++ [decision], acc.2)
        rw [List.map_append] at hnext
        exact hnext
  exact hfold ([], [])

omit hincluded

lemma isEligibleDevice_cleared (mode : String) {decisions : List PolicyTeamDeviceDecision}
    {device : IdentityDevice}
    (hother : ∀ row ∈ decisions, row.deviceId = device.deviceId → clears row = false) :
    isEligibleDevice mode (decisions.map (clearedDecision clears)) device =
      isEligibleDevice mode decisions device := by
  have hrow : rowAt PolicyTeamDeviceDecision.deviceId device.deviceId
      (decisions.map (clearedDecision clears)) =
        rowAt PolicyTeamDeviceDecision.deviceId device.deviceId decisions := by
    rw [rowAt_map fun row => clearedDecision_deviceId row]
    rcases hfound : rowAt PolicyTeamDeviceDecision.deviceId device.deviceId decisions with _ | row
    · rfl
    · obtain ⟨hmem, hkey⟩ := rowAt_eq_some hfound
      rw [Option.map_some]
      unfold clearedDecision
      rw [if_neg (by rw [hother row hmem hkey]; simp)]
  unfold isEligibleDevice
  rw [hrow]

end Cleared

/-! ### Derivations that agree -/

lemma PolicyTables.canonicalProjectIdentity_of_mem (db : PolicyTables) {c : String}
    {recipient : ProjectRecipient} (h : recipient ∈ db.canonicalProjectRecipientRows c) :
    recipient.canonicalProjectIdentity = db.canonical c := by
  unfold PolicyTables.canonicalProjectRecipientRows at h
  obtain ⟨row, -, rfl⟩ := List.mem_map.mp h
  rfl

lemma deriveRecipientPolicyEffectiveDevices_congr {input input' : DerivationInput}
    (hid : input'.canonicalProjectIdentity = input.canonicalProjectIdentity)
    (hevents : input'.events = input.events) :
    deriveRecipientPolicyEffectiveDevices input' = deriveRecipientPolicyEffectiveDevices input := by
  unfold deriveRecipientPolicyEffectiveDevices DerivationInput.finalState
  rw [hevents, hid]

lemma PolicyTables.member_not_mem {changed : List String} {db : PolicyTables} (c : String)
    {recipient : ProjectRecipient} {team : PolicyTeam}
    (hreaches : ∀ identityId ∈ changed, isStrictRecipientPolicyId identityId = true →
      db.reaches identityId recipient = false)
    (hactive : recipient.status = "active") (hkind : recipient.recipientKind = "team")
    (hteam : rowAt PolicyTeam.teamId recipient.recipientId (db.derivationInput c).teams = some team)
    (hteamActive : team.status = "active") :
    ∀ identityId ∈ activeMembers team.deviceEligibilityMode
      ((db.derivationInput c).teamMemberships.filter fun membership =>
        membership.teamId == team.teamId), identityId ∉ changed := by
  intro identityId hmember hmem
  obtain ⟨hstored, hteamId⟩ := rowAt_eq_some hteam
  unfold activeMembers at hmember
  obtain ⟨membership, hselected, rfl⟩ := List.mem_map.mp (List.mem_eraseDups.mp hmember)
  obtain ⟨hinTeam, hmode⟩ := List.mem_filter.mp hselected
  obtain ⟨hmembership, hsame⟩ := List.mem_filter.mp hinTeam
  rw [Bool.and_eq_true] at hmode
  have hcounts : recipient.recipientId ∈ db.teamsOfIdentity membership.identityId := by
    unfold PolicyTables.teamsOfIdentity
    refine List.mem_map.mpr ⟨membership, List.mem_filter.mpr ⟨mem_sortByPos.mp hmembership, ?_⟩, ?_⟩
    · rw [Bool.and_eq_true]
      refine ⟨beq_self_eq_true _, List.any_eq_true.mpr ⟨team, mem_sortByPos.mp hstored, ?_⟩⟩
      rw [Bool.and_eq_true, Bool.and_eq_true]
      exact ⟨⟨beq_iff_eq.mpr (beq_iff_eq.mp hsame).symm, beq_iff_eq.mpr hteamActive⟩, hmode.2⟩
    · rw [beq_iff_eq.mp hsame]
      exact hteamId
  have hnot := hreaches _ hmem hmode.1
  unfold PolicyTables.reaches at hnot
  simp [hactive, hkind, hcounts] at hnot

namespace AgreeOff

variable {changed : List String} {db db' : PolicyTables} (h : AgreeOff changed db db') (c : String)

include h

lemma canonical : db'.canonical = db.canonical := by
  funext projectIdentity
  unfold PolicyTables.canonical
  rw [h.repositories]

lemma recipientRows :
    db'.canonicalProjectRecipientRows c = db.canonicalProjectRecipientRows c := by
  unfold PolicyTables.canonicalProjectRecipientRows PolicyTables.projectAliases
  rw [h.projectRecipients, h.repositories, h.canonical]

lemma identityRow {identityId : String} (hid : identityId ∉ changed) :
    rowAt PolicyIdentity.identityId identityId (db'.derivationInput c).identities =
      rowAt PolicyIdentity.identityId identityId (db.derivationInput c).identities := by
  have hrow (l : List PolicyIdentity) :
      rowAt PolicyIdentity.identityId identityId (sortByPos PolicyIdentity.identityId l) =
        (sortByPos PolicyIdentity.identityId ((l.filter fun row =>
          !changed.contains row.identityId).filter fun row => row.identityId == identityId)).head? := by
    rw [← filter_sortByPos, ← filter_sortByPos, List.filter_filter, List.head?_filter]
    unfold rowAt
    congr 1
    funext row
    by_cases hsame : row.identityId = identityId
    · simp [hsame, hid]
    · simp [hsame]
  change rowAt PolicyIdentity.identityId identityId (sortByPos _ db'.identities) =
    rowAt PolicyIdentity.identityId identityId (sortByPos _ db.identities)
  rw [hrow, hrow, h.identities]

lemma deviceRows {q : IdentityDevice → Bool}
    (hq : ∀ device, q device = true → device.identityId ∉ changed) :
    (db'.derivationInput c).identityDevices.filter q =
      (db.derivationInput c).identityDevices.filter q := by
  have hfilter (l : List IdentityDevice) :
      (l.filter fun row => !changed.contains row.identityId).filter q = l.filter q := by
    rw [List.filter_filter]
    refine List.filter_congr fun device _ => ?_
    by_cases hdevice : q device = true
    · have hnot := hq device hdevice
      simp [hdevice, hnot]
    · simp [hdevice]
  change (sortByPos _ db'.identityDevices).filter q = (sortByPos _ db.identityDevices).filter q
  rw [filter_sortByPos, filter_sortByPos, ← hfilter, h.identityDevices, hfilter]

lemma expandIdentity {identityId : String} (hid : identityId ∉ changed)
    (source : EffectiveDeviceSource) (missing inactive merged : DerivationBlockCode)
    (allowedDeviceIds : Option (List String)) :
    (db'.derivationInput c).expandIdentity identityId source missing inactive merged
        allowedDeviceIds =
      (db.derivationInput c).expandIdentity identityId source missing inactive merged
        allowedDeviceIds := by
  unfold DerivationInput.expandIdentity
  rw [h.identityRow c hid, h.deviceRows c fun device hdevice => by
    rw [beq_iff_eq.mp hdevice]
    exact hid]

/-- A team without changed members has the same eligible devices. -/
lemma teamEligibility {team : PolicyTeam}
    (hmembers : ∀ identityId ∈ activeMembers team.deviceEligibilityMode
      ((db.derivationInput c).teamMemberships.filter fun membership =>
        membership.teamId == team.teamId), identityId ∉ changed) :
    (db'.derivationInput c).teamEligibility team = (db.derivationInput c).teamEligibility team := by
  obtain ⟨clears, hdecisions, hclears⟩ := h.decisions
  have hmemberships : (db'.derivationInput c).teamMemberships =
      (db.derivationInput c).teamMemberships := by
    change sortByPos _ db'.teamMemberships = sortByPos _ db.teamMemberships
    rw [h.teamMemberships]
  have hteam : ((db'.derivationInput c).teamDeviceDecisions.filter fun decision =>
      decision.teamId == team.teamId) =
        ((db.derivationInput c).teamDeviceDecisions.filter fun decision =>
          decision.teamId == team.teamId).map (clearedDecision clears) := by
    change (sortByPos _ db'.teamDeviceDecisions).filter _ =
      ((sortByPos _ db.teamDeviceDecisions).filter _).map _
    have hupdated : db'.teamDeviceDecisions = db.teamDeviceDecisions.map (clearedDecision clears) :=
      hdecisions
    rw [hupdated, ← map_sortByPos _ fun row => by rw [clearedDecision_teamId,
      clearedDecision_deviceId], List.filter_map]
    congr 2
    funext row
    rw [Function.comp_apply, clearedDecision_teamId]
  set members := activeMembers team.deviceEligibilityMode
    ((db.derivationInput c).teamMemberships.filter fun membership =>
      membership.teamId == team.teamId) with hmembersDef
  have hdevices := h.deviceRows c (q := fun device => members.contains device.identityId)
    fun device hdevice => hmembers _ (List.contains_iff_mem.mp hdevice)
  have hidentities : members.filterMap (memberBlock (db'.derivationInput c).identities) =
      members.filterMap (memberBlock (db.derivationInput c).identities) := by
    refine List.filterMap_congr fun identityId hmember => ?_
    unfold memberBlock
    rw [h.identityRow c (hmembers identityId hmember)]
  have heligible : ((db.derivationInput c).identityDevices.filter fun device =>
        members.contains device.identityId).filter (isEligibleDevice team.deviceEligibilityMode
          ((collectDeviceDecisions team.teamId team.deviceEligibilityMode
            ((db.derivationInput c).teamDeviceDecisions.filter fun decision =>
              decision.teamId == team.teamId)).1.map (clearedDecision clears))) =
      ((db.derivationInput c).identityDevices.filter fun device =>
        members.contains device.identityId).filter (isEligibleDevice team.deviceEligibilityMode
          (collectDeviceDecisions team.teamId team.deviceEligibilityMode
            ((db.derivationInput c).teamDeviceDecisions.filter fun decision =>
              decision.teamId == team.teamId)).1) := by
    refine List.filter_congr fun device hdevice => ?_
    obtain ⟨hmem, hmember⟩ := List.mem_filter.mp hdevice
    refine isEligibleDevice_cleared _ fun row _ hrow => ?_
    by_contra hcleared
    -- a cleared decision is about a device of a changed identity
    have hchanged := (hclears row (by simpa using hcleared)).2 device (mem_sortByPos.mp hmem)
      hrow.symm
    exact hmembers _ (List.contains_iff_mem.mp hmember) hchanged
  unfold DerivationInput.teamEligibility derivePolicyTeamDeviceEligibility
  rw [hmemberships, hteam,
    collectDeviceDecisions_cleared (fun row hrow => (hclears row hrow).1)]
  dsimp only
  rw [← hmembersDef, hdevices, hidentities, heligible]

lemma teamEvents {team : PolicyTeam}
    (hmembers : ∀ identityId ∈ activeMembers team.deviceEligibilityMode
      ((db.derivationInput c).teamMemberships.filter fun membership =>
        membership.teamId == team.teamId), identityId ∉ changed) :
    (db'.derivationInput c).teamEvents team = (db.derivationInput c).teamEvents team := by
  have hmemberships : (db'.derivationInput c).teamMemberships =
      (db.derivationInput c).teamMemberships := by
    change sortByPos _ db'.teamMemberships = sortByPos _ db.teamMemberships
    rw [h.teamMemberships]
  unfold DerivationInput.teamEvents
  rw [hmemberships, h.teamEligibility c hmembers]
  rcases heligibility : (db.derivationInput c).teamEligibility team with blocked | eligibility
  · rfl
  · dsimp only
    congr 1
    refine List.flatMap_congr fun identityId hmember => ?_
    have hresult := (derivePolicyTeamDeviceEligibility_eq_ok_iff.mp heligibility).2
    rw [hresult] at hmember
    exact h.expandIdentity c (hmembers identityId (mem_sortByPos.mp hmember)) _ _ _ _ _

lemma recipientEvents {recipient : ProjectRecipient}
    (hreaches : ∀ identityId ∈ changed, isStrictRecipientPolicyId identityId = true →
      db.reaches identityId recipient = false) :
    (db'.derivationInput c).recipientEvents recipient =
      (db.derivationInput c).recipientEvents recipient := by
  have hteams : (db'.derivationInput c).teams = (db.derivationInput c).teams := by
    change sortByPos _ db'.teams = sortByPos _ db.teams
    rw [h.teams]
  unfold DerivationInput.recipientEvents
  dsimp only
  rw [hteams]
  by_cases hactive : recipient.status = "active"
  · have hidentity : recipient.recipientKind = "identity" →
        isStrictRecipientPolicyId recipient.recipientId = true →
          recipient.recipientId ∉ changed := by
      intro hkind hstrict hmem
      have hnot := hreaches _ hmem hstrict
      unfold PolicyTables.reaches at hnot
      simp [hactive, hkind] at hnot
    split_ifs with hknown hstatus hstrict hkind hother
    · rfl
    · rfl
    · rfl
    · exact h.expandIdentity c (hidentity (beq_iff_eq.mp hkind) (by simpa using hstrict)) _ _ _ _ _
    · rfl
    · rcases hteam : rowAt PolicyTeam.teamId recipient.recipientId (db.derivationInput c).teams with
        _ | team
      · rfl
      · dsimp only
        split_ifs with hteamStatus
        · rfl
        · refine h.teamEvents c (PolicyTables.member_not_mem c hreaches hactive ?_ hteam ?_)
          · simpa using hother
          · simpa using hteamStatus
  · have hnot : (recipient.status != "active") = true := bne_iff_ne.mpr hactive
    rw [if_pos hnot, if_pos hnot]

lemma events
    (hreaches : db.canonical c = c → ∀ recipient ∈ db.canonicalProjectRecipientRows c,
      ∀ identityId ∈ changed, isStrictRecipientPolicyId identityId = true →
        db.reaches identityId recipient = false) :
    (db'.derivationInput c).events = (db.derivationInput c).events := by
  have hrecipients : (db'.derivationInput c).projectRecipients =
      (db.derivationInput c).projectRecipients := h.recipientRows c
  have hflat : (((db.derivationInput c).projectRecipients.filter fun recipient =>
        recipient.canonicalProjectIdentity == c).flatMap (db'.derivationInput c).recipientEvents) =
      ((db.derivationInput c).projectRecipients.filter fun recipient =>
        recipient.canonicalProjectIdentity == c).flatMap (db.derivationInput c).recipientEvents := by
    refine List.flatMap_congr fun recipient hrecipient => ?_
    obtain ⟨hmem, hsame⟩ := List.mem_filter.mp hrecipient
    -- rows are read under the canonical identity of `c`, which has to be `c` itself
    have hsettled : db.canonical c = c :=
      (db.canonicalProjectIdentity_of_mem hmem).symm.trans (beq_iff_eq.mp hsame)
    exact h.recipientEvents c (hreaches hsettled recipient hmem)
  unfold DerivationInput.events
  rw [hrecipients]
  exact congrArg _ hflat

/-- A project whose active recipients reach no changed identity keeps its derivation. -/
theorem derivation (projectIdentity : String)
    (hreaches : db.canonical (db.canonical projectIdentity) = db.canonical projectIdentity →
      ∀ recipient ∈ db.canonicalProjectRecipientRows (db.canonical projectIdentity),
        ∀ identityId ∈ changed, isStrictRecipientPolicyId identityId = true →
          db.reaches identityId recipient = false) :
    db'.deriveRecipientPolicyEffectiveDevicesFromDatabase projectIdentity =
      db.deriveRecipientPolicyEffectiveDevicesFromDatabase projectIdentity := by
  unfold PolicyTables.deriveRecipientPolicyEffectiveDevicesFromDatabase
  rw [h.canonical]
  exact deriveRecipientPolicyEffectiveDevices_congr rfl (h.events _ hreaches)

end AgreeOff

end Codemem

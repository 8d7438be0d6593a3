import Codemem.Recipients.DeviceBinding
import Codemem.Recipients.EdgeStatus
import Codemem.Recipients.IdentitySwitch
import Codemem.Recipients.PreviewSpec

/-!
# Which writes wake the policies they change

Commits of device bindings and of policy edges wake every project whose devices they change.  A switch
of the local identity wakes nothing: it leaves a policy asleep whenever a project with an authority
row is shared with the identity that loses the device or with the one that gains it.
-/

namespace Codemem

lemma filter_updateRows_of_dropped {α : Type} {selects p : α → Bool} {write : α → α}
    (h : ∀ row, selects row = true → p row = false ∧ p (write row) = false) (rows : List α) :
    (updateRows selects write rows).filter p = rows.filter p := by
  unfold updateRows
  induction rows with
  | nil => rfl
  | cons row rows ih =>
    rw [List.map_cons]
    by_cases hselected : selects row = true
    · obtain ⟨hbefore, hafter⟩ := h row hselected
      rw [if_pos hselected, List.filter_cons_of_neg (by rw [hafter]; simp),
        List.filter_cons_of_neg (by rw [hbefore]; simp), ih]
    · rw [if_neg hselected]
      by_cases hkeep : p row = true
      · rw [List.filter_cons_of_pos hkeep, List.filter_cons_of_pos hkeep, ih]
      · rw [List.filter_cons_of_neg hkeep, List.filter_cons_of_neg hkeep, ih]

/-! ### Bindings -/

structure DevicesWritten (changed : List String) (before db : IdentityDb) : Prop where
  policy : db.policy = { before.policy with identityDevices := db.policy.identityDevices }
  devices : (db.policy.identityDevices.filter fun row => !changed.contains row.identityId) =
    before.policy.identityDevices.filter fun row => !changed.contains row.identityId
  authority : db.authorityStates = before.authorityStates

lemma DevicesWritten.agreeOff {changed : List String} {before db : IdentityDb}
    (h : DevicesWritten changed before db) : AgreeOff changed before.policy db.policy := by
  have hpolicy := h.policy
  refine ⟨?_, ?_, ?_, ?_, ?_, h.devices, fun _ => false, ?_, fun row hrow => by cases hrow⟩
  · rw [hpolicy]
    rfl
  · rw [hpolicy]
  · rw [hpolicy]
  · rw [hpolicy]
  · rw [hpolicy]
  · rw [hpolicy]
    unfold updateRows
    simp

namespace IdentityDb

lemma writeBinding_written {changed : List String} {before db db' : IdentityDb}
    {commitDigest : String} {outcome : DeviceIdentityBindingOutcome}
    (hold : DevicesWritten changed before db)
    (htarget : outcome.action ≠ .unchanged → outcome.targetIdentityId ∈ changed)
    (hprevious : outcome.action ≠ .unchanged → ∀ identityId,
      outcome.previousIdentityId = some identityId → identityId ∈ changed)
    (h : writeBinding commitDigest db outcome = .ok db') : DevicesWritten changed before db' := by
  unfold writeBinding at h
  dsimp only at h
  split_ifs at h
  have hwritten := (Except.ok.inj h).symm
  rw [hwritten]
  refine ⟨by rw [hold.policy], ?_, hold.authority⟩
  refine Eq.trans ?_ hold.devices
  change ((db.writtenDevices outcome).filter _) = _
  unfold writtenDevices
  rcases haction : outcome.action with _ | _ | _
  · have hmem : outcome.targetIdentityId ∈ changed := htarget (by rw [haction]; decide)
    dsimp only
    rw [List.filter_append, List.filter_cons_of_neg (by simp [hmem]), List.filter_nil,
      List.append_nil]
  · have hmem : outcome.targetIdentityId ∈ changed := htarget (by rw [haction]; decide)
    dsimp only
    refine filter_updateRows_of_dropped (fun row hrow => ⟨?_, ?_⟩) _
    · unfold rebinds at hrow
      rw [Bool.and_eq_true, Bool.and_eq_true] at hrow
      have hprev := hprevious (by rw [haction]; decide) row.identityId (beq_iff_eq.mp hrow.1.2)
      simp [hprev]
    · simp [reboundDevice, hmem]
  · rfl

lemma foldlM_writeBinding_written {before db db' : IdentityDb} {commitDigest : String}
    {outcomes : List DeviceIdentityBindingOutcome} {changed : List String}
    (hold : DevicesWritten changed before db)
    (hchanged : ∀ outcome ∈ outcomes, outcome.action ≠ .unchanged →
      outcome.targetIdentityId ∈ changed ∧
        ∀ identityId, outcome.previousIdentityId = some identityId → identityId ∈ changed)
    (h : outcomes.foldlM (writeBinding commitDigest) db = .ok db') :
    DevicesWritten changed before db' :=
  foldlM_keeps (P := DevicesWritten changed before)
    (fun _ _ outcome houtcome hacc hstep => writeBinding_written hacc
      (fun haction => (hchanged outcome houtcome haction).1)
      (fun haction => (hchanged outcome houtcome haction).2) hstep) hold h

lemma mem_changedIdentities {outcomes : List DeviceIdentityBindingOutcome}
    {outcome : DeviceIdentityBindingOutcome} (h : outcome ∈ outcomes)
    (haction : outcome.action ≠ .unchanged) :
    outcome.targetIdentityId ∈ changedIdentities outcomes ++ [""] ∧
      ∀ identityId, outcome.previousIdentityId = some identityId →
        identityId ∈ changedIdentities outcomes ++ [""] := by
  have hselected : outcome ∈ outcomes.filter fun outcome =>
      decide (outcome.action ≠ .unchanged) := List.mem_filter.mpr ⟨h, decide_eq_true haction⟩
  refine ⟨List.mem_append_left _ (List.mem_flatMap.mpr ⟨outcome, hselected, ?_⟩),
    fun identityId hprevious => ?_⟩
  · exact List.mem_append_right _ (List.mem_singleton_self _)
  · by_cases hempty : identityId = ""
    · exact List.mem_append_right _ (List.mem_singleton.mpr hempty)
    · refine List.mem_append_left _ (List.mem_flatMap.mpr ⟨outcome, hselected, ?_⟩)
      refine List.mem_append_left _ ?_
      rw [hprevious]
      simp [hempty]

/-- A commit of device bindings wakes the projects whose devices it changes. -/
theorem commitDeviceIdentityBindings_wakesChanges {tools : BindingTools} {db after : IdentityDb}
    {localActorId : String} {bindings : List DeviceIdentityBindingSelection}
    {reviewedInventoryDigest : String} {commit : BindingCommit}
    (h : db.commitDeviceIdentityBindings tools localActorId bindings reviewedInventoryDigest =
      (.ok commit, after)) : WakesChanges db after := by
  have hsame : WakesChanges db db := fun projectId row _ hdiffers =>
    (not_differs_of_eq rfl hdiffers).elim
  unfold commitDeviceIdentityBindings at h
  by_cases hblank : reviewedInventoryDigest = ""
  · rw [if_pos hblank] at h
    cases h
  rw [if_neg hblank] at h
  dsimp only at h
  set commitDigest := tools.commitDigest (normalizedRequest bindings) reviewedInventoryDigest
  rcases hretry : db.exactRetry tools bindings commitDigest with _ | answer
  · rw [hretry] at h
    dsimp only at h
    rcases hpreview : db.previewDeviceIdentityBindings tools bindings with refusal | preview
    · rw [hpreview] at h
      cases h
    · rw [hpreview] at h
      dsimp only at h
      by_cases hdigest : preview.reviewedInventoryDigest ≠ reviewedInventoryDigest
      · rw [if_pos hdigest] at h
        cases h
      rw [if_neg hdigest] at h
      by_cases hlocal : db.isActiveUnmergedLocalActor localActorId = false
      · rw [if_pos hlocal] at h
        cases h
      rw [if_neg hlocal] at h
      set recorded : IdentityDb := { db with bindingCommits := db.bindingCommits ++
        [⟨commitDigest, normalizedRequest bindings, preview.outcomes⟩] }
      rcases hwritten : preview.outcomes.foldlM (writeBinding commitDigest) recorded with
        refusal | written
      · rw [hwritten] at h
        cases h
      · rw [hwritten] at h
        cases h
        have hdevices : DevicesWritten (changedIdentities preview.outcomes ++ [""]) db written := by
          have hstart : DevicesWritten (changedIdentities preview.outcomes ++ [""]) db recorded :=
            ⟨rfl, rfl, rfl⟩
          exact foldlM_writeBinding_written hstart
            (fun outcome houtcome haction => mem_changedIdentities houtcome haction) hwritten
        refine wakesChanges_of_agreeOff hdevices.agreeOff (fun identityId hchanged hstrict => ?_)
          hdevices.authority
        -- an identity that is not asked for has an empty, thus no strict, identifier
        rcases List.mem_append.mp hchanged with hasked | hempty
        · exact hasked
        · rw [List.mem_singleton.mp hempty] at hstrict
          exact absurd hstrict (by decide)
  · rw [hretry] at h
    dsimp only at h
    have hafter := congrArg Prod.snd h
    dsimp only at hafter
    rw [← hafter]
    exact hsame

end IdentityDb

/-! ### Edges -/

section Edges

variable {db : PolicyTables} {edges : List StoredEdge} {now : String}

def writesEdge (edges : List StoredEdge) (change : EdgeChange) : Bool :=
  decide (edgeOutcome edges change = .added) || decide (edgeOutcome edges change = .removed)

lemma applyEdgeChange_of_not_writes {change : EdgeChange} {rows rows' : List ProjectRecipient}
    (hwrites : writesEdge edges change = false)
    (h : applyEdgeChange edges now rows change = .ok rows') : rows' = rows := by
  unfold writesEdge at hwrites
  unfold applyEdgeChange at h
  rcases houtcome : edgeOutcome edges change with _ | _ | _ | _
  · rw [houtcome] at hwrites
    cases hwrites
  · rw [houtcome] at hwrites h
    cases hwrites
  · rw [houtcome] at h
    exact (Except.ok.inj h).symm
  · rw [houtcome] at h
    exact (Except.ok.inj h).symm

lemma filter_applyEdgeChange (hedges : EdgesOfRows db edges) {change : EdgeChange} {c : String}
    (hsettled : db.canonical c = c) (hne : db.canonical change.canonicalProjectIdentity ≠ c)
    {rows rows' : List ProjectRecipient} (h : applyEdgeChange edges now rows change = .ok rows') :
    (rows'.filter fun row => db.canonical row.canonicalProjectIdentity == c) =
      rows.filter fun row => db.canonical row.canonicalProjectIdentity == c := by
  have hproject : change.canonicalProjectIdentity ≠ c := by
    intro hsame
    rw [hsame] at hne
    exact hne hsettled
  rw [applyEdgeChange_eq_ok h, List.filter_append]
  have hinserted : (insertedRows edges now change).filter
      (fun row => db.canonical row.canonicalProjectIdentity == c) = [] := by
    refine List.filter_eq_nil_iff.mpr fun row hrow hsame => hne ?_
    have hid : row.canonicalProjectIdentity = change.canonicalProjectIdentity := by
      unfold insertedRows at hrow
      split at hrow
      · rw [List.mem_singleton.mp hrow]
        rfl
      · exact absurd hrow List.not_mem_nil
    rw [← hid]
    exact beq_iff_eq.mp hsame
  rw [hinserted, List.append_nil, List.filter_map]
  have hcolumn : (fun row : ProjectRecipient => db.canonical row.canonicalProjectIdentity == c) ∘
      rewriteRow edges now change = fun row => db.canonical row.canonicalProjectIdentity == c := by
    funext row
    rw [Function.comp_apply, (rewriteRow_fields edges now change row).1]
  rw [hcolumn]
  refine (List.map_congr_left fun row hrow => ?_).trans (List.map_id _)
  refine rewriteRow_of_ne hedges fun hkey => hproject ?_
  have hid : db.canonical row.canonicalProjectIdentity = change.canonicalProjectIdentity :=
    congrArg Prod.fst hkey
  rw [← hid]
  exact beq_iff_eq.mp (List.mem_filter.mp hrow).2

lemma filter_foldlM_applyEdgeChange (hedges : EdgesOfRows db edges) {changes : List EdgeChange}
    {c : String} (hsettled : db.canonical c = c)
    (hne : ∀ change ∈ changes, writesEdge edges change = true →
      db.canonical change.canonicalProjectIdentity ≠ c) {rows rows' : List ProjectRecipient}
    (h : changes.foldlM (applyEdgeChange edges now) rows = .ok rows') :
    (rows'.filter fun row => db.canonical row.canonicalProjectIdentity == c) =
      rows.filter fun row => db.canonical row.canonicalProjectIdentity == c := by
  refine foldlM_keeps (P := fun acc => (acc.filter fun row =>
    db.canonical row.canonicalProjectIdentity == c) = rows.filter fun row =>
      db.canonical row.canonicalProjectIdentity == c) (fun acc acc' change hchange hacc hstep => ?_)
    rfl h
  by_cases hwrites : writesEdge edges change = true
  · rw [filter_applyEdgeChange hedges hsettled (hne change hchange hwrites) hstep]
    exact hacc
  · rw [applyEdgeChange_of_not_writes (Bool.eq_false_of_not_eq_true hwrites) hstep]
    exact hacc

lemma filter_canonicalProjectRecipientRows (tables : PolicyTables) (c : String) :
    ((tables.canonicalProjectRecipientRows c).filter fun recipient =>
        recipient.canonicalProjectIdentity == c) =
      if tables.canonical c = c then
        (winningRecipients c (sortByPos (fun row => toLex (row.recipientKind, row.recipientId))
          ((tables.projectRecipients.filter fun row =>
            tables.canonical row.canonicalProjectIdentity == c).filter fun row =>
              (tables.projectAliases c c).contains row.canonicalProjectIdentity))).map fun row =>
                { row with canonicalProjectIdentity := c }
      else [] := by
  by_cases hsettled : tables.canonical c = c
  · rw [if_pos hsettled, List.filter_eq_self.mpr fun recipient hrecipient => by
      rw [tables.canonicalProjectIdentity_of_mem hrecipient, hsettled]
      exact beq_self_eq_true c]
    unfold PolicyTables.canonicalProjectRecipientRows
    dsimp only
    rw [hsettled, filter_sortByPos, List.filter_comm]
  · rw [if_neg hsettled]
    refine List.filter_eq_nil_iff.mpr fun recipient hrecipient hid => hsettled ?_
    rw [← tables.canonicalProjectIdentity_of_mem hrecipient]
    exact beq_iff_eq.mp hid

lemma events_withRecipients (input : DerivationInput) {rows : List ProjectRecipient}
    (hsame : (rows.filter fun recipient =>
        recipient.canonicalProjectIdentity == input.canonicalProjectIdentity) =
      input.projectRecipients.filter fun recipient =>
        recipient.canonicalProjectIdentity == input.canonicalProjectIdentity) :
    ({ input with projectRecipients := rows }).events = input.events := by
  have hevents : ({ input with projectRecipients := rows } : DerivationInput).recipientEvents =
      input.recipientEvents := rfl
  unfold DerivationInput.events
  dsimp only
  rw [hsame, hevents]

lemma derivation_of_sameRecipients {rows : List ProjectRecipient} {projectId : String}
    (hsame : db.canonical (db.canonical projectId) = db.canonical projectId →
      (rows.filter fun row => db.canonical row.canonicalProjectIdentity == db.canonical projectId) =
        db.projectRecipients.filter fun row =>
          db.canonical row.canonicalProjectIdentity == db.canonical projectId) :
    ({ db with projectRecipients := rows }).deriveRecipientPolicyEffectiveDevicesFromDatabase
      projectId = db.deriveRecipientPolicyEffectiveDevicesFromDatabase projectId := by
  have hrecipients : ((({ db with projectRecipients := rows } : PolicyTables)
        |>.canonicalProjectRecipientRows (db.canonical projectId)).filter fun recipient =>
          recipient.canonicalProjectIdentity == db.canonical projectId) =
      (db.canonicalProjectRecipientRows (db.canonical projectId)).filter fun recipient =>
        recipient.canonicalProjectIdentity == db.canonical projectId := by
    rw [filter_canonicalProjectRecipientRows, filter_canonicalProjectRecipientRows]
    by_cases hsettled : db.canonical (db.canonical projectId) = db.canonical projectId
    · have hsettled' : ({ db with projectRecipients := rows } : PolicyTables).canonical
          (db.canonical projectId) = db.canonical projectId := hsettled
      rw [if_pos hsettled, if_pos hsettled', ← hsame hsettled]
      rfl
    · have hsettled' : ({ db with projectRecipients := rows } : PolicyTables).canonical
          (db.canonical projectId) ≠ db.canonical projectId := hsettled
      rw [if_neg hsettled, if_neg hsettled']
  have hinput : ({ db with projectRecipients := rows } : PolicyTables).derivationInput
      (db.canonical projectId) = { db.derivationInput (db.canonical projectId) with
        projectRecipients := ({ db with projectRecipients := rows } : PolicyTables)
          |>.canonicalProjectRecipientRows (db.canonical projectId) } := by
    unfold PolicyTables.derivationInput
    dsimp only
  have hcanonical : ({ db with projectRecipients := rows } : PolicyTables).canonical projectId =
      db.canonical projectId := rfl
  unfold PolicyTables.deriveRecipientPolicyEffectiveDevicesFromDatabase
  rw [hcanonical, hinput]
  refine deriveRecipientPolicyEffectiveDevices_congr ?_ ?_
  · rfl
  · exact events_withRecipients (db.derivationInput (db.canonical projectId)) hrecipients

end Edges

namespace IdentityDb

/-- The projects whose edges a commit wrote. -/
def changedProjects (outcomes : List (EdgeChange × EdgeOutcome)) : List String :=
  (outcomes.filter fun outcome =>
    decide (outcome.2 = .added) || decide (outcome.2 = .removed)).map fun outcome =>
      outcome.1.canonicalProjectIdentity

/-- `commitRecipientPolicyEdges(db, value, options)`, with the wake of the projects that its outcomes
changed. -/
def commitEdges (projectFacts : PolicyTables → List ProjectFact)
    (digest : EdgePreviewFacts → String) (db : IdentityDb) (requested : List EdgeChange)
    (reviewedPolicyDigest now : String) : Except EdgeRequestError IdentityDb :=
  (commitRecipientPolicyEdges projectFacts digest db.policy requested reviewedPolicyDigest
      now).map fun commit =>
    ({ db with policy := commit.tables }).wakeRecipientPoliciesForProjectIdentities
      (changedProjects commit.outcomes)

lemma outcomes_of_preview {projectFacts : PolicyTables → List ProjectFact}
    {digest : EdgePreviewFacts → String} {policy : PolicyTables} {requested : List EdgeChange}
    {preview : EdgePreview}
    (h : previewRecipientPolicyEdges projectFacts digest policy requested = .ok preview) :
    preview.facts.outcomes =
      preview.changes.map fun change => (change, edgeOutcome preview.edges change) := by
  unfold previewRecipientPolicyEdges at h
  rcases hparsed : parseChanges requested with _ | parsed
  · rw [hparsed] at h
    cases h
  · rw [hparsed] at h
    dsimp only at h
    unfold buildPreview at h
    obtain ⟨changes, -, h⟩ := exists_of_bind_eq_ok h
    obtain ⟨projects, -, h⟩ := exists_of_bind_eq_ok h
    obtain ⟨recipients, -, h⟩ := exists_of_bind_eq_ok h
    obtain ⟨checked, -, h⟩ := exists_of_bind_eq_ok h
    split_ifs at h
    rw [← Except.ok.inj h]

/-- A commit of policy edges wakes the projects whose devices it changes. -/
theorem commitEdges_wakesChanges {projectFacts : PolicyTables → List ProjectFact}
    {digest : EdgePreviewFacts → String} {db after : IdentityDb} {requested : List EdgeChange}
    {reviewedPolicyDigest now : String}
    (h : db.commitEdges projectFacts digest requested reviewedPolicyDigest now =
      .ok after) : WakesChanges db after := by
  obtain ⟨commit, hcommit, hafter⟩ := exists_of_map_eq_ok h
  obtain ⟨preview, hpreview, hcommit⟩ := exists_of_bind_eq_ok hcommit
  have hedges : EdgesOfRows db.policy preview.edges := by
    rw [(previewed_of_ok hpreview).edges_eq]
    exact edgesOfRows_loadEdges _ _
  by_cases hstale : (preview.reviewedPolicyDigest != reviewedPolicyDigest) = true
  · rw [if_pos hstale] at hcommit
    cases hcommit
  rw [if_neg hstale] at hcommit
  rcases hrows : preview.changes.foldlM (applyEdgeChange preview.edges now)
    db.policy.projectRecipients with error | rows
  · rw [hrows] at hcommit
    cases hcommit
  rw [hrows] at hcommit
  rw [← Except.ok.inj hcommit] at hafter
  rw [← hafter]
  dsimp only
  rw [outcomes_of_preview hpreview]
  intro projectId row hrow hdiffers
  refine authority_wake hrow ?_
  by_contra hnot
  refine not_differs_of_eq (derivation_of_sameRecipients fun hsettled => ?_) hdiffers
  -- a change that writes rows of the project would be a target of the wake
  refine filter_foldlM_applyEdgeChange hedges hsettled (fun change hchange hwrites hsame => ?_) hrows
  refine hnot (List.mem_map.mpr ⟨change.canonicalProjectIdentity, List.mem_map.mpr
    ⟨(change, edgeOutcome preview.edges change), List.mem_filter.mpr
      ⟨List.mem_map_of_mem hchange, hwrites⟩, rfl⟩, hsame⟩)

end IdentityDb

/-! ### The switch -/

/-- Tables of identities and devices in which a device has one row. -/
structure KeyedIdentityDb where
  tables : IdentityDb
  deviceKeys : (tables.policy.identityDevices.map IdentityDevice.deviceId).Nodup

/-- A reassignment of a device changes rows of its old and its new identity only. -/
lemma assignIdentityDevice_agreeOff {policy policy' : PolicyTables}
    (hkeys : (policy.identityDevices.map IdentityDevice.deviceId).Nodup)
    {deviceId previousIdentityId targetIdentityId displayName : String}
    {expectation : Option (String × ℤ)}
    (hprevious : ∀ row, rowAt IdentityDevice.deviceId deviceId policy.identityDevices = some row →
      row.identityId = previousIdentityId)
    (h : policy.assignIdentityDevice deviceId targetIdentityId displayName expectation =
      .ok policy') : AgreeOff [previousIdentityId, targetIdentityId] policy policy' := by
  unfold PolicyTables.assignIdentityDevice at h
  rcases hbefore : rowAt IdentityDevice.deviceId deviceId policy.identityDevices with _ | before
  · rw [hbefore] at h
    obtain ⟨_, -, h⟩ := exists_of_bind_eq_ok h
    rw [← Except.ok.inj h]
    refine ⟨rfl, rfl, rfl, rfl, rfl, ?_, fun _ => false, ?_, fun row hrow => by cases hrow⟩
    · dsimp only
      rw [List.filter_append, List.filter_cons_of_neg (by simp), List.filter_nil, List.append_nil]
    · unfold updateRows
      simp
  · rw [hbefore] at h
    dsimp only at h
    obtain ⟨_, -, h⟩ := exists_of_bind_eq_ok h
    have hid := hprevious before hbefore
    split_ifs at h with hsame
    · rw [← Except.ok.inj h]
      refine ⟨rfl, rfl, rfl, rfl, rfl, rfl, fun _ => false, ?_, fun row hrow => by cases hrow⟩
      unfold updateRows
      simp
    · rw [← Except.ok.inj h]
      refine ⟨rfl, rfl, rfl, rfl, rfl, ?_, policy.clearsDecision deviceId, rfl, fun row hrow => ?_⟩
      · refine filter_updateRows_of_dropped (fun row hrow => ⟨?_, ?_⟩) _
        · simp only [Bool.and_eq_true, beq_iff_eq] at hrow
          simp [hrow.1.1.2, hid]
        · simp
      · unfold PolicyTables.clearsDecision at hrow
        simp only [Bool.and_eq_true, beq_iff_eq] at hrow
        refine ⟨hrow.1.2, fun device hdevice hsameDevice => ?_⟩
        have hfound := (rowAt_eq_some_iff hkeys).mpr ⟨hdevice, hsameDevice.trans hrow.1.1⟩
        rw [hprevious device hfound]
        exact List.mem_cons_self

lemma AgreeOff.of_identities {changed : List String} {policy policy' : PolicyTables}
    {identities : List PolicyIdentity}
    (h : AgreeOff changed { policy with identities := identities } policy')
    (hidentities : (identities.filter fun row => !changed.contains row.identityId) =
      policy.identities.filter fun row => !changed.contains row.identityId) :
    AgreeOff changed policy policy' :=
  ⟨h.repositories, h.projectRecipients, h.teams, h.teamMemberships,
    h.identities.trans hidentities, h.identityDevices, h.decisions⟩

namespace IdentityDb

lemma adoptCapture_policy {db adopted : IdentityDb} {fingerprintPublicKey : String → String}
    {device : SyncDeviceTuple} {actorId publicKey : String}
    (h : db.adoptCapture fingerprintPublicKey device actorId publicKey = .ok adopted) :
    adopted.policy = db.policy := by
  unfold adoptCapture at h
  rcases hcapture : db.localCapture with _ | captureId
  · rw [hcapture] at h
    rw [← Except.ok.inj h]
  · rw [hcapture] at h
    dsimp only at h
    split_ifs at h
    · rw [← Except.ok.inj h]
    · rcases hadopted : rowAt Prod.fst captureId db.localCaptureAdoptions with _ | stored
      · rw [hadopted] at h
        obtain ⟨_, -, h⟩ := exists_of_bind_eq_ok h
        rw [← Except.ok.inj h]
      · rw [hadopted] at h
        dsimp only at h
        split_ifs at h
        rw [← Except.ok.inj h]

lemma previous_of_current {db : IdentityDb} {row : LocalIdentitySwitch}
    (h : ((db.currentBinding row.deviceId).any fun binding =>
      binding.status != "active" || binding.identityId != row.previousIdentityId) ≠ true)
    {binding : IdentityDevice} (hbinding : db.currentBinding row.deviceId = some binding) :
    binding.identityId = row.previousIdentityId := by
  by_contra hne
  rw [hbinding] at h
  exact h (by simp [hne])

lemma switchActors_policy {db switched : IdentityDb} {row : LocalIdentitySwitch}
    {displayName : String} (h : db.switchActors row displayName = .ok switched) :
    ∃ identities, switched.policy = { db.policy with identities := identities } ∧
      (identities = db.policy.identities ∨ identities = db.policy.identities ++
        [⟨row.targetIdentityId, displayName, "active", none⟩]) := by
  obtain ⟨_, -, h⟩ := exists_of_bind_eq_ok h
  rw [← Except.ok.inj h]
  refine ⟨_, rfl, ?_⟩
  split_ifs
  · exact .inl rfl
  · exact .inr rfl

lemma switchBody_agreeOff {db after : IdentityDb}
    (hkeys : (db.policy.identityDevices.map IdentityDevice.deviceId).Nodup)
    {fingerprintPublicKey : String → String} {row : LocalIdentitySwitch}
    {displayName expectedPublicKey : String}
    (h : db.switchBody fingerprintPublicKey row displayName expectedPublicKey = .ok after) :
    AgreeOff [row.previousIdentityId, row.targetIdentityId] db.policy after.policy := by
  obtain ⟨_, -, h⟩ := exists_of_bind_eq_ok h
  obtain ⟨device, -, h⟩ := exists_of_bind_eq_ok h
  obtain ⟨_, -, h⟩ := exists_of_bind_eq_ok h
  obtain ⟨actorId, -, h⟩ := exists_of_bind_eq_ok h
  obtain ⟨_, -, h⟩ := exists_of_bind_eq_ok h
  obtain ⟨adopted, hadopted, h⟩ := exists_of_bind_eq_ok h
  obtain ⟨switched, hswitched, h⟩ := exists_of_bind_eq_ok h
  obtain ⟨bound, hbound, h⟩ := exists_of_bind_eq_ok h
  obtain ⟨_, hcurrent, hbound⟩ := exists_of_bind_eq_ok hbound
  obtain ⟨policy, hassigned, hbound⟩ := exists_of_bind_eq_ok hbound
  have hafter : after.policy = policy := by
    rw [← Except.ok.inj h, ← Except.ok.inj hbound]
    rfl
  obtain ⟨identities, hswitchedPolicy, hidentities⟩ := switchActors_policy hswitched
  rw [adoptCapture_policy hadopted] at hswitchedPolicy hidentities
  have hdevices : switched.policy.identityDevices = db.policy.identityDevices := by
    rw [hswitchedPolicy]
  have hagree : AgreeOff [row.previousIdentityId, row.targetIdentityId] switched.policy policy :=
    assignIdentityDevice_agreeOff (by rw [hdevices]; exact hkeys)
      (fun binding hbinding => previous_of_current (not_of_rejectIf_eq_ok hcurrent) hbinding)
      hassigned
  rw [hafter]
  rw [hswitchedPolicy] at hagree
  refine hagree.of_identities ?_
  rcases hidentities with hsame | hadded
  · rw [hsame]
  · rw [hadded, List.filter_append, List.filter_cons_of_neg (by simp), List.filter_nil,
      List.append_nil]

end IdentityDb

/-! ### The writes -/

/-- What the writes take from elsewhere: the inventory of devices, the facts about projects, the
digests and the fingerprint of a key. -/
structure IdentityWriteTools where
  binding : BindingTools
  projectFacts : PolicyTables → List ProjectFact
  edgeDigest : EdgePreviewFacts → String
  fingerprintPublicKey : String → String

/-- A call that changes identities, devices or recipients. -/
inductive IdentityWrite where
  | commitDeviceIdentityBindings (localActorId : String)
      (bindings : List DeviceIdentityBindingSelection) (reviewedInventoryDigest : String)
  | commitRecipientPolicyEdges (requested : List EdgeChange) (reviewedPolicyDigest now : String)
  | applyLocalIdentitySwitch (attemptId displayName expectedPublicKey : String)
      (context : LocalIdentitySwitchContext)

/-- The tables after a call that commits. -/
def IdentityWrite.run (tools : IdentityWriteTools) (db : IdentityDb) :
    IdentityWrite → Except String IdentityDb
  | commitDeviceIdentityBindings localActorId bindings reviewedInventoryDigest =>
    match db.commitDeviceIdentityBindings tools.binding localActorId bindings
        reviewedInventoryDigest with
    | (.error refusal, _) => .error refusal.errorCode
    | (.ok _, after) => .ok after
  | commitRecipientPolicyEdges requested reviewedPolicyDigest now =>
    match db.commitEdges tools.projectFacts tools.edgeDigest requested reviewedPolicyDigest now with
    | .error refusal => .error refusal.errorCode
    | .ok after => .ok after
  | applyLocalIdentitySwitch attemptId displayName expectedPublicKey context =>
    db.applyLocalIdentitySwitch tools.fingerprintPublicKey attemptId displayName expectedPublicKey
      context

/-- The call needs no wake of its own: it is no switch, or no project with an authority row is shared
with the previous or the target identity, directly or through a team. -/
def IdentityWrite.NeedsNoWake (db : IdentityDb) : IdentityWrite → Prop
  | applyLocalIdentitySwitch attemptId _ _ _ =>
    ∀ row, db.readSwitch attemptId = some row → row.state = .coordinatorBound →
      ∀ projectId authority, db.authority projectId = some authority →
        ∀ identityId ∈ [row.previousIdentityId, row.targetIdentityId],
          ∀ reached ∈ db.projectsOfIdentity identityId,
            db.policy.canonical reached ≠ db.policy.canonical projectId
  | _ => True

/-- A call that commits and needs no wake of its own wakes every project whose devices or eligibility
it changes. -/
theorem wakesChanges_of_needsNoWake (tools : IdentityWriteTools) (db : KeyedIdentityDb)
    (write : IdentityWrite) (after : IdentityDb) (h : write.run tools db.tables = .ok after)
    (hneeds : write.NeedsNoWake db.tables) : WakesChanges db.tables after := by
  rcases write with ⟨localActorId, bindings, digest⟩ | ⟨requested, digest, now⟩ |
    ⟨attemptId, displayName, expectedPublicKey, context⟩
  · unfold IdentityWrite.run at h
    dsimp only at h
    rcases hresult : db.tables.commitDeviceIdentityBindings tools.binding localActorId bindings
      digest with ⟨refusal | commit, tables⟩
    · rw [hresult] at h
      cases h
    · rw [hresult] at h
      rw [← Except.ok.inj h]
      exact IdentityDb.commitDeviceIdentityBindings_wakesChanges hresult
  · unfold IdentityWrite.run at h
    dsimp only at h
    rcases hresult : db.tables.commitEdges tools.projectFacts tools.edgeDigest requested digest now
      with refusal | tables
    · rw [hresult] at h
      cases h
    · rw [hresult] at h
      rw [← Except.ok.inj h]
      exact IdentityDb.commitEdges_wakesChanges hresult
  · obtain ⟨_, -, h⟩ := exists_of_bind_eq_ok h
    rcases hrow : db.tables.readSwitch attemptId with _ | row
    · rw [hrow] at h
      cases h
    · rw [hrow] at h
      dsimp only at h
      split_ifs at h with hdone
      · rw [← Except.ok.inj h]
        exact fun projectId authority _ hdiffers =>
          (IdentityDb.not_differs_of_eq rfl hdiffers).elim
      · obtain ⟨_, -, h⟩ := exists_of_bind_eq_ok h
        have hstate : row.state = .coordinatorBound := by
          obtain ⟨_, hchecked, -⟩ := exists_of_bind_eq_ok h
          exact not_not.mp (not_of_rejectIf_eq_ok hchecked)
        exact IdentityDb.wakesChanges_of_unreached (IdentityDb.switchBody_agreeOff db.deviceKeys h)
          (hneeds row hrow hstate)

/-! ### A switch that wakes nothing -/

def boundInventoryTools : IdentityWriteTools where
  binding :=
    { listDeviceIdentityInventory := fun db => ⟨db.policy.identityDevices.map fun row =>
        ⟨row.deviceId, [row.deviceId], row.displayName, .configured, some row.identityId, none, true,
          ["identity_binding"], []⟩, true, none, false⟩
      previewDigest := fun _ => "reviewed"
      commitDigest := fun _ reviewed => "commit:" ++ reviewed }
  projectFacts := fun _ => []
  edgeDigest := fun _ => "edges"
  fingerprintPublicKey := fun key => "SHA256:" ++ key

/-- A project is shared with Ada, whose laptop is this device; the coordinator has bound the laptop to
Bob. -/
def boundSwitchTables : KeyedIdentityDb where
  tables :=
    { policy :=
        { resolveGitRepositoryIdentity := fun _ => none
          sessions := []
          identities := [⟨"ada", "Ada", "active", none⟩, ⟨"bob", "Bob", "active", none⟩]
          teams := []
          teamMemberships := []
          teamDeviceDecisions := []
          identityDevices := [⟨"laptop", "ada", "Laptop", "active", 0⟩]
          projectRecipients := [⟨"project", "identity", "ada", "active", "2026"⟩]
          projectScopeMappings := []
          replicationScopes := [] }
      localActorIds := ["ada"]
      authorityStates := [{ AuthorityState.fresh "project" 0 with lastAttemptAt := some 1 }]
      bindingCommits := []
      bindingAudit := []
      syncDevices := [⟨"laptop", "ssh-ed25519 key", "SHA256:key"⟩]
      localCapture := none
      localCaptureAdoptions := []
      switches := [⟨"attempt", "laptop", "ada", "bob", .coordinatorBound⟩]
      generation := none }
  deviceKeys := by decide

/-- A user rebinds the laptop to Bob. -/
def laptopRebind : IdentityWrite :=
  .commitDeviceIdentityBindings "ada" [⟨"laptop", "bob", true, some true⟩] "reviewed"

/-- The rebind commits and wakes the project. -/
theorem wakesChanges_of_rebind : ∃ after,
    laptopRebind.run boundInventoryTools boundSwitchTables.tables = .ok after ∧
      WakesChanges boundSwitchTables.tables after := by
  rcases hrun : laptopRebind.run boundInventoryTools boundSwitchTables.tables with error | after
  · have hcommits : (laptopRebind.run boundInventoryTools
        boundSwitchTables.tables).toOption.isSome = true := by
      decide +kernel
    rw [hrun] at hcommits
    cases hcommits
  · exact ⟨after, rfl, wakesChanges_of_needsNoWake boundInventoryTools boundSwitchTables laptopRebind
      after hrun trivial⟩

def laptopSwitch : IdentityWrite :=
  .applyLocalIdentitySwitch "attempt" "Bob" "ssh-ed25519 key" ⟨none, none, "ada"⟩

/-- The switch takes the laptop away from the project and leaves the policy asleep. -/
theorem laptopSwitch_wakes_nothing : ¬ ∀ after,
    laptopSwitch.run boundInventoryTools boundSwitchTables.tables = .ok after →
      WakesChanges boundSwitchTables.tables after := by
  intro h
  have hrun : (laptopSwitch.run boundInventoryTools boundSwitchTables.tables).toOption.map
      (fun after => ((after.derivation "project").devices.length,
        (after.authority "project").map AuthorityState.lastAttemptAt)) = some (0, some (some 1)) := by
    decide +kernel
  have hbefore : (boundSwitchTables.tables.derivation "project").devices.length = 1 := by
    decide +kernel
  have hauthority : (boundSwitchTables.tables.authority "project").isSome = true := by
    decide +kernel
  rcases hresult : laptopSwitch.run boundInventoryTools boundSwitchTables.tables with error | after
  · rw [hresult] at hrun
    cases hrun
  · rw [hresult] at hrun
    obtain ⟨hdevices, hasleep⟩ := Prod.mk.inj (Option.some.inj hrun)
    obtain ⟨row, hrow⟩ := Option.isSome_iff_exists.mp hauthority
    obtain ⟨row', hrow', hwoken, -⟩ := h after hresult "project" row hrow
      (.inl fun hsame => by rw [hsame, hbefore] at hdevices; cases hdevices)
    rw [hrow', Option.map_some, hwoken] at hasleep
    cases hasleep

end Codemem

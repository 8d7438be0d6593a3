import Codemem.Coordinator.Ed25519KeyId
import Codemem.Recipients.AuthorityTables
import Codemem.Recipients.DerivationFrame
import Codemem.Recipients.EdgeRows

/-!
# Waking policies

The tables that the writers of identities and devices share, and the wake of the projects whose
policies a change may concern: the reconciler takes up a project whose last attempt is forgotten, and
notices a wake during its run by the wake epoch.
-/

namespace Codemem

/-! ### Tables -/

/-- A row of `sync_device`. -/
structure SyncDeviceTuple where
  deviceId : String
  publicKey : String
  fingerprint : String
deriving DecidableEq

inductive LocalIdentitySwitchState where
  | pending
  | coordinatorBound
  | dbCommitted
  | completed
  | notCommitted
deriving DecidableEq

/-- A row of `local_identity_switches`, as far as the local switch reads it. -/
structure LocalIdentitySwitch where
  attemptId : String
  deviceId : String
  previousIdentityId : String
  targetIdentityId : String
  state : LocalIdentitySwitchState
deriving DecidableEq

/-- `DeviceIdentityBindingActionV1`. -/
inductive DeviceIdentityBindingAction where
  | bind
  | rebind
  | unchanged
deriving DecidableEq

/-- `DeviceIdentityBindingOutcomeV1`. -/
structure DeviceIdentityBindingOutcome where
  deviceId : String
  displayName : String
  targetIdentityId : String
  previousIdentityId : Option String
  action : DeviceIdentityBindingAction
  isLocal : Bool
deriving DecidableEq

/-- A binding of a request as `normalizedRequest` lists it. -/
structure NormalizedBinding where
  deviceId : String
  targetIdentityId : String
  confirmed : Bool
  allowRebind : Bool
deriving DecidableEq

/-- A row of `device_identity_binding_commits`; its texts are modelled by their contents. -/
structure StoredBindingCommit where
  commitDigest : String
  request : List NormalizedBinding
  outcomes : List DeviceIdentityBindingOutcome
deriving DecidableEq

/-- The tables of identities and devices.  `localActorIds` are the actors with `is_local = 1`, and
`bindingAudit` has the keys of `device_identity_binding_audit`. -/
structure IdentityDb where
  policy : PolicyTables
  localActorIds : List String
  authorityStates : List AuthorityState
  bindingCommits : List StoredBindingCommit
  bindingAudit : List (String × String)
  syncDevices : List SyncDeviceTuple
  localCapture : Option String
  localCaptureAdoptions : List (String × SyncDeviceTuple)
  switches : List LocalIdentitySwitch
  generation : Option (ℕ × String)

namespace IdentityDb

variable (db : IdentityDb)

def authority (projectId : String) : Option AuthorityState :=
  rowAt AuthorityState.canonicalProjectIdentity projectId db.authorityStates

def currentBinding (deviceId : String) : Option IdentityDevice :=
  rowAt IdentityDevice.deviceId deviceId db.policy.identityDevices

def isActiveUnmergedActor (actorId : String) : Bool :=
  (rowAt PolicyIdentity.identityId actorId db.policy.identities).any fun actor =>
    actor.status == "active" && actor.mergedIntoIdentityId.isNone

def isActiveUnmergedLocalActor (actorId : String) : Bool :=
  db.localActorIds.contains actorId && db.isActiveUnmergedActor actorId

/-! ### Waking -/

/-- What a wake sets in an authority row. -/
def wokenRow (row : AuthorityState) : AuthorityState :=
  { row with lastAttemptAt := none, wakeEpoch := row.wakeEpoch + 1 }

def wakeRecipientPoliciesForProjectIdentities (projectIdentities : List String) : IdentityDb :=
  let targets := projectIdentities.map db.policy.canonical
  { db with
    authorityStates := updateRows
      (fun row => targets.contains (db.policy.canonical row.canonicalProjectIdentity)) wokenRow
      db.authorityStates }

/-- The projects with an active recipient that stands for the identity or for a team of it. -/
def projectsOfIdentity (identityId : String) : List String :=
  ((db.policy.projectRecipients.filter (db.policy.reaches identityId)).map
    ProjectRecipient.canonicalProjectIdentity).eraseDups

def wakeRecipientPoliciesForIdentities (identityIds : List String) : IdentityDb :=
  db.wakeRecipientPoliciesForProjectIdentities (identityIds.flatMap db.projectsOfIdentity)

def derivation (projectId : String) : Derivation :=
  db.policy.deriveRecipientPolicyEffectiveDevicesFromDatabase projectId

end IdentityDb

/-- Every project with an authority row whose list of devices or eligibility has changed is woken: its
last attempt is forgotten and its wake epoch has grown. -/
def WakesChanges (before after : IdentityDb) : Prop :=
  ∀ projectId row, before.authority projectId = some row →
    (after.derivation projectId).devices ≠ (before.derivation projectId).devices ∨
      (after.derivation projectId).eligible ≠ (before.derivation projectId).eligible →
    ∃ row', after.authority projectId = some row' ∧ row'.lastAttemptAt = none ∧
      row.wakeEpoch < row'.wakeEpoch

namespace IdentityDb

variable {before after db : IdentityDb} {projectIds : List String}

@[simp] lemma wake_policy (db : IdentityDb) (projectIds : List String) :
    (db.wakeRecipientPoliciesForProjectIdentities projectIds).policy = db.policy := rfl

lemma authority_wake {projectId : String} {row : AuthorityState}
    (hrow : db.authority projectId = some row)
    (htarget : db.policy.canonical projectId ∈ projectIds.map db.policy.canonical) :
    ∃ row', (db.wakeRecipientPoliciesForProjectIdentities projectIds).authority projectId =
      some row' ∧ row'.lastAttemptAt = none ∧ row.wakeEpoch < row'.wakeEpoch := by
  have hkey : row.canonicalProjectIdentity = projectId := (rowAt_eq_some hrow).2
  refine ⟨wokenRow row, ?_, rfl, Nat.lt_succ_self _⟩
  have hlookup : (db.wakeRecipientPoliciesForProjectIdentities projectIds).authority projectId =
      (db.authority projectId).map fun row =>
        if (projectIds.map db.policy.canonical).contains
          (db.policy.canonical row.canonicalProjectIdentity) then wokenRow row else row := by
    refine rowAt_updateRows ?_ _ _
    exact fun _ => rfl
  rw [hlookup, hrow, Option.map_some, hkey, if_pos (List.contains_iff_mem.mpr htarget)]

lemma exists_stored_of_mem {db : PolicyTables} {c : String} {recipient : ProjectRecipient}
    (h : recipient ∈ db.canonicalProjectRecipientRows c) :
    ∃ stored ∈ db.projectRecipients, db.canonical stored.canonicalProjectIdentity = db.canonical c ∧
      recipient = { stored with canonicalProjectIdentity := db.canonical c } := by
  unfold PolicyTables.canonicalProjectRecipientRows at h
  obtain ⟨stored, hstored, hrow⟩ := List.mem_map.mp h
  have hread := mem_of_mem_winningRecipients hstored
  rw [List.mem_filter, mem_sortByPos, List.mem_filter] at hread
  exact ⟨stored, hread.1.1, beq_iff_eq.mp hread.2, hrow.symm⟩

lemma reaches_withProject (db : PolicyTables) (identityId c : String) (row : ProjectRecipient) :
    db.reaches identityId { row with canonicalProjectIdentity := c } = db.reaches identityId row :=
  rfl

lemma not_differs_of_eq {derivation derivation' : Derivation} (h : derivation' = derivation)
    (hdiffers : derivation'.devices ≠ derivation.devices ∨
      derivation'.eligible ≠ derivation.eligible) : False := by
  rw [h] at hdiffers
  rcases hdiffers with hdevices | heligible
  · exact hdevices rfl
  · exact heligible rfl

lemma exists_reached {changed : List String} {policy policy' : PolicyTables} {projectId : String}
    (hagree : AgreeOff changed policy policy')
    (hdiffers : policy'.deriveRecipientPolicyEffectiveDevicesFromDatabase projectId ≠
      policy.deriveRecipientPolicyEffectiveDevicesFromDatabase projectId) :
    ∃ identityId ∈ changed, isStrictRecipientPolicyId identityId = true ∧
      ∃ stored ∈ policy.projectRecipients, policy.reaches identityId stored = true ∧
      policy.canonical stored.canonicalProjectIdentity = policy.canonical projectId := by
  by_contra hnone
  refine hdiffers (hagree.derivation projectId
    fun hsettled recipient hrecipient identityId hchanged hstrict => ?_)
  by_contra hreaches
  obtain ⟨stored, hstored, hcanonical, hsame⟩ := exists_stored_of_mem hrecipient
  rw [hsame, reaches_withProject] at hreaches
  exact hnone ⟨identityId, hchanged, hstrict, stored, hstored, Bool.eq_true_of_not_eq_false hreaches,
    hcanonical.trans hsettled⟩

/-- A change of identities and their devices wakes every project that it concerns, when all its strict
identifiers are asked for. -/
theorem wakesChanges_of_agreeOff {changed asked : List String}
    (hagree : AgreeOff changed before.policy db.policy)
    (hasked : ∀ identityId ∈ changed, isStrictRecipientPolicyId identityId = true →
      identityId ∈ asked)
    (hauthority : db.authorityStates = before.authorityStates) :
    WakesChanges before (db.wakeRecipientPoliciesForIdentities asked) := by
  intro projectId row hrow hdiffers
  have hrow' : db.authority projectId = some row := by
    unfold authority
    rw [hauthority]
    exact hrow
  refine authority_wake hrow' ?_
  by_cases hsame : db.derivation projectId = before.derivation projectId
  · exact (not_differs_of_eq hsame hdiffers).elim
  · obtain ⟨identityId, hchanged, hstrict, stored, hstored, hreaches, hcanonical⟩ :=
      exists_reached hagree hsame
    refine List.mem_map.mpr ⟨stored.canonicalProjectIdentity,
      List.mem_flatMap.mpr ⟨identityId, hasked _ hchanged hstrict, ?_⟩, ?_⟩
    · refine List.mem_eraseDups.mpr (List.mem_map_of_mem (List.mem_filter.mpr ⟨?_, ?_⟩))
      · rw [hagree.projectRecipients]
        exact hstored
      · unfold PolicyTables.reaches PolicyTables.teamsOfIdentity at hreaches ⊢
        rw [hagree.teamMemberships, hagree.teams]
        exact hreaches
    · rw [hagree.canonical]
      exact hcanonical

/-- A change of identities that concerns no project with an authority row needs no wake. -/
theorem wakesChanges_of_unreached {changed : List String}
    (hagree : AgreeOff changed before.policy after.policy)
    (hunreached : ∀ projectId row, before.authority projectId = some row →
      ∀ identityId ∈ changed, ∀ reached ∈ before.projectsOfIdentity identityId,
        before.policy.canonical reached ≠ before.policy.canonical projectId) :
    WakesChanges before after := by
  intro projectId row hrow hdiffers
  by_cases hsame : after.derivation projectId = before.derivation projectId
  · exact (not_differs_of_eq hsame hdiffers).elim
  · obtain ⟨identityId, hchanged, -, stored, hstored, hreaches, hcanonical⟩ :=
      exists_reached hagree hsame
    refine absurd hcanonical (hunreached projectId row hrow identityId hchanged _ ?_)
    exact List.mem_eraseDups.mpr (List.mem_map_of_mem (List.mem_filter.mpr ⟨hstored, hreaches⟩))

end IdentityDb

end Codemem

import Codemem.Coordinator.AuditedMemberships

/-!
# Scope epochs fence members

Every member that an authorization of the D1 store returns meets the epoch of the scope at the moment
of the last query.  The epochs of the scopes themselves, and the fields that an update does not name,
survive exactly the runs in which no update writes back a row that has changed since it was read.
-/

namespace Codemem

/-! ### Updates -/

/-- The columns of a scope that an update does not name have the same values in two rows. -/
structure SameUnnamed (opts : CoordinatorUpdateScopeInput) (row row' : CoordinatorScope) :
    Prop where
  label : opts.label = none → row'.label = row.label
  kind : opts.kind = none → row'.kind = row.kind
  authorityType : opts.authorityType = none → row'.authorityType = row.authorityType
  coordinatorId : opts.coordinatorId = none → row'.coordinatorId = row.coordinatorId
  groupId : opts.groupId = none → row'.groupId = row.groupId
  manifestIssuerDeviceId : opts.manifestIssuerDeviceId = none →
    row'.manifestIssuerDeviceId = row.manifestIssuerDeviceId
  membershipEpoch : opts.membershipEpoch = .absent → row'.membershipEpoch = row.membershipEpoch
  manifestHash : opts.manifestHash = none → row'.manifestHash = row.manifestHash
  status : opts.status = none → row'.status = row.status

instance (opts : CoordinatorUpdateScopeInput) (row row' : CoordinatorScope) :
    Decidable (SameUnnamed opts row row') :=
  decidable_of_iff ((opts.label = none → row'.label = row.label) ∧
      (opts.kind = none → row'.kind = row.kind) ∧
      (opts.authorityType = none → row'.authorityType = row.authorityType) ∧
      (opts.coordinatorId = none → row'.coordinatorId = row.coordinatorId) ∧
      (opts.groupId = none → row'.groupId = row.groupId) ∧
      (opts.manifestIssuerDeviceId = none →
        row'.manifestIssuerDeviceId = row.manifestIssuerDeviceId) ∧
      (opts.membershipEpoch = .absent → row'.membershipEpoch = row.membershipEpoch) ∧
      (opts.manifestHash = none → row'.manifestHash = row.manifestHash) ∧
      (opts.status = none → row'.status = row.status))
    ⟨fun ⟨h₁, h₂, h₃, h₄, h₅, h₆, h₇, h₈, h₉⟩ => ⟨h₁, h₂, h₃, h₄, h₅, h₆, h₇, h₈, h₉⟩,
      fun ⟨h₁, h₂, h₃, h₄, h₅, h₆, h₇, h₈, h₉⟩ => ⟨h₁, h₂, h₃, h₄, h₅, h₆, h₇, h₈, h₉⟩⟩

lemma SameUnnamed.trans {opts : CoordinatorUpdateScopeInput} {a b c : CoordinatorScope}
    (h : SameUnnamed opts a b) (h' : SameUnnamed opts b c) : SameUnnamed opts a c where
  label hnone := (h'.label hnone).trans (h.label hnone)
  kind hnone := (h'.kind hnone).trans (h.kind hnone)
  authorityType hnone := (h'.authorityType hnone).trans (h.authorityType hnone)
  coordinatorId hnone := (h'.coordinatorId hnone).trans (h.coordinatorId hnone)
  groupId hnone := (h'.groupId hnone).trans (h.groupId hnone)
  manifestIssuerDeviceId hnone :=
    (h'.manifestIssuerDeviceId hnone).trans (h.manifestIssuerDeviceId hnone)
  membershipEpoch hnone := (h'.membershipEpoch hnone).trans (h.membershipEpoch hnone)
  manifestHash hnone := (h'.manifestHash hnone).trans (h.manifestHash hnone)
  status hnone := (h'.status hnone).trans (h.status hnone)

lemma SameUnnamed.symm {opts : CoordinatorUpdateScopeInput} {a b : CoordinatorScope}
    (h : SameUnnamed opts a b) : SameUnnamed opts b a where
  label hnone := (h.label hnone).symm
  kind hnone := (h.kind hnone).symm
  authorityType hnone := (h.authorityType hnone).symm
  coordinatorId hnone := (h.coordinatorId hnone).symm
  groupId hnone := (h.groupId hnone).symm
  manifestIssuerDeviceId hnone := (h.manifestIssuerDeviceId hnone).symm
  membershipEpoch hnone := (h.membershipEpoch hnone).symm
  manifestHash hnone := (h.manifestHash hnone).symm
  status hnone := (h.status hnone).symm

lemma cleanRequiredUpdate_none {current fieldName cleaned : String}
    (h : cleanRequiredUpdate none current fieldName = .ok cleaned) : cleaned = current :=
  (Except.ok.inj h).symm

/-- The row that an update writes agrees with the row it has read on what the update does not
name. -/
lemma ScopeUpdate.sameUnnamed_existing (update : ScopeUpdate) (now : String)
    (stored : CoordinatorScope) :
    SameUnnamed update.opts update.existing (update.scope.updated now stored) := by
  have h := update.normalized
  unfold normalizeCoordinatorUpdateScopeInput at h
  rcases hscope : cleanText update.opts.scopeId with _ | scopeId
  · rw [hscope] at h
    cases h
  · rw [hscope] at h
    obtain ⟨requested, hrequested, h⟩ := exists_of_bind_eq_ok h
    obtain ⟨epoch, hepoch, h⟩ := exists_of_bind_eq_ok h
    obtain ⟨label, hlabel, h⟩ := exists_of_bind_eq_ok h
    obtain ⟨kind, hkind, h⟩ := exists_of_bind_eq_ok h
    obtain ⟨authorityType, hauthority, h⟩ := exists_of_bind_eq_ok h
    obtain ⟨status, hstatus, h⟩ := exists_of_bind_eq_ok h
    unfold NormalizedScope.updated NormalizedScope.created
    rw [← Except.ok.inj h]
    constructor
    · intro hnone
      rw [hnone] at hlabel
      exact cleanRequiredUpdate_none hlabel
    · intro hnone
      rw [hnone] at hkind
      exact cleanRequiredUpdate_none hkind
    · intro hnone
      rw [hnone] at hauthority
      exact cleanRequiredUpdate_none hauthority
    · intro hnone
      dsimp only
      rw [hnone]
      rfl
    · intro hnone
      dsimp only
      rw [hnone]
      rfl
    · intro hnone
      dsimp only
      rw [hnone]
      rfl
    · intro habsent
      rw [habsent] at hrequested
      rw [← Except.ok.inj hrequested] at hepoch
      exact (Except.ok.inj hepoch).symm
    · intro hnone
      dsimp only
      rw [hnone]
      rfl
    · intro hnone
      rw [hnone] at hstatus
      exact cleanRequiredUpdate_none hstatus

/-- The scope has not changed since the update read it, as far as the update writes back what it has
read, and the epoch that the update writes is not lower than the stored one. -/
def ScopeUpdate.Current (update : ScopeUpdate) (stored : CoordinatorScope) : Prop :=
  SameUnnamed update.opts update.existing stored ∧
    stored.membershipEpoch ≤ update.scope.membershipEpoch

instance (update : ScopeUpdate) (stored : CoordinatorScope) : Decidable (update.Current stored) :=
  inferInstanceAs (Decidable (_ ∧ _))

lemma ScopeUpdate.current_iff (update : ScopeUpdate) (now : String) (stored : CoordinatorScope) :
    ScopeAdvances stored (update.scope.updated now stored) ∧
        SameUnnamed update.opts stored (update.scope.updated now stored) ↔
      update.Current stored := by
  have hexisting := update.sameUnnamed_existing now stored
  constructor
  · rintro ⟨hadvances, hsame⟩
    exact ⟨hexisting.trans hsame.symm, hadvances⟩
  · rintro ⟨hsame, hepoch⟩
    exact ⟨hepoch, hsame.symm.trans hexisting⟩

lemma getScope_updateScopeRow (tables : ScopeTables) (scope : NormalizedScope) (now : String)
    (scopeId : String) : (tables.updateScopeRow scope now).getScope scopeId =
      (tables.getScope scopeId).map fun stored =>
        if scopeId = scope.scopeId then scope.updated now stored else stored := by
  unfold ScopeTables.updateScopeRow ScopeTables.getScope updateRows
  dsimp only
  rw [rowAt_map]
  · rcases hstored : rowAt CoordinatorScope.scopeId scopeId tables.scopes with _ | stored
    · rfl
    · rw [Option.map_some, Option.map_some, ← (rowAt_eq_some hstored).2]
      by_cases hsame : stored.scopeId = scope.scopeId
      · simp [hsame]
      · simp [hsame]
  · intro row
    split_ifs
    · rfl
    · rfl

/-- The rows of the scopes move forward. -/
def ScopesAdvance (before after : ScopeTables) : Prop :=
  Evolves CoordinatorScope.scopeId ScopeAdvances before.scopes after.scopes

/-- An update keeps what it does not name in the stored row. -/
def UpdateKeepsUnnamed (before after : ScopeTables) (update : ScopeUpdate) : Prop :=
  ∀ stored, before.getScope update.scope.scopeId = some stored →
    ∀ stored', after.getScope update.scope.scopeId = some stored' →
      SameUnnamed update.opts stored stored'

/-- The stored scope has not changed since the update read it. -/
def ScopeTables.CurrentFor (tables : ScopeTables) (update : ScopeUpdate) : Prop :=
  (tables.getScope update.scope.scopeId).all (fun stored => decide (update.Current stored)) = true

instance (tables : ScopeTables) (update : ScopeUpdate) : Decidable (tables.CurrentFor update) :=
  inferInstanceAs (Decidable (_ = true))

lemma updateScopeRow_iff (tables : ScopeTables) (update : ScopeUpdate) (now : String) :
    ScopesAdvance tables (tables.updateScopeRow update.scope now) ∧
        UpdateKeepsUnnamed tables (tables.updateScopeRow update.scope now) update ↔
      tables.CurrentFor update := by
  have hread := getScope_updateScopeRow tables update.scope now
  unfold ScopeTables.CurrentFor
  rw [Option.all_eq_true]
  constructor
  · rintro ⟨hadvances, hkeeps⟩ stored hstored
    have hwritten := hread update.scope.scopeId
    rw [hstored, Option.map_some, if_pos rfl] at hwritten
    obtain ⟨row, hrow, hforward⟩ := hadvances update.scope.scopeId stored hstored
    obtain rfl := Option.some.inj (hwritten.symm.trans hrow)
    exact decide_eq_true ((update.current_iff now stored).mp
      ⟨hforward, hkeeps stored hstored _ hwritten⟩)
  · intro hcurrent
    refine ⟨fun scopeId stored hstored => ?_, fun stored hstored stored' hstored' => ?_⟩
    · have hwritten := hread scopeId
      have hget : tables.getScope scopeId = some stored := hstored
      rw [hget, Option.map_some] at hwritten
      refine ⟨_, hwritten, ?_⟩
      split_ifs with hsame
      · rw [hsame] at hget
        exact ((update.current_iff now stored).mpr (of_decide_eq_true (hcurrent stored hget))).1
      · exact le_rfl
    · have hwritten := hread update.scope.scopeId
      rw [hstored, Option.map_some, if_pos rfl] at hwritten
      obtain rfl := Option.some.inj (hwritten.symm.trans hstored')
      exact ((update.current_iff now stored).mpr (of_decide_eq_true (hcurrent stored hstored))).2

/-! ### Authorized members -/

section Members

variable (primitives : SignaturePrimitives)

/-- A member that an authorization may return: an active membership of the epoch of the scope, and an
enabled enrollment in the group of the scope that is not revoked. -/
structure CurrentMember (tables : ScopeTables) (scope : CoordinatorScope)
    (member : SnapshotMember) : Prop where
  scope_stored : scope ∈ tables.scopes
  membership_stored : member.membership ∈ tables.memberships
  ofScope : member.membership.scopeId = scope.scopeId
  active : member.membership.status = "active"
  epoch : scope.membershipEpoch ≤ member.membership.membershipEpoch
  enrolled : ∃ row ∈ tables.devices.enrolledDevices,
    row.deviceId = member.membership.deviceId ∧ some row.groupId = scope.groupId ∧
      row.enabled = true ∧ row.captured = member.enrollment ∧
      tables.devices.revoked row.deviceId
        (ed25519KeyIdForRevocation primitives row.publicKey) = false

/-- What an authorization has captured so far belongs together. -/
def ScopeStage.Sound : ScopeStage → Prop
  | authorizationGroup groupId scope => scope.groupId = some groupId
  | authorizationMemberships groupId scope => scope.groupId = some groupId
  | authorizationEnrollments groupId scope memberships => scope.groupId = some groupId ∧
      ∀ membership ∈ memberships, isCurrentScopeMember scope membership = true
  | authorizationFinal groupId scope members => scope.groupId = some groupId ∧
      ∀ member ∈ members, isCurrentScopeMember scope member.membership = true ∧
        member.enrollment.deviceId = member.membership.deviceId ∧
        member.enrollment.groupId = groupId ∧
        ed25519KeyIdForRevocation primitives member.enrollment.publicKey = some member.keyId
  | _ => True

/-- A call that goes on has captured what belongs together; one that ends with an authorization
returns current members. -/
def ScopeProgress.Sound (tables : ScopeTables) : ScopeProgress → Prop
  | .suspended stage => stage.Sound primitives
  | .ended (.ok (.authorization (.authorized scope members))) =>
    ∀ member ∈ members, CurrentMember primitives tables scope member
  | .ended _ => True

lemma of_isCurrentScopeMember {scope : CoordinatorScope} {member : CoordinatorScopeMembership}
    (h : isCurrentScopeMember scope member = true) :
    member.scopeId = scope.scopeId ∧ member.status = "active" ∧
      scope.membershipEpoch ≤ member.membershipEpoch := by
  unfold isCurrentScopeMember at h
  split_ifs at h with hother
  simp only [not_or, ne_eq, not_not, not_lt] at hother
  exact hother

variable {primitives}

lemma sound_afterCapture {α : Type} {tables : ScopeTables} {step : Except String α}
    {next : α → ScopeProgress} (h : ∀ value, step = .ok value → (next value).Sound primitives tables) :
    (ScopeProgress.afterCapture step next).Sound primitives tables := by
  rcases step with error | value
  · trivial
  · exact h value rfl

lemma captureScopeMemberships_current {tables : ScopeTables} {scope : CoordinatorScope}
    {memberships : List CoordinatorScopeMembership}
    (h : captureScopeMemberships tables scope = .ok memberships)
    {membership : CoordinatorScopeMembership} (hmem : membership ∈ memberships) :
    isCurrentScopeMember scope membership = true := by
  obtain ⟨found, hfound, rfl⟩ := exists_of_map_eq_ok h
  obtain ⟨row, -, hrow⟩ := exists_of_mem_mapM hfound (List.reduceOption_mem_iff.mp hmem)
  unfold captureScopeMembership at hrow
  obtain ⟨_, -, hrow⟩ := exists_of_bind_eq_ok hrow
  by_cases hactive : row.status ≠ "active"
  · rw [if_pos hactive] at hrow
    cases hrow
  · rw [if_neg hactive] at hrow
    obtain ⟨_, -, hrow⟩ := exists_of_bind_eq_ok hrow
    by_cases hcurrent : isCurrentScopeMember scope row = true
    · rw [if_pos hcurrent] at hrow
      rw [← Option.some.inj (Except.ok.inj hrow)]
      exact hcurrent
    · rw [if_neg hcurrent] at hrow
      cases hrow

lemma captureScopeEnrollments_group {tables : ScopeTables}
    {memberships : List CoordinatorScopeMembership} {groupId : String}
    {enrollments : List CoordinatorEnrollment}
    (h : captureScopeEnrollments tables memberships groupId = .ok enrollments)
    {enrollment : CoordinatorEnrollment} (hmem : enrollment ∈ enrollments) :
    enrollment.groupId = groupId := by
  obtain ⟨found, hfound, hcheck⟩ := exists_of_mem_mapM h hmem
  obtain ⟨_, -, rfl⟩ := exists_of_map_eq_ok hcheck
  obtain ⟨row, hrow, rfl⟩ := List.mem_map.mp hfound
  have hgroup := (List.mem_filter.mp hrow).2
  rw [Bool.and_eq_true, beq_iff_eq] at hgroup
  exact hgroup.1

lemma of_mem_capturedScopeMembers {memberships : List CoordinatorScopeMembership}
    {enrollments : List CoordinatorEnrollment} {member : SnapshotMember}
    (h : member ∈ capturedScopeMembers primitives memberships enrollments) :
    member.membership ∈ memberships ∧ member.enrollment ∈ enrollments ∧
      member.enrollment.deviceId = member.membership.deviceId ∧
      ed25519KeyIdForRevocation primitives member.enrollment.publicKey = some member.keyId := by
  obtain ⟨membership, hmembership, hmember⟩ := List.mem_filterMap.mp h
  obtain ⟨enrollment, henrollment, hmember⟩ := Option.bind_eq_some_iff.mp hmember
  split_ifs at hmember with henabled
  obtain ⟨keyId, hkeyId, rfl⟩ := Option.map_eq_some_iff.mp hmember
  obtain ⟨hmem, hdevice⟩ := rowAt_eq_some henrollment
  exact ⟨hmembership, hmem, hdevice, hkeyId⟩

lemma currentMember_of_pins {tables : ScopeTables} {groupId : String} {scope : CoordinatorScope}
    {members : List SnapshotMember}
    (h : (ScopeStage.authorizationFinal groupId scope members).Sound primitives)
    (hscope : tables.pinsScope scope = true) {member : SnapshotMember} (hmember : member ∈ members)
    (hpins : tables.pinsMember member = true) : CurrentMember primitives tables scope member := by
  obtain ⟨hgroup, hcaptured⟩ := h
  obtain ⟨hcurrent, hdevice, hmemberGroup, hkey⟩ := hcaptured member hmember
  obtain ⟨hofScope, hactive, hepoch⟩ := of_isCurrentScopeMember hcurrent
  unfold ScopeTables.pinsScope at hscope
  unfold ScopeTables.pinsMember at hpins
  simp only [Bool.and_eq_true, List.contains_iff_mem] at hscope hpins
  obtain ⟨⟨⟨⟨hstored, henrolled⟩, henabled⟩, -⟩, hrevoked⟩ := hpins
  obtain ⟨row, hrow, hrowCaptured⟩ := List.any_eq_true.mp henrolled
  have hsame : row.captured = member.enrollment := of_decide_eq_true hrowCaptured
  have hrowDevice : row.deviceId = member.enrollment.deviceId := congrArg (·.deviceId) hsame
  have hrowGroup : row.groupId = member.enrollment.groupId := congrArg (·.groupId) hsame
  have hrowKey : row.publicKey = member.enrollment.publicKey := congrArg (·.publicKey) hsame
  have hrowEnabled : (if row.enabled then (1 : ℤ) else 0) = member.enrollment.enabled :=
    congrArg (·.enabled) hsame
  refine ⟨hscope.1.1.1, hstored, hofScope, hactive, hepoch, row, hrow, hrowDevice.trans hdevice, ?_,
    ?_, hsame, ?_⟩
  · rw [hrowGroup, hmemberGroup, hgroup]
  · rw [of_decide_eq_true henabled] at hrowEnabled
    by_contra hdisabled
    rw [if_neg hdisabled] at hrowEnabled
    cases hrowEnabled
  · rw [hrowDevice, hrowKey, hkey]
    simpa using hrevoked

/-- A statement keeps what an authorization has captured together, and only current members are
returned. -/
lemma ScopeStage.sound_next {stage : ScopeStage} (h : stage.Sound primitives)
    (tables : ScopeTables) (now : String) :
    (stage.next primitives tables now).1.Sound primitives tables := by
  rcases stage with scope | ⟨scope, sentAt⟩ | scopeId | ⟨opts, scopeId⟩ | ⟨update, sentAt⟩ |
    scopeId | ⟨groupId, scopeId⟩ | ⟨groupId, scope⟩ | ⟨groupId, scope⟩ |
    ⟨groupId, scope, memberships⟩ | ⟨groupId, scope, members⟩
  · unfold next
    dsimp only
    split_ifs
    · trivial
    · trivial
  · unfold next
    dsimp only
    rcases tables.insertScopeRow (scope.created sentAt) with _ | tables'
    · trivial
    · trivial
  · unfold next
    dsimp only
    rcases tables.getScope scopeId with _ | scope
    · trivial
    · trivial
  · unfold next
    dsimp only
    rcases tables.getScope scopeId with _ | existing
    · trivial
    · dsimp only
      rcases planUpdate opts existing with error | update
      · trivial
      · trivial
  · trivial
  · trivial
  · unfold next authorizationAfterScope
    dsimp only
    rcases tables.getScope scopeId with _ | scope
    · trivial
    · refine sound_afterCapture fun record _ => ?_
      rcases herror : scopeAuthorizationError scope groupId with _ | error
      · change scope.groupId = some groupId
        unfold scopeAuthorizationError at herror
        split_ifs at herror with hsource hstatus
        simp only [not_or, ne_eq, not_not] at hsource
        exact hsource.1
      · trivial
  · unfold next authorizationAfterGroup
    dsimp only
    rcases tables.devices.getGroup groupId with _ | group
    · trivial
    · refine sound_afterCapture fun record _ => ?_
      split_ifs
      · exact sound_afterCapture fun record _ => trivial
      · exact h
  · refine sound_afterCapture fun memberships hmemberships => ⟨h, fun membership hmem => ?_⟩
    exact captureScopeMemberships_current hmemberships hmem
  · obtain ⟨hgroup, hcurrent⟩ := h
    refine sound_afterCapture fun enrollments henrollments => ⟨hgroup, fun member hmember => ?_⟩
    obtain ⟨hmembership, henrollment, hdevice, hkey⟩ := of_mem_capturedScopeMembers hmember
    exact ⟨hcurrent _ hmembership, hdevice, captureScopeEnrollments_group henrollments henrollment,
      hkey⟩
  · unfold next
    dsimp only
    split_ifs with hscope
    · intro member hmember
      obtain ⟨hmem, hpins⟩ := List.mem_filter.mp ((List.mem_insertionSort _).mp hmember)
      exact currentMember_of_pins h hscope hmem hpins
    · trivial

end Members

/-! ### Calls that leave the scopes alone -/

lemma LedgerStep.scopes_eq {before after : ScopeTables} (h : LedgerStep before after) :
    after.scopes = before.scopes := by
  rcases h with _ | ⟨receipt, audit, row, h⟩ | ⟨receipt, h⟩
  · rfl
  · rfl
  · rfl

lemma runGrantBatch_scopes {tables tables' : ScopeTables} {call : GrantCall}
    {existing : Option CoordinatorScopeMembership} {grant : NormalizedGrant} {now : String}
    (h : runGrantBatch tables call existing grant now = some tables') :
    tables'.scopes = tables.scopes := by
  rcases hreceipt : tables.getMembershipEffectReceipt call.effectId with _ | receipt
  · rcases hwritten : tables.upsertMembership (grant.row now) with ⟨written, _ | _⟩
    · rw [upsertMembership_eq_false hwritten] at hwritten
      rw [runGrantBatch_refused hreceipt hwritten] at h
      rw [← Option.some.inj h]
    · obtain ⟨rfl, -⟩ := upsertMembership_eq_true hwritten
      rw [runGrantBatch_applied hreceipt hwritten] at h
      rw [ScopeTables.insertMembershipAudit_eq_some h]
      rfl
  · rw [runGrantBatch_recorded hreceipt] at h
    rw [← Option.some.inj h]

lemma runRevokeBatch_scopes {tables tables' : ScopeTables} {plan : RevokePlan} {now : String}
    (h : runRevokeBatch tables plan now = some tables') : tables'.scopes = tables.scopes := by
  rcases hreceipt : tables.getMembershipEffectReceipt plan.call.effectId with _ | receipt
  · rcases hwritten : tables.revokeMembership plan now with ⟨written, _ | _⟩
    · rw [(revokeMembership_eq_false hwritten).1] at hwritten
      rw [runRevokeBatch_refused hreceipt hwritten] at h
      rw [← Option.some.inj h]
    · obtain ⟨stored, hstored, hmatches, -⟩ := revokeMembership_eq_true hwritten
      rw [runRevokeBatch_applied hreceipt hstored hmatches] at h
      rw [ScopeTables.insertMembershipAudit_eq_some h]
      rfl
  · rw [runRevokeBatch_recorded hreceipt] at h
    rw [← Option.some.inj h]

lemma MembershipStage.scopes_next (tables : ScopeTables) (now : String) (stage : MembershipStage) :
    (stage.next tables now).2.scopes = tables.scopes := by
  rcases stage with call | ⟨call, scopeId⟩ | ⟨call, scope, scopeId, deviceId⟩ |
    ⟨call, existing, grant, groupId⟩ | ⟨call, existing, grant, sentAt⟩ | call | call |
    ⟨call, epoch⟩ | ⟨call, epoch⟩ | ⟨plan, sentAt⟩ | plan | call
  · unfold next
    dsimp only
    rcases tables.getMembershipEffectReceipt call.effectId with _ | receipt
    · rfl
    · rfl
  · rfl
  · rfl
  · rfl
  · unfold next
    dsimp only
    rcases hbatch : runGrantBatch tables call existing grant sentAt with _ | tables'
    · rfl
    · exact runGrantBatch_scopes hbatch
  · rfl
  · unfold next
    dsimp only
    rcases tables.getMembershipEffectReceipt call.effectId with _ | receipt
    · rfl
    · rfl
  · rfl
  · rfl
  · unfold next
    dsimp only
    rcases hbatch : runRevokeBatch tables plan sentAt with _ | tables'
    · rfl
    · exact runRevokeBatch_scopes hbatch
  · unfold next
    dsimp only
    split_ifs
    · rfl
    · rfl
  · rfl

lemma ScopesAdvance.of_eq {before after : ScopeTables} (h : after.scopes = before.scopes) :
    ScopesAdvance before after := by
  unfold ScopesAdvance
  rw [h]
  exact .refl ScopeAdvances.refl _

/-- The update that a call is about to write. -/
def pendingUpdate : Option D1Progress → Option ScopeUpdate
  | some (.scope (.suspended (.updateWrite update _))) => some update
  | _ => none

/-- A call that is not about to write an update moves the scopes forward. -/
lemma ScopeStage.advances_next {primitives : SignaturePrimitives} {stage : ScopeStage}
    (h : pendingUpdate (some (.scope (.suspended stage))) = none) (tables : ScopeTables)
    (now : String) : ScopesAdvance tables (stage.next primitives tables now).2 := by
  have hsame : ScopesAdvance tables tables := .of_eq rfl
  rcases stage with scope | ⟨scope, sentAt⟩ | scopeId | ⟨opts, scopeId⟩ | ⟨update, sentAt⟩ |
    scopeId | ⟨groupId, scopeId⟩ | ⟨groupId, scope⟩ | ⟨groupId, scope⟩ |
    ⟨groupId, scope, memberships⟩ | ⟨groupId, scope, members⟩
  · unfold next
    dsimp only
    split_ifs
    · exact hsame
    · exact hsame
  · unfold next ScopeTables.insertScopeRow
    dsimp only
    by_cases hstored : (tables.getScope (scope.created sentAt).scopeId).isSome = true
    · rw [if_pos hstored]
      exact hsame
    · rw [if_neg hstored]
      exact Evolves.append ScopeAdvances.refl _
  · unfold next
    dsimp only
    rcases tables.getScope scopeId with _ | scope
    · exact hsame
    · exact hsame
  · unfold next
    dsimp only
    rcases tables.getScope scopeId with _ | existing
    · exact hsame
    · exact hsame
  · cases h
  · exact hsame
  · exact hsame
  · exact hsame
  · exact hsame
  · exact hsame
  · unfold next
    dsimp only
    split_ifs
    · exact hsame
    · exact hsame

/-! ### Runs -/

namespace CoordinatorStore

/-- No scope that a call is about to update has changed since the call read it. -/
def ScopesUndisturbed (store : CoordinatorStore) : CoordinatorStoreAction → Prop
  | .resume call _ => (pendingUpdate (store.calls call)).all
      (fun update => decide (store.tables.CurrentFor update)) = true
  | .sqliteGrant _ _ => True
  | .sqliteRevoke _ _ => True
  | .begin _ _ => True
  | .editDevices _ => True

instance (store : CoordinatorStore) : (action : CoordinatorStoreAction) →
    Decidable (store.ScopesUndisturbed action)
  | .resume _ _ => inferInstanceAs (Decidable (_ = true))
  | .sqliteGrant _ _ => .isTrue trivial
  | .sqliteRevoke _ _ => .isTrue trivial
  | .begin _ _ => .isTrue trivial
  | .editDevices _ => .isTrue trivial

variable (primitives : SignaturePrimitives)

/-- An update that is written does not undo what it does not name. -/
def UpdatesKeepUnnamed (store : CoordinatorStore) : CoordinatorStoreAction → Prop
  | .resume call now => ∀ update, pendingUpdate (store.calls call) = some update →
      UpdateKeepsUnnamed store.tables (store.step primitives (.resume call now)).tables update
  | .sqliteGrant _ _ => True
  | .sqliteRevoke _ _ => True
  | .begin _ _ => True
  | .editDevices _ => True

/-- A call that ends with an authorization returns members that are current at its last query. -/
def MembersCurrent (store : CoordinatorStore) : CoordinatorStoreAction → Prop
  | .resume call now => ∀ stage scope members,
      store.calls call = some (.scope (.suspended stage)) →
      (store.step primitives (.resume call now)).calls call =
        some (.scope (.ended (.ok (.authorization (.authorized scope members))))) →
      ∀ member ∈ members, CurrentMember primitives store.tables scope member
  | .sqliteGrant _ _ => True
  | .sqliteRevoke _ _ => True
  | .begin _ _ => True
  | .editDevices _ => True

/-- What the epochs of the scopes promise about a run: no epoch falls, no update undoes what it does
not name, and every member that is returned was current. -/
structure ScopeFencePromises (store : CoordinatorStore) (actions : List CoordinatorStoreAction) :
    Prop where
  advances : (visited (step primitives) store actions).Pairwise fun earlier later =>
    ScopesAdvance earlier.tables later.tables
  keepsUnnamed : StepsMeet (step primitives) (UpdatesKeepUnnamed primitives) store actions
  members : StepsMeet (step primitives) (MembersCurrent primitives) store actions

variable {primitives} {store : CoordinatorStore} {action : CoordinatorStoreAction}

lemma scopesAdvance_step (h : ∀ call now, action = .resume call now →
    pendingUpdate (store.calls call) = none) :
    ScopesAdvance store.tables (store.step primitives action).tables := by
  have hsame : ScopesAdvance store.tables store.tables := .of_eq rfl
  rcases action with ⟨opts, now⟩ | ⟨opts, now⟩ | ⟨call, input⟩ | ⟨call, now⟩ | devices
  · unfold step committed
    dsimp only
    rcases hresult : store.tables.grantScopeMembership opts now with error | ⟨answer, tables⟩
    · exact hsame
    · exact .of_eq (ledgerStep_grantScopeMembership hresult).scopes_eq
  · unfold step committed
    dsimp only
    rcases hresult : store.tables.revokeScopeMembership opts now with error | ⟨answer, tables⟩
    · exact hsame
    · exact .of_eq (ledgerStep_revokeScopeMembership hresult).scopes_eq
  · unfold step
    dsimp only
    rcases store.calls call with _ | progress
    · exact hsame
    · exact hsame
  · have hpending := h call now rfl
    unfold step
    dsimp only
    rcases hcall : store.calls call with _ | (stage | result) | (stage | result)
    · exact hsame
    · exact .of_eq (stage.scopes_next store.tables now)
    · exact hsame
    · rw [hcall] at hpending
      exact ScopeStage.advances_next hpending store.tables now
    · exact hsame
  · exact .of_eq rfl

variable (primitives) in
lemma tables_step_of_pending {call : ℕ} {update : ScopeUpdate} (now : String)
    (h : pendingUpdate (store.calls call) = some update) :
    ∃ sentAt, (store.step primitives (.resume call now)).tables =
      store.tables.updateScopeRow update.scope sentAt := by
  unfold pendingUpdate at h
  split at h
  · rename_i pending sentAt hcall
    cases h
    refine ⟨sentAt, ?_⟩
    unfold step
    dsimp only
    rw [hcall]
    rfl
  · cases h

variable (primitives) in
lemma scopesUndisturbed_iff (action : CoordinatorStoreAction) :
    ScopesAdvance store.tables (store.step primitives action).tables ∧
        store.UpdatesKeepUnnamed primitives action ↔ store.ScopesUndisturbed action := by
  have hother : ∀ action : CoordinatorStoreAction, (∀ call now, action ≠ .resume call now) →
      ScopesAdvance store.tables (store.step primitives action).tables := fun action hne =>
    scopesAdvance_step fun call now heq => absurd heq (hne call now)
  rcases action with ⟨opts, now⟩ | ⟨opts, now⟩ | ⟨call, input⟩ | ⟨call, now⟩ | devices
  · exact iff_of_true ⟨hother _ (by simp), trivial⟩ trivial
  · exact iff_of_true ⟨hother _ (by simp), trivial⟩ trivial
  · exact iff_of_true ⟨hother _ (by simp), trivial⟩ trivial
  · unfold ScopesUndisturbed UpdatesKeepUnnamed
    dsimp only
    rcases hpending : pendingUpdate (store.calls call) with _ | update
    · refine iff_of_true ⟨scopesAdvance_step fun call' now' heq => ?_, by simp⟩ rfl
      rw [← (CoordinatorStoreAction.resume.inj heq).1]
      exact hpending
    · obtain ⟨sentAt, htables⟩ := tables_step_of_pending primitives now hpending
      rw [htables, Option.all_some, decide_eq_true_iff, ← updateScopeRow_iff _ update sentAt]
      refine and_congr_right fun _ => ?_
      constructor
      · exact fun h => h update rfl
      · rintro h found hfound
        rw [← Option.some.inj hfound]
        exact h
  · exact iff_of_true ⟨hother _ (by simp), trivial⟩ trivial

/-- What the suspended calls have captured belongs together. -/
def CapturesSound (primitives : SignaturePrimitives) (store : CoordinatorStore) : Prop :=
  ∀ call stage, store.calls call = some (.scope (.suspended stage)) → stage.Sound primitives

lemma capturesSound_resumed (h : store.CapturesSound primitives) {call : ℕ} {tables : ScopeTables}
    {progress : D1Progress}
    (hprogress : ∀ stage, progress = .scope (.suspended stage) → stage.Sound primitives) :
    (store.resumed call tables progress).CapturesSound primitives := by
  intro other stage hother
  unfold resumed at hother
  dsimp only at hother
  by_cases hsame : other = call
  · rw [hsame, Function.update_self] at hother
    exact hprogress stage (Option.some.inj hother)
  · rw [Function.update_of_ne hsame] at hother
    exact h other stage hother

/-- Every step keeps what the suspended calls have captured together. -/
lemma CapturesSound.step (h : store.CapturesSound primitives) (action : CoordinatorStoreAction) :
    (store.step primitives action).CapturesSound primitives := by
  rcases action with ⟨opts, now⟩ | ⟨opts, now⟩ | ⟨call, input⟩ | ⟨call, now⟩ | devices
  · unfold CoordinatorStore.step committed
    dsimp only
    rcases store.tables.grantScopeMembership opts now with error | ⟨answer, tables⟩
    · exact h
    · exact h
  · unfold CoordinatorStore.step committed
    dsimp only
    rcases store.tables.revokeScopeMembership opts now with error | ⟨answer, tables⟩
    · exact h
    · exact h
  · unfold CoordinatorStore.step
    dsimp only
    rcases store.calls call with _ | progress
    · refine capturesSound_resumed h fun stage hstage => ?_
      unfold D1Input.start at hstage
      rcases input with opts | opts | opts | opts | ⟨groupId, scopeId⟩
      · cases hstage
      · cases hstage
      · have hstart : startCreateScope opts = .suspended stage := D1Progress.scope.inj hstage
        unfold startCreateScope CallProgress.after at hstart
        rcases hnorm : normalizeCoordinatorCreateScopeInput opts with error | scope
        · rw [hnorm] at hstart
          cases hstart
        · rw [hnorm] at hstart
          cases hstart
          trivial
      · have hstart : startUpdateScope opts = .suspended stage := D1Progress.scope.inj hstage
        unfold startUpdateScope at hstart
        rcases hclean : cleanText opts.scopeId with _ | scopeId
        · rw [hclean] at hstart
          cases hstart
        · rw [hclean] at hstart
          cases hstart
          trivial
      · unfold startScopeAuthorization at hstage
        dsimp only at hstage
        split_ifs at hstage
        · cases hstage
          trivial
        · cases hstage
    · exact h
  · unfold CoordinatorStore.step
    dsimp only
    rcases hcall : store.calls call with _ | (stage | result) | (stage | result)
    · exact h
    · exact capturesSound_resumed h fun stage hstage => by cases hstage
    · exact h
    · refine capturesSound_resumed h fun next hnext => ?_
      have hsound := ScopeStage.sound_next (h call stage hcall) store.tables now
      rw [D1Progress.scope.inj hnext] at hsound
      exact hsound
    · exact h
  · exact h

lemma CapturesSound.membersCurrent (h : store.CapturesSound primitives)
    (action : CoordinatorStoreAction) : store.MembersCurrent primitives action := by
  rcases action with ⟨opts, now⟩ | ⟨opts, now⟩ | ⟨call, input⟩ | ⟨call, now⟩ | devices
  · trivial
  · trivial
  · trivial
  · intro stage scope members hcall hanswer
    have hsound := ScopeStage.sound_next (h call stage hcall) store.tables now
    have hnext : (stage.next primitives store.tables now).1 =
        .ended (.ok (.authorization (.authorized scope members))) := by
      unfold CoordinatorStore.step resumed at hanswer
      dsimp only at hanswer
      rw [hcall] at hanswer
      dsimp only at hanswer
      rw [Function.update_self] at hanswer
      exact D1Progress.scope.inj (Option.some.inj hanswer)
    rw [hnext] at hsound
    exact hsound
  · trivial

variable (primitives) in
/-- The promises are kept exactly in the runs in which no update writes back a scope that has changed
since it was read. -/
theorem scopeFencePromises_iff (tables : ScopeTables) (actions : List CoordinatorStoreAction) :
    ScopeFencePromises primitives (initial tables) actions ↔
      StepsMeet (step primitives) ScopesUndisturbed (initial tables) actions := by
  have hpairwise : (∀ s ∈ visited (step primitives) (initial tables) actions, True) ∧
      (visited (step primitives) (initial tables) actions).Pairwise
        (fun earlier later => ScopesAdvance earlier.tables later.tables) ↔
      StepsMeet (step primitives)
        (fun s a => ScopesAdvance s.tables (s.step primitives a).tables) (initial tables) actions :=
    visited_pairwise_iff actions trivial
      (fun a b c hab hbc => Evolves.trans ScopeAdvances.trans hab hbc) (fun s a _ => by simp)
  have hsound : (initial tables).CapturesSound primitives := fun call stage h => by cases h
  constructor
  · intro h
    have hadvances := hpairwise.mp ⟨fun _ _ => trivial, h.advances⟩
    exact (hadvances.and h.keepsUnnamed).imp fun s a hstep => (scopesUndisturbed_iff primitives a).mp hstep
  · intro h
    have hsteps := h.imp fun s a hcond => (scopesUndisturbed_iff primitives a).mpr hcond
    have hevery : StepsMeet (step primitives) (fun _ _ => True) (initial tables) actions :=
      h.imp fun _ _ _ => True.intro
    have hmembers := hevery.and_always hsound
      fun s a _ hs => CapturesSound.step hs a
    exact ⟨(hpairwise.mpr (hsteps.imp fun s a hstep => hstep.1)).2,
      hsteps.imp fun s a hstep => hstep.2, hmembers.imp fun s a hs => hs.2.membersCurrent a⟩

/-- An update of scope `S` that names only its label. -/
def labelUpdate : D1Input :=
  .updateScope ⟨"S", some (some "Team"), none, none, none, none, none, .absent, none, none⟩

/-- An update of scope `S` that raises its epoch. -/
def epochUpdate : D1Input :=
  .updateScope ⟨"S", none, none, none, none, none, none, .finite 5, none, none⟩

/-- The epoch is raised between the read and the write of an update of the label: the update writes
the old epoch back. -/
theorem overtakenUpdate_lowers_epoch :
    ¬ ScopeFencePromises keylessPrimitives (initial sampleScopeTables)
      (runCall 0 labelUpdate 1 ++ runCall 1 epochUpdate 2 ++ [.resume 0 "t2"]) := by
  intro h
  have hafter := visited_pairwise_append_right _ _ h.advances
  have hadvances := visited_first_last hafter (Evolves.refl ScopeAdvances.refl _)
  have hraised : (((runCall 0 labelUpdate 1 ++ runCall 1 epochUpdate 2).foldl
      (step keylessPrimitives) (initial sampleScopeTables)).tables.getScope "S").map
        CoordinatorScope.membershipEpoch = some 5 := by
    decide +kernel
  have hlowered : (([.resume 0 "t2"].foldl (step keylessPrimitives)
      ((runCall 0 labelUpdate 1 ++ runCall 1 epochUpdate 2).foldl
        (step keylessPrimitives) (initial sampleScopeTables))).tables.getScope "S").map
          CoordinatorScope.membershipEpoch = some 0 := by
    decide +kernel
  obtain ⟨raised, hstored, hepoch⟩ := Option.map_eq_some_iff.mp hraised
  obtain ⟨lowered, hwritten, hle⟩ := hadvances "S" raised hstored
  obtain ⟨lowered', hstored', hepoch'⟩ := Option.map_eq_some_iff.mp hlowered
  have hsame : lowered' = lowered := Option.some.inj (hstored'.symm.trans hwritten)
  have hforward : raised.membershipEpoch ≤ lowered.membershipEpoch := hle
  rw [hsame] at hepoch'
  omega

end CoordinatorStore

end Codemem

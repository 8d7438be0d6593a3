import Codemem.Scope.AntiRevival
import Codemem.Replication.Membership

/-!
# Authorization from the cache

`getCachedScopeAuthorization` decides from the cached scope, the cached membership and the deny
overlays; `getEffectiveCachedScopeAuthorization` also wants the retained proof of a managed scope.
A committed refresh leaves no authorization to a device that the snapshot of a scope omits, nor to
any device of a scope of the authority that the catalog omits.
-/

namespace Codemem

/-! ### The queries -/

/-- The columns of a scope that replication reads. -/
def CoordinatorScope.toReplicationScope (scope : CoordinatorScope) : ReplicationScope where
  scopeId := scope.scopeId
  authorityType :=
    if scope.authorityType = "local" then .local
    else if scope.authorityType = "coordinator" then .coordinator
    else .other scope.authorityType
  membershipEpoch := scope.membershipEpoch
  status := scope.status

/-- The columns of a membership that replication reads. -/
def CoordinatorScopeMembership.toScopeMembership (membership : CoordinatorScopeMembership) :
    ScopeMembership :=
  ⟨membership.scopeId, membership.deviceId, membership.status, membership.membershipEpoch⟩

/-- `CachedScopeAuthorization`, without the freshness of the cache. -/
structure CachedScopeDecision where
  deviceId : String
  scopeId : String
  state : AuthorizationState
  membership : Option CoordinatorScopeMembership
  scope : Option CoordinatorScope
  deriving DecidableEq

/-- `authorized: state === "authorized"`. -/
def CachedScopeDecision.authorized (decision : CachedScopeDecision) : Bool :=
  decision.state == .authorized

namespace MembershipCache

/-- `scopeFromJoinedRow`: a scope with an empty label, kind or authority type counts as missing. -/
def scopeFromJoinedRow (scope : Option CoordinatorScope) : Option CoordinatorScope :=
  scope.filter fun s =>
    !s.label.toList.isEmpty && !s.kind.toList.isEmpty && !s.authorityType.toList.isEmpty

def loadScope (cache : MembershipCache) (scopeId : String) (authority : Option CacheAuthority) :
    Option CoordinatorScope :=
  cache.replicationScopes.find? fun s => s.scopeId == scopeId && authority.all fun a =>
    s.coordinatorId == some a.coordinatorId && s.groupId == some a.groupId

/-- `readCachedScopeRows`: the membership and the scope, of the authority where one is named. -/
def readCachedScopeRows (cache : MembershipCache) (deviceId scopeId : String)
    (authority : Option CacheAuthority) :
    Option CoordinatorScopeMembership × Option CoordinatorScope :=
  let scope := rowAt CoordinatorScope.scopeId scopeId cache.replicationScopes
  let row := cache.scopeMemberships.find? fun m =>
    m.deviceId == deviceId && m.scopeId == scopeId && authority.all fun a =>
      m.coordinatorId.or (scope.bind CoordinatorScope.coordinatorId) == some a.coordinatorId &&
        m.groupId.or (scope.bind CoordinatorScope.groupId) == some a.groupId
  match row with
  | some membership => (some membership, scopeFromJoinedRow scope)
  | none => (none, cache.loadScope scopeId authority)

/-- `getCachedScopeAuthorization`; an empty device or scope id throws. -/
def getCachedScopeAuthorization (cache : MembershipCache) (deviceId scopeId : String)
    (authority : Option CacheAuthority) : Except String CachedScopeDecision :=
  match cleanText (some deviceId), cleanText (some scopeId) with
  | some deviceId, some scopeId =>
    let (membership, scope) := cache.readCachedScopeRows deviceId scopeId authority
    .ok
      { deviceId := deviceId
        scopeId := scopeId
        state := cachedScopeDecisionState
          (membership.map CoordinatorScopeMembership.toScopeMembership)
          (scope.map CoordinatorScope.toReplicationScope)
          (cache.denyOverlays.any fun o => o.scopeId == scopeId && o.deviceId == deviceId)
        membership := membership
        scope := scope }
  | _, _ => .error "device_id and scope_id are required."

section Effective

-- the digest of the blob of a public key, if it is an Ed25519 key
variable (keyIdOf : String → Option String)

def getRetainedScopeAuthorizationKey (cache : MembershipCache) (scope : CoordinatorScope)
    (member : CoordinatorScopeMembership) (expectedPublicKey : Option String) : Option String :=
  match scope.coordinatorId, scope.groupId with
  | some coordinatorId, some groupId =>
    if coordinatorId.toList.isEmpty ∨ groupId.toList.isEmpty then none
    else
      let authority : CacheAuthority := ⟨coordinatorId, groupId⟩
      let row := cache.authorizationEvidence.find? fun row => row.authority == authority &&
        row.scopeId == scope.scopeId && row.deviceId == member.deviceId
      match row.bind fun row => parseEvidence keyIdOf row.evidenceJson authority with
      | none => none
      | some proof =>
        if matchesRows proof scope member = false then none
        else match proof.evidence.items.head?.map SnapshotMember.keyId with
          | none => none
          | some keyId =>
            if keyId.toList.isEmpty ∨
                expectedPublicKey.any fun publicKey => keyIdOf publicKey != some keyId then none
            else some keyId
  | _, _ => none

/-- `getEffectiveCachedScopeAuthorization`: the decision and the id of the proven key. -/
def getEffectiveCachedScopeAuthorization (cache : MembershipCache) (deviceId scopeId : String)
    (authority : Option CacheAuthority) (expectedPublicKey : Option String) :
    Except String (CachedScopeDecision × Option String) := do
  let cached ← cache.getCachedScopeAuthorization deviceId scopeId authority
  if cached.authorized = false ∨
      cached.scope.map CoordinatorScope.authorityType ≠ some "coordinator" then pure (cached, none)
  else
    let keyId := cached.scope.bind fun scope => cached.membership.bind fun membership =>
      cache.getRetainedScopeAuthorizationKey keyIdOf scope membership expectedPublicKey
    match keyId with
    | none => pure ({ cached with state := .notAuthorized }, none)
    | some keyId => pure (cached, some keyId)

end Effective

/-! ### The tables of the store -/

/-- The store that replication reads, with the tables of the cache. -/
def inStore (cache : MembershipCache) (st : Store) : Store :=
  { st with
    replicationScopes := cache.replicationScopes.map CoordinatorScope.toReplicationScope
    scopeMemberships := cache.scopeMemberships.map CoordinatorScopeMembership.toScopeMembership
    denyOverlays := cache.denyOverlays }

/-- Neither query authorizes the device for the scope, whatever authority and key it names. -/
def Denies (keyIdOf : String → Option String) (cache : MembershipCache)
    (deviceId scopeId : String) : Prop :=
  ∀ authority expectedPublicKey,
    (∀ decision, cache.getCachedScopeAuthorization deviceId scopeId authority = .ok decision →
      decision.authorized = false) ∧
    ∀ decision, cache.getEffectiveCachedScopeAuthorization keyIdOf deviceId scopeId authority
      expectedPublicKey = .ok decision → decision.1.authorized = false

variable {keyIdOf : String → Option String} {cache : MembershipCache} {deviceId scopeId : String}

lemma denies_of_cached (h : ∀ authority decision,
    cache.getCachedScopeAuthorization deviceId scopeId authority = .ok decision →
      decision.authorized = false) : Denies keyIdOf cache deviceId scopeId := by
  intro authority expectedPublicKey
  refine ⟨h authority, fun decision hdecision => ?_⟩
  obtain ⟨cached, hcached, hdecision⟩ := exists_of_bind_eq_ok hdecision
  have hdenied := h authority cached hcached
  rw [if_pos (.inl hdenied)] at hdecision
  cases hdecision
  exact hdenied

lemma decisionState_of_revoked {membership : Option ScopeMembership}
    (h : ∀ m ∈ membership, m.status = "revoked") (scope : Option ReplicationScope) (denied : Bool) :
    cachedScopeDecisionState membership scope denied ≠ .authorized := by
  unfold cachedScopeDecisionState
  cases denied with
  | true => simp
  | false =>
    cases membership with
    | none => simp
    | some m => simp [h m rfl]

lemma decisionState_of_archived {scope : Option ReplicationScope}
    (h : ∀ s ∈ scope, s.status = "archived") (membership : Option ScopeMembership)
    (denied : Bool) : cachedScopeDecisionState membership scope denied ≠ .authorized := by
  unfold cachedScopeDecisionState
  cases denied with
  | true => simp
  | false =>
    cases membership with
    | none => simp
    | some m =>
      by_cases hrevoked : m.status = "revoked"
      · simp [hrevoked]
      · cases scope with
        | none => simp [hrevoked]
        | some s => simp [hrevoked, h s rfl]

lemma denies_of_state (h : ∀ authority denied,
    cachedScopeDecisionState
      ((cache.readCachedScopeRows (trim deviceId) (trim scopeId) authority).1.map
        CoordinatorScopeMembership.toScopeMembership)
      ((cache.readCachedScopeRows (trim deviceId) (trim scopeId) authority).2.map
        CoordinatorScope.toReplicationScope) denied ≠ .authorized) :
    Denies keyIdOf cache deviceId scopeId := by
  refine denies_of_cached fun authority decision hdecision => ?_
  unfold getCachedScopeAuthorization at hdecision
  split at hdecision
  · rename_i device scope hdevice hscope
    rw [trim_eq_of_cleanText hdevice, trim_eq_of_cleanText hscope] at h
    cases hdecision
    have hstate := h authority (cache.denyOverlays.any fun o =>
      o.scopeId == scope && o.deviceId == device)
    exact beq_eq_false_iff_ne.mpr hstate
  · cases hdecision

lemma mem_of_readCachedScopeRows {authority : Option CacheAuthority}
    {m : CoordinatorScopeMembership}
    (h : (cache.readCachedScopeRows deviceId scopeId authority).1 = some m) :
    m ∈ cache.scopeMemberships ∧ m.key = (scopeId, deviceId) := by
  unfold readCachedScopeRows at h
  dsimp only at h
  split at h
  · rename_i found hfound
    cases h
    have hsel := List.find?_some hfound
    simp only [Bool.and_eq_true, beq_iff_eq] at hsel
    refine ⟨List.mem_of_find?_eq_some hfound, ?_⟩
    rw [CoordinatorScopeMembership.key, hsel.1.1, hsel.1.2]
  · cases h

lemma scope_of_readCachedScopeRows {authority : Option CacheAuthority} {s : CoordinatorScope}
    (h : (cache.readCachedScopeRows deviceId scopeId authority).2 = some s) :
    s ∈ cache.replicationScopes ∧ s.scopeId = scopeId := by
  unfold readCachedScopeRows at h
  dsimp only at h
  split at h
  · exact rowAt_eq_some (Option.filter_eq_some_iff.mp h).1
  · have hsel := List.find?_some h
    rw [Bool.and_eq_true, beq_iff_eq] at hsel
    exact ⟨List.mem_of_find?_eq_some h, hsel.1⟩

lemma denies_of_revoked (h : RowsAt CoordinatorScopeMembership.key (trim scopeId, trim deviceId)
    (fun m => m.status = "revoked") cache.scopeMemberships) :
    Denies keyIdOf cache deviceId scopeId := by
  refine denies_of_state fun authority denied => decisionState_of_revoked (fun m hm => ?_) _ _
  obtain ⟨row, hrow, rfl⟩ := Option.map_eq_some_iff.mp hm
  obtain ⟨hmem, hkey⟩ := mem_of_readCachedScopeRows hrow
  exact h row hmem hkey

lemma denies_of_archived (h : RowsAt CoordinatorScope.scopeId (trim scopeId)
    (fun s => s.status = "archived") cache.replicationScopes) :
    Denies keyIdOf cache deviceId scopeId := by
  refine denies_of_state fun authority denied => decisionState_of_archived (fun s hs => ?_) _ _
  obtain ⟨row, hrow, rfl⟩ := Option.map_eq_some_iff.mp hs
  obtain ⟨hmem, hkey⟩ := scope_of_readCachedScopeRows hrow
  exact h row hmem hkey

/-! ### What a committed refresh leaves -/

section Commit

variable {batch : CurrentScopeBatch} {authority : CacheAuthority} {timestamp : String}
  {k : String × String} {P : CoordinatorScopeMembership → Prop}

lemma upsertCachedScopeMemberships_rowsAt {memberships : List CoordinatorScopeMembership}
    (hne : ∀ m ∈ memberships, m.key ≠ k)
    (h : RowsAt CoordinatorScopeMembership.key k P cache.scopeMemberships) :
    RowsAt CoordinatorScopeMembership.key k P
      (cache.upsertCachedScopeMemberships memberships).scopeMemberships := by
  unfold upsertCachedScopeMemberships
  dsimp only
  generalize cache.scopeMemberships = rows at h ⊢
  induction memberships generalizing rows with
  | nil => exact h
  | cons membership memberships ih =>
    rw [List.foldl_cons]
    refine ih (fun m hm => hne m (List.mem_cons_of_mem _ hm)) _ ?_
    refine h.insertOrUpdate (fun stored => ?_) (hne membership List.mem_cons_self)
    split_ifs
    · rfl
    · rfl

lemma persistBatch_rowsAt_of_ne (hchecked : batch.Checked authority)
    (hne : batch.scope.scopeId ≠ k.1) (conflict : Bool)
    (h : RowsAt CoordinatorScopeMembership.key k P cache.scopeMemberships) :
    RowsAt CoordinatorScopeMembership.key k P
      (persistBatch authority timestamp conflict cache batch).scopeMemberships := by
  have hother : ∀ row : CoordinatorScopeMembership, row.key = k →
      row.scopeId ≠ batch.scope.scopeId := by
    intro row hrow hsame
    exact hne (hsame.symm.trans (congrArg Prod.fst hrow))
  have hreconcile : ∀ cache : MembershipCache,
      RowsAt CoordinatorScopeMembership.key k P cache.scopeMemberships →
      RowsAt CoordinatorScopeMembership.key k P
        (cache.reconcileScopeMembershipSnapshot batch authority timestamp).scopeMemberships := by
    intro cache hrows
    refine hrows.updateRows (fun _ => rfl) (fun row hrow _ hsel => ?_) fun row _ hP _ => hP
    unfold omittedBySnapshot at hsel
    simp [hother row hrow] at hsel
  unfold persistBatch
  cases conflict with
  | true => exact hreconcile cache h
  | false =>
    refine hreconcile _ ?_
    have hmigrate : RowsAt CoordinatorScopeMembership.key k P ((cache.upsertScope
        batch.scope).migrateSnapshotMembershipAuthority batch).scopeMemberships := by
      refine h.updateRows (fun _ => rfl) (fun row hrow _ hsel => ?_) fun row _ hP _ => hP
      simp [hother row hrow] at hsel
    exact upsertCachedScopeMemberships_rowsAt
      (fun m hm hkey => hother m hkey (hchecked.members m hm).1) hmigrate

/-- A membership row is of the source of a snapshot, or names none. -/
def OfSource (batch : CurrentScopeBatch) (row : CoordinatorScopeMembership) : Prop :=
  matchesSnapshotSource row.coordinatorId row.groupId batch = true

lemma omittedBySnapshot_of_source (hchecked : batch.Checked authority)
    {row : CoordinatorScopeMembership} (hscope : row.scopeId = batch.scope.scopeId)
    (homitted : ∀ m ∈ batch.memberships, m.deviceId ≠ row.deviceId) (hsource : OfSource batch row)
    (hsel : omittedBySnapshot batch authority row = false) : row.status = "revoked" := by
  unfold OfSource matchesSnapshotSource at hsource
  rw [hchecked.group, hchecked.coordinator, Bool.and_eq_true] at hsource
  obtain ⟨hgroupSource, hcoordinatorSource⟩ := hsource
  have hgroup : (row.groupId.getD authority.groupId == authority.groupId) = true := by
    cases hg : row.groupId with
    | none => simp
    | some g => simpa [hg] using hgroupSource
  have hcoordinator : (row.coordinatorId.getD authority.coordinatorId == authority.coordinatorId ||
      some (row.coordinatorId.getD authority.coordinatorId) == batch.sourceCoordinatorId) = true := by
    cases hc : row.coordinatorId with
    | none => simp
    | some c => simpa [hc] using hcoordinatorSource
  by_contra hactive
  refine absurd hsel (ne_false_of_eq_true ?_)
  have hlisted : ∀ m ∈ batch.memberships, ¬ m.deviceId = row.deviceId := homitted
  simpa [omittedBySnapshot, hscope, hgroup, hcoordinator, hactive] using hlisted

lemma persistBatch_revokes (hchecked : batch.Checked authority) (hscope : k.1 = batch.scope.scopeId)
    (homitted : ∀ m ∈ batch.memberships, m.deviceId ≠ k.2) (conflict : Bool)
    (h : RowsAt CoordinatorScopeMembership.key k (OfSource batch) cache.scopeMemberships) :
    RowsAt CoordinatorScopeMembership.key k (fun m => m.status = "revoked")
      (persistBatch authority timestamp conflict cache batch).scopeMemberships := by
  have hreconcile : ∀ cache : MembershipCache,
      RowsAt CoordinatorScopeMembership.key k (OfSource batch) cache.scopeMemberships →
      RowsAt CoordinatorScopeMembership.key k (fun m => m.status = "revoked")
        (cache.reconcileScopeMembershipSnapshot batch authority timestamp).scopeMemberships := by
    intro cache hrows
    refine hrows.updateRows (fun _ => rfl) (fun _ _ _ _ => rfl) fun row hrow hsource hsel => ?_
    refine omittedBySnapshot_of_source hchecked ?_ (fun m hm => ?_) hsource hsel
    · exact (congrArg Prod.fst hrow).trans hscope
    · rw [show row.deviceId = k.2 from congrArg Prod.snd hrow]
      exact homitted m hm
  unfold persistBatch
  cases conflict with
  | true => exact hreconcile cache h
  | false =>
    refine hreconcile _ ?_
    have hmigrate : RowsAt CoordinatorScopeMembership.key k (OfSource batch) ((cache.upsertScope
        batch.scope).migrateSnapshotMembershipAuthority batch).scopeMemberships := by
      refine h.updateRows (fun _ => rfl) (fun row _ _ _ => ?_) fun row _ hsource _ => hsource
      simp [OfSource, matchesSnapshotSource]
    refine upsertCachedScopeMemberships_rowsAt (fun m hm hkey => ?_) hmigrate
    exact homitted m hm (congrArg Prod.snd hkey)

lemma foldl_persistBatch_rowsAt {batches : List CurrentScopeBatch}
    (hchecked : ∀ batch ∈ batches, batch.Checked authority)
    (hne : ∀ batch ∈ batches, batch.scope.scopeId ≠ k.1) (conflict : Bool)
    (h : RowsAt CoordinatorScopeMembership.key k P cache.scopeMemberships) :
    RowsAt CoordinatorScopeMembership.key k P
      (batches.foldl (persistBatch authority timestamp conflict) cache).scopeMemberships := by
  induction batches generalizing cache with
  | nil => exact h
  | cons batch batches ih =>
    rw [List.foldl_cons]
    have hfirst : RowsAt CoordinatorScopeMembership.key k P
        (persistBatch authority timestamp conflict cache batch).scopeMemberships :=
      persistBatch_rowsAt_of_ne (hchecked batch List.mem_cons_self)
        (hne batch List.mem_cons_self) conflict h
    exact ih (fun b hb => hchecked b (List.mem_cons_of_mem _ hb))
      (fun b hb => hne b (List.mem_cons_of_mem _ hb)) hfirst

lemma ofSource_of_unsuperseded {conflict : Bool}
    (h : cache.requireUnsupersededSnapshot batch = .ok conflict) :
    ∀ row ∈ cache.scopeMemberships, row.scopeId = batch.scope.scopeId → OfSource batch row := by
  intro row hrow hscope
  unfold requireUnsupersededSnapshot at h
  dsimp only at h
  split_ifs at h
  obtain ⟨conflicts, hconflicts, -⟩ := exists_of_bind_eq_ok h
  have hmem : row ∈ cache.scopeMemberships.filter fun row => row.scopeId == batch.scope.scopeId :=
    List.mem_filter.mpr ⟨hrow, by simpa using hscope⟩
  obtain ⟨revives, hrevives⟩ := exists_of_mapM_eq_ok hconflicts hmem
  unfold requireUnsupersededMember at hrevives
  dsimp only at hrevives
  split_ifs at hrevives with hbad
  rw [not_or] at hbad
  exact eq_true_of_ne_false hbad.2

lemma reconcileGroupScopeSnapshot_scopeMemberships (scopes : List CoordinatorScope) :
    (cache.reconcileGroupScopeSnapshot authority scopes timestamp).scopeMemberships =
      cache.scopeMemberships := by
  unfold reconcileGroupScopeSnapshot
  dsimp only
  split_ifs
  · rfl
  · rfl

def IsOfAuthority (authority : CacheAuthority) (row : CoordinatorScope) : Prop :=
  row.coordinatorId = some authority.coordinatorId ∧ row.groupId = some authority.groupId

lemma foldl_persistBatch_scopes {batches : List CurrentScopeBatch} {id : String}
    {Q : CoordinatorScope → Prop} (hne : ∀ batch ∈ batches, batch.scope.scopeId ≠ id)
    (conflict : Bool) (h : RowsAt CoordinatorScope.scopeId id Q cache.replicationScopes) :
    RowsAt CoordinatorScope.scopeId id Q
      (batches.foldl (persistBatch authority timestamp conflict) cache).replicationScopes := by
  induction batches generalizing cache with
  | nil => exact h
  | cons batch batches ih =>
    rw [List.foldl_cons]
    refine ih (fun b hb => hne b (List.mem_cons_of_mem _ hb)) ?_
    unfold persistBatch
    cases conflict with
    | true => exact h
    | false =>
      refine h.insertOrUpdate (fun stored => ?_) (hne batch List.mem_cons_self)
      split_ifs
      · rfl
      · rfl

lemma reconcileGroupScopeSnapshot_archives {scopes : List CoordinatorScope} {id : String}
    (homitted : ∀ scope ∈ scopes, scope.scopeId ≠ id)
    (h : RowsAt CoordinatorScope.scopeId id (IsOfAuthority authority) cache.replicationScopes) :
    RowsAt CoordinatorScope.scopeId id (fun s => s.status = "archived")
      (cache.reconcileGroupScopeSnapshot authority scopes timestamp).replicationScopes := by
  have hcandidate : ∀ row ∈ cache.replicationScopes, row.scopeId = id → row.status ≠ "archived" →
      row.scopeId ∈ (cache.replicationScopes.filter fun row =>
        (row.coordinatorId == some authority.coordinatorId &&
          row.groupId == some authority.groupId) && row.status != "archived" &&
        !(scopes.map CoordinatorScope.scopeId).contains row.scopeId).map
          CoordinatorScope.scopeId := by
    intro row hrow hid hlive
    obtain ⟨hcoordinator, hgroup⟩ := h row hrow hid
    have hlisted : ∀ scope ∈ scopes, ¬ scope.scopeId = row.scopeId := by
      rw [hid]
      exact homitted
    refine List.mem_map_of_mem (List.mem_filter.mpr ⟨hrow, ?_⟩)
    simpa [hcoordinator, hgroup, hlive] using hlisted
  unfold reconcileGroupScopeSnapshot
  dsimp only
  split_ifs with hempty
  · intro row hrow hid
    by_contra hlive
    have hmem := hcandidate row hrow hid hlive
    rw [List.isEmpty_iff.mp hempty] at hmem
    cases hmem
  · intro row hrow hid
    obtain ⟨stored, hstored, ⟨-, rfl⟩ | ⟨hsel, rfl⟩⟩ := mem_updateRows hrow
    · rfl
    · by_contra hlive
      have hmem := hcandidate row hstored hid hlive
      obtain ⟨hcoordinator, hgroup⟩ := h row hstored hid
      rw [← List.contains_iff_mem] at hmem
      rw [hmem, hcoordinator, hgroup] at hsel
      simp at hsel

end Commit

/-- After a committed refresh, in order or with a revival conflict, no device is authorized for a
scope whose snapshot omits it, and none for a scope of the authority that the catalog omits. -/
theorem cache_failsClosed {fetched : FetchedScopes} {authority : CacheAuthority}
    {batches : List CurrentScopeBatch} {timestamp : String} {expectedRevision : ℤ}
    {cache' : MembershipCache} {error : Option String}
    (hfetched : gatherCurrentSnapshots keyIdOf fetched authority = .ok batches)
    (hcommitted : cache.persistCurrentSnapshots keyIdOf batches authority timestamp
      expectedRevision = .ok (cache', .committed error)) :
    (∀ batch ∈ batches, ∀ deviceId scopeId, trim scopeId = batch.scope.scopeId →
        (∀ m ∈ batch.memberships, m.deviceId ≠ trim deviceId) →
        Denies keyIdOf cache' deviceId scopeId) ∧
      ∀ scopeId, (∀ batch ∈ batches, batch.scope.scopeId ≠ trim scopeId) →
        (∀ row ∈ cache.replicationScopes, row.scopeId = trim scopeId →
          IsOfAuthority authority row) →
        ∀ deviceId, Denies keyIdOf cache' deviceId scopeId := by
  have hchecked := gatherCurrentSnapshots_checked keyIdOf hfetched
  rcases persistCurrentSnapshots_cases hcommitted with ⟨habsurd, -⟩ | ⟨_, -, -, hsteps⟩
  · cases habsurd
  obtain ⟨conflict, evidence, recorded, rfl⟩ := hsteps.tables
  constructor
  · intro batch hbatch deviceId scopeId hscope homitted
    refine denies_of_revoked ?_
    rw [reconcileGroupScopeSnapshot_scopeMemberships]
    obtain ⟨before, after, rfl⟩ := List.append_of_mem hbatch
    -- the scopes of the other batches are others
    have hscopes := hchecked.scopes
    rw [List.map_append, List.map_cons, List.nodup_append] at hscopes
    obtain ⟨-, hafter, hbefore⟩ := hscopes
    obtain ⟨hconflict, hunsuperseded⟩ := hsteps.unsuperseded batch hbatch
    have hsource : RowsAt CoordinatorScopeMembership.key (trim scopeId, trim deviceId)
        (OfSource batch) cache.scopeMemberships := by
      intro row hrow hkey
      exact ofSource_of_unsuperseded hunsuperseded row hrow ((congrArg Prod.fst hkey).trans hscope)
    rw [List.foldl_append, List.foldl_cons]
    refine foldl_persistBatch_rowsAt (fun b hb => hchecked.checked b ?_) (fun b hb => ?_) conflict
      (persistBatch_revokes (hchecked.checked batch hbatch) hscope homitted conflict
        (foldl_persistBatch_rowsAt (fun b hb => hchecked.checked b ?_) (fun b hb => ?_) conflict
          hsource))
    · exact List.mem_append_right _ (List.mem_cons_of_mem _ hb)
    · intro hsame
      have hagain : b.scope.scopeId = batch.scope.scopeId := hsame.trans hscope
      exact (List.nodup_cons.mp hafter).1 (hagain ▸ List.mem_map_of_mem hb)
    · exact List.mem_append_left _ hb
    · intro hsame
      have hagain : b.scope.scopeId = batch.scope.scopeId := hsame.trans hscope
      exact hbefore _ (List.mem_map_of_mem hb) _ List.mem_cons_self hagain
  · intro scopeId homitted hauthority deviceId
    refine denies_of_archived ?_
    refine reconcileGroupScopeSnapshot_archives (fun scope hscope => ?_)
      (foldl_persistBatch_scopes homitted conflict hauthority)
    obtain ⟨batch, hbatch, rfl⟩ := List.mem_map.mp hscope
    exact homitted batch hbatch

/-! ### A refresh on fixed tables -/

/-- An active scope of the group `g`. -/
def sampleScope (scopeId groupId : String) : CoordinatorScope where
  scopeId := scopeId
  label := "Team"
  kind := "team"
  authorityType := "coordinator"
  coordinatorId := some "coord"
  groupId := some groupId
  manifestIssuerDeviceId := none
  membershipEpoch := 1
  manifestHash := none
  status := "active"
  createdAt := "2026-01-01"
  updatedAt := "2026-01-01"

/-- An active membership of the device `dev`. -/
def sampleMembership (scopeId groupId : String) : CoordinatorScopeMembership where
  scopeId := scopeId
  deviceId := "dev"
  role := "member"
  status := "active"
  membershipEpoch := 1
  coordinatorId := some "coord"
  groupId := some groupId
  manifestIssuerDeviceId := none
  manifestHash := none
  signedManifestJson := none
  updatedAt := "2026-01-01"

/-- A cache with one scope, of which `dev` is a member. -/
def sampleCache (scopeId groupId : String) : MembershipCache :=
  ⟨[sampleScope scopeId groupId], [sampleMembership scopeId groupId], [], [], []⟩

/-- A catalog of scopes of the group `g`, all of them without members. -/
def sampleFetched (scopeIds : List String) : FetchedScopes where
  catalog := .ok (.obj [("version", .num 1),
    ("items", .arr (scopeIds.map fun scopeId => scopeJson (sampleScope scopeId "g")))])
  snapshot := fun scopeId => .ok (snapshotJson ⟨sampleScope scopeId "g", []⟩)

/-- The batch of a scope without members. -/
def sampleBatch (scopeId : String) : CurrentScopeBatch where
  scope := sampleScope scopeId "g"
  memberships := []
  sourceCoordinatorId := some "coord"
  evidence := ⟨sampleScope scopeId "g", []⟩

/-- A member that the snapshot of `team` omits loses its access. -/
theorem cache_failsClosed_omitted_member :
    ∃ cache' error, (sampleCache "team" "g").persistCurrentSnapshots some [sampleBatch "team"]
        ⟨"coord", "g"⟩ "2026-01-02" 0 = .ok (cache', .committed error) ∧
      Denies some cache' "dev" "team" := by
  have hfetched : gatherCurrentSnapshots some (sampleFetched ["team"]) ⟨"coord", "g"⟩ =
      .ok [sampleBatch "team"] := by decide
  have houtcome : ((sampleCache "team" "g").persistCurrentSnapshots some [sampleBatch "team"]
      ⟨"coord", "g"⟩ "2026-01-02" 0).toOption.map Prod.snd = some (.committed none) := by decide
  rcases hcommitted : (sampleCache "team" "g").persistCurrentSnapshots some [sampleBatch "team"]
    ⟨"coord", "g"⟩ "2026-01-02" 0 with error | ⟨cache', outcome⟩
  · rw [hcommitted] at houtcome
    cases houtcome
  · rw [hcommitted] at houtcome
    obtain rfl := Option.some.inj houtcome
    exact ⟨cache', none, rfl, (cache_failsClosed hfetched hcommitted).1 (sampleBatch "team")
      List.mem_cons_self "dev" "team" (by decide) (by simp [sampleBatch])⟩

/-- A refresh of the group `g` with an empty catalog leaves the scope of another group active: its
member is still authorized. -/
theorem other_group_stays_authorized :
    (gatherCurrentSnapshots some (sampleFetched []) ⟨"coord", "g"⟩).toOption = some [] ∧
      ((sampleCache "other" "h").persistCurrentSnapshots some [] ⟨"coord", "g"⟩ "2026-01-02"
        0).toOption.map (fun result => (result.2, (result.1.getCachedScopeAuthorization "dev"
          "other" none).toOption.map CachedScopeDecision.authorized)) =
        some (.committed none, some true) := by
  decide

end MembershipCache

end Codemem

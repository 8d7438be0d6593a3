import Codemem.Scope.Refresh

/-!
# Revoked memberships stay revoked

Snapshots upsert memberships, revoke the omitted ones, archive omitted scopes, and commit a part of
themselves when they would revive a revoked member.  Each of these writes moves the epochs of the
rows forward, and only a later epoch takes a row out of the revoked state.
-/

namespace Codemem

/-- The rows of a cache move forward. -/
structure CacheAdvances (cache cache' : MembershipCache) : Prop where
  memberships : Evolves CoordinatorScopeMembership.key MembershipAdvances cache.scopeMemberships
    cache'.scopeMemberships
  scopes : Evolves CoordinatorScope.scopeId ScopeAdvances cache.replicationScopes
    cache'.replicationScopes

namespace CacheAdvances

variable {cache cache' cache'' : MembershipCache}

lemma of_eq (hmemberships : cache'.scopeMemberships = cache.scopeMemberships)
    (hscopes : cache'.replicationScopes = cache.replicationScopes) :
    CacheAdvances cache cache' := by
  constructor
  · rw [hmemberships]
    exact .refl MembershipAdvances.refl _
  · rw [hscopes]
    exact .refl ScopeAdvances.refl _

lemma trans (h : CacheAdvances cache cache') (h' : CacheAdvances cache' cache'') :
    CacheAdvances cache cache'' :=
  ⟨h.memberships.trans MembershipAdvances.trans h'.memberships,
    h.scopes.trans ScopeAdvances.trans h'.scopes⟩

lemma of_memberships (hmemberships : Evolves CoordinatorScopeMembership.key MembershipAdvances
    cache.scopeMemberships cache'.scopeMemberships)
    (hscopes : cache'.replicationScopes = cache.replicationScopes) :
    CacheAdvances cache cache' := by
  refine ⟨hmemberships, ?_⟩
  rw [hscopes]
  exact .refl ScopeAdvances.refl _

end CacheAdvances

/-! ### The writes of a snapshot -/

namespace MembershipCache

variable (cache : MembershipCache) (batch : CurrentScopeBatch) (authority : CacheAuthority)
  (timestamp : String)

lemma upsertScope_advances (scope : CoordinatorScope) :
    CacheAdvances cache (cache.upsertScope scope) := by
  refine ⟨.refl MembershipAdvances.refl _, ?_⟩
  refine .insertOrUpdate ScopeAdvances.refl (fun stored => ?_) fun stored _ _ => ?_
  · split_ifs
    · rfl
    · rfl
  · split_ifs with hepoch
    · exact hepoch
    · exact le_refl _

lemma migrateSnapshotMembershipAuthority_advances :
    CacheAdvances cache (cache.migrateSnapshotMembershipAuthority batch) := by
  refine .of_memberships ?_ rfl
  exact .updateRows MembershipAdvances.refl (fun _ => rfl) fun row _ _ => ⟨le_rfl, .inl⟩

lemma upsertCachedScopeMemberships_advances (memberships : List CoordinatorScopeMembership) :
    CacheAdvances cache (cache.upsertCachedScopeMemberships memberships) := by
  refine .of_memberships ?_ rfl
  unfold upsertCachedScopeMemberships
  dsimp only
  generalize cache.scopeMemberships = rows
  induction memberships generalizing rows with
  | nil => exact .refl MembershipAdvances.refl _
  | cons membership memberships ih =>
    rw [List.foldl_cons]
    refine Evolves.trans MembershipAdvances.trans ?_ (ih _)
    refine .insertOrUpdate MembershipAdvances.refl (fun stored => ?_) fun stored _ _ => ?_
    · split_ifs
      · rfl
      · rfl
    · split_ifs with hlater
      · rcases hlater with hlater | ⟨hsame, hactive⟩
        · exact ⟨hlater.le, fun _ => .inr hlater⟩
        · exact ⟨hsame.ge, fun hrevoked => absurd hrevoked hactive⟩
      · exact .refl stored

lemma reconcileScopeMembershipSnapshot_advances :
    CacheAdvances cache (cache.reconcileScopeMembershipSnapshot batch authority timestamp) := by
  refine .of_memberships ?_ rfl
  refine .updateRows MembershipAdvances.refl (fun _ => rfl) fun row _ _ => ⟨?_, fun _ => .inl rfl⟩
  unfold revokeRow
  dsimp only
  split_ifs with hlater
  · exact le_rfl
  · omega

lemma reconcileGroupScopeSnapshot_advances (scopes : List CoordinatorScope) :
    CacheAdvances cache (cache.reconcileGroupScopeSnapshot authority scopes timestamp) := by
  unfold reconcileGroupScopeSnapshot
  dsimp only
  split_ifs
  · exact .of_eq rfl rfl
  · refine ⟨.refl MembershipAdvances.refl _, ?_⟩
    exact .updateRows ScopeAdvances.refl (fun _ => rfl) fun row _ _ => le_refl _

lemma persistBatch_advances (conflict : Bool) :
    CacheAdvances cache (persistBatch authority timestamp conflict cache batch) := by
  unfold persistBatch
  cases conflict with
  | true => exact reconcileScopeMembershipSnapshot_advances cache batch authority timestamp
  | false =>
    have hscope := cache.upsertScope_advances batch.scope
    have hmigrate := (cache.upsertScope batch.scope).migrateSnapshotMembershipAuthority_advances batch
    have hupsert := ((cache.upsertScope batch.scope).migrateSnapshotMembershipAuthority
      batch).upsertCachedScopeMemberships_advances batch.memberships
    exact ((hscope.trans hmigrate).trans hupsert).trans
      (reconcileScopeMembershipSnapshot_advances _ batch authority timestamp)

lemma foldl_persistBatch_advances (conflict : Bool) (batches : List CurrentScopeBatch) :
    CacheAdvances cache (batches.foldl (persistBatch authority timestamp conflict) cache) := by
  induction batches generalizing cache with
  | nil => exact .of_eq rfl rfl
  | cons batch batches ih =>
    rw [List.foldl_cons]
    exact (cache.persistBatch_advances batch authority timestamp conflict).trans (ih _)

variable {cache authority timestamp}

lemma recordRefreshFailure_advances (error : String) (expectedRevision : Option ℤ) :
    CacheAdvances cache
      (cache.recordRefreshFailure authority error timestamp expectedRevision).1 := by
  have hkept : CacheAdvances cache cache := .of_eq rfl rfl
  unfold recordRefreshFailure
  cases expectedRevision with
  | none => exact hkept
  | some expected =>
    cases cache.readRefreshRevision authority with
    | error message => exact hkept
    | ok revision =>
      dsimp only
      split_ifs
      · exact hkept
      · cases hrecord : cache.recordRefreshState authority (some error) timestamp with
        | error message => exact hkept
        | ok cache' =>
          obtain ⟨-, -, hrecorded⟩ := exists_of_bind_eq_ok hrecord
          cases hrecorded
          exact .of_eq rfl rfl

lemma persistCurrentSnapshots_advances {keyIdOf : String → Option String} {cache' : MembershipCache}
    {batches : List CurrentScopeBatch} {expectedRevision : ℤ} {outcome : PersistOutcome}
    (h : cache.persistCurrentSnapshots keyIdOf batches authority timestamp expectedRevision =
      .ok (cache', outcome)) : CacheAdvances cache cache' := by
  rcases persistCurrentSnapshots_cases h with ⟨-, rfl⟩ | ⟨error, -, -, hsteps⟩
  · exact .of_eq rfl rfl
  · obtain ⟨conflict, evidence, recorded, rfl⟩ := hsteps.tables
    have hbatches := foldl_persistBatch_advances cache authority timestamp conflict batches
    have harchive := reconcileGroupScopeSnapshot_advances
      (batches.foldl (persistBatch authority timestamp conflict) cache) authority timestamp
      (batches.map CurrentScopeBatch.scope)
    exact (hbatches.trans harchive).trans (.of_eq rfl rfl)

end MembershipCache

/-! ### Runs -/

namespace RefreshSystem

variable {keyIdOf : String → Option String}

lemma step_advances (sys : RefreshSystem) (action : RefreshAction) :
    CacheAdvances sys.cache (sys.step keyIdOf action).cache := by
  have hkept : CacheAdvances sys.cache sys.cache := .of_eq rfl rfl
  cases action with
  | start authority timestamp => exact hkept
  | commit i fetched =>
    rw [step]
    cases sys.runs[i]? with
    | none => exact hkept
    | some run =>
      rw [Option.elim_some, receiveAnswers]
      split
      · rename_i revision _ _
        cases hcommit : commitRun keyIdOf sys.cache run revision fetched with
        | error error => exact hkept
        | ok result =>
          obtain ⟨batches, -, hpersist⟩ := exists_of_bind_eq_ok hcommit
          exact MembershipCache.persistCurrentSnapshots_advances hpersist
      · exact hkept
  | recordFailure i =>
    rw [step]
    cases sys.runs[i]? with
    | none => exact hkept
    | some run =>
      rw [Option.elim_some, recordError]
      split
      · exact MembershipCache.recordRefreshFailure_advances _ _
      · exact hkept

/-- In every interleaving of refreshes with any answers, no later state holds a membership at an
earlier epoch, none that was revoked is out of the revoked state at its epoch or an earlier one, and
no scope is at an earlier epoch. -/
theorem membership_antiRevival (sys : RefreshSystem) (actions : List RefreshAction) :
    (visited (step keyIdOf) sys actions).Pairwise fun before after =>
      CacheAdvances before.cache after.cache := by
  refine visited_pairwise (fun s a _ _ => s.step_advances a) (fun _ _ _ _ => CacheAdvances.trans)
    fun _ _ => trivial

end RefreshSystem

end Codemem

import Codemem.Foundation.Fence
import Codemem.Scope.Cache

/-!
# Concurrent membership refreshes

`refreshScopeMembershipCache` reads the refresh revision of an authority, fetches over the network,
and then commits a snapshot or a failure.  Any number of runs, in one process or several, take these
steps in any order; each step is one transaction on the cache.
-/

namespace Codemem

/-- Where a run stands: it waits for the fetched answers, it has an error to record, or it is
done. -/
inductive RefreshPhase where
  | fetching
  | failing (error : String)
  | finished
  deriving DecidableEq, Repr

/-- The refresh of one group by one call. -/
structure RefreshRun where
  authority : CacheAuthority
  timestamp : String
  /-- The revision read at the start, unless the read failed. -/
  expectedRevision : Option ℤ
  phase : RefreshPhase
  deriving DecidableEq, Repr

/-- The cache and the runs started so far. -/
structure RefreshSystem where
  cache : MembershipCache
  runs : List RefreshRun

/-- A step of a run, named by its position. -/
inductive RefreshAction where
  | start (authority : CacheAuthority) (timestamp : String)
  /-- The fetched answers are there: they are checked and persisted. -/
  | commit (run : ℕ) (fetched : FetchedScopes)
  /-- The error of the run is recorded. -/
  | recordFailure (run : ℕ)

/-- The run that a step belongs to, where it was started before. -/
def RefreshAction.run : RefreshAction → Option ℕ
  | .start _ _ => none
  | .commit i _ => some i
  | .recordFailure i => some i

namespace RefreshSystem

-- the digest of the blob of a public key, if it is an Ed25519 key
variable (keyIdOf : String → Option String)

/-- A run enters a phase. -/
def setPhase (sys : RefreshSystem) (i : ℕ) (phase : RefreshPhase) : RefreshSystem :=
  { sys with runs := sys.runs.modify i fun run => { run with phase := phase } }

/-- The outcome of a run that has its answers. -/
def commitRun (cache : MembershipCache) (run : RefreshRun) (expectedRevision : ℤ)
    (fetched : FetchedScopes) :
    Except String (MembershipCache × MembershipCache.PersistOutcome) := do
  let batches ← gatherCurrentSnapshots keyIdOf fetched run.authority
  cache.persistCurrentSnapshots keyIdOf batches run.authority run.timestamp expectedRevision

/-- The run reads the refresh revision of the authority. -/
def startRun (sys : RefreshSystem) (authority : CacheAuthority) (timestamp : String) : RefreshRun :=
  match sys.cache.readRefreshRevision authority with
  | .ok revision => ⟨authority, timestamp, some revision, .fetching⟩
  | .error error => ⟨authority, timestamp, none, .failing error⟩

/-- The answers of a run arrive: its batches are persisted, or it has an error to record. -/
def receiveAnswers (sys : RefreshSystem) (i : ℕ) (fetched : FetchedScopes) (run : RefreshRun) :
    RefreshSystem :=
  match run.phase, run.expectedRevision with
  | .fetching, some revision =>
    match commitRun keyIdOf sys.cache run revision fetched with
    | .error error => sys.setPhase i (.failing error)
    | .ok (cache, _) => { sys.setPhase i .finished with cache := cache }
  | _, _ => sys

def recordError (sys : RefreshSystem) (i : ℕ) (run : RefreshRun) : RefreshSystem :=
  match run.phase with
  | .failing error =>
    { sys.setPhase i .finished with
      cache := (sys.cache.recordRefreshFailure run.authority error run.timestamp
        run.expectedRevision).1 }
  | _ => sys

/-- One step of the system; a step that its run is not ready for changes nothing. -/
def step (sys : RefreshSystem) : RefreshAction → RefreshSystem
  | .start authority timestamp => { sys with runs := sys.runs ++ [sys.startRun authority timestamp] }
  | .commit i fetched => (sys.runs[i]?).elim sys (sys.receiveAnswers keyIdOf i fetched)
  | .recordFailure i => (sys.runs[i]?).elim sys (sys.recordError i)

/-- A step of a run of the authority that changes the cache. -/
def Commits (sys : RefreshSystem) (action : RefreshAction) (authority : CacheAuthority) : Prop :=
  (∃ i run, action.run = some i ∧ sys.runs[i]? = some run ∧ run.authority = authority) ∧
    (sys.step keyIdOf action).cache ≠ sys.cache

end RefreshSystem

/-! ### The revision of an authority -/

namespace MembershipCache

def refreshRevision (cache : MembershipCache) (authority : CacheAuthority) : ℤ :=
  ((rowAt CacheStateRow.authority authority cache.cacheStates).map
    CacheStateRow.refreshRevision).getD 0

lemma readRefreshRevision_eq_ok {cache : MembershipCache} {authority : CacheAuthority}
    {revision : ℤ} (h : cache.readRefreshRevision authority = .ok revision) :
    cache.refreshRevision authority = revision := by
  unfold readRefreshRevision at h
  dsimp only at h
  split_ifs at h
  exact Except.ok.inj h

/-- The cache after a commit of an authority: its revision was the expected one and has moved on,
the revisions of the others stay. -/
structure Committed (cache cache' : MembershipCache) (authority : CacheAuthority)
    (expectedRevision : ℤ) : Prop where
  expected : cache.refreshRevision authority = expectedRevision
  raised : cache'.refreshRevision authority = cache.refreshRevision authority + 1
  others : ∀ other, other ≠ authority →
    cache'.refreshRevision other = cache.refreshRevision other

lemma recordRefreshState_committed {cache cache' : MembershipCache} {authority : CacheAuthority}
    {error : Option String} {now : String}
    (h : cache.recordRefreshState authority error now = .ok cache') :
    Committed cache cache' authority (cache.refreshRevision authority) := by
  obtain ⟨revision, -, h⟩ := exists_of_bind_eq_ok h
  cases h
  have hkey : ∀ stored, (nextState error now stored).authority = stored.authority := fun _ => rfl
  have hfirst : (firstState authority error now).authority = authority := rfl
  constructor
  · rfl
  · rw [refreshRevision, rowAt_insertOrUpdate hkey, hfirst, if_pos rfl, refreshRevision]
    cases rowAt CacheStateRow.authority authority cache.cacheStates with
    | none => rfl
    | some stored => rfl
  · intro other hother
    rw [refreshRevision, rowAt_insertOrUpdate hkey, hfirst, if_neg hother, refreshRevision]

lemma recordRefreshFailure_cases (cache : MembershipCache) (authority : CacheAuthority)
    (error now : String) (expectedRevision : Option ℤ) :
    (cache.recordRefreshFailure authority error now expectedRevision).1 = cache ∨
      ∃ expected, expectedRevision = some expected ∧
        Committed cache (cache.recordRefreshFailure authority error now expectedRevision).1
          authority expected := by
  unfold recordRefreshFailure
  cases expectedRevision with
  | none => exact .inl rfl
  | some expected =>
    cases hread : cache.readRefreshRevision authority with
    | error message => exact .inl rfl
    | ok revision =>
      by_cases hsame : revision = expected
      · cases hrecord : cache.recordRefreshState authority (some error) now with
        | error message => exact .inl (by simp [hsame])
        | ok cache' =>
          have hcommitted := recordRefreshState_committed hrecord
          have hrevision := readRefreshRevision_eq_ok hread
          refine .inr ⟨expected, rfl, ?_⟩
          simp only [hsame, ne_eq, not_true, if_false]
          exact ⟨hrevision.trans hsame, hcommitted.raised, hcommitted.others⟩
      · exact .inl (by simp [hsame])

section Persist

-- the digest of the blob of a public key, if it is an Ed25519 key
variable {keyIdOf : String → Option String}

lemma persistBatch_cacheStates (authority : CacheAuthority) (timestamp : String) (conflict : Bool)
    (cache : MembershipCache) (batch : CurrentScopeBatch) :
    (persistBatch authority timestamp conflict cache batch).cacheStates = cache.cacheStates := by
  unfold persistBatch
  cases conflict with
  | true => rfl
  | false => rfl

lemma foldl_persistBatch_cacheStates (batches : List CurrentScopeBatch)
    (authority : CacheAuthority) (timestamp : String) (conflict : Bool) (cache : MembershipCache) :
    (batches.foldl (persistBatch authority timestamp conflict) cache).cacheStates =
      cache.cacheStates := by
  induction batches generalizing cache with
  | nil => rfl
  | cons batch batches ih => rw [List.foldl_cons, ih, persistBatch_cacheStates]

lemma reconcileGroupScopeSnapshot_cacheStates (cache : MembershipCache)
    (authority : CacheAuthority) (scopes : List CoordinatorScope) (timestamp : String) :
    (cache.reconcileGroupScopeSnapshot authority scopes timestamp).cacheStates =
      cache.cacheStates := by
  unfold reconcileGroupScopeSnapshot
  dsimp only
  split_ifs
  · rfl
  · rfl

lemma reconcileScopeAuthorizationEvidence_eq_ok {cache cache' : MembershipCache}
    {batches : List CurrentScopeBatch} {authority : CacheAuthority} {removalOnly : Bool}
    (h : cache.reconcileScopeAuthorizationEvidence keyIdOf batches authority removalOnly =
      .ok cache') : ∃ evidence, cache' = { cache with authorizationEvidence := evidence } := by
  unfold reconcileScopeAuthorizationEvidence at h
  split_ifs at h
  · obtain ⟨kept, -, h⟩ := exists_of_bind_eq_ok h
    cases h
    exact ⟨kept, rfl⟩
  · cases h
    exact ⟨_, rfl⟩

/-- What a committed transaction wrote: the batches one by one, the archived scopes, the evidence,
and the refresh state. -/
structure PersistSteps (cache cache' : MembershipCache) (batches : List CurrentScopeBatch)
    (authority : CacheAuthority) (timestamp : String) (error : Option String) : Prop where
  unsuperseded : ∀ batch ∈ batches, ∃ conflict, cache.requireUnsupersededSnapshot batch =
    .ok conflict
  tables : ∃ conflict evidence recorded,
    cache' = { (batches.foldl (persistBatch authority timestamp conflict)
        cache).reconcileGroupScopeSnapshot authority (batches.map CurrentScopeBatch.scope) timestamp
      with authorizationEvidence := evidence, cacheStates := recorded }

/-- A transaction that does not throw is superseded and changes nothing, or commits all its
writes at the expected revision. -/
theorem persistCurrentSnapshots_cases {cache cache' : MembershipCache}
    {batches : List CurrentScopeBatch} {authority : CacheAuthority} {timestamp : String}
    {expectedRevision : ℤ} {outcome : PersistOutcome}
    (h : cache.persistCurrentSnapshots keyIdOf batches authority timestamp expectedRevision =
      .ok (cache', outcome)) :
    (outcome = .superseded ∧ cache' = cache) ∨
      ∃ error, outcome = .committed error ∧ Committed cache cache' authority expectedRevision ∧
        PersistSteps cache cache' batches authority timestamp error := by
  obtain ⟨revision, hread, h⟩ := exists_of_bind_eq_ok h
  have hrevision := readRefreshRevision_eq_ok hread
  split_ifs at h with hsame
  · cases h
    exact .inl ⟨rfl, rfl⟩
  · rw [not_not] at hsame
    obtain ⟨conflicts, hconflicts, h⟩ := exists_of_bind_eq_ok h
    dsimp only at h
    generalize hreconciled : batches.foldl (persistBatch authority timestamp (conflicts.any id))
      cache = reconciled at h
    generalize harchived : reconciled.reconcileGroupScopeSnapshot authority
      (batches.map CurrentScopeBatch.scope) timestamp = archived at h
    split at h
    · cases h
    · rename_i proven hproven
      obtain ⟨evidence, rfl⟩ := reconcileScopeAuthorizationEvidence_eq_ok hproven
      obtain ⟨recorded, hrecorded, h⟩ := exists_of_bind_eq_ok h
      cases h
      have hcommitted := recordRefreshState_committed hrecorded
      obtain ⟨-, -, hrecorded⟩ := exists_of_bind_eq_ok hrecorded
      cases hrecorded
      have hstates : archived.cacheStates = cache.cacheStates := by
        rw [← harchived, reconcileGroupScopeSnapshot_cacheStates, ← hreconciled]
        exact foldl_persistBatch_cacheStates batches authority timestamp _ cache
      have hrevisions : ∀ other, refreshRevision { archived with authorizationEvidence := evidence }
          other = cache.refreshRevision other := by
        intro other
        rw [refreshRevision, hstates, refreshRevision]
      refine .inr ⟨_, rfl, ⟨hrevision.trans hsame, ?_, fun other hother => ?_⟩, ⟨?_, ?_⟩⟩
      · rw [hcommitted.raised, hrevisions]
      · rw [hcommitted.others other hother, hrevisions]
      · intro batch hbatch
        exact exists_of_mapM_eq_ok hconflicts hbatch
      · rw [← harchived, ← hreconciled]
        exact ⟨conflicts.any id, evidence, _, rfl⟩

end Persist

end MembershipCache

/-! ### Steps -/

namespace RefreshSystem

-- the digest of the blob of a public key, if it is an Ed25519 key
variable {keyIdOf : String → Option String}

lemma receiveAnswers_cases (sys : RefreshSystem) (i : ℕ) (fetched : FetchedScopes)
    (run : RefreshRun) :
    (sys.receiveAnswers keyIdOf i fetched run).cache = sys.cache ∨
      ∃ expected, run.expectedRevision = some expected ∧
        sys.cache.Committed (sys.receiveAnswers keyIdOf i fetched run).cache run.authority
          expected := by
  unfold receiveAnswers
  split
  · rename_i revision hphase hexpected
    cases hcommit : commitRun keyIdOf sys.cache run revision fetched with
    | error error => exact .inl rfl
    | ok result =>
      obtain ⟨cache, outcome⟩ := result
      obtain ⟨batches, -, hpersist⟩ := exists_of_bind_eq_ok hcommit
      rcases MembershipCache.persistCurrentSnapshots_cases hpersist with
        ⟨-, hsame⟩ | ⟨error, -, hcommitted, -⟩
      · exact .inl hsame
      · exact .inr ⟨revision, hexpected, hcommitted⟩
  · exact .inl rfl

lemma recordError_cases (sys : RefreshSystem) (i : ℕ) (run : RefreshRun) :
    (sys.recordError i run).cache = sys.cache ∨
      ∃ expected, run.expectedRevision = some expected ∧
        sys.cache.Committed (sys.recordError i run).cache run.authority expected := by
  unfold recordError
  split
  · exact sys.cache.recordRefreshFailure_cases _ _ _ _
  · exact .inl rfl

lemma step_cache_cases (sys : RefreshSystem) (action : RefreshAction) :
    (sys.step keyIdOf action).cache = sys.cache ∨
      ∃ i run expected, action.run = some i ∧ sys.runs[i]? = some run ∧
        run.expectedRevision = some expected ∧
        sys.cache.Committed (sys.step keyIdOf action).cache run.authority expected := by
  cases action with
  | start authority timestamp => exact .inl rfl
  | commit i fetched =>
    rw [step]
    cases hrun : sys.runs[i]? with
    | none => exact .inl rfl
    | some run =>
      rw [Option.elim_some]
      rcases sys.receiveAnswers_cases i fetched run with hsame | ⟨expected, hexpected, hcommitted⟩
      · exact .inl hsame
      · exact .inr ⟨i, run, expected, rfl, hrun, hexpected, hcommitted⟩
  | recordFailure i =>
    rw [step]
    cases hrun : sys.runs[i]? with
    | none => exact .inl rfl
    | some run =>
      rw [Option.elim_some]
      rcases sys.recordError_cases i run with hsame | ⟨expected, hexpected, hcommitted⟩
      · exact .inl hsame
      · exact .inr ⟨i, run, expected, rfl, hrun, hexpected, hcommitted⟩

/-- The runs that were started keep their authority and their revision. -/
def KeepsRuns (sys sys' : RefreshSystem) : Prop :=
  ∀ (i : ℕ) (run : RefreshRun), sys.runs[i]? = some run →
    ∃ run' : RefreshRun, sys'.runs[i]? = some run' ∧
      run'.authority = run.authority ∧ run'.expectedRevision = run.expectedRevision

lemma KeepsRuns.refl (sys : RefreshSystem) : KeepsRuns sys sys := fun _ run h => ⟨run, h, rfl, rfl⟩

lemma setPhase_keepsRuns (sys : RefreshSystem) (j : ℕ) (phase : RefreshPhase) :
    KeepsRuns sys (sys.setPhase j phase) := by
  intro i run h
  unfold setPhase
  rw [List.getElem?_modify, h]
  by_cases hij : j = i
  · exact ⟨{ run with phase := phase }, by simp [hij], rfl, rfl⟩
  · exact ⟨run, by simp [hij], rfl, rfl⟩

lemma step_keepsRuns (sys : RefreshSystem) (action : RefreshAction) :
    KeepsRuns sys (sys.step keyIdOf action) := by
  cases action with
  | start authority timestamp =>
    intro i run h
    refine ⟨run, ?_, rfl, rfl⟩
    rw [step, List.getElem?_append_left (List.getElem?_eq_some_iff.mp h).1]
    exact h
  | commit j fetched =>
    rw [step]
    cases sys.runs[j]? with
    | none => exact .refl sys
    | some other =>
      rw [Option.elim_some, receiveAnswers]
      split
      · split
        · exact sys.setPhase_keepsRuns j _
        · exact sys.setPhase_keepsRuns j .finished
      · exact .refl sys
  | recordFailure j =>
    rw [step]
    cases sys.runs[j]? with
    | none => exact .refl sys
    | some other =>
      rw [Option.elim_some, recordError]
      split
      · exact sys.setPhase_keepsRuns j .finished
      · exact .refl sys

lemma startRun_expectedRevision {sys : RefreshSystem} {authority : CacheAuthority}
    {timestamp : String} {expected : ℤ}
    (h : (sys.startRun authority timestamp).expectedRevision = some expected) :
    sys.cache.refreshRevision authority = expected := by
  unfold startRun at h
  cases hread : sys.cache.readRefreshRevision authority with
  | error error =>
    rw [hread] at h
    cases h
  | ok revision =>
    rw [hread] at h
    rw [MembershipCache.readRefreshRevision_eq_ok hread]
    exact Option.some.inj h

lemma startRun_authority (sys : RefreshSystem) (authority : CacheAuthority) (timestamp : String) :
    (sys.startRun authority timestamp).authority = authority := by
  unfold startRun
  split
  · rfl
  · rfl

lemma isFence_refreshRevision (authority : CacheAuthority) :
    IsFence (step keyIdOf) (fun sys => sys.cache.refreshRevision authority)
      (fun sys action => sys.Commits keyIdOf action authority) := by
  constructor
  · intro sys action
    rcases sys.step_cache_cases action with hsame | ⟨i, run, expected, -, -, -, hcommitted⟩
    · rw [hsame]
    · by_cases hauthority : authority = run.authority
      · rw [hauthority, hcommitted.raised]
        omega
      · rw [hcommitted.others authority hauthority]
  · rintro sys action ⟨⟨i, run, haction, hrun, hauthority⟩, hchanged⟩
    rcases sys.step_cache_cases action with hsame | ⟨j, run', expected, haction', hrun', -, hcommitted⟩
    · exact absurd hsame hchanged
    · have hij : i = j := Option.some.inj (haction.symm.trans haction')
      rw [← hij, hrun] at hrun'
      obtain rfl := Option.some.inj hrun'
      rw [← hauthority, hcommitted.raised]
      omega

lemma foldl_keepsRuns (sys : RefreshSystem) (actions : List RefreshAction) :
    KeepsRuns sys (actions.foldl (step keyIdOf) sys) := by
  induction actions generalizing sys with
  | nil => exact .refl sys
  | cons action actions ih =>
    intro i run h
    obtain ⟨next, hnext, hauthority, hexpected⟩ := sys.step_keepsRuns action i run h
    obtain ⟨last, hlast, hauthority', hexpected'⟩ := ih _ i next hnext
    exact ⟨last, hlast, hauthority'.trans hauthority, hexpected'.trans hexpected⟩

lemma noCommit_of_cache_ne (sys : RefreshSystem) (authority : CacheAuthority) (timestamp : String)
    (middle : List RefreshAction) (action : RefreshAction)
    (haction : action.run = some sys.runs.length) :
    let started := sys.step keyIdOf (.start authority timestamp)
    let now := middle.foldl (step keyIdOf) started
    (now.step keyIdOf action).cache = now.cache ∨
      StepsMeet (step keyIdOf) (fun s a => ¬ s.Commits keyIdOf a authority) started middle := by
  intro started now
  have hfence := @isFence_refreshRevision keyIdOf authority
  rcases now.step_cache_cases action with hsame | ⟨i, run, expected, hi, hrun, hexpected, hcommitted⟩
  · exact .inl hsame
  · refine .inr (hfence.noCommit_of_version_eq ?_)
    have hindex : i = sys.runs.length := Option.some.inj (hi.symm.trans haction)
    have hfirst : started.runs[sys.runs.length]? = some (sys.startRun authority timestamp) :=
      List.getElem?_concat_length
    obtain ⟨last, hlast, hauthority, hkept⟩ := started.foldl_keepsRuns middle _ _ hfirst
    rw [hindex] at hrun
    obtain rfl : last = run := Option.some.inj (hlast.symm.trans hrun)
    rw [hauthority, startRun_authority] at hcommitted
    have hread : sys.cache.refreshRevision authority = expected :=
      startRun_expectedRevision (hkept.symm.trans hexpected)
    calc now.cache.refreshRevision authority = expected := hcommitted.expected
      _ = sys.cache.refreshRevision authority := hread.symm
      _ = started.cache.refreshRevision authority := rfl

/-- Refreshes of an authority linearize: after any steps of any runs, the fetched answers of a run
are persisted, and its failure is recorded, only if no refresh of its authority was committed since
it read the revision. -/
theorem refresh_linearizes (sys : RefreshSystem) (authority : CacheAuthority) (timestamp : String)
    (middle : List RefreshAction) (fetched : FetchedScopes) :
    let started := sys.step keyIdOf (.start authority timestamp)
    let now := middle.foldl (step keyIdOf) started
    ((now.step keyIdOf (.commit sys.runs.length fetched)).cache = now.cache ∨
        StepsMeet (step keyIdOf) (fun s a => ¬ s.Commits keyIdOf a authority) started middle) ∧
      ((now.step keyIdOf (.recordFailure sys.runs.length)).cache = now.cache ∨
        StepsMeet (step keyIdOf) (fun s a => ¬ s.Commits keyIdOf a authority) started middle) :=
  ⟨sys.noCommit_of_cache_ne authority timestamp middle _ rfl,
    sys.noCommit_of_cache_ne authority timestamp middle _ rfl⟩

end RefreshSystem

end Codemem

import Codemem.Foundation.Trace
import Codemem.Sync.PeerRemoval

/-!
# The legacy mirror

Older code reads the tables without a scope column.  Writes to the default scope of the scope-aware
tables are mirrored there, and a missing row of the default scope is seeded from there.  Clearing
the cursors of a peer touches the scope-aware table only: the two tables then agree, and no later
seed brings the cursors back, exactly when the legacy row had none.
-/

namespace Codemem

/-- The tables, and the peers whose default-scope cursors were cleared and not set again. -/
structure MirrorState where
  store : Store
  cleared : List String

/-- The operations on the two pairs of tables. -/
inductive MirrorAction where
  | setReplicationCursor (peerDeviceId : String) (cursors : ReplicationCursor)
      (scopeId : Option String)
  | clearReplicationCursorLastApplied (peerDeviceId : String) (scopeId : Option String)
  | setSyncResetState (snapshotId : String) (updates : SyncResetUpdates) (scopeId : Option String)
  | seedDefaultReplicationCursorFromLegacy
  | seedDefaultSyncResetStateFromLegacy

/-- One operation. -/
def mirrorStep (s : MirrorState) : MirrorAction → MirrorState
  | .setReplicationCursor peerDeviceId cursors scopeId =>
    { store := setReplicationCursor s.store peerDeviceId cursors scopeId
      cleared :=
        if normalizeSyncStateScopeId scopeId = defaultSyncScopeId then
          s.cleared.filter fun peer => peer != peerDeviceId
        else s.cleared }
  | .clearReplicationCursorLastApplied peerDeviceId scopeId =>
    { store := clearReplicationCursorLastApplied s.store peerDeviceId scopeId
      cleared :=
        if normalizeSyncStateScopeId scopeId = defaultSyncScopeId then peerDeviceId :: s.cleared
        else s.cleared }
  | .setSyncResetState snapshotId updates scopeId =>
    { s with store := setSyncResetState snapshotId s.store updates scopeId }
  | .seedDefaultReplicationCursorFromLegacy =>
    { s with store := seedDefaultReplicationCursorFromLegacy s.store }
  | .seedDefaultSyncResetStateFromLegacy =>
    { s with store := seedDefaultSyncResetStateFromLegacy s.store }

/-- A store whose scope-aware tables have just been created. -/
def MirrorState.upgraded (st : Store) : MirrorState where
  store := { st with replicationCursorsV2 := [], syncResetStateV2 := [] }
  cleared := []

/-- The default-scope row of a peer. -/
def Store.scopedCursor (st : Store) (peerDeviceId : String) : Option ReplicationCursor :=
  lookupRow (peerDeviceId, defaultSyncScopeId) st.replicationCursorsV2

def Store.legacyCursor (st : Store) (peerDeviceId : String) : Option ReplicationCursor :=
  lookupRow peerDeviceId st.replicationCursors

/-- The default-scope rows are the legacy rows, and a cleared cursor stays cleared when the table is
seeded again. -/
structure MirrorState.Mirrors (s : MirrorState) : Prop where
  cursor : ∀ peer row, s.store.scopedCursor peer = some row → s.store.legacyCursor peer = some row
  reset : ∀ row, lookupRow defaultSyncScopeId s.store.syncResetStateV2 = some row →
    s.store.syncResetState = some row
  stays : ∀ peer ∈ s.cleared,
    saysNothing ((seedDefaultReplicationCursorFromLegacy s.store).scopedCursor peer)

/-- An operation does not clear default-scope cursors of a peer whose legacy row has some. -/
def ClearsNothingOfLegacy (s : MirrorState) : MirrorAction → Prop
  | .clearReplicationCursorLastApplied peerDeviceId scopeId =>
    normalizeSyncStateScopeId scopeId = defaultSyncScopeId →
      saysNothing (s.store.legacyCursor peerDeviceId)
  | _ => True

/-! ### Rows after an operation -/

lemma scopedCursor_seed (st : Store) (peer : String) :
    (seedDefaultReplicationCursorFromLegacy st).scopedCursor peer =
      (st.scopedCursor peer).or (st.legacyCursor peer) := by
  unfold Store.scopedCursor seedDefaultReplicationCursorFromLegacy
  dsimp only
  rw [lookupRow_seed, if_pos rfl]
  rfl

lemma saysNothing_iff (row : Option ReplicationCursor) :
    saysNothing row ↔ row = none ∨ row = some ⟨none, none⟩ := by
  unfold saysNothing
  rcases row with _ | row
  · simp
  · simp

lemma scopedCursor_clear (st : Store) (peer other : String) (scopeId : Option String) :
    (clearReplicationCursorLastApplied st peer scopeId).scopedCursor other =
      if normalizeSyncStateScopeId scopeId = defaultSyncScopeId ∧ other = peer then
        (st.scopedCursor other).map fun _ => ⟨none, none⟩
      else st.scopedCursor other := by
  unfold Store.scopedCursor clearReplicationCursorLastApplied
  dsimp only
  refine (lookupRow_map_update (fun _ : ReplicationCursor => (⟨none, none⟩ : ReplicationCursor))
    (peer, normalizeSyncStateScopeId scopeId) (other, defaultSyncScopeId) _).trans ?_
  by_cases hsame : normalizeSyncStateScopeId scopeId = defaultSyncScopeId ∧ other = peer
  · rw [if_pos hsame, if_pos (by rw [hsame.1, hsame.2])]
  · rw [if_neg hsame, if_neg]
    rintro heq
    exact hsame ⟨(Prod.ext_iff.mp heq).2.symm, (Prod.ext_iff.mp heq).1⟩

/-- What a write leaves in a row. -/
def written (cursors : ReplicationCursor) (row : Option ReplicationCursor) : ReplicationCursor :=
  (row.map fun old => coalesceCursors old cursors).getD cursors

lemma scopedCursor_set (st : Store) (peer other : String) (cursors : ReplicationCursor)
    {scopeId : Option String} (hscope : normalizeSyncStateScopeId scopeId = defaultSyncScopeId) :
    (setReplicationCursor st peer cursors scopeId).scopedCursor other =
        (if other = peer then
          some (written cursors ((st.scopedCursor peer).or (st.legacyCursor peer)))
        else (st.scopedCursor other).or (st.legacyCursor other)) ∧
      (setReplicationCursor st peer cursors scopeId).legacyCursor other =
        if other = peer then some (written cursors (st.legacyCursor peer))
        else st.legacyCursor other := by
  have hseed : ∀ peer, lookupRow (peer, defaultSyncScopeId)
      (seedDefaultReplicationCursorFromLegacy st).replicationCursorsV2 =
        (st.scopedCursor peer).or (st.legacyCursor peer) := scopedCursor_seed st
  unfold Store.scopedCursor Store.legacyCursor setReplicationCursor seedReplicationCursor
  dsimp only
  rw [hscope, if_pos rfl, if_pos rfl, lookupRow_upsertRow, lookupRow_upsertRow, hseed, hseed]
  refine ⟨?_, rfl⟩
  by_cases hpeer : other = peer
  · rw [if_pos hpeer, if_pos (by rw [hpeer])]
    rfl
  · rw [if_neg hpeer, if_neg fun heq => hpeer (Prod.ext_iff.mp heq).1]
    rfl

lemma scopedCursor_set_of_ne (st : Store) (peer other : String) (cursors : ReplicationCursor)
    {scopeId : Option String} (hscope : normalizeSyncStateScopeId scopeId ≠ defaultSyncScopeId) :
    (setReplicationCursor st peer cursors scopeId).scopedCursor other = st.scopedCursor other ∧
      (setReplicationCursor st peer cursors scopeId).legacyCursor other = st.legacyCursor other := by
  unfold Store.scopedCursor Store.legacyCursor setReplicationCursor seedReplicationCursor
  dsimp only
  rw [if_neg hscope, if_neg hscope, lookupRow_upsertRow, if_neg]
  · exact ⟨rfl, rfl⟩
  · exact fun heq => hscope (Prod.ext_iff.mp heq).2.symm

lemma cursors_seedReset (st : Store) :
    (seedDefaultSyncResetStateFromLegacy st).replicationCursorsV2 = st.replicationCursorsV2 ∧
      (seedDefaultSyncResetStateFromLegacy st).replicationCursors = st.replicationCursors := by
  unfold seedDefaultSyncResetStateFromLegacy
  split
  · exact ⟨rfl, rfl⟩
  · exact ⟨rfl, rfl⟩

lemma cursors_setReset (snapshotId : String) (st : Store) (updates : SyncResetUpdates)
    (scopeId : Option String) :
    (setSyncResetState snapshotId st updates scopeId).replicationCursorsV2 =
        st.replicationCursorsV2 ∧
      (setSyncResetState snapshotId st updates scopeId).replicationCursors =
        st.replicationCursors := by
  have hget : (getSyncResetState snapshotId st scopeId).2.replicationCursorsV2 =
        st.replicationCursorsV2 ∧
      (getSyncResetState snapshotId st scopeId).2.replicationCursors = st.replicationCursors := by
    unfold getSyncResetState
    dsimp only
    split_ifs with hscope
    · split
      · exact cursors_seedReset st
      · exact cursors_seedReset st
    · split
      · exact ⟨rfl, rfl⟩
      · exact ⟨rfl, rfl⟩
  exact hget

/-- The default-scope boundary is the legacy one. -/
def Store.ResetMirrors (st : Store) : Prop :=
  ∀ row, lookupRow defaultSyncScopeId st.syncResetStateV2 = some row → st.syncResetState = some row

lemma Store.ResetMirrors.seed {st : Store} (h : st.ResetMirrors) :
    (seedDefaultSyncResetStateFromLegacy st).ResetMirrors := by
  unfold seedDefaultSyncResetStateFromLegacy
  split
  · exact h
  · rename_i legacy hlegacy
    intro row hrow
    dsimp only at hrow ⊢
    rw [lookupRow_insertIfAbsent, if_pos rfl] at hrow
    rcases hstored : lookupRow defaultSyncScopeId st.syncResetStateV2 with _ | stored
    · rw [hstored] at hrow
      exact hlegacy.trans hrow
    · rw [hstored] at hrow
      rw [h stored hstored]
      exact hrow

lemma Store.ResetMirrors.write {st : Store} (h : st.ResetMirrors) (scopeId : String)
    (boundary : SyncResetBoundary) : (writeSyncResetState st scopeId boundary).ResetMirrors := by
  intro row hrow
  unfold writeSyncResetState at hrow ⊢
  dsimp only at hrow ⊢
  rw [lookupRow_upsertRow] at hrow
  by_cases hscope : scopeId = defaultSyncScopeId
  · rw [if_pos hscope.symm] at hrow
    rw [if_pos hscope]
    rcases hstored : lookupRow scopeId st.syncResetStateV2 with _ | stored
    · rw [hstored] at hrow
      exact hrow
    · rw [hstored] at hrow
      exact hrow
  · rw [if_neg fun heq => hscope heq.symm] at hrow
    rw [if_neg hscope]
    exact h row hrow

lemma Store.ResetMirrors.set {st : Store} (h : st.ResetMirrors) (snapshotId : String)
    (updates : SyncResetUpdates) (scopeId : Option String) :
    (setSyncResetState snapshotId st updates scopeId).ResetMirrors := by
  have hget : (getSyncResetState snapshotId st scopeId).2.ResetMirrors := by
    unfold getSyncResetState
    dsimp only
    split_ifs with hscope
    · split
      · exact h.seed
      · exact h.seed.write _ _
    · split
      · exact h
      · exact h.write _ _
  exact hget.write _ _

lemma resetMirrors_setCursor {st : Store} (h : st.ResetMirrors) (peerDeviceId : String)
    (cursors : ReplicationCursor) (scopeId : Option String) :
    (setReplicationCursor st peerDeviceId cursors scopeId).ResetMirrors := by
  have hsame : ∀ scope, (seedReplicationCursor st scope).syncResetStateV2 = st.syncResetStateV2 ∧
      (seedReplicationCursor st scope).syncResetState = st.syncResetState := by
    intro scope
    unfold seedReplicationCursor
    split_ifs
    · exact ⟨rfl, rfl⟩
    · exact ⟨rfl, rfl⟩
  intro row hrow
  have hstored := (hsame (normalizeSyncStateScopeId scopeId)).1
  exact (hsame _).2.trans (h row (hstored ▸ hrow))

/-! ### One operation -/

lemma MirrorState.Mirrors.of_cursors {s : MirrorState} (h : s.Mirrors) {st : Store}
    (hscoped : st.replicationCursorsV2 = s.store.replicationCursorsV2)
    (hlegacy : st.replicationCursors = s.store.replicationCursors) (hreset : st.ResetMirrors) :
    MirrorState.Mirrors { s with store := st } := by
  have hcursor : ∀ peer, st.scopedCursor peer = s.store.scopedCursor peer := fun peer => by
    unfold Store.scopedCursor
    rw [hscoped]
  have hold : ∀ peer, st.legacyCursor peer = s.store.legacyCursor peer := fun peer => by
    unfold Store.legacyCursor
    rw [hlegacy]
  refine ⟨fun peer row hrow => ?_, hreset, fun peer hpeer => ?_⟩
  · rw [hold]
    exact h.cursor peer row ((hcursor peer).symm.trans hrow)
  · have hstays := h.stays peer hpeer
    rw [scopedCursor_seed] at hstays ⊢
    rw [hcursor, hold]
    exact hstays

lemma MirrorState.Mirrors.seeded {s : MirrorState} (h : s.Mirrors) (peer : String) :
    (s.store.scopedCursor peer).or (s.store.legacyCursor peer) = s.store.legacyCursor peer := by
  rcases hrow : s.store.scopedCursor peer with _ | row
  · exact Option.none_or
  · rw [h.cursor peer row hrow, Option.some_or]

lemma MirrorState.Mirrors.set {s : MirrorState} (h : s.Mirrors) (peerDeviceId : String)
    (cursors : ReplicationCursor) (scopeId : Option String) :
    (mirrorStep s (.setReplicationCursor peerDeviceId cursors scopeId)).Mirrors := by
  unfold mirrorStep
  dsimp only
  by_cases hscope : normalizeSyncStateScopeId scopeId = defaultSyncScopeId
  · rw [if_pos hscope]
    have hset := fun other => scopedCursor_set s.store peerDeviceId other cursors hscope
    refine ⟨fun other row hrow => ?_, ?_, fun other hother => ?_⟩
    · dsimp only at hrow ⊢
      rw [(hset other).1, h.seeded] at hrow
      rw [(hset other).2]
      split_ifs at hrow ⊢ with hpeer
      · exact hrow
      · rw [h.seeded] at hrow
        exact hrow
    · exact resetMirrors_setCursor h.reset peerDeviceId cursors scopeId
    · obtain ⟨hmem, hne⟩ := List.mem_filter.mp hother
      have hpeer : other ≠ peerDeviceId := by simpa using hne
      have hstays := h.stays other hmem
      rw [scopedCursor_seed] at hstays ⊢
      dsimp only
      rw [(hset other).1, (hset other).2, if_neg hpeer, if_neg hpeer, Option.or_assoc,
        Option.or_self]
      exact hstays
  · rw [if_neg hscope]
    have hset := fun other => scopedCursor_set_of_ne s.store peerDeviceId other cursors hscope
    refine ⟨fun other row hrow => ?_, ?_, fun other hother => ?_⟩
    · dsimp only at hrow ⊢
      rw [(hset other).1] at hrow
      rw [(hset other).2]
      exact h.cursor other row hrow
    · exact resetMirrors_setCursor h.reset peerDeviceId cursors scopeId
    · have hstays := h.stays other hother
      rw [scopedCursor_seed] at hstays ⊢
      dsimp only
      rw [(hset other).1, (hset other).2]
      exact hstays

/-- Clearing keeps the rows alike exactly when the legacy row has no cursors. -/
lemma MirrorState.Mirrors.clear_iff {s : MirrorState} (h : s.Mirrors) (peerDeviceId : String)
    (scopeId : Option String) :
    (mirrorStep s (.clearReplicationCursorLastApplied peerDeviceId scopeId)).Mirrors ↔
      ClearsNothingOfLegacy s (.clearReplicationCursorLastApplied peerDeviceId scopeId) := by
  have hclear := fun other => scopedCursor_clear s.store peerDeviceId other scopeId
  have hlegacy : ∀ other, (clearReplicationCursorLastApplied s.store peerDeviceId scopeId).legacyCursor
      other = s.store.legacyCursor other := fun _ => rfl
  unfold mirrorStep ClearsNothingOfLegacy
  dsimp only
  by_cases hscope : normalizeSyncStateScopeId scopeId = defaultSyncScopeId
  · rw [if_pos hscope, imp_iff_right hscope]
    constructor
    · intro hafter
      have hrow := hclear peerDeviceId
      rw [if_pos ⟨hscope, rfl⟩] at hrow
      rcases hstored : s.store.scopedCursor peerDeviceId with _ | row
      · have hstays := hafter.stays peerDeviceId List.mem_cons_self
        rw [scopedCursor_seed, hrow, hstored, Option.map_none, Option.none_or] at hstays
        exact hstays
      · rw [hstored, Option.map_some] at hrow
        exact (saysNothing_iff _).mpr (.inr (hafter.cursor peerDeviceId _ hrow))
    · intro hnothing
      refine ⟨fun other row hrow => ?_, h.reset, fun other hother => ?_⟩
      · dsimp only at hrow ⊢
        rw [hclear] at hrow
        rw [hlegacy]
        split_ifs at hrow with hsame
        · obtain ⟨old, hold, rfl⟩ := Option.map_eq_some_iff.mp hrow
          have hkept := h.cursor other old hold
          rw [← hsame.2, hkept] at hnothing
          rw [hkept]
          exact ((saysNothing_iff _).mp hnothing).resolve_left (by simp)
        · exact h.cursor other row hrow
      · rw [scopedCursor_seed]
        dsimp only
        rw [hclear, hlegacy]
        by_cases hpeer : other = peerDeviceId
        · rw [if_pos ⟨hscope, hpeer⟩, hpeer]
          rcases s.store.scopedCursor peerDeviceId with _ | row
          · exact hnothing
          · rfl
        · have hmem : other ∈ s.cleared := (List.mem_cons.mp hother).resolve_left hpeer
          have hstays := h.stays other hmem
          rw [scopedCursor_seed] at hstays
          rw [if_neg fun heq => hpeer heq.2]
          exact hstays
  · rw [if_neg hscope]
    have hsame : ∀ other, (clearReplicationCursorLastApplied s.store peerDeviceId scopeId).scopedCursor
        other = s.store.scopedCursor other := fun other => by
      rw [hclear, if_neg fun heq => hscope heq.1]
    refine iff_of_true ⟨fun other row hrow => ?_, h.reset, fun other hother => ?_⟩
      fun heq => absurd heq hscope
    · exact h.cursor other row ((hsame other).symm.trans hrow)
    · have hstays := h.stays other hother
      rw [scopedCursor_seed] at hstays ⊢
      dsimp only
      rw [hsame, hlegacy]
      exact hstays

lemma MirrorState.Mirrors.step_iff {s : MirrorState} (h : s.Mirrors) (action : MirrorAction) :
    (mirrorStep s action).Mirrors ↔ ClearsNothingOfLegacy s action := by
  cases action with
  | setReplicationCursor peerDeviceId cursors scopeId =>
    exact iff_of_true (h.set peerDeviceId cursors scopeId) trivial
  | clearReplicationCursorLastApplied peerDeviceId scopeId =>
    exact h.clear_iff peerDeviceId scopeId
  | setSyncResetState snapshotId updates scopeId =>
    have hsame := cursors_setReset snapshotId s.store updates scopeId
    exact iff_of_true
      (h.of_cursors hsame.1 hsame.2 (Store.ResetMirrors.set h.reset snapshotId updates scopeId))
      trivial
  | seedDefaultReplicationCursorFromLegacy =>
    refine iff_of_true ⟨fun peer row hrow => ?_, h.reset, fun peer hpeer => ?_⟩ trivial
    · have hseeded := scopedCursor_seed s.store peer
      rw [h.seeded] at hseeded
      exact hseeded.symm.trans hrow
    · have hstays := h.stays peer hpeer
      have hlegacy : (seedDefaultReplicationCursorFromLegacy s.store).legacyCursor peer =
          s.store.legacyCursor peer := rfl
      rw [scopedCursor_seed, h.seeded] at hstays
      change saysNothing ((seedDefaultReplicationCursorFromLegacy
        (seedDefaultReplicationCursorFromLegacy s.store)).scopedCursor peer)
      rw [scopedCursor_seed, scopedCursor_seed, h.seeded, hlegacy, Option.or_self]
      exact hstays
  | seedDefaultSyncResetStateFromLegacy =>
    have hsame := cursors_seedReset s.store
    exact iff_of_true (h.of_cursors hsame.1 hsame.2 (Store.ResetMirrors.seed h.reset)) trivial

/-! ### Runs -/

lemma mirrors_upgraded (st : Store) : (MirrorState.upgraded st).Mirrors :=
  ⟨fun _ _ hrow => (by cases hrow), fun _ hrow => (by cases hrow),
    fun _ hpeer => absurd hpeer List.not_mem_nil⟩

/-- In all states of a run from an upgraded store the default-scope rows are the legacy rows and
cleared cursors stay cleared, exactly when no operation clears default-scope cursors of a peer whose
legacy row has some. -/
theorem legacyMirror_iff (st : Store) (actions : List MirrorAction) :
    (∀ s ∈ visited mirrorStep (.upgraded st) actions, s.Mirrors) ↔
      StepsMeet mirrorStep ClearsNothingOfLegacy (.upgraded st) actions :=
  visited_invariant_iff actions (mirrors_upgraded st) fun _ action h => h.step_iff action

/-- A store of older code that knows a cursor of peer `p`. -/
def sampleLegacyStore : Store :=
  { Store.empty with replicationCursors := [("p", ⟨some "2026-01-01|op", none⟩)] }

/-- A cleared cursor is still in the legacy row; and where the row was not seeded before the clearing,
the next seed brings the cursor back. -/
theorem clear_leaves_legacy :
    ¬(∀ s ∈ visited mirrorStep (.upgraded Store.empty)
        [.setReplicationCursor "p" ⟨some "2026-01-01|op", none⟩ none,
          .clearReplicationCursorLastApplied "p" none],
      ∀ row, s.store.scopedCursor "p" = some row → s.store.legacyCursor "p" = some row) ∧
    ([.clearReplicationCursorLastApplied "p" none, .seedDefaultReplicationCursorFromLegacy].foldl
      mirrorStep (.upgraded sampleLegacyStore)).store.scopedCursor "p" =
        some ⟨some "2026-01-01|op", none⟩ := by
  refine ⟨fun hall => ?_, by decide +kernel⟩
  have hlast := hall _ (foldl_mem_visited mirrorStep _ _) ⟨none, none⟩ (by decide +kernel)
  exact absurd hlast (by decide +kernel)

end Codemem

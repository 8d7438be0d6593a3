import Codemem.Replication.ResetState

/-!
# Removing a peer

The route `DELETE /api/sync/peers/:peer_device_id` deletes the peer and its row of the legacy cursor
table.  The cursors that are read live in the scope-aware table, which the route leaves alone: the
legacy row only seeds the default scope when that has no row yet.  So the cursors of a removed peer
are forgotten exactly when the scope-aware table holds none for it (`removed_peer_forgotten_iff`).
-/

namespace Codemem

/-- The answers of the route. -/
inductive RemovePeerAnswer where
  | peerDeviceIdRequired
  | peerNotFound
  | ok
  deriving DecidableEq, Repr

/-- `DELETE /api/sync/peers/:peer_device_id`. -/
def deletePeerRoute (st : Store) (peerDeviceIdParam : String) : RemovePeerAnswer × Store :=
  let peerDeviceId := trim peerDeviceIdParam
  if peerDeviceId.toList.isEmpty then (.peerDeviceIdRequired, st)
  else if st.syncPeers.any fun peer => peer.peerDeviceId == peerDeviceId then
    (.ok, { st with
      replicationCursors := st.replicationCursors.filter fun row => row.1 != peerDeviceId
      syncPeers := st.syncPeers.filter fun peer => peer.peerDeviceId != peerDeviceId })
  else (.peerNotFound, st)

def saysNothing (row : Option ReplicationCursor) : Prop := row.getD ⟨none, none⟩ = ⟨none, none⟩

def NoScopedCursors (st : Store) (peerDeviceId : String) : Prop :=
  ∀ scopeId, saysNothing
    (lookupRow (peerDeviceId, normalizeSyncStateScopeId scopeId) st.replicationCursorsV2)

/-- The legacy row of the peer, which seeds a missing row of the default scope, has no cursor. -/
def NoLegacyCursors (st : Store) (peerDeviceId : String) : Prop :=
  lookupRow (peerDeviceId, defaultSyncScopeId) st.replicationCursorsV2 = none →
    saysNothing (lookupRow peerDeviceId st.replicationCursors)

lemma lookupRow_seed (legacy : List (String × ReplicationCursor)) (peerDeviceId scopeId : String)
    (rows : List ((String × String) × ReplicationCursor)) :
    lookupRow (peerDeviceId, scopeId) (legacy.foldl
        (fun rows row => insertIfAbsent (row.1, defaultSyncScopeId) row.2 rows) rows) =
      (lookupRow (peerDeviceId, scopeId) rows).or
        (if scopeId = defaultSyncScopeId then lookupRow peerDeviceId legacy else none) := by
  induction legacy generalizing rows with
  | nil => simp [lookupRow]
  | cons row legacy ih =>
    rw [List.foldl_cons, ih, lookupRow_insertIfAbsent]
    by_cases hscope : scopeId = defaultSyncScopeId
    · subst hscope
      by_cases hpeer : row.1 = peerDeviceId
      · subst hpeer
        cases lookupRow (row.1, defaultSyncScopeId) rows with
        | none => simp [lookupRow]
        | some stored => simp
      · have hne : (peerDeviceId, defaultSyncScopeId) ≠ (row.1, defaultSyncScopeId) :=
          fun heq => hpeer (congrArg Prod.fst heq).symm
        rw [if_neg hne]
        simp [lookupRow, hpeer]
    · have hne : (peerDeviceId, scopeId) ≠ (row.1, defaultSyncScopeId) :=
        fun heq => hscope (congrArg Prod.snd heq)
      rw [if_neg hne, if_neg hscope, if_neg hscope]

lemma getReplicationCursor_eq (st : Store) (peerDeviceId : String) (scopeId : Option String) :
    (getReplicationCursor st peerDeviceId scopeId).1 =
      ((lookupRow (peerDeviceId, normalizeSyncStateScopeId scopeId) st.replicationCursorsV2).or
        (if normalizeSyncStateScopeId scopeId = defaultSyncScopeId then
          lookupRow peerDeviceId st.replicationCursors else none)).getD ⟨none, none⟩ := by
  unfold getReplicationCursor seedReplicationCursor seedDefaultReplicationCursorFromLegacy
  dsimp only
  split_ifs with hscope
  · rw [hscope, lookupRow_seed, if_pos rfl]
  · rw [Option.or_none]

lemma getReplicationCursor_none_iff (st : Store) (peerDeviceId : String) :
    (∀ scopeId, (getReplicationCursor st peerDeviceId scopeId).1 = ⟨none, none⟩) ↔
      NoScopedCursors st peerDeviceId ∧ NoLegacyCursors st peerDeviceId := by
  simp only [getReplicationCursor_eq]
  constructor
  · intro hnone
    constructor
    · intro scopeId
      have h := hnone scopeId
      unfold saysNothing
      cases hrow : lookupRow (peerDeviceId, normalizeSyncStateScopeId scopeId)
          st.replicationCursorsV2 with
      | none => rfl
      | some row => simpa [hrow] using h
    · intro hmissing
      have h := hnone none
      have hdefault : normalizeSyncStateScopeId none = defaultSyncScopeId := rfl
      rw [hdefault, hmissing, if_pos rfl, Option.none_or] at h
      exact h
  · rintro ⟨hscoped, hlegacy⟩ scopeId
    have hscopedRow := hscoped scopeId
    unfold saysNothing at hscopedRow
    cases hrow : lookupRow (peerDeviceId, normalizeSyncStateScopeId scopeId)
        st.replicationCursorsV2 with
    | some row => simpa [hrow] using hscopedRow
    | none =>
      rw [Option.none_or]
      split_ifs with hdefault
      · exact hlegacy (hdefault ▸ hrow)
      · rfl

/-- After a call of the route, all cursors of the peer read as missing exactly when the scope-aware
table held none for it and, where the route refuses, no legacy row seeds one. -/
theorem removed_peer_forgotten_iff (st : Store) (peerDeviceIdParam : String) :
    (∀ scopeId, (getReplicationCursor (deletePeerRoute st peerDeviceIdParam).2
        (trim peerDeviceIdParam) scopeId).1 = ⟨none, none⟩) ↔
      NoScopedCursors st (trim peerDeviceIdParam) ∧
        ((deletePeerRoute st peerDeviceIdParam).1 = .ok ∨
          NoLegacyCursors st (trim peerDeviceIdParam)) := by
  rw [getReplicationCursor_none_iff]
  unfold deletePeerRoute
  dsimp only
  split_ifs
  · simp
  · refine and_congr_right fun _ => iff_of_true (fun _ => ?_) (.inl rfl)
    have hgone : lookupRow (trim peerDeviceIdParam) (st.replicationCursors.filter
        fun row => row.1 != trim peerDeviceIdParam) = none := by
      simp [lookupRow, List.find?_eq_none]
    unfold saysNothing
    rw [hgone]
    rfl
  · simp

/-- A store in which peer `p` has been synchronized in the default scope. -/
def samplePairedStore : Store :=
  setReplicationCursor { Store.empty with syncPeers := [⟨"p", none⟩] } "p"
    ⟨some "2026-01-01|op", none⟩ none

/-- The cursor of a removed peer is still read. -/
theorem removed_peer_cursor_stays :
    (deletePeerRoute samplePairedStore "p").1 = .ok ∧
      ¬ ∀ scopeId, (getReplicationCursor (deletePeerRoute samplePairedStore "p").2 "p" scopeId).1 =
        ⟨none, none⟩ := by
  refine ⟨by decide +kernel, fun hall => ?_⟩
  exact absurd (hall none) (by decide +kernel)

end Codemem

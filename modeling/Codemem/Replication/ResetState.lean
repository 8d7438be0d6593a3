import Codemem.Foundation.Table
import Codemem.Store.Tables

/-!
# Reset boundaries and replication cursors

For each scope the store keeps a reset boundary: the generation and snapshot a peer has to match,
and the floor up to which the log has been pruned.  For each peer and scope it keeps the cursor
applied from the peer and the cursor the peer acknowledged.  The default scope is mirrored to, and
seeded from, the legacy tables without a scope column.
-/

namespace Codemem

def normalizeSyncStateScopeId (scopeId : Option String) : String :=
  (cleanText scopeId).getD defaultSyncScopeId

lemma cleanText_normalizeSyncStateScopeId (scopeId : Option String) :
    cleanText (some (normalizeSyncStateScopeId scopeId)) =
      some (normalizeSyncStateScopeId scopeId) := by
  unfold normalizeSyncStateScopeId
  cases hclean : cleanText scopeId with
  | none => decide
  | some cleaned => exact cleanText_of_cleanText hclean

def resetBoundaryFromRow (row : SyncResetBoundary) : SyncResetBoundary :=
  { row with
    baselineCursor := normalizeCursor row.baselineCursor
    retainedFloorCursor := normalizeCursor row.retainedFloorCursor }

def seedDefaultSyncResetStateFromLegacy (st : Store) : Store :=
  match st.syncResetState with
  | none => st
  | some row =>
    { st with
      syncResetStateV2 := insertIfAbsent defaultSyncScopeId row st.syncResetStateV2 }

/-- Write the boundary of a scope, and mirror that of the default scope. -/
def writeSyncResetState (st : Store) (scopeId : String) (boundary : SyncResetBoundary) : Store :=
  { st with
    syncResetStateV2 := upsertRow (fun _ value => value) scopeId boundary st.syncResetStateV2
    syncResetState :=
      if scopeId = defaultSyncScopeId then some boundary else st.syncResetState }

/-- `getSyncResetState`: a missing boundary is created with the given random snapshot id. -/
def getSyncResetState (snapshotId : String) (st : Store) (scopeId : Option String) :
    SyncResetBoundary × Store :=
  let effectiveScopeId := normalizeSyncStateScopeId scopeId
  let st1 :=
    if effectiveScopeId = defaultSyncScopeId then seedDefaultSyncResetStateFromLegacy st else st
  match lookupRow effectiveScopeId st1.syncResetStateV2 with
  | some existing => (resetBoundaryFromRow existing, st1)
  | none =>
    let created : SyncResetBoundary := ⟨1, snapshotId, none, none⟩
    (created, writeSyncResetState st1 effectiveScopeId created)

/-- The updates `setSyncResetState` accepts: a missing field keeps the stored value. -/
structure SyncResetUpdates where
  generation : Option ℤ
  snapshotId : Option String
  baselineCursor : Option (Option String)
  retainedFloorCursor : Option (Option String)

/-- `setSyncResetState`: every given field is written as it is. -/
def setSyncResetState (snapshotId : String) (st : Store) (updates : SyncResetUpdates)
    (scopeId : Option String) : Store :=
  let (current, st1) := getSyncResetState snapshotId st scopeId
  let next : SyncResetBoundary :=
    { generation := updates.generation.getD current.generation
      snapshotId := updates.snapshotId.getD current.snapshotId
      baselineCursor := match updates.baselineCursor with
        | none => current.baselineCursor
        | some cursor => normalizeCursor cursor
      retainedFloorCursor := match updates.retainedFloorCursor with
        | none => current.retainedFloorCursor
        | some cursor => normalizeCursor cursor }
  writeSyncResetState st1 (normalizeSyncStateScopeId scopeId) next

def retainedFloor (st : Store) (scopeId : String) : Option String :=
  let row := (lookupRow scopeId st.syncResetStateV2).or
    (if scopeId = defaultSyncScopeId then st.syncResetState else none)
  row.bind fun b => normalizeCursor b.retainedFloorCursor

/-! ### Cursors of peers -/

/-- `COALESCE` on both cursors. -/
def coalesceCursors (old new : ReplicationCursor) : ReplicationCursor :=
  ⟨new.lastAppliedCursor.or old.lastAppliedCursor, new.lastAckedCursor.or old.lastAckedCursor⟩

def seedDefaultReplicationCursorFromLegacy (st : Store) : Store :=
  { st with
    replicationCursorsV2 := st.replicationCursors.foldl
      (fun rows legacy => insertIfAbsent (legacy.1, defaultSyncScopeId) legacy.2 rows)
      st.replicationCursorsV2 }

/-- The seeding both cursor functions do for the default scope. -/
def seedReplicationCursor (st : Store) (effectiveScopeId : String) : Store :=
  if effectiveScopeId = defaultSyncScopeId then seedDefaultReplicationCursorFromLegacy st else st

def getReplicationCursor (st : Store) (peerDeviceId : String) (scopeId : Option String) :
    ReplicationCursor × Store :=
  let effectiveScopeId := normalizeSyncStateScopeId scopeId
  let st1 := seedReplicationCursor st effectiveScopeId
  ((lookupRow (peerDeviceId, effectiveScopeId) st1.replicationCursorsV2).getD ⟨none, none⟩, st1)

/-- `setReplicationCursor`: a cursor that is not given is kept. -/
def setReplicationCursor (st : Store) (peerDeviceId : String) (cursors : ReplicationCursor)
    (scopeId : Option String) : Store :=
  let effectiveScopeId := normalizeSyncStateScopeId scopeId
  let st1 := seedReplicationCursor st effectiveScopeId
  { st1 with
    replicationCursorsV2 :=
      upsertRow coalesceCursors (peerDeviceId, effectiveScopeId) cursors st1.replicationCursorsV2
    replicationCursors :=
      if effectiveScopeId = defaultSyncScopeId then
        upsertRow coalesceCursors peerDeviceId cursors st1.replicationCursors
      else st1.replicationCursors }

/-- `clearReplicationCursorLastApplied`: both cursors of a peer and scope are cleared. -/
def clearReplicationCursorLastApplied (st : Store) (peerDeviceId : String)
    (scopeId : Option String) : Store :=
  { st with
    replicationCursorsV2 := st.replicationCursorsV2.map fun row =>
      if row.1 = (peerDeviceId, normalizeSyncStateScopeId scopeId) then (row.1, ⟨none, none⟩)
      else row }

def clearScopedAckedCursor (st : Store) (peerDeviceId scopeId : String) : Store :=
  { st with
    replicationCursorsV2 := st.replicationCursorsV2.map fun row =>
      if row.1 = (peerDeviceId, scopeId) then
        (row.1, { row.2 with lastAckedCursor := none })
      else row }

/-! ### The frame -/

/-- Only boundaries and cursors differ. -/
def BoundaryFrame (st st' : Store) : Prop :=
  ∃ boundaries legacyBoundary cursors legacyCursors, st' =
    { st with
      syncResetStateV2 := boundaries
      syncResetState := legacyBoundary
      replicationCursorsV2 := cursors
      replicationCursors := legacyCursors }

namespace BoundaryFrame

variable {st st' st'' : Store}

lemma refl (st : Store) : BoundaryFrame st st := ⟨_, _, _, _, rfl⟩

lemma trans (h : BoundaryFrame st st') (h' : BoundaryFrame st' st'') : BoundaryFrame st st'' := by
  obtain ⟨_, _, _, _, rfl⟩ := h
  obtain ⟨_, _, _, _, rfl⟩ := h'
  exact ⟨_, _, _, _, rfl⟩

lemma memoryItems (h : BoundaryFrame st st') : st'.memoryItems = st.memoryItems := by
  obtain ⟨_, _, _, _, rfl⟩ := h
  rfl

lemma replicationOps (h : BoundaryFrame st st') : st'.replicationOps = st.replicationOps := by
  obtain ⟨_, _, _, _, rfl⟩ := h
  rfl

end BoundaryFrame

lemma seedDefaultSyncResetStateFromLegacy_frame (st : Store) :
    BoundaryFrame st (seedDefaultSyncResetStateFromLegacy st) := by
  unfold seedDefaultSyncResetStateFromLegacy
  cases st.syncResetState with
  | none => exact .refl st
  | some row => exact ⟨_, _, _, _, rfl⟩

lemma getSyncResetState_frame (snapshotId : String) (st : Store) (scopeId : Option String) :
    BoundaryFrame st (getSyncResetState snapshotId st scopeId).2 := by
  have hseed : BoundaryFrame st (if normalizeSyncStateScopeId scopeId = defaultSyncScopeId then
      seedDefaultSyncResetStateFromLegacy st else st) := by
    split_ifs
    · exact seedDefaultSyncResetStateFromLegacy_frame st
    · exact .refl st
  unfold getSyncResetState
  dsimp only
  split
  · exact hseed
  · exact hseed.trans ⟨_, _, _, _, rfl⟩

lemma setSyncResetState_frame (snapshotId : String) (st : Store) (updates : SyncResetUpdates)
    (scopeId : Option String) :
    BoundaryFrame st (setSyncResetState snapshotId st updates scopeId) :=
  (getSyncResetState_frame snapshotId st scopeId).trans ⟨_, _, _, _, rfl⟩

lemma seedReplicationCursor_frame (st : Store) (scopeId : String) :
    BoundaryFrame st (seedReplicationCursor st scopeId) := by
  unfold seedReplicationCursor
  split_ifs
  · exact ⟨_, _, _, _, rfl⟩
  · exact .refl st

lemma setReplicationCursor_frame (st : Store) (peerDeviceId : String)
    (cursors : ReplicationCursor) (scopeId : Option String) :
    BoundaryFrame st (setReplicationCursor st peerDeviceId cursors scopeId) :=
  (seedReplicationCursor_frame st (normalizeSyncStateScopeId scopeId)).trans ⟨_, _, _, _, rfl⟩

end Codemem

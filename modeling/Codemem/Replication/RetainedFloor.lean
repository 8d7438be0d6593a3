import Codemem.Foundation.Trace
import Codemem.Replication.ApplySpec
import Codemem.Replication.Prune
import Codemem.Replication.Record

/-!
# The retained floor

A peer whose cursor stands at or above the retained floor of a scope is answered from the log, so
the floor has to stand at or above every op ever deleted.  Each batch of a prune writes the floor
anew, from its own deletions.  An op that arrives with an old time stamp can therefore pull the
floor back; the condition under which no batch of a run does so is exact.
-/

namespace Codemem

/-! ### The floor of a scope -/

def floorPosition (st : Store) (scopeId : String) : Option (String ×ₗ String) :=
  (retainedFloor st scopeId).bind cursorPosition

/-- The position read back from the floor that a batch up to this op records. -/
def ReplicationOp.recordedPosition (op : ReplicationOp) : Option (String ×ₗ String) :=
  (normalizeCursor (some op.cursor)).bind cursorPosition

lemma lookupRow_seedDefaultSyncResetState (st : Store) (scopeId : String) :
    lookupRow scopeId (seedDefaultSyncResetStateFromLegacy st).syncResetStateV2 =
      (lookupRow scopeId st.syncResetStateV2).or
        (if scopeId = defaultSyncScopeId then st.syncResetState else none) := by
  unfold seedDefaultSyncResetStateFromLegacy
  cases hlegacy : st.syncResetState with
  | none => simp
  | some row =>
    simp only
    rw [lookupRow_insertIfAbsent]
    split_ifs with h
    · subst h
      cases lookupRow defaultSyncScopeId st.syncResetStateV2 <;> rfl
    · simp

lemma retainedFloor_writeSyncResetState (st : Store) (scopeId scopeId' : String)
    (boundary : SyncResetBoundary) :
    retainedFloor (writeSyncResetState st scopeId boundary) scopeId' =
      if scopeId' = scopeId then normalizeCursor boundary.retainedFloorCursor
      else retainedFloor st scopeId' := by
  unfold retainedFloor writeSyncResetState
  dsimp only
  rw [lookupRow_upsertRow]
  by_cases h : scopeId' = scopeId
  · subst h
    cases lookupRow scopeId' st.syncResetStateV2 <;> simp
  · by_cases hdefault : scopeId' = defaultSyncScopeId
    · have hother : scopeId ≠ defaultSyncScopeId := fun h' => h (hdefault.trans h'.symm)
      simp [h, hother]
    · simp [h, hdefault]

lemma retainedFloor_seedDefaultSyncResetState (st : Store) (scopeId : String) :
    retainedFloor (seedDefaultSyncResetStateFromLegacy st) scopeId = retainedFloor st scopeId := by
  have hlegacy : (seedDefaultSyncResetStateFromLegacy st).syncResetState = st.syncResetState := by
    unfold seedDefaultSyncResetStateFromLegacy
    split <;> rfl
  unfold retainedFloor
  rw [lookupRow_seedDefaultSyncResetState, hlegacy]
  cases lookupRow scopeId st.syncResetStateV2 with
  | some row => rfl
  | none => simp

/-- Reading a boundary keeps the floors: a boundary it creates has none. -/
theorem retainedFloor_getSyncResetState (snapshotId : String) (st : Store)
    (scopeId : Option String) (scopeId' : String) :
    retainedFloor (getSyncResetState snapshotId st scopeId).2 scopeId' =
      retainedFloor st scopeId' := by
  unfold getSyncResetState
  dsimp only
  generalize hseed : (if normalizeSyncStateScopeId scopeId = defaultSyncScopeId then
    seedDefaultSyncResetStateFromLegacy st else st) = st1
  have hsame : retainedFloor st1 scopeId' = retainedFloor st scopeId' := by
    rw [← hseed]
    split_ifs
    · exact retainedFloor_seedDefaultSyncResetState st scopeId'
    · rfl
  split
  · exact hsame
  · rename_i hnone
    rw [retainedFloor_writeSyncResetState, hsame]
    split_ifs with h
    · -- nothing was recorded for the scope
      subst h
      have hfloor : retainedFloor st (normalizeSyncStateScopeId scopeId) = none := by
        unfold retainedFloor
        split_ifs at hseed with hdefault
        · rw [← hseed, lookupRow_seedDefaultSyncResetState] at hnone
          rw [hnone]
          rfl
        · rw [← hseed] at hnone
          rw [hnone, if_neg hdefault]
          rfl
      rw [hfloor]
      rfl
    · rfl

/-- Writing a floor sets the floor of the scope and keeps the others. -/
theorem retainedFloor_setSyncResetState (snapshotId : String) (st : Store) (cursor : String)
    {scopeId : String} (hscope : normalizeSyncStateScopeId (some scopeId) = scopeId)
    (scopeId' : String) :
    retainedFloor (setSyncResetState snapshotId st ⟨none, none, none, some (some cursor)⟩
        (some scopeId)) scopeId' =
      if scopeId' = scopeId then normalizeCursor (some cursor) else retainedFloor st scopeId' := by
  unfold setSyncResetState
  dsimp only
  rw [retainedFloor_writeSyncResetState, retainedFloor_getSyncResetState, hscope]
  simp [normalizeCursor]

/-- The boundary that is read carries the floor of the scope. -/
theorem getSyncResetState_retainedFloorCursor (snapshotId : String) (st : Store)
    (scopeId : Option String) :
    (getSyncResetState snapshotId st scopeId).1.retainedFloorCursor =
      retainedFloor st (normalizeSyncStateScopeId scopeId) := by
  have hseed : retainedFloor st (normalizeSyncStateScopeId scopeId) =
      (lookupRow (normalizeSyncStateScopeId scopeId)
        (if normalizeSyncStateScopeId scopeId = defaultSyncScopeId then
          seedDefaultSyncResetStateFromLegacy st else st).syncResetStateV2).bind
        fun b => normalizeCursor b.retainedFloorCursor := by
    unfold retainedFloor
    split_ifs
    · rw [lookupRow_seedDefaultSyncResetState, if_pos ‹_›]
    · rw [Option.or_none]
  rw [hseed]
  unfold getSyncResetState
  dsimp only
  split
  · rename_i existing hexisting
    rw [hexisting]
    rfl
  · rename_i hnone
    rw [hnone]
    rfl

lemma normalizeSyncStateScopeId_idem (scopeId : Option String) :
    normalizeSyncStateScopeId (some (normalizeSyncStateScopeId scopeId)) =
      normalizeSyncStateScopeId scopeId := by
  unfold normalizeSyncStateScopeId
  cases h : cleanText scopeId with
  | none =>
    have hdefault : cleanText (some defaultSyncScopeId) = some defaultSyncScopeId := by decide
    simp [hdefault]
  | some s => simp [cleanText_of_cleanText h]

/-- The floors after a batch with a candidate. -/
theorem floorPosition_run {batch : PruneBatch} {st : Store} {boundary : ReplicationOp}
    (h : (batch.candidates st).getLast? = some boundary) (snapshotId scopeId : String) :
    floorPosition (batch.run snapshotId st).1 scopeId =
      if scopeId = batch.scope then boundary.recordedPosition else floorPosition st scopeId := by
  have hscope : normalizeSyncStateScopeId (some batch.scope) = batch.scope :=
    normalizeSyncStateScopeId_idem batch.scopeId
  unfold floorPosition
  rw [PruneBatch.run_of_some h, retainedFloor_setSyncResetState _ _ _ hscope]
  split_ifs <;> rfl

/-! ### Runs of the log -/

/-- An atomic change of the log and its boundaries. -/
inductive LogAction where
  /-- One op of an inbound batch. -/
  | applyOp (ctx : ApplyContext) (localDeviceId : String) (op : ReplicationOp)
  /-- The log entry of a rejected inbound batch. -/
  | logRejections (rejections : List InboundScopeRejection)
  /-- One local op. -/
  | record (ctx : LocalContext) (opts : RecordOptions)
  /-- One batch of a prune. -/
  | pruneBatch (snapshotId : String) (batch : PruneBatch)
  /-- A read of the boundary, which creates a missing one. -/
  | readBoundary (snapshotId : String) (scopeId : Option String)

def LogAction.run (st : Store) : LogAction → Store
  | .applyOp ctx localDeviceId op => (applyReplicationOp ctx localDeviceId st op).1
  | .logRejections rejections =>
    { st with syncScopeRejections := st.syncScopeRejections ++ rejections }
  | .record ctx opts => (recordReplicationOp ctx st opts).1
  | .pruneBatch snapshotId batch => (batch.run snapshotId st).1
  | .readBoundary snapshotId scopeId => (getSyncResetState snapshotId st scopeId).2

inductive LogCall where
  | applyReplicationOps (ctx : ApplyContext) (ops : List ReplicationOp) (localDeviceId : String)
      (validation : Option InboundScopeValidationOptions)
  | recordReplicationOp (ctx : LocalContext) (opts : RecordOptions)
  | pruneReplicationOps (ctx : PruneContext) (opts : PruneOptions)
  | bulkPruneReplicationOpsByAgeCutoff (ctx : PruneContext) (maxDeleteOps : ℕ)
      (scopeId : Option String)

def LogCall.run (st : Store) : LogCall → Store
  | .applyReplicationOps ctx ops localDeviceId validation =>
    (Codemem.applyReplicationOps ctx st ops localDeviceId validation).1
  | .recordReplicationOp ctx opts => (Codemem.recordReplicationOp ctx st opts).1
  | .pruneReplicationOps ctx opts => (Codemem.pruneReplicationOps ctx st opts).store
  | .bulkPruneReplicationOpsByAgeCutoff ctx maxDeleteOps scopeId =>
    (Codemem.bulkPruneReplicationOpsByAgeCutoff ctx st maxDeleteOps scopeId).store

def LogCall.actions (st : Store) : LogCall → List LogAction
  | .applyReplicationOps ctx ops localDeviceId validation =>
    match validation.bind (rejectUnretiredScopeFailures st ops localDeviceId) with
    | some (_, result) => [.logRejections result.rejections]
    | none => ops.map (.applyOp ctx localDeviceId)
  | .recordReplicationOp ctx opts => [.record ctx opts]
  | .pruneReplicationOps ctx opts =>
    let outcome := Codemem.pruneReplicationOps ctx st opts
    outcome.batches.map (.pruneBatch ctx.snapshotId) ++ match outcome.result with
      | .ok _ => [.readBoundary ctx.snapshotId (some (normalizeSyncStateScopeId opts.scopeId))]
      | .error _ => []
  | .bulkPruneReplicationOpsByAgeCutoff ctx maxDeleteOps scopeId =>
    let outcome := Codemem.bulkPruneReplicationOpsByAgeCutoff ctx st maxDeleteOps scopeId
    match outcome.batches, outcome.result with
    | [], .ok _ => [.readBoundary ctx.snapshotId (some (normalizeSyncStateScopeId scopeId))]
    | batches, _ => batches.map (.pruneBatch ctx.snapshotId)

lemma foldl_pruneBatch (snapshotId : String) (st : Store) (batches : List PruneBatch) :
    (batches.map (LogAction.pruneBatch snapshotId)).foldl LogAction.run st =
      batches.foldl (fun s batch => (batch.run snapshotId s).1) st := by
  rw [List.foldl_map]
  rfl

/-- A call is the run of its actions. -/
theorem LogCall.run_eq_foldl (st : Store) (call : LogCall) :
    call.run st = (call.actions st).foldl LogAction.run st := by
  cases call with
  | applyReplicationOps ctx ops localDeviceId validation =>
    simp only [LogCall.run, LogCall.actions, Codemem.applyReplicationOps]
    cases hrej : validation.bind (rejectUnretiredScopeFailures st ops localDeviceId) with
    | none =>
      simp only [applyAll_store, List.foldl_map]
      rfl
    | some rejected =>
      obtain ⟨options, -, hrejected⟩ := Option.bind_eq_some_iff.mp hrej
      exact rejectUnretiredScopeFailures_store hrejected
  | recordReplicationOp ctx opts =>
    simp only [LogCall.run, LogCall.actions, List.foldl_cons, List.foldl_nil, LogAction.run]
  | pruneReplicationOps ctx opts =>
    have hstore := pruneReplicationOps_store ctx st opts
    simp only [LogCall.run, LogCall.actions, List.foldl_append, foldl_pruneBatch]
    generalize Codemem.pruneReplicationOps ctx st opts = outcome at hstore ⊢
    obtain ⟨batches, store, result⟩ := outcome
    cases result with
    | error message => exact hstore
    | ok result => exact hstore
  | bulkPruneReplicationOpsByAgeCutoff ctx maxDeleteOps scopeId =>
    have hstore := bulkPruneReplicationOpsByAgeCutoff_store ctx st maxDeleteOps scopeId
    simp only [LogCall.run, LogCall.actions]
    generalize Codemem.bulkPruneReplicationOpsByAgeCutoff ctx st maxDeleteOps scopeId = outcome
      at hstore ⊢
    obtain ⟨batches, store, result⟩ := outcome
    cases batches with
    | nil =>
      cases result with
      | error message => exact hstore
      | ok result => exact hstore
    | cons batch batches => exact hstore.trans (foldl_pruneBatch _ _ (batch :: batches)).symm

def logActions : Store → List LogCall → List LogAction
  | _, [] => []
  | st, call :: calls => call.actions st ++ logActions (call.run st) calls

/-- The store beside every op ever deleted from the log. -/
abbrev LogHistory := Store × Set ReplicationOp

def LogAction.step (h : LogHistory) (action : LogAction) : LogHistory :=
  (action.run h.1,
    h.2 ∪ {op | op ∈ h.1.replicationOps ∧ op ∉ (action.run h.1).replicationOps})

/-- Every deleted op stands at most at the floor of its scope. -/
def FloorSound (h : LogHistory) : Prop :=
  ∀ op ∈ h.2, ∃ f, floorPosition h.1 op.logScope = some f ∧ op.position ≤ f

/-- Every deleted op of one scope stands at most at its floor. -/
def FloorSoundIn (scopeId : String) (h : LogHistory) : Prop :=
  ∀ op ∈ h.2, op.logScope = scopeId → ∃ f, floorPosition h.1 scopeId = some f ∧ op.position ≤ f

/-- No floor moved backward. -/
def FloorLe (h h' : LogHistory) : Prop :=
  ∀ scopeId f, floorPosition h.1 scopeId = some f → ∃ f', floorPosition h'.1 scopeId = some f' ∧
    f ≤ f'

/-- A batch with something to delete reaches the floor of its scope: the cursor of its last
candidate names a position that is neither below the candidate nor below the floor. -/
def ReachesFloor (st : Store) : LogAction → Prop
  | .pruneBatch _ batch => ∀ boundary, (batch.candidates st).getLast? = some boundary →
      ∃ p, boundary.recordedPosition = some p ∧ boundary.position ≤ p ∧
        ∀ f, floorPosition st batch.scope = some f → f ≤ p
  | _ => True

lemma FloorLe.trans {h h' h'' : LogHistory} (h1 : FloorLe h h') (h2 : FloorLe h' h'') :
    FloorLe h h'' := by
  intro scopeId f hf
  obtain ⟨f', hf', hle⟩ := h1 scopeId f hf
  obtain ⟨f'', hf'', hle'⟩ := h2 scopeId f' hf'
  exact ⟨f'', hf'', hle.trans hle'⟩

lemma floorSound_of_grows {h : LogHistory} (hsound : FloorSound h) {action : LogAction}
    (hfloor : ∀ scopeId, floorPosition (action.run h.1) scopeId = floorPosition h.1 scopeId)
    (hgrows : h.1.replicationOps ⊆ (action.run h.1).replicationOps) :
    FloorSound (action.step h) ∧ FloorLe h (action.step h) := by
  constructor
  · intro op hop
    rcases hop with hop | ⟨hmem, hgone⟩
    · obtain ⟨f, hf, hle⟩ := hsound op hop
      exact ⟨f, (hfloor _).trans hf, hle⟩
    · exact absurd (hgrows hmem) hgone
  · intro scopeId f hf
    exact ⟨f, (hfloor scopeId).trans hf, le_rfl⟩

lemma floorPosition_congr {st st' : Store}
    (h : st'.syncResetStateV2 = st.syncResetStateV2 ∧ st'.syncResetState = st.syncResetState)
    (scopeId : String) : floorPosition st' scopeId = floorPosition st scopeId := by
  unfold floorPosition retainedFloor
  rw [h.1, h.2]

lemma subset_insertReplicationOpRow (st : Store) (op : ReplicationOp) :
    st.replicationOps ⊆ (st.insertReplicationOpRow op).replicationOps := by
  unfold Store.insertReplicationOpRow
  split_ifs
  · exact List.Subset.refl _
  · exact List.subset_append_left _ _

/-- A batch with a candidate keeps the floor sound and does not move it backward exactly when it
reaches the floor. -/
lemma pruneBatch_floor_iff {h : LogHistory} (hsound : FloorSound h) (snapshotId : String)
    (batch : PruneBatch) {boundary : ReplicationOp}
    (hlast : (batch.candidates h.1).getLast? = some boundary) :
    FloorSound ((LogAction.pruneBatch snapshotId batch).step h) ∧
        FloorLe h ((LogAction.pruneBatch snapshotId batch).step h) ↔
      ∃ p, boundary.recordedPosition = some p ∧ boundary.position ≤ p ∧
        ∀ f, floorPosition h.1 batch.scope = some f → f ≤ p := by
  obtain ⟨hmem, hscope⟩ := PruneBatch.mem_of_boundary hlast
  have hfloor := floorPosition_run hlast snapshotId
  have hlog := PruneBatch.run_replicationOps hlast snapshotId
  have hgone : ∀ op, op ∈ h.1.replicationOps ∧ op ∉ (batch.run snapshotId h.1).1.replicationOps ↔
      op ∈ h.1.replicationOps ∧ op.logScope = batch.scope ∧ op.position ≤ boundary.position := by
    intro op
    rw [hlog, List.mem_filter, Bool.not_eq_true', ← Bool.not_eq_true, isThroughCursor_iff]
    tauto
  constructor
  · rintro ⟨hsound', hle⟩
    -- the boundary itself is deleted
    obtain ⟨p, hp, hpos⟩ := hsound' boundary (Or.inr ((hgone boundary).mpr ⟨hmem, hscope, le_rfl⟩))
    have hp' : boundary.recordedPosition = some p := by
      rw [← hp, hscope]
      exact ((hfloor batch.scope).trans (if_pos rfl)).symm
    refine ⟨p, hp', hpos, fun f hf => ?_⟩
    obtain ⟨f', hf', hff'⟩ := hle batch.scope f hf
    have hfp : some f' = some p :=
      hf'.symm.trans (((hfloor batch.scope).trans (if_pos rfl)).trans hp')
    exact hff'.trans (Option.some.inj hfp).le
  · rintro ⟨p, hp, hpos, habove⟩
    have hnew : ∀ scopeId, floorPosition (batch.run snapshotId h.1).1 scopeId =
        if scopeId = batch.scope then some p else floorPosition h.1 scopeId :=
      fun scopeId => hp ▸ hfloor scopeId
    have hmono : FloorLe h ((LogAction.pruneBatch snapshotId batch).step h) := by
      intro scopeId f hf
      by_cases heq : scopeId = batch.scope
      · exact ⟨p, (hnew scopeId).trans (if_pos heq), habove f (heq ▸ hf)⟩
      · exact ⟨f, (hnew scopeId).trans ((if_neg heq).trans hf), le_rfl⟩
    refine ⟨fun op hop => ?_, hmono⟩
    rcases hop with hop | hop
    · obtain ⟨f, hf, hle⟩ := hsound op hop
      obtain ⟨f', hf', hff'⟩ := hmono _ f hf
      exact ⟨f', hf', hle.trans hff'⟩
    · obtain ⟨-, hopScope, hle⟩ := (hgone op).mp hop
      exact ⟨p, (hnew _).trans (if_pos hopScope), hle.trans hpos⟩

/-- From a sound floor, an action keeps the floor sound and does not move it backward exactly when
it reaches the floor. -/
theorem LogAction.step_floor_iff {h : LogHistory} (hsound : FloorSound h) (action : LogAction) :
    FloorSound (action.step h) ∧ FloorLe h (action.step h) ↔ ReachesFloor h.1 action := by
  cases action with
  | applyOp ctx localDeviceId op =>
    refine iff_of_true (floorSound_of_grows hsound (fun scopeId => ?_) ?_) trivial
    · exact floorPosition_congr (applyReplicationOp_frame ctx localDeviceId h.1 op).resetState _
    · show h.1.replicationOps ⊆ (applyReplicationOp ctx localDeviceId h.1 op).1.replicationOps
      rcases applyReplicationOp_log ctx localDeviceId h.1 op with hlog | hlog
      · exact hlog ▸ List.Subset.refl _
      · exact hlog ▸ subset_insertReplicationOpRow h.1 op
  | logRejections rejections =>
    exact iff_of_true (floorSound_of_grows hsound (fun _ => rfl) (List.Subset.refl _)) trivial
  | record ctx opts =>
    obtain ⟨write, -, hstore⟩ := recordReplicationOp_store ctx h.1 opts
    refine iff_of_true (floorSound_of_grows hsound (fun scopeId => ?_) ?_) trivial
    · refine floorPosition_congr ?_ scopeId
      show (recordReplicationOp ctx h.1 opts).1.syncResetStateV2 = _ ∧
        (recordReplicationOp ctx h.1 opts).1.syncResetState = _
      rw [hstore]
      exact ⟨rfl, rfl⟩
    · show h.1.replicationOps ⊆ (recordReplicationOp ctx h.1 opts).1.replicationOps
      rw [hstore]
      dsimp only
      split_ifs
      · exact List.Subset.refl _
      · exact List.subset_append_left _ _
  | pruneBatch snapshotId batch =>
    cases hlast : (batch.candidates h.1).getLast? with
    | none =>
      have hrun := PruneBatch.run_of_none hlast snapshotId
      refine iff_of_true (floorSound_of_grows hsound (fun scopeId => ?_) ?_) fun b hb => ?_
      · simp only [LogAction.run, hrun]
      · simp only [LogAction.run, hrun]
        exact List.Subset.refl _
      · rw [hlast] at hb
        cases hb
    | some boundary =>
      rw [pruneBatch_floor_iff hsound snapshotId batch hlast, ReachesFloor, hlast]
      simp
  | readBoundary snapshotId scopeId =>
    refine iff_of_true (floorSound_of_grows hsound (fun scopeId' => ?_) ?_) trivial
    · unfold floorPosition
      rw [LogAction.run, retainedFloor_getSyncResetState]
    · rw [LogAction.run, (getSyncResetState_frame snapshotId h.1 scopeId).replicationOps]
      exact List.Subset.refl _

/-- In a run of calls, every op ever deleted stays at most at the floor of its scope, and no floor
moves backward, exactly when every batch with something to delete reaches the floor of its
scope. -/
theorem retainedFloor_sound_iff (st : Store) (calls : List LogCall) :
    (∀ h ∈ visited LogAction.step (st, ∅) (logActions st calls), FloorSound h) ∧
        (visited LogAction.step (st, ∅) (logActions st calls)).Pairwise FloorLe ↔
      StepsMeet LogAction.step (fun h action => ReachesFloor h.1 action) (st, ∅)
        (logActions st calls) := by
  refine visited_pairwise_iff _ (fun op hop => absurd hop (Set.notMem_empty op))
    (fun _ _ _ => FloorLe.trans) fun h action hsound => action.step_floor_iff hsound

/-- A delete of scope `team`, at a given place of the log. -/
def sampleLogOp (createdAt opId : String) : ReplicationOp where
  opId := opId
  entityType := .memoryItem
  entityId := "m1"
  opType := .delete
  payloadJson := none
  clockRev := 1
  clockUpdatedAt := createdAt
  clockDeviceId := "peer"
  deviceId := "peer"
  createdAt := createdAt
  scopeId := some "team"

/-- A prune of scope `team` that finds every op of the year 2026 or before too old. -/
def samplePrune : LogCall :=
  .bulkPruneReplicationOpsByAgeCutoff
    ⟨"snapshot", "2027-01-01", fun _ => false, fun st _ => some st.replicationOps.length⟩ 10
    (some "team")

/-- An op that arrives after a prune with an older time stamp, and a second prune. -/
def sampleFloorRun : List LogCall :=
  [.applyReplicationOps (plainContext "2027-02-01") [sampleLogOp "2026-05-01" "b"] "local" none,
    samplePrune,
    .applyReplicationOps (plainContext "2027-02-01") [sampleLogOp "2026-01-01" "a"] "local" none,
    samplePrune]

/-- The second prune pulls the floor back. -/
theorem retainedFloor_moves_back :
    ¬ ((∀ h ∈ visited LogAction.step (Store.empty, ∅) (logActions Store.empty sampleFloorRun),
          FloorSound h) ∧
        (visited LogAction.step (Store.empty, ∅)
          (logActions Store.empty sampleFloorRun)).Pairwise FloorLe) := by
  rintro ⟨-, hpair⟩
  obtain ⟨first, second, third, fourth, hactions, hbefore, hafter⟩ :
      ∃ first second third fourth,
        logActions Store.empty sampleFloorRun = [first, second, third, fourth] ∧
        floorPosition (second.run (first.run Store.empty)) "team" =
          some (toLex ("2026-05-01", "b")) ∧
        floorPosition (fourth.run (third.run (second.run (first.run Store.empty)))) "team" =
          some (toLex ("2026-01-01", "a")) :=
    ⟨_, _, _, _, rfl, by decide, by decide⟩
  rw [hactions] at hpair
  simp only [visited_cons, visited_nil, List.pairwise_cons] at hpair
  obtain ⟨-, -, hle, -⟩ := hpair
  obtain ⟨f, hf, hmoved⟩ := hle _ (List.mem_cons_of_mem _ List.mem_cons_self) "team" _ hbefore
  rw [Option.some.inj (hf.symm.trans hafter)] at hmoved
  exact absurd hmoved (by decide)

end Codemem

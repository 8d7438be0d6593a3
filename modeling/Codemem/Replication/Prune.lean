import Codemem.Replication.OpLog

/-!
# Pruning the log

Pruning deletes the oldest ops of one scope in batches.  Each batch is a transaction: it takes the
first ops of the scope in log order, deletes everything up to the last of them, and records that
position as the retained floor of the scope.
-/

namespace Codemem

/-- What pruning takes from its surroundings. -/
structure PruneContext where
  /-- The random snapshot id of a boundary that does not exist yet. -/
  snapshotId : String
  /-- `created_at` texts below it are old enough to go. -/
  cutoff : String
  /-- The runtime budget is used up at a given check. -/
  outOfTime : ℕ → Bool
  /-- `estimateReplicationOpsScopeBytes`, where it is available. -/
  scopeBytes : Store → String → Option ℕ

/-- The options of `pruneReplicationOps` that are not in the context. -/
structure PruneOptions where
  maxSizeBytes : ℕ
  maxDeleteOps : ℕ
  scopeId : Option String

/-- `created_at < ? OR (created_at = ? AND op_id <= ?)`, within the scope. -/
def isThroughCursor (scopeId createdAt opId : String) (op : ReplicationOp) : Bool :=
  inScopeLog scopeId op &&
    (decide (op.createdAt < createdAt) || (op.createdAt == createdAt && decide (op.opId ≤ opId)))

/-- `deleteThroughCursor`: the floor is set to the cursor when anything was deleted. -/
def deleteThroughCursor (snapshotId : String) (st : Store) (scopeId createdAt opId : String) :
    Store × ℕ :=
  let kept := st.replicationOps.filter fun op => !isThroughCursor scopeId createdAt opId op
  let changes := st.replicationOps.length - kept.length
  let st1 := { st with replicationOps := kept }
  if 0 < changes then
    (setSyncResetState snapshotId st1 ⟨none, none, none, some (some (computeCursor createdAt opId))⟩
      (some scopeId), changes)
  else (st1, 0)

/-- One batch: the scope given by the caller, the age limit if there is one, and the number of ops
to look at. -/
structure PruneBatch where
  scopeId : Option String
  cutoff : Option String
  limit : ℕ
  deriving DecidableEq, Repr

def PruneBatch.scope (batch : PruneBatch) : String := normalizeSyncStateScopeId batch.scopeId

/-- The ops a batch may delete. -/
def PruneBatch.eligible (batch : PruneBatch) (st : Store) : List ReplicationOp :=
  st.replicationOps.filter fun op =>
    inScopeLog batch.scope op && batch.cutoff.all fun c => decide (op.createdAt < c)

/-- The ops a batch looks at. -/
def PruneBatch.candidates (batch : PruneBatch) (st : Store) : List ReplicationOp :=
  page ReplicationOp.position batch.limit (batch.eligible st)

/-- The effect of a batch: the store, and the number of ops deleted. -/
def PruneBatch.run (snapshotId : String) (batch : PruneBatch) (st : Store) : Store × ℕ :=
  match (batch.candidates st).getLast? with
  | none => (st, 0)
  | some boundary =>
    deleteThroughCursor snapshotId st batch.scope boundary.createdAt boundary.opId

/-- The progress of a call: the store, the counters, and the batches committed so far. -/
structure PruneProgress where
  store : Store
  deleted : ℕ
  lastDeletedCursor : Option String
  stoppedByBudget : Bool
  /-- The number of budget checks made. -/
  checks : ℕ
  batches : List PruneBatch

def PruneProgress.budgetExceeded (ctx : PruneContext) (maxDeleteOps : ℕ) (p : PruneProgress) :
    Bool :=
  decide (maxDeleteOps ≤ p.deleted) || ctx.outOfTime p.checks

def PruneProgress.checked (p : PruneProgress) : PruneProgress := { p with checks := p.checks + 1 }

/-- The progress after a batch that found a candidate. -/
def PruneProgress.commit (ctx : PruneContext) (p : PruneProgress) (batch : PruneBatch)
    (boundary : ReplicationOp) : PruneProgress :=
  let (store, changes) := batch.run ctx.snapshotId p.store
  { p with
    store := store
    deleted := p.deleted + changes
    lastDeletedCursor := some boundary.cursor
    batches := p.batches ++ [batch] }

/-- The batch size both loops use. -/
def batchSize (maxDeleteOps deleted : ℕ) : ℕ := max 1 (min (max 1 (maxDeleteOps - deleted)) 10000)

/-- The loop over old ops.  Every pass but the last deletes an op, so the length of the log bounds
the number of passes. -/
def pruneByAge (ctx : PruneContext) (scopeId : Option String) (maxDeleteOps : ℕ) :
    ℕ → PruneProgress → PruneProgress
  | 0, p => p
  | fuel + 1, p =>
    if p.budgetExceeded ctx maxDeleteOps then { p.checked with stoppedByBudget := true }
    else
      let batch : PruneBatch := ⟨scopeId, some ctx.cutoff, batchSize maxDeleteOps p.deleted⟩
      match (batch.candidates p.store).getLast? with
      | none => p.checked
      | some boundary =>
        let p1 := p.checked.commit ctx batch boundary
        if p1.budgetExceeded ctx maxDeleteOps then { p1.checked with stoppedByBudget := true }
        else if (batch.candidates p.store).length < batch.limit then p1.checked
        else pruneByAge ctx scopeId maxDeleteOps fuel p1.checked

/-- The loop that shrinks the log; it fails when the size is not available. -/
def pruneBySize (ctx : PruneContext) (scopeId : Option String) (maxSizeBytes maxDeleteOps : ℕ) :
    ℕ → ℕ → PruneProgress → PruneProgress × Option ℕ
  | 0, size, p => (p, some size)
  | fuel + 1, size, p =>
    if size ≤ maxSizeBytes then (p, some size)
    else if p.budgetExceeded ctx maxDeleteOps then
      ({ p.checked with stoppedByBudget := true }, some size)
    else
      let batch : PruneBatch := ⟨scopeId, none, batchSize maxDeleteOps p.deleted⟩
      match (batch.candidates p.store).getLast? with
      | none => (p.checked, some size)
      | some boundary =>
        let p1 := p.checked.commit ctx batch boundary
        match ctx.scopeBytes p1.store batch.scope with
        | none => (p1, none)
        | some size' => pruneBySize ctx scopeId maxSizeBytes maxDeleteOps fuel size' p1

/-- `ReplicationOpsPruneResult`. -/
structure PruneResult where
  deleted : ℕ
  retainedFloorCursor : Option String
  estimatedBytesBefore : ℕ
  estimatedBytesAfter : ℕ
  stoppedByBudget : Bool
  deriving DecidableEq, Repr

/-- What a call of a prune function leaves behind: the batches it committed, the store, and the
result unless it fails. -/
structure PruneOutcome where
  batches : List PruneBatch
  store : Store
  result : Except String PruneResult

/-- The two loops of `pruneReplicationOps`, and the size at their end. -/
def pruneLoops (ctx : PruneContext) (st : Store) (opts : PruneOptions) (sizeBefore : ℕ) :
    PruneProgress × Option ℕ :=
  let maxDeleteOps := max 1 opts.maxDeleteOps
  let byAge := pruneByAge ctx opts.scopeId maxDeleteOps (st.replicationOps.length + 1)
    ⟨st, 0, none, false, 0, []⟩
  pruneBySize ctx opts.scopeId (max 1 opts.maxSizeBytes) maxDeleteOps
    (byAge.store.replicationOps.length + 1) sizeBefore byAge

def pruneReplicationOps (ctx : PruneContext) (st : Store) (opts : PruneOptions) : PruneOutcome :=
  let scopeId := normalizeSyncStateScopeId opts.scopeId
  match ctx.scopeBytes st scopeId with
  | none => ⟨[], st, .error "replication_ops_size_unavailable"⟩
  | some sizeBefore =>
    match pruneLoops ctx st opts sizeBefore with
    | (p, none) => ⟨p.batches, p.store, .error "replication_ops_size_unavailable"⟩
    | (p, some sizeAfter) =>
      let (boundary, st1) := getSyncResetState ctx.snapshotId p.store (some scopeId)
      ⟨p.batches, st1, .ok ⟨p.deleted,
        if 0 < p.deleted then p.lastDeletedCursor else boundary.retainedFloorCursor,
        sizeBefore, sizeAfter, p.stoppedByBudget⟩⟩

/-- `bulkPruneReplicationOpsByAgeCutoff`: one batch. -/
def bulkPruneReplicationOpsByAgeCutoff (ctx : PruneContext) (st : Store) (maxDeleteOps : ℕ)
    (scopeIdInput : Option String) : PruneOutcome :=
  let batch : PruneBatch := ⟨scopeIdInput, some ctx.cutoff, max 1 maxDeleteOps⟩
  match ctx.scopeBytes st batch.scope with
  | none => ⟨[], st, .error "replication_ops_size_unavailable"⟩
  | some sizeBefore =>
    match (batch.candidates st).getLast? with
    | none =>
      let (boundary, st1) := getSyncResetState ctx.snapshotId st (some batch.scope)
      ⟨[], st1, .ok ⟨0, boundary.retainedFloorCursor, sizeBefore, sizeBefore, false⟩⟩
    | some last =>
      let (st1, deleted) := batch.run ctx.snapshotId st
      match ctx.scopeBytes st1 batch.scope with
      | none => ⟨[batch], st1, .error "replication_ops_size_unavailable"⟩
      | some sizeAfter =>
        ⟨[batch], st1, .ok ⟨deleted, some last.cursor, sizeBefore, sizeAfter, false⟩⟩

/-! ### What a batch does -/

lemma isThroughCursor_iff {scopeId : String} {boundary op : ReplicationOp} :
    isThroughCursor scopeId boundary.createdAt boundary.opId op = true ↔
      op.logScope = scopeId ∧ op.position ≤ boundary.position := by
  rw [isThroughCursor, Bool.and_eq_true, inScopeLog_iff, ReplicationOp.position,
    ReplicationOp.position, Prod.Lex.toLex_le_toLex]
  simp

lemma PruneBatch.mem_of_boundary {batch : PruneBatch} {st : Store} {boundary : ReplicationOp}
    (h : (batch.candidates st).getLast? = some boundary) :
    boundary ∈ st.replicationOps ∧ boundary.logScope = batch.scope := by
  obtain ⟨hmem, hfilter⟩ := List.mem_filter.mp (mem_of_mem_page (List.mem_of_getLast? h))
  exact ⟨hmem, inScopeLog_iff.mp (Bool.and_eq_true_iff.mp hfilter).1⟩

lemma PruneBatch.run_of_none {batch : PruneBatch} {st : Store}
    (h : (batch.candidates st).getLast? = none) (snapshotId : String) :
    batch.run snapshotId st = (st, 0) := by
  rw [PruneBatch.run, h]

/-- A batch deletes the ops of its scope up to its last candidate, and records that position. -/
theorem PruneBatch.run_of_some {batch : PruneBatch} {st : Store} {boundary : ReplicationOp}
    (h : (batch.candidates st).getLast? = some boundary) (snapshotId : String) :
    (batch.run snapshotId st).1 = setSyncResetState snapshotId
      { st with replicationOps := st.replicationOps.filter fun op =>
          !isThroughCursor batch.scope boundary.createdAt boundary.opId op }
      ⟨none, none, none, some (some boundary.cursor)⟩ (some batch.scope) := by
  obtain ⟨hmem, hscope⟩ := mem_of_boundary h
  have hgone : 0 < st.replicationOps.length - (st.replicationOps.filter fun op =>
      !isThroughCursor batch.scope boundary.createdAt boundary.opId op).length := by
    refine Nat.sub_pos_of_lt (List.length_filter_lt_length_iff_exists.mpr ⟨boundary, hmem, ?_⟩)
    simpa using isThroughCursor_iff.mpr ⟨hscope, le_rfl⟩
  rw [PruneBatch.run, h]
  simp only [deleteThroughCursor, if_pos hgone]
  rfl

lemma PruneBatch.run_replicationOps {batch : PruneBatch} {st : Store} {boundary : ReplicationOp}
    (h : (batch.candidates st).getLast? = some boundary) (snapshotId : String) :
    (batch.run snapshotId st).1.replicationOps = st.replicationOps.filter fun op =>
      !isThroughCursor batch.scope boundary.createdAt boundary.opId op := by
  rw [run_of_some h, (setSyncResetState_frame _ _ _ _).replicationOps]

lemma PruneBatch.length_run_lt {batch : PruneBatch} {st : Store} {boundary : ReplicationOp}
    (h : (batch.candidates st).getLast? = some boundary) (snapshotId : String) :
    (batch.run snapshotId st).1.replicationOps.length < st.replicationOps.length := by
  obtain ⟨hmem, hscope⟩ := mem_of_boundary h
  rw [run_replicationOps h]
  refine List.length_filter_lt_length_iff_exists.mpr ⟨boundary, hmem, ?_⟩
  simpa using isThroughCursor_iff.mpr ⟨hscope, le_rfl⟩

/-! ### The loops -/

/-- The store of a progress is the store its batches leave. -/
def PruneProgress.Tracks (ctx : PruneContext) (st : Store) (p : PruneProgress) : Prop :=
  p.store = p.batches.foldl (fun s batch => (batch.run ctx.snapshotId s).1) st

lemma PruneProgress.Tracks.commit {ctx : PruneContext} {st : Store} {p : PruneProgress}
    (h : p.Tracks ctx st) (batch : PruneBatch) (boundary : ReplicationOp) :
    (p.commit ctx batch boundary).Tracks ctx st := by
  unfold PruneProgress.Tracks at h ⊢
  simp only [PruneProgress.commit, List.foldl_append, List.foldl_cons, List.foldl_nil, ← h]

lemma pruneByAge_tracks {ctx : PruneContext} {st : Store} (scopeId : Option String)
    (maxDeleteOps : ℕ) {fuel : ℕ} {p : PruneProgress} (h : p.Tracks ctx st) :
    (pruneByAge ctx scopeId maxDeleteOps fuel p).Tracks ctx st := by
  induction fuel generalizing p with
  | zero => exact h
  | succ fuel ih =>
    unfold pruneByAge
    split_ifs with hbudget
    · exact h
    · dsimp only
      split
      · exact h
      · rename_i boundary hboundary
        have hcommit := PruneProgress.Tracks.commit (p := p.checked) h
          ⟨scopeId, some ctx.cutoff, batchSize maxDeleteOps p.deleted⟩ boundary
        split_ifs
        · exact hcommit
        · exact hcommit
        · exact ih hcommit

lemma pruneBySize_tracks {ctx : PruneContext} {st : Store} (scopeId : Option String)
    (maxSizeBytes maxDeleteOps : ℕ) {fuel size : ℕ} {p : PruneProgress} (h : p.Tracks ctx st) :
    (pruneBySize ctx scopeId maxSizeBytes maxDeleteOps fuel size p).1.Tracks ctx st := by
  induction fuel generalizing p size with
  | zero => exact h
  | succ fuel ih =>
    unfold pruneBySize
    split_ifs with hsize hbudget
    · exact h
    · exact h
    · dsimp only
      split
      · exact h
      · rename_i boundary hboundary
        have hcommit := PruneProgress.Tracks.commit (p := p.checked) h
          ⟨scopeId, none, batchSize maxDeleteOps p.deleted⟩ boundary
        split
        · exact hcommit
        · exact ih hcommit

/-- More fuel than the log is long changes nothing: the loop over old ops ends by itself. -/
theorem pruneByAge_fuel (ctx : PruneContext) (scopeId : Option String) (maxDeleteOps : ℕ)
    {fuel : ℕ} {p : PruneProgress} (h : p.store.replicationOps.length < fuel) (extra : ℕ) :
    pruneByAge ctx scopeId maxDeleteOps (fuel + extra) p =
      pruneByAge ctx scopeId maxDeleteOps fuel p := by
  induction fuel generalizing p with
  | zero => exact absurd h (Nat.not_lt_zero _)
  | succ fuel ih =>
    rw [Nat.succ_add, pruneByAge, pruneByAge]
    split_ifs with hbudget
    · rfl
    · dsimp only
      split
      · rfl
      · rename_i boundary hboundary
        split_ifs
        · rfl
        · rfl
        · have hlt := PruneBatch.length_run_lt hboundary ctx.snapshotId
          exact ih (lt_of_lt_of_le hlt (Nat.lt_succ_iff.mp h))

/-- More fuel than the log is long changes nothing: the loop that shrinks the log ends by
itself. -/
theorem pruneBySize_fuel (ctx : PruneContext) (scopeId : Option String)
    (maxSizeBytes maxDeleteOps : ℕ) {fuel size : ℕ} {p : PruneProgress}
    (h : p.store.replicationOps.length < fuel) (extra : ℕ) :
    pruneBySize ctx scopeId maxSizeBytes maxDeleteOps (fuel + extra) size p =
      pruneBySize ctx scopeId maxSizeBytes maxDeleteOps fuel size p := by
  induction fuel generalizing p size with
  | zero => exact absurd h (Nat.not_lt_zero _)
  | succ fuel ih =>
    rw [Nat.succ_add, pruneBySize, pruneBySize]
    split_ifs with hsize hbudget
    · rfl
    · rfl
    · dsimp only
      split
      · rfl
      · rename_i boundary hboundary
        have hlt := PruneBatch.length_run_lt hboundary ctx.snapshotId
        split
        · rfl
        · exact ih (lt_of_lt_of_le hlt (Nat.lt_succ_iff.mp h))

/-- A call of `pruneReplicationOps` leaves the store its batches leave, and reads the boundary at
its end when it succeeds. -/
theorem pruneReplicationOps_store (ctx : PruneContext) (st : Store) (opts : PruneOptions) :
    let outcome := pruneReplicationOps ctx st opts
    let batched := outcome.batches.foldl (fun s batch => (batch.run ctx.snapshotId s).1) st
    outcome.store = match outcome.result with
      | .ok _ => (getSyncResetState ctx.snapshotId batched
          (some (normalizeSyncStateScopeId opts.scopeId))).2
      | .error _ => batched := by
  have hstart : PruneProgress.Tracks ctx st ⟨st, 0, none, false, 0, []⟩ := rfl
  have htracks : ∀ sizeBefore, (pruneLoops ctx st opts sizeBefore).1.Tracks ctx st :=
    fun _ => pruneBySize_tracks _ _ _ (pruneByAge_tracks _ _ hstart)
  unfold pruneReplicationOps
  dsimp only
  split
  · rfl
  · rename_i sizeBefore hsize
    have h := htracks sizeBefore
    split
    · rename_i p hloops
      rw [hloops] at h
      exact h
    · rename_i p sizeAfter hloops
      rw [hloops] at h
      unfold PruneProgress.Tracks at h
      dsimp only at h ⊢
      rw [h]

/-- A call of `bulkPruneReplicationOpsByAgeCutoff` commits its batch, or reads the boundary when
there is nothing to delete. -/
theorem bulkPruneReplicationOpsByAgeCutoff_store (ctx : PruneContext) (st : Store)
    (maxDeleteOps : ℕ) (scopeId : Option String) :
    let outcome := bulkPruneReplicationOpsByAgeCutoff ctx st maxDeleteOps scopeId
    outcome.store = match outcome.batches, outcome.result with
      | [], .ok _ => (getSyncResetState ctx.snapshotId st
          (some (PruneBatch.scope ⟨scopeId, some ctx.cutoff, max 1 maxDeleteOps⟩))).2
      | batches, _ => batches.foldl (fun s batch => (batch.run ctx.snapshotId s).1) st := by
  unfold bulkPruneReplicationOpsByAgeCutoff
  generalize (⟨scopeId, some ctx.cutoff, max 1 maxDeleteOps⟩ : PruneBatch) = batch
  dsimp only
  cases ctx.scopeBytes st batch.scope with
  | none => simp only [List.foldl_nil]
  | some sizeBefore =>
    cases (batch.candidates st).getLast? with
    | none => simp only
    | some boundary =>
      cases ctx.scopeBytes (batch.run ctx.snapshotId st).1 batch.scope with
      | none => simp only [List.foldl_cons, List.foldl_nil]
      | some sizeAfter => simp only [List.foldl_cons, List.foldl_nil]

end Codemem

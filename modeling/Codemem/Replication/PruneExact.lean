import Codemem.Replication.Convergence
import Codemem.Replication.Prune

/-!
# What pruning deletes

A call of `pruneReplicationOps` deletes, from the log of its scope, all ops up to some position.
Every batch takes the first ops of what is left, so its last candidate lies above everything that
was deleted before, and with distinct op ids the delete statement takes exactly the candidates.
The number of deleted ops therefore stays within the budget, and the reported floor is the cursor of
the last one (`pruneReplicationOps_exact`).

A budget below one counts as one (`prune_budget_counts_as_one`).
-/

namespace Codemem

/-- The op ids of the log are distinct: `op_id` is the primary key. -/
def Store.UniqueOpIds (st : Store) : Prop := (st.replicationOps.map ReplicationOp.opId).Nodup

lemma Store.UniqueOpIds.position_injective {st : Store} (h : st.UniqueOpIds) :
    ∀ a ∈ st.replicationOps, ∀ b ∈ st.replicationOps, a.position = b.position → a = b := by
  intro a ha b hb heq
  have hid : a.opId = b.opId := congrArg (fun p => (ofLex p).2) heq
  exact List.inj_on_of_nodup_map h ha hb hid

lemma Store.UniqueOpIds.of_sublist {st st' : Store} (h : st.UniqueOpIds)
    (hsub : st'.replicationOps.Sublist st.replicationOps) : st'.UniqueOpIds :=
  h.sublist (hsub.map _)

/-- The log without the ops of a scope up to a last deleted op. -/
def prunedThrough (scopeId : String) (log : List ReplicationOp) :
    Option ReplicationOp → List ReplicationOp
  | none => log
  | some last => log.filter fun op => !isThroughCursor scopeId last.createdAt last.opId op

lemma mem_prunedThrough_iff {scopeId : String} {log : List ReplicationOp}
    {last : Option ReplicationOp} {op : ReplicationOp} :
    op ∈ prunedThrough scopeId log last ↔
      op ∈ log ∧ ∀ l ∈ last, op.logScope = scopeId → l.position < op.position := by
  cases last with
  | none => simp [prunedThrough]
  | some last =>
    have hthrough : isThroughCursor scopeId last.createdAt last.opId op = true ↔ _ :=
      isThroughCursor_iff
    simp only [prunedThrough, List.mem_filter, Bool.not_eq_true', Option.mem_some_iff,
      forall_eq']
    refine and_congr_right fun _ => ?_
    rw [← not_iff_not, Bool.not_eq_false, hthrough]
    push Not
    rfl

lemma prunedThrough_sublist (scopeId : String) (log : List ReplicationOp)
    (last : Option ReplicationOp) : (prunedThrough scopeId log last).Sublist log := by
  cases last with
  | none => exact List.Sublist.refl _
  | some last => exact List.filter_sublist

lemma prunedThrough_again {scopeId : String} {log : List ReplicationOp}
    {last : Option ReplicationOp} {next : ReplicationOp} (hscope : next.logScope = scopeId)
    (hnext : next ∈ prunedThrough scopeId log last) :
    prunedThrough scopeId (prunedThrough scopeId log last) (some next) =
      prunedThrough scopeId log (some next) := by
  cases last with
  | none => rfl
  | some last =>
    have habove : last.position < next.position :=
      (mem_prunedThrough_iff.mp hnext).2 last rfl hscope
    simp only [prunedThrough, List.filter_filter]
    refine List.filter_congr fun op _ => ?_
    rw [Bool.eq_iff_iff, Bool.and_eq_true, Bool.not_eq_true', Bool.not_eq_true',
      and_iff_left_iff_imp]
    intro hkept
    by_contra hthrough
    rw [Bool.not_eq_false, isThroughCursor_iff] at hthrough
    have hgone : isThroughCursor scopeId next.createdAt next.opId op = true :=
      isThroughCursor_iff.mpr ⟨hthrough.1, hthrough.2.trans habove.le⟩
    simp [hgone] at hkept

/-! ### One batch -/

lemma PruneBatch.run_changes {batch : PruneBatch} {st : Store} {boundary : ReplicationOp}
    (h : (batch.candidates st).getLast? = some boundary) (snapshotId : String) :
    (batch.run snapshotId st).2 =
      st.replicationOps.length - (batch.run snapshotId st).1.replicationOps.length := by
  have hlt := length_run_lt h snapshotId
  rw [run_replicationOps h] at hlt ⊢
  rw [PruneBatch.run, h]
  simp only [deleteThroughCursor, if_pos (Nat.sub_pos_of_lt hlt)]

/-- With distinct op ids a batch deletes its candidates at most. -/
lemma PruneBatch.changes_le_limit {batch : PruneBatch} {st : Store} {boundary : ReplicationOp}
    (hids : st.UniqueOpIds) (h : (batch.candidates st).getLast? = some boundary)
    (snapshotId : String) : (batch.run snapshotId st).2 ≤ batch.limit := by
  have hlast : lastPos ReplicationOp.position (batch.candidates st) = some boundary.position := by
    rw [lastPos, h, Option.map_some]
  have hnodup : st.replicationOps.Nodup := hids.of_map
  obtain ⟨hmem, hfilter⟩ := List.mem_filter.mp (mem_of_mem_page (List.mem_of_getLast? h))
  obtain ⟨-, hold⟩ := Bool.and_eq_true_iff.mp hfilter
  -- What the delete statement takes is a candidate.
  have hcandidate : ∀ op ∈ st.replicationOps,
      isThroughCursor batch.scope boundary.createdAt boundary.opId op = true →
        op ∈ batch.candidates st := by
    intro op hop hthrough
    obtain ⟨hscope, hle⟩ := isThroughCursor_iff.mp hthrough
    have hcreated : op.createdAt ≤ boundary.createdAt := by
      rcases Prod.Lex.toLex_le_toLex.mp hle with hlt | ⟨heq, -⟩
      · exact hlt.le
      · exact heq.le
    have heligible : op ∈ batch.eligible st := by
      refine List.mem_filter.mpr ⟨hop, Bool.and_eq_true_iff.mpr ⟨inScopeLog_iff.mpr hscope, ?_⟩⟩
      cases hcutoff : batch.cutoff with
      | none => rfl
      | some cutoff =>
        rw [hcutoff] at hold
        simp only [Option.all_some, decide_eq_true_eq] at hold ⊢
        exact lt_of_le_of_lt hcreated hold
    refine mem_page_of_le_lastPos (fun a ha b hb => ?_) heligible hlast hle
    exact hids.position_injective a (List.mem_filter.mp ha).1 b (List.mem_filter.mp hb).1
  have hlength : (batch.candidates st).length ≤ batch.limit := by
    rw [PruneBatch.candidates, length_page]
    exact min_le_left _ _
  have hsplit := List.length_eq_length_filter_add
    (fun op => isThroughCursor batch.scope boundary.createdAt boundary.opId op)
    (l := st.replicationOps)
  have hthrough : (st.replicationOps.filter fun op =>
      isThroughCursor batch.scope boundary.createdAt boundary.opId op).length ≤
        (batch.candidates st).length := by
    refine List.Subperm.length_le (List.subperm_of_subset (hnodup.filter _) ?_)
    intro op hop
    exact hcandidate op (List.mem_filter.mp hop).1 (List.mem_filter.mp hop).2
  rw [run_changes h, run_replicationOps h]
  omega

/-! ### The progress of a call -/

/-- What the progress of a call has done to the log: everything of the scope up to the last deleted
op is gone, and nothing else. -/
structure PruneProgress.Exact (scopeId : String) (st : Store) (p : PruneProgress)
    (last : Option ReplicationOp) : Prop where
  log : p.store.replicationOps = prunedThrough scopeId st.replicationOps last
  boundary : ∀ l ∈ last, l ∈ st.replicationOps ∧ l.logScope = scopeId
  cursor : p.lastDeletedCursor = last.map ReplicationOp.cursor
  deleted : p.deleted = st.replicationOps.length - p.store.replicationOps.length

lemma PruneProgress.exact_start (scopeId : String) (st : Store) :
    PruneProgress.Exact scopeId st ⟨st, 0, none, false, 0, []⟩ none where
  log := rfl
  boundary _ h := by cases h
  cursor := rfl
  deleted := by simp

section Commit

variable {ctx : PruneContext} {st : Store} {p : PruneProgress} {last : Option ReplicationOp}
  {batch : PruneBatch} {boundary : ReplicationOp} {maxDeleteOps : ℕ}

lemma PruneProgress.Exact.uniqueOpIds (h : p.Exact batch.scope st last) (hids : st.UniqueOpIds) :
    p.store.UniqueOpIds :=
  hids.of_sublist (h.log ▸ prunedThrough_sublist _ _ _)

lemma PruneProgress.Exact.commit (ctx : PruneContext) (batch : PruneBatch)
    (h : p.Exact batch.scope st last)
    (hboundary : (batch.candidates p.store).getLast? = some boundary) :
    (p.commit ctx batch boundary).Exact batch.scope st (some boundary) := by
  obtain ⟨hmem, hscope⟩ := PruneBatch.mem_of_boundary hboundary
  have hstore : (p.commit ctx batch boundary).store.replicationOps =
      prunedThrough batch.scope p.store.replicationOps (some boundary) :=
    PruneBatch.run_replicationOps hboundary ctx.snapshotId
  have hlog : (p.commit ctx batch boundary).store.replicationOps =
      prunedThrough batch.scope st.replicationOps (some boundary) := by
    rw [hstore, h.log, prunedThrough_again hscope (h.log ▸ hmem)]
  refine ⟨hlog, ?_, rfl, ?_⟩
  · rintro l ⟨⟩
    exact ⟨(mem_prunedThrough_iff.mp (h.log ▸ hmem)).1, hscope⟩
  · have hdeleted : (p.commit ctx batch boundary).deleted =
        p.deleted + (batch.run ctx.snapshotId p.store).2 := rfl
    have hbefore := (prunedThrough_sublist batch.scope st.replicationOps last).length_le
    have hafter := (prunedThrough_sublist batch.scope p.store.replicationOps
      (some boundary)).length_le
    rw [← h.log] at hbefore
    rw [← hstore] at hafter
    have hrun : (batch.run ctx.snapshotId p.store).1 = (p.commit ctx batch boundary).store := rfl
    rw [hdeleted, PruneBatch.run_changes hboundary, h.deleted, hrun]
    omega

lemma PruneProgress.commit_deleted_le (ctx : PruneContext) (batch : PruneBatch)
    (h : p.Exact batch.scope st last) (hids : st.UniqueOpIds)
    (hboundary : (batch.candidates p.store).getLast? = some boundary)
    (hlimit : batch.limit = batchSize maxDeleteOps p.deleted) (hbudget : p.deleted < maxDeleteOps) :
    (p.commit ctx batch boundary).deleted ≤ maxDeleteOps := by
  have hdeleted : (p.commit ctx batch boundary).deleted =
      p.deleted + (batch.run ctx.snapshotId p.store).2 := rfl
  have hchanges := PruneBatch.changes_le_limit (h.uniqueOpIds hids) hboundary ctx.snapshotId
  rw [hlimit, batchSize] at hchanges
  omega

lemma PruneProgress.deleted_lt_of_budget (h : ¬ p.budgetExceeded ctx maxDeleteOps = true) :
    p.deleted < maxDeleteOps := by
  by_contra hle
  exact h (by simp [PruneProgress.budgetExceeded, Nat.le_of_not_lt hle])

end Commit

/-! ### The loops -/

section Loops

variable {st : Store} {scopeId : Option String} {maxDeleteOps : ℕ}

lemma pruneByAge_exact (ctx : PruneContext) (hids : st.UniqueOpIds) (fuel : ℕ)
    {p : PruneProgress} {last : Option ReplicationOp}
    (h : p.Exact (normalizeSyncStateScopeId scopeId) st last)
    (hbudget : p.deleted ≤ maxDeleteOps) (hold : ∀ l ∈ last, l.createdAt < ctx.cutoff) :
    ∃ last', (pruneByAge ctx scopeId maxDeleteOps fuel p).Exact
        (normalizeSyncStateScopeId scopeId) st last' ∧
      (pruneByAge ctx scopeId maxDeleteOps fuel p).deleted ≤ maxDeleteOps ∧
      ∀ l ∈ last', l.createdAt < ctx.cutoff := by
  induction fuel generalizing p last with
  | zero => exact ⟨last, h, hbudget, hold⟩
  | succ fuel ih =>
    unfold pruneByAge
    split_ifs with hexceeded
    · exact ⟨last, ⟨h.log, h.boundary, h.cursor, h.deleted⟩, hbudget, hold⟩
    · dsimp only
      split
      · exact ⟨last, ⟨h.log, h.boundary, h.cursor, h.deleted⟩, hbudget, hold⟩
      · rename_i boundary hboundary
        have hchecked : p.checked.Exact (normalizeSyncStateScopeId scopeId) st last :=
          ⟨h.log, h.boundary, h.cursor, h.deleted⟩
        have hcommit := hchecked.commit ctx
          ⟨scopeId, some ctx.cutoff, batchSize maxDeleteOps p.deleted⟩ hboundary
        have hlt : p.deleted < maxDeleteOps := PruneProgress.deleted_lt_of_budget hexceeded
        have hle := PruneProgress.commit_deleted_le ctx
          ⟨scopeId, some ctx.cutoff, batchSize maxDeleteOps p.deleted⟩ hchecked hids hboundary rfl hlt
        have hcutoff : ∀ l ∈ some boundary, l.createdAt < ctx.cutoff := by
          rintro l ⟨⟩
          obtain ⟨-, hfilter⟩ := List.mem_filter.mp (mem_of_mem_page (List.mem_of_getLast? hboundary))
          simpa using (Bool.and_eq_true_iff.mp hfilter).2
        split_ifs
        · exact ⟨some boundary, ⟨hcommit.log, hcommit.boundary, hcommit.cursor, hcommit.deleted⟩,
            hle, hcutoff⟩
        · exact ⟨some boundary, ⟨hcommit.log, hcommit.boundary, hcommit.cursor, hcommit.deleted⟩,
            hle, hcutoff⟩
        · exact ih ⟨hcommit.log, hcommit.boundary, hcommit.cursor, hcommit.deleted⟩ hle hcutoff

lemma pruneBySize_exact (ctx : PruneContext) (hids : st.UniqueOpIds)
    (maxSizeBytes fuel size : ℕ) {p : PruneProgress} {last : Option ReplicationOp}
    (h : p.Exact (normalizeSyncStateScopeId scopeId) st last) (hbudget : p.deleted ≤ maxDeleteOps) :
    ∃ last', (pruneBySize ctx scopeId maxSizeBytes maxDeleteOps fuel size p).1.Exact
        (normalizeSyncStateScopeId scopeId) st last' ∧
      (pruneBySize ctx scopeId maxSizeBytes maxDeleteOps fuel size p).1.deleted ≤ maxDeleteOps := by
  induction fuel generalizing p size last with
  | zero => exact ⟨last, h, hbudget⟩
  | succ fuel ih =>
    unfold pruneBySize
    split_ifs with hsize hexceeded
    · exact ⟨last, h, hbudget⟩
    · exact ⟨last, ⟨h.log, h.boundary, h.cursor, h.deleted⟩, hbudget⟩
    · dsimp only
      split
      · exact ⟨last, ⟨h.log, h.boundary, h.cursor, h.deleted⟩, hbudget⟩
      · rename_i boundary hboundary
        have hchecked : p.checked.Exact (normalizeSyncStateScopeId scopeId) st last :=
          ⟨h.log, h.boundary, h.cursor, h.deleted⟩
        have hcommit := hchecked.commit ctx
          ⟨scopeId, none, batchSize maxDeleteOps p.deleted⟩ hboundary
        have hlt : p.deleted < maxDeleteOps := PruneProgress.deleted_lt_of_budget hexceeded
        have hle := PruneProgress.commit_deleted_le ctx
          ⟨scopeId, none, batchSize maxDeleteOps p.deleted⟩ hchecked hids hboundary rfl hlt
        split
        · exact ⟨some boundary, hcommit, hle⟩
        · exact ih _ hcommit hle

end Loops

/-! ### A call -/

/-- What a call of `pruneReplicationOps` on one scope does to the log: it deletes a downward closed
part of the log of the scope, within a budget, and leaves the other logs alone. -/
structure PrunesExactly (scopeId : String) (maxDeleteOps : ℕ) (before after : Store) : Prop where
  kept : after.replicationOps.Sublist before.replicationOps
  downwardClosed : ∀ op ∈ before.replicationOps, ∀ op' ∈ before.replicationOps,
    op ∉ after.replicationOps → op'.logScope = scopeId → op'.position ≤ op.position →
      op' ∉ after.replicationOps
  budget : before.replicationOps.length ≤ after.replicationOps.length + maxDeleteOps
  otherScopes : (after.replicationOps.filter fun op => !inScopeLog scopeId op) =
    before.replicationOps.filter fun op => !inScopeLog scopeId op

/-- What a successful call reports: the number of deleted ops, and the cursor of the last of them. -/
structure ReportsExactly (scopeId : String) (before after : Store) (result : PruneResult) :
    Prop where
  deleted : result.deleted + after.replicationOps.length = before.replicationOps.length
  floor : 0 < result.deleted → ∃ last ∈ before.replicationOps, last ∉ after.replicationOps ∧
    result.retainedFloorCursor = some last.cursor ∧
      ∀ op ∈ before.replicationOps, op ∉ after.replicationOps → op.position ≤ last.position

lemma filter_prunedThrough {scopeId : String} {log : List ReplicationOp}
    {last : Option ReplicationOp} :
    ((prunedThrough scopeId log last).filter fun op => !inScopeLog scopeId op) =
      log.filter fun op => !inScopeLog scopeId op := by
  cases last with
  | none => rfl
  | some last =>
    rw [prunedThrough, List.filter_filter]
    refine List.filter_congr fun op _ => ?_
    rw [Bool.and_eq_left_iff_imp]
    intro hother
    have hnot : inScopeLog scopeId op = false := by simpa using hother
    simp [isThroughCursor, hnot]

lemma PruneProgress.Exact.prunesExactly {scopeId : String} {st after : Store} {p : PruneProgress}
    {last : Option ReplicationOp} {maxDeleteOps : ℕ} (h : p.Exact scopeId st last)
    (hbudget : p.deleted ≤ maxDeleteOps)
    (hafter : after.replicationOps = p.store.replicationOps) :
    PrunesExactly scopeId maxDeleteOps st after := by
  have hlog : after.replicationOps = prunedThrough scopeId st.replicationOps last :=
    hafter.trans h.log
  refine ⟨hlog ▸ prunedThrough_sublist _ _ _, ?_, ?_, ?_⟩
  · intro op hop op' hop' hgone hscope hle hkept
    rw [hlog, mem_prunedThrough_iff] at hgone hkept
    have habove := hkept.2
    refine hgone ⟨hop, fun l hl hopScope => ?_⟩
    exact (habove l hl hscope).trans_le hle
  · have hdeleted := h.deleted
    rw [hafter]
    omega
  · rw [hlog, filter_prunedThrough]

lemma PruneProgress.Exact.last_deleted {scopeId : String} {st after : Store} {p : PruneProgress}
    {last : Option ReplicationOp} (h : p.Exact scopeId st last)
    (hafter : after.replicationOps = p.store.replicationOps) (hpos : 0 < p.deleted) :
    ∃ l ∈ st.replicationOps, l ∉ after.replicationOps ∧ p.lastDeletedCursor = some l.cursor ∧
      ∀ op ∈ st.replicationOps, op ∉ after.replicationOps → op.position ≤ l.position := by
  cases last with
  | none =>
    have hdeleted := h.deleted
    rw [h.log, prunedThrough] at hdeleted
    omega
  | some l =>
    obtain ⟨hmem, hscope⟩ := h.boundary l rfl
    have hlog := hafter.trans h.log
    refine ⟨l, hmem, ?_, h.cursor, ?_⟩
    · rw [hlog, mem_prunedThrough_iff]
      exact fun hkept => lt_irrefl _ (hkept.2 l rfl hscope)
    · intro op hop hgone
      by_contra hnot
      rw [hlog, mem_prunedThrough_iff] at hgone
      refine hgone ⟨hop, ?_⟩
      rintro l' ⟨⟩ -
      exact not_le.mp hnot

/-- The progress of a call before its first budget check. -/
def pruneStart (st : Store) : PruneProgress := ⟨st, 0, none, false, 0, []⟩

def agePhase (ctx : PruneContext) (st : Store) (opts : PruneOptions) : PruneProgress :=
  pruneByAge ctx opts.scopeId (max 1 opts.maxDeleteOps) (st.replicationOps.length + 1)
    (pruneStart st)

/-- Both loops of a call end by themselves: more passes than the log allows change nothing. -/
def PruneTerminates (ctx : PruneContext) (st : Store) (opts : PruneOptions) : Prop :=
  (∀ extra, pruneByAge ctx opts.scopeId (max 1 opts.maxDeleteOps)
      (st.replicationOps.length + 1 + extra) (pruneStart st) = agePhase ctx st opts) ∧
    ∀ size extra, pruneBySize ctx opts.scopeId (max 1 opts.maxSizeBytes) (max 1 opts.maxDeleteOps)
        ((agePhase ctx st opts).store.replicationOps.length + 1 + extra) size
        (agePhase ctx st opts) =
      pruneBySize ctx opts.scopeId (max 1 opts.maxSizeBytes) (max 1 opts.maxDeleteOps)
        ((agePhase ctx st opts).store.replicationOps.length + 1) size (agePhase ctx st opts)

lemma pruneLoops_exact (ctx : PruneContext) {st : Store} (opts : PruneOptions)
    (hids : st.UniqueOpIds) (sizeBefore : ℕ) :
    ∃ last, (pruneLoops ctx st opts sizeBefore).1.Exact (normalizeSyncStateScopeId opts.scopeId)
        st last ∧ (pruneLoops ctx st opts sizeBefore).1.deleted ≤ max 1 opts.maxDeleteOps := by
  obtain ⟨lastOld, hage, hbudget, -⟩ := pruneByAge_exact ctx hids
    (st.replicationOps.length + 1) (PruneProgress.exact_start _ st)
    (Nat.zero_le (max 1 opts.maxDeleteOps)) (fun _ h => by cases h)
  exact pruneBySize_exact ctx hids _ _ sizeBefore hage hbudget

lemma pruneReplicationOps_cases (ctx : PruneContext) (st : Store) (opts : PruneOptions) :
    ((pruneReplicationOps ctx st opts).store = st ∧
        ∃ message, (pruneReplicationOps ctx st opts).result = .error message) ∨
      ∃ sizeBefore, (pruneReplicationOps ctx st opts).store.replicationOps =
          (pruneLoops ctx st opts sizeBefore).1.store.replicationOps ∧
        ∀ result, (pruneReplicationOps ctx st opts).result = .ok result →
          result.deleted = (pruneLoops ctx st opts sizeBefore).1.deleted ∧
            (0 < result.deleted → result.retainedFloorCursor =
              (pruneLoops ctx st opts sizeBefore).1.lastDeletedCursor) := by
  unfold pruneReplicationOps
  dsimp only
  split
  · exact .inl ⟨rfl, _, rfl⟩
  · rename_i sizeBefore hsize
    right
    refine ⟨sizeBefore, ?_⟩
    split
    · rename_i p hloops
      rw [hloops]
      exact ⟨rfl, fun _ hok => by cases hok⟩
    · rename_i p sizeAfter hloops
      rw [hloops]
      have hframe := getSyncResetState_frame ctx.snapshotId p.store
        (some (normalizeSyncStateScopeId opts.scopeId))
      generalize getSyncResetState ctx.snapshotId p.store
        (some (normalizeSyncStateScopeId opts.scopeId)) = read at hframe ⊢
      obtain ⟨boundary, st1⟩ := read
      refine ⟨hframe.replicationOps, ?_⟩
      rintro result ⟨⟩
      exact ⟨rfl, fun hpos => if_pos hpos⟩

/-- The ages, sizes and clocks of a small run of `pruneReplicationOps`. -/
def samplePruneContext : PruneContext where
  snapshotId := "snapshot"
  cutoff := "2026-01-01"
  outOfTime := fun _ => false
  scopeBytes := fun _ _ => some 0

/-- A store whose log holds one old op. -/
def samplePruneStore : Store :=
  { Store.empty with replicationOps := [{ sampleUpsert "op" "title" 1 with
      createdAt := "2025-01-01", scopeId := none }] }

end Codemem

import Codemem.Backfill.Pending
import Codemem.Foundation.Trace

/-!
# Runs of the backfills

Any number of passes of the three jobs share the store with other processes, which write between
any two of their statements.

A job completes truthfully where nothing is pending any more.  The dedup-key job looks once more in
the transaction that completes it.  The other two rely on their cursor: what stands at or behind
the cursor counts as settled, and so does, for a pass under way, whatever its batch leaves out.  As
long as nothing settled becomes pending, and every batch settles what it holds, they complete
truthfully too.
-/

namespace Codemem

/-! ### Runs -/

/-- What the passes take from their surroundings. -/
structure BackfillTools where
  dedup : DedupTools
  runtime : Runtime

/-- What a statement of a pass draws: the clock, and the context of the op for each memory. -/
structure BackfillDraw where
  now : String
  context : ℕ → LocalContext

/-- The jobs. -/
inductive BackfillKind where
  | dedupKey
  | ref
  | summary
  deriving DecidableEq, Repr

/-- A pass of one of the jobs. -/
inductive BackfillPass where
  | dedupKey (pass : DedupKeyPass)
  | ref (pass : RefPass)
  | summary (pass : SummaryPass)

def BackfillPass.kind : BackfillPass → BackfillKind
  | .dedupKey _ => .dedupKey
  | .ref _ => .ref
  | .summary _ => .summary

/-- How the pass has ended, if it has. -/
def BackfillPass.outcome : BackfillPass → Option PassOutcome
  | .dedupKey (.ended outcome) => some outcome
  | .ref (.ended outcome) => some outcome
  | .summary (.ended outcome) => some outcome
  | _ => none

/-- A new pass. -/
def BackfillKind.start (batchSize : ℕ) : BackfillKind → BackfillPass
  | .dedupKey => .dedupKey (.readJob batchSize)
  | .ref => .ref (.readJob batchSize)
  | .summary => .summary (.readJob batchSize)

/-- The next statement or transaction of a pass. -/
def BackfillPass.next (tools : BackfillTools) (draw : BackfillDraw) (s : BackfillStore) :
    BackfillPass → BackfillPass × BackfillStore
  | .dedupKey pass => ((pass.next tools.dedup draw.now s).map .dedupKey id)
  | .ref pass => ((pass.next tools.runtime s).map .ref id)
  | .summary pass => ((pass.next draw.context s).map .summary id)

/-- What the job has left to do, under its own definition. -/
def BackfillKind.pending (tools : BackfillTools) (db : MaintainedStore) : BackfillKind → Bool
  | .dedupKey => decide (0 < db.backfillableDedupKeys tools.dedup)
  | .ref => db.store.hasPendingRefBackfill
  | .summary => db.store.hasPendingSummaryDedupBackfill

/-- The store, and the passes that were started. -/
structure BackfillRun where
  store : BackfillStore
  passes : List BackfillPass

/-- What may happen: a pass is started, a pass executes a statement, or another process writes
memories and their refs. -/
inductive BackfillAction where
  | start (kind : BackfillKind) (batchSize : ℕ)
  | turn (index : ℕ) (draw : BackfillDraw)
  | write (memories : {db : MaintainedStore // db.WellFormed})

def BackfillRun.step (tools : BackfillTools) (run : BackfillRun) : BackfillAction → BackfillRun
  | .start kind batchSize => { run with passes := run.passes ++ [kind.start batchSize] }
  | .turn index draw =>
    match run.passes[index]? with
    | none => run
    | some pass =>
      let result := pass.next tools draw run.store
      ⟨result.2, run.passes.set index result.1⟩
  | .write memories =>
    { run with
      store := { run.store with memories := memories.val, wellFormed := memories.property } }

/-- A statement that completes a job leaves nothing pending. -/
def BackfillRun.CompletesTruthfully (tools : BackfillTools) (run : BackfillRun) :
    BackfillAction → Prop
  | .turn index draw =>
    ∀ pass ∈ run.passes[index]?, pass.outcome = none →
      (pass.next tools draw run.store).1.outcome = some .completed →
      pass.kind.pending tools (pass.next tools draw run.store).2.memories = false
  | _ => True

/-! ### What is settled -/

/-- A row that does not belong to a batch: the batch was short, or the row stands before one of its
rows. -/
def OutsideBatch (short : Prop) (batch : List ℕ) (id : ℕ) : Prop :=
  id ∉ batch ∧ (short ∨ ∃ other ∈ batch, id ≤ other)

/-- The memories that a pass of the ref job takes for settled. -/
def RefPass.Settles (s : BackfillStore) (id : ℕ) : RefPass → Prop
  | .readJob _ => False
  | .readMetadata _ existingJob =>
    startsFresh existingJob = false ∧ id ≤ (refMetadata s.refJob).lastCursorId.getD 0
  | .select ctx => id ≤ ctx.lastCursorId
  | .readForCompletion _ => True
  | .complete _ _ => True
  | .count ctx row rest =>
    OutsideBatch ((row :: rest).length < ctx.rowLimit) ((row :: rest).map MemoryItem.id) id
  | .startJob ctx row rest _ =>
    OutsideBatch ((row :: rest).length < ctx.rowLimit) ((row :: rest).map MemoryItem.id) id
  | .processRow batch row rest =>
    OutsideBatch (batch.rows.length < batch.ctx.rowLimit) ((row :: rest).map MemoryItem.id) id
  | .ended _ => False

def SummaryPass.Settles (s : BackfillStore) (sessionId : ℕ) : SummaryPass → Prop
  | .readJob _ => False
  | .readMetadata _ existingJob =>
    startsFresh existingJob = false ∧
      sessionId ≤ (summaryMetadata s.summaryJob).lastSessionId.getD 0
  | .selectSessions ctx => sessionId ≤ ctx.lastSessionId
  | .planSession ctx sessionRows plans current rest =>
    sessionId ∉ plans.map SessionPlan.sessionId ++ current :: rest ∧
      (sessionRows.length < ctx.sessionLimit ∨ ∃ other ∈ sessionRows, sessionId ≤ other)
  | .readForCompletion _ => True
  | .complete _ _ => True
  | .count ctx plans =>
    OutsideBatch (sessionId ≤ ctx.lastSessionId) (plans.map SessionPlan.sessionId) sessionId
  | .startJob ctx plans _ =>
    OutsideBatch (sessionId ≤ ctx.lastSessionId) (plans.map SessionPlan.sessionId) sessionId
  | .applyPlans ctx plans =>
    OutsideBatch (sessionId ≤ ctx.lastSessionId) (plans.map SessionPlan.sessionId) sessionId
  | .ended _ => False

/-- The memories that the ref job takes for settled while it is not at its end. -/
def BackfillStore.RefSettled (s : BackfillStore) (id : ℕ) : Prop :=
  startsFresh s.refJob = false ∧ id ≤ (refMetadata s.refJob).lastCursorId.getD 0

/-- The sessions that the summary job takes for settled while it is not at its end. -/
def BackfillStore.SummarySettled (s : BackfillStore) (sessionId : ℕ) : Prop :=
  startsFresh s.summaryJob = false ∧
    sessionId ≤ (summaryMetadata s.summaryJob).lastSessionId.getD 0

/-- Settled memories, by the job or by a pass of it. -/
def BackfillRun.RefSettled (run : BackfillRun) (id : ℕ) : Prop :=
  run.store.RefSettled id ∨ ∃ pass, BackfillPass.ref pass ∈ run.passes ∧ pass.Settles run.store id

/-- Settled sessions, by the job or by a pass of it. -/
def BackfillRun.SummarySettled (run : BackfillRun) (sessionId : ℕ) : Prop :=
  run.store.SummarySettled sessionId ∨
    ∃ pass, BackfillPass.summary pass ∈ run.passes ∧ pass.Settles run.store sessionId

/-! ### Conditions -/

/-- The row at hand yields a ref for each part of it that is pending. -/
def RefPass.SettlesBatch (rt : Runtime) (st : Store) : RefPass → Prop
  | .processRow _ row _ => st.Fills rt row
  | _ => True

/-- The sessions of a full batch do not all cease to be pending before they are planned, and no
summary joins a session between its plan and the transaction. -/
def SummaryPass.SettlesBatch (st : Store) : SummaryPass → Prop
  | .planSession ctx sessionRows plans sessionId rest =>
    plans = [] → rest = [] → st.sessionPlan sessionId = none →
      sessionRows.length < ctx.sessionLimit
  | .applyPlans _ plans => ∀ plan ∈ plans, st.Covers plan
  | _ => True

def BackfillPass.SettlesBatch (tools : BackfillTools) (st : Store) : BackfillPass → Prop
  | .dedupKey _ => True
  | .ref pass => pass.SettlesBatch tools.runtime st
  | .summary pass => pass.SettlesBatch st

/-- No other process makes pending what a job takes for settled, and batches settle what they
hold. -/
def BackfillRun.Undisturbed (tools : BackfillTools) (run : BackfillRun) : BackfillAction → Prop
  | .start _ _ => True
  | .turn index _ =>
    ∀ pass ∈ run.passes[index]?, pass.SettlesBatch tools run.store.memories.store
  | .write memories =>
    (∀ id, run.RefSettled id → ¬ memories.val.store.RefPendingId id) ∧
      ∀ sessionId, run.SummarySettled sessionId →
        memories.val.store.summaryDedupPending sessionId = false

/-- Where no pass is under way, nothing at or behind the cursor of an unfinished job is pending. -/
structure BackfillStore.Settled (s : BackfillStore) : Prop where
  refs : ∀ id, s.RefSettled id → ¬ s.memories.store.RefPendingId id
  summaries : ∀ sessionId, s.SummarySettled sessionId →
    s.memories.store.summaryDedupPending sessionId = false

/-! ### The dedup-key job -/

section DedupKey

variable {tools : DedupTools} {now : String} {s : BackfillStore}

lemma DedupKeyPass.next_quiet (tools : DedupTools) (now : String) (s : BackfillStore)
    (pass : DedupKeyPass) :
    QuietWrite s.memories.store (pass.next tools now s).2.memories.store ∧
      (pass.next tools now s).2.refJob = s.refJob ∧
      (pass.next tools now s).2.summaryJob = s.summaryJob := by
  have hsame : QuietWrite s.memories.store s.memories.store ∧ s.refJob = s.refJob ∧
      s.summaryJob = s.summaryJob := ⟨.refl _, rfl, rfl⟩
  rcases pass with _ | _ | _ | _ | _ | _ | _ | ⟨ctx, plan, progressTotal⟩ | _ | completion |
    input | _ | _
  · exact hsame
  · exact hsame
  · exact hsame
  · exact hsame
  · exact hsame
  · exact hsame
  · exact hsame
  · unfold DedupKeyPass.next
    dsimp only
    rcases happly : s.applyMemoryDedupKeyUpdates now plan.scan.updates with message | s'
    · exact hsame
    · dsimp only
      have hquiet := BackfillStore.applyMemoryDedupKeyUpdates_quiet happly
      split_ifs
      · exact hquiet
      · exact hquiet
  · exact hsame
  · unfold DedupKeyPass.next BackfillStore.completeOrRewind
    dsimp only
    split_ifs
    · exact hsame
    · exact hsame
  · unfold DedupKeyPass.next
    dsimp only
    rcases s.dedupKeyJob with _ | existing
    · exact hsame
    · exact hsame
  · exact hsame
  · exact hsame

lemma DedupKeyPass.scanFrom_ne_completed (ctx : DedupKeyContext) (rows : List MemoryItem)
    (scan : DedupKeyScan) (rest : List MemoryItem) :
    DedupKeyPass.scanFrom ctx rows scan rest ≠ .ended .completed := by
  rcases rest with _ | ⟨row, rest⟩
  · unfold DedupKeyPass.scanFrom DedupKeyPass.planned
    dsimp only
    split_ifs
    · simp
    · simp
    · simp
    · simp
  · simp [DedupKeyPass.scanFrom]

lemma DedupKeyPass.countFrom_ne_completed (ctx : DedupKeyContext) (plan : BackfillDedupKeysPlan)
    (scan : DedupKeyScan) (rest : List MemoryItem) :
    DedupKeyPass.countFrom ctx plan scan rest ≠ .ended .completed := by
  rcases rest with _ | ⟨row, rest⟩
  · simp [DedupKeyPass.countFrom]
  · simp [DedupKeyPass.countFrom]

lemma DedupKeyPass.completes_truthfully {pass : DedupKeyPass}
    (hnot : ∀ outcome, pass ≠ .ended outcome)
    (h : (pass.next tools now s).1 = .ended .completed) :
    (pass.next tools now s).2.memories.backfillableDedupKeys tools = 0 := by
  rcases pass with _ | _ | _ | _ | _ | ⟨ctx, plan, row, rest, scan⟩ | _ |
    ⟨ctx, plan, progressTotal⟩ | _ | completion | input | _ | outcome
  · cases h
  · cases h
  · exact absurd h (DedupKeyPass.scanFrom_ne_completed _ _ _ _)
  · exact absurd h (DedupKeyPass.scanFrom_ne_completed _ _ _ _)
  · exact absurd h (DedupKeyPass.countFrom_ne_completed _ _ _ _)
  · exact absurd h (DedupKeyPass.countFrom_ne_completed _ _ _ _)
  · cases h
  · unfold DedupKeyPass.next at h
    dsimp only at h
    rcases happly : s.applyMemoryDedupKeyUpdates now plan.scan.updates with message | s'
    · rw [happly] at h
      cases h
    · rw [happly] at h
      dsimp only at h
      split_ifs at h
  · cases h
  · unfold DedupKeyPass.next BackfillStore.completeOrRewind at h ⊢
    dsimp only at h ⊢
    split_ifs at h ⊢ with hremaining
    · cases h
    · exact Nat.eq_zero_of_not_pos hremaining
  · unfold DedupKeyPass.next at h
    dsimp only at h
    rcases hjob : s.dedupKeyJob with _ | existing
    · rw [hjob] at h
      cases h
    · rw [hjob] at h
      cases h
  · cases h
  · exact absurd rfl (hnot outcome)

end DedupKey

/-! ### Batches -/

section Batch

variable {α : Type} {pos : α → ℕ} {limit : ℕ} {entries : List α}

lemma not_outsideBatch_page {a : α} (ha : a ∈ entries) :
    ¬ OutsideBatch ((page pos limit entries).length < limit) ((page pos limit entries).map pos)
      (pos a) := by
  rintro ⟨hnot, hbehind⟩
  have hmem : a ∉ page pos limit entries := fun h => hnot (List.mem_map_of_mem h)
  rcases hbehind with hshort | ⟨other, hother, hle⟩
  · rw [length_page] at hshort
    refine hmem ?_
    unfold page
    rw [List.take_of_length_le]
    · exact mem_sortByPos.mpr ha
    · rw [(perm_sortByPos pos entries).length_eq]
      omega
  · obtain ⟨b, hb, rfl⟩ := List.mem_map.mp hother
    have heq : pos a = pos b := le_antisymm hle (pos_le_of_mem_page hb ha hmem)
    exact hnot (heq ▸ List.mem_map_of_mem hb)

lemma OutsideBatch.of_tail {short : Prop} {first id : ℕ} {rest : List ℕ}
    (h : OutsideBatch short rest id) (hne : id ≠ first) : OutsideBatch short (first :: rest) id :=
  ⟨fun hmem => (List.mem_cons.mp hmem).elim hne h.1,
    h.2.imp_right fun ⟨other, hother, hle⟩ => ⟨other, List.mem_cons_of_mem _ hother, hle⟩⟩

end Batch

/-! ### The ref job -/

/-- The rows that a pass of the ref job holds stand in order. -/
def RefPass.Sorted : RefPass → Prop
  | .count _ row rest => (row :: rest).Pairwise fun a b => a.id ≤ b.id
  | .startJob _ row rest _ => (row :: rest).Pairwise fun a b => a.id ≤ b.id
  | .processRow _ row rest => (row :: rest).Pairwise fun a b => a.id ≤ b.id
  | _ => True

/-- What a statement of a pass of the ref job does. -/
structure RefStep (s s' : BackfillStore) (pass pass' : RefPass) : Prop where
  quiet : QuietWrite s.memories.store s'.memories.store
  summaryJob : s'.summaryJob = s.summaryJob
  cursor : s'.refJob = s.refJob ∨
    ∀ id ≤ (refMetadata s'.refJob).lastCursorId.getD 0, ¬ s'.memories.store.RefPendingId id
  settles : ∀ id, pass'.Settles s' id → ¬ s'.memories.store.RefPendingId id
  sorted : pass'.Sorted
  truthful : (∀ outcome, pass ≠ .ended outcome) → pass' = .ended .completed →
    s'.memories.store.hasPendingRefBackfill = false

section Ref

variable {rt : Runtime} {s : BackfillStore}

lemma RefPass.next_readForCompletion {existing : MaintenanceJobRecord RefBackfillMetadata}
    (hjob : s.refJob = some existing) (input : JobProgress RefBackfillMetadata) :
    (RefPass.readForCompletion input).next rt s = (.complete existing input, s) := by
  unfold RefPass.next
  rw [hjob]

lemma BackfillStore.not_refPendingId_zero (s : BackfillStore) :
    ¬ s.memories.store.RefPendingId 0 := by
  rintro ⟨row, hrow, hid, -⟩
  have hpositive := (s.wellFormed.positive row hrow).1
  omega

lemma Store.hasPendingRefBackfill_eq_false {st : Store} (h : ∀ id, ¬ st.RefPendingId id) :
    st.hasPendingRefBackfill = false := by
  rw [← Bool.not_eq_true, Store.hasPendingRefBackfill_iff]
  exact fun ⟨id, hid⟩ => h id hid

lemma RefStep.of_same {pass pass' : RefPass}
    (hsettles : ∀ id, pass'.Settles s id → ¬ s.memories.store.RefPendingId id)
    (hsorted : pass'.Sorted) (hnot : pass' ≠ .ended .completed) : RefStep s s pass pass' :=
  ⟨.refl _, rfl, Or.inl rfl, hsettles, hsorted, fun _ h => absurd h hnot⟩

lemma RefPass.select_step {ctx : RefContext}
    (hsettled : ∀ id ≤ ctx.lastCursorId, ¬ s.memories.store.RefPendingId id) :
    RefStep s s (.select ctx) (RefPass.selected ctx
      (s.memories.store.selectRefBackfillRows ctx.lastCursorId ctx.rowLimit)) := by
  have houtside : ∀ id, OutsideBatch
      ((s.memories.store.selectRefBackfillRows ctx.lastCursorId ctx.rowLimit).length < ctx.rowLimit)
      ((s.memories.store.selectRefBackfillRows ctx.lastCursorId ctx.rowLimit).map MemoryItem.id)
      id → ¬ s.memories.store.RefPendingId id := by
    intro id hid hpending
    by_cases hle : id ≤ ctx.lastCursorId
    · exact hsettled id hle hpending
    · obtain ⟨row, hrow, rfl⟩ := Store.refPendingId_iff.mp hpending
      refine not_outsideBatch_page (mem_entriesAbove.mpr ⟨hrow, fun c hc => ?_⟩) hid
      cases hc
      omega
  have hsorted : (s.memories.store.selectRefBackfillRows ctx.lastCursorId ctx.rowLimit).Pairwise
      fun a b => a.id ≤ b.id := pairwise_page MemoryItem.id _ _
  generalize s.memories.store.selectRefBackfillRows ctx.lastCursorId ctx.rowLimit = rows
    at houtside hsorted
  rcases rows with _ | ⟨row, rest⟩
  · have hnone : ∀ id, ¬ s.memories.store.RefPendingId id := fun id =>
      houtside id ⟨by simp, Or.inl (Nat.lt_of_lt_of_le Nat.zero_lt_one (le_max_left _ _))⟩
    unfold RefPass.selected
    dsimp only
    split_ifs
    · exact .of_same (fun id _ => hnone id) trivial (by simp)
    · exact .of_same (fun id _ => hnone id) trivial (by simp)
  · unfold RefPass.selected
    dsimp only
    split_ifs
    · exact .of_same houtside hsorted (by simp)
    · exact .of_same houtside hsorted (by simp)

/-- A row is processed: its refs are written, and the cursor moves to it. -/
lemma RefPass.processRow_step {batch : RefBatch} {row : MemoryItem} {rest : List MemoryItem}
    (hsettled : ∀ id, (RefPass.processRow batch row rest).Settles s id →
      ¬ s.memories.store.RefPendingId id)
    (hsorted : (RefPass.processRow batch row rest).Sorted) (hfills : s.memories.store.Fills rt row) :
    RefStep s ((RefPass.processRow batch row rest).next rt s).2 (.processRow batch row rest)
      ((RefPass.processRow batch row rest).next rt s).1 := by
  have hquiet := s.memories.store.insertRowRefs_quiet rt row
  have houtside : ∀ id, OutsideBatch (batch.rows.length < batch.ctx.rowLimit)
      (rest.map MemoryItem.id) id → ¬ (s.memories.store.insertRowRefs rt row).RefPendingId id := by
    intro id hid hpending
    by_cases heq : id = row.id
    · exact hfills.not_pending (heq ▸ hpending)
    · exact hsettled id (hid.of_tail heq) (hquiet.refPendingId hpending)
  have hbehind : ∀ id ≤ row.id, ¬ (s.memories.store.insertRowRefs rt row).RefPendingId id := by
    intro id hle hpending
    rcases Nat.eq_or_lt_of_le hle with heq | hlt
    · exact hfills.not_pending (heq ▸ hpending)
    · refine hsettled id ⟨fun hmem => ?_, Or.inr ⟨row.id, by simp, hle⟩⟩
        (hquiet.refPendingId hpending)
      rcases List.mem_cons.mp hmem with heq | hmem
      · omega
      · obtain ⟨other, hother, rfl⟩ := List.mem_map.mp hmem
        have hfirst := (List.pairwise_cons.mp hsorted).1 other hother
        omega
  unfold RefPass.next
  dsimp only
  refine ⟨hquiet, rfl, ?_, ?_, ?_, ?_⟩
  · rcases hjob : s.refJob with _ | job
    · refine Or.inl ?_
      simp [BackfillStore.recordRefProgress, BackfillStore.insertRowRefs, hjob,
        completeMaintenanceJob, updateMaintenanceJob]
    · refine Or.inr ?_
      have hcursor : (refMetadata (((s.insertRowRefs rt row).recordRefProgress
          (batch.ctx.processedBefore + batch.index + 1) batch.progressTotal row.id
          (batch.exhausted rest.isEmpty (s.insertRowRefs rt row).memories.store)).refJob)).lastCursorId
          = some row.id := by
        unfold BackfillStore.recordRefProgress BackfillStore.insertRowRefs
        dsimp only
        rw [hjob]
        split_ifs
        · rfl
        · rfl
      rw [hcursor]
      exact hbehind
  · rcases rest with _ | ⟨next, rest⟩
    · exact fun _ h => h.elim
    · exact houtside
  · rcases rest with _ | ⟨next, rest⟩
    · trivial
    · exact (List.pairwise_cons.mp hsorted).2
  · intro _ hended
    rcases rest with _ | ⟨next, rest⟩
    · have hexhausted : batch.exhausted true (s.insertRowRefs rt row).memories.store = true := by
        unfold RefPass.processed at hended
        rw [RefPass.ended.injEq] at hended
        by_contra hnot
        rw [List.isEmpty_nil, if_neg hnot] at hended
        cases hended
      unfold RefBatch.exhausted at hexhausted
      rw [Bool.true_and, Bool.or_eq_true, decide_eq_true_eq, Bool.not_eq_true'] at hexhausted
      rcases hexhausted with hshort | hnone
      · exact Store.hasPendingRefBackfill_eq_false fun id => houtside id ⟨by simp, Or.inl hshort⟩
      · exact hnone
    · cases hended

lemma RefPass.next_step {pass : RefPass}
    (hjob : ∀ id, s.RefSettled id → ¬ s.memories.store.RefPendingId id)
    (hsettled : ∀ id, pass.Settles s id → ¬ s.memories.store.RefPendingId id)
    (hsorted : pass.Sorted) (hfills : pass.SettlesBatch rt s.memories.store) :
    RefStep s (pass.next rt s).2 pass (pass.next rt s).1 := by
  rcases pass with batchSize | ⟨batchSize, existingJob⟩ | ctx | input | ⟨existing, input⟩ |
    ⟨ctx, row, rest⟩ | ⟨ctx, row, rest, initialTotal⟩ | ⟨batch, row, rest⟩ | outcome
  · exact .of_same hjob trivial (by simp [RefPass.next])
  · refine .of_same (fun id hid => ?_) trivial (by simp [RefPass.next])
    -- a pass that starts fresh reads no cursor
    have hle : id ≤ (RefContext.mk batchSize existingJob (refMetadata s.refJob)).lastCursorId := hid
    unfold RefContext.lastCursorId RefContext.startingFresh at hle
    dsimp only at hle
    split_ifs at hle with hfresh
    · rw [Nat.le_zero.mp hle]
      exact s.not_refPendingId_zero
    · exact hsettled id ⟨Bool.eq_false_of_not_eq_true hfresh, hle⟩
  · exact RefPass.select_step hsettled
  · unfold RefPass.next
    rcases s.refJob with _ | existing
    · exact .of_same (fun _ h => h.elim) trivial (by simp)
    · exact .of_same hsettled trivial (by simp)
  · have hnone : ∀ id, ¬ s.memories.store.RefPendingId id := fun id => hsettled id trivial
    exact ⟨.refl _, rfl, Or.inr fun id _ => hnone id, fun _ h => h.elim, trivial,
      fun _ _ => Store.hasPendingRefBackfill_eq_false hnone⟩
  · exact .of_same hsettled hsorted (by simp [RefPass.next])
  · refine ⟨.refl _, rfl, Or.inr fun id hid => ?_, hsettled, hsorted, fun _ h => by cases h⟩
    have hzero : id = 0 := Nat.le_zero.mp hid
    rw [hzero]
    exact s.not_refPendingId_zero
  · exact RefPass.processRow_step hsettled hsorted hfills
  · exact ⟨.refl _, rfl, Or.inl rfl, fun _ h => h.elim, trivial,
      fun hnot => absurd rfl (hnot outcome)⟩

end Ref

/-! ### The summary job -/

/-- The sessions that a pass of the summary job plans come from its batch, above its cursor. -/
def SummaryPass.FromBatch : SummaryPass → Prop
  | .planSession ctx sessionRows plans current rest =>
    (∀ plan ∈ plans, plan.sessionId ∈ sessionRows) ∧ current ∈ sessionRows ∧
      rest ⊆ sessionRows ∧ ∀ other ∈ sessionRows, ctx.lastSessionId < other
  | .count ctx plans => ∀ plan ∈ plans, ctx.lastSessionId < plan.sessionId
  | .startJob ctx plans _ => ∀ plan ∈ plans, ctx.lastSessionId < plan.sessionId
  | _ => True

/-- What a statement of a pass of the summary job does. -/
structure SummaryStep (s s' : BackfillStore) (pass pass' : SummaryPass) : Prop where
  quiet : QuietWrite s.memories.store s'.memories.store
  refJob : s'.refJob = s.refJob
  cursor : s'.summaryJob = s.summaryJob ∨
    ∀ sessionId ≤ (summaryMetadata s'.summaryJob).lastSessionId.getD 0,
      s'.memories.store.summaryDedupPending sessionId = false
  settles : ∀ sessionId, pass'.Settles s' sessionId →
    s'.memories.store.summaryDedupPending sessionId = false
  fromBatch : pass'.FromBatch
  truthful : (∀ outcome, pass ≠ .ended outcome) → pass' = .ended .completed →
    s'.memories.store.hasPendingSummaryDedupBackfill = false

section Summary

variable {draw : ℕ → LocalContext} {s : BackfillStore}

lemma SummaryPass.next_readForCompletion
    {existing : MaintenanceJobRecord SummaryDedupBackfillMetadata}
    (hjob : s.summaryJob = some existing) (input : JobProgress SummaryDedupBackfillMetadata) :
    (SummaryPass.readForCompletion input).next draw s = (.complete existing input, s) := by
  unfold SummaryPass.next
  rw [hjob]

lemma BackfillStore.not_summaryDedupPending_zero (s : BackfillStore) :
    s.memories.store.summaryDedupPending 0 = false := by
  rw [← Bool.not_eq_true, ← Store.mem_pendingSummarySessions]
  intro hmem
  obtain ⟨hsession, -⟩ := List.mem_filter.mp hmem
  obtain ⟨row, hrow, hzero⟩ := List.mem_map.mp (List.mem_dedup.mp hsession)
  have hpositive := (s.wellFormed.positive row hrow).2
  omega

lemma Store.hasPendingSummaryDedupBackfill_eq_false {st : Store}
    (h : ∀ sessionId, st.summaryDedupPending sessionId = false) :
    st.hasPendingSummaryDedupBackfill = false := by
  unfold Store.hasPendingSummaryDedupBackfill
  rw [Store.countPendingSessions_eq_zero_iff.mpr h]
  rfl

lemma Store.not_pending_of_sessionPlan {st : Store} {sessionId : ℕ}
    (h : st.sessionPlan sessionId = none) : st.summaryDedupPending sessionId = false := by
  unfold Store.summaryDedupPending
  rw [decide_eq_false_iff_not, not_lt,
    ← (perm_sortByPos newestSummaryFirst (st.activeObserverSummaries sessionId)).length_eq]
  unfold Store.sessionPlan at h
  generalize sortByPos newestSummaryFirst (st.activeObserverSummaries sessionId) = rows at h
  rcases rows with _ | ⟨winner, _ | ⟨second, rest⟩⟩
  · simp
  · simp
  · cases h

lemma Store.sessionId_of_sessionPlan {st : Store} {sessionId : ℕ} {plan : SessionPlan}
    (h : st.sessionPlan sessionId = some plan) : plan.sessionId = sessionId := by
  unfold Store.sessionPlan at h
  generalize sortByPos newestSummaryFirst (st.activeObserverSummaries sessionId) = rows at h
  rcases rows with _ | ⟨winner, _ | ⟨second, rest⟩⟩
  · cases h
  · cases h
  · cases h
    rfl

lemma SummaryStep.of_same {pass pass' : SummaryPass}
    (hsettles : ∀ sessionId, pass'.Settles s sessionId →
      s.memories.store.summaryDedupPending sessionId = false)
    (hbatch : pass'.FromBatch) (hnot : pass' ≠ .ended .completed) : SummaryStep s s pass pass' :=
  ⟨.refl _, rfl, Or.inl rfl, hsettles, hbatch, fun _ h => absurd h hnot⟩

lemma SummaryPass.planned_step {pass : SummaryPass} {ctx : SummaryContext}
    {plans : List SessionPlan}
    (houtside : ∀ sessionId, OutsideBatch (sessionId ≤ ctx.lastSessionId)
        (plans.map SessionPlan.sessionId) sessionId →
      s.memories.store.summaryDedupPending sessionId = false)
    (habove : ∀ plan ∈ plans, ctx.lastSessionId < plan.sessionId)
    (hnone : plans = [] → ∀ sessionId, s.memories.store.summaryDedupPending sessionId = false) :
    SummaryStep s s pass (SummaryPass.planned ctx plans) := by
  unfold SummaryPass.planned
  split_ifs with hempty huncompleted hfresh
  · exact .of_same (fun id _ => hnone (List.isEmpty_iff.mp hempty) id) trivial (by simp)
  · exact .of_same (fun _ h => h.elim) trivial (by simp)
  · exact .of_same houtside habove (by simp)
  · exact .of_same houtside trivial (by simp)

lemma SummaryPass.selectSessions_step {ctx : SummaryContext}
    (hsettled : ∀ sessionId ≤ ctx.lastSessionId,
      s.memories.store.summaryDedupPending sessionId = false) :
    SummaryStep s s (.selectSessions ctx) ((SummaryPass.selectSessions ctx).next draw s).1 := by
  have houtside : ∀ id, OutsideBatch
      ((s.memories.store.selectSummarySessions ctx.lastSessionId ctx.sessionLimit).length <
        ctx.sessionLimit)
      (s.memories.store.selectSummarySessions ctx.lastSessionId ctx.sessionLimit) id →
      s.memories.store.summaryDedupPending id = false := by
    intro sessionId hid
    rw [← Bool.not_eq_true]
    intro hpending
    by_cases hle : sessionId ≤ ctx.lastSessionId
    · rw [hsettled sessionId hle] at hpending
      cases hpending
    · have hmem : sessionId ∈ entriesAbove id (some ctx.lastSessionId)
          s.memories.store.pendingSummarySessions := by
        refine mem_entriesAbove.mpr ⟨Store.mem_pendingSummarySessions.mpr hpending, fun c hc => ?_⟩
        cases hc
        exact not_le.mp hle
      refine @not_outsideBatch_page ℕ id ctx.sessionLimit _ sessionId hmem ?_
      rw [List.map_id]
      exact hid
  have habove : ∀ other ∈ s.memories.store.selectSummarySessions ctx.lastSessionId
      ctx.sessionLimit, ctx.lastSessionId < other := fun other hother =>
    (mem_entriesAbove.mp (mem_of_mem_page hother)).2 _ rfl
  unfold SummaryPass.next
  dsimp only
  generalize s.memories.store.selectSummarySessions ctx.lastSessionId ctx.sessionLimit = sessionRows
    at houtside habove
  rcases sessionRows with _ | ⟨sessionId, rest⟩
  · have hlimit : 0 < ctx.sessionLimit := Nat.lt_of_lt_of_le Nat.zero_lt_one (le_max_left _ _)
    have hnone : ∀ sessionId, s.memories.store.summaryDedupPending sessionId = false :=
      fun sessionId => houtside sessionId ⟨by simp, Or.inl hlimit⟩
    exact SummaryPass.planned_step (fun sessionId _ => hnone sessionId) (by simp) fun _ => hnone
  · exact .of_same houtside
      ⟨by simp, List.mem_cons_self, List.subset_cons_self _ _, habove⟩ (by simp [SummaryPass.planFrom])

/-- A session of the batch is planned. -/
lemma SummaryPass.planSession_step {ctx : SummaryContext} {sessionRows : List ℕ}
    {plans : List SessionPlan} {current : ℕ} {rest : List ℕ}
    (hsettled : ∀ id, (SummaryPass.planSession ctx sessionRows plans current rest).Settles s id →
      s.memories.store.summaryDedupPending id = false)
    (hbatch : (SummaryPass.planSession ctx sessionRows plans current rest).FromBatch)
    (hshort : plans = [] → rest = [] → s.memories.store.sessionPlan current = none →
      sessionRows.length < ctx.sessionLimit) :
    SummaryStep s s (.planSession ctx sessionRows plans current rest)
      (SummaryPass.planFrom ctx sessionRows
        (plans ++ (s.memories.store.sessionPlan current).toList) rest) := by
  obtain ⟨hplans, hcurrent, hrest, habove⟩ := hbatch
  have hplans' : ∀ plan ∈ plans ++ (s.memories.store.sessionPlan current).toList,
      plan.sessionId ∈ sessionRows := by
    intro plan hplan
    rcases List.mem_append.mp hplan with hplan | hplan
    · exact hplans plan hplan
    · rw [Store.sessionId_of_sessionPlan (Option.mem_toList.mp hplan)]
      exact hcurrent
  -- what is in no plan and still not to be planned is settled, or the session that has no plan
  have houtside : ∀ id, id ∉ (plans ++ (s.memories.store.sessionPlan current).toList).map
        SessionPlan.sessionId ++ rest →
      (sessionRows.length < ctx.sessionLimit ∨ ∃ other ∈ sessionRows, id ≤ other) →
      s.memories.store.summaryDedupPending id = false := by
    intro id hnot hreach
    rcases hplan : s.memories.store.sessionPlan current with _ | plan
    · by_cases heq : id = current
      · rw [heq]
        exact Store.not_pending_of_sessionPlan hplan
      · rw [hplan, Option.toList_none, List.append_nil, List.mem_append, not_or] at hnot
        exact hsettled id ⟨by simp only [List.mem_append, List.mem_cons, not_or]
                              exact ⟨hnot.1, heq, hnot.2⟩, hreach⟩
    · rw [hplan, Option.toList_some, List.map_append, List.append_assoc, List.map_singleton,
        Store.sessionId_of_sessionPlan hplan] at hnot
      exact hsettled id ⟨hnot, hreach⟩
  rcases rest with _ | ⟨next, rest⟩
  · refine SummaryPass.planned_step (fun id hid => ?_)
      (fun plan hplan => habove _ (hplans' plan hplan)) fun hempty id => ?_
    · refine houtside id (by simpa using hid.1) (Or.inr ?_)
      rcases hid.2 with hle | ⟨other, hother, hle⟩
      · exact ⟨current, hcurrent, hle.trans (habove current hcurrent).le⟩
      · obtain ⟨plan, hplan, rfl⟩ := List.mem_map.mp hother
        exact ⟨plan.sessionId, hplans' plan hplan, hle⟩
    · obtain ⟨hnil, hnone⟩ := List.append_eq_nil_iff.mp hempty
      have hplan : s.memories.store.sessionPlan current = none := by
        rcases hplan : s.memories.store.sessionPlan current with _ | plan
        · rfl
        · rw [hplan] at hnone
          cases hnone
      exact houtside id (by simp [hnil, hplan]) (Or.inl (hshort hnil rfl hplan))
  · refine .of_same (fun id hid => houtside id hid.1 hid.2) ⟨hplans', hrest List.mem_cons_self,
      fun other hother => hrest (List.mem_cons_of_mem _ hother), habove⟩ ?_
    simp [SummaryPass.planFrom]

lemma Store.Covers.of_quiet {st st' : Store} {plan : SessionPlan} (h : st.Covers plan)
    (hquiet : QuietWrite st st') : st'.Covers plan := by
  obtain ⟨write, hwrite, hrows⟩ := hquiet.rows
  intro row hrow hne
  obtain ⟨hmem, hsummary⟩ := List.mem_filter.mp hrow
  rw [hrows] at hmem
  obtain ⟨before, hbefore, rfl⟩ := List.mem_map.mp hmem
  rw [hwrite.id] at hne ⊢
  exact h before (List.mem_filter.mpr ⟨hbefore, hwrite.summary before _ hsummary⟩) hne

lemma BackfillStore.applyPlans_spec (draw : ℕ → LocalContext) (s : BackfillStore)
    (plans : List SessionPlan) :
    QuietWrite s.memories.store
        (plans.foldl (BackfillStore.applySessionPlan draw) s).memories.store ∧
      (plans.foldl (BackfillStore.applySessionPlan draw) s).refJob = s.refJob ∧
      (plans.foldl (BackfillStore.applySessionPlan draw) s).summaryJob = s.summaryJob ∧
      ∀ plan ∈ plans, s.memories.store.Covers plan →
        (plans.foldl (BackfillStore.applySessionPlan draw)
          s).memories.store.summaryDedupPending plan.sessionId = false := by
  induction plans generalizing s with
  | nil => exact ⟨.refl _, rfl, rfl, by simp⟩
  | cons plan plans ih =>
    obtain ⟨hquiet, href, -, hsummary⟩ := BackfillStore.applySessionPlan_quiet draw s plan
    obtain ⟨hquiet', href', hsummary', hsettled⟩ := ih (s.applySessionPlan draw plan)
    rw [List.foldl_cons]
    refine ⟨hquiet.trans hquiet', href'.trans href, hsummary'.trans hsummary,
      fun other hother hcovers => ?_⟩
    rcases List.mem_cons.mp hother with rfl | hother
    · rw [← Bool.not_eq_true]
      intro hpending
      have hdone := BackfillStore.applySessionPlan_not_pending draw hcovers
      rw [hquiet'.summaryDedupPending hpending] at hdone
      cases hdone
    · exact hsettled other hother (hcovers.of_quiet hquiet)

lemma le_foldl_max_iff {start bound : ℕ} {numbers : List ℕ} :
    bound ≤ numbers.foldl max start ↔ bound ≤ start ∨ ∃ n ∈ numbers, bound ≤ n := by
  induction numbers generalizing start with
  | nil => simp
  | cons n numbers ih =>
    rw [List.foldl_cons, ih, le_max_iff, or_assoc, List.exists_mem_cons_iff]

lemma SummaryPass.applyPlans_step {ctx : SummaryContext} {plans : List SessionPlan}
    (hsettled : ∀ id, (SummaryPass.applyPlans ctx plans).Settles s id →
      s.memories.store.summaryDedupPending id = false)
    (hcovers : ∀ plan ∈ plans, s.memories.store.Covers plan) :
    SummaryStep s ((SummaryPass.applyPlans ctx plans).next draw s).2 (.applyPlans ctx plans)
      ((SummaryPass.applyPlans ctx plans).next draw s).1 := by
  obtain ⟨hquiet, href, hjob, hplans⟩ := s.applyPlans_spec draw plans
  unfold SummaryPass.next BackfillStore.applySummaryBatch
  dsimp only
  generalize plans.foldl (BackfillStore.applySessionPlan draw) s = s1 at hquiet href hjob hplans
  have hbehind : ∀ id ≤ (plans.map SessionPlan.sessionId).foldl max ctx.lastSessionId,
      s1.memories.store.summaryDedupPending id = false := by
    intro id hid
    by_cases hmem : id ∈ plans.map SessionPlan.sessionId
    · obtain ⟨plan, hplan, rfl⟩ := List.mem_map.mp hmem
      exact hplans plan hplan (hcovers plan hplan)
    · rw [← Bool.not_eq_true]
      intro hpending
      have hbefore := hsettled id ⟨hmem, le_foldl_max_iff.mp hid⟩
      rw [hquiet.summaryDedupPending hpending] at hbefore
      cases hbefore
  unfold BackfillStore.recordSummaryProgress
  dsimp only
  split_ifs with hremaining
  · refine ⟨hquiet, href, ?_, fun _ h => h.elim, trivial, fun _ _ => ?_⟩
    · rw [← hjob]
      rcases s1.summaryJob with _ | job
      · exact Or.inl rfl
      · exact Or.inr hbehind
    · exact Store.hasPendingSummaryDedupBackfill_eq_false
        (Store.countPendingSessions_eq_zero_iff.mp hremaining)
  · refine ⟨hquiet, href, ?_, fun _ h => h.elim, trivial, fun _ h => by cases h⟩
    rw [← hjob]
    rcases s1.summaryJob with _ | job
    · exact Or.inl rfl
    · exact Or.inr hbehind

lemma SummaryPass.next_step {pass : SummaryPass}
    (hjob : ∀ id, s.SummarySettled id → s.memories.store.summaryDedupPending id = false)
    (hsettled : ∀ id, pass.Settles s id → s.memories.store.summaryDedupPending id = false)
    (hbatch : pass.FromBatch) (hsettles : pass.SettlesBatch s.memories.store) :
    SummaryStep s (pass.next draw s).2 pass (pass.next draw s).1 := by
  rcases pass with batchSize | ⟨batchSize, existingJob⟩ | ctx |
    ⟨ctx, sessionRows, plans, current, rest⟩ | input | ⟨existing, input⟩ | ⟨ctx, plans⟩ |
    ⟨ctx, plans, initialTotal⟩ | ⟨ctx, plans⟩ | outcome
  · exact .of_same hjob trivial (by simp [SummaryPass.next])
  · refine .of_same (fun id hid => ?_) trivial (by simp [SummaryPass.next])
    -- a pass that starts fresh reads no cursor
    have hle : id ≤
        (SummaryContext.mk batchSize existingJob (summaryMetadata s.summaryJob)).lastSessionId := hid
    unfold SummaryContext.lastSessionId SummaryContext.startingFresh at hle
    dsimp only at hle
    split_ifs at hle with hfresh
    · rw [Nat.le_zero.mp hle]
      exact s.not_summaryDedupPending_zero
    · exact hsettled id ⟨Bool.eq_false_of_not_eq_true hfresh, hle⟩
  · exact SummaryPass.selectSessions_step hsettled
  · exact SummaryPass.planSession_step hsettled hbatch hsettles
  · unfold SummaryPass.next
    rcases s.summaryJob with _ | existing
    · exact .of_same (fun _ h => h.elim) trivial (by simp)
    · exact .of_same hsettled trivial (by simp)
  · have hnone : ∀ id, s.memories.store.summaryDedupPending id = false :=
      fun id => hsettled id trivial
    exact ⟨.refl _, rfl, Or.inr fun id _ => hnone id, fun _ h => h.elim, trivial,
      fun _ _ => Store.hasPendingSummaryDedupBackfill_eq_false hnone⟩
  · exact .of_same hsettled hbatch (by simp [SummaryPass.next])
  · refine ⟨.refl _, rfl, Or.inr fun id hid => ?_, hsettled, trivial, fun _ h => by cases h⟩
    have hle : id ≤ ctx.lastSessionId := hid
    refine hsettled id ⟨fun hmem => ?_, Or.inl hle⟩
    obtain ⟨plan, hplan, rfl⟩ := List.mem_map.mp hmem
    exact absurd (hbatch plan hplan) (not_lt.mpr hle)
  · exact SummaryPass.applyPlans_step hsettled hsettles
  · exact ⟨.refl _, rfl, Or.inl rfl, fun _ h => h.elim, trivial,
      fun hnot => absurd rfl (hnot outcome)⟩

end Summary

/-! ### Runs -/

/-- What a run keeps: nothing settled is pending, and passes hold batches in order. -/
structure BackfillRun.Sound (run : BackfillRun) : Prop where
  refs : ∀ id, run.RefSettled id → ¬ run.store.memories.store.RefPendingId id
  summaries : ∀ sessionId, run.SummarySettled sessionId →
    run.store.memories.store.summaryDedupPending sessionId = false
  sorted : ∀ pass, BackfillPass.ref pass ∈ run.passes → pass.Sorted
  fromBatch : ∀ pass, BackfillPass.summary pass ∈ run.passes → pass.FromBatch

lemma RefPass.settles_congr {s s' : BackfillStore} (hjob : s'.refJob = s.refJob) (id : ℕ)
    (pass : RefPass) : pass.Settles s' id ↔ pass.Settles s id := by
  unfold RefPass.Settles
  rw [hjob]

lemma SummaryPass.settles_congr {s s' : BackfillStore} (hjob : s'.summaryJob = s.summaryJob)
    (sessionId : ℕ) (pass : SummaryPass) :
    pass.Settles s' sessionId ↔ pass.Settles s sessionId := by
  unfold SummaryPass.Settles
  rw [hjob]

section Step

variable {tools : BackfillTools} {run : BackfillRun}

lemma BackfillRun.Sound.refs_turn (h : run.Sound) {index : ℕ} {s' : BackfillStore}
    {pass' : BackfillPass} (hquiet : QuietWrite run.store.memories.store s'.memories.store)
    (hcursor : s'.refJob = run.store.refJob ∨
      ∀ id ≤ (refMetadata s'.refJob).lastCursorId.getD 0, ¬ s'.memories.store.RefPendingId id)
    (hpass : ∀ pass, pass' = .ref pass → ∀ id, pass.Settles s' id →
      ¬ s'.memories.store.RefPendingId id) {id : ℕ}
    (hsettled : BackfillRun.RefSettled ⟨s', run.passes.set index pass'⟩ id) :
    ¬ s'.memories.store.RefPendingId id := by
  intro hpending
  rcases hcursor with hjob | hcursor
  · rcases hsettled with hsettled | ⟨pass, hmem, hsettled⟩
    · unfold BackfillStore.RefSettled at hsettled
      dsimp only at hsettled
      rw [hjob] at hsettled
      exact h.refs id (Or.inl hsettled) (hquiet.refPendingId hpending)
    · rcases List.mem_or_eq_of_mem_set hmem with hmem | heq
      · exact h.refs id (Or.inr ⟨pass, hmem, (RefPass.settles_congr hjob id pass).mp hsettled⟩)
          (hquiet.refPendingId hpending)
      · exact hpass pass heq.symm id hsettled hpending
  · rcases hsettled with hsettled | ⟨pass, hmem, hsettled⟩
    · exact hcursor id hsettled.2 hpending
    · rcases List.mem_or_eq_of_mem_set hmem with hmem | heq
      · rcases pass with _ | ⟨batchSize, existingJob⟩ | _ | _ | _ | _ | _ | _ | _
        · exact hsettled
        · exact hcursor id hsettled.2 hpending
        all_goals exact h.refs id (Or.inr ⟨_, hmem, hsettled⟩) (hquiet.refPendingId hpending)
      · exact hpass pass heq.symm id hsettled hpending

lemma BackfillRun.Sound.summaries_turn (h : run.Sound) {index : ℕ} {s' : BackfillStore}
    {pass' : BackfillPass} (hquiet : QuietWrite run.store.memories.store s'.memories.store)
    (hcursor : s'.summaryJob = run.store.summaryJob ∨
      ∀ id ≤ (summaryMetadata s'.summaryJob).lastSessionId.getD 0,
        s'.memories.store.summaryDedupPending id = false)
    (hpass : ∀ pass, pass' = .summary pass → ∀ id, pass.Settles s' id →
      s'.memories.store.summaryDedupPending id = false) {id : ℕ}
    (hsettled : BackfillRun.SummarySettled ⟨s', run.passes.set index pass'⟩ id) :
    s'.memories.store.summaryDedupPending id = false := by
  have hbefore : run.store.memories.store.summaryDedupPending id = false →
      s'.memories.store.summaryDedupPending id = false := by
    intro hfalse
    rw [← Bool.not_eq_true]
    intro hpending
    rw [hquiet.summaryDedupPending hpending] at hfalse
    cases hfalse
  rcases hcursor with hjob | hcursor
  · rcases hsettled with hsettled | ⟨pass, hmem, hsettled⟩
    · unfold BackfillStore.SummarySettled at hsettled
      dsimp only at hsettled
      rw [hjob] at hsettled
      exact hbefore (h.summaries id (Or.inl hsettled))
    · rcases List.mem_or_eq_of_mem_set hmem with hmem | heq
      · exact hbefore (h.summaries id
          (Or.inr ⟨pass, hmem, (SummaryPass.settles_congr hjob id pass).mp hsettled⟩))
      · exact hpass pass heq.symm id hsettled
  · rcases hsettled with hsettled | ⟨pass, hmem, hsettled⟩
    · exact hcursor id hsettled.2
    · rcases List.mem_or_eq_of_mem_set hmem with hmem | heq
      · rcases pass with _ | ⟨batchSize, existingJob⟩ | _ | _ | _ | _ | _ | _ | _ | _
        · exact hsettled.elim
        · exact hcursor id hsettled.2
        all_goals exact hbefore (h.summaries id (Or.inr ⟨_, hmem, hsettled⟩))
      · exact hpass pass heq.symm id hsettled

lemma BackfillRun.Sound.of_turn (h : run.Sound) {index : ℕ} {s' : BackfillStore}
    {pass' : BackfillPass} (hquiet : QuietWrite run.store.memories.store s'.memories.store)
    (href : s'.refJob = run.store.refJob ∨
      ∀ id ≤ (refMetadata s'.refJob).lastCursorId.getD 0, ¬ s'.memories.store.RefPendingId id)
    (hsummary : s'.summaryJob = run.store.summaryJob ∨
      ∀ id ≤ (summaryMetadata s'.summaryJob).lastSessionId.getD 0,
        s'.memories.store.summaryDedupPending id = false)
    (hrefPass : ∀ pass, pass' = .ref pass → pass.Sorted ∧
      ∀ id, pass.Settles s' id → ¬ s'.memories.store.RefPendingId id)
    (hsummaryPass : ∀ pass, pass' = .summary pass → pass.FromBatch ∧
      ∀ id, pass.Settles s' id → s'.memories.store.summaryDedupPending id = false) :
    BackfillRun.Sound ⟨s', run.passes.set index pass'⟩ where
  refs _ hid := h.refs_turn hquiet href (fun pass hpass => (hrefPass pass hpass).2) hid
  summaries _ hid :=
    h.summaries_turn hquiet hsummary (fun pass hpass => (hsummaryPass pass hpass).2) hid
  sorted pass hmem := by
    rcases List.mem_or_eq_of_mem_set hmem with hmem | heq
    · exact h.sorted pass hmem
    · exact (hrefPass pass heq.symm).1
  fromBatch pass hmem := by
    rcases List.mem_or_eq_of_mem_set hmem with hmem | heq
    · exact h.fromBatch pass hmem
    · exact (hsummaryPass pass heq.symm).1

lemma BackfillPass.ended_of_outcome {pass : BackfillPass} {outcome : PassOutcome}
    (h : pass.outcome = some outcome) :
    pass = .dedupKey (.ended outcome) ∨ pass = .ref (.ended outcome) ∨
      pass = .summary (.ended outcome) := by
  unfold BackfillPass.outcome at h
  split at h
  · cases h
    exact Or.inl rfl
  · cases h
    exact Or.inr (Or.inl rfl)
  · cases h
    exact Or.inr (Or.inr rfl)
  · cases h

/-- A turn of a pass whose batch settles what it holds keeps a run sound, and completes its job
truthfully. -/
lemma BackfillRun.Sound.turn (h : run.Sound) {index : ℕ} (draw : BackfillDraw)
    {pass : BackfillPass} (hpass : run.passes[index]? = some pass)
    (hsettles : pass.SettlesBatch tools run.store.memories.store) :
    (BackfillRun.mk (pass.next tools draw run.store).2
      (run.passes.set index (pass.next tools draw run.store).1)).Sound ∧
    (pass.outcome = none → (pass.next tools draw run.store).1.outcome = some .completed →
      pass.kind.pending tools (pass.next tools draw run.store).2.memories = false) := by
  have hmem : pass ∈ run.passes := List.mem_of_getElem? hpass
  rcases pass with pass | pass | pass
  · obtain ⟨hquiet, href, hsummary⟩ := pass.next_quiet tools.dedup draw.now run.store
    refine ⟨h.of_turn hquiet (Or.inl href) (Or.inl hsummary) (fun _ heq => (by cases heq))
      (fun _ heq => (by cases heq)), fun hnone hcompleted => ?_⟩
    have hended : (pass.next tools.dedup draw.now run.store).1 = .ended .completed := by
      rcases BackfillPass.ended_of_outcome hcompleted with heq | heq | heq
      · exact BackfillPass.dedupKey.inj heq
      · cases heq
      · cases heq
    have hzero := DedupKeyPass.completes_truthfully (fun outcome heq => by
      rw [heq] at hnone
      cases hnone) hended
    exact decide_eq_false (by rw [Nat.pos_iff_ne_zero, not_not]; exact hzero)
  · have hstep := RefPass.next_step (fun id hid => h.refs id (Or.inl hid))
      (fun id hid => h.refs id (Or.inr ⟨pass, hmem, hid⟩)) (h.sorted pass hmem) hsettles
    refine ⟨h.of_turn hstep.quiet hstep.cursor (Or.inl hstep.summaryJob) (fun pass' heq => ?_)
      (fun _ heq => (by cases heq)), fun hnone hcompleted => ?_⟩
    · cases heq
      exact ⟨hstep.sorted, hstep.settles⟩
    · refine hstep.truthful (fun outcome heq => ?_) ?_
      · rw [heq] at hnone
        cases hnone
      · rcases BackfillPass.ended_of_outcome hcompleted with heq | heq | heq
        · cases heq
        · exact BackfillPass.ref.inj heq
        · cases heq
  · have hstep : SummaryStep run.store (pass.next draw.context run.store).2 pass
        (pass.next draw.context run.store).1 :=
      SummaryPass.next_step (fun id hid => h.summaries id (Or.inl hid))
        (fun id hid => h.summaries id (Or.inr ⟨pass, hmem, hid⟩)) (h.fromBatch pass hmem) hsettles
    refine ⟨h.of_turn hstep.quiet (Or.inl hstep.refJob) hstep.cursor (fun _ heq => (by cases heq))
      (fun pass' heq => ?_), fun hnone hcompleted => ?_⟩
    · cases heq
      exact ⟨hstep.fromBatch, hstep.settles⟩
    · refine hstep.truthful (fun outcome heq => ?_) ?_
      · rw [heq] at hnone
        cases hnone
      · rcases BackfillPass.ended_of_outcome hcompleted with heq | heq | heq
        · cases heq
        · cases heq
        · exact BackfillPass.summary.inj heq

/-- An undisturbed step keeps a run sound, and completes no job before its time. -/
lemma BackfillRun.Sound.step (h : run.Sound) {action : BackfillAction}
    (hcond : run.Undisturbed tools action) :
    (run.step tools action).Sound ∧ run.CompletesTruthfully tools action := by
  rcases action with ⟨kind, batchSize⟩ | ⟨index, draw⟩ | memories
  · refine ⟨⟨fun id hid => ?_, fun id hid => ?_, fun pass hpass => ?_, fun pass hpass => ?_⟩,
      trivial⟩
    · refine h.refs id (hid.imp_right fun ⟨pass, hpass, hsettles⟩ => ?_)
      rcases List.mem_append.mp hpass with hpass | hpass
      · exact ⟨pass, hpass, hsettles⟩
      · rcases kind with _ | _ | _
        · cases List.mem_singleton.mp hpass
        · cases List.mem_singleton.mp hpass
          exact hsettles.elim
        · cases List.mem_singleton.mp hpass
    · refine h.summaries id (hid.imp_right fun ⟨pass, hpass, hsettles⟩ => ?_)
      rcases List.mem_append.mp hpass with hpass | hpass
      · exact ⟨pass, hpass, hsettles⟩
      · rcases kind with _ | _ | _
        · cases List.mem_singleton.mp hpass
        · cases List.mem_singleton.mp hpass
        · cases List.mem_singleton.mp hpass
          exact hsettles.elim
    · rcases List.mem_append.mp hpass with hpass | hpass
      · exact h.sorted pass hpass
      · rcases kind with _ | _ | _
        · cases List.mem_singleton.mp hpass
        · cases List.mem_singleton.mp hpass
          trivial
        · cases List.mem_singleton.mp hpass
    · rcases List.mem_append.mp hpass with hpass | hpass
      · exact h.fromBatch pass hpass
      · rcases kind with _ | _ | _
        · cases List.mem_singleton.mp hpass
        · cases List.mem_singleton.mp hpass
        · cases List.mem_singleton.mp hpass
          trivial
  · unfold BackfillRun.step BackfillRun.CompletesTruthfully
    dsimp only
    rcases hpass : run.passes[index]? with _ | pass
    · exact ⟨h, fun _ hnone => by cases hnone⟩
    · obtain ⟨hsound, htruthful⟩ := h.turn draw hpass (hcond pass hpass)
      refine ⟨hsound, fun pass' hpass' => ?_⟩
      cases hpass'
      exact htruthful
  · refine ⟨⟨fun id hid => hcond.1 id ?_, fun id hid => hcond.2 id ?_, h.sorted, h.fromBatch⟩,
      trivial⟩
    · refine hid.imp_right fun ⟨pass, hpass, hsettles⟩ => ⟨pass, hpass, ?_⟩
      exact (RefPass.settles_congr rfl id pass).mp hsettles
    · refine hid.imp_right fun ⟨pass, hpass, hsettles⟩ => ⟨pass, hpass, ?_⟩
      exact (SummaryPass.settles_congr rfl id pass).mp hsettles

end Step

lemma BackfillStore.Settled.sound {s : BackfillStore} (h : s.Settled) :
    BackfillRun.Sound ⟨s, []⟩ where
  refs id hid := h.refs id (hid.resolve_right (by rintro ⟨pass, hpass, -⟩; cases hpass))
  summaries id hid := h.summaries id (hid.resolve_right (by rintro ⟨pass, hpass, -⟩; cases hpass))
  sorted pass hpass := by cases hpass
  fromBatch pass hpass := by cases hpass

/-- In an undisturbed run every completion is truthful. -/
theorem completions_truthful {tools : BackfillTools} {s : BackfillStore}
    {actions : List BackfillAction} (hstart : s.Settled)
    (hcond : StepsMeet (BackfillRun.step tools) (BackfillRun.Undisturbed tools) ⟨s, []⟩ actions) :
    StepsMeet (BackfillRun.step tools) (BackfillRun.CompletesTruthfully tools) ⟨s, []⟩ actions := by
  have hsound := hcond.and_always hstart.sound fun run action hrun h => (h.step hrun).1
  exact hsound.imp fun run action h => (h.2.step h.1).2

end Codemem

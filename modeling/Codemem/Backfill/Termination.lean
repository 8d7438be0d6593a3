import Codemem.Backfill.DedupKeyScan
import Codemem.Backfill.Runs
import Codemem.Foundation.Eventually

/-!
# The backfills come to an end

Without other writers, repeated passes of one job complete it.  The ref job and the summary job move
their cursor past a pending row or session in every pass.  The dedup-key job rewinds its cursor
where rows are left to fill: then one of them stood behind the cursor, and the next scan fills it.
-/

namespace Codemem

/-! ### Repeated passes -/

/-- One step of a job alone: the next statement of its pass, or a new pass after the last one. -/
def soloStep (tools : BackfillTools) (kind : BackfillKind) (batchSize : ℕ)
    (state : BackfillPass × BackfillStore) (draw : BackfillDraw) : BackfillPass × BackfillStore :=
  match state.1.outcome with
  | some _ => (kind.start batchSize, state.2)
  | none => state.1.next tools draw state.2

/-- The row of the job says completed. -/
def BackfillKind.isCompleted (s : BackfillStore) : BackfillKind → Bool
  | .dedupKey => Codemem.isCompleted s.dedupKeyJob
  | .ref => Codemem.isCompleted s.refJob
  | .summary => Codemem.isCompleted s.summaryJob

/-- The job has no row. -/
def BackfillKind.isMissing (s : BackfillStore) : BackfillKind → Bool
  | .dedupKey => s.dedupKeyJob.isNone
  | .ref => s.refJob.isNone
  | .summary => s.summaryJob.isNone

/-- The job is completed, or was never started and has nothing to do. -/
def BackfillKind.Finished (tools : BackfillTools) (kind : BackfillKind) (s : BackfillStore) : Prop :=
  kind.isCompleted s = true ∨ kind.isMissing s = true ∧ kind.pending tools s.memories = false

/-- A job that is alone and has ended a pass, unfinished. -/
def IsBetweenPasses (state : BackfillPass × BackfillStore) : Prop := state.1.outcome.isSome = true

section Solo

variable {tools : BackfillTools} {batchSize : ℕ}

lemma eventually_finished (kind : BackfillKind) {β : Type} [WellFoundedRelation β]
    (measure : BackfillStore → β) (unfinished : BackfillStore → Prop)
    (hpass : ∀ s, unfinished s → Eventually (soloStep tools kind batchSize)
      (fun state => kind.Finished tools state.2 ∨ IsBetweenPasses state ∧ unfinished state.2 ∧
        WellFoundedRelation.rel (measure state.2) (measure s)) (kind.start batchSize, s))
    {s : BackfillStore} (h : unfinished s) :
    Eventually (soloStep tools kind batchSize) (fun state => kind.Finished tools state.2)
      (kind.start batchSize, s) := by
  refine (hpass s h).trans fun state hstate => ?_
  rcases hstate with hfinished | ⟨hbetween, hunfinished, -⟩
  · exact .now hfinished
  · refine Eventually.of_measure (fun state : BackfillPass × BackfillStore => measure state.2)
      (fun state => IsBetweenPasses state ∧ unfinished state.2) (fun state hstate => ?_)
      ⟨hbetween, hunfinished⟩
    obtain ⟨outcome, houtcome⟩ := Option.isSome_iff_exists.mp hstate.1
    refine .later fun draw => ?_
    have hrestart : soloStep tools kind batchSize state draw =
        (kind.start batchSize, state.2) := by
      unfold soloStep
      rw [houtcome]
    rw [hrestart]
    refine (hpass state.2 hstate.2).mono fun state' h => ?_
    exact h.imp_right fun h => ⟨⟨h.1, h.2.1⟩, h.2.2⟩

lemma uncompleted_of_unfinished {μ : Type} {job : Option (MaintenanceJobRecord μ)}
    (h : startsFresh job = false) : isCompleted job = false := by
  rcases job with _ | job
  · rfl
  · have hor : (job.status == .completed || job.status == .failed) = false := h
    exact (Bool.or_eq_false_iff.mp hor).1

lemma isUncompleted_of_some {μ : Type} {job : MaintenanceJobRecord μ}
    (h : isCompleted (some job) = false) : isUncompleted (some job) = true := by
  have hne : (job.status == .completed) = false := h
  change (job.status != .completed) = true
  rw [bne, hne]
  rfl

/-! ### The ref job -/

section Ref

variable {s : BackfillStore}

/-- Where the next scan of the ref job starts. -/
def BackfillStore.refCursor (s : BackfillStore) : ℕ :=
  if startsFresh s.refJob then 0 else (refMetadata s.refJob).lastCursorId.getD 0

/-- How many pending rows stand behind a place of the scan of the ref job. -/
def BackfillStore.refAhead (s : BackfillStore) (cursor : ℕ) : ℕ :=
  (entriesAbove MemoryItem.id (some cursor) s.memories.store.refBackfillRows).length

lemma QuietWrite.refAhead_le {s s' : BackfillStore}
    (h : QuietWrite s.memories.store s'.memories.store) (cursor : ℕ) :
    s'.refAhead cursor ≤ s.refAhead cursor := by
  obtain ⟨write, hwrite, hrows⟩ := h.rows
  unfold BackfillStore.refAhead entriesAbove Store.refBackfillRows
  rw [hrows, List.filter_filter, List.filter_filter, List.filter_map, List.length_map]
  refine (List.monotone_filter_right s.memories.store.memoryItems fun row hrow => ?_).length_le
  rw [Function.comp_apply, Bool.and_eq_true] at hrow
  rw [Bool.and_eq_true]
  refine ⟨?_, h.refBackfillPending hwrite hrow.2⟩
  rw [hwrite.id] at hrow
  exact hrow.1

/-- What a pass of the ref job has reached at its end: the job is finished, or it is unfinished and
has fewer rows ahead. -/
def RefProgress (tools : BackfillTools) (ahead : ℕ) (state : BackfillPass × BackfillStore) : Prop :=
  BackfillKind.ref.Finished tools state.2 ∨
    IsBetweenPasses state ∧ startsFresh state.2.refJob = false ∧
      state.2.refAhead state.2.refCursor < ahead

lemma BackfillStore.recordRefProgress_update (hstatus : startsFresh s.refJob = false)
    (processedAfter progressTotal newCursor : ℕ) :
    startsFresh (s.recordRefProgress processedAfter progressTotal newCursor false).refJob = false ∧
      (s.recordRefProgress processedAfter progressTotal newCursor false).refCursor = newCursor := by
  unfold BackfillStore.refCursor BackfillStore.recordRefProgress
  dsimp only
  rcases hjob : s.refJob with _ | job
  · rw [hjob] at hstatus
    cases hstatus
  · rw [hjob] at hstatus
    have hfresh : startsFresh (updateMaintenanceJob
        (refProgress processedAfter progressTotal newCursor) (some job)) = false := hstatus
    rw [if_neg Bool.false_ne_true, hfresh, if_neg Bool.false_ne_true]
    exact ⟨rfl, rfl⟩

lemma BackfillStore.recordRefProgress_complete (hstatus : startsFresh s.refJob = false)
    (processedAfter progressTotal newCursor : ℕ) :
    isCompleted (s.recordRefProgress processedAfter progressTotal newCursor true).refJob = true := by
  unfold BackfillStore.recordRefProgress
  dsimp only
  rcases hjob : s.refJob with _ | job
  · rw [hjob] at hstatus
    cases hstatus
  · rfl

lemma eventually_processRow {batch : RefBatch} {row : MemoryItem} {rest : List MemoryItem}
    {cursor : ℕ} (hstatus : startsFresh s.refJob = false)
    (hlast : lastPos MemoryItem.id (row :: rest) = some cursor) {ahead : ℕ}
    (hahead : s.refAhead cursor < ahead) :
    Eventually (soloStep tools .ref batchSize) (RefProgress tools ahead)
      (.ref (.processRow batch row rest), s) := by
  have hquiet : ∀ row, QuietWrite s.memories.store
      (s.insertRowRefs tools.runtime row).memories.store :=
    fun row => s.memories.store.insertRowRefs_quiet tools.runtime row
  induction rest generalizing batch row s with
  | nil =>
    refine .later fun draw => .now ?_
    have hcursor : row.id = cursor := Option.some.inj hlast
    change RefProgress tools ahead (.ref (RefPass.processed batch (batch.exhausted true
      (s.insertRowRefs tools.runtime row).memories.store) []),
      (s.insertRowRefs tools.runtime row).recordRefProgress _ _ _ (batch.exhausted true
        (s.insertRowRefs tools.runtime row).memories.store))
    rcases batch.exhausted true (s.insertRowRefs tools.runtime row).memories.store with _ | _
    · obtain ⟨hfresh, hplace⟩ := BackfillStore.recordRefProgress_update
        (s := s.insertRowRefs tools.runtime row) hstatus
        (batch.ctx.processedBefore + batch.index + 1) batch.progressTotal row.id
      refine Or.inr ⟨rfl, hfresh, ?_⟩
      dsimp only
      rw [hplace, hcursor]
      exact lt_of_le_of_lt ((hquiet row).refAhead_le cursor) hahead
    · exact Or.inl (Or.inl (BackfillStore.recordRefProgress_complete hstatus _ _ _))
  | cons next rest ih =>
    refine .later fun draw => ?_
    obtain ⟨hfresh, -⟩ := BackfillStore.recordRefProgress_update
      (s := s.insertRowRefs tools.runtime row) hstatus
      (batch.ctx.processedBefore + batch.index + 1) batch.progressTotal row.id
    exact ih hfresh hlast (lt_of_le_of_lt ((hquiet row).refAhead_le cursor) hahead)
      fun other => Store.insertRowRefs_quiet tools.runtime _ other

lemma eventually_refPass_empty (huncompleted : isCompleted s.refJob = false)
    (hempty : s.memories.store.selectRefBackfillRows s.refCursor (max 1 batchSize) = [])
    {ahead : ℕ} :
    Eventually (soloStep tools .ref batchSize) (RefProgress tools ahead)
      (.ref (RefPass.selected ⟨batchSize, s.refJob, refMetadata s.refJob⟩ []), s) := by
  unfold RefPass.selected
  dsimp only
  rcases hjob : s.refJob with _ | job
  · refine .now (Or.inl (Or.inr ⟨?_, ?_⟩))
    · change s.refJob.isNone = true
      rw [hjob]
      rfl
    · refine Store.hasPendingRefBackfill_eq_false fun id hpending => ?_
      obtain ⟨row, hrow, rfl⟩ := Store.refPendingId_iff.mp hpending
      have hcursor : s.refCursor = 0 := by
        unfold BackfillStore.refCursor
        rw [hjob]
        rfl
      have habove : row ∈ entriesAbove MemoryItem.id (some s.refCursor)
          s.memories.store.refBackfillRows := by
        refine mem_entriesAbove.mpr ⟨hrow, fun c hc => ?_⟩
        cases hc
        rw [hcursor]
        exact (s.wellFormed.positive row (List.mem_filter.mp hrow).1).1
      have hnil := (page_eq_nil_iff (lt_max_of_lt_left Nat.zero_lt_one)).mp hempty
      rw [hnil] at habove
      cases habove
  · rw [hjob] at huncompleted
    rw [if_pos (isUncompleted_of_some huncompleted)]
    refine .later fun _ => ?_
    change Eventually _ _ (BackfillPass.ref ((RefPass.readForCompletion _).next tools.runtime s).1,
      ((RefPass.readForCompletion _).next tools.runtime s).2)
    rw [RefPass.next_readForCompletion hjob]
    refine .later fun _ => .now (Or.inl (Or.inl ?_))
    change isCompleted (s.refJob.map fun _ => updatedJob job (some .completed) _) = true
    rw [hjob]
    rfl

lemma eventually_refPass (huncompleted : isCompleted s.refJob = false) :
    Eventually (soloStep tools .ref batchSize) (RefProgress tools (s.refAhead s.refCursor))
      (.ref (.readJob batchSize), s) := by
  refine .later fun _ => .later fun _ => .later fun _ => ?_
  change Eventually (soloStep tools .ref batchSize) _
    (BackfillPass.ref (RefPass.selected ⟨batchSize, s.refJob, refMetadata s.refJob⟩
      (s.memories.store.selectRefBackfillRows s.refCursor (max 1 batchSize))), s)
  rcases hrows : s.memories.store.selectRefBackfillRows s.refCursor (max 1 batchSize) with
    _ | ⟨row, rest⟩
  · exact eventually_refPass_empty huncompleted hrows
  · obtain ⟨cursor, hlast⟩ : ∃ cursor, lastPos MemoryItem.id (row :: rest) = some cursor := by
      rcases hlast : lastPos MemoryItem.id (row :: rest) with _ | cursor
      · cases lastPos_eq_none_iff.mp hlast
      · exact ⟨cursor, rfl⟩
    have hahead : s.refAhead cursor < s.refAhead s.refCursor := by
      rw [← hrows] at hlast
      exact length_entriesAbove_lt hlast
    unfold RefPass.selected
    dsimp only
    rcases hfresh : startsFresh s.refJob with _ | _
    · have hctx : (RefContext.mk batchSize s.refJob (refMetadata s.refJob)).startingFresh = false :=
        hfresh
      rw [hctx, if_neg Bool.false_ne_true]
      exact eventually_processRow hfresh hlast hahead
    · have hctx : (RefContext.mk batchSize s.refJob (refMetadata s.refJob)).startingFresh = true :=
        hfresh
      rw [hctx, if_pos rfl]
      refine .later fun _ => .later fun _ => ?_
      exact eventually_processRow (s := { s with refJob := some _ }) rfl hlast hahead

lemma eventually_ref (s : BackfillStore) :
    Eventually (soloStep tools .ref batchSize)
      (fun state => BackfillKind.ref.Finished tools state.2) (.ref (.readJob batchSize), s) := by
  rcases hdone : isCompleted s.refJob with _ | _
  · refine eventually_finished .ref (fun s => s.refAhead s.refCursor)
      (fun s => isCompleted s.refJob = false) (fun s h => ?_) hdone
    refine (eventually_refPass h).mono fun state hstate => hstate.imp_right fun hstate => ?_
    exact ⟨hstate.1, uncompleted_of_unfinished hstate.2.1, hstate.2.2⟩
  · exact .now (Or.inl hdone)

end Ref

/-! ### The summary job -/

section Summary

variable {s : BackfillStore}

/-- Where the next scan of the summary job starts. -/
def BackfillStore.summaryCursor (s : BackfillStore) : ℕ :=
  if startsFresh s.summaryJob then 0 else (summaryMetadata s.summaryJob).lastSessionId.getD 0

/-- How many pending sessions stand behind a place of the scan of the summary job. -/
def BackfillStore.summaryAhead (s : BackfillStore) (cursor : ℕ) : ℕ :=
  (entriesAbove id (some cursor) s.memories.store.pendingSummarySessions).length

lemma QuietWrite.summaryAhead_le {s s' : BackfillStore}
    (h : QuietWrite s.memories.store s'.memories.store) (cursor : ℕ) :
    s'.summaryAhead cursor ≤ s.summaryAhead cursor := by
  have hnodup : (entriesAbove id (some cursor)
      s'.memories.store.pendingSummarySessions).Nodup :=
    ((List.nodup_dedup _).filter _).filter _
  refine (hnodup.subperm fun sessionId hmem => ?_).length_le
  obtain ⟨hpending, habove⟩ := mem_entriesAbove.mp hmem
  exact mem_entriesAbove.mpr ⟨Store.mem_pendingSummarySessions.mpr
    (h.summaryDedupPending (Store.mem_pendingSummarySessions.mp hpending)), habove⟩

/-- What a pass of the summary job has reached at its end. -/
def SummaryProgress (tools : BackfillTools) (ahead : ℕ) (state : BackfillPass × BackfillStore) :
    Prop :=
  BackfillKind.summary.Finished tools state.2 ∨
    IsBetweenPasses state ∧ startsFresh state.2.summaryJob = false ∧
      state.2.summaryAhead state.2.summaryCursor < ahead

lemma eventually_planned (ctx : SummaryContext) (sessionRows : List ℕ) (plans : List SessionPlan)
    (rest : List ℕ) :
    Eventually (soloStep tools .summary batchSize)
      (fun state => state = (.summary (SummaryPass.planned ctx
        (plans ++ rest.filterMap s.memories.store.sessionPlan)), s))
      (.summary (SummaryPass.planFrom ctx sessionRows plans rest), s) := by
  induction rest generalizing plans with
  | nil =>
    refine .now ?_
    rw [List.filterMap_nil, List.append_nil]
    rfl
  | cons sessionId rest ih =>
    refine .later fun _ => ?_
    have hplans : plans ++ (sessionId :: rest).filterMap s.memories.store.sessionPlan =
        (plans ++ (s.memories.store.sessionPlan sessionId).toList) ++
          rest.filterMap s.memories.store.sessionPlan := by
      rw [List.append_assoc, List.filterMap_cons]
      rcases s.memories.store.sessionPlan sessionId with _ | plan
      · rfl
      · rfl
    rw [hplans]
    exact ih _

/-- The transaction of a batch completes the job, or moves its cursor behind the batch. -/
lemma eventually_applyPlans {ctx : SummaryContext} {plans : List SessionPlan}
    (hstatus : startsFresh s.summaryJob = false) {plan : SessionPlan} (hplan : plan ∈ plans)
    {cursor : ℕ} (hpending : s.memories.store.summaryDedupPending plan.sessionId = true)
    (habove : cursor < plan.sessionId) :
    Eventually (soloStep tools .summary batchSize)
      (SummaryProgress tools (s.summaryAhead cursor)) (.summary (.applyPlans ctx plans), s) := by
  refine .later fun draw => .now ?_
  obtain ⟨hquiet, -, hjob, -⟩ := s.applyPlans_spec draw.context plans
  have hle : plan.sessionId ≤ (plans.map SessionPlan.sessionId).foldl max ctx.lastSessionId :=
    le_foldl_max_iff.mpr (Or.inr ⟨_, List.mem_map_of_mem hplan, le_rfl⟩)
  have hahead : s.summaryAhead ((plans.map SessionPlan.sessionId).foldl max ctx.lastSessionId) <
      s.summaryAhead cursor := by
    refine length_entriesAbove_lt_of_mem (mem_entriesAbove.mpr
      ⟨Store.mem_pendingSummarySessions.mpr hpending, fun c hc => ?_⟩) hle
    cases hc
    exact habove
  change SummaryProgress tools _ (.summary (.ended (s.applySummaryBatch draw.context ctx plans).1),
    (s.applySummaryBatch draw.context ctx plans).2)
  unfold BackfillStore.applySummaryBatch
  generalize plans.foldl (BackfillStore.applySessionPlan draw.context) s = s1 at hquiet hjob
  unfold BackfillStore.recordSummaryProgress
  dsimp only
  rcases hrow : s.summaryJob with _ | job
  · rw [hrow] at hstatus
    cases hstatus
  · rw [hrow] at hjob hstatus
    split_ifs with hremaining
    · refine Or.inl (Or.inl ?_)
      change isCompleted (completeMaintenanceJob _ s1.summaryJob) = true
      rw [hjob]
      rfl
    · have hfresh : ∀ input, startsFresh (updateMaintenanceJob input s1.summaryJob) = false := by
        intro input
        rw [hjob]
        exact hstatus
      refine Or.inr ⟨rfl, hfresh _, lt_of_le_of_lt (le_trans ?_ (hquiet.summaryAhead_le _)) hahead⟩
      unfold BackfillStore.summaryCursor
      dsimp only
      rw [hfresh, if_neg Bool.false_ne_true, hjob]
      exact le_rfl

lemma eventually_summaryPass_empty (huncompleted : isCompleted s.summaryJob = false)
    (hempty : s.memories.store.selectSummarySessions s.summaryCursor (max 1 batchSize) = [])
    {ahead : ℕ} :
    Eventually (soloStep tools .summary batchSize) (SummaryProgress tools ahead)
      (.summary (SummaryPass.planned ⟨batchSize, s.summaryJob, summaryMetadata s.summaryJob⟩ []),
        s) := by
  unfold SummaryPass.planned
  rw [if_pos List.isEmpty_nil]
  dsimp only
  rcases hjob : s.summaryJob with _ | job
  · refine .now (Or.inl (Or.inr ⟨?_, ?_⟩))
    · change s.summaryJob.isNone = true
      rw [hjob]
      rfl
    · refine Store.hasPendingSummaryDedupBackfill_eq_false fun sessionId => ?_
      rw [← Bool.not_eq_true]
      intro hpending
      have hcursor : s.summaryCursor = 0 := by
        unfold BackfillStore.summaryCursor
        rw [hjob]
        rfl
      have habove : sessionId ∈ entriesAbove id (some s.summaryCursor)
          s.memories.store.pendingSummarySessions := by
        refine mem_entriesAbove.mpr ⟨Store.mem_pendingSummarySessions.mpr hpending, fun c hc => ?_⟩
        cases hc
        rw [hcursor]
        refine Nat.pos_of_ne_zero fun hzero => ?_
        have hnot := s.not_summaryDedupPending_zero
        rw [show sessionId = 0 from hzero] at hpending
        rw [hpending] at hnot
        cases hnot
      have hnil := (page_eq_nil_iff (lt_max_of_lt_left Nat.zero_lt_one)).mp hempty
      rw [hnil] at habove
      cases habove
  · rw [hjob] at huncompleted
    rw [if_pos (isUncompleted_of_some huncompleted)]
    refine .later fun draw => ?_
    change Eventually _ _ (BackfillPass.summary
      ((SummaryPass.readForCompletion _).next draw.context s).1,
      ((SummaryPass.readForCompletion _).next draw.context s).2)
    rw [SummaryPass.next_readForCompletion hjob]
    refine .later fun _ => .now (Or.inl (Or.inl ?_))
    change isCompleted (s.summaryJob.map fun _ => updatedJob job (some .completed) _) = true
    rw [hjob]
    rfl

lemma Store.exists_sessionPlan {st : Store} {sessionId : ℕ}
    (h : st.summaryDedupPending sessionId = true) : ∃ plan, st.sessionPlan sessionId = some plan := by
  rcases hplan : st.sessionPlan sessionId with _ | plan
  · rw [Store.not_pending_of_sessionPlan hplan] at h
    cases h
  · exact ⟨plan, rfl⟩

lemma eventually_summaryPass (huncompleted : isCompleted s.summaryJob = false) :
    Eventually (soloStep tools .summary batchSize)
      (SummaryProgress tools (s.summaryAhead s.summaryCursor))
      (.summary (.readJob batchSize), s) := by
  refine .later fun _ => .later fun _ => .later fun _ => ?_
  change Eventually (soloStep tools .summary batchSize) _
    (BackfillPass.summary (SummaryPass.planFrom
      ⟨batchSize, s.summaryJob, summaryMetadata s.summaryJob⟩
      (s.memories.store.selectSummarySessions s.summaryCursor (max 1 batchSize)) []
      (s.memories.store.selectSummarySessions s.summaryCursor (max 1 batchSize))), s)
  refine (eventually_planned _ _ _ _).trans ?_
  rintro state rfl
  rw [List.nil_append]
  rcases hrows : s.memories.store.selectSummarySessions s.summaryCursor (max 1 batchSize) with
    _ | ⟨sessionId, rest⟩
  · exact eventually_summaryPass_empty huncompleted hrows
  · have hmem : sessionId ∈ s.memories.store.selectSummarySessions s.summaryCursor
        (max 1 batchSize) := by
      rw [hrows]
      exact List.mem_cons_self
    obtain ⟨hsession, habove⟩ := mem_entriesAbove.mp (mem_of_mem_page hmem)
    have hpending := Store.mem_pendingSummarySessions.mp hsession
    obtain ⟨plan, hplan⟩ := Store.exists_sessionPlan hpending
    have hid := Store.sessionId_of_sessionPlan hplan
    rw [← hid] at hpending habove
    rw [List.filterMap_cons_some hplan]
    unfold SummaryPass.planned
    rw [if_neg (by simp)]
    rcases hfresh : startsFresh s.summaryJob with _ | _
    · have hctx : (SummaryContext.mk batchSize s.summaryJob
          (summaryMetadata s.summaryJob)).startingFresh = false := hfresh
      rw [hctx, if_neg Bool.false_ne_true]
      exact eventually_applyPlans hfresh List.mem_cons_self hpending (habove _ rfl)
    · have hctx : (SummaryContext.mk batchSize s.summaryJob
          (summaryMetadata s.summaryJob)).startingFresh = true := hfresh
      rw [hctx, if_pos rfl]
      refine .later fun _ => .later fun _ => ?_
      exact eventually_applyPlans (s := { s with summaryJob := some _ }) rfl List.mem_cons_self
        hpending (habove _ rfl)

lemma eventually_summary (s : BackfillStore) :
    Eventually (soloStep tools .summary batchSize)
      (fun state => BackfillKind.summary.Finished tools state.2)
      (.summary (.readJob batchSize), s) := by
  rcases hdone : isCompleted s.summaryJob with _ | _
  · refine eventually_finished .summary (fun s => s.summaryAhead s.summaryCursor)
      (fun s => isCompleted s.summaryJob = false) (fun s h => ?_) hdone
    refine (eventually_summaryPass h).mono fun state hstate => hstate.imp_right fun hstate => ?_
    exact ⟨hstate.1, uncompleted_of_unfinished hstate.2.1, hstate.2.2⟩
  · exact .now (Or.inl hdone)

end Summary

/-! ### The dedup-key job -/

section DedupKey

variable {s : BackfillStore}

/-- What a pass that starts now knows of its job. -/
def BackfillStore.dedupKeyContext (s : BackfillStore) (batchSize : ℕ) : DedupKeyContext :=
  ⟨batchSize, s.dedupKeyJob, dedupKeyMetadata s.dedupKeyJob⟩

/-- Where the next scan of the dedup-key job starts. -/
def BackfillStore.dedupKeyCursor (s : BackfillStore) : String ×ₗ ℕ :=
  scanCursorPosition (s.dedupKeyContext 0).afterId (s.dedupKeyContext 0).afterCreatedAt

/-- A row that can be filled stands at or before a place of the scan. -/
def MaintainedStore.LeavesFillable (tools : DedupTools) (db : MaintainedStore)
    (cursor : String ×ₗ ℕ) : Prop :=
  ∃ row ∈ db.unkeyedRows, db.Fillable tools row ∧ scanPosition row ≤ cursor

open Classical in
/-- What the dedup-key job has before it: the rows without a key; whether the scan has left one
behind that can be filled; and the rows before the scan. -/
noncomputable def dedupKeyMeasure (tools : DedupTools) (db : MaintainedStore)
    (cursor : String ×ₗ ℕ) : ℕ × ℕ × ℕ :=
  (db.unkeyedRows.length, if db.LeavesFillable tools cursor then 1 else 0,
    (entriesAbove scanPosition (some cursor) db.unkeyedRows).length)

lemma dedupKeyMeasure_of_filled {db db' : MaintainedStore} {dedup : DedupTools}
    {cursor cursor' : String ×ₗ ℕ} (h : db'.unkeyedRows.length < db.unkeyedRows.length) :
    WellFoundedRelation.rel (dedupKeyMeasure dedup db' cursor') (dedupKeyMeasure dedup db cursor) :=
  Prod.Lex.left _ _ h

lemma dedupKeyMeasure_of_rewound {db : MaintainedStore} (hdb : db.WellFormed) {dedup : DedupTools}
    {cursor : String ×ₗ ℕ} (h : db.LeavesFillable dedup cursor) :
    WellFoundedRelation.rel (dedupKeyMeasure dedup db (scanCursorPosition 0 none))
      (dedupKeyMeasure dedup db cursor) := by
  have hzero : ¬ db.LeavesFillable dedup (scanCursorPosition 0 none) := by
    rintro ⟨row, hrow, -, hle⟩
    have habove := (mem_entriesAbove.mp ((mem_entriesAbove_zero hdb).mpr hrow)).2 _ rfl
    exact absurd hle (not_le.mpr habove)
  unfold dedupKeyMeasure
  rw [if_neg hzero, if_pos h]
  exact Prod.Lex.right _ (Prod.Lex.left _ _ Nat.zero_lt_one)

lemma dedupKeyMeasure_of_advanced {db : MaintainedStore} {dedup : DedupTools}
    {cursor cursor' : String ×ₗ ℕ} {limit : ℕ}
    (hlast : lastPos scanPosition (page scanPosition limit
      (entriesAbove scanPosition (some cursor) db.unkeyedRows)) = some cursor')
    (hnone : ∀ row ∈ page scanPosition limit
      (entriesAbove scanPosition (some cursor) db.unkeyedRows), ¬ db.Fillable dedup row)
    (hdb : db.WellFormed) :
    WellFoundedRelation.rel (dedupKeyMeasure dedup db cursor') (dedupKeyMeasure dedup db cursor) := by
  have hleaves : db.LeavesFillable dedup cursor' → db.LeavesFillable dedup cursor := by
    rintro ⟨row, hrow, hfillable, hle⟩
    refine ⟨row, hrow, hfillable, ?_⟩
    by_contra hlt
    have habove : row ∈ entriesAbove scanPosition (some cursor) db.unkeyedRows := by
      refine mem_entriesAbove.mpr ⟨hrow, fun c hc => ?_⟩
      cases hc
      exact not_le.mp hlt
    refine hnone row (mem_page_of_le_lastPos (fun a ha b hb heq => ?_) habove hlast hle) hfillable
    have hids : a.id = b.id := (Prod.mk.inj (toLex_inj.mp heq)).2
    exact hdb.unique.eq_of_id (List.mem_filter.mp (mem_entriesAbove.mp ha).1).1
      (List.mem_filter.mp (mem_entriesAbove.mp hb).1).1 hids
  have hahead := length_entriesAbove_lt hlast
  unfold dedupKeyMeasure
  by_cases hbehind : db.LeavesFillable dedup cursor'
  · rw [if_pos hbehind, if_pos (hleaves hbehind)]
    exact Prod.Lex.right _ (Prod.Lex.right _ hahead)
  · rw [if_neg hbehind]
    split_ifs
    · exact Prod.Lex.right _ (Prod.Lex.left _ _ Nat.zero_lt_one)
    · exact Prod.Lex.right _ (Prod.Lex.right _ hahead)

/-- What a pass of the dedup-key job has reached at its end. -/
def DedupKeyProgress (tools : BackfillTools) (s : BackfillStore)
    (state : BackfillPass × BackfillStore) : Prop :=
  BackfillKind.dedupKey.Finished tools state.2 ∨
    IsBetweenPasses state ∧ isCompleted state.2.dedupKeyJob = false ∧
      WellFoundedRelation.rel
        (dedupKeyMeasure tools.dedup state.2.memories state.2.dedupKeyCursor)
        (dedupKeyMeasure tools.dedup s.memories s.dedupKeyCursor)

lemma eventually_scanned (ctx : DedupKeyContext) (rows rest : List MemoryItem)
    (scan : DedupKeyScan) :
    Eventually (soloStep tools .dedupKey batchSize)
      (fun state => state = (.dedupKey (DedupKeyPass.planned ctx rows
        (rest.foldl (s.memories.scanDedupKeyRow tools.dedup (some ctx.rowLimit)) scan)), s))
      (.dedupKey (DedupKeyPass.scanFrom ctx rows scan rest), s) := by
  induction rest generalizing scan with
  | nil => exact .now rfl
  | cons row rest ih =>
    refine .later fun _ => ?_
    rw [List.foldl_cons]
    exact ih _

lemma eventually_counted (ctx : DedupKeyContext) (plan : BackfillDedupKeysPlan)
    (rest : List MemoryItem) (scan : DedupKeyScan) :
    Eventually (soloStep tools .dedupKey batchSize)
      (fun state => ∃ total, state = (.dedupKey (.startJob ctx plan total), s))
      (.dedupKey (DedupKeyPass.countFrom ctx plan scan rest), s) := by
  induction rest generalizing scan with
  | nil => exact .now ⟨_, rfl⟩
  | cons row rest ih =>
    refine .later fun _ => ?_
    exact ih _

lemma eventually_completeOrRewind {completion : JobProgress DedupKeyBackfillMetadata}
    {s' : BackfillStore} {job : MaintenanceJobRecord DedupKeyBackfillMetadata}
    (hjob : s'.dedupKeyJob = some job) (huncompleted : isCompleted s'.dedupKeyJob = false)
    (hprogress : 0 < s'.memories.backfillableDedupKeys tools.dedup →
      WellFoundedRelation.rel
        (dedupKeyMeasure tools.dedup s'.memories (scanCursorPosition 0 none))
        (dedupKeyMeasure tools.dedup s.memories s.dedupKeyCursor)) :
    Eventually (soloStep tools .dedupKey batchSize) (DedupKeyProgress tools s)
      (.dedupKey (.completeOrRewind completion), s') := by
  refine .later fun _ => .now ?_
  change DedupKeyProgress tools s
    (.dedupKey (.ended (s'.completeOrRewind tools.dedup completion).1),
      (s'.completeOrRewind tools.dedup completion).2)
  unfold BackfillStore.completeOrRewind
  dsimp only
  split_ifs with hremaining
  · refine Or.inr ⟨rfl, ?_, ?_⟩
    · rw [hjob] at huncompleted ⊢
      exact huncompleted
    · have hcursor : BackfillStore.dedupKeyCursor { s' with
          dedupKeyJob := updateMaintenanceJob (rewindForLateRows completion
            (s'.memories.backfillableDedupKeys tools.dedup)) s'.dedupKeyJob } =
          scanCursorPosition 0 none := by
        unfold BackfillStore.dedupKeyCursor BackfillStore.dedupKeyContext DedupKeyContext.afterId
          DedupKeyContext.afterCreatedAt
        rw [hjob]
        split_ifs
        · rfl
        · rfl
      dsimp only
      rw [hcursor]
      exact hprogress hremaining
  · refine Or.inl (Or.inl ?_)
    change isCompleted (completeMaintenanceJob _ s'.dedupKeyJob) = true
    rw [hjob]
    rfl

lemma selectDedupKeyCandidateRows_eq_page (db : MaintainedStore) {limit : ℕ} (hlimit : 0 < limit)
    (afterId : ℕ) (afterCreatedAt : Option String) :
    db.selectDedupKeyCandidateRows (some limit) afterId afterCreatedAt =
      page scanPosition limit (entriesAbove scanPosition
        (some (scanCursorPosition afterId afterCreatedAt)) db.unkeyedRows) := by
  rcases limit with _ | limit
  · exact absurd hlimit (lt_irrefl 0)
  · rfl

def BackfillStore.dedupKeyBatch (s : BackfillStore) (batchSize : ℕ) : List MemoryItem :=
  page scanPosition (max 1 batchSize)
    (entriesAbove scanPosition (some s.dedupKeyCursor) s.memories.unkeyedRows)

/-- What a pass finds in its batch. -/
def BackfillStore.dedupKeyScan (dedup : DedupTools) (s : BackfillStore) (batchSize : ℕ) :
    DedupKeyScan :=
  (s.dedupKeyBatch batchSize).foldl
    (s.memories.scanDedupKeyRow dedup (some (max 1 batchSize))) .empty

def BackfillStore.dedupKeyPlan (dedup : DedupTools) (s : BackfillStore) (batchSize : ℕ) :
    BackfillDedupKeysPlan :=
  backfillDedupKeysPlan (max 1 batchSize) (s.dedupKeyContext batchSize).afterId
    (s.dedupKeyContext batchSize).afterCreatedAt (s.dedupKeyBatch batchSize)
    (s.dedupKeyScan dedup batchSize)

lemma BackfillStore.dedupKeyBatch_subset (s : BackfillStore) (batchSize : ℕ) :
    s.dedupKeyBatch batchSize ⊆ s.memories.unkeyedRows :=
  fun _ hrow => (mem_entriesAbove.mp (mem_of_mem_page hrow)).1

lemma exists_applied (dedup : DedupTools) (now : String) (batchSize : ℕ) {sA : BackfillStore}
    (hmemories : sA.memories = s.memories) :
    ∃ s', sA.applyMemoryDedupKeyUpdates now (s.dedupKeyPlan dedup batchSize).scan.updates = .ok s' ∧
      s'.dedupKeyJob = sA.dedupKeyJob ∧
      (s'.memories.unkeyedRows.length < s.memories.unkeyedRows.length ∨
        s'.memories = s.memories ∧
          ∀ row ∈ s.dedupKeyBatch batchSize, ¬ s.memories.Fillable dedup row) := by
  have hsub : s.dedupKeyBatch batchSize ⊆ sA.memories.unkeyedRows := by
    rw [hmemories]
    exact s.dedupKeyBatch_subset batchSize
  obtain ⟨s', hwritable⟩ := exists_writable dedup (some (max 1 batchSize)) now sA hsub
  have hscan : (s.dedupKeyBatch batchSize).foldl
      (sA.memories.scanDedupKeyRow dedup (some (max 1 batchSize))) .empty =
      (s.dedupKeyPlan dedup batchSize).scan := by
    rw [hmemories]
    rfl
  rw [hscan] at hwritable
  refine ⟨s', hwritable.written, hwritable.jobs, ?_⟩
  by_cases hupdates : (s.dedupKeyPlan dedup batchSize).scan.updates = []
  · have hwritten := hwritable.written
    rw [hupdates] at hwritten
    cases hwritten
    refine Or.inr ⟨hmemories, fun row hrow hfillable => ?_⟩
    exact (DedupKeyScan.fresh_empty.found_foldl ⟨row, hrow, hfillable⟩).2 hupdates
  · refine Or.inl ?_
    rw [← hmemories]
    exact hwritable.length_unkeyedRows_lt hupdates

lemma DedupKeyPass.next_readForUpdate {dedup : DedupTools} {now : String}
    {existing : MaintenanceJobRecord DedupKeyBackfillMetadata} (hjob : s.dedupKeyJob = some existing)
    (input : JobProgress DedupKeyBackfillMetadata) :
    (DedupKeyPass.readForUpdate input).next dedup now s = (.update existing input, s) := by
  unfold DedupKeyPass.next
  rw [hjob]

lemma dedupKeyCursor_progress {s' : BackfillStore}
    {job : MaintenanceJobRecord DedupKeyBackfillMetadata} (total : ℕ) (dedup : DedupTools)
    (hrows : s.dedupKeyBatch batchSize ≠ [])
    (hstatus : startsFresh (some job) = false)
    (hjob : s'.dedupKeyJob = some (updatedJob job none
      ((s.dedupKeyContext batchSize).progress (s.dedupKeyPlan dedup batchSize) total))) :
    lastPos scanPosition (s.dedupKeyBatch batchSize) = some s'.dedupKeyCursor := by
  obtain ⟨last, hlast⟩ : ∃ last, (s.dedupKeyBatch batchSize).getLast? = some last :=
    ⟨_, List.getLast?_eq_some_getLast hrows⟩
  have hmem : last ∈ s.memories.store.memoryItems :=
    (List.mem_filter.mp (s.dedupKeyBatch_subset batchSize (List.mem_of_getLast? hlast))).1
  have hpositive := (s.wellFormed.positive last hmem).1
  have hfresh : startsFresh s'.dedupKeyJob = false := by
    rw [hjob]
    exact hstatus
  have hid : (s'.dedupKeyContext 0).afterId = last.id := by
    unfold BackfillStore.dedupKeyContext DedupKeyContext.afterId DedupKeyContext.startingFresh
    dsimp only
    rw [hfresh, if_neg Bool.false_ne_true, hjob]
    change ((s.dedupKeyBatch batchSize).getLast?.map MemoryItem.id).getD _ = last.id
    rw [hlast]
    rfl
  have hcreated : (s'.dedupKeyContext 0).afterCreatedAt = some last.createdAt := by
    unfold BackfillStore.dedupKeyContext DedupKeyContext.afterCreatedAt
      DedupKeyContext.startingFresh
    dsimp only
    rw [hfresh, if_neg Bool.false_ne_true, hjob]
    change ((s.dedupKeyBatch batchSize).getLast?.map MemoryItem.createdAt).or _ =
      some last.createdAt
    rw [hlast]
    rfl
  unfold lastPos BackfillStore.dedupKeyCursor
  rw [hlast, hid, hcreated]
  unfold scanCursorPosition
  rw [if_pos hpositive]
  rfl

/-- A pass writes its plan, and completes the job, rewinds it, or moves its cursor. -/
lemma eventually_applyUpdates {sA : BackfillStore} {total : ℕ}
    {job : MaintenanceJobRecord DedupKeyBackfillMetadata} (hmemories : sA.memories = s.memories)
    (hjob : sA.dedupKeyJob = some job) (hstatus : startsFresh (some job) = false)
    (hrows : s.dedupKeyBatch batchSize ≠ []) :
    Eventually (soloStep tools .dedupKey batchSize) (DedupKeyProgress tools s)
      (.dedupKey (.applyUpdates (s.dedupKeyContext batchSize)
        (s.dedupKeyPlan tools.dedup batchSize) total), sA) := by
  refine .later fun draw => ?_
  obtain ⟨s', happly, hjob', hfilled⟩ := exists_applied (s := s) tools.dedup draw.now batchSize
    hmemories
  rw [← hjob'] at hjob
  change Eventually _ _ (BackfillPass.dedupKey ((DedupKeyPass.applyUpdates _ _ _).next tools.dedup
    draw.now sA).1, ((DedupKeyPass.applyUpdates _ _ _).next tools.dedup draw.now sA).2)
  unfold DedupKeyPass.next
  dsimp only
  rw [happly]
  dsimp only
  split_ifs with hexhausted
  · refine .later fun _ => ?_
    change Eventually _ _ (BackfillPass.dedupKey (.completeOrRewind _), s')
    refine eventually_completeOrRewind hjob ?_ fun hremaining => ?_
    · rw [hjob]
      exact uncompleted_of_unfinished hstatus
    rcases hfilled with hfilled | ⟨hsame, hnone⟩
    · exact dedupKeyMeasure_of_filled hfilled
    · rw [hsame] at hremaining ⊢
      refine dedupKeyMeasure_of_rewound s.wellFormed ?_
      obtain ⟨row, hrow, hfillable⟩ := (backfillableDedupKeys_pos_iff s.wellFormed).mp hremaining
      refine ⟨row, hrow, hfillable, not_lt.mp fun habove => hnone row ?_ hfillable⟩
      -- a batch below its limit holds every row before the scan
      have hmem : row ∈ entriesAbove scanPosition (some s.dedupKeyCursor)
          s.memories.unkeyedRows := by
        refine mem_entriesAbove.mpr ⟨hrow, fun c hc => ?_⟩
        cases hc
        exact habove
      have hshort : (s.dedupKeyBatch batchSize).length < max 1 batchSize :=
        of_decide_eq_true hexhausted
      unfold BackfillStore.dedupKeyBatch at hshort ⊢
      rw [length_page] at hshort
      unfold page
      rw [List.take_of_length_le]
      · exact mem_sortByPos.mpr hmem
      · rw [(perm_sortByPos _ _).length_eq]
        omega
  · refine .later fun _ => ?_
    change Eventually _ _ (BackfillPass.dedupKey ((DedupKeyPass.readForUpdate _).next tools.dedup ""
      s').1, ((DedupKeyPass.readForUpdate _).next tools.dedup "" s').2)
    rw [DedupKeyPass.next_readForUpdate hjob]
    refine .later fun _ => .now ?_
    change DedupKeyProgress tools s (.dedupKey (.ended .processed),
      { s' with dedupKeyJob := s'.dedupKeyJob.map fun _ => updatedJob job none _ })
    have hmeasure : ∀ cursor, lastPos scanPosition (s.dedupKeyBatch batchSize) = some cursor →
        WellFoundedRelation.rel (dedupKeyMeasure tools.dedup s'.memories cursor)
          (dedupKeyMeasure tools.dedup s.memories s.dedupKeyCursor) := by
      intro cursor hcursor
      rcases hfilled with hfilled | ⟨hsame, hnone⟩
      · exact dedupKeyMeasure_of_filled hfilled
      · rw [hsame]
        exact dedupKeyMeasure_of_advanced hcursor hnone s.wellFormed
    refine Or.inr ⟨rfl, ?_, hmeasure _
      (dedupKeyCursor_progress total tools.dedup hrows hstatus ?_)⟩
    · change isCompleted (s'.dedupKeyJob.map _) = false
      rw [hjob]
      exact uncompleted_of_unfinished hstatus
    · change s'.dedupKeyJob.map _ = _
      rw [hjob]
      rfl

/-- A pass of the dedup-key job that selects no row finishes or rewinds it. -/
lemma eventually_dedupKeyPass_empty (huncompleted : isCompleted s.dedupKeyJob = false)
    (hempty : s.dedupKeyBatch batchSize = []) :
    Eventually (soloStep tools .dedupKey batchSize) (DedupKeyProgress tools s)
      (.dedupKey (DedupKeyPass.planned (s.dedupKeyContext batchSize) [] .empty), s) := by
  have hnil : entriesAbove scanPosition (some s.dedupKeyCursor) s.memories.unkeyedRows = [] :=
    (page_eq_nil_iff (lt_max_of_lt_left Nat.zero_lt_one)).mp hempty
  have hchecked : DedupKeyScan.empty.checked = 0 := rfl
  unfold DedupKeyPass.planned
  dsimp only
  rw [if_pos hchecked]
  rcases hjob : s.dedupKeyJob with _ | job
  · have hrow : isUncompleted (s.dedupKeyContext batchSize).existingJob = false := by
      change isUncompleted s.dedupKeyJob = false
      rw [hjob]
      rfl
    rw [hrow, if_neg Bool.false_ne_true]
    refine .now (Or.inl (Or.inr ⟨?_, ?_⟩))
    · change s.dedupKeyJob.isNone = true
      rw [hjob]
      rfl
    · refine decide_eq_false fun hpending => ?_
      obtain ⟨row, hrow, -⟩ := (backfillableDedupKeys_pos_iff s.wellFormed).mp hpending
      have hcursor : s.dedupKeyCursor = scanCursorPosition 0 none := by
        unfold BackfillStore.dedupKeyCursor BackfillStore.dedupKeyContext DedupKeyContext.afterId
          DedupKeyContext.afterCreatedAt
        rw [hjob]
        rfl
      have habove := (mem_entriesAbove_zero s.wellFormed).mpr hrow
      rw [← hcursor, hnil] at habove
      cases habove
  · have hrow : isUncompleted (s.dedupKeyContext batchSize).existingJob = true := by
      change isUncompleted s.dedupKeyJob = true
      rw [hjob] at huncompleted ⊢
      exact isUncompleted_of_some huncompleted
    rw [if_pos hrow]
    refine eventually_completeOrRewind hjob huncompleted fun hremaining => ?_
    refine dedupKeyMeasure_of_rewound s.wellFormed ?_
    obtain ⟨row, hrow, hfillable⟩ := (backfillableDedupKeys_pos_iff s.wellFormed).mp hremaining
    refine ⟨row, hrow, hfillable, not_lt.mp fun habove => ?_⟩
    have hmem : row ∈ entriesAbove scanPosition (some s.dedupKeyCursor) s.memories.unkeyedRows := by
      refine mem_entriesAbove.mpr ⟨hrow, fun c hc => ?_⟩
      cases hc
      exact habove
    rw [hnil] at hmem
    cases hmem

lemma eventually_dedupKeyPass (huncompleted : isCompleted s.dedupKeyJob = false) :
    Eventually (soloStep tools .dedupKey batchSize) (DedupKeyProgress tools s)
      (.dedupKey (.readJob batchSize), s) := by
  refine .later fun _ => .later fun _ => .later fun _ => ?_
  have hbatch : s.memories.selectDedupKeyCandidateRows (some (max 1 batchSize))
      (s.dedupKeyContext batchSize).afterId (s.dedupKeyContext batchSize).afterCreatedAt =
      s.dedupKeyBatch batchSize :=
    selectDedupKeyCandidateRows_eq_page _ (lt_max_of_lt_left Nat.zero_lt_one) _ _
  change Eventually (soloStep tools .dedupKey batchSize) _ (BackfillPass.dedupKey
    (DedupKeyPass.scanFrom (s.dedupKeyContext batchSize)
      (s.memories.selectDedupKeyCandidateRows (some (max 1 batchSize))
        (s.dedupKeyContext batchSize).afterId (s.dedupKeyContext batchSize).afterCreatedAt) .empty
      (s.memories.selectDedupKeyCandidateRows (some (max 1 batchSize))
        (s.dedupKeyContext batchSize).afterId (s.dedupKeyContext batchSize).afterCreatedAt)), s)
  rw [hbatch]
  refine (eventually_scanned _ _ _ _).trans ?_
  rintro state rfl
  by_cases hrows : s.dedupKeyBatch batchSize = []
  · rw [hrows]
    exact eventually_dedupKeyPass_empty huncompleted hrows
  · have hchecked : (s.dedupKeyScan tools.dedup batchSize).checked ≠ 0 := by
      unfold BackfillStore.dedupKeyScan
      rw [checked_foldl_scan]
      have hpos := List.length_pos_iff.mpr hrows
      omega
    change Eventually _ _ (BackfillPass.dedupKey (DedupKeyPass.planned
      (s.dedupKeyContext batchSize) (s.dedupKeyBatch batchSize)
      (s.dedupKeyScan tools.dedup batchSize)), s)
    unfold DedupKeyPass.planned
    dsimp only
    rw [if_neg hchecked]
    rcases hfresh : startsFresh s.dedupKeyJob with _ | _
    · have hctx : (s.dedupKeyContext batchSize).startingFresh = false := hfresh
      rw [hctx, if_neg Bool.false_ne_true]
      rcases hjob : s.dedupKeyJob with _ | job
      · rw [hjob] at hfresh
        cases hfresh
      · rw [hjob] at hfresh
        exact eventually_applyUpdates rfl hjob hfresh hrows
    · have hctx : (s.dedupKeyContext batchSize).startingFresh = true := hfresh
      rw [hctx, if_pos rfl]
      refine .later fun _ => ?_
      refine (eventually_counted _ _ _ _).trans ?_
      rintro state ⟨total, rfl⟩
      refine .later fun _ => ?_
      change Eventually _ _ (BackfillPass.dedupKey (.applyUpdates (s.dedupKeyContext batchSize)
        (s.dedupKeyPlan tools.dedup batchSize) total), { s with dedupKeyJob := some _ })
      exact eventually_applyUpdates rfl rfl rfl hrows

lemma eventually_dedupKey (s : BackfillStore) :
    Eventually (soloStep tools .dedupKey batchSize)
      (fun state => BackfillKind.dedupKey.Finished tools state.2)
      (.dedupKey (.readJob batchSize), s) := by
  rcases hdone : isCompleted s.dedupKeyJob with _ | _
  · exact eventually_finished .dedupKey
      (fun s => dedupKeyMeasure tools.dedup s.memories s.dedupKeyCursor)
      (fun s => isCompleted s.dedupKeyJob = false) (fun s h => eventually_dedupKeyPass h) hdone
  · exact .now (Or.inl hdone)

end DedupKey

/-- Without other writers, repeated passes of a job finish it, whatever the clock says. -/
theorem backfill_finishes (tools : BackfillTools) (kind : BackfillKind) (batchSize : ℕ)
    (s : BackfillStore) (draws : ℕ → BackfillDraw) :
    ∃ n, kind.Finished tools
      (stateAfter (soloStep tools kind batchSize) (kind.start batchSize, s) draws n).2 := by
  rcases kind with _ | _ | _
  · exact (eventually_dedupKey s).exists_stateAfter draws
  · exact (eventually_ref s).exists_stateAfter draws
  · exact (eventually_summary s).exists_stateAfter draws

end Solo

end Codemem

import Codemem.Replication.ApplySpec
import Codemem.Foundation.Isolation

/-!
# Savepoints, statement by statement

`applyReplicationOps` processes each op under a savepoint: the op writes tables and accumulators
one statement at a time, any database statement may raise an error, and the error handler rolls
the tables back and resets the accumulators.  Here every intermediate state is explicit.  The
batch is a refinement of the one-step model `applyReplicationOp`, and a failing op leaves nothing
behind but its message.
-/

namespace Codemem

/-! ### The statements of an op -/

/-- The state while one op is processed: the tables, and the accumulators of the op. -/
structure OpRun where
  store : Store
  tally : OpTally

/-- One statement of the body: a database statement, or an assignment to the accumulators. -/
inductive OpStatement where
  | sql (write : Store → Store)
  | assign (update : OpTally → OpTally)

/-- `result.applied++`. -/
def countApplied (tally : OpTally) : OpTally := { tally with applied := tally.applied + 1 }

/-- `result.skipped++`. -/
def countSkipped (tally : OpTally) : OpTally := { tally with skipped := tally.skipped + 1 }

/-- `result.conflicts++`. -/
def countConflict (tally : OpTally) : OpTally := { tally with conflicts := tally.conflicts + 1 }

/-- `result.errors.push(…)`. -/
def pushErrors (errors : List String) (tally : OpTally) : OpTally :=
  { tally with errors := tally.errors ++ errors }

/-- `queueVectorUpsert` and `queueVectorDelete`. -/
def queueVector (work : List (ℕ × VectorOperation)) (tally : OpTally) : OpTally :=
  { tally with vectorWork := tally.vectorWork ++ work }

/-- The last statement of most branches: the op is logged. -/
def logStatement (op : ReplicationOp) : OpStatement := .sql fun st => st.insertReplicationOpRow op

def accessCleanupStatements (st : Store) (op : ReplicationOp) (localDeviceId : String) :
    List OpStatement :=
  match applyAccessCleanupForLocalDevice st op localDeviceId with
  | (true, _, (memoryId, operation) :: work) =>
    [.sql fun st => clearMemoryRefs st memoryId,
      .sql fun st => st.deleteMemories fun row => row.id == memoryId,
      .assign (queueVector ((memoryId, operation) :: work)), logStatement op, .assign countApplied]
  | (true, _, []) => [logStatement op, .assign countApplied]
  | (false, _, _) => [logStatement op, .assign countSkipped]

/-- The statements of the old side branch, or the error it throws. -/
def reassignOldSideStatements (st : Store) (op : ReplicationOp) (localDeviceId : String)
    (reassignment : ReassignScopePayload) : Except String (List OpStatement) :=
  match st.memoryByImportKey op.entityId with
  | none => .ok [logStatement op, .assign countSkipped]
  | some current =>
    if current.effectiveScope ≠ reassignment.oldScopeId then
      .ok [logStatement op, .assign countSkipped]
    else if reassignment.oldScopeId = defaultSyncScopeId ∧
        reassignOriginMatches op current localDeviceId = false then
      .error "reassign_origin_mismatch"
    else if isNewerClock op.clock current.clock = false then
      .ok [logStatement op, .assign countConflict]
    else
      .ok [.sql fun st => recordForeignMemoryRevision st op.entityId .replication,
        .sql fun st => st.updateMemories (fun row => row.id == current.id)
          (retractRow op reassignment),
        .assign (queueVector [(current.id, .delete)]), logStatement op, .assign countApplied]

def upsertUpdateStatements (ctx : ApplyContext) (op : ReplicationOp) (payload : MemoryPayload)
    (memRow : MemoryItem) : List OpStatement :=
  [.sql fun st => recordForeignMemoryRevision st op.entityId .replication,
    .sql fun st => st.updateMemories (fun row => row.importKey == some op.entityId)
      (overwriteRow op payload (writtenActive payload memRow) (nextDeletedAt payload memRow)),
    .sql fun st => clearMemoryRefs st memRow.id,
    .sql fun st => populateMemoryRefs ctx.runtime st memRow.id
      (asStringArrayOrNull payload.filesRead) (asStringArrayOrNull payload.filesModified)
      (asStringArrayOrNull payload.concepts),
    .assign (queueVector (updateVectorWork payload memRow)), logStatement op, .assign countApplied]

def upsertInsertStatements (ctx : ApplyContext) (st : Store) (op : ReplicationOp)
    (payload : MemoryPayload) : List OpStatement :=
  let sessionId := (st.insertSession none (replicatedProject payload)).1
  let memoryId := st.nextMemoryId
  let operation : VectorOperation :=
    if payload.deletedAt.isSome ∨ payload.active.getD 1 = 0 then .delete else .upsert
  [.sql fun st => (st.insertSession none (replicatedProject payload)).2,
    .sql fun st => recordForeignMemoryRevision st op.entityId .replication,
    .sql fun st => st.insertMemory (insertedRow op payload sessionId),
    .sql fun st => populateMemoryRefs ctx.runtime st memoryId
      (asStringArrayOrNull payload.filesRead) (asStringArrayOrNull payload.filesModified)
      (asStringArrayOrNull payload.concepts),
    .assign (queueVector [(memoryId, operation)]), logStatement op, .assign countApplied]

def malformedStatements (op : ReplicationOp) (errors : List String) : List OpStatement :=
  [.assign (pushErrors errors), logStatement op, .assign countSkipped]

/-- The statements of the upsert branch, or the error it throws. -/
def upsertStatements (ctx : ApplyContext) (st : Store) (op : ReplicationOp)
    (reassignment : Option ReassignScopePayload) : Except String (List OpStatement) :=
  match st.memoryByImportKey op.entityId with
  | some memRow =>
    if reassignScopeMismatch reassignment memRow then .error "reassign_existing_scope_mismatch"
    else if isNewerClock op.clock memRow.clock = false ∧
        sameReassignmentClock op reassignment memRow = false then
      .ok [.assign countConflict, logStatement op]
    else match parseMemoryPayload ctx.runtime op with
      | (none, errors) => .ok (malformedStatements op errors)
      | (some payload, _) =>
        .ok (upsertUpdateStatements ctx op (redactMemoryFields ctx.scanner payload) memRow)
  | none =>
    match parseMemoryPayload ctx.runtime op with
    | (none, errors) => .ok (malformedStatements op errors)
    | (some payload, _) =>
      .ok (upsertInsertStatements ctx st op (redactMemoryFields ctx.scanner payload))

def deleteStatements (ctx : ApplyContext) (st : Store) (op : ReplicationOp) : List OpStatement :=
  match st.memoryByImportKey op.entityId with
  | some existing =>
    if isNewerClock op.clock existing.clock = false then
      [.assign countConflict, logStatement op]
    else
      [.sql fun st => recordForeignMemoryRevision st op.entityId .replication,
        .sql fun st => st.updateMemories (fun row => row.id == existing.id)
          (tombstoneRow op ctx.now),
        .assign (queueVector [(existing.id, .delete)]), logStatement op, .assign countApplied]
  | none => [logStatement op, .assign countSkipped]

/-- The statements of the body of an op, read off the tables it starts from, or the error its
checks throw before anything is written. -/
def opStatements (ctx : ApplyContext) (localDeviceId : String) (st : Store)
    (op : ReplicationOp) : Except String (List OpStatement) :=
  if skipOwnRetiredOrAppliedOp st op localDeviceId then .ok [.assign countSkipped]
  else match op.opType with
    | .reassignScope =>
      match parseReassignScopePayload op with
      | .error message => .error message
      | .ok reassignment =>
        match reassignment.side with
        | .old => reassignOldSideStatements st op localDeviceId reassignment
        | .new => upsertStatements ctx st op (some reassignment)
    | .accessCleanup => .ok (accessCleanupStatements st op localDeviceId)
    | .upsert => upsertStatements ctx st op none
    | .delete => .ok (deleteStatements ctx st op)
    | .other _ => .ok [.assign countSkipped, logStatement op]

/-! ### Running them under a savepoint -/

/-- The error a database statement raises, given the tables it meets, the op and the number of
statements that are left. -/
abbrev StatementFault := Store → ReplicationOp → ℕ → Option String

/-- Run statements one by one.  An error stops the run and leaves what was written before it. -/
def runStatements (fault : ℕ → Store → Option String) :
    OpRun → List OpStatement → OpRun × Option String
  | run, [] => (run, none)
  | run, .assign update :: rest =>
    runStatements fault { run with tally := update run.tally } rest
  | run, .sql write :: rest =>
    match fault rest.length run.store with
    | some message => (run, some message)
    | none => runStatements fault { run with store := write run.store } rest

/-- The body of an op up to its end or its first error. -/
def opBodyRun (ctx : ApplyContext) (fault : StatementFault) (localDeviceId : String) (st : Store)
    (op : ReplicationOp) : OpRun × Option String :=
  match opStatements ctx localDeviceId st op with
  | .error message => (⟨st, ⟨0, 0, 0, [], []⟩⟩, some message)
  | .ok statements =>
    runStatements (fun left st => fault st op left) ⟨st, ⟨0, 0, 0, [], []⟩⟩ statements

/-- `rollbackReplicationOp` and the message of the handler: back to the savepoint, with the
counters and the vector work reset. -/
def rollbackReplicationOp (savepoint : Store) (op : ReplicationOp) (run : OpRun)
    (message : String) : OpRun where
  store := savepoint
  tally := { run.tally with
    applied := 0
    skipped := 0
    conflicts := 0
    errors := run.tally.errors ++ ["op " ++ op.opId ++ ": " ++ message]
    vectorWork := [] }

/-- One op under its savepoint. -/
def runReplicationOp (ctx : ApplyContext) (fault : StatementFault) (localDeviceId : String)
    (st : Store) (op : ReplicationOp) : OpRun :=
  match opBodyRun ctx fault localDeviceId st op with
  | (run, none) => run
  | (run, some message) => rollbackReplicationOp st op run message

def opThrows (ctx : ApplyContext) (fault : StatementFault) (localDeviceId : String) (st : Store)
    (op : ReplicationOp) : Bool :=
  (opBodyRun ctx fault localDeviceId st op).2.isSome

/-- One turn of the loop of `applyReplicationOps`. -/
def batchStep (ctx : ApplyContext) (fault : StatementFault) (localDeviceId : String)
    (batch : Store × ApplyResult) (op : ReplicationOp) : Store × ApplyResult :=
  let run := runReplicationOp ctx fault localDeviceId batch.1 op
  (run.store, finishReplicationOp batch.2 run.tally)

/-- `applyReplicationOps`, with every statement a state of its own. -/
def runReplicationOps (ctx : ApplyContext) (fault : StatementFault) (st : Store)
    (ops : List ReplicationOp) (localDeviceId : String)
    (inboundScopeValidation : Option InboundScopeValidationOptions) : Store × ApplyResult :=
  match inboundScopeValidation.bind (rejectUnretiredScopeFailures st ops localDeviceId) with
  | some rejected => rejected
  | none => ops.foldl (batchStep ctx fault localDeviceId) (st, emptyApplyResult)

/-! ### Refinement of the one-step model -/

section Refinement

variable {ctx : ApplyContext} {fault : StatementFault} {localDeviceId : String} {st : Store}
  {op : ReplicationOp}

lemma runStatements_of_no_error {fault : ℕ → Store → Option String} {run run' : OpRun}
    {statements : List OpStatement} (h : runStatements fault run statements = (run', none)) :
    runStatements (fun _ _ => none) run statements = (run', none) := by
  induction statements generalizing run with
  | nil => exact h
  | cons statement rest ih =>
    cases statement with
    | assign update => exact ih h
    | sql write =>
      unfold runStatements at h ⊢
      cases hfault : fault rest.length run.store with
      | some message => simp [hfault] at h
      | none =>
        rw [hfault] at h
        exact ih h

lemma upsertInsertStatements_spec (ctx : ApplyContext) (st : Store) (op : ReplicationOp)
    (payload : MemoryPayload) :
    applyUpsertInsert ctx st op payload =
      let run := (runStatements (fun _ _ => none) ⟨st, ⟨0, 0, 0, [], []⟩⟩
        (upsertInsertStatements ctx st op payload)).1
      (run.store, run.tally) := by
  have hid : (recordForeignMemoryRevision (st.insertSession none (replicatedProject payload)).2
      op.entityId .replication).nextMemoryId = st.nextMemoryId := by
    unfold recordForeignMemoryRevision
    split_ifs <;> rfl
  unfold applyUpsertInsert
  simp only [hid]
  rfl

/-- The statements of an op, all run, are its body; the checks that throw are the same. -/
lemma opStatements_spec (ctx : ApplyContext) (localDeviceId : String) (st : Store)
    (op : ReplicationOp) :
    replicationOpBody ctx localDeviceId st op =
      (opStatements ctx localDeviceId st op).map fun statements =>
        let run := (runStatements (fun _ _ => none) ⟨st, ⟨0, 0, 0, [], []⟩⟩ statements).1
        (run.store, run.tally) := by
  have hold : ∀ reassignment, applyReassignOldSide st op localDeviceId reassignment =
      (reassignOldSideStatements st op localDeviceId reassignment).map fun statements =>
        let run := (runStatements (fun _ _ => none) ⟨st, ⟨0, 0, 0, [], []⟩⟩ statements).1
        (run.store, run.tally) := by
    intro reassignment
    unfold applyReassignOldSide reassignOldSideStatements
    cases st.memoryByImportKey op.entityId with
    | none => rfl
    | some current =>
      simp only
      split_ifs <;> rfl
  have hupsert : ∀ reassignment, applyUpsert ctx st op reassignment =
      (upsertStatements ctx st op reassignment).map fun statements =>
        let run := (runStatements (fun _ _ => none) ⟨st, ⟨0, 0, 0, [], []⟩⟩ statements).1
        (run.store, run.tally) := by
    intro reassignment
    unfold applyUpsert upsertStatements
    cases st.memoryByImportKey op.entityId with
    | none =>
      rcases parseMemoryPayload ctx.runtime op with ⟨_ | payload, errors⟩
      · rfl
      · exact congrArg Except.ok (upsertInsertStatements_spec ctx st op _)
    | some memRow =>
      simp only
      split_ifs
      · rfl
      · rfl
      · rcases parseMemoryPayload ctx.runtime op with ⟨_ | payload, errors⟩ <;> rfl
  unfold replicationOpBody opStatements
  split_ifs
  · rfl
  · cases op.opType with
    | reassignScope =>
      simp only
      cases parseReassignScopePayload op with
      | error message => rfl
      | ok reassignment =>
        simp only
        cases reassignment.side with
        | old => exact hold reassignment
        | new => exact hupsert (some reassignment)
    | accessCleanup =>
      simp only [accessCleanupStatements, applyAccessCleanupOp]
      unfold applyAccessCleanupForLocalDevice
      cases (parseAccessCleanupPayload op).cleanupScopeId with
      | none => rfl
      | some cleanupScopeId =>
        cases st.memoryByImportKey op.entityId with
        | none => rfl
        | some existing =>
          simp only
          by_cases hrefused : hasRecordedLocalCreation st op.entityId = true ∨
              (cleanText (some op.clockDeviceId)).or (cleanText (some op.deviceId)) = none ∨
              cleanText existing.originDeviceId ≠
                (cleanText (some op.clockDeviceId)).or (cleanText (some op.deviceId)) ∨
              cleanText existing.originDeviceId = some localDeviceId ∨
              cleanText existing.originDeviceId = some "local" ∨
              cleanText existing.scopeId ≠ some cleanupScopeId
          · rw [if_pos hrefused]
            rfl
          · rw [if_neg hrefused]
            rfl
    | upsert => exact hupsert none
    | delete =>
      simp only [deleteStatements, applyDelete]
      cases st.memoryByImportKey op.entityId with
      | none => rfl
      | some existing =>
        simp only
        split_ifs <;> rfl
    | other name => rfl

/-- The context of the one-step model in which an op fails exactly where its statements do. -/
def ApplyContext.failingWith (ctx : ApplyContext) (fault : StatementFault)
    (localDeviceId : String) : ApplyContext :=
  { ctx with fault := fun st op => (opBodyRun ctx fault localDeviceId st op).2 }

/-- The two ways an op ends: all its statements ran and are its body, or it threw and only its
messages are left. -/
theorem runReplicationOp_cases (ctx : ApplyContext) (fault : StatementFault)
    (localDeviceId : String) (st : Store) (op : ReplicationOp) :
    (opThrows ctx fault localDeviceId st op = false ∧
        replicationOpBody ctx localDeviceId st op =
          .ok ((runReplicationOp ctx fault localDeviceId st op).store,
            (runReplicationOp ctx fault localDeviceId st op).tally)) ∨
      (opThrows ctx fault localDeviceId st op = true ∧
        ∃ errors, runReplicationOp ctx fault localDeviceId st op = ⟨st, ⟨0, 0, 0, errors, []⟩⟩) := by
  unfold opThrows runReplicationOp
  rcases hrun : opBodyRun ctx fault localDeviceId st op with ⟨run, _ | message⟩
  · left
    refine ⟨rfl, ?_⟩
    rw [opStatements_spec]
    unfold opBodyRun at hrun
    cases hstatements : opStatements ctx localDeviceId st op with
    | error message => simp [hstatements] at hrun
    | ok statements =>
      rw [hstatements] at hrun
      have hall := runStatements_of_no_error hrun
      simp only [Except.map, hall]
  · exact .inr ⟨rfl, _, rfl⟩

/-- The stepwise op refines the one-step op: same tables, same counters, same vector work. -/
theorem runReplicationOp_refines (ctx : ApplyContext) (fault : StatementFault)
    (localDeviceId : String) (st : Store) (op : ReplicationOp) :
    (runReplicationOp ctx fault localDeviceId st op).store =
        (applyReplicationOp (ctx.failingWith fault localDeviceId) localDeviceId st op).1 ∧
      { (runReplicationOp ctx fault localDeviceId st op).tally with errors := [] } =
        { (applyReplicationOp (ctx.failingWith fault localDeviceId) localDeviceId st op).2 with
          errors := [] } := by
  have hbody : replicationOpBody (ctx.failingWith fault localDeviceId) localDeviceId st op =
      replicationOpBody ctx localDeviceId st op := rfl
  unfold applyReplicationOp
  rcases runReplicationOp_cases ctx fault localDeviceId st op with
    ⟨hno, hok⟩ | ⟨hthrows, errors, hrun⟩
  · have hnone : (opBodyRun ctx fault localDeviceId st op).2 = none := by
      simpa [opThrows] using hno
    have hfault : (ctx.failingWith fault localDeviceId).fault st op = none := hnone
    rw [hfault, hbody, hok]
    exact ⟨rfl, rfl⟩
  · obtain ⟨message, hfault⟩ : ∃ message,
        (ctx.failingWith fault localDeviceId).fault st op = some message :=
      Option.isSome_iff_exists.mp hthrows
    rw [hfault, hrun]
    exact ⟨rfl, rfl⟩

/-- The stepwise batch refines the one-step batch: it leaves the same tables. -/
theorem runReplicationOps_refines (ctx : ApplyContext) (fault : StatementFault) (st : Store)
    (ops : List ReplicationOp) (localDeviceId : String)
    (validation : Option InboundScopeValidationOptions) :
    (runReplicationOps ctx fault st ops localDeviceId validation).1 =
      (applyReplicationOps (ctx.failingWith fault localDeviceId) st ops localDeviceId
        validation).1 := by
  unfold runReplicationOps applyReplicationOps
  cases validation.bind (rejectUnretiredScopeFailures st ops localDeviceId) with
  | some rejected => rfl
  | none =>
    simp only
    rw [applyAll_store]
    generalize emptyApplyResult = result
    induction ops generalizing st result with
    | nil => rfl
    | cons op ops ih =>
      rw [List.foldl_cons, List.foldl_cons, ih]
      rw [batchStep, (runReplicationOp_refines ctx fault localDeviceId st op).1]

end Refinement

/-! ### Isolation of failing ops -/

section Isolation

variable {ctx : ApplyContext} {fault : StatementFault} {localDeviceId : String}

/-- Two states of a batch that differ in their error messages at most. -/
def SameButErrors (batch batch' : Store × ApplyResult) : Prop :=
  batch.1 = batch'.1 ∧ { batch.2 with errors := [] } = { batch'.2 with errors := [] }

lemma mergeVectorWork_foldl_errors (work : List (ℕ × VectorOperation)) (result : ApplyResult) :
    { work.foldl mergeVectorWork result with errors := [] } =
      work.foldl mergeVectorWork { result with errors := [] } := by
  induction work generalizing result with
  | nil => rfl
  | cons entry work ih =>
    rw [List.foldl_cons, List.foldl_cons, ih]
    rcases entry with ⟨memoryId, _ | _⟩ <;> rfl

lemma finishReplicationOp_errors (result : ApplyResult) (tally : OpTally) :
    { finishReplicationOp result tally with errors := [] } =
      finishReplicationOp { result with errors := [] } { tally with errors := [] } := by
  unfold finishReplicationOp
  rw [mergeVectorWork_foldl_errors]
  rfl

lemma isolates_batchStep (ctx : ApplyContext) (fault : StatementFault) (localDeviceId : String) :
    Isolates (batchStep ctx fault localDeviceId)
      (fun batch op => opThrows ctx fault localDeviceId batch.1 op) SameButErrors where
  agree op h := by rw [h.1]
  keep := by
    rintro ⟨st, result⟩ ⟨st', result'⟩ op ⟨hst, hresult⟩ -
    obtain rfl : st = st' := hst
    refine ⟨rfl, ?_⟩
    show { finishReplicationOp result _ with errors := [] } =
      { finishReplicationOp result' _ with errors := [] }
    rw [finishReplicationOp_errors, finishReplicationOp_errors]
    exact congrArg (fun r => finishReplicationOp r _) hresult
  skip := by
    rintro ⟨st, result⟩ ⟨st', result'⟩ op ⟨hst, hresult⟩ hthrows
    rcases runReplicationOp_cases ctx fault localDeviceId st op with
      ⟨hno, -⟩ | ⟨-, errors, hrun⟩
    · exact absurd (hno.symm.trans hthrows) Bool.false_ne_true
    · unfold batchStep
      rw [hrun]
      refine ⟨hst, ?_⟩
      show { finishReplicationOp result _ with errors := [] } = _
      rw [finishReplicationOp_errors]
      exact hresult

lemma rejectUnretiredScopeFailures_sublist {st : Store} {ops ops' : List ReplicationOp}
    {validation : Option InboundScopeValidationOptions} (hsub : ops'.Sublist ops)
    (h : validation.bind (rejectUnretiredScopeFailures st ops localDeviceId) = none) :
    validation.bind (rejectUnretiredScopeFailures st ops' localDeviceId) = none := by
  cases validation with
  | none => rfl
  | some options =>
    simp only [Option.bind_some, rejectUnretiredScopeFailures, Option.map_eq_none_iff,
      rejectInboundScopeFailures_eq_none_iff] at h ⊢
    have heligible := hsub.filter fun op => !retirementBlocksMemoryOp st op
    rw [inboundScopeRejections_eq_nil_iff] at h ⊢
    refine ⟨?_, fun henabled => ?_⟩
    · refine List.filterMap_eq_nil_iff.mpr fun op hop => ?_
      exact List.filterMap_eq_nil_iff.mp h.1 op (heligible.subset hop)
    · refine List.filterMap_eq_nil_iff.mpr fun op hop => ?_
      exact List.filterMap_eq_nil_iff.mp (h.2 henabled) op (heligible.subset hop)

lemma rejectUnretiredScopeFailures_result {st : Store} {ops : List ReplicationOp}
    {options : InboundScopeValidationOptions} {rejected : Store × ApplyResult}
    (h : rejectUnretiredScopeFailures st ops localDeviceId options = some rejected) :
    rejected.2.applied = 0 ∧ rejected.2.upsertMemoryIds = [] ∧
      rejected.2.deleteMemoryIds = [] := by
  simp only [rejectUnretiredScopeFailures, rejectInboundScopeFailures, Option.map_eq_some_iff] at h
  obtain ⟨⟨st', result⟩, hrejected, rfl⟩ := h
  split_ifs at hrejected
  cases hrejected
  exact ⟨rfl, rfl, rfl⟩

end Isolation

/-- A batch that the inbound validation rejects changes nothing but the rejection log.  Otherwise
every op that throws leaves all tables, the counters and the vector work as they were, and the
batch ends as the batch of the other ops does, none of which throws. -/
theorem batch_failures_isolated (ctx : ApplyContext) (fault : StatementFault) (st : Store)
    (ops : List ReplicationOp) (localDeviceId : String)
    (validation : Option InboundScopeValidationOptions) :
    (∀ rejected ∈ validation.bind (rejectUnretiredScopeFailures st ops localDeviceId),
      runReplicationOps ctx fault st ops localDeviceId validation = rejected ∧
        rejected.1 = { st with
          syncScopeRejections := st.syncScopeRejections ++ rejected.2.rejections } ∧
        rejected.2.applied = 0 ∧ rejected.2.upsertMemoryIds = [] ∧
        rejected.2.deleteMemoryIds = []) ∧
    (validation.bind (rejectUnretiredScopeFailures st ops localDeviceId) = none →
      let step := batchStep ctx fault localDeviceId
      let throws := fun (batch : Store × ApplyResult) op =>
        opThrows ctx fault localDeviceId batch.1 op
      let surviving := survivors step throws (st, emptyApplyResult) ops
      (∀ before op after, ops = before ++ op :: after →
        throws (before.foldl step (st, emptyApplyResult)) op = true →
        SameButErrors ((before ++ [op]).foldl step (st, emptyApplyResult))
          (before.foldl step (st, emptyApplyResult))) ∧
      surviving.Sublist ops ∧
      (∀ op ∈ ops, op ∉ surviving → ∃ before after, ops = before ++ op :: after ∧
        throws (before.foldl step (st, emptyApplyResult)) op = true) ∧
      StepsMeet step (fun batch op => throws batch op = false) (st, emptyApplyResult) surviving ∧
      SameButErrors (runReplicationOps ctx fault st ops localDeviceId validation)
        (runReplicationOps ctx fault st surviving localDeviceId validation)) := by
  constructor
  · intro rejected hrejected
    rw [Option.mem_def] at hrejected
    refine ⟨by simp only [runReplicationOps, hrejected], ?_⟩
    obtain ⟨options, -, hreject⟩ := Option.bind_eq_some_iff.mp hrejected
    exact ⟨rejectUnretiredScopeFailures_store hreject, rejectUnretiredScopeFailures_result hreject⟩
  · intro hpass step throws surviving
    have hisolates := isolates_batchStep ctx fault localDeviceId
    have hsame : SameButErrors (st, emptyApplyResult) (st, emptyApplyResult) := ⟨rfl, rfl⟩
    have hsub : surviving.Sublist ops := survivors_sublist step throws _ ops
    refine ⟨?_, hsub, fun op hop hnot => exists_fails_of_not_survivor hop hnot,
      hisolates.survivors_succeed hsame ops, ?_⟩
    · intro before op after _ hthrows
      rw [List.foldl_append]
      exact hisolates.skip op ⟨rfl, rfl⟩ hthrows
    · simp only [runReplicationOps, hpass, rejectUnretiredScopeFailures_sublist hsub hpass]
      exact hisolates.foldl_survivors hsame ops

/-- An upsert whose payload is no JSON object. -/
def sampleMalformedUpsert : ReplicationOp where
  opId := "op"
  entityType := .memoryItem
  entityId := "m1"
  opType := .upsert
  payloadJson := some (.malformed "title")
  clockRev := 1
  clockUpdatedAt := "2026-01-01"
  clockDeviceId := "remote"
  deviceId := "remote"
  createdAt := "2026-01-01"
  scopeId := some "team"

/-- A malformed payload is an error of the batch that leaves its op in the log: the batch without
the op ends with another log. -/
theorem malformed_op_is_logged :
    (applyReplicationOps (plainContext "2026-01-02") Store.empty [sampleMalformedUpsert] "local"
        none).2.errors.length = 1 ∧
      (applyReplicationOps (plainContext "2026-01-02") Store.empty [sampleMalformedUpsert] "local"
        none).1.replicationOps.map ReplicationOp.opId = ["op"] ∧
      (applyReplicationOps (plainContext "2026-01-02") Store.empty [] "local"
        none).1.replicationOps.map ReplicationOp.opId = [] := by
  decide

end Codemem

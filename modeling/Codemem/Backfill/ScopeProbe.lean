import Codemem.Backfill.ScopeIds

/-!
# The probe of the scope backfill

A completed job counts ops without a scope that no scoped memory names.  As long as these ops stay,
and no memory below the highest id comes to name one of them, an equal count means that they are all
the ops without a scope, so there is nothing to stamp.  An op that leaves the log makes room in the
count for one that could be stamped.
-/

namespace Codemem

/-! ### Orphans -/

def ScopeMemory.IsNamedBy (row : ScopeMemory) (op : ScopeOp) : Prop :=
  row.importKey = some op.entityId ∨ toString row.id = op.entityId

def NamesScoped (among : ScopeMemory → Prop) (tables : ScopeIdTables) (op : ScopeOp) : Prop :=
  ∃ row ∈ tables.memories, isUnscoped row.scopeId = false ∧ among row ∧ row.IsNamedBy op

/-- No op can be stamped. -/
def HasNoStampable (tables : ScopeIdTables) : Prop :=
  ∀ op ∈ tables.unstampedOps, ¬NamesScoped (fun _ => True) tables op

/-- So many ops without a scope name no scoped memory among some. -/
def HasOrphans (among : ScopeMemory → Prop) (tables : ScopeIdTables) (count : ℕ) : Prop :=
  ∃ orphans : List ScopeOp, orphans.Nodup ∧ orphans.length = count ∧
    ∀ op ∈ orphans, op ∈ tables.unstampedOps ∧ ¬NamesScoped among tables op

/-- A write leaves the ops without a scope, and they name no more memories among some. -/
def KeepsOrphans (among : ScopeMemory → Prop) (tables tables' : ScopeIdTables) : Prop :=
  ∀ op ∈ tables.unstampedOps, op ∈ tables'.unstampedOps ∧
    (NamesScoped among tables' op → NamesScoped among tables op)

/-- A write makes no op stampable. -/
def BringsNoWork (tables tables' : ScopeIdTables) : Prop :=
  ∀ op ∈ tables'.unstampedOps, NamesScoped (fun _ => True) tables' op →
    op ∈ tables.unstampedOps ∧ NamesScoped (fun _ => True) tables op

/-! ### The condition on a step -/

/-- A pass has found nothing to stamp, and may complete the job on that. -/
def ScopePass.HasSeenNone : ScopePass → Prop
  | .countScopes ctx memoryPending opPending => memoryPending + opPending = 0 ∧
      isUncompleted ctx.existingJob = true ∧
      (scopeMetadata ctx.existingJob).exhaustedInPreviousPass = true
  | .countRemainingMemories ctx checked | .countRemainingOps ctx checked _ =>
    checked = 0 ∧ ctx.previouslyExhausted = true
  | .countRemainingScopes ctx result =>
    result.checkedReplicationOps = 0 ∧ ctx.previouslyExhausted = true
  | .captureOps _ => True
  | _ => False

/-- What another writer may commit while a pass is on its way to complete the job. -/
def ScopePass.Tolerates (tables tables' : ScopeIdTables) : ScopePass → Prop
  | .captureMemory _ _ => KeepsOrphans (fun _ => True) tables tables'
  | .complete metadata => ∀ id, metadata.maxStampedMemoryIdAtCompletion = some id →
      KeepsOrphans (fun row => row.id ≤ id) tables tables'
  | pass => pass.HasSeenNone → BringsNoWork tables tables'

/-- What another writer may commit once the job is completed. -/
def JobTolerates (tables tables' : ScopeIdTables) (job : Option ScopeJob) : Prop :=
  isCompleted job = true → ∀ id, (scopeMetadata job).maxStampedMemoryIdAtCompletion = some id →
    KeepsOrphans (fun row => row.id ≤ id) tables tables'

/-- A confirming pass finds fewer memories than its batch holds, and scopes have no blanks around
them. -/
def BatchMeets (tables : ScopeIdTables) : ScopePass → Prop
  | .applyBatch ctx rows => (ctx.previouslyExhausted = true → rows.length < ctx.batchSize) ∧
      ∀ row ∈ tables.memories, ∀ scope, row.scopeId = some scope → trim scope = scope
  | _ => True

/-- The condition on a step. -/
def ScopeMeets (s : ScopeSystem) : ScopeAction → Prop
  | .commit tables => (∀ pass, s.pass = some pass → pass.Tolerates s.tables tables) ∧
      JobTolerates s.tables tables s.job
  | .next => ∀ pass, s.pass = some pass → BatchMeets s.tables pass
  | _ => True

/-! ### What is promised -/

/-- The backfill has nothing to do. -/
def HasNothingToDo (tables : ScopeIdTables) : Prop :=
  tables.missingScopes = [] ∧ tables.pendingMemories = [] ∧ ∀ memoryLimit opLimit,
    tables.selectOps opLimit = [] ∧ backfillScopeIds memoryLimit opLimit tables = tables

/-- An op that changes gets the scope of the memory that it names, by its id only where no scoped
memory has the name as its import key. -/
def StampsRight (tables tables' : ScopeIdTables) : Prop :=
  ∀ op ∈ tables.ops, ∀ op' ∈ tables'.ops, op'.opId = op.opId → op'.scopeId ≠ op.scopeId →
    ∃ row ∈ tables'.memories, isUnscoped row.scopeId = false ∧ op'.scopeId = row.scopeId ∧
      (row.importKey = some op.entityId ∨ toString row.id = op.entityId ∧
        ∀ other ∈ tables'.memories, other.importKey = some op.entityId →
          isUnscoped other.scopeId = true)

section Orphans

variable {among : ScopeMemory → Prop} {tables tables' : ScopeIdTables} {count : ℕ}

lemma HasOrphans.mono {among' : ScopeMemory → Prop} (h : HasOrphans among tables count)
    (hle : ∀ row, among' row → among row) : HasOrphans among' tables count := by
  obtain ⟨orphans, hnodup, hlength, horphans⟩ := h
  refine ⟨orphans, hnodup, hlength, fun op hop => ⟨(horphans op hop).1, ?_⟩⟩
  rintro ⟨row, hrow, hscoped, hamong, hnamed⟩
  exact (horphans op hop).2 ⟨row, hrow, hscoped, hle row hamong, hnamed⟩

lemma HasOrphans.keeps (h : HasOrphans among tables count)
    (hkeeps : KeepsOrphans among tables tables') : HasOrphans among tables' count := by
  obtain ⟨orphans, hnodup, hlength, horphans⟩ := h
  refine ⟨orphans, hnodup, hlength, fun op hop => ?_⟩
  obtain ⟨hmem, hnames⟩ := hkeeps op (horphans op hop).1
  exact ⟨hmem, fun hnamed => (horphans op hop).2 (hnames hnamed)⟩

lemma HasNoStampable.keeps (h : HasNoStampable tables) (hbrings : BringsNoWork tables tables') :
    HasNoStampable tables' := fun op hop hnamed =>
  h op (hbrings op hop hnamed).1 (hbrings op hop hnamed).2

lemma nodup_unstampedOps (h : tables.UniqueOps) : tables.unstampedOps.Nodup :=
  h.of_map.filter _

lemma HasNoStampable.hasOrphans (h : HasNoStampable tables) (hunique : tables.UniqueOps) :
    HasOrphans (fun _ => True) tables tables.countUnstamped :=
  ⟨tables.unstampedOps, nodup_unstampedOps hunique, rfl, fun op hop => ⟨hop, h op hop⟩⟩

lemma HasOrphans.hasNoStampable {id : ℕ} (h : HasOrphans (fun row => row.id ≤ id) tables count)
    (hcount : tables.countUnstamped ≤ count)
    (habove : ∀ row ∈ tables.memories, isUnscoped row.scopeId = false → row.id ≤ id) :
    HasNoStampable tables := by
  obtain ⟨orphans, hnodup, hlength, horphans⟩ := h
  have hperm : orphans.Perm tables.unstampedOps :=
    (hnodup.subperm fun op hop => (horphans op hop).1).perm_of_length_le (hlength ▸ hcount)
  rintro op hop ⟨row, hrow, hscoped, -, hnamed⟩
  exact (horphans op (hperm.mem_iff.mpr hop)).2 ⟨row, hrow, hscoped, habove row hrow hscoped, hnamed⟩

/-! ### The selection -/

lemma of_mem_opCandidates {op : ScopeOp} {candidate : ScopeOp × Option String}
    (h : candidate ∈ tables.opCandidates op) : candidate.1 = op ∧
      ∃ row ∈ tables.memories, isUnscoped row.scopeId = false ∧ candidate.2 = row.scopeId ∧
        (row.importKey = some op.entityId ∨ toString row.id = op.entityId ∧
          ∀ other ∈ tables.memories, other.importKey = some op.entityId →
            isUnscoped other.scopeId = true) := by
  obtain ⟨row, hrow, rfl⟩ := List.mem_map.mp h
  refine ⟨rfl, row, ?_⟩
  rcases List.mem_append.mp hrow with himport | hid
  · obtain ⟨hmem, htest⟩ := List.mem_filter.mp himport
    simp only [Bool.and_eq_true, beq_iff_eq, Bool.not_eq_true'] at htest
    exact ⟨hmem, htest.2, rfl, .inl htest.1⟩
  · split_ifs at hid with hnone
    · obtain ⟨hmem, htest⟩ := List.mem_filter.mp hid
      simp only [Bool.and_eq_true, beq_iff_eq, Bool.not_eq_true'] at htest
      refine ⟨hmem, htest.2, rfl, .inr ⟨htest.1, fun other hother hkey => ?_⟩⟩
      by_contra hscoped
      have hmatch : other ∈ tables.importMatches op.entityId :=
        List.mem_filter.mpr ⟨hother, by simp [hkey, hscoped]⟩
      rw [List.isEmpty_iff.mp hnone] at hmatch
      cases hmatch
    · cases hid

lemma opCandidates_ne_nil {op : ScopeOp} (h : NamesScoped (fun _ => True) tables op) :
    tables.opCandidates op ≠ [] := by
  obtain ⟨row, hrow, hscoped, -, hnamed⟩ := h
  unfold ScopeIdTables.opCandidates
  rw [Ne, List.map_eq_nil_iff, List.append_eq_nil_iff]
  rintro ⟨hnone, hids⟩
  rw [hnone, List.isEmpty_nil, if_pos rfl] at hids
  rcases hnamed with hkey | hid
  · have hmatch : row ∈ tables.importMatches op.entityId :=
      List.mem_filter.mpr ⟨hrow, by simp [hkey, hscoped]⟩
    rw [hnone] at hmatch
    cases hmatch
  · have hmatch : row ∈ tables.idMatches op.entityId :=
      List.mem_filter.mpr ⟨hrow, by simp [hid, hscoped]⟩
    rw [hids] at hmatch
    cases hmatch

lemma of_mem_selectOps {limit : ℕ} {candidate : ScopeOp × Option String}
    (h : candidate ∈ tables.selectOps limit) :
    ∃ op ∈ tables.unstampedOps, candidate ∈ tables.opCandidates op :=
  List.mem_flatMap.mp ((List.perm_insertionSort _ _).mem_iff.mp (List.mem_of_mem_take h))

lemma hasNoStampable_of_selectOps {limit : ℕ} (hlimit : 1 ≤ limit)
    (h : tables.selectOps limit = []) : HasNoStampable tables := by
  intro op hop hnamed
  have hall : tables.unstampedOps.flatMap tables.opCandidates = [] := by
    rcases List.take_eq_nil_iff.mp h with hzero | hsorted
    · omega
    · exact List.perm_nil.mp (hsorted ▸ (List.perm_insertionSort _ _).symm)
  exact opCandidates_ne_nil hnamed (List.flatMap_eq_nil_iff.mp hall op hop)

lemma HasNoStampable.selectOps_eq_nil (h : HasNoStampable tables) (limit : ℕ) :
    tables.selectOps limit = [] := by
  refine List.eq_nil_iff_forall_not_mem.mpr fun candidate hcandidate => ?_
  obtain ⟨op, hop, hmem⟩ := of_mem_selectOps hcandidate
  obtain ⟨-, row, hrow, hscoped, -, hnamed⟩ := of_mem_opCandidates hmem
  exact h op hop ⟨row, hrow, hscoped, trivial, hnamed.imp_right And.left⟩

/-! ### A batch -/

lemma ops_stampMemories (rows : List ScopeMemory) (tables : ScopeIdTables) :
    (rows.foldl ScopeIdTables.stampMemory tables).ops = tables.ops := by
  induction rows generalizing tables with
  | nil => rfl
  | cons row rows ih => exact ih _

lemma memories_stampOp (tables : ScopeIdTables) (candidate : ScopeOp × Option String) :
    (tables.stampOp candidate).memories = tables.memories := by
  unfold ScopeIdTables.stampOp
  cases cleanText candidate.2 <;> rfl

lemma memories_stampOps (candidates : List (ScopeOp × Option String)) (tables : ScopeIdTables) :
    (candidates.foldl ScopeIdTables.stampOp tables).memories = tables.memories := by
  induction candidates generalizing tables with
  | nil => rfl
  | cons candidate candidates ih => exact (ih _).trans (memories_stampOp tables candidate)

lemma of_mem_stampOp {candidate : ScopeOp × Option String} {op' : ScopeOp}
    (h : op' ∈ (tables.stampOp candidate).ops) : ∃ op ∈ tables.ops, op'.opId = op.opId ∧
      (op' = op ∨ op.opId = candidate.1.opId ∧ op'.scopeId = cleanText candidate.2 ∧
        (cleanText candidate.2).isSome = true) := by
  unfold ScopeIdTables.stampOp at h
  cases hclean : cleanText candidate.2 with
  | none =>
    rw [hclean] at h
    exact ⟨op', h, rfl, .inl rfl⟩
  | some scopeId =>
    rw [hclean] at h
    obtain ⟨op, hop, rfl⟩ := List.mem_map.mp h
    refine ⟨op, hop, ?_⟩
    split_ifs with hstamps
    · exact ⟨rfl, .inr ⟨hstamps.1, rfl, rfl⟩⟩
    · exact ⟨rfl, .inl rfl⟩

lemma of_mem_stampOps {candidates : List (ScopeOp × Option String)} {op' : ScopeOp}
    (h : op' ∈ (candidates.foldl ScopeIdTables.stampOp tables).ops) :
    ∃ op ∈ tables.ops, op'.opId = op.opId ∧ (op' = op ∨ ∃ candidate ∈ candidates,
      op.opId = candidate.1.opId ∧ op'.scopeId = cleanText candidate.2 ∧
        (cleanText candidate.2).isSome = true) := by
  induction candidates generalizing tables with
  | nil => exact ⟨op', h, rfl, .inl rfl⟩
  | cons candidate candidates ih =>
    obtain ⟨op, hop, hid, hcases⟩ := ih h
    obtain ⟨old, hold, hid', hcases'⟩ := of_mem_stampOp hop
    refine ⟨old, hold, hid.trans hid', ?_⟩
    rcases hcases with rfl | ⟨stamp, hstamp, hfor, hscope⟩
    · exact hcases'.imp_right fun hfirst => ⟨candidate, List.mem_cons_self, hfirst⟩
    · exact .inr ⟨stamp, List.mem_cons_of_mem _ hstamp, hid'.symm.trans hfor, hscope⟩

lemma map_opId_stampOps (candidates : List (ScopeOp × Option String)) (tables : ScopeIdTables) :
    (candidates.foldl ScopeIdTables.stampOp tables).ops.map ScopeOp.opId =
      tables.ops.map ScopeOp.opId := by
  induction candidates generalizing tables with
  | nil => rfl
  | cons candidate candidates ih =>
    rw [List.foldl_cons, ih]
    unfold ScopeIdTables.stampOp
    cases cleanText candidate.2 with
    | none => rfl
    | some scopeId =>
      rw [List.map_map]
      refine List.map_congr_left fun op _ => ?_
      rw [Function.comp_apply]
      split_ifs <;> rfl

lemma uniqueOps_applyScopeBatch (h : tables.UniqueOps) (rows : List ScopeMemory)
    (memoryLimit opLimit : ℕ) : (applyScopeBatch rows memoryLimit opLimit tables).1.UniqueOps := by
  unfold applyScopeBatch ScopeIdTables.UniqueOps
  rw [map_opId_stampOps, ops_stampMemories]
  exact h

lemma hasNoStampable_applyScopeBatch {rows : List ScopeMemory} {memoryLimit opLimit : ℕ}
    (hlimit : 1 ≤ opLimit) (hrows : rows.length < memoryLimit)
    (hnone : (applyScopeBatch rows memoryLimit opLimit tables).2 = 0) :
    HasNoStampable (applyScopeBatch rows memoryLimit opLimit tables).1 := by
  unfold applyScopeBatch selectedOps at hnone ⊢
  dsimp only at hnone ⊢
  rw [if_neg (by omega)] at hnone ⊢
  have hselected := List.length_eq_zero_iff.mp hnone
  rw [hselected, List.foldl_nil]
  exact hasNoStampable_of_selectOps hlimit hselected

lemma trim_classifyLegacyMemoryScope (input : LegacyMemoryScopeInput) :
    trim (classifyLegacyMemoryScope input).scopeId = (classifyLegacyMemoryScope input).scopeId := by
  have hscope : (classifyLegacyMemoryScope input).scopeId = localDefaultScopeId ∨
      (classifyLegacyMemoryScope input).scopeId = legacySharedReviewScopeId := by
    unfold classifyLegacyMemoryScope
    extract_lets visibility workspaceKind workspaceId
    split
    · exact .inl rfl
    · exact .inr rfl
  rcases hscope with hscope | hscope <;> rw [hscope] <;> decide

lemma trim_stampMemories (rows : List ScopeMemory)
    (h : ∀ row ∈ tables.memories, ∀ scope, row.scopeId = some scope → trim scope = scope) :
    ∀ row ∈ (rows.foldl ScopeIdTables.stampMemory tables).memories, ∀ scope,
      row.scopeId = some scope → trim scope = scope := by
  induction rows generalizing tables with
  | nil => exact h
  | cons classified rows ih =>
    refine ih fun row hrow scope hscope => ?_
    obtain ⟨old, hold, rfl⟩ := List.mem_map.mp hrow
    split_ifs at hscope with hstamps
    · obtain rfl := Option.some_inj.mp hscope
      exact trim_classifyLegacyMemoryScope classified.legacy
    · exact h old hold scope hscope

lemma stampsRight_applyScopeBatch (hunique : tables.UniqueOps) (rows : List ScopeMemory)
    (memoryLimit opLimit : ℕ)
    (htrim : ∀ row ∈ tables.memories, ∀ scope, row.scopeId = some scope → trim scope = scope) :
    StampsRight tables (applyScopeBatch rows memoryLimit opLimit tables).1 := by
  intro op hop op' hop' hid hchanged
  unfold applyScopeBatch at hop' ⊢
  dsimp only at hop' ⊢
  rw [memories_stampOps]
  obtain ⟨old, hold, hid', hcases⟩ := of_mem_stampOps hop'
  rw [ops_stampMemories] at hold
  have hsame : old = op := List.inj_on_of_nodup_map hunique hold hop (hid'.symm.trans hid)
  subst hsame
  rcases hcases with rfl | ⟨candidate, hcandidate, hfor, hscope, hclean⟩
  · exact absurd rfl hchanged
  unfold selectedOps at hcandidate
  split_ifs at hcandidate
  · cases hcandidate
  obtain ⟨named, hnamed, hgets⟩ := of_mem_selectOps hcandidate
  obtain ⟨hcandidate1, row, hrow, hscoped, hrowScope, hprecedence⟩ := of_mem_opCandidates hgets
  have hnamedMem := (List.mem_filter.mp hnamed).1
  rw [ops_stampMemories] at hnamedMem
  have hsame : named = old := List.inj_on_of_nodup_map hunique hnamedMem hold
    (by rw [← hcandidate1]; exact hfor.symm)
  subst hsame
  refine ⟨row, hrow, hscoped, ?_, hprecedence⟩
  rw [hscope, hrowScope]
  rw [hrowScope] at hclean
  cases hrowId : row.scopeId with
  | none =>
    rw [hrowId] at hclean
    cases hclean
  | some scope =>
    rw [hrowId] at hclean
    have htrimmed := trim_stampMemories rows htrim row hrow scope hrowId
    unfold cleanText at hclean ⊢
    dsimp only at hclean ⊢
    by_cases hblank : (trim scope).toList.isEmpty = true
    · rw [if_pos hblank] at hclean
      cases hclean
    · rw [if_neg hblank, htrimmed]

lemma hasNothingToDo_of_hasNoStampable (hscopes : tables.missingScopes = [])
    (hmemories : tables.pendingMemories = []) (hops : HasNoStampable tables) :
    HasNothingToDo tables := by
  refine ⟨hscopes, hmemories, fun memoryLimit opLimit => ⟨hops.selectOps_eq_nil opLimit, ?_⟩⟩
  have hensured : tables.ensureScopes = tables := by
    unfold ScopeIdTables.ensureScopes
    rw [hscopes, List.append_nil]
  have hselected : tables.selectMemories (max 1 memoryLimit) = [] := by
    unfold ScopeIdTables.selectMemories
    rw [hmemories, List.insertionSort_nil, List.take_nil]
  unfold backfillScopeIds
  dsimp only
  rw [hensured, hselected]
  unfold applyScopeBatch selectedOps
  dsimp only
  rw [if_neg (by simp), List.foldl_nil, hops.selectOps_eq_nil, List.foldl_nil]

end Orphans

/-! ### Runs -/

/-- The job runs. -/
def IsRunning (job : Option ScopeJob) : Prop := ∃ row, job = some row ∧ row.status = .running

/-- A completed job counts orphans. -/
def JobOk (tables : ScopeIdTables) (job : Option ScopeJob) : Prop :=
  ∀ row, job = some row → row.status = .running ∨ row.status = .completed ∧ ∃ count id,
    row.metadata.unstampedReplicationOpsAtCompletion = some count ∧
      row.metadata.maxStampedMemoryIdAtCompletion = some id ∧
      HasOrphans (fun memory => memory.id ≤ id) tables count

/-- What a pass knows before a statement. -/
def ScopePass.Ok (tables : ScopeIdTables) (job : Option ScopeJob) : ScopePass → Prop
  | .readJob _ => True
  | .countMemories ctx => 1 ≤ ctx.batchSize ∧ ctx.existingJob = job
  | .countOps ctx _ => 1 ≤ ctx.batchSize ∧ ctx.existingJob = job
  | .countScopes ctx memoryPending opPending => 1 ≤ ctx.batchSize ∧ ctx.existingJob = job ∧
      ((countScopes ctx memoryPending opPending).HasSeenNone → HasNoStampable tables)
  | .startJob ctx _ _ _ => 1 ≤ ctx.batchSize
  | .ensureScopes ctx | .selectMemories ctx | .applyBatch ctx _ =>
    1 ≤ ctx.batchSize ∧ IsRunning job
  | .update _ => IsRunning job
  | .captureMemory _ count => IsRunning job ∧ HasOrphans (fun _ => True) tables count
  | .complete metadata => IsRunning job ∧ ∃ count id,
      metadata.unstampedReplicationOpsAtCompletion = some count ∧
        metadata.maxStampedMemoryIdAtCompletion = some id ∧
        HasOrphans (fun memory => memory.id ≤ id) tables count
  | pass => IsRunning job ∧ (pass.HasSeenNone → HasNoStampable tables)

/-- What holds in every state of a run. -/
structure ScopeInvariant (s : ScopeSystem) : Prop where
  unique : s.tables.UniqueOps
  job : JobOk s.tables s.job
  pass : ∀ pass, s.pass = some pass → pass.Ok s.tables s.job

section Runs

variable {s : ScopeSystem} {tables : ScopeIdTables} {job : Option ScopeJob}

lemma jobOk_of_isRunning (h : IsRunning job) : JobOk tables job := by
  obtain ⟨row, rfl, hstatus⟩ := h
  exact fun other hother => .inl (Option.some_inj.mp hother ▸ hstatus)

lemma isRunning_of_isUncompleted (h : JobOk tables job) (hjob : isUncompleted job = true) :
    IsRunning job := by
  cases job with
  | none => cases hjob
  | some row =>
    refine ⟨row, rfl, (h row rfl).resolve_right fun hcompleted => ?_⟩
    simp [isUncompleted, hcompleted.1] at hjob

lemma isRunning_of_startsFresh (h : JobOk tables job) (hjob : startsFresh job = false) :
    IsRunning job := by
  cases job with
  | none => cases hjob
  | some row =>
    refine ⟨row, rfl, (h row rfl).resolve_right fun hcompleted => ?_⟩
    simp [startsFresh, hcompleted.1] at hjob

lemma isRunning_writeScopeJob (h : IsRunning job) (metadata : ScopeBackfillMetadata) :
    IsRunning (writeScopeJob none metadata job) := by
  obtain ⟨row, rfl, hstatus⟩ := h
  exact ⟨_, rfl, hstatus⟩

lemma ScopePass.Ok.commit {pass : ScopePass} {tables' : ScopeIdTables} (h : pass.Ok tables job)
    (htolerates : pass.Tolerates tables tables') : pass.Ok tables' job := by
  cases pass with
  | readJob | countMemories | countOps | startJob | ensureScopes | selectMemories | applyBatch
  | update => exact h
  | countScopes ctx memoryPending opPending =>
    exact ⟨h.1, h.2.1, fun hnone => (h.2.2 hnone).keeps (htolerates hnone)⟩
  | countRemainingMemories | countRemainingOps | countRemainingScopes | captureOps =>
    exact ⟨h.1, fun hnone => (h.2 hnone).keeps (htolerates hnone)⟩
  | captureMemory metadata count => exact ⟨h.1, h.2.keeps htolerates⟩
  | complete metadata =>
    obtain ⟨hrunning, count, id, hcount, hid, horphans⟩ := h
    exact ⟨hrunning, count, id, hcount, hid, horphans.keeps (htolerates id hid)⟩

lemma JobOk.commit {tables' : ScopeIdTables} (h : JobOk tables job)
    (htolerates : JobTolerates tables tables' job) : JobOk tables' job := by
  intro row hrow
  refine (h row hrow).imp_right fun ⟨hstatus, count, id, hcount, hid, horphans⟩ => ?_
  subst hrow
  exact ⟨hstatus, count, id, hcount, hid,
    horphans.keeps (htolerates (by simp [isCompleted, hstatus]) id hid)⟩

lemma ok_counted {ctx : ScopeContext} {memoryPending opPending missingScopes : ℕ}
    (hjob : JobOk tables job)
    (h : (ScopePass.countScopes ctx memoryPending opPending).Ok tables job) (pass : ScopePass)
    (hpass : ScopePass.counted ctx memoryPending opPending missingScopes = some pass) :
    pass.Ok tables job := by
  obtain ⟨hbatch, hexisting, hnone⟩ := h
  unfold ScopePass.counted at hpass
  split_ifs at hpass with hzero huncompleted hexhausted hfresh
  · obtain rfl := Option.some_inj.mp hpass
    exact ⟨isRunning_of_isUncompleted hjob (hexisting ▸ huncompleted),
      fun _ => hnone ⟨by omega, huncompleted, hexhausted⟩⟩
  · obtain rfl := Option.some_inj.mp hpass
    exact isRunning_of_isUncompleted hjob (hexisting ▸ huncompleted)
  · obtain rfl := Option.some_inj.mp hpass
    exact hbatch
  · obtain rfl := Option.some_inj.mp hpass
    refine ⟨hbatch, isRunning_of_startsFresh hjob ?_⟩
    rw [← hexisting]
    simpa [ScopeContext.startingFresh] using hfresh

lemma ok_judged {ctx : ScopeContext} {result : ScopeBatchResult} (missingScopes : ℕ)
    (h : (ScopePass.countRemainingScopes ctx result).Ok tables job) :
    (ScopePass.judged ctx result missingScopes).Ok tables job := by
  unfold ScopePass.judged
  extract_lets passLooksDone metadata
  split_ifs with hdone
  · simp only [passLooksDone, Bool.and_eq_true, decide_eq_true_eq] at hdone
    exact ⟨h.1, fun _ => h.2 ⟨hdone.1.2.1, hdone.2⟩⟩
  · exact h.1

/-- A statement of a pass keeps the invariant. -/
lemma ScopeInvariant.next (h : ScopeInvariant s) {pass : ScopePass}
    (hpass : pass.Ok s.tables s.job) (hmeets : BatchMeets s.tables pass) :
    ScopeInvariant (pass.next s) := by
  cases pass with
  | readJob batchSize =>
    exact ⟨h.unique, h.job, fun _ hnext => Option.some_inj.mp hnext ▸ ⟨le_max_left _ _, rfl⟩⟩
  | countMemories ctx =>
    exact ⟨h.unique, h.job, fun _ hnext => Option.some_inj.mp hnext ▸ hpass⟩
  | countOps ctx memoryPending =>
    refine ⟨h.unique, h.job, fun _ hnext => Option.some_inj.mp hnext ▸
      ⟨hpass.1, hpass.2, fun hnone op hop => ?_⟩⟩
    have hempty : s.tables.unstampedOps = [] :=
      List.length_eq_zero_iff.mp (Nat.eq_zero_of_add_eq_zero_left hnone.1)
    exact absurd (hempty ▸ hop : op ∈ []) List.not_mem_nil
  | countScopes ctx memoryPending opPending =>
    exact ⟨h.unique, h.job, fun _ hnext => ok_counted h.job hpass _ hnext⟩
  | startJob ctx memoryPending opPending missingScopes =>
    have hstarted : IsRunning (some (startedScopeJob memoryPending opPending missingScopes)) :=
      ⟨_, rfl, rfl⟩
    exact ⟨h.unique, jobOk_of_isRunning hstarted,
      fun _ hnext => Option.some_inj.mp hnext ▸ ⟨hpass, hstarted⟩⟩
  | ensureScopes ctx =>
    exact ⟨h.unique, jobOk_of_isRunning hpass.2,
      fun _ hnext => Option.some_inj.mp hnext ▸ hpass⟩
  | selectMemories ctx =>
    exact ⟨h.unique, h.job, fun _ hnext => Option.some_inj.mp hnext ▸ hpass⟩
  | applyBatch ctx rows =>
    refine ⟨uniqueOps_applyScopeBatch h.unique rows _ _, jobOk_of_isRunning hpass.2,
      fun _ hnext => Option.some_inj.mp hnext ▸ ⟨hpass.2, fun hnone => ?_⟩⟩
    exact hasNoStampable_applyScopeBatch hpass.1 (hmeets.1 hnone.2) hnone.1
  | countRemainingMemories ctx checked =>
    exact ⟨h.unique, h.job, fun _ hnext => Option.some_inj.mp hnext ▸ hpass⟩
  | countRemainingOps ctx checked remainingMemories =>
    exact ⟨h.unique, h.job, fun _ hnext => Option.some_inj.mp hnext ▸ hpass⟩
  | countRemainingScopes ctx result =>
    exact ⟨h.unique, h.job, fun _ hnext => Option.some_inj.mp hnext ▸ ok_judged _ hpass⟩
  | update metadata =>
    exact ⟨h.unique, jobOk_of_isRunning (isRunning_writeScopeJob hpass metadata),
      fun _ hnext => by cases hnext⟩
  | captureOps metadata =>
    exact ⟨h.unique, h.job, fun _ hnext => Option.some_inj.mp hnext ▸
      ⟨hpass.1, (hpass.2 trivial).hasOrphans h.unique⟩⟩
  | captureMemory metadata count =>
    exact ⟨h.unique, h.job, fun _ hnext => Option.some_inj.mp hnext ▸
      ⟨hpass.1, count, s.tables.maxStampedMemoryId, rfl, rfl,
        hpass.2.mono fun _ _ => trivial⟩⟩
  | complete metadata =>
    obtain ⟨hrunning, count, id, hcount, hid, horphans⟩ := hpass
    refine ⟨h.unique, fun row hrow => .inr ?_, fun _ hnext => by cases hnext⟩
    obtain ⟨existing, hexisting, -⟩ := hrunning
    have hwritten : row =
        { existing with status := .completed, metadata := metadata } := by
      change writeScopeJob (some .completed) metadata s.job = some row at hrow
      rw [hexisting] at hrow
      exact (Option.some_inj.mp hrow).symm
    rw [hwritten]
    exact ⟨rfl, count, id, hcount, hid, horphans⟩

lemma ScopeInvariant.step (h : ScopeInvariant s) {action : ScopeAction}
    (hmeets : ScopeMeets s action) : ScopeInvariant (scopeStep s action) := by
  cases action with
  | begin batchSize =>
    rw [scopeStep]
    split_ifs
    · exact h
    · exact ⟨h.unique, h.job, fun _ hnext => Option.some_inj.mp hnext ▸ trivial⟩
  | next =>
    rw [scopeStep]
    split
    · exact h
    · rename_i pass hpass
      exact h.next (h.pass pass hpass) (hmeets pass hpass)
  | stop => exact ⟨h.unique, h.job, fun _ hnext => by cases hnext⟩
  | commit tables =>
    exact ⟨tables.2, h.job.commit hmeets.2,
      fun pass hpass => (h.pass pass hpass).commit (hmeets.1 pass hpass)⟩

lemma scopeInvariant_start (tables : { tables : ScopeIdTables // tables.UniqueOps }) :
    ScopeInvariant (.start tables) :=
  ⟨tables.2, fun _ hrow => (by cases hrow), fun _ hpass => (by cases hpass)⟩

lemma ScopeInvariant.hasNothingToDo (h : ScopeInvariant s)
    (hprobe : hasPendingScopeBackfill s.tables s.job = false) : HasNothingToDo s.tables := by
  unfold hasPendingScopeBackfill at hprobe
  split_ifs at hprobe with hscopes hmemories hrunning hnone hcompleted
  · refine hasNothingToDo_of_hasNoStampable (not_not.mp hscopes) (not_not.mp hmemories) ?_
    intro op hop
    rw [List.length_eq_zero_iff.mp hnone] at hop
    cases hop
  · refine hasNothingToDo_of_hasNoStampable (not_not.mp hscopes) (not_not.mp hmemories) ?_
    cases hjob : s.job with
    | none =>
      rw [hjob] at hcompleted
      exact absurd rfl hcompleted
    | some row =>
      rw [hjob] at hprobe hrunning
      obtain ⟨-, count, id, hcount, hid, horphans⟩ := (h.job row hjob).resolve_left
        fun hstatus => hrunning (by simp [hstatus])
      have hmetadata : scopeMetadata (some row) = row.metadata := rfl
      rw [hmetadata, hcount, hid] at hprobe
      dsimp only at hprobe
      split_ifs at hprobe with hmore
      refine horphans.hasNoStampable (Nat.le_of_not_lt hmore) fun memory hmemory hscoped => ?_
      by_contra habove
      have hfound := List.any_eq_false.mp hprobe memory hmemory
      rw [hscoped] at hfound
      exact hfound (by simpa using habove)

lemma ScopeInvariant.stampsRight (h : ScopeInvariant s) (hmeets : ScopeMeets s .next) :
    StampsRight s.tables (scopeStep s .next).tables := by
  have hsame : ∀ tables' : ScopeIdTables, tables'.ops = s.tables.ops →
      StampsRight s.tables tables' := by
    intro tables' hops op hop op' hop' hid hchanged
    rw [hops] at hop'
    exact absurd (congrArg ScopeOp.scopeId (List.inj_on_of_nodup_map h.unique hop' hop hid)) hchanged
  rw [scopeStep]
  split
  · exact hsame _ rfl
  · rename_i pass hpass
    cases pass with
    | applyBatch ctx rows =>
      exact stampsRight_applyScopeBatch h.unique rows _ _ (hmeets _ hpass).2
    | readJob | countMemories | countOps | countScopes | startJob | ensureScopes | selectMemories
    | countRemainingMemories | countRemainingOps | countRemainingScopes | update | captureOps
    | captureMemory | complete => exact hsame _ rfl

end Runs

/-- In every run in which other writers keep the orphans of a completed job and bring no work while
a pass completes it, a probe that finds no work is right, and every op is stamped right. -/
theorem scopeProbe_exact (tables : { tables : ScopeIdTables // tables.UniqueOps })
    (actions : List ScopeAction) (h : StepsMeet scopeStep ScopeMeets (.start tables) actions) :
    ∀ s ∈ visited scopeStep (.start tables) actions,
      (hasPendingScopeBackfill s.tables s.job = false → HasNothingToDo s.tables) ∧
        (ScopeMeets s .next → StampsRight s.tables (scopeStep s .next).tables) := by
  intro s hs
  have hinvariant : ScopeInvariant s :=
    h.always (scopeInvariant_start tables) (fun _ _ hmeets hs => hs.step hmeets) s hs
  exact ⟨hinvariant.hasNothingToDo, hinvariant.stampsRight⟩

/-- A scoped memory, and an op without a scope that names it or no memory. -/
def probedTables (entityId : String) : { tables : ScopeIdTables // tables.UniqueOps } :=
  ⟨{ scopes := ["local-default", "legacy-shared-review"]
     memories := [⟨1, some "key-1", some "local-default", ⟨none, none, none, none, none⟩⟩]
     ops := [⟨"op-" ++ entityId, "memory_item", entityId, none, "2026-01-01"⟩] },
    List.nodup_singleton _⟩

/-- A pass that begins and runs to its end. -/
def wholePass : List ScopeAction := .begin 250 :: List.replicate 14 .next

/-- One pass that finds no op, and one that confirms it. -/
def confirmedRun : List ScopeAction := wholePass ++ wholePass

/-- A pass up to its batch, and the batch. -/
def stampingRun : List ScopeAction := .begin 250 :: List.replicate 8 .next

theorem scopeProbe_exact_stamped :
    (stampingRun.foldl scopeStep (.start (probedTables "key-1"))).tables.countUnstamped = 0 ∧
      ∀ s ∈ visited scopeStep (.start (probedTables "key-1")) stampingRun,
        (hasPendingScopeBackfill s.tables s.job = false → HasNothingToDo s.tables) ∧
          (ScopeMeets s .next → StampsRight s.tables (scopeStep s .next).tables) := by
  refine ⟨by decide +kernel, scopeProbe_exact (probedTables "key-1") stampingRun
    ⟨trivial, ?_, ?_, ?_, ?_, ?_, ?_, ?_, ?_, trivial⟩⟩
  all_goals
    intro pass hpass
    obtain rfl := Option.some_inj.mp hpass
  iterate 7 · trivial
  · refine ⟨fun hexhausted => absurd hexhausted (by decide), fun row hrow scope hscope => ?_⟩
    obtain rfl := List.mem_singleton.mp hrow
    obtain rfl := Option.some_inj.mp hscope
    decide

/-- Once the job is completed with one orphan, the orphan leaves the log and an op arrives that
names a scoped memory: the probe finds no work, and the backfill has some. -/
theorem swapped_op_not_probed :
    let s := (confirmedRun ++ [ScopeAction.commit (probedTables "key-1")]).foldl scopeStep
      (.start (probedTables "ghost"))
    hasPendingScopeBackfill s.tables s.job = false ∧ ¬HasNothingToDo s.tables := by
  refine ⟨by decide +kernel, fun h => ?_⟩
  exact absurd (h.2.2 1 1).1 (by decide +kernel)

end Codemem

import Codemem.RawEvents.Flush

/-!
# What a flush statement does to the tables

No statement removes a batch, changes its range or gives two batches one identifier
(`BatchesStep`).  A settled batch stays settled, unless a late failure is recorded on it
(`KeepsSettled`).  The selection of a run starts at the first event above the watermark it read.
-/

namespace Codemem

/-! ### Ranges of selections -/

section Selection

variable {s : RawEventStore} {stream : StreamIdentity} {afterEventSeq : ℤ}
  {limit throughEventSeq : Option ℤ}

lemma flushSelection_eq_some {events : List RawEvent} {selection : FlushSelection}
    (h : flushSelection events = some selection) :
    (∀ event ∈ events, selection.startEventSeq ≤ event.eventSeq ∧
        event.eventSeq ≤ selection.lastEventSeq) ∧
      (∃ event ∈ events, event.eventSeq = selection.startEventSeq) ∧
      ∃ event ∈ events, event.eventSeq = selection.lastEventSeq := by
  unfold flushSelection at h
  rcases hseqs : events.map RawEvent.eventSeq with _ | ⟨first, rest⟩
  · rw [hseqs] at h
    cases h
  · rw [hseqs] at h
    cases h
    have hmin : (events.map RawEvent.eventSeq).min? = some (rest.foldl min first) := by
      rw [hseqs, List.min?_cons']
    have hmax : (events.map RawEvent.eventSeq).max? = some (rest.foldl max first) := by
      rw [hseqs, List.max?_cons']
    obtain ⟨hminMem, hminLe⟩ := List.min?_eq_some_iff.mp hmin
    obtain ⟨hmaxMem, hmaxLe⟩ := List.max?_eq_some_iff.mp hmax
    refine ⟨fun event hevent => ?_, List.mem_map.mp hminMem, List.mem_map.mp hmaxMem⟩
    have hmem : event.eventSeq ∈ events.map RawEvent.eventSeq := List.mem_map_of_mem hevent
    exact ⟨hminLe _ hmem, hmaxLe _ hmem⟩

lemma oneHostGeneration_isInitial (events : List RawEvent) : oneHostGeneration events <+: events := by
  cases events with
  | nil => exact List.prefix_rfl
  | cons event events => exact List.takeWhile_prefix _

lemma rawEventsSinceBySeq_prefix :
    s.rawEventsSinceBySeq stream afterEventSeq limit throughEventSeq <+:
      sortByPos RawEvent.eventSeq ((s.eventsOf stream).filter fun event =>
        decide (afterEventSeq < event.eventSeq) &&
          throughEventSeq.all fun through => decide (event.eventSeq ≤ through)) := by
  unfold RawEventStore.rawEventsSinceBySeq
  rcases limit with _ | n
  · exact List.prefix_rfl
  · dsimp only
    split_ifs
    · exact List.take_prefix _ _
    · exact List.prefix_rfl

lemma le_of_mem_prefix_sortByPos {entries front : List RawEvent} {first other : RawEvent}
    (hfront : front <+: sortByPos RawEvent.eventSeq entries)
    (hother : other ∈ entries) (hfirst : front.head? = some first) :
    first.eventSeq ≤ other.eventSeq := by
  obtain ⟨rest, hrest⟩ := hfront
  obtain ⟨tail, rfl⟩ := List.head?_eq_some_iff.mp hfirst
  have hsorted := pairwise_sortByPos RawEvent.eventSeq entries
  have hmem : other ∈ sortByPos RawEvent.eventSeq entries := mem_sortByPos.mpr hother
  rw [← hrest, List.cons_append] at hsorted hmem
  rcases List.mem_cons.mp hmem with rfl | hmem
  · exact le_rfl
  · exact (List.pairwise_cons.mp hsorted).1 other hmem

/-- What a run selects: a range that ends at a stored event, starts above the watermark that was
read, and leaves no event between the two. -/
theorem flushSelection_spec {selection : FlushSelection}
    (h : flushSelection (oneHostGeneration
      (s.rawEventsSinceBySeq stream afterEventSeq limit throughEventSeq)) = some selection) :
    afterEventSeq < selection.startEventSeq ∧
      (∃ event ∈ s.events, event.stream = stream ∧ event.eventSeq = selection.lastEventSeq) ∧
      ∀ event ∈ s.events, event.stream = stream → afterEventSeq < event.eventSeq →
        event.eventSeq ≤ selection.lastEventSeq → selection.startEventSeq ≤ event.eventSeq := by
  obtain ⟨hbounds, ⟨lowest, hlowest, hstart⟩, ⟨highest, hhighest, hlast⟩⟩ :=
    flushSelection_eq_some h
  have hfront := (oneHostGeneration_isInitial
    (s.rawEventsSinceBySeq stream afterEventSeq limit throughEventSeq)).trans
      rawEventsSinceBySeq_prefix
  have hread : ∀ event ∈ oneHostGeneration
      (s.rawEventsSinceBySeq stream afterEventSeq limit throughEventSeq),
      (event ∈ s.events ∧ event.stream = stream) ∧ afterEventSeq < event.eventSeq ∧
        ∀ through ∈ throughEventSeq, event.eventSeq ≤ through := by
    intro event hevent
    have hmem := mem_sortByPos.mp (hfront.subset hevent)
    rw [List.mem_filter, RawEventStore.eventsOf, List.mem_filter] at hmem
    simpa [Option.all_eq_true] using hmem
  refine ⟨?_, ⟨highest, (hread highest hhighest).1.1, (hread highest hhighest).1.2, hlast⟩, ?_⟩
  · rw [← hstart]
    exact (hread lowest hlowest).2.1
  · intro event hevent hstream hafter hle
    -- an event up to the end of the range passes the filter that the last one passed
    have hselected : event ∈ (s.eventsOf stream).filter fun event =>
        decide (afterEventSeq < event.eventSeq) &&
          throughEventSeq.all fun through => decide (event.eventSeq ≤ through) := by
      have hthrough : ∀ through ∈ throughEventSeq, event.eventSeq ≤ through := by
        intro through hmem
        have hhigh := (hread highest hhighest).2.2 through hmem
        omega
      simpa [RawEventStore.eventsOf, Option.all_eq_true, hevent, hstream, hafter] using hthrough
    obtain ⟨first, hfirst⟩ : ∃ first, (oneHostGeneration
        (s.rawEventsSinceBySeq stream afterEventSeq limit throughEventSeq)).head? = some first := by
      rw [← Option.isSome_iff_exists, List.isSome_head?]
      exact List.ne_nil_of_mem hlowest
    have hle := le_of_mem_prefix_sortByPos hfront hselected hfirst
    exact (hbounds first (List.mem_of_head? hfirst)).1.trans hle

end Selection

/-! ### Statements on batches -/

/-- One identifier names at most one batch. -/
def UniqueBatchIds (batches : List FlushBatch) : Prop :=
  ∀ batch ∈ batches, ∀ batch' ∈ batches, batch.id = batch'.id → batch = batch'

/-- The batches are rewritten in place, or one with a new identifier is appended. -/
inductive BatchesStep (batches batches' : List FlushBatch) : Prop
  | rewrite (write : FlushBatch → FlushBatch) (hid : ∀ batch, (write batch).id = batch.id)
      (hkey : ∀ batch, (write batch).key = batch.key) (h : batches' = batches.map write)
  | append (created : FlushBatch) (hfresh : ∀ batch ∈ batches, batch.id ≠ created.id)
      (h : batches' = batches ++ [created])

namespace BatchesStep

variable {batches batches' : List FlushBatch}

lemma refl (batches : List FlushBatch) : BatchesStep batches batches :=
  .rewrite id (fun _ => rfl) (fun _ => rfl) (List.map_id batches).symm

lemma uniqueIds (h : BatchesStep batches batches') (hunique : UniqueBatchIds batches) :
    UniqueBatchIds batches' := by
  rcases h with ⟨write, hid, -, rfl⟩ | ⟨created, hfresh, rfl⟩
  · intro batch hbatch batch' hbatch' hsame
    obtain ⟨stored, hstored, rfl⟩ := List.mem_map.mp hbatch
    obtain ⟨stored', hstored', rfl⟩ := List.mem_map.mp hbatch'
    rw [hid, hid] at hsame
    rw [hunique stored hstored stored' hstored' hsame]
  · intro batch hbatch batch' hbatch' hsame
    rcases List.mem_append.mp hbatch with hold | hnew
    · rcases List.mem_append.mp hbatch' with hold' | hnew'
      · exact hunique batch hold batch' hold' hsame
      · rw [List.mem_singleton.mp hnew'] at hsame
        exact absurd hsame (hfresh batch hold)
    · rw [List.mem_singleton.mp hnew] at hsame ⊢
      rcases List.mem_append.mp hbatch' with hold' | hnew'
      · exact absurd hsame.symm (hfresh batch' hold')
      · exact (List.mem_singleton.mp hnew').symm

lemma kept (h : BatchesStep batches batches') {batch : FlushBatch} (hbatch : batch ∈ batches) :
    ∃ batch' ∈ batches', batch'.id = batch.id ∧ batch'.key = batch.key := by
  rcases h with ⟨write, hid, hkey, rfl⟩ | ⟨created, -, rfl⟩
  · exact ⟨write batch, List.mem_map_of_mem hbatch, hid batch, hkey batch⟩
  · exact ⟨batch, List.mem_append_left _ hbatch, rfl, rfl⟩

lemma source (h : BatchesStep batches batches') {batch' : FlushBatch}
    (hbatch' : batch' ∈ batches') :
    (∃ batch ∈ batches, batch'.id = batch.id ∧ batch'.key = batch.key) ∨
      ∀ batch ∈ batches, batch.id ≠ batch'.id := by
  rcases h with ⟨write, hid, hkey, rfl⟩ | ⟨created, hfresh, rfl⟩
  · obtain ⟨batch, hbatch, rfl⟩ := List.mem_map.mp hbatch'
    exact .inl ⟨batch, hbatch, hid batch, hkey batch⟩
  · rcases List.mem_append.mp hbatch' with hold | hnew
    · exact .inl ⟨batch', hold, rfl, rfl⟩
    · rw [List.mem_singleton.mp hnew]
      exact .inr hfresh

end BatchesStep

def KeepsSettled (batches batches' : List FlushBatch) : Prop :=
  ∀ batch ∈ batches, batch.status.isSettled = true →
    ∃ batch' ∈ batches', batch'.id = batch.id ∧ batch'.key = batch.key ∧
      batch'.status.isSettled = true

section Updates

variable {batches : List FlushBatch} {selects : FlushBatch → Bool} {write : FlushBatch → FlushBatch}

lemma batchesStep_updateRows (hid : ∀ batch, (write batch).id = batch.id)
    (hkey : ∀ batch, (write batch).key = batch.key) :
    BatchesStep batches (updateRows selects write batches) := by
  refine .rewrite _ (fun batch => ?_) (fun batch => ?_) rfl
  · split_ifs
    · exact hid batch
    · rfl
  · split_ifs
    · exact hkey batch
    · rfl

lemma keepsSettled_updateRows (hid : ∀ batch, (write batch).id = batch.id)
    (hkey : ∀ batch, (write batch).key = batch.key)
    (h : ∀ batch ∈ batches, selects batch = true → batch.status.isSettled = true →
      (write batch).status.isSettled = true) :
    KeepsSettled batches (updateRows selects write batches) := by
  intro batch hbatch hsettled
  refine ⟨_, List.mem_map_of_mem hbatch, ?_⟩
  split_ifs with hsel
  · exact ⟨hid batch, hkey batch, h batch hbatch hsel hsettled⟩
  · exact ⟨rfl, rfl, hsettled⟩

lemma batchesStep_insertOrUpdate {created : FlushBatch} (hid : ∀ batch, (write batch).id = batch.id)
    (hkey : ∀ batch, (write batch).key = batch.key)
    (hfresh : ∀ batch ∈ batches, batch.id ≠ created.id) :
    BatchesStep batches (insertOrUpdate FlushBatch.key created write batches) := by
  unfold insertOrUpdate
  split_ifs
  · refine .rewrite _ (fun batch => ?_) (fun batch => ?_) rfl
    · split_ifs
      · exact hid batch
      · rfl
    · split_ifs
      · exact hkey batch
      · rfl
  · exact .append created hfresh rfl

lemma keepsSettled_insertOrUpdate {created : FlushBatch}
    (hid : ∀ batch, (write batch).id = batch.id) (hkey : ∀ batch, (write batch).key = batch.key)
    (hstatus : ∀ batch, (write batch).status = batch.status) :
    KeepsSettled batches (insertOrUpdate FlushBatch.key created write batches) := by
  unfold insertOrUpdate
  intro batch hbatch hsettled
  split_ifs
  · refine ⟨_, List.mem_map_of_mem hbatch, ?_⟩
    split_ifs
    · exact ⟨hid batch, hkey batch, by rw [hstatus batch]; exact hsettled⟩
    · exact ⟨rfl, rfl, hsettled⟩
  · exact ⟨batch, List.mem_append_left _ hbatch, rfl, rfl, hsettled⟩

end Updates

namespace RawEventStore

variable {s : RawEventStore} {batchId : ℕ}

lemma id_and_guard_of_selected {guard : BatchStatus → Bool} {batch : FlushBatch}
    (h : (batch.id == batchId && guard batch.status) = true) :
    batch.id = batchId ∧ guard batch.status = true := by
  rwa [Bool.and_eq_true, beq_iff_eq] at h

lemma lt_nextBatchId {batch : FlushBatch} (h : batch ∈ s.batches) : batch.id < s.nextBatchId := by
  unfold nextBatchId
  generalize s.batches = batches at h
  induction batches with
  | nil => cases h
  | cons first rest ih =>
    rw [List.foldr_cons]
    rcases List.mem_cons.mp h with rfl | h
    · omega
    · have hrest := ih h
      omega

lemma claimRawEventFlushBatch_spec (now : String) :
    BatchesStep s.batches (s.claimRawEventFlushBatch batchId now).2.batches ∧
      KeepsSettled s.batches (s.claimRawEventFlushBatch batchId now).2.batches := by
  constructor
  · exact batchesStep_updateRows (fun _ => rfl) fun _ => rfl
  · refine keepsSettled_updateRows (fun _ => rfl) (fun _ => rfl) ?_
    intro batch _ hsel hsettled
    obtain ⟨-, hclaimable⟩ := id_and_guard_of_selected hsel
    rw [BatchStatus.isSettled_eq_false_of_isClaimable hclaimable] at hsettled
    cases hsettled

lemma releaseRawEventFlushBatch_spec (code now : String) :
    BatchesStep s.batches (s.releaseRawEventFlushBatchAfterAuthError batchId code now).2.batches ∧
      KeepsSettled s.batches
        (s.releaseRawEventFlushBatchAfterAuthError batchId code now).2.batches := by
  constructor
  · exact batchesStep_updateRows (fun _ => rfl) fun _ => rfl
  · refine keepsSettled_updateRows (fun _ => rfl) (fun _ => rfl) ?_
    intro batch _ hsel hsettled
    obtain ⟨-, hclaimed⟩ := @id_and_guard_of_selected batchId (· == .claimed) batch hsel
    rw [beq_iff_eq.mp hclaimed] at hsettled
    cases hsettled

lemma updateRawEventFlushBatchStatus_spec {status : BatchStatus}
    (hstatus : status.isSettled = true) (now : String) :
    BatchesStep s.batches (s.updateRawEventFlushBatchStatus batchId status now).batches ∧
      KeepsSettled s.batches (s.updateRawEventFlushBatchStatus batchId status now).batches ∧
      ∀ batch ∈ s.batches, batch.id = batchId →
        ∃ batch' ∈ (s.updateRawEventFlushBatchStatus batchId status now).batches,
          batch'.id = batch.id ∧ batch'.key = batch.key ∧ batch'.status.isSettled = true := by
  let write (batch : FlushBatch) : FlushBatch :=
    if status = .failed ∨ status = .gaveUp then { batch with status, updatedAt := now }
    else
      { batch with
        status
        updatedAt := now
        errorType := none
        observerErrorCode := none
        observerErrorMessage := none }
  have hwrite : ∀ batch, (write batch).id = batch.id ∧ (write batch).key = batch.key ∧
      (write batch).status = status := by
    intro batch
    dsimp only [write]
    split_ifs
    · exact ⟨rfl, rfl, rfl⟩
    · exact ⟨rfl, rfl, rfl⟩
  refine ⟨?_, ?_, fun batch hbatch hid => ?_⟩
  · exact batchesStep_updateRows (fun batch => (hwrite batch).1) fun batch => (hwrite batch).2.1
  · refine keepsSettled_updateRows (fun batch => (hwrite batch).1)
      (fun batch => (hwrite batch).2.1) ?_
    intro batch _ _ _
    rw [(hwrite batch).2.2]
    exact hstatus
  · refine ⟨_, List.mem_map_of_mem hbatch, ?_⟩
    rw [if_pos (by simp [hid])]
    exact ⟨(hwrite batch).1, (hwrite batch).2.1, by rw [(hwrite batch).2.2]; exact hstatus⟩

lemma recordRawEventFlushBatchFailure_spec (errorType : String)
    (observerErrorCode observerErrorMessage : Option String) (now : String) :
    BatchesStep s.batches (s.recordRawEventFlushBatchFailure batchId errorType observerErrorCode
        observerErrorMessage now).batches ∧
      ((∀ batch ∈ s.batches, batch.id = batchId → batch.status.isSettled = false) →
        KeepsSettled s.batches (s.recordRawEventFlushBatchFailure batchId errorType
          observerErrorCode observerErrorMessage now).batches) := by
  constructor
  · exact batchesStep_updateRows (fun _ => rfl) fun _ => rfl
  · intro hlive
    refine keepsSettled_updateRows (fun _ => rfl) (fun _ => rfl) ?_
    intro batch hbatch hsel hsettled
    obtain ⟨hid, -⟩ := @id_and_guard_of_selected batchId (fun _ => true) batch hsel
    rw [hlive batch hbatch hid] at hsettled
    cases hsettled

lemma mem_stuckBatchIds {olderThanIso : String} {limit : ℤ} {id : ℕ}
    (h : id ∈ s.stuckBatchIds olderThanIso limit) :
    ∃ batch ∈ s.batches, batch.id = id ∧ batch.status.isSettled = false := by
  obtain ⟨batch, hbatch, hid⟩ := List.mem_map.mp h
  have hcandidate : batch ∈ sortByPos FlushBatch.updatedAt (s.batches.filter fun batch =>
      batch.status.canBeStuck && decide (batch.updatedAt < olderThanIso)) := by
    split_ifs at hbatch
    · exact hbatch
    · exact List.mem_of_mem_take hbatch
  obtain ⟨hmem, hstatus⟩ := List.mem_filter.mp (mem_sortByPos.mp hcandidate)
  rw [Bool.and_eq_true] at hstatus
  exact ⟨batch, hmem, hid, BatchStatus.isSettled_eq_false_of_canBeStuck hstatus.1⟩

lemma markStuckRawEventBatchesAsError_spec (olderThanIso : String) (limit : ℤ) (now : String) :
    BatchesStep s.batches (s.markStuckRawEventBatchesAsError olderThanIso limit now).batches ∧
      (UniqueBatchIds s.batches → KeepsSettled s.batches
        (s.markStuckRawEventBatchesAsError olderThanIso limit now).batches) := by
  constructor
  · exact batchesStep_updateRows (fun _ => rfl) fun _ => rfl
  · intro hunique
    refine keepsSettled_updateRows (fun _ => rfl) (fun _ => rfl) ?_
    intro batch hbatch hsel hsettled
    obtain ⟨stuck, hstuck, hid, hlive⟩ := mem_stuckBatchIds (List.contains_iff_mem.mp hsel)
    rw [hunique stuck hstuck batch hbatch hid, hsettled] at hlive
    cases hlive

lemma getOrCreateRawEventFlushBatch_spec (stream : StreamIdentity)
    (startEventSeq endEventSeq : ℤ) (version now : String) :
    let found := s.getOrCreateRawEventFlushBatch stream startEventSeq endEventSeq version now
    BatchesStep s.batches found.2.batches ∧ KeepsSettled s.batches found.2.batches ∧
      ∃ batch ∈ found.2.batches, batch.id = found.1.id ∧
        batch.key = (stream, startEventSeq, endEventSeq, version) ∧
        batch.status.canonical = found.1.status := by
  let created : FlushBatch :=
    { id := s.nextBatchId, stream, startEventSeq, endEventSeq, extractorVersion := version,
      status := .pending, errorType := none, observerErrorCode := none,
      observerErrorMessage := none, attemptCount := 0, updatedAt := now }
  let touch (stored : FlushBatch) : FlushBatch :=
    if stored.status.isHeld then stored else { stored with updatedAt := now }
  have htouch : ∀ batch, (touch batch).id = batch.id ∧ (touch batch).key = batch.key ∧
      (touch batch).status = batch.status := by
    intro batch
    dsimp only [touch]
    split_ifs
    · exact ⟨rfl, rfl, rfl⟩
    · exact ⟨rfl, rfl, rfl⟩
  have hrow : rowAt FlushBatch.key created.key (insertOrUpdate FlushBatch.key created touch
      s.batches) = some (((rowAt FlushBatch.key created.key s.batches).map touch).getD created) := by
    rw [rowAt_insertOrUpdate (fun batch => (htouch batch).2.1), if_pos rfl]
  obtain ⟨hmem, hkey⟩ := rowAt_eq_some hrow
  dsimp only
  refine ⟨?_, ?_, _, hmem, ?_, hkey, ?_⟩
  · refine batchesStep_insertOrUpdate (fun batch => (htouch batch).1)
      (fun batch => (htouch batch).2.1) fun batch hbatch => ?_
    exact (lt_nextBatchId hbatch).ne
  · exact keepsSettled_insertOrUpdate (fun batch => (htouch batch).1)
      (fun batch => (htouch batch).2.1) fun batch => (htouch batch).2.2
  · change _ = (Option.getD (rowAt FlushBatch.key created.key
      (insertOrUpdate FlushBatch.key created touch s.batches)) created).id
    rw [hrow, Option.getD_some]
  · change _ = (Option.getD (rowAt FlushBatch.key created.key
      (insertOrUpdate FlushBatch.key created touch s.batches)) created).status.canonical
    rw [hrow, Option.getD_some]

/-! ### The watermark -/

lemma session_updateRawEventFlushState {stream stream' : StreamIdentity} {lastFlushed : ℤ} :
    (s.updateRawEventFlushState stream lastFlushed).session stream' =
      if stream' = stream then
        some (((s.session stream').map fun row =>
          { row with lastFlushedEventSeq := lastFlushed }).getD ⟨stream, -1, lastFlushed⟩)
      else s.session stream' :=
  @rowAt_insertOrUpdate _ _ _ StreamSession.stream ⟨stream, -1, lastFlushed⟩
    (fun row => { row with lastFlushedEventSeq := lastFlushed }) (fun _ => rfl) stream' s.sessions

lemma rawEventFlushState_updateRawEventFlushState {stream stream' : StreamIdentity}
    {lastFlushed : ℤ} :
    (s.updateRawEventFlushState stream lastFlushed).rawEventFlushState stream' =
      if stream' = stream then lastFlushed else s.rawEventFlushState stream' := by
  unfold rawEventFlushState
  rw [session_updateRawEventFlushState]
  split_ifs
  · cases s.session stream' with
    | none => rfl
    | some row => rfl
  · rfl

lemma lastReceived_updateRawEventFlushState {stream stream' : StreamIdentity} {lastFlushed : ℤ} :
    (s.updateRawEventFlushState stream lastFlushed).lastReceived stream' =
      s.lastReceived stream' := by
  unfold lastReceived
  rw [session_updateRawEventFlushState]
  split_ifs
  · cases s.session stream' with
    | none => rfl
    | some row => rfl
  · rfl

end RawEventStore

/-! ### The statements of a run -/

namespace FlushRun

variable {settings : FlushSettings} {s : RawEventStore} {run : FlushRun} {now : String}

lemma handleFlushFailure_tables (batchId : ℕ) (isLegacyRediagnosis : Bool)
    (failure : IngestFailure) :
    (handleFlushFailure s batchId isLegacyRediagnosis now failure).2.events = s.events ∧
      (handleFlushFailure s batchId isLegacyRediagnosis now failure).2.sessions = s.sessions ∧
      BatchesStep s.batches
        (handleFlushFailure s batchId isLegacyRediagnosis now failure).2.batches := by
  rcases failure with _ | ⟨code, details⟩ | details
  · exact ⟨rfl, rfl, (RawEventStore.releaseRawEventFlushBatch_spec _ now).1⟩
  · exact ⟨rfl, rfl, (RawEventStore.releaseRawEventFlushBatch_spec code now).1⟩
  · exact ⟨rfl, rfl, (RawEventStore.recordRawEventFlushBatchFailure_spec _ _ _ now).1⟩

/-- A statement of a run leaves the events and the received numbers alone, and removes no batch. -/
theorem nextStatement_tables :
    (run.nextStatement settings s now).2.events = s.events ∧
      (∀ stream, (run.nextStatement settings s now).2.lastReceived stream = s.lastReceived stream) ∧
      BatchesStep s.batches (run.nextStatement settings s now).2.batches := by
  unfold nextStatement
  rcases run.phase with _ | lastFlushed | selection | ⟨selection, batchId, plan⟩ |
    ⟨selection, batchId, isLegacyRediagnosis⟩ | ⟨batchId, isLegacyRediagnosis, failure⟩ |
    ⟨selection, batchId, exit⟩ | ⟨selection, batchId, exit⟩ | _ | _
  case selected =>
    exact ⟨rfl, fun _ => rfl, (RawEventStore.getOrCreateRawEventFlushBatch_spec _ _ _ _ now).1⟩
  case claiming =>
    exact ⟨rfl, fun _ => rfl, (RawEventStore.claimRawEventFlushBatch_spec now).1⟩
  case failing =>
    obtain ⟨hevents, hsessions, hbatches⟩ :=
      @handleFlushFailure_tables s now batchId isLegacyRediagnosis failure
    refine ⟨hevents, fun stream => ?_, hbatches⟩
    exact congrArg (fun sessions => ((rowAt StreamSession.stream stream sessions).map
      StreamSession.lastReceivedEventSeq).getD (-1)) hsessions
  case settling =>
    exact ⟨rfl, fun _ => rfl,
      (RawEventStore.updateRawEventFlushBatchStatus_spec exit.isSettled_status now).1⟩
  case advancing =>
    exact ⟨rfl, fun _ => RawEventStore.lastReceived_updateRawEventFlushState, .refl _⟩
  all_goals exact ⟨rfl, fun _ => rfl, .refl _⟩

/-- Only the last statement of a run writes a watermark: the end of its range. -/
theorem nextStatement_flushed (stream : StreamIdentity) :
    (run.nextStatement settings s now).2.rawEventFlushState stream = s.rawEventFlushState stream ∨
      ∃ selection batchId exit, run.phase = .advancing selection batchId exit ∧
        stream = run.stream ∧
        (run.nextStatement settings s now).2.rawEventFlushState stream =
          selection.lastEventSeq := by
  unfold nextStatement
  rcases run.phase with _ | lastFlushed | selection | ⟨selection, batchId, plan⟩ |
    ⟨selection, batchId, isLegacyRediagnosis⟩ | ⟨batchId, isLegacyRediagnosis, failure⟩ |
    ⟨selection, batchId, exit⟩ | ⟨selection, batchId, exit⟩ | _ | _
  case failing =>
    have hsessions := (@handleFlushFailure_tables s now batchId isLegacyRediagnosis failure).2.1
    exact .inl (congrArg (fun sessions => ((rowAt StreamSession.stream stream sessions).map
      StreamSession.lastFlushedEventSeq).getD (-1)) hsessions)
  case advancing =>
    by_cases hsame : stream = run.stream
    · refine .inr ⟨selection, batchId, exit, rfl, hsame, ?_⟩
      exact RawEventStore.rawEventFlushState_updateRawEventFlushState.trans (if_pos hsame)
    · exact .inl (RawEventStore.rawEventFlushState_updateRawEventFlushState.trans (if_neg hsame))
  all_goals exact .inl rfl

/-- A run that writes no lower watermark lets none fall. -/
theorem nextStatement_flushed_le
    (h : ∀ selection batchId exit, run.phase = .advancing selection batchId exit →
      s.rawEventFlushState run.stream ≤ selection.lastEventSeq) (stream : StreamIdentity) :
    s.rawEventFlushState stream ≤
      (run.nextStatement settings s now).2.rawEventFlushState stream := by
  rcases @nextStatement_flushed settings s run now stream with hsame | ⟨selection, batchId, exit,
    hphase, rfl, hwritten⟩
  · exact hsame.ge
  · rw [hwritten]
    exact h selection batchId exit hphase

end FlushRun

end Codemem

import Codemem.RawEvents.Batches

/-!
# The flush watermark

Every event up to the watermark of its stream should lie in a batch that was completed or given up,
and a watermark should never fall.  Two statements of a run that finishes late break this: the
watermark is overwritten without a look at the stored one, and a failed ingest call marks its batch
as failed even after another run has settled it.  A run whose late statements meet neither case keeps
both properties.
-/

namespace Codemem

namespace RawEventStore

/-- Every stored event of the stream up to a number lies in a settled batch. -/
def Processed (s : RawEventStore) (stream : StreamIdentity) (upTo : ℤ) : Prop :=
  ∀ event ∈ s.events, event.stream = stream → event.eventSeq ≤ upTo →
    ∃ batch ∈ s.batches, batch.stream = stream ∧ batch.status.isSettled = true ∧
      batch.Covers event.eventSeq

/-- What a selection of a run promises: its end is a received number, and an event up to its end lies
in a settled batch or in its range. -/
def Promises (s : RawEventStore) (stream : StreamIdentity) (selection : FlushSelection) : Prop :=
  selection.lastEventSeq ≤ s.lastReceived stream ∧
    ∀ event ∈ s.events, event.stream = stream → event.eventSeq ≤ selection.lastEventSeq →
      (∃ batch ∈ s.batches, batch.stream = stream ∧ batch.status.isSettled = true ∧
        batch.Covers event.eventSeq) ∨ selection.startEventSeq ≤ event.eventSeq

def HasBatch (s : RawEventStore) (stream : StreamIdentity) (selection : FlushSelection)
    (batchId : ℕ) (property : BatchStatus → Prop) : Prop :=
  ∃ batch ∈ s.batches, batch.id = batchId ∧
    batch.key = (stream, selection.startEventSeq, selection.lastEventSeq, extractorVersion) ∧
      property batch.status

/-- What the tables can do without taking a promise back: new events stand above the received
numbers, and settled batches stay settled. -/
structure Progresses (s s' : RawEventStore) : Prop where
  batches : BatchesStep s.batches s'.batches
  settled : KeepsSettled s.batches s'.batches
  received : ∀ stream, s.lastReceived stream ≤ s'.lastReceived stream
  event : ∀ event ∈ s'.events, event ∈ s.events ∨ s.lastReceived event.stream < event.eventSeq

variable {s s' : RawEventStore} {stream : StreamIdentity} {selection : FlushSelection}
  {batchId : ℕ}

lemma Captures.progresses (h : Captures s s') : Progresses s s' where
  batches := h.batches ▸ .refl _
  settled := fun batch hbatch hsettled => ⟨batch, h.batches ▸ hbatch, rfl, rfl, hsettled⟩
  received := h.received
  event := fun event hevent => (h.event event hevent).imp_right And.left

namespace Progresses

lemma settledOver (h : Progresses s s') {seq : ℤ}
    (hbatch : ∃ batch ∈ s.batches, batch.stream = stream ∧ batch.status.isSettled = true ∧
      batch.Covers seq) :
    ∃ batch ∈ s'.batches, batch.stream = stream ∧ batch.status.isSettled = true ∧
      batch.Covers seq := by
  obtain ⟨batch, hbatch, rfl, hsettled, hstart, hend⟩ := hbatch
  obtain ⟨batch', hbatch', -, hkey, hsettled'⟩ := h.settled batch hbatch hsettled
  simp only [FlushBatch.key, Prod.mk.injEq] at hkey
  refine ⟨batch', hbatch', hkey.1, hsettled', ?_, ?_⟩
  · rw [hkey.2.1]
    exact hstart
  · rw [hkey.2.2.1]
    exact hend

lemma processed (h : Progresses s s') {upTo : ℤ} (hle : upTo ≤ s.lastReceived stream)
    (hprocessed : s.Processed stream upTo) : s'.Processed stream upTo := by
  intro event hevent hstream hseq
  rcases h.event event hevent with hold | hnew
  · exact h.settledOver (hprocessed event hold hstream hseq)
  · rw [hstream] at hnew
    omega

lemma promises (h : Progresses s s') (hpromise : s.Promises stream selection) :
    s'.Promises stream selection := by
  obtain ⟨hle, hcovered⟩ := hpromise
  refine ⟨hle.trans (h.received stream), fun event hevent hstream hseq => ?_⟩
  rcases h.event event hevent with hold | hnew
  · exact (hcovered event hold hstream hseq).imp_left h.settledOver
  · rw [hstream] at hnew
    omega

lemma hasBatch (h : Progresses s s')
    (hbatch : s.HasBatch stream selection batchId fun _ => True) :
    s'.HasBatch stream selection batchId fun _ => True := by
  obtain ⟨batch, hmem, hid, hkey, -⟩ := hbatch
  obtain ⟨batch', hmem', hid', hkey'⟩ := h.batches.kept hmem
  exact ⟨batch', hmem', hid'.trans hid, hkey'.trans hkey, trivial⟩

lemma hasSettledBatch (h : Progresses s s')
    (hbatch : s.HasBatch stream selection batchId fun status => status.isSettled = true) :
    s'.HasBatch stream selection batchId fun status => status.isSettled = true := by
  obtain ⟨batch, hmem, hid, hkey, hsettled⟩ := hbatch
  obtain ⟨batch', hmem', hid', hkey', hsettled'⟩ := h.settled batch hmem hsettled
  exact ⟨batch', hmem', hid'.trans hid, hkey'.trans hkey, hsettled'⟩

end Progresses

lemma Promises.processed (hpromise : s.Promises stream selection)
    (hbatch : s.HasBatch stream selection batchId fun status => status.isSettled = true) :
    s.Processed stream selection.lastEventSeq := by
  intro event hevent hstream hseq
  rcases hpromise.2 event hevent hstream hseq with hcovered | hstart
  · exact hcovered
  · obtain ⟨batch, hmem, -, hkey, hsettled⟩ := hbatch
    simp only [FlushBatch.key, Prod.mk.injEq] at hkey
    refine ⟨batch, hmem, hkey.1, hsettled, ?_, ?_⟩
    · rw [hkey.2.1]
      exact hstart
    · rw [hkey.2.2.1]
      exact hseq

end RawEventStore

/-- What a run may rely on where it stands. -/
def FlushRun.Relies (s : RawEventStore) (run : FlushRun) : Prop :=
  match run.phase with
  | .watermarkRead lastFlushed =>
    lastFlushed ≤ s.lastReceived run.stream ∧ s.Processed run.stream lastFlushed
  | .selected selection => s.Promises run.stream selection
  | .claiming selection batchId _ | .ingesting selection batchId _
  | .settling selection batchId _ =>
    s.Promises run.stream selection ∧ s.HasBatch run.stream selection batchId fun _ => True
  | .advancing selection batchId _ =>
    s.Promises run.stream selection ∧
      s.HasBatch run.stream selection batchId fun status => status.isSettled = true
  | _ => True

lemma FlushRun.Relies.progress {s s' : RawEventStore} {run : FlushRun} (h : run.Relies s)
    (hprogress : s.Progresses s') : run.Relies s' := by
  obtain ⟨stream, maxEvents, throughEventSeq, phase⟩ := run
  rcases phase with _ | _ | _ | _ | _ | _ | _ | _ | _ | _
  case watermarkRead => exact ⟨h.1.trans (hprogress.received stream), hprogress.processed h.1 h.2⟩
  case selected => exact hprogress.promises h
  case claiming => exact ⟨hprogress.promises h.1, hprogress.hasBatch h.2⟩
  case ingesting => exact ⟨hprogress.promises h.1, hprogress.hasBatch h.2⟩
  case settling => exact ⟨hprogress.promises h.1, hprogress.hasBatch h.2⟩
  case advancing => exact ⟨hprogress.promises h.1, hprogress.hasSettledBatch h.2⟩
  all_goals trivial

namespace FlushRun

variable {settings : FlushSettings} {s : RawEventStore} {run : FlushRun} {now : String}

lemma handleFlushFailure_keepsSettled {batchId : ℕ} {isLegacyRediagnosis : Bool}
    {failure : IngestFailure} (h : ∀ details, failure = .other details →
      ∀ batch ∈ s.batches, batch.id = batchId → batch.status.isSettled = false) :
    KeepsSettled s.batches
      (handleFlushFailure s batchId isLegacyRediagnosis now failure).2.batches := by
  rcases failure with _ | ⟨code, details⟩ | details
  · exact (RawEventStore.releaseRawEventFlushBatch_spec _ now).2
  · exact (RawEventStore.releaseRawEventFlushBatch_spec code now).2
  · exact (RawEventStore.recordRawEventFlushBatchFailure_spec _ _ _ now).2 (h details rfl)

lemma nextStatement_progresses (h : ∀ batchId legacy details,
      run.phase = .failing batchId legacy (.other details) →
        ∀ batch ∈ s.batches, batch.id = batchId → batch.status.isSettled = false) :
    s.Progresses (run.nextStatement settings s now).2 := by
  obtain ⟨hevents, hreceived, hbatches⟩ := @nextStatement_tables settings s run now
  refine ⟨hbatches, ?_, fun stream => (hreceived stream).ge, fun event hevent => ?_⟩
  · obtain ⟨stream, maxEvents, throughEventSeq, phase⟩ := run
    have hrefl : KeepsSettled s.batches s.batches :=
      fun batch hbatch hsettled => ⟨batch, hbatch, rfl, rfl, hsettled⟩
    rcases phase with _ | lastFlushed | selection | ⟨selection, batchId, plan⟩ |
      ⟨selection, batchId, legacy⟩ | ⟨batchId, legacy, failure⟩ |
      ⟨selection, batchId, exit⟩ | ⟨selection, batchId, exit⟩ | _ | _
    case selected => exact (RawEventStore.getOrCreateRawEventFlushBatch_spec _ _ _ _ now).2.1
    case claiming => exact (RawEventStore.claimRawEventFlushBatch_spec now).2
    case failing =>
      refine handleFlushFailure_keepsSettled fun details hfailure => ?_
      exact h batchId legacy details (by rw [hfailure])
    case settling =>
      exact (RawEventStore.updateRawEventFlushBatchStatus_spec exit.isSettled_status now).2.1
    all_goals exact hrefl
  · rw [hevents] at hevent
    exact .inl hevent

lemma promises_of_selection {stream : StreamIdentity} {lastFlushed : ℤ}
    {maxEvents throughEventSeq : Option ℤ} {selection : FlushSelection}
    (hreceived : ∀ event ∈ s.events, event.eventSeq ≤ s.lastReceived event.stream)
    (hprocessed : s.Processed stream lastFlushed)
    (h : flushSelection (oneHostGeneration
      (s.rawEventsSinceBySeq stream lastFlushed maxEvents throughEventSeq)) = some selection) :
    s.Promises stream selection := by
  obtain ⟨-, ⟨last, hlast, hstream, hseq⟩, hgap⟩ := flushSelection_spec h
  constructor
  · have hle := hreceived last hlast
    rw [hstream, hseq] at hle
    exact hle
  · intro event hevent hevStream hle
    by_cases hold : event.eventSeq ≤ lastFlushed
    · exact .inl (hprocessed event hevent hevStream hold)
    · exact .inr (hgap event hevent hevStream (not_le.mp hold) hle)

lemma afterLookup_cases (stream : StreamIdentity) (selection : FlushSelection)
    (batch : FlushBatch) :
    (batch.status = .completed ∧ settings.afterLookup stream selection batch =
        .advancing selection batch.id .alreadyCompleted) ∨
      (∃ plan, settings.afterLookup stream selection batch = .claiming selection batch.id plan) ∨
      ∃ exit, settings.afterLookup stream selection batch = .settling selection batch.id exit := by
  unfold FlushSettings.afterLookup
  split_ifs with hcompleted
  · exact .inl ⟨hcompleted, rfl⟩
  · exact .inr (.inl ⟨.contextOnly, rfl⟩)
  · exact .inr (.inl ⟨.ingest true, rfl⟩)
  · exact .inr (.inr ⟨_, rfl⟩)
  · exact .inr (.inl ⟨.ingest false, rfl⟩)

lemma afterClaim_cases (selection : FlushSelection) (batchId : ℕ) (plan : ClaimPlan)
    (claimed : Bool) :
    settings.afterClaim selection batchId plan claimed = .returned 0 0 ∨
      (∃ exit, settings.afterClaim selection batchId plan claimed =
        .settling selection batchId exit) ∨
      ∃ legacy, settings.afterClaim selection batchId plan claimed =
        .ingesting selection batchId legacy := by
  unfold FlushSettings.afterClaim
  rcases claimed with _ | _
  · exact .inl rfl
  · rcases plan with _ | legacy
    · exact .inr (.inl ⟨.contextOnly, rfl⟩)
    · rw [if_pos rfl]
      dsimp only
      split_ifs
      · exact .inr (.inl ⟨.lowSignal, rfl⟩)
      · exact .inr (.inr ⟨legacy, rfl⟩)

lemma relies_afterLookup {stream : StreamIdentity} {maxEvents throughEventSeq : Option ℤ}
    {selection : FlushSelection} (hpromise : s.Promises stream selection) :
    Relies (s.getOrCreateRawEventFlushBatch stream selection.startEventSeq selection.lastEventSeq
        extractorVersion now).2
      ⟨stream, maxEvents, throughEventSeq, settings.afterLookup stream selection
        (s.getOrCreateRawEventFlushBatch stream selection.startEventSeq selection.lastEventSeq
          extractorVersion now).1⟩ := by
  obtain ⟨-, -, batch, hbatch, hid, hkey, hstatus⟩ :=
    @RawEventStore.getOrCreateRawEventFlushBatch_spec s stream selection.startEventSeq
      selection.lastEventSeq extractorVersion now
  have hprogress := @nextStatement_progresses settings s
    ⟨stream, maxEvents, throughEventSeq, .selected selection⟩ now (fun _ _ _ h => by cases h)
  have hkept := hprogress.promises hpromise
  rcases @afterLookup_cases settings stream selection
      (s.getOrCreateRawEventFlushBatch stream selection.startEventSeq selection.lastEventSeq
        extractorVersion now).1 with ⟨hcompleted, hphase⟩ | ⟨plan, hphase⟩ | ⟨exit, hphase⟩
  · rw [hphase]
    rw [hcompleted] at hstatus
    refine ⟨hkept, batch, hbatch, hid, hkey, ?_⟩
    rw [BatchStatus.eq_completed_of_canonical hstatus]
    rfl
  · rw [hphase]
    exact ⟨hkept, batch, hbatch, hid, hkey, trivial⟩
  · rw [hphase]
    exact ⟨hkept, batch, hbatch, hid, hkey, trivial⟩

/-- The next phase of a run may rely on the tables behind its statement. -/
lemma relies_nextStatement
    (hreceived : ∀ event ∈ s.events, event.eventSeq ≤ s.lastReceived event.stream)
    (hflushed : s.rawEventFlushState run.stream ≤ s.lastReceived run.stream)
    (hsound : s.Processed run.stream (s.rawEventFlushState run.stream)) (h : run.Relies s)
    (hprogress : s.Progresses (run.nextStatement settings s now).2) :
    Relies (run.nextStatement settings s now).2
      { run with phase := (run.nextStatement settings s now).1 } := by
  obtain ⟨stream, maxEvents, throughEventSeq, phase⟩ := run
  rcases phase with _ | lastFlushed | selection | ⟨selection, batchId, plan⟩ |
    ⟨selection, batchId, legacy⟩ | ⟨batchId, legacy, failure⟩ |
    ⟨selection, batchId, exit⟩ | ⟨selection, batchId, exit⟩ | _ | _
  case called => exact ⟨hflushed, hsound⟩
  case watermarkRead =>
    change Relies s ⟨stream, maxEvents, throughEventSeq, Option.elim _ _ _⟩
    cases hselection : flushSelection (oneHostGeneration
      (s.rawEventsSinceBySeq stream lastFlushed maxEvents throughEventSeq)) with
    | none => trivial
    | some selection => exact promises_of_selection hreceived h.2 hselection
  case selected => exact relies_afterLookup h
  case claiming =>
    have hkept := hprogress.promises h.1
    have hbatch := hprogress.hasBatch h.2
    rcases @afterClaim_cases settings selection batchId plan
        (s.claimRawEventFlushBatch batchId now).1 with hphase | ⟨exit, hphase⟩ | ⟨legacy, hphase⟩
    · change Relies _ ⟨stream, maxEvents, throughEventSeq, settings.afterClaim _ _ _ _⟩
      rw [hphase]
      trivial
    · change Relies _ ⟨stream, maxEvents, throughEventSeq, settings.afterClaim _ _ _ _⟩
      rw [hphase]
      exact ⟨hkept, hbatch⟩
    · change Relies _ ⟨stream, maxEvents, throughEventSeq, settings.afterClaim _ _ _ _⟩
      rw [hphase]
      exact ⟨hkept, hbatch⟩
  case ingesting => exact h
  case failing =>
    rcases failure with _ | ⟨code, details⟩ | details
    · trivial
    · change Relies _ ⟨stream, maxEvents, throughEventSeq, ite _ _ _⟩
      split_ifs
      · trivial
      · trivial
    · trivial
  case settling =>
    obtain ⟨batch, hbatch, hid, hkey, -⟩ := h.2
    obtain ⟨batch', hbatch', hid', hkey', hsettled⟩ :=
      (RawEventStore.updateRawEventFlushBatchStatus_spec exit.isSettled_status now).2.2 batch
        hbatch hid
    exact ⟨hprogress.promises h.1, batch', hbatch', hid'.trans hid, hkey'.trans hkey, hsettled⟩
  all_goals trivial

end FlushRun

namespace RawEventPipeline

/-- Every stored event up to the watermark of its stream lies in a batch that was completed or given
up. -/
def WatermarkSound (sys : RawEventPipeline) : Prop :=
  ∀ stream, sys.store.Processed stream (sys.store.rawEventFlushState stream)

/-- No watermark falls from one state to the other. -/
def WatermarksRise (sys sys' : RawEventPipeline) : Prop :=
  ∀ stream, sys.store.rawEventFlushState stream ≤ sys'.store.rawEventFlushState stream

variable (settings : FlushSettings)

/-- The statement of a run is not too late: a watermark is written where the stored one has not
passed the end of the range, and a failure is recorded on a batch that was not settled meanwhile. -/
def InTime (sys : RawEventPipeline) (run : FlushRun) : Prop :=
  match run.phase with
  | .advancing selection _ _ =>
    sys.store.rawEventFlushState run.stream ≤ selection.lastEventSeq
  | .failing batchId _ (.other _) =>
    ∀ batch ∈ sys.store.batches, batch.id = batchId → batch.status.isSettled = false
  | _ => True

instance (sys : RawEventPipeline) : (run : FlushRun) → Decidable (sys.InTime run)
  | ⟨stream, _, _, .advancing selection _ _⟩ =>
    inferInstanceAs (Decidable (sys.store.rawEventFlushState stream ≤ selection.lastEventSeq))
  | ⟨_, _, _, .failing batchId _ (.other _)⟩ =>
    inferInstanceAs (Decidable
      (∀ batch ∈ sys.store.batches, batch.id = batchId → batch.status.isSettled = false))
  | ⟨_, _, _, .failing _ _ .scopeAuthority⟩ | ⟨_, _, _, .failing _ _ (.auth _ _)⟩
  | ⟨_, _, _, .called⟩ | ⟨_, _, _, .watermarkRead _⟩ | ⟨_, _, _, .selected _⟩
  | ⟨_, _, _, .claiming _ _ _⟩ | ⟨_, _, _, .ingesting _ _ _⟩ | ⟨_, _, _, .settling _ _ _⟩
  | ⟨_, _, _, .returned _ _⟩ | ⟨_, _, _, .threw⟩ => .isTrue trivial

def StepInTime (sys : RawEventPipeline) : PipelineAction → Prop
  | .advance i _ => ∀ run ∈ sys.runs[i]?, sys.InTime run
  | _ => True

instance (sys : RawEventPipeline) : (action : PipelineAction) → Decidable (sys.StepInTime action)
  | .advance i _ => inferInstanceAs (Decidable (∀ run ∈ sys.runs[i]?, sys.InTime run))
  | .recordRawEvent _ _ _ | .recordRawEventsBatch _ _ | .ingestRawEvents _
  | .purgeRawEvents _ _ | .markStuckRawEventBatchesAsError _ _ _ | .flushRawEvents _ _ _ _
  | .ingestReturns _ _ => .isTrue trivial

/-- The invariant of runs whose late statements are in time. -/
structure WatermarkInvariant (sys : RawEventPipeline) : Prop where
  uniqueIds : UniqueBatchIds sys.store.batches
  received : ∀ event ∈ sys.store.events, event.eventSeq ≤ sys.store.lastReceived event.stream
  flushedReceived : ∀ stream,
    sys.store.rawEventFlushState stream ≤ sys.store.lastReceived stream
  sound : sys.WatermarkSound
  relies : ∀ run ∈ sys.runs, run.Relies sys.store

namespace WatermarkInvariant

variable {settings} {sys : RawEventPipeline}

lemma initial : WatermarkInvariant RawEventPipeline.initial where
  uniqueIds := fun _ h => absurd h List.not_mem_nil
  received := fun _ h => absurd h List.not_mem_nil
  flushedReceived := fun _ => le_rfl
  sound := fun _ _ h => absurd h List.not_mem_nil
  relies := fun _ h => absurd h List.not_mem_nil

lemma withStore (h : WatermarkInvariant sys) {s : RawEventStore}
    (hprogress : sys.store.Progresses s)
    (hreceived : ∀ event ∈ s.events, event.eventSeq ≤ s.lastReceived event.stream)
    (hflushed : ∀ stream, s.rawEventFlushState stream = sys.store.rawEventFlushState stream) :
    WatermarkInvariant { sys with store := s } where
  uniqueIds := hprogress.batches.uniqueIds h.uniqueIds
  received := hreceived
  flushedReceived := by
    intro stream
    have hle := (h.flushedReceived stream).trans (hprogress.received stream)
    rw [← hflushed stream] at hle
    exact hle
  sound := by
    intro stream
    have hprocessed := hprogress.processed (h.flushedReceived stream) (h.sound stream)
    rw [← hflushed stream] at hprocessed
    exact hprocessed
  relies := fun run hrun => (h.relies run hrun).progress hprogress

lemma captured (h : WatermarkInvariant sys) {s : RawEventStore}
    (hcaptures : RawEventStore.Captures sys.store s) :
    WatermarkInvariant { sys with store := s } := by
  refine h.withStore hcaptures.progresses (fun event hevent => ?_) hcaptures.flushed
  rcases hcaptures.event event hevent with hold | ⟨-, hle⟩
  · exact (h.received event hold).trans (hcaptures.received event.stream)
  · exact hle

lemma withPhase (h : WatermarkInvariant sys) {i : ℕ} {run : FlushRun} {phase : FlushPhase}
    (hrun : sys.runs[i]? = some run)
    (hrelies : FlushRun.Relies sys.store { run with phase }) :
    WatermarkInvariant (sys.setPhase i phase) where
  uniqueIds := h.uniqueIds
  received := h.received
  flushedReceived := h.flushedReceived
  sound := h.sound
  relies := by
    intro run' hrun'
    obtain ⟨j, hj⟩ := List.mem_iff_getElem?.mp hrun'
    rcases runs_setPhase_cases hrun hj with ⟨-, rfl⟩ | ⟨-, hold⟩
    · exact hrelies
    · exact h.relies run' (List.mem_of_getElem? hold)

/-- A run executes a statement in time. -/
lemma advanceRun (h : WatermarkInvariant sys) {i : ℕ} {run : FlushRun} {now : String}
    (hrun : sys.runs[i]? = some run) (hinTime : sys.InTime run) :
    WatermarkInvariant (sys.advanceRun settings i now run) ∧
      sys.WatermarksRise (sys.advanceRun settings i now run) := by
  have hmem : run ∈ sys.runs := List.mem_of_getElem? hrun
  have hprogress := @FlushRun.nextStatement_progresses settings sys.store run now
    (fun batchId legacy details hphase => by
      unfold InTime at hinTime
      rw [hphase] at hinTime
      exact hinTime)
  have hrelies := FlushRun.relies_nextStatement h.received (h.flushedReceived run.stream)
    (h.sound run.stream) (h.relies run hmem) hprogress
  obtain ⟨hevents, hreceived, -⟩ := @FlushRun.nextStatement_tables settings sys.store run now
  have hrise := @FlushRun.nextStatement_flushed_le settings sys.store run now
    (fun selection batchId exit hphase => by
      unfold InTime at hinTime
      rw [hphase] at hinTime
      exact hinTime)
  refine ⟨?_, hrise⟩
  have hstore : WatermarkInvariant
      { sys with store := (run.nextStatement settings sys.store now).2 } := by
    constructor
    · exact hprogress.batches.uniqueIds h.uniqueIds
    · intro event hevent
      rw [hevents] at hevent
      rw [hreceived]
      exact h.received event hevent
    · intro stream
      rw [hreceived]
      rcases @FlushRun.nextStatement_flushed settings sys.store run now stream with hsame |
        ⟨selection, batchId, exit, hphase, rfl, hwritten⟩
      · rw [hsame]
        exact h.flushedReceived stream
      · have hold := h.relies run hmem
        unfold FlushRun.Relies at hold
        rw [hphase] at hold
        rw [hwritten]
        exact hold.1.1
    · intro stream
      rcases @FlushRun.nextStatement_flushed settings sys.store run now stream with hsame |
        ⟨selection, batchId, exit, hphase, rfl, hwritten⟩
      · rw [hsame]
        exact hprogress.processed (h.flushedReceived stream) (h.sound stream)
      · -- the last statement of a run writes the end of a settled range
        have hold := h.relies run hmem
        unfold FlushRun.Relies at hold
        rw [hphase] at hold
        rw [hwritten]
        exact hprogress.processed hold.1.1 (hold.1.processed hold.2)
    · exact fun run' hrun' => (h.relies run' hrun').progress hprogress
  exact hstore.withPhase hrun hrelies

lemma endIngest (h : WatermarkInvariant sys) {i : ℕ} {run : FlushRun}
    (hrun : sys.runs[i]? = some run) (failure : Option IngestFailure) :
    WatermarkInvariant (sys.endIngest i failure run) := by
  have hrelies := h.relies run (List.mem_of_getElem? hrun)
  unfold RawEventPipeline.endIngest
  split
  case h_1 selection batchId legacy hphase =>
    unfold FlushRun.Relies at hrelies
    rw [hphase] at hrelies
    have hsettling : WatermarkInvariant
        (sys.setPhase i (.settling selection batchId .ingested)) := h.withPhase hrun hrelies
    exact ⟨hsettling.uniqueIds, hsettling.received, hsettling.flushedReceived, hsettling.sound,
      hsettling.relies⟩
  case h_2 => exact h.withPhase hrun trivial
  case h_3 => exact h

lemma startRun (h : WatermarkInvariant sys) (opencodeSessionId : String) (source : Option String)
    (maxEvents throughEventSeq : Option ℤ) :
    WatermarkInvariant (sys.startRun opencodeSessionId source maxEvents throughEventSeq) := by
  unfold RawEventPipeline.startRun
  split
  case h_1 =>
    refine ⟨h.uniqueIds, h.received, h.flushedReceived, h.sound, fun run hrun => ?_⟩
    rcases List.mem_append.mp hrun with hold | hnew
    · exact h.relies run hold
    · rw [List.mem_singleton.mp hnew]
      trivial
  case h_2 => exact h

lemma step (h : WatermarkInvariant sys) (action : PipelineAction)
    (hinTime : sys.StepInTime action) :
    WatermarkInvariant (sys.step settings action) ∧
      sys.WatermarksRise (sys.step settings action) := by
  have hcase := stepCase settings sys action
  generalize sys.step settings action = sys' at hcase
  have hstay : sys.WatermarksRise sys := fun _ => le_rfl
  cases hcase with
  | captured s hcaptures =>
    exact ⟨h.captured hcaptures, fun stream => (hcaptures.flushed stream).ge⟩
  | recovered olderThanIso limit now =>
    obtain ⟨hbatches, hsettled⟩ :=
      @RawEventStore.markStuckRawEventBatchesAsError_spec sys.store olderThanIso limit now
    have hprogress : sys.store.Progresses
        (sys.store.markStuckRawEventBatchesAsError olderThanIso limit now) :=
      ⟨hbatches, hsettled h.uniqueIds, fun _ => le_rfl, fun _ hevent => .inl hevent⟩
    exact ⟨h.withStore hprogress h.received fun _ => rfl, hstay⟩
  | called opencodeSessionId source maxEvents throughEventSeq =>
    constructor
    · exact h.startRun opencodeSessionId source maxEvents throughEventSeq
    · unfold RawEventPipeline.startRun
      split
      · exact hstay
      · exact hstay
  | advanced i now run hrun => exact h.advanceRun hrun (hinTime run hrun)
  | ingestEnded i failure run hrun =>
    refine ⟨h.endIngest hrun failure, ?_⟩
    unfold RawEventPipeline.endIngest
    split
    · exact hstay
    · exact hstay
    · exact hstay

end WatermarkInvariant

/-- In every run of the pipeline in which no watermark is written below the stored one, and no
failure is recorded on a batch that was settled meanwhile, the watermarks never fall and every event
up to one lies in a batch that was completed or given up. -/
theorem watermark_sound_of_inTime {actions : List PipelineAction}
    (h : StepsMeet (step settings) StepInTime initial actions) :
    (∀ sys ∈ visited (step settings) initial actions, sys.WatermarkSound) ∧
      (visited (step settings) initial actions).Pairwise WatermarksRise := by
  obtain ⟨hinvariant, hrise⟩ := h.pairwise WatermarkInvariant.initial
    (fun _ _ _ hfirst hsecond stream => (hfirst stream).trans (hsecond stream))
    fun sys action hinTime hsys => hsys.step action hinTime
  exact ⟨fun sys hsys => (hinvariant sys hsys).sound, hrise⟩

/-- Settings under which every selected event is sent to the ingest call. -/
def plainSettings : FlushSettings := ⟨fun _ => false, fun _ => false, fun _ => true, none⟩

/-- An event arrives, is flushed and purged, and a second one is flushed. -/
def flushesInTime : List PipelineAction :=
  [.recordRawEvent "s1" "opencode" ⟨"e0", "user_prompt", [], some 1, none⟩,
    .flushRawEvents "s1" none none none, .advance 0 "t", .advance 0 "t", .advance 0 "t",
    .advance 0 "t", .ingestReturns 0 none, .advance 0 "t", .advance 0 "t",
    .recordRawEvent "s1" "opencode" ⟨"e1", "user_prompt", [], none, none⟩,
    .purgeRawEvents 10 100, .flushRawEvents "s1" none none none, .advance 1 "t", .advance 1 "t",
    .advance 1 "t", .advance 1 "t", .ingestReturns 1 none, .advance 1 "t", .advance 1 "t"]

/-- Flushes in time raise the watermark over both events. -/
theorem watermark_sound_of_serial :
    (flushesInTime.foldl (step plainSettings) initial).store.rawEventFlushState
        ⟨"opencode", "s1"⟩ = 1 ∧
      (∀ sys ∈ visited (step plainSettings) initial flushesInTime, sys.WatermarkSound) ∧
      (visited (step plainSettings) initial flushesInTime).Pairwise WatermarksRise :=
  ⟨by decide, watermark_sound_of_inTime plainSettings (by decide)⟩

/-- A flush of the first event is overtaken by a flush of both. -/
def overtakenFlush : List PipelineAction :=
  [.recordRawEvent "s1" "opencode" ⟨"e0", "user_prompt", [], none, none⟩,
    .recordRawEvent "s1" "opencode" ⟨"e1", "user_prompt", [], none, none⟩,
    .flushRawEvents "s1" none (some 1) none, .advance 0 "t", .advance 0 "t", .advance 0 "t",
    .advance 0 "t", .flushRawEvents "s1" none none none, .advance 1 "t", .advance 1 "t",
    .advance 1 "t", .advance 1 "t", .ingestReturns 1 none, .advance 1 "t", .advance 1 "t",
    .ingestReturns 0 none, .advance 0 "t"]

/-- The overtaken flush writes the end of its own range: the watermark falls from one to zero. -/
theorem watermark_falls :
    ¬ (visited (step plainSettings) initial
      (overtakenFlush ++ [.advance 0 "t"])).Pairwise WatermarksRise := by
  intro h
  have hlast := visited_pairwise_append_right overtakenFlush [.advance 0 "t"] h
  rw [visited_cons, List.pairwise_cons] at hlast
  have hrise := hlast.1 _ (mem_visited_self _ _ _) ⟨"opencode", "s1"⟩
  have hfalls : ¬ (overtakenFlush.foldl (step plainSettings) initial).store.rawEventFlushState
      ⟨"opencode", "s1"⟩ ≤ (step plainSettings (overtakenFlush.foldl (step plainSettings) initial)
        (.advance 0 "t")).store.rawEventFlushState ⟨"opencode", "s1"⟩ := by
    decide
  exact hfalls hrise

end RawEventPipeline

end Codemem

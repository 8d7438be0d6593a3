import Codemem.RawEvents.Capture
import Codemem.Foundation.Trace

/-!
# Flushing raw events

`flushRawEvents` reads the watermark of a stream, selects events above it, gets or creates the batch
of exactly their range, claims it, awaits the extraction and then settles the batch and writes the
watermark.  Several workers do this at once: a run is a control location, each statement on the
tables is one step, and the steps of all runs, the captures and the recovery of stuck batches come in
any order.
-/

namespace Codemem

/-- What `flushRawEvents` asks about the contents of events, and the attempt limit of the
environment. -/
structure FlushSettings where
  isDelegatedBriefOnlyBatch : List RawEvent → Bool
  isTerminalLowSignalSession : List RawEvent → Bool
  hasAssistantMessages : List RawEvent → Bool
  maxFlushAttempts : Option ℤ

/-- `EXTRACTOR_VERSION`. -/
def extractorVersion : String := "raw_events_v1"

/-- `TERMINAL_NO_OUTPUT_MICROBATCH_MAX_EVENTS`. -/
def terminalNoOutputMicrobatchMaxEvents : ℕ := 2

/-- A text that is neither missing nor empty. -/
def isPresentText (text : Option String) : Bool := text.any fun t => !t.toList.isEmpty

def isV2Event (event : RawEvent) : Bool :=
  ((event.payload.get "codemem_host_generation").bind Json.asText) == some "v2"

/-- `oneHostGeneration`: the events before the first change of the host generation. -/
def oneHostGeneration : List RawEvent → List RawEvent
  | [] => []
  | event :: events => (event :: events).takeWhile fun e => isV2Event e == isV2Event event

/-- The events that a run took up, and their range. -/
structure FlushSelection where
  events : List RawEvent
  startEventSeq : ℤ
  lastEventSeq : ℤ

/-- The range of selected events; without events there is nothing to flush. -/
def flushSelection (events : List RawEvent) : Option FlushSelection :=
  match events.map RawEvent.eventSeq with
  | [] => none
  | first :: rest => some ⟨events, rest.foldl min first, rest.foldl max first⟩

/-- What an ingest failure leaves behind. -/
structure FailureDetails where
  errorType : String
  observerFailure : Bool
  isNonErrorRejection : Bool
  observerErrorCode : Option String
  observerErrorMessage : Option String

/-- How `ingest` fails: without authority over the scope, without credentials, or otherwise. -/
inductive IngestFailure where
  | scopeAuthority
  | auth (code : String) (details : FailureDetails)
  | other (details : FailureDetails)

def normalizedFlushErrorType (details : FailureDetails) (isLegacyRediagnosis : Bool) : String :=
  let type :=
    if details.errorType = "Error" ∧ (details.observerFailure ∨ details.isNonErrorRejection) then
      "RawEventObserverCallError"
    else details.errorType
  if type = "Error" ∧ isLegacyRediagnosis then "RawEventLegacyFailure:rediagnosis_failed"
  else type

/-- What a run claims its batch for. -/
inductive ClaimPlan where
  | contextOnly
  | ingest (isLegacyRediagnosis : Bool)
  deriving DecidableEq, Repr

/-- The ways of `flushRawEvents` to the watermark. -/
inductive FlushExit where
  | alreadyCompleted
  | contextOnly
  | abandoned (completedNoOp : Bool)
  | lowSignal
  | ingested
  deriving DecidableEq, Repr

namespace FlushExit

def status : FlushExit → BatchStatus
  | abandoned false => .gaveUp
  | _ => .completed

/-- The number of flushed events that is reported. -/
def flushed (count : ℕ) : FlushExit → ℕ
  | alreadyCompleted | abandoned false => 0
  | _ => count

@[simp] lemma isSettled_status (exit : FlushExit) : exit.status.isSettled = true := by
  rcases exit with _ | _ | _ | _ | _
  case abandoned completedNoOp => cases completedNoOp <;> rfl
  all_goals rfl

end FlushExit

/-- Where a run of `flushRawEvents` stands. -/
inductive FlushPhase where
  | called
  | watermarkRead (lastFlushed : ℤ)
  | selected (selection : FlushSelection)
  | claiming (selection : FlushSelection) (batchId : ℕ) (plan : ClaimPlan)
  | ingesting (selection : FlushSelection) (batchId : ℕ) (isLegacyRediagnosis : Bool)
  | failing (batchId : ℕ) (isLegacyRediagnosis : Bool) (failure : IngestFailure)
  | settling (selection : FlushSelection) (batchId : ℕ) (exit : FlushExit)
  | advancing (selection : FlushSelection) (batchId : ℕ) (exit : FlushExit)
  | returned (flushed updatedState : ℕ)
  | threw

/-- A call of `flushRawEvents`. -/
structure FlushRun where
  stream : StreamIdentity
  maxEvents : Option ℤ
  throughEventSeq : Option ℤ
  phase : FlushPhase

namespace FlushSettings

variable (settings : FlushSettings)

/-- The attempt limit: five, unless the environment says otherwise. -/
def effectiveMax : ℤ :=
  match settings.maxFlushAttempts with
  | some n => if 0 < n then n else 5
  | none => 5

def isTerminalNoOutputMicrobatch (events : List RawEvent) (batch : FlushBatch) : Bool :=
  decide (events.length ≤ terminalNoOutputMicrobatchMaxEvents) &&
    !(isPresentText batch.observerErrorCode || isPresentText batch.observerErrorMessage) &&
    batch.errorType == some "RawEventObserverOutputError:no_processable_input" &&
    !settings.hasAssistantMessages events

def shouldRediagnoseLegacyNoOutputMicrobatch (events : List RawEvent) (batch : FlushBatch) :
    Bool :=
  decide (events.length ≤ terminalNoOutputMicrobatchMaxEvents) &&
    batch.errorType == some "Error" && !settings.hasAssistantMessages events

/-- The next step once the batch of the range is known. -/
def afterLookup (stream : StreamIdentity) (selection : FlushSelection) (batch : FlushBatch) :
    FlushPhase :=
  if batch.status = .completed then .advancing selection batch.id .alreadyCompleted
  else if stream.source = "opencode" ∧ settings.isDelegatedBriefOnlyBatch selection.events then
    .claiming selection batch.id .contextOnly
  else if settings.effectiveMax ≤ batch.attemptCount ∧
      (batch.status = .failed ∨ batch.status = .error) then
    if settings.shouldRediagnoseLegacyNoOutputMicrobatch selection.events batch then
      .claiming selection batch.id (.ingest true)
    else
      .settling selection batch.id
        (.abandoned (settings.isTerminalNoOutputMicrobatch selection.events batch))
  else .claiming selection batch.id (.ingest false)

/-- The next step once the claim was tried. -/
def afterClaim (selection : FlushSelection) (batchId : ℕ) (plan : ClaimPlan) (claimed : Bool) :
    FlushPhase :=
  if claimed then
    match plan with
    | .contextOnly => .settling selection batchId .contextOnly
    | .ingest isLegacyRediagnosis =>
      if settings.isTerminalLowSignalSession selection.events then
        .settling selection batchId .lowSignal
      else .ingesting selection batchId isLegacyRediagnosis
  else .returned 0 0

end FlushSettings

namespace FlushRun

variable (settings : FlushSettings)

/-- `handleFlushFailure`: a failure without credentials that releases nothing is recorded like any
other. -/
def handleFlushFailure (s : RawEventStore) (batchId : ℕ) (isLegacyRediagnosis : Bool)
    (now : String) : IngestFailure → FlushPhase × RawEventStore
  | .scopeAuthority =>
    (.threw, (s.releaseRawEventFlushBatchAfterAuthError batchId "scope_authority" now).2)
  | .auth code details =>
    let released := s.releaseRawEventFlushBatchAfterAuthError batchId code now
    (if released.1 then .threw else .failing batchId isLegacyRediagnosis (.other details),
      released.2)
  | .other details =>
    (.threw, s.recordRawEventFlushBatchFailure batchId
      (normalizedFlushErrorType details isLegacyRediagnosis) details.observerErrorCode
      details.observerErrorMessage now)

/-- The next statement of a run; one that awaits its ingest call, or is over, has none. -/
def nextStatement (s : RawEventStore) (run : FlushRun) (now : String) :
    FlushPhase × RawEventStore :=
  match run.phase with
  | .called => (.watermarkRead (s.rawEventFlushState run.stream), s)
  | .watermarkRead lastFlushed =>
    ((flushSelection (oneHostGeneration
      (s.rawEventsSinceBySeq run.stream lastFlushed run.maxEvents run.throughEventSeq))).elim
        (.returned 0 0) .selected, s)
  | .selected selection =>
    let found := s.getOrCreateRawEventFlushBatch run.stream selection.startEventSeq
      selection.lastEventSeq extractorVersion now
    (settings.afterLookup run.stream selection found.1, found.2)
  | .claiming selection batchId plan =>
    let claim := s.claimRawEventFlushBatch batchId now
    (settings.afterClaim selection batchId plan claim.1, claim.2)
  | .failing batchId isLegacyRediagnosis failure =>
    handleFlushFailure s batchId isLegacyRediagnosis now failure
  | .settling selection batchId exit =>
    (.advancing selection batchId exit, s.updateRawEventFlushBatchStatus batchId exit.status now)
  | .advancing selection _ exit =>
    (.returned (exit.flushed selection.events.length) 1,
      s.updateRawEventFlushState run.stream selection.lastEventSeq)
  | phase => (phase, s)

end FlushRun

/-- The tables, the calls of `flushRawEvents` so far, and the batches whose ingest call has
succeeded. -/
structure RawEventPipeline where
  store : RawEventStore
  runs : List FlushRun
  extracted : List ℕ

/-- A step of the pipeline; the steps of a run name it by its position. -/
inductive PipelineAction where
  | recordRawEvent (opencodeSessionId source : String) (event : CapturedEvent)
  | recordRawEventsBatch (opencodeSessionId : String) (events : List CapturedEvent)
  | ingestRawEvents (request : NormalizedRequest)
  | purgeRawEvents (maxAgeMs nowMs : ℤ)
  | markStuckRawEventBatchesAsError (olderThanIso : String) (limit : ℤ) (now : String)
  | flushRawEvents (opencodeSessionId : String) (source : Option String)
      (maxEvents throughEventSeq : Option ℤ)
  /-- A run executes its next statement. -/
  | advance (run : ℕ) (now : String)
  /-- The ingest call that a run awaits returns, or fails. -/
  | ingestReturns (run : ℕ) (failure : Option IngestFailure)

namespace RawEventPipeline

variable (settings : FlushSettings)

/-- A new store and no call. -/
def initial : RawEventPipeline := ⟨.empty, [], []⟩

/-- A transaction that throws leaves the tables alone. -/
def commit (sys : RawEventPipeline) (result : Except String RawEventStore) : RawEventPipeline :=
  match result with
  | .ok store => { sys with store }
  | .error _ => sys

/-- A run enters a phase. -/
def setPhase (sys : RawEventPipeline) (i : ℕ) (phase : FlushPhase) : RawEventPipeline :=
  { sys with runs := sys.runs.modify i fun run => { run with phase } }

/-- A call that names no stream throws. -/
def startRun (sys : RawEventPipeline) (opencodeSessionId : String) (source : Option String)
    (maxEvents throughEventSeq : Option ℤ) : RawEventPipeline :=
  match normalizeStreamIdentity (source.getD "opencode") opencodeSessionId with
  | .ok stream =>
    { sys with runs := sys.runs ++ [⟨stream, maxEvents, throughEventSeq, .called⟩] }
  | .error _ => sys

/-- A run executes its next statement. -/
def advanceRun (sys : RawEventPipeline) (i : ℕ) (now : String) (run : FlushRun) :
    RawEventPipeline :=
  let next := run.nextStatement settings sys.store now
  { sys.setPhase i next.1 with store := next.2 }

/-- The ingest call of a run is over. -/
def endIngest (sys : RawEventPipeline) (i : ℕ) (failure : Option IngestFailure)
    (run : FlushRun) : RawEventPipeline :=
  match run.phase, failure with
  | .ingesting selection batchId _, none =>
    { sys.setPhase i (.settling selection batchId .ingested) with
      extracted := sys.extracted ++ [batchId] }
  | .ingesting _ batchId isLegacyRediagnosis, some failure =>
    sys.setPhase i (.failing batchId isLegacyRediagnosis failure)
  | _, _ => sys

def step (sys : RawEventPipeline) : PipelineAction → RawEventPipeline
  | .recordRawEvent opencodeSessionId source event =>
    sys.commit ((sys.store.recordRawEvent opencodeSessionId source event).map Prod.snd)
  | .recordRawEventsBatch opencodeSessionId events =>
    sys.commit ((sys.store.recordRawEventsBatch opencodeSessionId events).map Prod.snd)
  | .ingestRawEvents request => sys.commit (sys.store.ingestRawEvents request)
  | .purgeRawEvents maxAgeMs nowMs =>
    { sys with store := sys.store.purgeRawEvents maxAgeMs nowMs }
  | .markStuckRawEventBatchesAsError olderThanIso limit now =>
    { sys with store := sys.store.markStuckRawEventBatchesAsError olderThanIso limit now }
  | .flushRawEvents opencodeSessionId source maxEvents throughEventSeq =>
    sys.startRun opencodeSessionId source maxEvents throughEventSeq
  | .advance i now => (sys.runs[i]?).elim sys (sys.advanceRun settings i now)
  | .ingestReturns i failure => (sys.runs[i]?).elim sys (sys.endIngest i failure)

section Phases

variable {sys : RawEventPipeline} {i j : ℕ} {run run' : FlushRun} {phase : FlushPhase}

lemma runs_setPhase_self (h : sys.runs[i]? = some run) :
    (sys.setPhase i phase).runs[i]? = some { run with phase } := by
  simp [setPhase, h]

lemma runs_setPhase_of_ne (h : j ≠ i) : (sys.setPhase i phase).runs[j]? = sys.runs[j]? := by
  simp [setPhase, Ne.symm h]

lemma runs_setPhase_cases (h : sys.runs[i]? = some run)
    (h' : (sys.setPhase i phase).runs[j]? = some run') :
    (j = i ∧ run' = { run with phase }) ∨ (j ≠ i ∧ sys.runs[j]? = some run') := by
  by_cases hj : j = i
  · subst hj
    rw [runs_setPhase_self h] at h'
    exact .inl ⟨rfl, (Option.some.inj h').symm⟩
  · rw [runs_setPhase_of_ne hj] at h'
    exact .inr ⟨hj, h'⟩

end Phases

/-! ### What a step can do -/

/-- The step is a capture, a recovery of stuck batches, a call, or the step of a run. -/
inductive StepCase (sys : RawEventPipeline) : PipelineAction → RawEventPipeline → Prop
  | captured {action : PipelineAction} (s : RawEventStore)
      (h : RawEventStore.Captures sys.store s) : StepCase sys action { sys with store := s }
  | recovered (olderThanIso : String) (limit : ℤ) (now : String) :
      StepCase sys (.markStuckRawEventBatchesAsError olderThanIso limit now)
        { sys with store := sys.store.markStuckRawEventBatchesAsError olderThanIso limit now }
  | called (opencodeSessionId : String) (source : Option String)
      (maxEvents throughEventSeq : Option ℤ) :
      StepCase sys (.flushRawEvents opencodeSessionId source maxEvents throughEventSeq)
        (sys.startRun opencodeSessionId source maxEvents throughEventSeq)
  | advanced (i : ℕ) (now : String) (run : FlushRun) (h : sys.runs[i]? = some run) :
      StepCase sys (.advance i now) (sys.advanceRun settings i now run)
  | ingestEnded (i : ℕ) (failure : Option IngestFailure) (run : FlushRun)
      (h : sys.runs[i]? = some run) :
      StepCase sys (.ingestReturns i failure) (sys.endIngest i failure run)

variable {settings} in
lemma commit_stepCase {sys : RawEventPipeline} {action : PipelineAction}
    {result : Except String RawEventStore}
    (h : ∀ s, result = .ok s → RawEventStore.Captures sys.store s) :
    StepCase settings sys action (sys.commit result) := by
  rcases result with error | s
  · exact .captured sys.store (.refl _)
  · exact .captured s (h s rfl)

/-- Every step is one of these. -/
theorem stepCase (sys : RawEventPipeline) (action : PipelineAction) :
    StepCase settings sys action (sys.step settings action) := by
  cases action with
  | recordRawEvent opencodeSessionId source event =>
    refine commit_stepCase fun s hs => ?_
    obtain ⟨⟨inserted, s'⟩, hrecord, rfl⟩ := exists_of_map_eq_ok hs
    exact RawEventStore.recordRawEvent_captures hrecord
  | recordRawEventsBatch opencodeSessionId events =>
    refine commit_stepCase fun s hs => ?_
    obtain ⟨⟨counts, s'⟩, hrecord, rfl⟩ := exists_of_map_eq_ok hs
    exact RawEventStore.recordRawEventsBatch_captures hrecord
  | ingestRawEvents request =>
    exact commit_stepCase fun s hs => RawEventStore.ingestRawEvents_captures hs
  | purgeRawEvents maxAgeMs nowMs =>
    exact .captured _ (RawEventStore.purgeRawEvents_captures maxAgeMs nowMs)
  | markStuckRawEventBatchesAsError olderThanIso limit now =>
    exact .recovered olderThanIso limit now
  | flushRawEvents opencodeSessionId source maxEvents throughEventSeq =>
    exact .called opencodeSessionId source maxEvents throughEventSeq
  | advance i now =>
    change StepCase settings sys _ ((sys.runs[i]?).elim sys (sys.advanceRun settings i now))
    cases hrun : sys.runs[i]? with
    | none => exact .captured sys.store (.refl _)
    | some run => exact .advanced i now run hrun
  | ingestReturns i failure =>
    change StepCase settings sys _ ((sys.runs[i]?).elim sys (sys.endIngest i failure))
    cases hrun : sys.runs[i]? with
    | none => exact .captured sys.store (.refl _)
    | some run => exact .ingestEnded i failure run hrun

end RawEventPipeline

end Codemem

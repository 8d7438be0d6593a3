import Codemem.Json
import Codemem.Foundation.KeyedRows
import Codemem.Foundation.OrderedPage

/-!
# The raw event tables

Hooks capture raw events into streams, and workers flush the events of a stream in batches.  Three
tables carry this: `raw_events`, `raw_event_sessions` with the received and the flushed sequence
number of each stream, and `raw_event_flush_batches`, with one row for each range that a worker
took up.  Times are ISO texts, which the code compares as texts.
-/

namespace Codemem

/-- The identity of a stream of raw events. -/
structure StreamIdentity where
  source : String
  streamId : String
  deriving DecidableEq, Repr

def normalizeStreamIdentity (source streamId : String) : Except String StreamIdentity :=
  let cleaned := toLowerCase (trim source)
  let sid := trim streamId
  if sid.toList.isEmpty then .error "stream_id is required"
  else .ok ⟨if cleaned.toList.isEmpty then "opencode" else cleaned, sid⟩

/-- A row of `raw_events`, as far as capture, retention and flushing read it. -/
structure RawEvent where
  stream : StreamIdentity
  eventId : String
  eventSeq : ℤ
  eventType : String
  tsWallMs : Option ℤ
  payload : JsonObject
  captureContext : Option Json

/-- A row of `raw_event_sessions`. -/
structure StreamSession where
  stream : StreamIdentity
  lastReceivedEventSeq : ℤ
  lastFlushedEventSeq : ℤ
  deriving DecidableEq, Repr

/-- The status texts of a flush batch; the last three are written by older versions. -/
inductive BatchStatus where
  | pending
  | claimed
  | failed
  | completed
  | gaveUp
  | started
  | running
  | error
  deriving DecidableEq, Repr

namespace BatchStatus

def canonical : BatchStatus → BatchStatus
  | started => pending
  | running => claimed
  | error => failed
  | status => status

/-- `claimRawEventFlushBatch` takes a batch with this status. -/
def isClaimable : BatchStatus → Bool
  | pending | failed | started | error => true
  | _ => false

/-- `getOrCreateRawEventFlushBatch` leaves the time of a batch with this status alone. -/
def isHeld : BatchStatus → Bool
  | claimed | running => true
  | _ => false

/-- `markStuckRawEventBatchesAsError` looks for a batch with this status. -/
def canBeStuck : BatchStatus → Bool
  | started | running | pending | claimed => true
  | _ => false

/-- The batch was processed, or abandoned for good. -/
def isSettled : BatchStatus → Bool
  | completed | gaveUp => true
  | _ => false

lemma isSettled_eq_false_of_isClaimable {status : BatchStatus} (h : status.isClaimable = true) :
    status.isSettled = false := by
  cases status <;> simp_all [isClaimable, isSettled]

lemma isSettled_eq_false_of_canBeStuck {status : BatchStatus} (h : status.canBeStuck = true) :
    status.isSettled = false := by
  cases status <;> simp_all [canBeStuck, isSettled]

lemma eq_completed_of_canonical {status : BatchStatus} (h : status.canonical = completed) :
    status = completed := by
  cases status <;> simp_all [canonical]

end BatchStatus

/-- A row of `raw_event_flush_batches`, as far as capture and flushing read it. -/
structure FlushBatch where
  id : ℕ
  stream : StreamIdentity
  startEventSeq : ℤ
  endEventSeq : ℤ
  extractorVersion : String
  status : BatchStatus
  errorType : Option String
  observerErrorCode : Option String
  observerErrorMessage : Option String
  attemptCount : ℕ
  updatedAt : String
  deriving DecidableEq, Repr

/-- The columns of `idx_flush_batches_source_stream_seq_ver`. -/
abbrev BatchKey := StreamIdentity × ℤ × ℤ × String

/-- The key under which a batch is found again. -/
def FlushBatch.key (batch : FlushBatch) : BatchKey :=
  (batch.stream, batch.startEventSeq, batch.endEventSeq, batch.extractorVersion)

/-- The sequence number lies in the range of the batch. -/
def FlushBatch.Covers (batch : FlushBatch) (seq : ℤ) : Prop :=
  batch.startEventSeq ≤ seq ∧ seq ≤ batch.endEventSeq

/-- The three tables. -/
structure RawEventStore where
  events : List RawEvent
  sessions : List StreamSession
  batches : List FlushBatch

namespace RawEventStore

/-- A new store. -/
def empty : RawEventStore := ⟨[], [], []⟩

def session (s : RawEventStore) (stream : StreamIdentity) : Option StreamSession :=
  rowAt StreamSession.stream stream s.sessions

/-- The greatest sequence number given out in a stream; one without a session row is at `-1`. -/
def lastReceived (s : RawEventStore) (stream : StreamIdentity) : ℤ :=
  ((s.session stream).map StreamSession.lastReceivedEventSeq).getD (-1)

/-- `rawEventFlushState`: the watermark of a stream, `-1` without a session row. -/
def rawEventFlushState (s : RawEventStore) (stream : StreamIdentity) : ℤ :=
  ((s.session stream).map StreamSession.lastFlushedEventSeq).getD (-1)

def eventsOf (s : RawEventStore) (stream : StreamIdentity) : List RawEvent :=
  s.events.filter fun event => event.stream == stream

/-- `rawEventsSinceBySeq`: a limit that is not positive is no limit. -/
def rawEventsSinceBySeq (s : RawEventStore) (stream : StreamIdentity) (afterEventSeq : ℤ)
    (limit throughEventSeq : Option ℤ) : List RawEvent :=
  let selected := (s.eventsOf stream).filter fun event =>
    decide (afterEventSeq < event.eventSeq) &&
      throughEventSeq.all fun through => decide (event.eventSeq ≤ through)
  match limit with
  | some n =>
    if 0 < n then page RawEvent.eventSeq n.toNat selected
    else sortByPos RawEvent.eventSeq selected
  | none => sortByPos RawEvent.eventSeq selected

/-- An identifier that no batch has. -/
def nextBatchId (s : RawEventStore) : ℕ :=
  (s.batches.foldr (fun batch greatest => max batch.id greatest) 0) + 1

/-- `getOrCreateRawEventFlushBatch`: the row of the range, with its canonical status. -/
def getOrCreateRawEventFlushBatch (s : RawEventStore) (stream : StreamIdentity)
    (startEventSeq endEventSeq : ℤ) (extractorVersion now : String) :
    FlushBatch × RawEventStore :=
  let created : FlushBatch :=
    { id := s.nextBatchId, stream, startEventSeq, endEventSeq, extractorVersion,
      status := .pending, errorType := none, observerErrorCode := none,
      observerErrorMessage := none, attemptCount := 0, updatedAt := now }
  let touch (stored : FlushBatch) : FlushBatch :=
    if stored.status.isHeld then stored else { stored with updatedAt := now }
  let batches := insertOrUpdate FlushBatch.key created touch s.batches
  let row := (rowAt FlushBatch.key created.key batches).getD created
  ({ row with status := row.status.canonical }, { s with batches })

/-- `UPDATE raw_event_flush_batches SET … WHERE id = ? AND …`, and whether a row was found. -/
def updateBatch (s : RawEventStore) (batchId : ℕ) (guard : BatchStatus → Bool)
    (write : FlushBatch → FlushBatch) : Bool × RawEventStore :=
  let selects (batch : FlushBatch) : Bool := batch.id == batchId && guard batch.status
  (s.batches.any selects, { s with batches := updateRows selects write s.batches })

def claimRawEventFlushBatch (s : RawEventStore) (batchId : ℕ) (now : String) :
    Bool × RawEventStore :=
  s.updateBatch batchId BatchStatus.isClaimable fun batch =>
    { batch with status := .claimed, updatedAt := now, attemptCount := batch.attemptCount + 1 }

/-- `observerAdmissionErrorDetails(code).type`. -/
def observerAdmissionErrorType (code : String) : String :=
  if code = "scope_authority" then "ScopeWriteAuthorityError"
  else if code = "model_unavailable" then "ObserverModelUnavailable"
  else if code = "service_unavailable" then "ObserverServiceUnavailable"
  else "ObserverAuthError"

/-- `releaseRawEventFlushBatchAfterAuthError`: only a claimed batch is released. -/
def releaseRawEventFlushBatchAfterAuthError (s : RawEventStore) (batchId : ℕ)
    (code now : String) : Bool × RawEventStore :=
  s.updateBatch batchId (· == .claimed) fun batch =>
    { batch with
      status := .failed
      updatedAt := now
      attemptCount := batch.attemptCount - 1
      errorType := some (observerAdmissionErrorType code)
      observerErrorCode := if code = "scope_authority" then none else some code
      observerErrorMessage := none }

/-- `updateRawEventFlushBatchStatus`: a failure keeps the error, another status clears it. -/
def updateRawEventFlushBatchStatus (s : RawEventStore) (batchId : ℕ) (status : BatchStatus)
    (now : String) : RawEventStore :=
  (s.updateBatch batchId (fun _ => true) fun batch =>
    if status = .failed ∨ status = .gaveUp then { batch with status, updatedAt := now }
    else
      { batch with
        status
        updatedAt := now
        errorType := none
        observerErrorCode := none
        observerErrorMessage := none }).2

/-- `recordRawEventFlushBatchFailure`: the status of the batch is not looked at. -/
def recordRawEventFlushBatchFailure (s : RawEventStore) (batchId : ℕ) (errorType : String)
    (observerErrorCode observerErrorMessage : Option String) (now : String) : RawEventStore :=
  (s.updateBatch batchId (fun _ => true) fun batch =>
    { batch with
      status := .failed
      updatedAt := now
      errorType := some errorType
      observerErrorCode
      observerErrorMessage }).2

/-- The oldest stuck batches; a negative limit is none. -/
def stuckBatchIds (s : RawEventStore) (olderThanIso : String) (limit : ℤ) : List ℕ :=
  let candidates := sortByPos FlushBatch.updatedAt (s.batches.filter fun batch =>
    batch.status.canBeStuck && decide (batch.updatedAt < olderThanIso))
  (if limit < 0 then candidates else candidates.take limit.toNat).map FlushBatch.id

def markStuckRawEventBatchesAsError (s : RawEventStore) (olderThanIso : String) (limit : ℤ)
    (now : String) : RawEventStore :=
  { s with
    batches := updateRows (fun batch => (s.stuckBatchIds olderThanIso limit).contains batch.id)
      (fun batch =>
        { batch with
          status := .failed
          updatedAt := now
          errorType := some "RawEventBatchStuck"
          observerErrorCode := none
          observerErrorMessage := none })
      s.batches }

/-- `updateRawEventFlushState`: the stored watermark is overwritten whatever it is. -/
def updateRawEventFlushState (s : RawEventStore) (stream : StreamIdentity) (lastFlushed : ℤ) :
    RawEventStore :=
  { s with
    sessions := insertOrUpdate StreamSession.stream ⟨stream, -1, lastFlushed⟩
      (fun row => { row with lastFlushedEventSeq := lastFlushed }) s.sessions }

end RawEventStore

end Codemem

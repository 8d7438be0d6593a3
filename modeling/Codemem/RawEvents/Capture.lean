import Codemem.RawEvents.Tables
import Codemem.Foundation.Fallible

/-!
# Capturing and purging raw events

Three calls capture events: `recordRawEvent`, `recordRawEventsBatch` and `ingestRawEvents`; each is
one transaction and gives the new events of a stream the next sequence numbers.  `purgeRawEvents`
deletes old events.  None of them touches a flush batch or a watermark (`Captures`).
-/

namespace Codemem

/-- An event as a hook hands it over, its capture context already normalized. -/
structure CapturedEvent where
  eventId : String
  eventType : String
  payload : JsonObject
  tsWallMs : Option ℤ
  captureContext : Option Json

def CapturedEvent.row (event : CapturedEvent) (stream : StreamIdentity) (eventSeq : ℤ) :
    RawEvent :=
  ⟨stream, event.eventId, eventSeq, event.eventType, event.tsWallMs, event.payload,
    event.captureContext⟩

/-- The entries that clash with no entry kept before them. -/
def keepFirst {α : Type} (clash : α → α → Bool) (entries : List α) : List α :=
  entries.foldl (fun kept a => if kept.any fun b => clash b a then kept else kept ++ [a]) []

/-- Consecutive sequence numbers for the events of a batch. -/
def numbered {α : Type} (startSeq : ℤ) : List α → List (α × ℤ)
  | [] => []
  | event :: events => (event, startSeq) :: numbered (startSeq + 1) events

namespace RawEventStore

def hasEventId (s : RawEventStore) (stream : StreamIdentity) (eventId : String) : Bool :=
  (s.eventsOf stream).any fun event => event.eventId == eventId

/-- `COALESCE(MAX(event_seq), -1)` of a stream. -/
def maxEventSeq (s : RawEventStore) (stream : StreamIdentity) : ℤ :=
  (((s.eventsOf stream).map RawEvent.eventSeq).max?).getD (-1)

/-- A unique index on sequence numbers or identifiers of a stream refuses the row. -/
def refuses (s : RawEventStore) (row : RawEvent) : Bool :=
  (s.eventsOf row.stream).any fun event =>
    event.eventSeq == row.eventSeq || event.eventId == row.eventId

/-- `INSERT INTO raw_events`. -/
def insertEvent (s : RawEventStore) (row : RawEvent) : Except String RawEventStore :=
  if s.refuses row then .error "UNIQUE constraint failed"
  else .ok { s with events := s.events ++ [row] }

/-- `INSERT … ON CONFLICT DO NOTHING`, with the number of inserted rows. -/
def insertNewEvents (s : RawEventStore) (rows : List RawEvent) : RawEventStore × ℕ :=
  rows.foldl (fun acc row =>
    if acc.1.refuses row then acc
    else ({ acc.1 with events := acc.1.events ++ [row] }, acc.2 + 1)) (s, 0)

def ensureRawEventSession (s : RawEventStore) (stream : StreamIdentity) : RawEventStore :=
  if (s.session stream).isSome then s
  else { s with sessions := s.sessions ++ [⟨stream, -1, -1⟩] }

/-- `UPDATE raw_event_sessions SET last_received_event_seq = …` of a stream. -/
def setLastReceived (s : RawEventStore) (stream : StreamIdentity) (value : ℤ → ℤ) :
    RawEventStore :=
  { s with
    sessions := updateRows (fun row => row.stream == stream)
      (fun row => { row with lastReceivedEventSeq := value row.lastReceivedEventSeq }) s.sessions }

/-- `allocateRawEventSeqRange`: the first of `count` new sequence numbers. -/
def allocateRawEventSeqRange (s : RawEventStore) (stream : StreamIdentity) (count : ℕ) :
    ℤ × RawEventStore :=
  let s' := s.setLastReceived stream (· + count)
  (s'.lastReceived stream - count + 1, s')

/-- The transaction of `recordRawEvent`: a duplicate is not inserted. -/
def recordStreamEvent (s : RawEventStore) (stream : StreamIdentity) (event : CapturedEvent) :
    Except String (Bool × RawEventStore) :=
  if s.hasEventId stream event.eventId then .ok (false, s)
  else
    let allocated := (s.ensureRawEventSession stream).allocateRawEventSeqRange stream 1
    (allocated.2.insertEvent (event.row stream allocated.1)).map fun s' => (true, s')

/-- `recordRawEvent`: whether the event was inserted. -/
def recordRawEvent (s : RawEventStore) (opencodeSessionId source : String)
    (event : CapturedEvent) : Except String (Bool × RawEventStore) :=
  if (trim opencodeSessionId).toList.isEmpty then .error "opencode_session_id is required"
  else if (trim event.eventId).toList.isEmpty then .error "event_id is required"
  else if (trim event.eventType).toList.isEmpty then .error "event_type is required"
  else (normalizeStreamIdentity source opencodeSessionId).bind fun stream =>
    s.recordStreamEvent stream event

/-- `newRawEventBatchItems` of `normalizeRawEventBatch`: the named events, each identifier once,
that the stream does not hold. -/
def newRawEventBatchItems (s : RawEventStore) (stream : StreamIdentity)
    (events : List CapturedEvent) : List CapturedEvent :=
  let named := events.filter fun event =>
    !event.eventId.toList.isEmpty && !event.eventType.toList.isEmpty
  (keepFirst (fun a b => a.eventId == b.eventId) named).filter fun event =>
    !s.hasEventId stream event.eventId

/-- `reconcileRawSeq`: after a refused row the received number falls back to what is stored, but
never below the previous one. -/
def reconcileRawSeq (s : RawEventStore) (stream : StreamIdentity) (inserted attempted : ℕ)
    (previousWatermark : ℤ) : RawEventStore :=
  if attempted = inserted then s
  else s.setLastReceived stream fun _ => max previousWatermark (s.maxEventSeq stream)

/-- The rows of new events are numbered and inserted. -/
def appendRawEventBatch (s : RawEventStore) (stream : StreamIdentity)
    (candidates : List CapturedEvent) : ℕ × RawEventStore :=
  let allocated := s.allocateRawEventSeqRange stream candidates.length
  let filled := allocated.2.insertNewEvents
    ((numbered allocated.1 candidates).map fun entry => entry.1.row stream entry.2)
  (filled.2, filled.1.reconcileRawSeq stream filled.2 candidates.length (allocated.1 - 1))

/-- The transaction of `recordRawEventsBatch`. -/
def recordStreamEvents (s : RawEventStore) (stream : StreamIdentity)
    (events : List CapturedEvent) : (ℕ × ℕ) × RawEventStore :=
  let ensured := s.ensureRawEventSession stream
  let candidates := ensured.newRawEventBatchItems stream events
  if candidates.isEmpty then ((0, events.length), ensured)
  else
    let appended := ensured.appendRawEventBatch stream candidates
    ((appended.1, events.length - appended.1), appended.2)

/-- `recordRawEventsBatch`: the numbers of inserted and of skipped events. -/
def recordRawEventsBatch (s : RawEventStore) (opencodeSessionId : String)
    (events : List CapturedEvent) : Except String ((ℕ × ℕ) × RawEventStore) :=
  if (trim opencodeSessionId).toList.isEmpty then .error "opencode_session_id is required"
  else (normalizeStreamIdentity "opencode" opencodeSessionId).map fun stream =>
    s.recordStreamEvents stream events

end RawEventStore

/-- An event of a validated request; one whose identifier was generated may also have one that older
versions generated for it. -/
structure NormalizedEvent extends CapturedEvent where
  streamId : String
  legacyEventId : Option String

/-- `eventIdAliases`: the identifiers of an event. -/
def NormalizedEvent.eventIdAliases (event : NormalizedEvent) : List String :=
  event.eventId :: event.legacyEventId.toList

/-- A validated request, as `normalizeRequest` returns it. -/
structure NormalizedRequest where
  source : String
  events : List NormalizedEvent

namespace RawEventStore

/-- The events of a request that `persistStream` inserts. -/
def streamCandidates (s : RawEventStore) (stream : StreamIdentity)
    (events : List NormalizedEvent) : List NormalizedEvent :=
  (keepFirst (fun a b => b.eventIdAliases.any fun id => a.eventIdAliases.contains id)
    events).filter fun event =>
      !event.eventIdAliases.any fun id => s.hasEventId stream id

/-- The rows of numbered events go in one after the other. -/
def insertNumbered (s : RawEventStore) (stream : StreamIdentity)
    (entries : List (NormalizedEvent × ℤ)) : Except String RawEventStore :=
  entries.foldlM (fun acc entry => acc.insertEvent (entry.1.toCapturedEvent.row stream entry.2)) s

/-- The session row of a stream after new events: the received number never falls. -/
def raiseLastReceived (s : RawEventStore) (stream : StreamIdentity) (received : ℤ) :
    RawEventStore :=
  { s with
    sessions := insertOrUpdate StreamSession.stream ⟨stream, received, -1⟩
      (fun row => { row with lastReceivedEventSeq := max received row.lastReceivedEventSeq })
      s.sessions }

/-- `persistStream`: the new events go in above everything received and stored. -/
def persistStream (s : RawEventStore) (stream : StreamIdentity) (events : List NormalizedEvent) :
    Except String RawEventStore :=
  let candidates := s.streamCandidates stream events
  let lastReceived := max (s.lastReceived stream) (s.maxEventSeq stream)
  (s.insertNumbered stream (numbered (lastReceived + 1) candidates)).map fun filled =>
    filled.raiseLastReceived stream (lastReceived + candidates.length)

/-- `ingestRawEvents` of a validated request: the streams in order of appearance. -/
def ingestRawEvents (s : RawEventStore) (request : NormalizedRequest) :
    Except String RawEventStore :=
  (keepFirst (· == ·) (request.events.map NormalizedEvent.streamId)).foldlM
    (fun acc streamId => acc.persistStream ⟨request.source, streamId⟩
      (request.events.filter fun event => event.streamId == streamId)) s

/-- `purgeRawEvents`: events without a time stay. -/
def purgeRawEvents (s : RawEventStore) (maxAgeMs nowMs : ℤ) : RawEventStore :=
  if maxAgeMs ≤ 0 then s
  else
    { s with
      events := s.events.filter fun event =>
        !event.tsWallMs.any fun ts => decide (ts < nowMs - maxAgeMs) }

/-! ### What capturing does -/

/-- Capture and retention leave the batches and the watermarks alone; the received numbers never
fall, and every new event stands above the old one and at most at the new one. -/
structure Captures (s s' : RawEventStore) : Prop where
  batches : s'.batches = s.batches
  flushed : ∀ stream, s'.rawEventFlushState stream = s.rawEventFlushState stream
  received : ∀ stream, s.lastReceived stream ≤ s'.lastReceived stream
  event : ∀ event ∈ s'.events, event ∈ s.events ∨
    s.lastReceived event.stream < event.eventSeq ∧ event.eventSeq ≤ s'.lastReceived event.stream

namespace Captures

variable {s s' s'' : RawEventStore}

lemma refl (s : RawEventStore) : Captures s s where
  batches := rfl
  flushed := fun _ => rfl
  received := fun _ => le_rfl
  event := fun _ h => .inl h

lemma trans (h : Captures s s') (h' : Captures s' s'') : Captures s s'' where
  batches := h'.batches.trans h.batches
  flushed := fun stream => (h'.flushed stream).trans (h.flushed stream)
  received := fun stream => (h.received stream).trans (h'.received stream)
  event := by
    intro event hevent
    rcases h'.event event hevent with hmem | ⟨hlt, hle⟩
    · rcases h.event event hmem with hold | ⟨hlt, hle⟩
      · exact .inl hold
      · exact .inr ⟨hlt, hle.trans (h'.received event.stream)⟩
    · have hreceived := h.received event.stream
      exact .inr ⟨by omega, hle⟩

end Captures

section Sessions

variable {s : RawEventStore} {stream stream' : StreamIdentity}

lemma session_ensureRawEventSession :
    (s.ensureRawEventSession stream).session stream' =
      if stream' = stream then some ((s.session stream).getD ⟨stream, -1, -1⟩)
      else s.session stream' := by
  unfold ensureRawEventSession
  by_cases hsome : (s.session stream).isSome = true
  · rw [if_pos hsome]
    obtain ⟨row, hrow⟩ := Option.isSome_iff_exists.mp hsome
    split_ifs with hsame
    · rw [hsame, hrow, Option.getD_some]
    · rfl
  · rw [if_neg hsome]
    have hnone : s.session stream = none := Option.not_isSome_iff_eq_none.mp hsome
    have happend : rowAt StreamSession.stream stream' (s.sessions ++ [⟨stream, -1, -1⟩]) =
        (s.session stream').or (rowAt StreamSession.stream stream' [⟨stream, -1, -1⟩]) :=
      List.find?_append
    rw [session, happend]
    split_ifs with hsame
    · subst hsame
      simp [hnone, rowAt]
    · have hmiss : (stream == stream') = false := beq_eq_false_iff_ne.mpr (Ne.symm hsame)
      simp [rowAt, hmiss]

@[simp] lemma lastReceived_ensureRawEventSession :
    (s.ensureRawEventSession stream).lastReceived stream' = s.lastReceived stream' := by
  unfold lastReceived
  rw [session_ensureRawEventSession]
  split_ifs with hsame
  · subst hsame
    cases s.session stream' with
    | none => rfl
    | some row => rfl
  · rfl

@[simp] lemma rawEventFlushState_ensureRawEventSession :
    (s.ensureRawEventSession stream).rawEventFlushState stream' =
      s.rawEventFlushState stream' := by
  unfold rawEventFlushState
  rw [session_ensureRawEventSession]
  split_ifs with hsame
  · subst hsame
    cases s.session stream' with
    | none => rfl
    | some row => rfl
  · rfl

@[simp] lemma events_ensureRawEventSession :
    (s.ensureRawEventSession stream).events = s.events := by
  unfold ensureRawEventSession
  split_ifs
  · rfl
  · rfl

@[simp] lemma batches_ensureRawEventSession :
    (s.ensureRawEventSession stream).batches = s.batches := by
  unfold ensureRawEventSession
  split_ifs
  · rfl
  · rfl

lemma isSome_session_ensureRawEventSession :
    ((s.ensureRawEventSession stream).session stream).isSome = true := by
  rw [session_ensureRawEventSession, if_pos rfl]
  rfl

lemma session_setLastReceived (value : ℤ → ℤ) :
    (s.setLastReceived stream value).session stream' =
      (s.session stream').map fun row =>
        if row.stream = stream then
          { row with lastReceivedEventSeq := value row.lastReceivedEventSeq }
        else row := by
  let write (row : StreamSession) : StreamSession :=
    if (row.stream == stream) = true then
      { row with lastReceivedEventSeq := value row.lastReceivedEventSeq }
    else row
  have hkey : ∀ row, (write row).stream = row.stream := by
    intro row
    dsimp only [write]
    split_ifs
    · rfl
    · rfl
  have hrow : rowAt StreamSession.stream stream' (s.sessions.map write) =
      (rowAt StreamSession.stream stream' s.sessions).map write := rowAt_map hkey stream' s.sessions
  simpa only [setLastReceived, session, updateRows, beq_iff_eq, write] using hrow

lemma lastReceived_setLastReceived (value : ℤ → ℤ) (h : (s.session stream).isSome = true) :
    (s.setLastReceived stream value).lastReceived stream' =
      if stream' = stream then value (s.lastReceived stream') else s.lastReceived stream' := by
  unfold lastReceived
  rw [session_setLastReceived]
  cases hrow : s.session stream' with
  | none =>
    have hne : stream' ≠ stream := by
      rintro rfl
      rw [hrow] at h
      cases h
    rw [if_neg hne]
    rfl
  | some row =>
    obtain ⟨-, hstream⟩ := rowAt_eq_some hrow
    by_cases hsame : stream' = stream
    · simp [hstream, hsame]
    · simp [hstream, hsame]

@[simp] lemma rawEventFlushState_setLastReceived (value : ℤ → ℤ) :
    (s.setLastReceived stream value).rawEventFlushState stream' =
      s.rawEventFlushState stream' := by
  unfold rawEventFlushState
  rw [session_setLastReceived, Option.map_map]
  congr 2
  funext row
  dsimp only [Function.comp_apply]
  split_ifs
  · rfl
  · rfl

lemma lastReceived_allocateRawEventSeqRange {count : ℕ} (h : (s.session stream).isSome = true) :
    (s.allocateRawEventSeqRange stream count).2.lastReceived stream' =
      if stream' = stream then s.lastReceived stream' + count else s.lastReceived stream' :=
  lastReceived_setLastReceived _ h

lemma fst_allocateRawEventSeqRange {count : ℕ} (h : (s.session stream).isSome = true) :
    (s.allocateRawEventSeqRange stream count).1 = s.lastReceived stream + 1 := by
  have hread := @lastReceived_allocateRawEventSeqRange s stream stream count h
  rw [if_pos rfl] at hread
  change (s.allocateRawEventSeqRange stream count).2.lastReceived stream - count + 1 = _
  rw [hread]
  omega

end Sessions

section Inserts

variable {s s' : RawEventStore} {stream : StreamIdentity}

lemma insertEvent_eq_ok {row : RawEvent} (h : s.insertEvent row = .ok s') :
    s' = { s with events := s.events ++ [row] } := by
  unfold insertEvent at h
  split_ifs at h
  cases h
  rfl

lemma insertNewEvents_spec (rows : List RawEvent) :
    ∃ added, added ⊆ rows ∧
      (s.insertNewEvents rows).1 = { s with events := s.events ++ added } := by
  unfold insertNewEvents
  generalize 0 = inserted
  induction rows generalizing s inserted with
  | nil => exact ⟨[], List.Subset.refl _, by simp⟩
  | cons row rows ih =>
    rw [List.foldl_cons]
    split_ifs with hrefused
    · obtain ⟨added, hadded, heq⟩ := @ih s inserted
      exact ⟨added, List.subset_cons_of_subset _ hadded, heq⟩
    · obtain ⟨added, hadded, heq⟩ :=
        @ih { s with events := s.events ++ [row] } (inserted + 1)
      refine ⟨row :: added, List.cons_subset_cons _ hadded, ?_⟩
      rw [heq]
      simp

lemma mem_numbered {α : Type} {startSeq : ℤ} {events : List α} {entry : α × ℤ}
    (h : entry ∈ numbered startSeq events) :
    startSeq ≤ entry.2 ∧ entry.2 < startSeq + events.length := by
  induction events generalizing startSeq with
  | nil => cases h
  | cons event events ih =>
    rw [numbered] at h
    rw [List.length_cons]
    rcases List.mem_cons.mp h with rfl | h
    · constructor
      · exact le_rfl
      · push_cast
        omega
    · obtain ⟨hle, hlt⟩ := ih h
      push_cast
      omega

lemma mem_of_numbered {α : Type} {startSeq : ℤ} {events : List α} {entry : α × ℤ}
    (h : entry ∈ numbered startSeq events) : entry.1 ∈ events := by
  induction events generalizing startSeq with
  | nil => cases h
  | cons event events ih =>
    rcases List.mem_cons.mp h with rfl | h
    · exact List.mem_cons_self
    · exact List.mem_cons_of_mem _ (ih h)

lemma le_maxEventSeq {event : RawEvent} (hmem : event ∈ s.events) :
    event.eventSeq ≤ s.maxEventSeq event.stream := by
  have hseq : event.eventSeq ∈ (s.eventsOf event.stream).map RawEvent.eventSeq := by
    refine List.mem_map.mpr ⟨event, List.mem_filter.mpr ⟨hmem, ?_⟩, rfl⟩
    exact beq_self_eq_true event.stream
  unfold maxEventSeq
  cases hmax : ((s.eventsOf event.stream).map RawEvent.eventSeq).max? with
  | none =>
    rw [List.max?_eq_none_iff.mp hmax] at hseq
    cases hseq
  | some greatest => exact (List.max?_eq_some_iff.mp hmax).2 _ hseq

lemma mem_numberedRows {startSeq : ℤ} {candidates : List CapturedEvent} {event : RawEvent}
    (h : event ∈ (numbered startSeq candidates).map fun entry => entry.1.row stream entry.2) :
    event.stream = stream ∧ startSeq ≤ event.eventSeq ∧
      event.eventSeq < startSeq + candidates.length := by
  obtain ⟨entry, hentry, rfl⟩ := List.mem_map.mp h
  exact ⟨rfl, mem_numbered hentry⟩

end Inserts

/-! ### The capture calls -/

section Calls

variable {s s' : RawEventStore} {stream stream' : StreamIdentity}

lemma ensureRawEventSession_captures : Captures s (s.ensureRawEventSession stream) where
  batches := batches_ensureRawEventSession
  flushed := fun _ => rawEventFlushState_ensureRawEventSession
  received := fun _ => lastReceived_ensureRawEventSession.ge
  event := by
    intro event hevent
    rw [events_ensureRawEventSession] at hevent
    exact .inl hevent

lemma captures_of_append {added : List RawEvent} (hbatches : s'.batches = s.batches)
    (hevents : s'.events = s.events ++ added)
    (hflushed : ∀ other, s'.rawEventFlushState other = s.rawEventFlushState other)
    (hother : ∀ other, other ≠ stream → s'.lastReceived other = s.lastReceived other)
    (hreceived : s.lastReceived stream ≤ s'.lastReceived stream)
    (hadded : ∀ event ∈ added, event.stream = stream ∧
      s.lastReceived stream < event.eventSeq ∧ event.eventSeq ≤ s'.lastReceived stream) :
    Captures s s' where
  batches := hbatches
  flushed := hflushed
  received := by
    intro other
    by_cases hsame : other = stream
    · rw [hsame]
      exact hreceived
    · exact (hother other hsame).ge
  event := by
    intro event hevent
    rw [hevents] at hevent
    rcases List.mem_append.mp hevent with hold | hnew
    · exact .inl hold
    · obtain ⟨hstream, hlt, hle⟩ := hadded event hnew
      rw [hstream]
      exact .inr ⟨hlt, hle⟩

lemma recordStreamEvent_captures {event : CapturedEvent} {inserted : Bool}
    (h : s.recordStreamEvent stream event = .ok (inserted, s')) : Captures s s' := by
  unfold recordStreamEvent at h
  split_ifs at h with hheld
  · cases h
    exact Captures.refl s
  · obtain ⟨filled, hinsert, hpair⟩ := exists_of_map_eq_ok h
    cases hpair
    have hsession := @isSome_session_ensureRawEventSession s stream
    have hread := @lastReceived_allocateRawEventSeqRange _ stream stream 1 hsession
    rw [if_pos rfl] at hread
    refine Captures.trans (@ensureRawEventSession_captures s stream) ?_
    rw [insertEvent_eq_ok hinsert]
    refine captures_of_append rfl rfl (fun other => ?_) (fun other hne => ?_) (hread.ge.trans' (by omega)) ?_
    · exact @rawEventFlushState_setLastReceived (s.ensureRawEventSession stream) stream other
        (· + ((1 : ℕ) : ℤ))
    · exact (lastReceived_allocateRawEventSeqRange hsession).trans (if_neg hne)
    · intro row hrow
      rw [List.mem_singleton.mp hrow]
      have hfirst := @fst_allocateRawEventSeqRange _ stream 1 hsession
      refine ⟨rfl, ?_⟩
      change _ < (allocateRawEventSeqRange _ _ _).1 ∧
        (allocateRawEventSeqRange _ _ _).1 ≤ (allocateRawEventSeqRange _ _ _).2.lastReceived _
      rw [hfirst, hread]
      push_cast
      omega

/-- `recordRawEvent` captures at most one event. -/
theorem recordRawEvent_captures {opencodeSessionId source : String} {event : CapturedEvent}
    {inserted : Bool}
    (h : s.recordRawEvent opencodeSessionId source event = .ok (inserted, s')) :
    Captures s s' := by
  unfold recordRawEvent at h
  split_ifs at h
  obtain ⟨stream, -, h⟩ := exists_of_bind_eq_ok h
  exact recordStreamEvent_captures h

@[simp] lemma rawEventFlushState_reconcileRawSeq {inserted attempted : ℕ} {previous : ℤ} :
    (s.reconcileRawSeq stream inserted attempted previous).rawEventFlushState stream' =
      s.rawEventFlushState stream' := by
  unfold reconcileRawSeq
  split_ifs
  · rfl
  · exact rawEventFlushState_setLastReceived _

lemma lastReceived_reconcileRawSeq {inserted attempted : ℕ} {previous : ℤ}
    (h : (s.session stream).isSome = true) :
    (s.reconcileRawSeq stream inserted attempted previous).lastReceived stream' =
      if stream' = stream ∧ attempted ≠ inserted then max previous (s.maxEventSeq stream)
      else s.lastReceived stream' := by
  unfold reconcileRawSeq
  by_cases heq : attempted = inserted
  · simp [heq]
  · rw [if_neg heq, lastReceived_setLastReceived _ h]
    simp [heq]

lemma tables_reconcileRawSeq {inserted attempted : ℕ} {previous : ℤ} :
    (s.reconcileRawSeq stream inserted attempted previous).events = s.events ∧
      (s.reconcileRawSeq stream inserted attempted previous).batches = s.batches := by
  unfold reconcileRawSeq
  split_ifs
  · exact ⟨rfl, rfl⟩
  · exact ⟨rfl, rfl⟩

lemma appendRawEventBatch_captures {candidates : List CapturedEvent}
    (h : (s.session stream).isSome = true) :
    Captures s (s.appendRawEventBatch stream candidates).2 := by
  let allocated := (s.allocateRawEventSeqRange stream candidates.length).2
  have hread : ∀ other, allocated.lastReceived other =
      if other = stream then s.lastReceived other + candidates.length else s.lastReceived other :=
    fun _ => lastReceived_allocateRawEventSeqRange h
  have hrow : (allocated.session stream).isSome = true := by
    change ((s.setLastReceived stream _).session stream).isSome = true
    rw [session_setLastReceived, Option.isSome_map]
    exact h
  obtain ⟨added, hadded, hfilled⟩ := @insertNewEvents_spec allocated
    ((numbered (s.lastReceived stream + 1) candidates).map fun entry => entry.1.row stream entry.2)
  let filled : RawEventStore := { allocated with events := allocated.events ++ added }
  have hlast : ∀ inserted, ∀ other,
      (filled.reconcileRawSeq stream inserted candidates.length
        (s.lastReceived stream)).lastReceived other =
      if other = stream ∧ candidates.length ≠ inserted then
        max (s.lastReceived stream) (filled.maxEventSeq stream)
      else allocated.lastReceived other :=
    fun _ _ => lastReceived_reconcileRawSeq hrow
  unfold appendRawEventBatch
  dsimp only
  rw [fst_allocateRawEventSeqRange h, hfilled, add_sub_cancel_right]
  refine @captures_of_append s _ stream added tables_reconcileRawSeq.2 tables_reconcileRawSeq.1
    (fun other => ?_) (fun other hne => ?_) ?_ (fun event hevent => ?_)
  · rw [rawEventFlushState_reconcileRawSeq]
    exact @rawEventFlushState_setLastReceived s stream other (· + (candidates.length : ℤ))
  · rw [hlast, if_neg fun hboth => hne hboth.1, hread, if_neg hne]
  · rw [hlast, hread, if_pos rfl]
    split_ifs
    · exact le_max_left _ _
    · omega
  · obtain ⟨hstream, hge, hlt⟩ := mem_numberedRows (hadded hevent)
    refine ⟨hstream, by omega, ?_⟩
    rw [hlast, hread, if_pos rfl]
    split_ifs
    · have hstored := @le_maxEventSeq filled event (List.mem_append_right _ hevent)
      rw [hstream] at hstored
      exact hstored.trans (le_max_right _ _)
    · omega

/-- `recordRawEventsBatch` captures its new events. -/
theorem recordRawEventsBatch_captures {opencodeSessionId : String} {events : List CapturedEvent}
    {counts : ℕ × ℕ} (h : s.recordRawEventsBatch opencodeSessionId events = .ok (counts, s')) :
    Captures s s' := by
  unfold recordRawEventsBatch at h
  split_ifs at h
  obtain ⟨stream, -, hrecorded⟩ := exists_of_map_eq_ok h
  unfold recordStreamEvents at hrecorded
  dsimp only at hrecorded
  split_ifs at hrecorded
  · cases hrecorded
    exact ensureRawEventSession_captures
  · cases hrecorded
    exact ensureRawEventSession_captures.trans
      (appendRawEventBatch_captures isSome_session_ensureRawEventSession)

lemma insertNumbered_eq_ok {entries : List (NormalizedEvent × ℤ)}
    (h : s.insertNumbered stream entries = .ok s') :
    s' = { s with
      events := s.events ++ entries.map fun entry => entry.1.toCapturedEvent.row stream entry.2 } := by
  unfold insertNumbered at h
  induction entries generalizing s with
  | nil =>
    cases h
    simp
  | cons entry entries ih =>
    rw [List.foldlM_cons] at h
    obtain ⟨s₁, hinsert, hrest⟩ := exists_of_bind_eq_ok h
    have hfinal := ih hrest
    rw [insertEvent_eq_ok hinsert] at hfinal
    rw [hfinal]
    simp

lemma session_raiseLastReceived {received : ℤ} :
    (s.raiseLastReceived stream received).session stream' =
      if stream' = stream then
        some (((s.session stream').map fun row =>
          { row with lastReceivedEventSeq := max received row.lastReceivedEventSeq }).getD
            ⟨stream, received, -1⟩)
      else s.session stream' :=
  @rowAt_insertOrUpdate _ _ _ StreamSession.stream ⟨stream, received, -1⟩
    (fun row => { row with lastReceivedEventSeq := max received row.lastReceivedEventSeq })
    (fun _ => rfl) stream' s.sessions

lemma lastReceived_raiseLastReceived {received : ℤ} :
    received ≤ (s.raiseLastReceived stream received).lastReceived stream ∧
      (stream' ≠ stream →
        (s.raiseLastReceived stream received).lastReceived stream' = s.lastReceived stream') := by
  unfold lastReceived
  constructor
  · rw [session_raiseLastReceived, if_pos rfl]
    cases s.session stream with
    | none => exact le_rfl
    | some row => exact le_max_left _ _
  · intro hne
    rw [session_raiseLastReceived, if_neg hne]

lemma rawEventFlushState_raiseLastReceived {received : ℤ} :
    (s.raiseLastReceived stream received).rawEventFlushState stream' =
      s.rawEventFlushState stream' := by
  unfold rawEventFlushState
  rw [session_raiseLastReceived]
  split_ifs
  · cases s.session stream' with
    | none => rfl
    | some row => rfl
  · rfl

lemma persistStream_captures {events : List NormalizedEvent}
    (h : s.persistStream stream events = .ok s') : Captures s s' := by
  unfold persistStream at h
  dsimp only at h
  obtain ⟨filled, hinsert, rfl⟩ := exists_of_map_eq_ok h
  have hfilled := insertNumbered_eq_ok hinsert
  have hbound : s.lastReceived stream ≤ max (s.lastReceived stream) (s.maxEventSeq stream) :=
    le_max_left _ _
  generalize max (s.lastReceived stream) (s.maxEventSeq stream) = greatest at *
  generalize s.streamCandidates stream events = candidates at *
  have hraised : greatest + candidates.length ≤
      (filled.raiseLastReceived stream (greatest + candidates.length)).lastReceived stream :=
    (@lastReceived_raiseLastReceived filled stream stream _).1
  refine @captures_of_append s _ stream ((numbered (greatest + 1) candidates).map fun entry =>
    entry.1.toCapturedEvent.row stream entry.2) ?_ ?_ (fun other => ?_) (fun other hne => ?_)
    (by omega) (fun event hevent => ?_)
  · rw [hfilled]
    rfl
  · rw [hfilled]
    rfl
  · rw [rawEventFlushState_raiseLastReceived, hfilled]
    rfl
  · rw [lastReceived_raiseLastReceived.2 hne, hfilled]
    rfl
  · obtain ⟨entry, hentry, rfl⟩ := List.mem_map.mp hevent
    obtain ⟨hge, hlt⟩ := mem_numbered hentry
    change stream = stream ∧ s.lastReceived stream < entry.2 ∧ entry.2 ≤ _
    exact ⟨rfl, by omega, by omega⟩

/-- `ingestRawEvents` captures the new events of a request. -/
theorem ingestRawEvents_captures {request : NormalizedRequest}
    (h : s.ingestRawEvents request = .ok s') : Captures s s' := by
  unfold ingestRawEvents at h
  generalize keepFirst (· == ·) (request.events.map NormalizedEvent.streamId) = streamIds at h
  induction streamIds generalizing s with
  | nil =>
    cases h
    exact Captures.refl _
  | cons streamId streamIds ih =>
    rw [List.foldlM_cons] at h
    obtain ⟨s₁, hpersist, hrest⟩ := exists_of_bind_eq_ok h
    exact (persistStream_captures hpersist).trans (ih hrest)

/-- `purgeRawEvents` captures nothing. -/
theorem purgeRawEvents_captures (maxAgeMs nowMs : ℤ) :
    Captures s (s.purgeRawEvents maxAgeMs nowMs) := by
  unfold purgeRawEvents
  split_ifs
  · exact Captures.refl s
  · exact
      { batches := rfl
        flushed := fun _ => rfl
        received := fun _ => le_rfl
        event := fun _ hevent => .inl (List.mem_of_mem_filter hevent) }

end Calls

end RawEventStore

end Codemem

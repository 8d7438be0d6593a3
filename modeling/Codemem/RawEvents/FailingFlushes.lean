import Codemem.RawEvents.Batches

/-!
# Flushes that fail

The calls of `flushRawEvents` on one stream come one after the other, every ingest call fails with
an error that counts as an attempt, and events arrive between the calls.  A call is then one step:
it hands its selected events to the ingest call and records the failure, or it settles their batch
and moves the watermark, or it does nothing.
-/

namespace Codemem

namespace RawEventStore

def batchAt (s : RawEventStore) (key : BatchKey) : Option FlushBatch :=
  rowAt FlushBatch.key key s.batches

/-- What a call of `flushRawEvents` selects. -/
def selection (s : RawEventStore) (stream : StreamIdentity)
    (maxEvents throughEventSeq : Option ℤ) : Option FlushSelection :=
  flushSelection (oneHostGeneration
    (s.rawEventsSinceBySeq stream (s.rawEventFlushState stream) maxEvents throughEventSeq))

/-- The last statements of a call that settles its batch. -/
def settle (s : RawEventStore) (stream : StreamIdentity) (selection : FlushSelection)
    (batchId : ℕ) (exit : FlushExit) (now : String) : RawEventStore :=
  (s.updateRawEventFlushBatchStatus batchId exit.status now).updateRawEventFlushState stream
    selection.lastEventSeq

/-- The rest of a call from its claim on, when its ingest call fails. -/
def claimFailing (settings : FlushSettings) (s : RawEventStore) (stream : StreamIdentity)
    (selection : FlushSelection) (batchId : ℕ) (plan : ClaimPlan) (details : FailureDetails)
    (now : String) : RawEventStore × Option (FlushSelection × Bool) :=
  let claim := s.claimRawEventFlushBatch batchId now
  match settings.afterClaim selection batchId plan claim.1 with
  | .settling _ _ exit => (claim.2.settle stream selection batchId exit now, none)
  | .ingesting _ _ isLegacyRediagnosis =>
    ((FlushRun.handleFlushFailure claim.2 batchId isLegacyRediagnosis now (.other details)).2,
      some (selection, isLegacyRediagnosis))
  | _ => (claim.2, none)

/-- A call of `flushRawEvents` whose ingest call fails with an error that counts, if it comes to the
ingest call: then the result also tells whether it was the rediagnosis of a legacy failure. -/
def flushFailing (settings : FlushSettings) (s : RawEventStore) (stream : StreamIdentity)
    (maxEvents throughEventSeq : Option ℤ) (details : FailureDetails) (now : String) :
    RawEventStore × Option (FlushSelection × Bool) :=
  match s.selection stream maxEvents throughEventSeq with
  | none => (s, none)
  | some selection =>
    let found := s.getOrCreateRawEventFlushBatch stream selection.startEventSeq
      selection.lastEventSeq extractorVersion now
    match settings.afterLookup stream selection found.1 with
    | .advancing _ _ _ =>
      (found.2.updateRawEventFlushState stream selection.lastEventSeq, none)
    | .settling _ batchId exit => (found.2.settle stream selection batchId exit now, none)
    | .claiming _ batchId plan =>
      found.2.claimFailing settings stream selection batchId plan details now
    | _ => (found.2, none)

end RawEventStore

/-! ### Runs on one stream -/

/-- The event with a sequence number is selected. -/
def FlushSelection.contains (selection : FlushSelection) (seq : ℤ) : Bool :=
  selection.events.any fun event => event.eventSeq == seq

/-- The tables, and the selections that were handed to an ingest call, with whether the call was the
rediagnosis of a legacy failure. -/
structure StreamRun where
  store : RawEventStore
  attempted : List (FlushSelection × Bool)

/-- An arrival, or a call of `flushRawEvents` on the stream with the failure of its ingest call. -/
inductive StreamAction where
  | recordRawEvent (opencodeSessionId source : String) (event : CapturedEvent)
  | recordRawEventsBatch (opencodeSessionId : String) (events : List CapturedEvent)
  | ingestRawEvents (request : NormalizedRequest)
  | flushRawEvents (maxEvents throughEventSeq : Option ℤ) (details : FailureDetails)
      (now : String)

namespace StreamRun

/-- A transaction that throws leaves the tables alone. -/
def commit (sys : StreamRun) (result : Except String RawEventStore) : StreamRun :=
  match result with
  | .ok store => { sys with store }
  | .error _ => sys

def step (settings : FlushSettings) (stream : StreamIdentity) (sys : StreamRun) :
    StreamAction → StreamRun
  | .recordRawEvent opencodeSessionId source event =>
    sys.commit ((sys.store.recordRawEvent opencodeSessionId source event).map Prod.snd)
  | .recordRawEventsBatch opencodeSessionId events =>
    sys.commit ((sys.store.recordRawEventsBatch opencodeSessionId events).map Prod.snd)
  | .ingestRawEvents request => sys.commit (sys.store.ingestRawEvents request)
  | .flushRawEvents maxEvents throughEventSeq details now =>
    let flushed := sys.store.flushFailing settings stream maxEvents throughEventSeq details now
    ⟨flushed.1, sys.attempted ++ flushed.2.toList⟩

/-- How often the event with a sequence number took part in an ingest call, not counting
rediagnoses of legacy failures. -/
def attempts (sys : StreamRun) (seq : ℤ) : ℕ :=
  sys.attempted.countP fun attempt => !attempt.2 && attempt.1.contains seq

/-- How often it took part in the rediagnosis of a legacy failure. -/
def rediagnoses (sys : StreamRun) (seq : ℤ) : ℕ :=
  sys.attempted.countP fun attempt => attempt.2 && attempt.1.contains seq

end StreamRun

/-! ### What a failing flush does -/

namespace RawEventStore

variable {s : RawEventStore} {key k : BatchKey} {row : FlushBatch}

lemma batchAt_updateBatch (hunique : UniqueBatchIds s.batches) (hrow : s.batchAt key = some row)
    (guard : BatchStatus → Bool) {write : FlushBatch → FlushBatch}
    (hkey : ∀ batch, (write batch).key = batch.key) :
    (s.updateBatch row.id guard write).1 = guard row.status ∧
      ∀ k, (s.updateBatch row.id guard write).2.batchAt k =
        if k = key then some (if guard row.status then write row else row) else s.batchAt k := by
  obtain ⟨hmem, hrowKey⟩ := rowAt_eq_some hrow
  have hsame : ∀ batch ∈ s.batches, batch.id = row.id → batch = row :=
    fun batch hbatch hid => hunique batch hbatch row hmem hid
  constructor
  · rw [Bool.eq_iff_iff]
    simp only [updateBatch, List.any_eq_true, Bool.and_eq_true, beq_iff_eq]
    constructor
    · rintro ⟨batch, hbatch, hid, hguard⟩
      rwa [hsame batch hbatch hid] at hguard
    · exact fun hguard => ⟨row, hmem, rfl, hguard⟩
  · intro k
    unfold batchAt updateBatch
    rw [rowAt_updateRows hkey]
    split_ifs with hk hguard
    · subst hk
      rw [show rowAt FlushBatch.key k s.batches = some row from hrow, Option.map_some]
      simp [hguard]
    · subst hk
      rw [show rowAt FlushBatch.key k s.batches = some row from hrow, Option.map_some]
      simp [hguard]
    · cases hother : rowAt FlushBatch.key k s.batches with
      | none => rfl
      | some other =>
        obtain ⟨hmem', hkey'⟩ := rowAt_eq_some hother
        have hne : other.id ≠ row.id := by
          intro hid
          rw [hsame other hmem' hid, hrowKey] at hkey'
          exact hk hkey'.symm
        simp [hne]

/-- The batch that a call looks up, with the fields it had; a new one is pending. -/
lemma batchAt_getOrCreateRawEventFlushBatch (stream : StreamIdentity)
    (startEventSeq endEventSeq : ℤ) (version now : String) :
    ∃ row, (∀ k, (s.getOrCreateRawEventFlushBatch stream startEventSeq endEventSeq version
          now).2.batchAt k =
        if k = (stream, startEventSeq, endEventSeq, version) then some row else s.batchAt k) ∧
      row.key = (stream, startEventSeq, endEventSeq, version) ∧
      (s.getOrCreateRawEventFlushBatch stream startEventSeq endEventSeq version now).1 =
        { row with status := row.status.canonical } ∧
      ((∃ old, s.batchAt (stream, startEventSeq, endEventSeq, version) = some old ∧
          row.status = old.status ∧ row.attemptCount = old.attemptCount ∧
          row.errorType = old.errorType) ∨
        s.batchAt (stream, startEventSeq, endEventSeq, version) = none ∧
          row.status = .pending ∧ row.attemptCount = 0) := by
  let created : FlushBatch :=
    { id := s.nextBatchId, stream, startEventSeq, endEventSeq, extractorVersion := version,
      status := .pending, errorType := none, observerErrorCode := none,
      observerErrorMessage := none, attemptCount := 0, updatedAt := now }
  let touch (stored : FlushBatch) : FlushBatch :=
    if stored.status.isHeld then stored else { stored with updatedAt := now }
  have htouch : ∀ batch, (touch batch).key = batch.key ∧ (touch batch).status = batch.status ∧
      (touch batch).attemptCount = batch.attemptCount ∧
      (touch batch).errorType = batch.errorType := by
    intro batch
    dsimp only [touch]
    split_ifs
    · exact ⟨rfl, rfl, rfl, rfl⟩
    · exact ⟨rfl, rfl, rfl, rfl⟩
  have hrows : ∀ k, rowAt FlushBatch.key k (insertOrUpdate FlushBatch.key created touch
      s.batches) = if k = created.key then
        some (((rowAt FlushBatch.key created.key s.batches).map touch).getD created)
      else rowAt FlushBatch.key k s.batches := by
    intro k
    rw [rowAt_insertOrUpdate fun batch => (htouch batch).1]
    split_ifs with hk
    · rw [hk]
    · rfl
  have hself := (hrows created.key).trans (if_pos rfl)
  refine ⟨((rowAt FlushBatch.key created.key s.batches).map touch).getD created, hrows,
    (rowAt_eq_some hself).2, ?_, ?_⟩
  · unfold getOrCreateRawEventFlushBatch
    dsimp only
    rw [hself, Option.getD_some]
  · cases hold : s.batchAt (stream, startEventSeq, endEventSeq, version) with
    | none =>
      have hnone : rowAt FlushBatch.key created.key s.batches = none := hold
      rw [hnone]
      exact .inr ⟨rfl, rfl, rfl⟩
    | some old =>
      have hsome : rowAt FlushBatch.key created.key s.batches = some old := hold
      rw [hsome]
      exact .inl ⟨old, rfl, (htouch old).2⟩

/-- One batch is written, the others are as before. -/
structure WritesBatch (s s' : RawEventStore) (key : BatchKey) (row' : FlushBatch) : Prop where
  unique : UniqueBatchIds s'.batches
  self : s'.batchAt key = some row'
  others : ∀ k, k ≠ key → s'.batchAt k = s.batchAt k

namespace WritesBatch

variable {s' s'' : RawEventStore} {row' row'' : FlushBatch}

lemma trans (h : WritesBatch s s' key row') (h' : WritesBatch s' s'' key row'') :
    WritesBatch s s'' key row'' :=
  ⟨h'.unique, h'.self, fun k hk => (h'.others k hk).trans (h.others k hk)⟩

lemma key_eq (h : WritesBatch s s' key row') : row'.key = key := (rowAt_eq_some h.self).2

end WritesBatch

lemma writesBatch_updateBatch (hunique : UniqueBatchIds s.batches)
    (hrow : s.batchAt key = some row) {guard : BatchStatus → Bool}
    {write : FlushBatch → FlushBatch} (hid : ∀ batch, (write batch).id = batch.id)
    (hkey : ∀ batch, (write batch).key = batch.key) (hguard : guard row.status = true) :
    WritesBatch s (s.updateBatch row.id guard write).2 key (write row) := by
  obtain ⟨-, hrows⟩ := batchAt_updateBatch hunique hrow guard hkey
  refine ⟨(batchesStep_updateRows hid hkey).uniqueIds hunique, ?_, fun k hk => ?_⟩
  · rw [hrows, if_pos rfl, if_pos hguard]
  · rw [hrows, if_neg hk]

lemma writesBatch_settle (hunique : UniqueBatchIds s.batches) (hrow : s.batchAt key = some row)
    (stream : StreamIdentity) (selection : FlushSelection) (exit : FlushExit) (now : String) :
    ∃ row', WritesBatch s (s.settle stream selection row.id exit now) key row' ∧
      row'.status = exit.status ∧ row'.attemptCount = row.attemptCount ∧
      (row'.errorType = row.errorType ∨ row'.errorType = none) := by
  let write (batch : FlushBatch) : FlushBatch :=
    if exit.status = .failed ∨ exit.status = .gaveUp then
      { batch with status := exit.status, updatedAt := now }
    else
      { batch with
        status := exit.status
        updatedAt := now
        errorType := none
        observerErrorCode := none
        observerErrorMessage := none }
  have hwrite : ∀ batch, (write batch).id = batch.id ∧ (write batch).key = batch.key ∧
      (write batch).status = exit.status ∧ (write batch).attemptCount = batch.attemptCount ∧
      ((write batch).errorType = batch.errorType ∨ (write batch).errorType = none) := by
    intro batch
    dsimp only [write]
    split_ifs
    · exact ⟨rfl, rfl, rfl, rfl, .inl rfl⟩
    · exact ⟨rfl, rfl, rfl, rfl, .inr rfl⟩
  have hwrites := @writesBatch_updateBatch s key row hunique hrow (fun _ => true) write
    (fun batch => (hwrite batch).1) (fun batch => (hwrite batch).2.1) rfl
  exact ⟨write row, ⟨hwrites.unique, hwrites.self, hwrites.others⟩, (hwrite row).2.2⟩

end RawEventStore

lemma normalizedFlushErrorType_legacy (details : FailureDetails) :
    normalizedFlushErrorType details true ≠ "Error" := by
  unfold normalizedFlushErrorType
  dsimp only
  split_ifs with hobserver herror hplain
  · decide
  · decide
  · decide
  · exact fun h => hplain ⟨h, rfl⟩

lemma FlushSettings.effectiveMax_pos (settings : FlushSettings) : 0 < settings.effectiveMax := by
  unfold FlushSettings.effectiveMax
  cases settings.maxFlushAttempts with
  | none => decide
  | some n =>
    dsimp only
    split_ifs with hn
    · exact hn
    · decide

namespace RawEventStore

variable {settings : FlushSettings} {s : RawEventStore} {stream : StreamIdentity}
  {maxEvents throughEventSeq : Option ℤ} {details : FailureDetails} {now : String}
  {selection : FlushSelection}

def selectionKey (stream : StreamIdentity) (selection : FlushSelection) : BatchKey :=
  (stream, selection.startEventSeq, selection.lastEventSeq, extractorVersion)

/-- The batch that a call finds has the fields that it had before, or it is new. -/
def IsFound (s : RawEventStore) (key : BatchKey) (row : FlushBatch) : Prop :=
  (∃ old, s.batchAt key = some old ∧ row.status = old.status ∧
      row.attemptCount = old.attemptCount ∧ row.errorType = old.errorType) ∨
    s.batchAt key = none ∧ row.status = .pending ∧ row.attemptCount = 0

/-- What a call does with the batch that it found. -/
inductive FlushEffect (settings : FlushSettings) (s : RawEventStore) (stream : StreamIdentity)
    (selection : FlushSelection) (details : FailureDetails) (row row' : FlushBatch)
    (s' : RawEventStore) : Option (FlushSelection × Bool) → Prop
  | attempted (isLegacyRediagnosis : Bool) (hclaimable : row.status.isClaimable = true)
      (hflushed : s'.rawEventFlushState stream = s.rawEventFlushState stream)
      (hstatus : row'.status = .failed) (hcount : row'.attemptCount = row.attemptCount + 1)
      (herror : row'.errorType = some (normalizedFlushErrorType details isLegacyRediagnosis))
      (hlegacy : isLegacyRediagnosis = true →
        settings.effectiveMax ≤ row.attemptCount ∧ row.errorType = some "Error")
      (hplain : isLegacyRediagnosis = false → row.status.canonical = .failed →
        row.attemptCount < settings.effectiveMax) :
      FlushEffect settings s stream selection details row row' s'
        (some (selection, isLegacyRediagnosis))
  | settled (hflushed : s'.rawEventFlushState stream = selection.lastEventSeq)
      (hstatus : row'.status.isSettled = true) (hcount : row.attemptCount ≤ row'.attemptCount)
      (herror : row'.errorType = row.errorType ∨ row'.errorType = none) :
      FlushEffect settings s stream selection details row row' s' none
  | refused (hstatus : row.status.isClaimable = false) (hne : row.status ≠ .completed) :
      FlushEffect settings s stream selection details row row' s' none

lemma FlushEffect.of_flushed {row row' : FlushBatch} {found s' : RawEventStore}
    {result : Option (FlushSelection × Bool)}
    (h : FlushEffect settings found stream selection details row row' s' result)
    (hflushed : found.rawEventFlushState stream = s.rawEventFlushState stream) :
    FlushEffect settings s stream selection details row row' s' result := by
  cases h with
  | attempted legacy hclaimable hsame hstatus hcount herror hlegacy hplain =>
    exact .attempted legacy hclaimable (hsame.trans hflushed) hstatus hcount herror hlegacy hplain
  | settled hmoved hstatus hcount herror => exact .settled hmoved hstatus hcount herror
  | refused hstatus hne => exact .refused hstatus hne

lemma flushFailing_of_none (h : s.selection stream maxEvents throughEventSeq = none) :
    s.flushFailing settings stream maxEvents throughEventSeq details now = (s, none) := by
  rw [flushFailing, h]

/-- A call that has claimed its batch settles it, or hands its events to the ingest call. -/
lemma claimFailing_spec {key : BatchKey} {row : FlushBatch} (hunique : UniqueBatchIds s.batches)
    (hrow : s.batchAt key = some row) (plan : ClaimPlan)
    (hlegacy : plan = .ingest true →
      settings.effectiveMax ≤ row.attemptCount ∧ row.errorType = some "Error")
    (hplain : plan = .ingest false → row.status.canonical = .failed →
      row.attemptCount < settings.effectiveMax) (hne : row.status ≠ .completed) :
    ∃ row', WritesBatch s (s.claimFailing settings stream selection row.id plan details now).1 key
        row' ∧ FlushEffect settings s stream selection details row row'
          (s.claimFailing settings stream selection row.id plan details now).1
          (s.claimFailing settings stream selection row.id plan details now).2 := by
  let claimed : FlushBatch :=
    { row with status := .claimed, updatedAt := now, attemptCount := row.attemptCount + 1 }
  obtain ⟨hfound, hrows⟩ := @batchAt_updateBatch s key row hunique hrow BatchStatus.isClaimable
    (fun batch => { batch with
      status := .claimed, updatedAt := now, attemptCount := batch.attemptCount + 1 })
    fun _ => rfl
  have hfound : (s.claimRawEventFlushBatch row.id now).1 = row.status.isClaimable := hfound
  have hclaimUnique := (@claimRawEventFlushBatch_spec s row.id now).1.uniqueIds hunique
  unfold claimFailing
  dsimp only
  rw [hfound]
  unfold FlushSettings.afterClaim
  cases hclaimable : row.status.isClaimable with
  | false =>
    refine ⟨row, ⟨hclaimUnique, ?_, fun k hk => ?_⟩, .refused hclaimable hne⟩
    · exact (hrows key).trans (by rw [if_pos rfl, hclaimable]; rfl)
    · exact (hrows k).trans (if_neg hk)
  | true =>
    have hclaim : WritesBatch s (s.claimRawEventFlushBatch row.id now).2 key claimed := by
      refine ⟨hclaimUnique, ?_, fun k hk => (hrows k).trans (if_neg hk)⟩
      exact (hrows key).trans (by rw [if_pos rfl, hclaimable]; rfl)
    -- Settling keeps the attempt that the claim has counted.
    have hsettle : ∀ exit : FlushExit, ∃ row', WritesBatch s
        ((s.claimRawEventFlushBatch row.id now).2.settle stream selection row.id exit now) key
          row' ∧ FlushEffect settings s stream selection details row row'
            ((s.claimRawEventFlushBatch row.id now).2.settle stream selection row.id exit now)
            none := by
      intro exit
      obtain ⟨row', hwrites, hstatus, hcount, herror⟩ :=
        writesBatch_settle hclaim.unique hclaim.self stream selection exit now
      refine ⟨row', hclaim.trans hwrites, .settled ?_ ?_ ?_ herror⟩
      · exact rawEventFlushState_updateRawEventFlushState.trans (if_pos rfl)
      · rw [hstatus, FlushExit.isSettled_status]
      · rw [hcount]
        exact Nat.le_succ _
    cases plan with
    | contextOnly => exact hsettle .contextOnly
    | ingest isLegacyRediagnosis =>
      dsimp only
      rw [if_pos rfl]
      split_ifs
      · exact hsettle .lowSignal
      · have hwrites := @writesBatch_updateBatch _ key claimed hclaim.unique hclaim.self
          (fun _ => true) (fun batch =>
            { batch with
              status := .failed
              updatedAt := now
              errorType := some (normalizedFlushErrorType details isLegacyRediagnosis)
              observerErrorCode := details.observerErrorCode
              observerErrorMessage := details.observerErrorMessage })
          (fun _ => rfl) (fun _ => rfl) rfl
        refine ⟨_, hclaim.trans hwrites, .attempted isLegacyRediagnosis hclaimable rfl rfl rfl rfl
          ?_ ?_⟩
        · exact fun h => hlegacy (h ▸ rfl)
        · exact fun h => hplain (h ▸ rfl)

/-- A call with events above the watermark writes the batch of their range only. -/
lemma flushFailing_of_some (hunique : UniqueBatchIds s.batches)
    (h : s.selection stream maxEvents throughEventSeq = some selection) :
    ∃ row row', s.IsFound (selectionKey stream selection) row ∧
      row.key = selectionKey stream selection ∧
      WritesBatch s (s.flushFailing settings stream maxEvents throughEventSeq details now).1
        (selectionKey stream selection) row' ∧
      FlushEffect settings s stream selection details row row'
        (s.flushFailing settings stream maxEvents throughEventSeq details now).1
        (s.flushFailing settings stream maxEvents throughEventSeq details now).2 := by
  have hfoundUnique := (getOrCreateRawEventFlushBatch_spec stream selection.startEventSeq
    selection.lastEventSeq extractorVersion now).1.uniqueIds hunique
  obtain ⟨row, hrows, hkey, hfound, hfields⟩ := @batchAt_getOrCreateRawEventFlushBatch s stream
    selection.startEventSeq selection.lastEventSeq extractorVersion now
  unfold flushFailing
  rw [h]
  dsimp only
  rw [hfound]
  have hflushedFound : (s.getOrCreateRawEventFlushBatch stream selection.startEventSeq
      selection.lastEventSeq extractorVersion now).2.rawEventFlushState stream =
        s.rawEventFlushState stream := rfl
  generalize (s.getOrCreateRawEventFlushBatch stream selection.startEventSeq
    selection.lastEventSeq extractorVersion now).2 = found at *
  have hwritesFound : WritesBatch s found (selectionKey stream selection) row :=
    ⟨hfoundUnique, (hrows _).trans (if_pos rfl), fun k hk => (hrows k).trans (if_neg hk)⟩
  -- The claim starts from the tables of the lookup, which have the same watermark.
  have hclaim : ∀ plan : ClaimPlan, (plan = .ingest true →
        settings.effectiveMax ≤ row.attemptCount ∧ row.errorType = some "Error") →
      (plan = .ingest false → row.status.canonical = .failed →
        row.attemptCount < settings.effectiveMax) → row.status ≠ .completed →
      ∃ looked row', s.IsFound (selectionKey stream selection) looked ∧
        looked.key = selectionKey stream selection ∧
        WritesBatch s (found.claimFailing settings stream selection row.id plan details now).1
          (selectionKey stream selection) row' ∧
        FlushEffect settings s stream selection details looked row'
          (found.claimFailing settings stream selection row.id plan details now).1
          (found.claimFailing settings stream selection row.id plan details now).2 := by
    intro plan hlegacy hplain hne
    obtain ⟨row', hwrites, heffect⟩ := @claimFailing_spec settings found stream details now
      selection _ _ hfoundUnique hwritesFound.self plan hlegacy hplain hne
    exact ⟨row, row', hfields, hkey, hwritesFound.trans hwrites, heffect.of_flushed hflushedFound⟩
  have hne : row.status.canonical ≠ .completed → row.status ≠ .completed :=
    fun h hrow => h (by rw [hrow]; rfl)
  unfold FlushSettings.afterLookup
  dsimp only
  split_ifs with hcompleted hcontext hmax hrediagnose
  · refine ⟨row, row, hfields, hkey, ⟨hwritesFound.unique, hwritesFound.self,
      hwritesFound.others⟩, .settled ?_ ?_ le_rfl (.inl rfl)⟩
    · exact rawEventFlushState_updateRawEventFlushState.trans (if_pos rfl)
    · rw [BatchStatus.eq_completed_of_canonical hcompleted]
      rfl
  · exact hclaim .contextOnly (fun h => by cases h) (fun h => by cases h) (hne hcompleted)
  · refine hclaim (.ingest true) (fun _ => ⟨hmax.1, ?_⟩) (fun h => by cases h) (hne hcompleted)
    unfold FlushSettings.shouldRediagnoseLegacyNoOutputMicrobatch at hrediagnose
    simp only [Bool.and_eq_true, beq_iff_eq] at hrediagnose
    exact hrediagnose.1.2
  · obtain ⟨row', hwrites, hstatus, hcount, herror⟩ := writesBatch_settle hfoundUnique
      hwritesFound.self stream selection (.abandoned
        (settings.isTerminalNoOutputMicrobatch selection.events
          { row with status := row.status.canonical })) now
    refine ⟨row, row', hfields, hkey, hwritesFound.trans hwrites,
      .settled ?_ ?_ hcount.ge herror⟩
    · exact rawEventFlushState_updateRawEventFlushState.trans (if_pos rfl)
    · rw [hstatus, FlushExit.isSettled_status]
  · refine hclaim (.ingest false) (fun h => by cases h) (fun _ hfailed => ?_) (hne hcompleted)
    by_contra hle
    exact hmax ⟨not_lt.mp hle, .inl hfailed⟩

end RawEventStore

end Codemem

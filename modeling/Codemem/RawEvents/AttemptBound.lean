import Codemem.RawEvents.FailingFlushes

/-!
# How often an event is attempted

An attempt is counted on the batch of its exact range.  As long as every call that takes up events
of an attempted batch takes up exactly its range, the attempts of an event are those of one batch,
and its counter stops them: at most the configured number of attempts and one rediagnosis
(`attempts_bounded_of_stable`).  An event that arrives between two calls extends the range, and the
extended range has a counter of its own (`attempts_exceed_limit`).
-/

namespace Codemem

/-- No other worker holds the batch, and an abandoned one lies below the watermark. -/
def FlushBatch.IsQuiet (batch : FlushBatch) (lastFlushed : ℤ) : Prop :=
  (batch.status.canonical = .pending ∧ batch.attemptCount = 0) ∨
    batch.status.canonical = .failed ∨ batch.status = .completed ∨
      batch.status = .gaveUp ∧ batch.endEventSeq ≤ lastFlushed

lemma FlushBatch.IsQuiet.mono {batch : FlushBatch} {lastFlushed lastFlushed' : ℤ}
    (h : batch.IsQuiet lastFlushed) (hle : lastFlushed ≤ lastFlushed') :
    batch.IsQuiet lastFlushed' := by
  rcases h with h | h | h | ⟨h, hend⟩
  · exact .inl h
  · exact .inr (.inl h)
  · exact .inr (.inr (.inl h))
  · exact .inr (.inr (.inr ⟨h, hend.trans hle⟩))

/-- The batches of a stream between two calls. -/
def RawEventStore.Quiet (s : RawEventStore) (stream : StreamIdentity) : Prop :=
  UniqueBatchIds s.batches ∧
    ∀ batch ∈ s.batches, batch.stream = stream → batch.IsQuiet (s.rawEventFlushState stream)

lemma FlushSelection.range_of_contains {events : List RawEvent} {selection : FlushSelection}
    (h : flushSelection events = some selection) {seq : ℤ} (hseq : selection.contains seq = true) :
    selection.startEventSeq ≤ seq ∧ seq ≤ selection.lastEventSeq := by
  have hevents : selection.events = events := by
    unfold flushSelection at h
    split at h
    · cases h
    · cases h
      rfl
  obtain ⟨event, hevent, heq⟩ := List.any_eq_true.mp hseq
  rw [hevents] at hevent
  have hbounds := (flushSelection_eq_some h).1 event hevent
  rwa [beq_iff_eq.mp heq] at hbounds

namespace StreamRun

/-- A call that takes up events of an attempted batch takes up exactly its range. -/
def KeepsRanges (stream : StreamIdentity) (sys : StreamRun) : StreamAction → Prop
  | .flushRawEvents maxEvents throughEventSeq _ _ =>
    ∀ selection ∈ sys.store.selection stream maxEvents throughEventSeq,
      ∀ batch ∈ sys.store.batches, batch.stream = stream →
        batch.extractorVersion = extractorVersion → 0 < batch.attemptCount →
        batch.startEventSeq ≤ selection.lastEventSeq →
        selection.startEventSeq ≤ batch.endEventSeq →
        batch.startEventSeq = selection.startEventSeq ∧
          batch.endEventSeq = selection.lastEventSeq
  | _ => True

/-! ### Counting attempts -/

section Counting

variable {store : RawEventStore} {selection : FlushSelection} {seq : ℤ}

lemma attempts_concat (sys : StreamRun) (isLegacyRediagnosis : Bool) :
    attempts ⟨store, sys.attempted ++ [(selection, isLegacyRediagnosis)]⟩ seq =
      sys.attempts seq + if !isLegacyRediagnosis && selection.contains seq then 1 else 0 := by
  rw [attempts, attempts, List.countP_append, List.countP_singleton]

lemma rediagnoses_concat (sys : StreamRun) (isLegacyRediagnosis : Bool) :
    rediagnoses ⟨store, sys.attempted ++ [(selection, isLegacyRediagnosis)]⟩ seq =
      sys.rediagnoses seq + if isLegacyRediagnosis && selection.contains seq then 1 else 0 := by
  rw [rediagnoses, rediagnoses, List.countP_append, List.countP_singleton]

end Counting

/-! ### The invariant -/

/-- The counter of a batch accounts for the attempts of an event; it has passed the limit when a
rediagnosis was among them. -/
structure Accounts (settings : FlushSettings) (batch : FlushBatch) (attempts rediagnoses : ℕ) :
    Prop where
  total : attempts + rediagnoses ≤ batch.attemptCount
  legacy : rediagnoses = 0 ∨
    settings.effectiveMax < batch.attemptCount ∧ batch.errorType ≠ some "Error"

/-- Between two calls: each event that was attempted lies in a batch whose counter accounts for all
its attempts, and it was attempted at most as often as the limit says, and rediagnosed once. -/
structure AttemptsBounded (settings : FlushSettings) (stream : StreamIdentity) (sys : StreamRun) :
    Prop where
  unique : UniqueBatchIds sys.store.batches
  quiet : ∀ key row, sys.store.batchAt key = some row → key.1 = stream →
    row.IsQuiet (sys.store.rawEventFlushState stream)
  counted : ∀ seq, (sys.attempts seq = 0 ∧ sys.rediagnoses seq = 0) ∨
    ∃ first last row, sys.store.batchAt (stream, first, last, extractorVersion) = some row ∧
      (first ≤ seq ∧ seq ≤ last) ∧
        Accounts settings row (sys.attempts seq) (sys.rediagnoses seq)
  bounded : ∀ seq, (sys.attempts seq : ℤ) ≤ settings.effectiveMax ∧ sys.rediagnoses seq ≤ 1

namespace AttemptsBounded

variable {settings : FlushSettings} {stream : StreamIdentity} {sys : StreamRun}

lemma initial {s : RawEventStore} (h : s.Quiet stream) :
    AttemptsBounded settings stream ⟨s, []⟩ where
  unique := h.1
  quiet := by
    intro key row hrow hkey
    obtain ⟨hmem, hrowKey⟩ := rowAt_eq_some hrow
    refine h.2 row hmem ?_
    rw [← hkey, ← hrowKey]
    rfl
  counted := fun _ => .inl ⟨rfl, rfl⟩
  bounded := fun _ => ⟨settings.effectiveMax_pos.le, Nat.zero_le 1⟩

lemma captured (h : AttemptsBounded settings stream sys) {s : RawEventStore}
    (hcaptures : RawEventStore.Captures sys.store s) :
    AttemptsBounded settings stream { sys with store := s } where
  unique := hcaptures.batches ▸ h.unique
  quiet := by
    intro key row hrow hkey
    rw [hcaptures.flushed]
    refine h.quiet key row ?_ hkey
    rwa [RawEventStore.batchAt, ← hcaptures.batches]
  counted := by
    intro seq
    refine (h.counted seq).imp_right ?_
    rintro ⟨first, last, row, hrow, hrest⟩
    refine ⟨first, last, row, ?_, hrest⟩
    rwa [RawEventStore.batchAt, hcaptures.batches]
  bounded := h.bounded

lemma commit (h : AttemptsBounded settings stream sys) {result : Except String RawEventStore}
    (hcaptures : ∀ s, result = .ok s → RawEventStore.Captures sys.store s) :
    AttemptsBounded settings stream (sys.commit result) := by
  cases result with
  | error message => exact h
  | ok s => exact h.captured (hcaptures s rfl)

section Flush

variable {maxEvents throughEventSeq : Option ℤ} {details : FailureDetails} {now : String}
  {selection : FlushSelection} {row : FlushBatch}

lemma isQuiet_of_isFound (h : AttemptsBounded settings stream sys)
    (hfound : sys.store.IsFound (RawEventStore.selectionKey stream selection) row)
    (hkey : row.key = RawEventStore.selectionKey stream selection) :
    row.IsQuiet (sys.store.rawEventFlushState stream) := by
  rcases hfound with ⟨old, hold, hstatus, hcount, -⟩ | ⟨-, hstatus, hcount⟩
  · have hquiet := h.quiet _ old hold rfl
    have hend : row.endEventSeq = old.endEventSeq := by
      have hsame : row.key = old.key := hkey.trans (rowAt_eq_some hold).2.symm
      exact congrArg (fun key : BatchKey => key.2.2.1) hsame
    unfold FlushBatch.IsQuiet at hquiet ⊢
    rwa [hstatus, hcount, hend]
  · refine .inl ⟨?_, hcount⟩
    rw [hstatus]
    rfl

lemma isClaimable_of_isQuiet {events : List RawEvent} {lastFlushed : ℤ}
    (hquiet : row.IsQuiet lastFlushed)
    (hkey : row.key = RawEventStore.selectionKey stream selection)
    (hsel : flushSelection events = some selection)
    (hafter : lastFlushed < selection.startEventSeq) :
    row.status.isClaimable = true ∨ row.status = .completed := by
  have hcanonical : ∀ status : BatchStatus, status.canonical = .pending ∨
      status.canonical = .failed → status.isClaimable = true := by
    intro status hstatus
    cases status <;> simp_all [BatchStatus.canonical, BatchStatus.isClaimable]
  rcases hquiet with ⟨h, -⟩ | h | h | ⟨-, hend⟩
  · exact .inl (hcanonical _ (.inl h))
  · exact .inl (hcanonical _ (.inr h))
  · exact .inr h
  · -- An abandoned batch ends at the watermark, and the selection starts above it.
    exfalso
    have hlast : row.endEventSeq = selection.lastEventSeq :=
      congrArg (fun key : BatchKey => key.2.2.1) hkey
    obtain ⟨hbounds, ⟨event, hevent, hstart⟩, -⟩ := flushSelection_eq_some hsel
    have hle := (hbounds event hevent).2
    omega

lemma accounts_of_keepsRanges (h : AttemptsBounded settings stream sys)
    (hstable : KeepsRanges stream sys (.flushRawEvents maxEvents throughEventSeq details now))
    (hsel : sys.store.selection stream maxEvents throughEventSeq = some selection)
    (hfound : sys.store.IsFound (RawEventStore.selectionKey stream selection) row) {seq : ℤ}
    (hseq : selection.contains seq = true) :
    Accounts settings row (sys.attempts seq) (sys.rediagnoses seq) := by
  obtain ⟨hstart, hlast⟩ := FlushSelection.range_of_contains hsel hseq
  by_cases hnone : sys.attempts seq = 0 ∧ sys.rediagnoses seq = 0
  · rw [hnone.1, hnone.2]
    exact ⟨Nat.zero_le _, .inl rfl⟩
  obtain hzero | ⟨first, last, old, hold, ⟨hfirst, hle⟩, haccounts⟩ := h.counted seq
  · exact absurd hzero hnone
  obtain ⟨hmem, holdKey⟩ := rowAt_eq_some hold
  have hcount : 0 < old.attemptCount := by
    have htotal := haccounts.total
    omega
  have holdFirst : old.startEventSeq = first :=
    congrArg (fun key : BatchKey => key.2.1) holdKey
  have holdLast : old.endEventSeq = last := congrArg (fun key : BatchKey => key.2.2.1) holdKey
  obtain ⟨hsameFirst, hsameLast⟩ := hstable selection hsel old hmem
    (congrArg Prod.fst holdKey) (congrArg (fun key : BatchKey => key.2.2.2) holdKey) hcount
    (by omega) (by omega)
  have hkey : (stream, first, last, extractorVersion) =
      RawEventStore.selectionKey stream selection := by
    rw [← holdFirst, ← holdLast, hsameFirst, hsameLast]
    rfl
  rw [hkey] at hold
  rcases hfound with ⟨old', hold', -, hcount', herror'⟩ | ⟨hnew, -⟩
  · obtain rfl : old = old' := Option.some.inj (hold.symm.trans hold')
    refine ⟨?_, ?_⟩
    · rw [hcount']
      exact haccounts.total
    · rw [hcount', herror']
      exact haccounts.legacy
  · rw [hnew] at hold
    cases hold

lemma counted_of_writesBatch (h : AttemptsBounded settings stream sys)
    (hfound : sys.store.IsFound (RawEventStore.selectionKey stream selection) row)
    {s' : RawEventStore} {row' : FlushBatch}
    (hwrites : RawEventStore.WritesBatch sys.store s'
      (RawEventStore.selectionKey stream selection) row')
    (hkeep : ∀ attempts rediagnoses, Accounts settings row attempts rediagnoses →
      Accounts settings row' attempts rediagnoses) (seq : ℤ) :
    (sys.attempts seq = 0 ∧ sys.rediagnoses seq = 0) ∨
      ∃ first last row, s'.batchAt (stream, first, last, extractorVersion) = some row ∧
        (first ≤ seq ∧ seq ≤ last) ∧
          Accounts settings row (sys.attempts seq) (sys.rediagnoses seq) := by
  refine (h.counted seq).imp_right ?_
  rintro ⟨first, last, old, hold, hcovers, haccounts⟩
  by_cases hkey : (stream, first, last, extractorVersion) =
      RawEventStore.selectionKey stream selection
  · refine ⟨first, last, row', hkey ▸ hwrites.self, hcovers, hkeep _ _ ?_⟩
    rw [hkey] at hold
    rcases hfound with ⟨old', hold', -, hcount', herror'⟩ | ⟨hnew, -⟩
    · obtain rfl : old = old' := Option.some.inj (hold.symm.trans hold')
      refine ⟨?_, ?_⟩
      · rw [hcount']
        exact haccounts.total
      · rw [hcount', herror']
        exact haccounts.legacy
    · rw [hnew] at hold
      cases hold
  · exact ⟨first, last, old, (hwrites.others _ hkey).trans hold, hcovers, haccounts⟩

lemma quiet_of_writesBatch (h : AttemptsBounded settings stream sys) {s' : RawEventStore}
    {row' : FlushBatch} {written : BatchKey}
    (hwrites : RawEventStore.WritesBatch sys.store s' written row')
    (hquiet : row'.IsQuiet (s'.rawEventFlushState stream))
    (hle : sys.store.rawEventFlushState stream ≤ s'.rawEventFlushState stream) :
    ∀ key row, s'.batchAt key = some row → key.1 = stream →
      row.IsQuiet (s'.rawEventFlushState stream) := by
  intro key row hrow hkey
  by_cases hsame : key = written
  · rw [hsame, hwrites.self] at hrow
    exact Option.some.inj hrow ▸ hquiet
  · rw [hwrites.others key hsame] at hrow
    exact (h.quiet key row hrow hkey).mono hle

lemma lt_effectiveMax_of_claimable {lastFlushed : ℤ} (hquiet : row.IsQuiet lastFlushed)
    (hclaimable : row.status.isClaimable = true)
    (hplain : row.status.canonical = .failed → (row.attemptCount : ℤ) < settings.effectiveMax) :
    (row.attemptCount : ℤ) < settings.effectiveMax := by
  rcases hquiet with ⟨-, hcount⟩ | hfailed | hcompleted | ⟨hgaveUp, -⟩
  · rw [hcount]
    exact settings.effectiveMax_pos
  · exact hplain hfailed
  · rw [hcompleted] at hclaimable
    cases hclaimable
  · rw [hgaveUp] at hclaimable
    cases hclaimable

/-- A failed ingest call keeps the invariant: its batch accounts for one more attempt. -/
lemma attempted (h : AttemptsBounded settings stream sys)
    (hsel : sys.store.selection stream maxEvents throughEventSeq = some selection)
    (hfound : sys.store.IsFound (RawEventStore.selectionKey stream selection) row)
    {s' : RawEventStore} {row' : FlushBatch}
    (hwrites : RawEventStore.WritesBatch sys.store s'
      (RawEventStore.selectionKey stream selection) row')
    (hquiet : row.IsQuiet (sys.store.rawEventFlushState stream))
    (haccounts : ∀ seq, selection.contains seq = true →
      Accounts settings row (sys.attempts seq) (sys.rediagnoses seq))
    {isLegacyRediagnosis : Bool} (hclaimable : row.status.isClaimable = true)
    (hflushed : s'.rawEventFlushState stream = sys.store.rawEventFlushState stream)
    (hstatus : row'.status = .failed) (hcount : row'.attemptCount = row.attemptCount + 1)
    (herror : row'.errorType = some (normalizedFlushErrorType details isLegacyRediagnosis))
    (hlegacy : isLegacyRediagnosis = true →
      settings.effectiveMax ≤ row.attemptCount ∧ row.errorType = some "Error")
    (hplain : isLegacyRediagnosis = false → row.status.canonical = .failed →
      row.attemptCount < settings.effectiveMax) :
    AttemptsBounded settings stream
      ⟨s', sys.attempted ++ [(selection, isLegacyRediagnosis)]⟩ := by
  -- The counter has not passed the limit, so no rediagnosis was counted on it.
  have hfirst : ¬(settings.effectiveMax < row.attemptCount ∧ row.errorType ≠ some "Error") := by
    rintro ⟨hover, hne⟩
    cases isLegacyRediagnosis with
    | true => exact hne (hlegacy rfl).2
    | false =>
      have hlt := lt_effectiveMax_of_claimable hquiet hclaimable (hplain rfl)
      omega
  have hkeep : ∀ attempts rediagnoses, Accounts settings row attempts rediagnoses →
      Accounts settings row' attempts rediagnoses := by
    rintro attempts rediagnoses ⟨htotal, hnone⟩
    exact ⟨by omega, .inl (hnone.resolve_right hfirst)⟩
  refine ⟨hwrites.unique, h.quiet_of_writesBatch hwrites (.inr (.inl (by rw [hstatus]; rfl)))
    hflushed.ge, fun seq => ?_, fun seq => ?_⟩
  · rw [attempts_concat, rediagnoses_concat]
    cases hseq : selection.contains seq with
    | false =>
      simp only [Bool.and_false, Bool.false_eq_true, if_false, Nat.add_zero]
      exact h.counted_of_writesBatch hfound hwrites hkeep seq
    | true =>
      have hrange := FlushSelection.range_of_contains hsel hseq
      obtain ⟨htotal, hnone⟩ := haccounts seq hseq
      have hzero := hnone.resolve_right hfirst
      refine .inr ⟨selection.startEventSeq, selection.lastEventSeq, row', hwrites.self, hrange,
        ?_⟩
      cases isLegacyRediagnosis with
      | true =>
        obtain ⟨hover, -⟩ := hlegacy rfl
        refine ⟨?_, .inr ⟨?_, ?_⟩⟩
        · simp
          omega
        · rw [hcount]
          push_cast
          omega
        · rw [herror]
          exact fun heq => normalizedFlushErrorType_legacy details (Option.some.inj heq)
      | false =>
        refine ⟨?_, .inl ?_⟩
        · simp
          omega
        · simpa using hzero
  · rw [attempts_concat, rediagnoses_concat]
    obtain ⟨hmax, honce⟩ := h.bounded seq
    cases hseq : selection.contains seq with
    | false => simpa using ⟨hmax, honce⟩
    | true =>
      obtain ⟨htotal, hnone⟩ := haccounts seq hseq
      have hzero := hnone.resolve_right hfirst
      cases isLegacyRediagnosis with
      | true => simpa [hzero] using hmax
      | false =>
        have hlt := lt_effectiveMax_of_claimable hquiet hclaimable (hplain rfl)
        constructor
        · simp
          omega
        · simpa using honce

/-- A call keeps the invariant when it keeps to the ranges of the attempted batches. -/
lemma flush (h : AttemptsBounded settings stream sys)
    (hstable : KeepsRanges stream sys (.flushRawEvents maxEvents throughEventSeq details now)) :
    AttemptsBounded settings stream
      (sys.step settings stream (.flushRawEvents maxEvents throughEventSeq details now)) := by
  change AttemptsBounded settings stream
    ⟨(sys.store.flushFailing settings stream maxEvents throughEventSeq details now).1,
      sys.attempted ++
        (sys.store.flushFailing settings stream maxEvents throughEventSeq details now).2.toList⟩
  cases hsel : sys.store.selection stream maxEvents throughEventSeq with
  | none =>
    rw [RawEventStore.flushFailing_of_none hsel, Option.toList_none, List.append_nil]
    exact h
  | some selection =>
    obtain ⟨row, row', hfound, hkey, hwrites, heffect⟩ :=
      @RawEventStore.flushFailing_of_some settings _ _ _ _ details now _ h.unique hsel
    have hquiet := h.isQuiet_of_isFound hfound hkey
    have hafter := (flushSelection_spec hsel).1
    have haccounts : ∀ seq, selection.contains seq = true →
        Accounts settings row (sys.attempts seq) (sys.rediagnoses seq) :=
      fun seq hseq => h.accounts_of_keepsRanges hstable hsel hfound hseq
    generalize sys.store.flushFailing settings stream maxEvents throughEventSeq details now =
      flushed at hwrites heffect ⊢
    obtain ⟨s', result⟩ := flushed
    dsimp only at hwrites heffect ⊢
    cases heffect with
    | attempted isLegacyRediagnosis hclaimable hflushed hstatus hcount herror hlegacy hplain =>
      exact h.attempted hsel hfound hwrites hquiet haccounts hclaimable hflushed hstatus hcount
        herror hlegacy hplain
    | settled hflushed hstatus hcount herror =>
      have hle : sys.store.rawEventFlushState stream ≤ s'.rawEventFlushState stream := by
        obtain ⟨hbounds, ⟨event, hevent, hstart⟩, -⟩ := flushSelection_eq_some hsel
        have hle := (hbounds event hevent).2
        omega
      rw [Option.toList_none, List.append_nil]
      refine ⟨hwrites.unique, h.quiet_of_writesBatch hwrites ?_ hle,
        h.counted_of_writesBatch hfound hwrites ?_, h.bounded⟩
      · have hend : row'.endEventSeq = selection.lastEventSeq :=
          congrArg (fun key : BatchKey => key.2.2.1) hwrites.key_eq
        have hsettled : row'.status = .completed ∨ row'.status = .gaveUp := by
          cases hrow : row'.status <;> simp_all [BatchStatus.isSettled]
        rcases hsettled with hcompleted | hgaveUp
        · exact .inr (.inr (.inl hcompleted))
        · exact .inr (.inr (.inr ⟨hgaveUp, by rw [hend, hflushed]⟩))
      · rintro attempts rediagnoses ⟨htotal, hlegacy⟩
        refine ⟨htotal.trans hcount, hlegacy.imp_right ?_⟩
        rintro ⟨hmax, hne⟩
        refine ⟨hmax.trans_le (by exact_mod_cast hcount), ?_⟩
        rcases herror with herror | herror
        · rwa [herror]
        · rw [herror]
          exact fun h => by cases h
    | refused hrefused hne =>
      exfalso
      rcases isClaimable_of_isQuiet hquiet hkey hsel hafter with hclaimable | hcompleted
      · rw [hrefused] at hclaimable
        cases hclaimable
      · exact hne hcompleted

end Flush

lemma step (h : AttemptsBounded settings stream sys) {action : StreamAction}
    (hstable : KeepsRanges stream sys action) :
    AttemptsBounded settings stream (sys.step settings stream action) := by
  cases action with
  | recordRawEvent opencodeSessionId source event =>
    refine h.commit fun s hs => ?_
    obtain ⟨⟨inserted, s'⟩, hrecord, rfl⟩ := exists_of_map_eq_ok hs
    exact RawEventStore.recordRawEvent_captures hrecord
  | recordRawEventsBatch opencodeSessionId events =>
    refine h.commit fun s hs => ?_
    obtain ⟨⟨counts, s'⟩, hrecord, rfl⟩ := exists_of_map_eq_ok hs
    exact RawEventStore.recordRawEventsBatch_captures hrecord
  | ingestRawEvents request =>
    exact h.commit fun s hs => RawEventStore.ingestRawEvents_captures hs
  | flushRawEvents maxEvents throughEventSeq details now => exact h.flush hstable

lemma attempts_or_passes (h : AttemptsBounded settings stream sys)
    {maxEvents throughEventSeq : Option ℤ} (details : FailureDetails) (now : String)
    {selection : FlushSelection}
    (hsel : sys.store.selection stream maxEvents throughEventSeq = some selection) :
    (∃ isLegacyRediagnosis, (sys.store.flushFailing settings stream maxEvents throughEventSeq
        details now).2 = some (selection, isLegacyRediagnosis)) ∨
      (sys.store.flushFailing settings stream maxEvents throughEventSeq details
        now).1.rawEventFlushState stream = selection.lastEventSeq := by
  obtain ⟨row, row', hfound, hkey, -, heffect⟩ :=
    @RawEventStore.flushFailing_of_some settings _ _ _ _ details now _ h.unique hsel
  have hquiet := h.isQuiet_of_isFound hfound hkey
  have hafter := (flushSelection_spec hsel).1
  generalize sys.store.flushFailing settings stream maxEvents throughEventSeq details now =
    flushed at heffect ⊢
  obtain ⟨s', result⟩ := flushed
  dsimp only at heffect ⊢
  cases heffect with
  | attempted isLegacyRediagnosis => exact .inl ⟨isLegacyRediagnosis, rfl⟩
  | settled hflushed => exact .inr hflushed
  | refused hrefused hne =>
    exfalso
    rcases isClaimable_of_isQuiet hquiet hkey hsel hafter with hclaimable | hcompleted
    · rw [hrefused] at hclaimable
      cases hclaimable
    · exact hne hcompleted

end AttemptsBounded

/-- In a run of failing flushes and arrivals on a stream, whose calls keep to the ranges of the
batches that were attempted, every event takes part in at most the configured number of attempts
and one rediagnosis of a legacy failure; and a call that takes up events attempts them, or moves the
watermark past them. -/
theorem attempts_bounded_of_stable (settings : FlushSettings) (stream : StreamIdentity)
    {s : RawEventStore} (hquiet : s.Quiet stream) {actions : List StreamAction}
    (hstable : StepsMeet (step settings stream) (KeepsRanges stream) ⟨s, []⟩ actions) :
    ∀ sys ∈ visited (step settings stream) ⟨s, []⟩ actions,
      (∀ seq, (sys.attempts seq : ℤ) ≤ settings.effectiveMax ∧ sys.rediagnoses seq ≤ 1) ∧
      ∀ maxEvents throughEventSeq details now, ∀ selection : FlushSelection,
        sys.store.selection stream maxEvents throughEventSeq = some selection →
        (∃ isLegacyRediagnosis, (sys.store.flushFailing settings stream maxEvents
            throughEventSeq details now).2 = some (selection, isLegacyRediagnosis)) ∨
          (sys.store.flushFailing settings stream maxEvents throughEventSeq details
            now).1.rawEventFlushState stream = selection.lastEventSeq := by
  have hinvariant : ∀ sys ∈ visited (step settings stream) ⟨s, []⟩ actions,
      AttemptsBounded settings stream sys :=
    hstable.always (.initial hquiet) fun sys action hstep hsys => hsys.step hstep
  intro sys hsys
  refine ⟨(hinvariant sys hsys).bounded, ?_⟩
  intro maxEvents throughEventSeq details now selection hsel
  exact (hinvariant sys hsys).attempts_or_passes details now hsel

/-- Whether a call keeps to the ranges of the attempted batches can be decided. -/
instance decidableKeepsRanges (stream : StreamIdentity) (sys : StreamRun) :
    (action : StreamAction) → Decidable (KeepsRanges stream sys action)
  | .flushRawEvents maxEvents throughEventSeq _ _ =>
    match hsel : sys.store.selection stream maxEvents throughEventSeq with
    | none => .isTrue (by simp [KeepsRanges, hsel])
    | some selection => decidable_of_iff (∀ batch ∈ sys.store.batches, batch.stream = stream →
        batch.extractorVersion = extractorVersion → 0 < batch.attemptCount →
        batch.startEventSeq ≤ selection.lastEventSeq →
        selection.startEventSeq ≤ batch.endEventSeq →
        batch.startEventSeq = selection.startEventSeq ∧
          batch.endEventSeq = selection.lastEventSeq) (by simp [KeepsRanges, hsel])
  | .recordRawEvent _ _ _ => .isTrue trivial
  | .recordRawEventsBatch _ _ => .isTrue trivial
  | .ingestRawEvents _ => .isTrue trivial

/-- One attempt is allowed, and every selected event is sent to the ingest call. -/
def oneAttemptSettings : FlushSettings :=
  ⟨fun _ => false, fun _ => false, fun _ => true, some 1⟩

/-- An event of the stream `s1` arrives. -/
def arrival (eventId : String) : StreamAction :=
  .recordRawEvent "s1" "opencode" ⟨eventId, "user_prompt", [], none, none⟩

/-- A flush of the stream `s1` whose ingest call fails. -/
def failingFlush : StreamAction :=
  .flushRawEvents none none ⟨"TypeError", false, false, none, none⟩ "t"

/-- Two flushes of one event: the second abandons the batch. -/
def repeatedFlushes : StreamRun :=
  [arrival "e0", failingFlush, failingFlush].foldl
    (step oneAttemptSettings ⟨"opencode", "s1"⟩) ⟨.empty, []⟩

theorem attempts_bounded_of_repeated :
    (repeatedFlushes.attempts 0 : ℤ) ≤ oneAttemptSettings.effectiveMax ∧
      repeatedFlushes.rediagnoses 0 ≤ 1 :=
  (attempts_bounded_of_stable oneAttemptSettings ⟨"opencode", "s1"⟩
    ⟨fun _ h => absurd h List.not_mem_nil, fun _ h => absurd h List.not_mem_nil⟩ (by decide) _
      (foldl_mem_visited _ _ _)).1 0

/-- An event arrives before each of three flushes. -/
def growingRange : List StreamAction :=
  [arrival "e0", failingFlush, arrival "e1", failingFlush, arrival "e2", failingFlush]

/-- Each arrival extends the range, so the first event is attempted three times although one attempt
is allowed, and the watermark has not passed it. -/
theorem attempts_exceed_limit :
    ∃ sys ∈ visited (step oneAttemptSettings ⟨"opencode", "s1"⟩) ⟨.empty, []⟩ growingRange,
      oneAttemptSettings.effectiveMax + 1 < (sys.attempts 0 : ℤ) ∧
        sys.store.rawEventFlushState ⟨"opencode", "s1"⟩ < 0 := by
  refine ⟨_, foldl_mem_visited _ _ growingRange, ?_⟩
  decide

end StreamRun

end Codemem

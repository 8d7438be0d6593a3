import Codemem.RawEvents.Batches

/-!
# Extracting each event once

A batch stands for exactly one range, and a claim keeps only other runs of the same range out.  Two
ranges of one stream can overlap: a run that reads the watermark while another one awaits its ingest
call takes the same events up again.  Where a run claims a batch for its ingest call only above the
watermark and away from the ranges whose extraction is under way, and no late run sets the watermark
back, no event is extracted in two batches.
-/

namespace Codemem

namespace FlushPhase

/-- The batch that a run works on, and its range. -/
def target : FlushPhase → Option (ℕ × FlushSelection)
  | claiming selection batchId _ => some (batchId, selection)
  | ingesting selection batchId _ => some (batchId, selection)
  | settling selection batchId _ => some (batchId, selection)
  | advancing selection batchId _ => some (batchId, selection)
  | _ => none

/-- The extraction that is under way: from the claim for the ingest call to the write of the
watermark. -/
def extraction : FlushPhase → Option (ℕ × FlushSelection)
  | ingesting selection batchId _ => some (batchId, selection)
  | settling selection batchId .ingested => some (batchId, selection)
  | advancing selection batchId .ingested => some (batchId, selection)
  | _ => none

/-- The batch whose ingest call has succeeded while the watermark is still to be written. -/
def extractedBatch : FlushPhase → Option ℕ
  | settling _ batchId .ingested => some batchId
  | advancing _ batchId .ingested => some batchId
  | _ => none

lemma target_of_extraction {phase : FlushPhase} {entry : ℕ × FlushSelection}
    (h : phase.extraction = some entry) : phase.target = some entry := by
  rcases phase with _ | _ | _ | _ | _ | _ | ⟨_, _, exit⟩ | ⟨_, _, exit⟩ | _ | _
  case settling => cases exit <;> simp_all [extraction, target]
  case advancing => cases exit <;> simp_all [extraction, target]
  all_goals simp_all [extraction, target]

lemma extraction_of_extractedBatch {phase : FlushPhase} {batchId : ℕ}
    (h : phase.extractedBatch = some batchId) :
    ∃ selection, phase.extraction = some (batchId, selection) := by
  rcases phase with _ | _ | _ | _ | _ | _ | ⟨_, _, exit⟩ | ⟨_, _, exit⟩ | _ | _
  case settling => cases exit <;> simp_all [extraction, extractedBatch]
  case advancing => cases exit <;> simp_all [extraction, extractedBatch]
  all_goals simp_all [extractedBatch]

lemma afterRead_spec (selection : Option FlushSelection) :
    (selection.elim (returned 0 0) selected).target = none ∧
      (selection.elim (returned 0 0) selected).extraction = none := by
  cases selection with
  | none => exact ⟨rfl, rfl⟩
  | some selection => exact ⟨rfl, rfl⟩

end FlushPhase

section NextStatement

variable {settings : FlushSettings} {s : RawEventStore} {run : FlushRun} {now : String}

lemma FlushSettings.afterLookup_spec (stream : StreamIdentity) (selection : FlushSelection)
    (batch : FlushBatch) :
    (settings.afterLookup stream selection batch).target = some (batch.id, selection) ∧
      (settings.afterLookup stream selection batch).extraction = none := by
  unfold FlushSettings.afterLookup
  split_ifs
  all_goals exact ⟨rfl, rfl⟩

lemma FlushSettings.target_afterClaim {selection : FlushSelection} {batchId : ℕ} {plan : ClaimPlan}
    {claimed : Bool} {entry : ℕ × FlushSelection}
    (h : (settings.afterClaim selection batchId plan claimed).target = some entry) :
    entry = (batchId, selection) := by
  unfold FlushSettings.afterClaim at h
  rcases claimed with _ | _
  · cases h
  · rcases plan with _ | isLegacyRediagnosis
    · exact (Option.some.inj h).symm
    · rw [if_pos rfl] at h
      dsimp only at h
      split_ifs at h
      · exact (Option.some.inj h).symm
      · exact (Option.some.inj h).symm

lemma FlushSettings.extraction_afterClaim {selection : FlushSelection} {batchId : ℕ}
    {plan : ClaimPlan} {claimed : Bool} {entry : ℕ × FlushSelection}
    (h : (settings.afterClaim selection batchId plan claimed).extraction = some entry) :
    entry = (batchId, selection) ∧ claimed = true ∧ (∃ legacy, plan = .ingest legacy) ∧
      settings.isTerminalLowSignalSession selection.events = false := by
  unfold FlushSettings.afterClaim at h
  rcases claimed with _ | _
  · cases h
  · rcases plan with _ | isLegacyRediagnosis
    · cases h
    · rw [if_pos rfl] at h
      dsimp only at h
      split_ifs at h with hlow
      · cases h
      · exact ⟨(Option.some.inj h).symm, rfl, ⟨isLegacyRediagnosis, rfl⟩,
          Bool.eq_false_iff.mpr hlow⟩

lemma FlushRun.target_nextStatement {entry : ℕ × FlushSelection}
    (h : (run.nextStatement settings s now).1.target = some entry) :
    run.phase.target = some entry ∨
      ∃ batch ∈ (run.nextStatement settings s now).2.batches, batch.id = entry.1 ∧
        batch.key = (run.stream, entry.2.startEventSeq, entry.2.lastEventSeq, extractorVersion) := by
  obtain ⟨stream, maxEvents, throughEventSeq, phase⟩ := run
  unfold FlushRun.nextStatement at h ⊢
  dsimp only at h ⊢
  rcases phase with _ | lastFlushed | selection | ⟨selection, batchId, plan⟩ |
    ⟨selection, batchId, isLegacyRediagnosis⟩ | ⟨batchId, isLegacyRediagnosis, failure⟩ |
    ⟨selection, batchId, exit⟩ | ⟨selection, batchId, exit⟩ | _ | _
  case called => cases h
  case watermarkRead =>
    cases (FlushPhase.afterRead_spec _).1.symm.trans h
  case selected =>
    obtain ⟨-, -, batch, hbatch, hid, hkey, -⟩ := @RawEventStore.getOrCreateRawEventFlushBatch_spec
      s stream selection.startEventSeq selection.lastEventSeq extractorVersion now
    have hentry := (settings.afterLookup_spec stream selection _).1.symm.trans h
    obtain rfl := Option.some.inj hentry
    exact .inr ⟨batch, hbatch, hid, hkey⟩
  case claiming => exact .inl (congrArg some (FlushSettings.target_afterClaim h).symm)
  case ingesting => exact .inl h
  case failing =>
    rcases failure with _ | ⟨code, details⟩ | details
    · cases h
    · dsimp only [FlushRun.handleFlushFailure] at h
      split_ifs at h
      · cases h
      · cases h
    · cases h
  case settling => exact .inl h
  case advancing => cases h
  case returned => cases h
  case threw => cases h

lemma FlushRun.extraction_nextStatement {entry : ℕ × FlushSelection}
    (h : (run.nextStatement settings s now).1.extraction = some entry) :
    run.phase.extraction = some entry ∨
      (∃ legacy, run.phase = .claiming entry.2 entry.1 (.ingest legacy)) ∧
        (s.claimRawEventFlushBatch entry.1 now).1 = true ∧
        settings.isTerminalLowSignalSession entry.2.events = false := by
  obtain ⟨stream, maxEvents, throughEventSeq, phase⟩ := run
  unfold FlushRun.nextStatement at h
  dsimp only at h ⊢
  rcases phase with _ | lastFlushed | selection | ⟨selection, batchId, plan⟩ |
    ⟨selection, batchId, isLegacyRediagnosis⟩ | ⟨batchId, isLegacyRediagnosis, failure⟩ |
    ⟨selection, batchId, exit⟩ | ⟨selection, batchId, exit⟩ | _ | _
  case called => cases h
  case watermarkRead =>
    cases (FlushPhase.afterRead_spec _).2.symm.trans h
  case selected =>
    rw [(settings.afterLookup_spec stream selection _).2] at h
    cases h
  case claiming =>
    obtain ⟨rfl, hclaimed, ⟨legacy, rfl⟩, hlow⟩ := FlushSettings.extraction_afterClaim h
    exact .inr ⟨⟨legacy, rfl⟩, hclaimed, hlow⟩
  case ingesting => exact .inl h
  case failing =>
    rcases failure with _ | ⟨code, details⟩ | details
    · cases h
    · dsimp only [FlushRun.handleFlushFailure] at h
      split_ifs at h
      · cases h
      · cases h
    · cases h
  case settling =>
    rcases exit with _ | _ | _ | _ | _
    case ingested => exact .inl h
    all_goals cases h
  case advancing => cases h
  case returned => cases h
  case threw => cases h

lemma FlushRun.extractedBatch_nextStatement {batchId : ℕ}
    (h : run.phase.extractedBatch = some batchId) :
    (run.nextStatement settings s now).1.extractedBatch = some batchId ∨
      ∃ selection, run.phase = .advancing selection batchId .ingested := by
  obtain ⟨stream, maxEvents, throughEventSeq, phase⟩ := run
  unfold FlushRun.nextStatement
  dsimp only at h ⊢
  rcases phase with _ | _ | _ | _ | _ | _ | ⟨selection, _, exit⟩ | ⟨selection, _, exit⟩ | _ | _
  case settling =>
    rcases exit with _ | _ | _ | _ | _
    case ingested => exact .inl h
    all_goals cases h
  case advancing =>
    rcases exit with _ | _ | _ | _ | _
    case ingested =>
      obtain rfl := Option.some.inj h
      exact .inr ⟨selection, rfl⟩
    all_goals cases h
  all_goals cases h

end NextStatement

namespace RawEventPipeline

/-- No event number lies in the ranges of two batches of one stream whose ingest calls both
succeeded. -/
def ExtractedOnce (sys : RawEventPipeline) : Prop :=
  ∀ batch ∈ sys.store.batches, ∀ batch' ∈ sys.store.batches,
    batch.id ∈ sys.extracted → batch'.id ∈ sys.extracted → batch.id ≠ batch'.id →
      batch.stream = batch'.stream → ∀ seq, ¬ (batch.Covers seq ∧ batch'.Covers seq)

variable (settings : FlushSettings)

/-- The statement of a run keeps extractions apart: it claims a batch for its ingest call only above
the watermark and away from the other ranges whose extraction is under way, and it does not set the
watermark back. -/
def KeepsApart (sys : RawEventPipeline) (now : String) (run : FlushRun) : Prop :=
  match run.phase with
  | .claiming selection batchId (.ingest _) =>
    (sys.store.claimRawEventFlushBatch batchId now).1 = true →
      settings.isTerminalLowSignalSession selection.events = false →
        sys.store.rawEventFlushState run.stream < selection.startEventSeq ∧
          ∀ other ∈ sys.runs, ∀ entry ∈ other.phase.extraction, other.stream = run.stream →
            entry.1 ≠ batchId → selection.lastEventSeq < entry.2.startEventSeq ∨
              entry.2.lastEventSeq < selection.startEventSeq
  | .advancing selection _ _ =>
    sys.store.rawEventFlushState run.stream ≤ selection.lastEventSeq
  | _ => True

instance (sys : RawEventPipeline) (now : String) :
    (run : FlushRun) → Decidable (sys.KeepsApart settings now run)
  | ⟨stream, _, _, .claiming selection batchId (.ingest _)⟩ =>
    inferInstanceAs (Decidable ((sys.store.claimRawEventFlushBatch batchId now).1 = true →
      settings.isTerminalLowSignalSession selection.events = false →
        sys.store.rawEventFlushState stream < selection.startEventSeq ∧
          ∀ other ∈ sys.runs, ∀ entry ∈ other.phase.extraction, other.stream = stream →
            entry.1 ≠ batchId → selection.lastEventSeq < entry.2.startEventSeq ∨
              entry.2.lastEventSeq < selection.startEventSeq))
  | ⟨stream, _, _, .advancing selection _ _⟩ =>
    inferInstanceAs (Decidable
      (sys.store.rawEventFlushState stream ≤ selection.lastEventSeq))
  | ⟨_, _, _, .claiming _ _ .contextOnly⟩ | ⟨_, _, _, .called⟩ | ⟨_, _, _, .watermarkRead _⟩
  | ⟨_, _, _, .selected _⟩ | ⟨_, _, _, .ingesting _ _ _⟩ | ⟨_, _, _, .failing _ _ _⟩
  | ⟨_, _, _, .settling _ _ _⟩ | ⟨_, _, _, .returned _ _⟩ | ⟨_, _, _, .threw⟩ => .isTrue trivial

def StepKeepsApart (sys : RawEventPipeline) : PipelineAction → Prop
  | .advance i now => ∀ run ∈ sys.runs[i]?, sys.KeepsApart settings now run
  | _ => True

instance (sys : RawEventPipeline) :
    (action : PipelineAction) → Decidable (sys.StepKeepsApart settings action)
  | .advance i now =>
    inferInstanceAs (Decidable (∀ run ∈ sys.runs[i]?, sys.KeepsApart settings now run))
  | .recordRawEvent _ _ _ | .recordRawEventsBatch _ _ | .ingestRawEvents _
  | .purgeRawEvents _ _ | .markStuckRawEventBatchesAsError _ _ _ | .flushRawEvents _ _ _ _
  | .ingestReturns _ _ => .isTrue trivial

/-! ### The invariant -/

/-- The ingest call of the batch has succeeded, or is under way. -/
def Busy (sys : RawEventPipeline) (batchId : ℕ) : Prop :=
  batchId ∈ sys.extracted ∨
    ∃ (j : ℕ) (run : FlushRun) (selection : FlushSelection), sys.runs[j]? = some run ∧
      run.phase.extraction = some (batchId, selection)

/-- Two ranges have no number in common. -/
def Apart (batch batch' : FlushBatch) : Prop :=
  batch.endEventSeq < batch'.startEventSeq ∨ batch'.endEventSeq < batch.startEventSeq

/-- The invariant of runs that keep their extractions apart. -/
structure ExtractionInvariant (sys : RawEventPipeline) : Prop where
  uniqueIds : UniqueBatchIds sys.store.batches
  /-- A run works on the batch of exactly its range. -/
  target : ∀ (j : ℕ) (run : FlushRun) (entry : ℕ × FlushSelection), sys.runs[j]? = some run →
    run.phase.target = some entry →
    ∃ batch ∈ sys.store.batches, batch.id = entry.1 ∧
      batch.key = (run.stream, entry.2.startEventSeq, entry.2.lastEventSeq, extractorVersion)
  stored : ∀ batchId ∈ sys.extracted, ∃ batch ∈ sys.store.batches, batch.id = batchId
  apart : ∀ batch ∈ sys.store.batches, ∀ batch' ∈ sys.store.batches, sys.Busy batch.id →
    sys.Busy batch'.id → batch.id ≠ batch'.id → batch.stream = batch'.stream → Apart batch batch'
  /-- The watermark has passed an extracted batch, or its run has still to write it. -/
  flushed : ∀ batchId ∈ sys.extracted,
    (∀ batch ∈ sys.store.batches, batch.id = batchId →
      batch.endEventSeq ≤ sys.store.rawEventFlushState batch.stream) ∨
    ∃ (j : ℕ) (run : FlushRun), sys.runs[j]? = some run ∧
      run.phase.extractedBatch = some batchId

namespace ExtractionInvariant

variable {settings} {sys : RawEventPipeline}

lemma extractedOnce (h : ExtractionInvariant sys) : sys.ExtractedOnce := by
  intro batch hbatch batch' hbatch' hext hext' hne hstream seq hboth
  obtain ⟨⟨hstart, hend⟩, ⟨hstart', hend'⟩⟩ := hboth
  have hapart := h.apart batch hbatch batch' hbatch' (.inl hext) (.inl hext') hne hstream
  unfold Apart at hapart
  omega

lemma initial : ExtractionInvariant RawEventPipeline.initial where
  uniqueIds := fun _ h => absurd h List.not_mem_nil
  target := fun _ _ _ h => by cases h
  stored := fun _ h => absurd h List.not_mem_nil
  apart := fun _ h => absurd h List.not_mem_nil
  flushed := fun _ h => absurd h List.not_mem_nil

lemma stored_of_busy (h : ExtractionInvariant sys) {batchId : ℕ} (hbusy : sys.Busy batchId) :
    ∃ batch ∈ sys.store.batches, batch.id = batchId := by
  rcases hbusy with hext | ⟨j, run, selection, hrun, hextraction⟩
  · exact h.stored batchId hext
  · obtain ⟨batch, hbatch, hid, -⟩ :=
      h.target j run _ hrun (FlushPhase.target_of_extraction hextraction)
    exact ⟨batch, hbatch, hid⟩

lemma key_of_target (h : ExtractionInvariant sys) {j : ℕ} {run : FlushRun}
    {entry : ℕ × FlushSelection} {batch : FlushBatch} (hrun : sys.runs[j]? = some run)
    (htarget : run.phase.target = some entry) (hbatch : batch ∈ sys.store.batches)
    (hid : batch.id = entry.1) :
    batch.stream = run.stream ∧ batch.startEventSeq = entry.2.startEventSeq ∧
      batch.endEventSeq = entry.2.lastEventSeq := by
  obtain ⟨batch', hbatch', hid', hkey⟩ := h.target j run entry hrun htarget
  rw [h.uniqueIds batch hbatch batch' hbatch' (hid.trans hid'.symm)]
  simp only [FlushBatch.key, Prod.mk.injEq] at hkey
  exact ⟨hkey.1, hkey.2.1, hkey.2.2.1⟩

lemma old_of_busy (h : ExtractionInvariant sys) {batches : List FlushBatch}
    (hbatches : BatchesStep sys.store.batches batches) {batch : FlushBatch}
    (hbatch : batch ∈ batches) (hbusy : sys.Busy batch.id) :
    ∃ old ∈ sys.store.batches, batch.id = old.id ∧ batch.key = old.key := by
  rcases hbatches.source hbatch with hsource | hfresh
  · exact hsource
  · obtain ⟨old, hold, hid⟩ := h.stored_of_busy hbusy
    exact absurd hid (hfresh old hold)

lemma withStore (h : ExtractionInvariant sys) {s : RawEventStore}
    (hbatches : BatchesStep sys.store.batches s.batches)
    (hflushed : ∀ stream, sys.store.rawEventFlushState stream ≤ s.rawEventFlushState stream) :
    ExtractionInvariant { sys with store := s } where
  uniqueIds := hbatches.uniqueIds h.uniqueIds
  target := by
    intro j run entry hrun htarget
    obtain ⟨batch, hbatch, hid, hkey⟩ := h.target j run entry hrun htarget
    obtain ⟨batch', hbatch', hid', hkey'⟩ := hbatches.kept hbatch
    exact ⟨batch', hbatch', hid'.trans hid, hkey'.trans hkey⟩
  stored := by
    intro batchId hext
    obtain ⟨batch, hbatch, hid⟩ := h.stored batchId hext
    obtain ⟨batch', hbatch', hid', -⟩ := hbatches.kept hbatch
    exact ⟨batch', hbatch', hid'.trans hid⟩
  apart := by
    intro batch hbatch batch' hbatch' hbusy hbusy' hne hstream
    obtain ⟨old, hold, hid, hkey⟩ := old_of_busy h hbatches hbatch hbusy
    obtain ⟨old', hold', hid', hkey'⟩ := old_of_busy h hbatches hbatch' hbusy'
    simp only [FlushBatch.key, Prod.mk.injEq] at hkey hkey'
    have hapart := h.apart old hold old' hold' (hid ▸ hbusy) (hid' ▸ hbusy')
      (by rwa [← hid, ← hid']) (by rw [← hkey.1, ← hkey'.1]; exact hstream)
    unfold Apart at hapart ⊢
    rw [hkey.2.1, hkey.2.2.1, hkey'.2.1, hkey'.2.2.1]
    exact hapart
  flushed := by
    intro batchId hext
    rcases h.flushed batchId hext with hpassed | hwaiting
    · refine .inl fun batch hbatch hid => ?_
      obtain ⟨old, hold, hidOld, hkey⟩ :=
        old_of_busy h hbatches hbatch (hid.symm ▸ .inl hext)
      simp only [FlushBatch.key, Prod.mk.injEq] at hkey
      have hle := hpassed old hold (hidOld.symm.trans hid)
      rw [hkey.1, hkey.2.2.1]
      exact hle.trans (hflushed old.stream)
    · exact .inr hwaiting

/-- A run enters a phase: its range belongs to a stored batch, an extraction that it starts keeps
apart from the others, and a successful one is not forgotten before the watermark is written. -/
lemma withPhase (h : ExtractionInvariant sys) {i : ℕ} {run : FlushRun} {phase : FlushPhase}
    (hrun : sys.runs[i]? = some run)
    (htarget : ∀ entry, phase.target = some entry →
      ∃ batch ∈ sys.store.batches, batch.id = entry.1 ∧ batch.key =
        (run.stream, entry.2.startEventSeq, entry.2.lastEventSeq, extractorVersion))
    (hextraction : ∀ entry, phase.extraction = some entry → sys.Busy entry.1 ∨
      ∀ batch ∈ sys.store.batches, ∀ batch' ∈ sys.store.batches, batch.id = entry.1 →
        sys.Busy batch'.id → batch.id ≠ batch'.id → batch.stream = batch'.stream →
          Apart batch batch')
    (hwaiting : ∀ batchId, run.phase.extractedBatch = some batchId →
      phase.extractedBatch = some batchId ∨ ∀ batch ∈ sys.store.batches, batch.id = batchId →
        batch.endEventSeq ≤ sys.store.rawEventFlushState batch.stream) :
    ExtractionInvariant (sys.setPhase i phase) := by
  have hbusy : ∀ batchId, (sys.setPhase i phase).Busy batchId → sys.Busy batchId ∨
      (∃ selection, phase.extraction = some (batchId, selection)) ∧
      ∀ batch ∈ sys.store.batches, ∀ batch' ∈ sys.store.batches, batch.id = batchId →
        sys.Busy batch'.id → batch.id ≠ batch'.id → batch.stream = batch'.stream →
          Apart batch batch' := by
    rintro batchId (hext | ⟨j, run', selection, hrun', hphase⟩)
    · exact .inl (.inl hext)
    · rcases runs_setPhase_cases hrun hrun' with ⟨-, rfl⟩ | ⟨-, hold⟩
      · rcases hextraction (batchId, selection) hphase with hold | hapart
        · exact .inl hold
        · exact .inr ⟨⟨selection, hphase⟩, hapart⟩
      · exact .inl (.inr ⟨j, run', selection, hold, hphase⟩)
  constructor
  · exact h.uniqueIds
  · intro j run' entry hrun' hentry
    rcases runs_setPhase_cases hrun hrun' with ⟨-, rfl⟩ | ⟨-, hold⟩
    · exact htarget entry hentry
    · exact h.target j run' entry hold hentry
  · exact h.stored
  · intro batch hbatch batch' hbatch' hb hb' hne hstream
    rcases hbusy _ hb with hold | ⟨⟨selection, hphase⟩, hnew⟩
    · rcases hbusy _ hb' with hold' | ⟨-, hnew'⟩
      · exact h.apart batch hbatch batch' hbatch' hold hold' hne hstream
      · exact (hnew' batch' hbatch' batch hbatch rfl hold hne.symm hstream.symm).symm
    · rcases hbusy _ hb' with hold' | ⟨⟨selection', hphase'⟩, -⟩
      · exact hnew batch hbatch batch' hbatch' rfl hold' hne hstream
      · -- one phase has one extraction
        have hsame : (batch.id, selection) = (batch'.id, selection') :=
          Option.some.inj (hphase.symm.trans hphase')
        exact absurd (congrArg Prod.fst hsame) hne
  · intro batchId hext
    rcases h.flushed batchId hext with hpassed | ⟨j, run', hrun', hphase⟩
    · exact .inl hpassed
    · by_cases hj : j = i
      · subst hj
        obtain rfl : run = run' := Option.some.inj (hrun.symm.trans hrun')
        rcases hwaiting batchId hphase with hkept | hpassed
        · exact .inr ⟨j, { run with phase }, runs_setPhase_self hrun, hkept⟩
        · exact .inl hpassed
      · exact .inr ⟨j, run', (runs_setPhase_of_ne hj).trans hrun', hphase⟩

lemma apart_of_claim (h : ExtractionInvariant sys) {i : ℕ} {run : FlushRun}
    {entry : ℕ × FlushSelection} (hrun : sys.runs[i]? = some run)
    (htarget : run.phase.target = some entry)
    (habove : sys.store.rawEventFlushState run.stream < entry.2.startEventSeq)
    (hothers : ∀ other ∈ sys.runs, ∀ entry' ∈ other.phase.extraction, other.stream = run.stream →
      entry'.1 ≠ entry.1 → entry.2.lastEventSeq < entry'.2.startEventSeq ∨
        entry'.2.lastEventSeq < entry.2.startEventSeq) :
    ∀ batch ∈ sys.store.batches, ∀ batch' ∈ sys.store.batches, batch.id = entry.1 →
      sys.Busy batch'.id → batch.id ≠ batch'.id → batch.stream = batch'.stream →
        Apart batch batch' := by
  intro batch hbatch batch' hbatch' hid hbusy hne hstream
  obtain ⟨hrunStream, hstart, hend⟩ := h.key_of_target hrun htarget hbatch hid
  have hunderWay : ∀ (j : ℕ) (other : FlushRun) (selection : FlushSelection),
      sys.runs[j]? = some other → other.phase.extraction = some (batch'.id, selection) →
        Apart batch batch' := by
    intro j other selection hother hextraction
    obtain ⟨hotherStream, hstart', hend'⟩ := h.key_of_target hother
      (FlushPhase.target_of_extraction hextraction) hbatch' rfl
    have hdisjoint := hothers other (List.mem_of_getElem? hother) (batch'.id, selection) hextraction
      (by rw [← hotherStream, ← hstream, hrunStream]) (by rw [← hid]; exact hne.symm)
    unfold Apart
    rw [hstart, hend, hstart', hend']
    exact hdisjoint
  rcases hbusy with hext | ⟨j, other, selection, hother, hextraction⟩
  · rcases h.flushed batch'.id hext with hpassed | ⟨j, other, hother, hextracted⟩
    · right
      have hle := hpassed batch' hbatch' rfl
      rw [← hstream, hrunStream] at hle
      rw [hstart]
      exact hle.trans_lt habove
    · obtain ⟨selection, hextraction⟩ := FlushPhase.extraction_of_extractedBatch hextracted
      exact hunderWay j other selection hother hextraction
  · exact hunderWay j other selection hother hextraction

/-- The ingest call of a run returns. -/
lemma endIngest (h : ExtractionInvariant sys) {i : ℕ} {run : FlushRun}
    (hrun : sys.runs[i]? = some run) (failure : Option IngestFailure) :
    ExtractionInvariant (sys.endIngest i failure run) := by
  unfold RawEventPipeline.endIngest
  split
  case h_1 selection batchId isLegacyRediagnosis hphase =>
    have hentry : run.phase.extraction = some (batchId, selection) := by rw [hphase]; rfl
    have hsettling : ExtractionInvariant
        (sys.setPhase i (.settling selection batchId .ingested)) := by
      refine h.withPhase hrun (fun entry hphase' => ?_) (fun entry hphase' => ?_) fun id hid => ?_
      · exact h.target i run entry hrun
          ((FlushPhase.target_of_extraction hentry).trans hphase')
      · exact .inl (.inr ⟨i, run, entry.2, hrun, hentry.trans hphase'⟩)
      · rw [hphase] at hid
        cases hid
    have hnow := @runs_setPhase_self sys i run (.settling selection batchId .ingested) hrun
    have hbusy : ∀ id, Busy { sys.setPhase i (.settling selection batchId .ingested) with
        extracted := sys.extracted ++ [batchId] } id →
        (sys.setPhase i (.settling selection batchId .ingested)).Busy id := by
      rintro id (hid | hrunning)
      · rcases List.mem_append.mp hid with hold | hnew
        · exact .inl hold
        · rw [List.mem_singleton.mp hnew]
          exact .inr ⟨i, _, selection, hnow, rfl⟩
      · exact .inr hrunning
    constructor
    · exact hsettling.uniqueIds
    · exact hsettling.target
    · intro id hid
      rcases List.mem_append.mp hid with hold | hnew
      · exact hsettling.stored id hold
      · rw [List.mem_singleton.mp hnew]
        exact hsettling.stored_of_busy (.inr ⟨i, _, selection, hnow, rfl⟩)
    · intro batch hbatch batch' hbatch' hb hb'
      exact hsettling.apart batch hbatch batch' hbatch' (hbusy _ hb) (hbusy _ hb')
    · intro id hid
      rcases List.mem_append.mp hid with hold | hnew
      · exact hsettling.flushed id hold
      · rw [List.mem_singleton.mp hnew]
        exact .inr ⟨i, _, hnow, rfl⟩
  case h_2 selection batchId isLegacyRediagnosis failure hphase =>
    refine h.withPhase hrun (fun entry hphase' => ?_) (fun entry hphase' => ?_) fun id hid => ?_
    · cases hphase'
    · cases hphase'
    · rw [hphase] at hid
      cases hid
  case h_3 => exact h

/-- A run executes a statement that keeps extractions apart. -/
lemma advanceRun (h : ExtractionInvariant sys) {i : ℕ} {run : FlushRun} {now : String}
    (hrun : sys.runs[i]? = some run) (hapart : sys.KeepsApart settings now run) :
    ExtractionInvariant (sys.advanceRun settings i now run) := by
  have hflushed := @FlushRun.nextStatement_flushed_le settings sys.store run now
    (fun selection batchId exit hphase => by
      unfold KeepsApart at hapart
      rw [hphase] at hapart
      exact hapart)
  have hstore : ExtractionInvariant
      { sys with store := (run.nextStatement settings sys.store now).2 } :=
    h.withStore FlushRun.nextStatement_tables.2.2 hflushed
  refine hstore.withPhase hrun (fun entry hentry => ?_) (fun entry hentry => ?_)
    fun batchId hbatchId => ?_
  · rcases FlushRun.target_nextStatement hentry with hold | hfound
    · exact hstore.target i run entry hrun hold
    · exact hfound
  · rcases FlushRun.extraction_nextStatement hentry with hold | ⟨⟨legacy, hphase⟩, hclaimed, hlow⟩
    · exact .inl (.inr ⟨i, run, entry.2, hrun, hold⟩)
    · right
      unfold KeepsApart at hapart
      rw [hphase] at hapart
      obtain ⟨habove, hothers⟩ := hapart hclaimed hlow
      have hsame : (run.nextStatement settings sys.store now).2.rawEventFlushState run.stream =
          sys.store.rawEventFlushState run.stream := by
        rcases @FlushRun.nextStatement_flushed settings sys.store run now run.stream with hsame |
          ⟨selection, batchId, exit, hadvancing, -⟩
        · exact hsame
        · rw [hphase] at hadvancing
          cases hadvancing
      exact hstore.apart_of_claim hrun (by rw [hphase]; rfl) (hsame.trans_lt habove) hothers
  · rcases @FlushRun.extractedBatch_nextStatement settings sys.store run now batchId hbatchId with
      hkept | ⟨selection, hphase⟩
    · exact .inl hkept
    · right
      intro batch hbatch hid
      have htarget : run.phase.target = some (batchId, selection) := by rw [hphase]; rfl
      obtain ⟨hstream, -, hend⟩ := hstore.key_of_target hrun htarget hbatch hid
      rw [hend, hstream]
      have hwritten : (run.nextStatement settings sys.store now).2.rawEventFlushState run.stream =
          selection.lastEventSeq := by
        unfold FlushRun.nextStatement
        rw [hphase]
        exact RawEventStore.rawEventFlushState_updateRawEventFlushState.trans (if_pos rfl)
      exact hwritten.ge

/-- A new call has no batch yet. -/
lemma startRun (h : ExtractionInvariant sys) (opencodeSessionId : String) (source : Option String)
    (maxEvents throughEventSeq : Option ℤ) :
    ExtractionInvariant (sys.startRun opencodeSessionId source maxEvents throughEventSeq) := by
  unfold RawEventPipeline.startRun
  split
  case h_1 stream _ =>
    have hcases : ∀ (j : ℕ) (run : FlushRun), (sys.runs ++
        [⟨stream, maxEvents, throughEventSeq, .called⟩])[j]? = some run →
        sys.runs[j]? = some run ∨ run.phase = .called := by
      intro j run hrun
      rw [List.getElem?_append] at hrun
      split_ifs at hrun
      · exact .inl hrun
      · right
        rw [List.mem_singleton.mp (List.mem_of_getElem? hrun)]
    have hkept : ∀ (j : ℕ) (run : FlushRun), sys.runs[j]? = some run → (sys.runs ++
        [⟨stream, maxEvents, throughEventSeq, .called⟩])[j]? = some run := by
      intro j run hrun
      obtain ⟨hlt, -⟩ := List.getElem?_eq_some_iff.mp hrun
      rw [List.getElem?_append_left hlt]
      exact hrun
    have hbusy : ∀ id, Busy { sys with
        runs := sys.runs ++ [⟨stream, maxEvents, throughEventSeq, .called⟩] } id → sys.Busy id := by
      rintro id (hext | ⟨j, run, selection, hrun, hextraction⟩)
      · exact .inl hext
      · rcases hcases j run hrun with hold | hcalled
        · exact .inr ⟨j, run, selection, hold, hextraction⟩
        · rw [hcalled] at hextraction
          cases hextraction
    constructor
    · exact h.uniqueIds
    · intro j run entry hrun htarget
      rcases hcases j run hrun with hold | hcalled
      · exact h.target j run entry hold htarget
      · rw [hcalled] at htarget
        cases htarget
    · exact h.stored
    · intro batch hbatch batch' hbatch' hb hb'
      exact h.apart batch hbatch batch' hbatch' (hbusy _ hb) (hbusy _ hb')
    · intro id hid
      rcases h.flushed id hid with hpassed | ⟨j, run, hrun, hextracted⟩
      · exact .inl hpassed
      · exact .inr ⟨j, run, hkept j run hrun, hextracted⟩
  case h_2 => exact h

lemma step (h : ExtractionInvariant sys) (action : PipelineAction)
    (hapart : sys.StepKeepsApart settings action) :
    ExtractionInvariant (sys.step settings action) := by
  have hcase := stepCase settings sys action
  generalize sys.step settings action = sys' at hcase
  cases hcase with
  | captured s hcaptures =>
    exact h.withStore (hcaptures.batches ▸ .refl _) fun stream => (hcaptures.flushed stream).ge
  | recovered olderThanIso limit now =>
    exact h.withStore
      (RawEventStore.markStuckRawEventBatchesAsError_spec olderThanIso limit now).1
      fun _ => le_rfl
  | called opencodeSessionId source maxEvents throughEventSeq =>
    exact h.startRun opencodeSessionId source maxEvents throughEventSeq
  | advanced i now run hrun => exact h.advanceRun hrun (hapart run hrun)
  | ingestEnded i failure run hrun => exact h.endIngest hrun failure

end ExtractionInvariant

/-! ### Runs -/

/-- In every run of the pipeline whose claims for an ingest call stand above the watermark and away
from the extractions under way, and whose watermark writes do not set it back, no event is extracted
in two batches. -/
theorem extracted_once_of_apart {actions : List PipelineAction}
    (h : StepsMeet (step settings) (StepKeepsApart settings) initial actions) :
    ∀ sys ∈ visited (step settings) initial actions, sys.ExtractedOnce := by
  have hinvariant := h.pairwise (R := fun _ _ => True) ExtractionInvariant.initial
    (fun _ _ _ _ _ => trivial) fun sys action hapart hsys => ⟨hsys.step action hapart, trivial⟩
  intro sys hsys
  exact (hinvariant.1 sys hsys).extractedOnce

/-- Settings under which every selected event is sent to the ingest call. -/
def sampleSettings : FlushSettings := ⟨fun _ => false, fun _ => false, fun _ => true, none⟩

/-- An event of the stream `s1` arrives. -/
def sampleArrival (eventId : String) : PipelineAction :=
  .recordRawEvent "s1" "opencode" ⟨eventId, "user_prompt", [], none, none⟩

/-- A flush of the stream `s1`, up to its ingest call. -/
def sampleFlush (run : ℕ) : List PipelineAction :=
  [.flushRawEvents "s1" none none none, .advance run "t", .advance run "t", .advance run "t",
    .advance run "t"]

/-- Two flushes one after the other, with an event between them. -/
def sampleSerialFlushes : List PipelineAction :=
  [sampleArrival "e0"] ++ sampleFlush 0 ++
    [.ingestReturns 0 none, .advance 0 "t", .advance 0 "t", sampleArrival "e1"] ++
    sampleFlush 1 ++ [.ingestReturns 1 none, .advance 1 "t", .advance 1 "t"]

/-- Flushes one after the other keep apart: both ingest calls succeed, and no event is extracted
twice. -/
theorem extracted_once_of_serial :
    ((sampleSerialFlushes.foldl (step sampleSettings) initial).extracted = [1, 2]) ∧
      ∀ sys ∈ visited (step sampleSettings) initial sampleSerialFlushes, sys.ExtractedOnce :=
  ⟨by decide, extracted_once_of_apart sampleSettings (by decide)⟩

/-- A second worker takes the stream up while the first awaits its ingest call. -/
def sampleOverlappingFlushes : List PipelineAction :=
  [sampleArrival "e0"] ++ sampleFlush 0 ++ [sampleArrival "e1"] ++ sampleFlush 1 ++
    [.ingestReturns 0 none, .ingestReturns 1 none]

/-- An event that arrives during an ingest call gives the next worker another range, and both ingest
calls extract the events before it. -/
theorem extracted_twice :
    ¬ ∀ sys ∈ visited (step sampleSettings) initial sampleOverlappingFlushes,
      sys.ExtractedOnce := by
  intro h
  have hfinal := h _ (foldl_mem_visited (step sampleSettings) initial sampleOverlappingFlushes)
  have hoverlap : ∃ batch ∈
      (sampleOverlappingFlushes.foldl (step sampleSettings) initial).store.batches,
      ∃ batch' ∈ (sampleOverlappingFlushes.foldl (step sampleSettings) initial).store.batches,
        (batch.id ∈ (sampleOverlappingFlushes.foldl (step sampleSettings) initial).extracted ∧
          batch'.id ∈ (sampleOverlappingFlushes.foldl (step sampleSettings) initial).extracted) ∧
        (batch.id ≠ batch'.id ∧ batch.stream = batch'.stream) ∧
        (batch.startEventSeq ≤ 0 ∧ 0 ≤ batch.endEventSeq) ∧
        batch'.startEventSeq ≤ 0 ∧ 0 ≤ batch'.endEventSeq := by
    decide
  obtain ⟨batch, hbatch, batch', hbatch', ⟨hext, hext'⟩, ⟨hne, hstream⟩, hcovers, hcovers'⟩ :=
    hoverlap
  exact hfinal batch hbatch batch' hbatch' hext hext' hne hstream 0 ⟨hcovers, hcovers'⟩

end RawEventPipeline

end Codemem

import Codemem.Backfill.Termination

/-!
# Completion of the backfills

The two halves together: in an undisturbed run a job is completed only when nothing is pending, and
a job that is alone comes to its end.

A memory whose one concept is blank disturbs the ref job.  Its array is not empty, so it is pending,
and no ref comes of it, so it stays pending; the batch is short, and the job is completed without
another look.
-/

namespace Codemem

/-- In an undisturbed run every completion of a job is truthful, and without other writers repeated
passes of a job finish it. -/
theorem backfill_promises (tools : BackfillTools) (s : BackfillStore)
    (actions : List BackfillAction) (hstart : s.Settled)
    (hcond : StepsMeet (BackfillRun.step tools) (BackfillRun.Undisturbed tools) ⟨s, []⟩ actions) :
    StepsMeet (BackfillRun.step tools) (BackfillRun.CompletesTruthfully tools) ⟨s, []⟩ actions ∧
      ∀ (kind : BackfillKind) (batchSize : ℕ) (s' : BackfillStore) (draws : ℕ → BackfillDraw),
        ∃ n, kind.Finished tools
          (stateAfter (soloStep tools kind batchSize) (kind.start batchSize, s') draws n).2 :=
  ⟨completions_truthful hstart hcond, backfill_finishes tools⟩

/-- Whether a step completes its job truthfully can be decided. -/
instance decidableCompletesTruthfully (tools : BackfillTools) (run : BackfillRun) :
    (action : BackfillAction) → Decidable (run.CompletesTruthfully tools action)
  | .start _ _ => .isTrue trivial
  | .turn index draw => inferInstanceAs (Decidable (∀ pass ∈ run.passes[index]?,
      pass.outcome = none → (pass.next tools draw run.store).1.outcome = some .completed →
      pass.kind.pending tools (pass.next tools draw run.store).2.memories = false))
  | .write _ => .isTrue trivial

/-- Text functions that leave texts alone. -/
def plainBackfillTools : BackfillTools :=
  ⟨⟨id, fun _ => false, id, fun _ => none⟩, ⟨fun _ => none, fun _ => "", fun _ => "", id⟩⟩

/-- A clock that stands still. -/
def stillDraw : BackfillDraw where
  now := "t1"
  context _ := ⟨"D", "t1", "op", fun _ _ => "local-default", fun _ _ _ _ _ => ""⟩

def memoryWithConcepts (concepts : List String) : MemoryItem where
  id := 1
  sessionId := 1
  kind := "discovery"
  title := "Title"
  bodyText := ""
  active := some 1
  createdAt := "t0"
  updatedAt := "t0"
  metadataJson := none
  actorId := none
  visibility := none
  workspaceId := none
  workspaceKind := none
  originDeviceId := none
  deletedAt := none
  rev := some 1
  importKey := none
  scopeId := none
  project := none
  content := { MemoryContent.empty with concepts := some (stringsJson concepts) }

/-- A store with this memory, and no job. -/
def storeWithConcepts (concepts : List String) : BackfillStore where
  memories := ⟨{ Store.empty with memoryItems := [memoryWithConcepts concepts] },
    fun _ => none, fun _ => none⟩
  wellFormed := by
    refine ⟨?_, fun row hrow => ?_, fun row hrow => ?_⟩
    · exact List.nodup_singleton _
    · rw [List.mem_singleton.mp hrow]
      exact ⟨Nat.zero_lt_one, Nat.zero_lt_one⟩
    · rw [List.mem_singleton.mp hrow]
      intro text htext
      cases htext
  dedupKeyJob := none
  refJob := none
  summaryJob := none

/-- One pass of the ref job over one row. -/
def refPassActions : List BackfillAction :=
  .start .ref 50 :: List.replicate 6 (.turn 0 stillDraw)

/-- A memory with a blank concept is pending when its job is completed. -/
theorem blankConcept_pending_at_completion :
    ¬ StepsMeet (BackfillRun.step plainBackfillTools)
      (BackfillRun.CompletesTruthfully plainBackfillTools) ⟨storeWithConcepts [" "], []⟩
      refPassActions := by
  decide +kernel

lemma settled_storeWithConcepts (concepts : List String) : (storeWithConcepts concepts).Settled :=
  ⟨fun _ h => Bool.noConfusion h.1, fun _ h => Bool.noConfusion h.1⟩

/-- A concept is filled in, and the job completed. -/
theorem backfill_promises_concept :
    StepsMeet (BackfillRun.step plainBackfillTools)
      (BackfillRun.CompletesTruthfully plainBackfillTools) ⟨storeWithConcepts ["a"], []⟩
      refPassActions :=
  (backfill_promises plainBackfillTools (storeWithConcepts ["a"]) refPassActions
    (settled_storeWithConcepts ["a"]) (by
      refine ⟨trivial, ?_, ?_, ?_, ?_, ?_, ?_, trivial⟩
      · rintro pass ⟨⟩
        trivial
      · rintro pass ⟨⟩
        trivial
      · rintro pass ⟨⟩
        trivial
      · rintro pass ⟨⟩
        trivial
      · rintro pass ⟨⟩
        trivial
      · rintro pass ⟨⟩
        intro current hcurrent _ _
        rw [List.mem_singleton.mp hcurrent]
        exact ⟨fun hfiles => absurd hfiles (by decide +kernel), fun _ => ⟨"a", by decide +kernel⟩⟩)).1

end Codemem

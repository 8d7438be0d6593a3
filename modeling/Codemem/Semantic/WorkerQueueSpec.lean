import Codemem.Semantic.WorkerQueue

/-!
# The protocol of the worker queue

The invariant says where the open jobs are, which job is prepared or executed, and what the settled
promises are.  Each transition keeps it; after a failure or a close no transition starts a job.
-/

namespace Codemem

namespace WorkerQueue

variable {ρ : Type*} (options : QueueOptions) (queue : WorkerQueue ρ)

/-! ### The invariant -/

/-- The jobs that hold a place, in order. -/
def places : List ℕ := queue.active.toList ++ queue.pending

/-- The jobs that have not been started, in order. -/
def waiting : List ℕ := queue.unstarted ++ queue.pending

/-- The jobs that are prepared or executed. -/
def busy : List ℕ := queue.preparing.map Prod.fst ++ queue.executing

/-- What holds of every reachable queue. -/
structure Invariant (options : QueueOptions) (queue : WorkerQueue ρ) : Prop where
  places_le : ∀ id ∈ queue.places, 1 ≤ id ∧ id ≤ queue.nextId
  order : (queue.starts ++ queue.waiting).Pairwise (· < ·)
  starts_le : ∀ id ∈ queue.starts, id ≤ queue.nextId
  pending_unstarted : ∀ id ∈ queue.pending, (queue.jobs id).started = false
  pending_le : queue.pending.length ≤ options.maxPending
  idle : queue.active = none → queue.pending = []
  open_placed : ∀ id, queue.IsOpen id → id ∈ queue.places
  open_due : ∀ id, queue.IsOpen id → queue.now ≤ (queue.jobs id).deadlineAt
  call_lt : ∀ id, 1 ≤ id → id ≤ queue.nextId → (queue.jobs id).call < queue.calls
  call_mono : ∀ id id', 1 ≤ id → id < id' → id' ≤ queue.nextId →
    (queue.jobs id).call < (queue.jobs id').call
  open_unsettled : ∀ id, queue.IsOpen id → ∀ entry ∈ queue.settlements,
    entry.call ≠ (queue.jobs id).call
  once : (queue.settlements.map RunSettlement.call).Nodup
  entry_lt : ∀ entry ∈ queue.settlements, entry.call < queue.calls
  in_time : ∀ entry ∈ queue.settlements, entry.time ≤ entry.deadlineAt
  answered : ∀ entry ∈ queue.settlements, ∀ output, entry.outcome = .value (some output) →
    ∃ id, entry.jobId = some id ∧ (id, some output) ∈ queue.replies
  complete : ∀ call < queue.calls, (∃ entry ∈ queue.settlements, entry.call = call) ∨
    ∃ id, queue.IsOpen id ∧ (queue.jobs id).call = call
  busy_active : ∀ id ∈ queue.busy, queue.active = some id ∧ (queue.jobs id).started = true
  busy_le : queue.busy.length ≤ 1
  preparing_undispatched : ∀ item ∈ queue.preparing, (queue.jobs item.1).dispatched = false
  unstarted_undispatched : ∀ id, 1 ≤ id → id ≤ queue.nextId → (queue.jobs id).started = false →
    (queue.jobs id).dispatched = false
  stopped : queue.circuit.isSome ∨ queue.closing = true → queue.pending = []
  failed : queue.circuit.isSome → ∀ id, ¬queue.IsOpen id
  closed : queue.closing = true → ∀ id, queue.active = some id → (queue.jobs id).started = true
  exited_stops : queue.exited = true → queue.circuit.isSome ∨ queue.closing = true

/-! ### Settling a job -/

section Finish

variable {queue} {id : ℕ} {outcome : RunOutcome ρ}

@[simp] lemma finish_pending : (queue.finish id outcome).pending = queue.pending := by
  unfold finish
  split_ifs <;> rfl

@[simp] lemma finish_active : (queue.finish id outcome).active = queue.active := by
  unfold finish
  split_ifs <;> rfl

@[simp] lemma finish_nextId : (queue.finish id outcome).nextId = queue.nextId := by
  unfold finish
  split_ifs <;> rfl

@[simp] lemma finish_now : (queue.finish id outcome).now = queue.now := by
  unfold finish
  split_ifs <;> rfl

@[simp] lemma finish_starts : (queue.finish id outcome).starts = queue.starts := by
  unfold finish
  split_ifs <;> rfl

@[simp] lemma finish_calls : (queue.finish id outcome).calls = queue.calls := by
  unfold finish
  split_ifs <;> rfl

@[simp] lemma finish_preparing : (queue.finish id outcome).preparing = queue.preparing := by
  unfold finish
  split_ifs <;> rfl

@[simp] lemma finish_executing : (queue.finish id outcome).executing = queue.executing := by
  unfold finish
  split_ifs <;> rfl

@[simp] lemma finish_circuit : (queue.finish id outcome).circuit = queue.circuit := by
  unfold finish
  split_ifs <;> rfl

@[simp] lemma finish_closing : (queue.finish id outcome).closing = queue.closing := by
  unfold finish
  split_ifs <;> rfl

@[simp] lemma finish_exited : (queue.finish id outcome).exited = queue.exited := by
  unfold finish
  split_ifs <;> rfl

@[simp] lemma finish_replies : (queue.finish id outcome).replies = queue.replies := by
  unfold finish
  split_ifs <;> rfl

lemma finish_job (other : ℕ) : ((queue.finish id outcome).jobs other) =
    { queue.jobs other with settled := (queue.jobs other).settled || decide (other = id) } := by
  unfold finish
  split_ifs with hsettled
  · by_cases heq : other = id
    · subst heq
      cases hjob : queue.jobs other
      rw [hjob] at hsettled
      simp_all
    · simp [heq]
  · by_cases heq : other = id
    · subst heq
      simp [setJob]
    · simp [setJob, heq]

lemma isOpen_finish_iff {other : ℕ} :
    (queue.finish id outcome).IsOpen other ↔ queue.IsOpen other ∧ other ≠ id := by
  unfold IsOpen
  rw [finish_nextId, finish_job]
  simp only [Bool.or_eq_false_iff, decide_eq_false_iff_not, ne_eq]
  tauto

/-- Settling keeps the invariant; a value comes from a reply. -/
lemma Invariant.finish {options : QueueOptions} (h : Invariant options queue) (hpos : 1 ≤ id)
    (hle : id ≤ queue.nextId)
    (hvalue : ∀ output, outcome = .value (some output) → (id, some output) ∈ queue.replies) :
    Invariant options (queue.finish id outcome) := by
  have hunstarted : (queue.finish id outcome).unstarted = queue.unstarted := by
    unfold unstarted
    simp [finish_job]
  have hold : (queue.finish id outcome).settlements = queue.settlements ∨
      queue.IsOpen id ∧ (queue.finish id outcome).settlements = queue.settlements ++
        [⟨(queue.jobs id).call, some id, outcome, queue.now, (queue.jobs id).deadlineAt⟩] := by
    unfold WorkerQueue.finish
    split_ifs with hsettled
    · exact .inl rfl
    · exact .inr ⟨⟨hpos, hle, by simpa using hsettled⟩, rfl⟩
  have hmem : ∀ entry ∈ (queue.finish id outcome).settlements, entry ∈ queue.settlements ∨
      queue.IsOpen id ∧
        entry = ⟨(queue.jobs id).call, some id, outcome, queue.now, (queue.jobs id).deadlineAt⟩ := by
    intro entry hentry
    rcases hold with hsame | ⟨hopen, hnew⟩
    · exact .inl (hsame ▸ hentry)
    · rw [hnew, List.mem_append, List.mem_singleton] at hentry
      exact hentry.imp_right fun heq => ⟨hopen, heq⟩
  refine
    { places_le := ?_, order := ?_, starts_le := ?_, pending_unstarted := ?_, pending_le := ?_,
      idle := ?_, open_placed := ?_, open_due := ?_, call_lt := ?_, call_mono := ?_,
      open_unsettled := ?_, once := ?_, entry_lt := ?_, in_time := ?_, answered := ?_,
      complete := ?_, busy_active := ?_, busy_le := ?_, preparing_undispatched := ?_,
      unstarted_undispatched := ?_, stopped := ?_, failed := ?_, closed := ?_, exited_stops := ?_ }
  · simpa [places] using h.places_le
  · simpa [waiting, hunstarted] using h.order
  · simpa using h.starts_le
  · simpa [finish_job] using h.pending_unstarted
  · simpa using h.pending_le
  · simpa using h.idle
  · intro other hother
    simpa [places] using h.open_placed other (isOpen_finish_iff.mp hother).1
  · intro other hother
    simpa [finish_job] using h.open_due other (isOpen_finish_iff.mp hother).1
  · simpa [finish_job] using h.call_lt
  · simpa [finish_job] using h.call_mono
  · intro other hother entry hentry
    obtain ⟨hopen, hne⟩ := isOpen_finish_iff.mp hother
    rw [finish_job]
    rcases hmem entry hentry with hmem | ⟨hopenId, rfl⟩
    · exact h.open_unsettled other hopen entry hmem
    · -- calls of different jobs differ
      rcases Nat.lt_or_gt_of_ne hne with hlt | hgt
      · exact (h.call_mono other id hopen.1 hlt hle).ne'
      · exact (h.call_mono id other hpos hgt hopen.2.1).ne
  · rcases hold with hsame | ⟨hopen, hnew⟩
    · rw [hsame]
      exact h.once
    · rw [hnew, List.map_append, List.nodup_append]
      refine ⟨h.once, by simp, fun call hcall other hother => ?_⟩
      obtain ⟨entry, hentry, rfl⟩ := List.mem_map.mp hcall
      rw [List.map_singleton, List.mem_singleton] at hother
      rw [hother]
      exact h.open_unsettled id hopen entry hentry
  · intro entry hentry
    rw [finish_calls]
    rcases hmem entry hentry with hmem | ⟨-, rfl⟩
    · exact h.entry_lt entry hmem
    · exact h.call_lt id hpos hle
  · intro entry hentry
    rcases hmem entry hentry with hmem | ⟨hopen, rfl⟩
    · exact h.in_time entry hmem
    · exact h.open_due id hopen
  · intro entry hentry output houtput
    rw [finish_replies]
    rcases hmem entry hentry with hmem | ⟨-, rfl⟩
    · exact h.answered entry hmem output houtput
    · exact ⟨id, rfl, hvalue output houtput⟩
  · intro call hcall
    rw [finish_calls] at hcall
    rcases h.complete call hcall with ⟨entry, hentry, heq⟩ | ⟨other, hopen, heq⟩
    · refine .inl ⟨entry, ?_, heq⟩
      rcases hold with hsame | ⟨-, hnew⟩
      · rw [hsame]
        exact hentry
      · rw [hnew]
        exact List.mem_append_left _ hentry
    · by_cases hother : other = id
      · subst hother
        rcases hold with hsame | ⟨-, hnew⟩
        · exfalso
          have hsettled : (queue.jobs other).settled = false := hopen.2.2
          unfold WorkerQueue.finish at hsame
          rw [hsettled, if_neg (by decide)] at hsame
          have hlength := congrArg List.length hsame
          simp at hlength
        · refine .inl ⟨_, hnew ▸ List.mem_append_right _ List.mem_cons_self, heq⟩
      · exact .inr ⟨other, isOpen_finish_iff.mpr ⟨hopen, hother⟩, by rw [finish_job]; exact heq⟩
  · simpa [busy, finish_job] using h.busy_active
  · simpa [busy] using h.busy_le
  · simpa [finish_job] using h.preparing_undispatched
  · simpa [finish_job] using h.unstarted_undispatched
  · simpa using h.stopped
  · intro hcircuit other hother
    rw [finish_circuit] at hcircuit
    exact h.failed hcircuit other (isOpen_finish_iff.mp hother).1
  · simpa [finish_job] using h.closed
  · simpa using h.exited_stops

end Finish

/-! ### Starting and releasing jobs -/

section Release

variable {queue} {options : QueueOptions} {id : ℕ}

lemma Invariant.busy_eq_nil (h : Invariant options queue) (hactive : queue.active = some id)
    (hstarted : (queue.jobs id).started = false) : queue.busy = [] := by
  refine List.eq_nil_iff_forall_not_mem.mpr fun other hother => ?_
  obtain ⟨hsame, htrue⟩ := h.busy_active other hother
  obtain rfl := Option.some.inj (hactive.symm.trans hsame)
  rw [hstarted] at htrue
  cases htrue

/-- Starting the active job keeps the invariant. -/
lemma Invariant.pump (h : Invariant options queue) : Invariant options queue.pump := by
  unfold WorkerQueue.pump
  split_ifs with hstop
  · exact h
  cases hactive : queue.active with
  | none => exact h
  | some id =>
    dsimp only
    split_ifs with hstarted
    · exact h
    have hunstarted : (queue.jobs id).started = false := by simpa using hstarted
    have hbusy := h.busy_eq_nil hactive hunstarted
    obtain ⟨hpreparing, hexecuting⟩ := List.append_eq_nil_iff.mp hbusy
    have hnil : queue.preparing = [] := List.map_eq_nil_iff.mp hpreparing
    have hwaiting : queue.waiting = id :: queue.pending := by
      simp [waiting, unstarted, hactive, hunstarted]
    have horder := h.order
    rw [hwaiting] at horder
    have hne : ∀ other ∈ queue.pending, other ≠ id := fun other hother =>
      ((List.pairwise_cons.mp (List.pairwise_append.mp horder).2.1).1 other hother).ne'
    have hplace := h.places_le id (by simp [places, hactive])
    have hjob : ∀ other, other ≠ id → Function.update queue.jobs id
        { queue.jobs id with started := true } other = queue.jobs other :=
      fun other hother => Function.update_of_ne hother _ _
    have hopen : ∀ other, ({ queue.setJob id fun job => { job with started := true } with
        preparing := queue.preparing ++ [(id, false)]
        starts := queue.starts ++ [id] } : WorkerQueue ρ).IsOpen other ↔ queue.IsOpen other := by
      intro other
      by_cases hother : other = id
      · subst hother
        simp [IsOpen, setJob]
      · simp [IsOpen, setJob, hother]
    have hcall : ∀ other, (Function.update queue.jobs id
        { queue.jobs id with started := true } other).call = (queue.jobs other).call := by
      intro other
      by_cases hother : other = id
      · subst hother
        simp
      · rw [hjob other hother]
    have hdue : ∀ other, (Function.update queue.jobs id
        { queue.jobs id with started := true } other).deadlineAt = (queue.jobs other).deadlineAt := by
      intro other
      by_cases hother : other = id
      · subst hother
        simp
      · rw [hjob other hother]
    refine
      { h with
        order := ?_, starts_le := ?_, pending_unstarted := ?_, open_placed := ?_, open_due := ?_,
        call_lt := ?_, call_mono := ?_, open_unsettled := ?_, complete := ?_, busy_active := ?_,
        busy_le := ?_, preparing_undispatched := ?_, unstarted_undispatched := ?_, failed := ?_,
        closed := ?_ }
    · simpa [waiting, unstarted, setJob, hactive] using horder
    · intro other hother
      rcases List.mem_append.mp hother with hmem | hmem
      · exact h.starts_le other hmem
      · rw [List.mem_singleton.mp hmem]
        exact hplace.2
    · intro other hother
      have hsame := hjob other (hne other hother)
      change (Function.update queue.jobs id _ other).started = false
      rw [hsame]
      exact h.pending_unstarted other hother
    · exact fun other hother => h.open_placed other ((hopen other).mp hother)
    · intro other hother
      exact (h.open_due other ((hopen other).mp hother)).trans_eq (hdue other).symm
    · exact fun other hpos hle => (hcall other).trans_lt (h.call_lt other hpos hle)
    · intro other other' hpos hlt hle
      exact ((hcall other).trans_lt (h.call_mono other other' hpos hlt hle)).trans_eq
        (hcall other').symm
    · intro other hother entry hentry heq
      exact h.open_unsettled other ((hopen other).mp hother) entry hentry (heq.trans (hcall other))
    · intro call hlt
      refine (h.complete call hlt).imp_right fun ⟨other, hother, heq⟩ => ?_
      exact ⟨other, (hopen other).mpr hother, (hcall other).trans heq⟩
    · intro other hother
      simp only [busy, setJob, hnil, hexecuting, List.nil_append, List.map_singleton,
        List.append_nil, List.mem_singleton] at hother
      subst hother
      exact ⟨hactive, by simp [setJob]⟩
    · simp [busy, setJob, hnil, hexecuting]
    · intro item hitem
      simp only [hnil, List.nil_append, List.mem_singleton] at hitem
      subst hitem
      simpa [setJob] using h.unstarted_undispatched id hplace.1 hplace.2 hunstarted
    · intro other hpos hle hother
      by_cases hsame : other = id
      · subst hsame
        simp [setJob] at hother
      · simp only [setJob, hjob other hsame] at hother ⊢
        exact h.unstarted_undispatched other hpos hle hother
    · exact fun hcircuit other hother => h.failed hcircuit other ((hopen other).mp hother)
    · intro hclosing other hother
      have hsame : other = id := Option.some.inj (hother.symm.trans hactive)
      rw [hsame]
      simp [setJob]

/-- The next job takes the place of a job that is over. -/
lemma Invariant.shift (h : Invariant options queue) (hactive : queue.active = some id)
    (hsettled : ¬queue.IsOpen id) (hbusy : queue.busy = []) : Invariant options queue.shift := by
  have hplaces : queue.shift.places = queue.pending := by
    unfold places WorkerQueue.shift
    cases queue.pending with
    | nil => rfl
    | cons first rest => rfl
  have hwaiting : queue.shift.waiting = queue.pending := by
    unfold waiting unstarted WorkerQueue.shift
    cases hpending : queue.pending with
    | nil => rfl
    | cons first rest =>
      have hfirst := h.pending_unstarted first (hpending ▸ List.mem_cons_self)
      simp [hfirst]
  have hplacesOf : queue.places = id :: queue.pending := by simp [places, hactive]
  refine
    { h with
      places_le := ?_, order := ?_, pending_unstarted := ?_, pending_le := ?_, idle := ?_,
      open_placed := ?_, busy_active := ?_, stopped := ?_, closed := ?_ }
  · rw [hplaces]
    exact fun other hother => h.places_le other (hplacesOf ▸ List.mem_cons_of_mem id hother)
  · rw [hwaiting]
    exact h.order.sublist ((List.sublist_append_right _ _).append_left _)
  · exact fun other hother => h.pending_unstarted other (List.mem_of_mem_tail hother)
  · exact (List.tail_sublist _).length_le.trans h.pending_le
  · intro hnone
    have hnil : queue.pending = [] := List.head?_eq_none_iff.mp hnone
    exact congrArg List.tail hnil
  · intro other hother
    have hmem := h.open_placed other hother
    rw [hplacesOf, List.mem_cons] at hmem
    rw [hplaces]
    exact hmem.resolve_left fun heq => hsettled (heq ▸ hother)
  · intro other hother
    have hmem : other ∈ queue.busy := hother
    rw [hbusy] at hmem
    cases hmem
  · exact fun hstop => congrArg List.tail (h.stopped hstop)
  · intro hclosing other hother
    have hnil := h.stopped (.inr hclosing)
    have hhead : queue.pending.head? = some other := hother
    rw [hnil] at hhead
    cases hhead

lemma Invariant.release (h : Invariant options queue) (hsettled : ¬queue.IsOpen id)
    (hbusy : queue.active = some id → queue.busy = []) : Invariant options (queue.release id) := by
  unfold WorkerQueue.release
  split_ifs with hactive
  · exact (h.shift hactive hsettled (hbusy hactive)).pump
  · exact h

end Release

/-! ### Failure, exit and close -/

section Stop

variable {queue} {options : QueueOptions} {ids : List ℕ} {outcome : RunOutcome ρ}

/-- What settling several jobs leaves as it is. -/
structure SameQueue (queue other : WorkerQueue ρ) : Prop where
  pending : other.pending = queue.pending
  active : other.active = queue.active
  nextId : other.nextId = queue.nextId
  circuit : other.circuit = queue.circuit
  closing : other.closing = queue.closing
  exited : other.exited = queue.exited
  starts : other.starts = queue.starts
  started : ∀ id, (other.jobs id).started = (queue.jobs id).started

lemma sameQueue_finishAll : SameQueue queue (queue.finishAll ids outcome) := by
  induction ids generalizing queue with
  | nil => exact ⟨rfl, rfl, rfl, rfl, rfl, rfl, rfl, fun _ => rfl⟩
  | cons id ids ih =>
    have hrest := @ih (queue.finish id outcome)
    exact ⟨hrest.pending.trans finish_pending, hrest.active.trans finish_active,
      hrest.nextId.trans finish_nextId, hrest.circuit.trans finish_circuit,
      hrest.closing.trans finish_closing, hrest.exited.trans finish_exited,
      hrest.starts.trans finish_starts, fun other => by
        rw [show (queue.finishAll (id :: ids) outcome) =
          (queue.finish id outcome).finishAll ids outcome from rfl, hrest.started other, finish_job]⟩

lemma isOpen_finishAll_iff {other : ℕ} :
    (queue.finishAll ids outcome).IsOpen other ↔ queue.IsOpen other ∧ other ∉ ids := by
  induction ids generalizing queue with
  | nil => simp [finishAll]
  | cons id ids ih =>
    have hstep := @ih (queue.finish id outcome)
    rw [isOpen_finish_iff] at hstep
    rw [List.mem_cons, not_or, ← and_assoc]
    exact hstep

lemma Invariant.finishAll (h : Invariant options queue)
    (hids : ∀ id ∈ ids, 1 ≤ id ∧ id ≤ queue.nextId)
    (hvalue : ∀ output, outcome ≠ .value (some output)) :
    Invariant options (queue.finishAll ids outcome) := by
  induction ids generalizing queue with
  | nil => exact h
  | cons id ids ih =>
    obtain ⟨hid, hids⟩ := List.forall_mem_cons.mp hids
    have hfirst := @Invariant.finish _ _ id outcome options h hid.1 hid.2
      fun output heq => absurd heq (hvalue output)
    exact ih hfirst (by simpa using hids)

lemma Invariant.fail (h : Invariant options queue) (code : SemanticWorkerErrorCode) :
    Invariant options (queue.fail code) := by
  unfold WorkerQueue.fail
  split_ifs with hstop
  · exact h
  have hfinished : Invariant options (queue.finishAll (queue.active.toList ++ queue.pending)
      (.failed code)) := h.finishAll h.places_le fun output heq => by cases heq
  have hsame : SameQueue queue (queue.finishAll (queue.active.toList ++ queue.pending)
      (.failed code)) := sameQueue_finishAll
  have hnone : ∀ id, ¬(queue.finishAll (queue.active.toList ++ queue.pending)
      (.failed code)).IsOpen id := fun id hopen => by
    obtain ⟨hbefore, hnot⟩ := isOpen_finishAll_iff.mp hopen
    exact hnot (h.open_placed id hbefore)
  generalize queue.finishAll (queue.active.toList ++ queue.pending) (.failed code) = finished
    at hfinished hsame hnone
  refine
    { hfinished with
      places_le := ?_, order := ?_, pending_unstarted := ?_, pending_le := ?_, idle := ?_,
      open_placed := ?_, stopped := ?_, failed := ?_, exited_stops := ?_ }
  · intro id hid
    refine hfinished.places_le id (List.mem_append_left _ ?_)
    simpa [places] using hid
  · have hsub : (finished.starts ++ finished.unstarted).Sublist
        (finished.starts ++ finished.waiting) :=
      (List.sublist_append_left finished.unstarted finished.pending).append_left _
    have horder := hfinished.order.sublist hsub
    simpa [waiting, unstarted] using horder
  · exact fun id hid => absurd hid List.not_mem_nil
  · exact Nat.zero_le _
  · exact fun _ => rfl
  · exact fun id hopen => absurd hopen (hnone id)
  · exact fun _ => rfl
  · exact fun _ id => hnone id
  · exact fun _ => .inl rfl

lemma circuit_fail (code : SemanticWorkerErrorCode) (h : queue.exited = false) :
    (queue.fail code).circuit.isSome := by
  unfold WorkerQueue.fail
  split_ifs with hstop
  · rw [h] at hstop
    simpa using hstop
  · rfl

lemma Invariant.onExit (h : Invariant options queue) : Invariant options queue.onExit := by
  by_cases hexited : queue.exited = true
  · unfold WorkerQueue.onExit
    rw [if_pos hexited]
    exact h
  unfold WorkerQueue.onExit
  rw [if_neg hexited]
  dsimp only
  have hrunning : queue.exited = false := by simpa using hexited
  have hfailed : Invariant options (if queue.closing then queue else queue.fail .workerFailed) ∧
      ((if queue.closing then queue else queue.fail .workerFailed).circuit.isSome ∨
        (if queue.closing then queue else queue.fail .workerFailed).closing = true) := by
    split_ifs with hclosing
    · exact ⟨h, .inr hclosing⟩
    · exact ⟨h.fail _, .inl (circuit_fail _ hrunning)⟩
  generalize (if queue.closing then queue else queue.fail .workerFailed) = failed at hfailed
  obtain ⟨hfailed, hstopped⟩ := hfailed
  have hfinished : Invariant options (failed.finishAll failed.active.toList (.failed .closed)) :=
    hfailed.finishAll (fun id hid => hfailed.places_le id (List.mem_append_left _ hid))
      fun output heq => by cases heq
  have hsame : SameQueue failed (failed.finishAll failed.active.toList (.failed .closed)) :=
    sameQueue_finishAll
  generalize failed.finishAll failed.active.toList (.failed .closed) = finished at hfinished hsame
  refine { hfinished with busy_active := ?_, busy_le := ?_, exited_stops := ?_ }
  · intro id hid
    refine hfinished.busy_active id (List.mem_append_left _ ?_)
    simpa [busy] using hid
  · have hle := hfinished.busy_le
    simp only [busy, List.length_append, List.append_nil] at hle ⊢
    omega
  · intro _
    rw [hsame.circuit, hsame.closing]
    exact hstopped

lemma Invariant.close (h : Invariant options queue) : Invariant options queue.close := by
  have hplaced : ∀ id ∈ queue.pending ++ queue.unstarted, 1 ≤ id ∧ id ≤ queue.nextId := by
    intro id hid
    refine h.places_le id ?_
    rcases List.mem_append.mp hid with hid | hid
    · exact List.mem_append_right _ hid
    · exact List.mem_append_left _ (List.mem_filter.mp hid).1
  have hfinished : Invariant options (queue.finishAll (queue.pending ++ queue.unstarted)
      (.failed .closed)) := h.finishAll hplaced fun output heq => by cases heq
  have hsame : SameQueue queue (queue.finishAll (queue.pending ++ queue.unstarted)
      (.failed .closed)) := sameQueue_finishAll
  have hopen : ∀ id, (queue.finishAll (queue.pending ++ queue.unstarted) (.failed .closed)).IsOpen id →
      queue.active = some id ∧ (queue.jobs id).started = true := by
    intro id hid
    obtain ⟨hbefore, hnot⟩ := isOpen_finishAll_iff.mp hid
    rw [List.mem_append, not_or] at hnot
    have hactive := (List.mem_append.mp (h.open_placed id hbefore)).resolve_right hnot.1
    refine ⟨Option.mem_toList.mp hactive, ?_⟩
    by_contra hstarted
    exact hnot.2 (List.mem_filter.mpr ⟨hactive, by simpa using hstarted⟩)
  have hclosed : Invariant options
      ({ queue.finishAll (queue.pending ++ queue.unstarted) (.failed .closed) with
        closing := true
        pending := []
        active := queue.active.filter fun id => (queue.jobs id).started } : WorkerQueue ρ) := by
    generalize queue.finishAll (queue.pending ++ queue.unstarted) (.failed .closed) = finished
      at hfinished hsame hopen
    have hactive : ∀ id, queue.active.filter (fun id => (queue.jobs id).started) = some id →
        queue.active = some id ∧ (queue.jobs id).started = true := fun id hid =>
      Option.filter_eq_some_iff.mp hid
    refine
      { hfinished with
        places_le := ?_, order := ?_, pending_unstarted := ?_, pending_le := ?_, idle := ?_,
        open_placed := ?_, busy_active := ?_, stopped := ?_, closed := ?_, exited_stops := ?_ }
    · intro id hid
      simp only [places, List.append_nil, Option.mem_toList] at hid
      rw [hsame.nextId]
      exact h.places_le id (by simp [places, (hactive id hid).1])
    · have hnone : (queue.active.filter fun id => (queue.jobs id).started).toList.filter
          (fun id => !(finished.jobs id).started) = [] := by
        refine List.filter_eq_nil_iff.mpr fun id hid => ?_
        rw [hsame.started, (hactive id (Option.mem_toList.mp hid)).2]
        decide
      simp only [waiting, unstarted, hnone, List.append_nil]
      exact (List.pairwise_append.mp hfinished.order).1
    · exact fun id hid => absurd hid List.not_mem_nil
    · exact Nat.zero_le _
    · exact fun _ => rfl
    · intro id hid
      obtain ⟨hsome, hstarted⟩ := hopen id hid
      simp [places, hsome, hstarted]
    · intro id hid
      obtain ⟨hsome, hstarted⟩ := hfinished.busy_active id hid
      rw [hsame.active] at hsome
      rw [hsame.started] at hstarted
      exact ⟨Option.filter_eq_some_iff.mpr ⟨hsome, hstarted⟩, (hsame.started id).trans hstarted⟩
    · exact fun _ => rfl
    · exact fun _ id hid => (hsame.started id).trans (hactive id hid).2
    · exact fun _ => .inr rfl
  unfold WorkerQueue.close
  split_ifs with hdone hidle
  · exact h
  · exact hclosed
  · exact { hclosed with }

end Stop

/-! ### New calls -/

section Run

variable {queue} {options : QueueOptions}

/-- A call that is rejected at once keeps the invariant. -/
lemma Invariant.reject (h : Invariant options queue) (code : SemanticWorkerErrorCode) :
    Invariant options (queue.reject options code) := by
  refine
    { h with
      call_lt := ?_, open_unsettled := ?_, once := ?_, entry_lt := ?_, in_time := ?_, answered := ?_,
      complete := ?_ }
  · exact fun id hpos hle => Nat.lt_succ_of_lt (h.call_lt id hpos hle)
  · intro id hid entry hentry
    rcases List.mem_append.mp hentry with hmem | hmem
    · exact h.open_unsettled id hid entry hmem
    · rw [List.mem_singleton.mp hmem]
      exact (h.call_lt id hid.1 hid.2.1).ne'
  · have hnew : (queue.reject options code).settlements.map RunSettlement.call =
        queue.settlements.map RunSettlement.call ++ [queue.calls] := by
      simp [WorkerQueue.reject]
    rw [hnew, List.nodup_append]
    refine ⟨h.once, List.nodup_singleton _, fun call hcall other hother => ?_⟩
    obtain ⟨entry, hentry, rfl⟩ := List.mem_map.mp hcall
    rw [List.mem_singleton.mp hother]
    exact (h.entry_lt entry hentry).ne
  · intro entry hentry
    rcases List.mem_append.mp hentry with hmem | hmem
    · exact Nat.lt_succ_of_lt (h.entry_lt entry hmem)
    · rw [List.mem_singleton.mp hmem]
      exact Nat.lt_succ_self _
  · intro entry hentry
    rcases List.mem_append.mp hentry with hmem | hmem
    · exact h.in_time entry hmem
    · rw [List.mem_singleton.mp hmem]
      exact Nat.le_add_right _ _
  · intro entry hentry output houtput
    rcases List.mem_append.mp hentry with hmem | hmem
    · exact h.answered entry hmem output houtput
    · rw [List.mem_singleton.mp hmem] at houtput
      cases houtput
  · intro call hcall
    rcases Nat.lt_succ_iff_lt_or_eq.mp hcall with hlt | rfl
    · refine (h.complete call hlt).imp_left fun ⟨entry, hentry, heq⟩ => ?_
      exact ⟨entry, List.mem_append_left _ hentry, heq⟩
    · exact .inl ⟨_, List.mem_append_right _ List.mem_cons_self, rfl⟩

/-- A new job keeps the invariant. -/
lemma Invariant.createJob (h : Invariant options queue) (hasSignal : Bool)
    (hclosing : queue.closing = false) (hcircuit : queue.circuit = none)
    (hroom : ¬(queue.active.isSome ∧ options.maxPending ≤ queue.pending.length)) :
    Invariant options (queue.createJob options hasSignal) := by
  have hplaces : (queue.createJob options hasSignal).places = queue.places ++ [queue.nextId + 1] := by
    unfold places WorkerQueue.createJob
    cases hactive : queue.active with
    | none => simp [h.idle hactive]
    | some id => simp
  have hold : ∀ id, id ≤ queue.nextId →
      (queue.createJob options hasSignal).jobs id = queue.jobs id := fun id hle =>
    Function.update_of_ne (by omega) _ _
  have hnew : (queue.createJob options hasSignal).jobs (queue.nextId + 1) =
      ⟨queue.calls, queue.now + options.requestMs, hasSignal, false, false, false⟩ :=
    Function.update_self _ _ _
  have hwaiting : (queue.createJob options hasSignal).waiting =
      queue.waiting ++ [queue.nextId + 1] := by
    cases hactive : queue.active with
    | none =>
      have hactive' : (queue.createJob options hasSignal).active = some (queue.nextId + 1) := by
        simp [WorkerQueue.createJob, hactive]
      have hpending' : (queue.createJob options hasSignal).pending = [] := by
        simp [WorkerQueue.createJob, hactive, h.idle hactive]
      simp [waiting, unstarted, hactive, hactive', hpending', hnew, h.idle hactive]
    | some id =>
      have hactive' : (queue.createJob options hasSignal).active = some id := by
        simp [WorkerQueue.createJob, hactive]
      have hpending' : (queue.createJob options hasSignal).pending =
          queue.pending ++ [queue.nextId + 1] := by
        simp [WorkerQueue.createJob, hactive]
      have hle := (h.places_le id (by simp [places, hactive])).2
      simp only [waiting, unstarted, hactive, hactive', hpending', Option.toList_some,
        List.append_assoc]
      congr 1
      refine List.filter_congr fun other hother => ?_
      rw [List.mem_singleton.mp hother, hold id hle]
  have hwaitingLe : ∀ id ∈ queue.waiting, id ≤ queue.nextId := by
    intro id hid
    rcases List.mem_append.mp hid with hid | hid
    · exact (h.places_le id (List.mem_append_left _ (List.mem_filter.mp hid).1)).2
    · exact (h.places_le id (List.mem_append_right _ hid)).2
  have hopen : ∀ id, (queue.createJob options hasSignal).IsOpen id ↔
      queue.IsOpen id ∨ id = queue.nextId + 1 := by
    intro id
    unfold IsOpen
    by_cases hid : id = queue.nextId + 1
    · subst hid
      rw [hnew]
      simp [WorkerQueue.createJob]
    · constructor
      · rintro ⟨hpos, hle, hsettled⟩
        have hle' : id ≤ queue.nextId := by
          have hbound : id ≤ queue.nextId + 1 := hle
          omega
        rw [hold id hle'] at hsettled
        exact .inl ⟨hpos, hle', hsettled⟩
      · rintro (⟨hpos, hle, hsettled⟩ | heq)
        · exact ⟨hpos, Nat.le_succ_of_le hle, by rw [hold id hle]; exact hsettled⟩
        · exact absurd heq hid
  have hpending : ∀ id ∈ (queue.createJob options hasSignal).pending,
      id ∈ queue.pending ∨ id = queue.nextId + 1 := by
    intro id hid
    unfold WorkerQueue.createJob at hid
    dsimp only at hid
    split_ifs at hid
    · exact (List.mem_append.mp hid).imp_right List.mem_singleton.mp
    · exact .inl hid
  have hactive : ∀ id, queue.active = some id →
      (queue.createJob options hasSignal).active = some id := fun id hid => by
    simp [WorkerQueue.createJob, hid]
  refine
    { places_le := ?_, order := ?_, starts_le := ?_, pending_unstarted := ?_, pending_le := ?_,
      idle := ?_, open_placed := ?_, open_due := ?_, call_lt := ?_, call_mono := ?_,
      open_unsettled := ?_, once := h.once, entry_lt := ?_, in_time := h.in_time,
      answered := h.answered, complete := ?_, busy_active := ?_, busy_le := h.busy_le,
      preparing_undispatched := ?_, unstarted_undispatched := ?_, stopped := ?_, failed := ?_,
      closed := ?_, exited_stops := h.exited_stops }
  · intro id hid
    rw [hplaces, List.mem_append, List.mem_singleton] at hid
    rcases hid with hid | rfl
    · exact ⟨(h.places_le id hid).1, Nat.le_succ_of_le (h.places_le id hid).2⟩
    · exact ⟨Nat.succ_pos _, le_rfl⟩
  · have hstarts : (queue.createJob options hasSignal).starts = queue.starts := rfl
    rw [hstarts, hwaiting, ← List.append_assoc, List.pairwise_append]
    refine ⟨h.order, List.pairwise_singleton _ _, fun id hid other hother => ?_⟩
    rw [List.mem_singleton.mp hother]
    rcases List.mem_append.mp hid with hid | hid
    · exact Nat.lt_succ_of_le (h.starts_le id hid)
    · exact Nat.lt_succ_of_le (hwaitingLe id hid)
  · exact fun id hid => Nat.le_succ_of_le (h.starts_le id hid)
  · intro id hid
    rcases hpending id hid with hid | rfl
    · rw [hold id (h.places_le id (List.mem_append_right _ hid)).2]
      exact h.pending_unstarted id hid
    · rw [hnew]
  · unfold WorkerQueue.createJob
    dsimp only
    split_ifs with hsome
    · have hlt : queue.pending.length < options.maxPending := by
        by_contra hge
        exact hroom ⟨hsome, not_lt.mp hge⟩
      rw [List.length_append]
      exact hlt
    · exact h.pending_le
  · intro hnone
    unfold WorkerQueue.createJob at hnone
    dsimp only at hnone
    split_ifs at hnone with hsome
    · rw [hnone] at hsome
      cases hsome
  · intro id hid
    rw [hplaces, List.mem_append, List.mem_singleton]
    exact ((hopen id).mp hid).imp_left (h.open_placed id)
  · intro id hid
    rcases (hopen id).mp hid with hid | rfl
    · rw [hold id hid.2.1]
      exact h.open_due id hid
    · rw [hnew]
      exact Nat.le_add_right _ _
  · intro id hpos hle
    by_cases hid : id = queue.nextId + 1
    · rw [hid, hnew]
      exact Nat.lt_succ_self _
    · have hle' : id ≤ queue.nextId := by
        have hbound : id ≤ queue.nextId + 1 := hle
        omega
      rw [hold id hle']
      exact Nat.lt_succ_of_lt (h.call_lt id hpos hle')
  · intro id id' hpos hlt hle
    have hbound : id' ≤ queue.nextId + 1 := hle
    have hle' : id ≤ queue.nextId := by omega
    rw [hold id hle']
    by_cases hid : id' = queue.nextId + 1
    · rw [hid, hnew]
      exact h.call_lt id hpos hle'
    · rw [hold id' (by omega)]
      exact h.call_mono id id' hpos hlt (by omega)
  · intro id hid entry hentry
    rcases (hopen id).mp hid with hid | rfl
    · rw [hold id hid.2.1]
      exact h.open_unsettled id hid entry hentry
    · rw [hnew]
      exact (h.entry_lt entry hentry).ne
  · exact fun entry hentry => Nat.lt_succ_of_lt (h.entry_lt entry hentry)
  · intro call hcall
    rcases Nat.lt_succ_iff_lt_or_eq.mp hcall with hlt | rfl
    · refine (h.complete call hlt).imp_right fun ⟨id, hid, heq⟩ => ?_
      exact ⟨id, (hopen id).mpr (.inl hid), by rw [hold id hid.2.1]; exact heq⟩
    · exact .inr ⟨queue.nextId + 1, (hopen _).mpr (.inr rfl), by rw [hnew]⟩
  · intro id hid
    obtain ⟨hsome, hstarted⟩ := h.busy_active id hid
    refine ⟨hactive id hsome, ?_⟩
    rw [hold id (h.places_le id (by simp [places, hsome])).2]
    exact hstarted
  · intro item hitem
    have hbusy : item.1 ∈ queue.busy := List.mem_append_left _ (List.mem_map_of_mem hitem)
    have hsome := (h.busy_active item.1 hbusy).1
    rw [hold item.1 (h.places_le item.1 (by simp [places, hsome])).2]
    exact h.preparing_undispatched item hitem
  · intro id hpos hle hstarted
    by_cases hid : id = queue.nextId + 1
    · rw [hid, hnew]
    · have hle' : id ≤ queue.nextId := by
        have hbound : id ≤ queue.nextId + 1 := hle
        omega
      rw [hold id hle'] at hstarted ⊢
      exact h.unstarted_undispatched id hpos hle' hstarted
  · rintro (hstop | hstop)
    · have hnone : queue.circuit.isSome := hstop
      rw [hcircuit] at hnone
      cases hnone
    · have hfalse : queue.closing = true := hstop
      rw [hclosing] at hfalse
      cases hfalse
  · intro hstop
    have hnone : queue.circuit.isSome := hstop
    rw [hcircuit] at hnone
    cases hnone
  · intro hstop
    have hfalse : queue.closing = true := hstop
    rw [hclosing] at hfalse
    cases hfalse

lemma Invariant.startWorker (h : Invariant options queue) (works : Bool) :
    Invariant options (queue.startWorker options works) := by
  have htimer : Invariant options
      ({ queue with readinessTimer := some (queue.now + options.readinessMs) } : WorkerQueue ρ) :=
    { h with }
  unfold WorkerQueue.startWorker
  split_ifs with hdone hworks
  · exact h
  · exact { htimer with }
  · exact htimer.fail _

lemma Invariant.run (h : Invariant options queue) (signal : Option Bool) (works : Bool) :
    Invariant options (queue.run options signal works) := by
  by_cases hclosing : queue.closing = true
  · unfold WorkerQueue.run
    rw [if_pos hclosing]
    exact h.reject _
  unfold WorkerQueue.run
  rw [if_neg hclosing]
  cases hcircuit : queue.circuit with
  | some code => exact h.reject _
  | none =>
    dsimp only
    split_ifs with haborted hroom
    · exact h.reject _
    · exact h.reject _
    · exact ((h.createJob _ (by simpa using hclosing) hcircuit hroom).startWorker works).pump

end Run

/-! ### Cancelling, replies and preparations -/

section Steps

variable {queue} {options : QueueOptions} {id : ℕ}

lemma Invariant.filterPending (h : Invariant options queue) (hsettled : ¬queue.IsOpen id) :
    Invariant options
      ({ queue with pending := queue.pending.filter fun item => item != id } : WorkerQueue ρ) := by
  have hsub : (queue.pending.filter fun item => item != id).Sublist queue.pending :=
    List.filter_sublist
  refine
    { h with
      places_le := ?_, order := ?_, pending_unstarted := ?_, pending_le := ?_, idle := ?_,
      open_placed := ?_, stopped := ?_ }
  · intro other hother
    exact h.places_le other ((hsub.append_left queue.active.toList).subset hother)
  · exact h.order.sublist ((hsub.append_left queue.unstarted).append_left queue.starts)
  · exact fun other hother => h.pending_unstarted other (hsub.subset hother)
  · exact hsub.length_le.trans h.pending_le
  · intro hnone
    have hnil := h.idle hnone
    change queue.pending.filter (fun item => item != id) = []
    rw [hnil]
    rfl
  · intro other hother
    rcases List.mem_append.mp (h.open_placed other hother) with hmem | hmem
    · exact List.mem_append_left _ hmem
    · refine List.mem_append_right _ (List.mem_filter.mpr ⟨hmem, ?_⟩)
      have hne : other ≠ id := fun heq => hsettled (heq ▸ hother)
      simpa using hne
  · intro hstop
    have hnil := h.stopped hstop
    change queue.pending.filter (fun item => item != id) = []
    rw [hnil]
    rfl

lemma Invariant.cancel (h : Invariant options queue) (hopen : queue.IsOpen id)
    (code : SemanticWorkerErrorCode) : Invariant options (queue.cancel id code) := by
  have hfinished := @Invariant.finish _ _ id (.failed code) options h hopen.1 hopen.2.1
    fun output heq => by cases heq
  have hover : ¬(queue.finish id (.failed code)).IsOpen id :=
    fun hopen => (isOpen_finish_iff.mp hopen).2 rfl
  have hremoved := hfinished.filterPending hover
  unfold WorkerQueue.cancel
  dsimp only
  split_ifs with hactive
  · exact hremoved.release hover fun _ => hremoved.busy_eq_nil hactive.1 hactive.2
  · exact hremoved

lemma Invariant.busy_eq_nil_of_not (h : Invariant options queue) (hactive : queue.active = some id)
    (hpreparing : ∀ item ∈ queue.preparing, item.1 ≠ id) (hexecuting : id ∉ queue.executing) :
    queue.busy = [] := by
  refine List.eq_nil_iff_forall_not_mem.mpr fun other hother => ?_
  obtain rfl := Option.some.inj (hactive.symm.trans (h.busy_active other hother).1)
  rcases List.mem_append.mp hother with hmem | hmem
  · obtain ⟨item, hitem, heq⟩ := List.mem_map.mp hmem
    exact hpreparing item hitem heq
  · exact hexecuting hmem

lemma Invariant.answered_step (h : Invariant options queue) (id : ℕ) (output : Option ρ) :
    Invariant options (queue.answered id output) := by
  have hsub : (queue.answered id output).busy.Sublist queue.busy :=
    List.Sublist.append_left List.filter_sublist _
  refine { h with answered := ?_, busy_active := ?_, busy_le := ?_ }
  · intro entry hentry value hvalue
    obtain ⟨job, hjob, hmem⟩ := h.answered entry hentry value hvalue
    exact ⟨job, hjob, List.mem_append_left _ hmem⟩
  · exact fun other hother => h.busy_active other (hsub.subset hother)
  · exact hsub.length_le.trans h.busy_le

lemma Invariant.deliver (h : Invariant options queue) {outcome : RunOutcome ρ}
    (hexecuting : id ∉ queue.executing)
    (hvalue : ∀ output, outcome = .value (some output) → (id, some output) ∈ queue.replies) :
    Invariant options (queue.deliver id outcome) := by
  unfold WorkerQueue.deliver
  split_ifs with hstop hactive
  · exact h
  · have hplace := h.places_le id (by simp [places, hactive.1])
    have hfinished := h.finish hplace.1 hplace.2 hvalue
    refine hfinished.release (fun hopen => (isOpen_finish_iff.mp hopen).2 rfl) fun hsome => ?_
    refine hfinished.busy_eq_nil_of_not hsome (fun item hitem heq => ?_) (by simpa using hexecuting)
    -- a job that is being prepared has not been sent
    rw [finish_preparing] at hitem
    have hnot := h.preparing_undispatched item hitem
    rw [heq, hactive.2] at hnot
    cases hnot
  · exact h

lemma Invariant.message (h : Invariant options queue) (reply : WorkerReply ρ) :
    Invariant options (queue.message reply) := by
  cases reply with
  | ready =>
    unfold WorkerQueue.message
    dsimp only
    split_ifs with hstop
    · exact h
    · have hready : Invariant options
          ({ queue with ready := true, readinessTimer := none } : WorkerQueue ρ) := { h with }
      exact hready.pump
  | result id output =>
    refine (h.answered_step id output).deliver ?_ fun value hvalue => ?_
    · simp [WorkerQueue.answered]
    · obtain rfl := RunOutcome.value.inj hvalue
      simp [WorkerQueue.answered]
  | error id expired =>
    refine (h.answered_step id none).deliver ?_ fun value hvalue => ?_
    · simp [WorkerQueue.answered]
    · cases hvalue

lemma Invariant.prepared_step (h : Invariant options queue) (id : ℕ) :
    Invariant options (queue.prepared id) := by
  have hsub : (queue.prepared id).preparing.Sublist queue.preparing := List.filter_sublist
  have hbusy : (queue.prepared id).busy.Sublist queue.busy :=
    (hsub.map Prod.fst).append_right _
  refine { h with busy_active := ?_, busy_le := ?_, preparing_undispatched := ?_ }
  · exact fun other hother => h.busy_active other (hbusy.subset hother)
  · exact hbusy.length_le.trans h.busy_le
  · exact fun item hitem => h.preparing_undispatched item (hsub.subset hitem)

lemma Invariant.busy_prepared (h : Invariant options queue) {running : Bool}
    (hmem : (id, running) ∈ queue.preparing) : (queue.prepared id).busy = [] := by
  have hactive := (h.busy_active id (List.mem_append_left _
    (List.mem_map.mpr ⟨_, hmem, rfl⟩))).1
  refine (h.prepared_step id).busy_eq_nil_of_not hactive (fun item hitem => ?_) fun hexecuting => ?_
  · simpa using (List.mem_filter.mp hitem).2
  · -- two jobs would be busy
    have hle := h.busy_le
    have hlength := List.length_pos_of_mem hmem
    have hlength' : 0 < queue.executing.length := List.length_pos_of_mem hexecuting
    simp only [busy, List.length_append, List.length_map] at hle
    omega

lemma Invariant.finish_release (h : Invariant options queue) {outcome : RunOutcome ρ}
    (hpos : 1 ≤ id) (hle : id ≤ queue.nextId) (hbusy : queue.busy = [])
    (hvalue : ∀ output, outcome ≠ .value (some output)) :
    Invariant options ((queue.finish id outcome).release id) := by
  have hfinished := h.finish hpos hle fun output heq => absurd heq (hvalue output)
  refine hfinished.release (fun hopen => (isOpen_finish_iff.mp hopen).2 rfl) fun _ => ?_
  simpa [busy] using hbusy

lemma Invariant.prepareStart (h : Invariant options queue) (hmem : (id, false) ∈ queue.preparing) :
    Invariant options (queue.prepareStart id) := by
  unfold WorkerQueue.prepareStart
  split_ifs with hsettled
  · refine (h.prepared_step id).release (fun hopen => ?_) fun _ => h.busy_prepared hmem
    have hnot := hopen.2.2
    rw [show ((queue.prepared id).jobs id).settled = (queue.jobs id).settled from rfl, hsettled]
      at hnot
    cases hnot
  · have hfst : (queue.preparing.map fun item => if item.1 = id then (id, true) else item).map
        Prod.fst = queue.preparing.map Prod.fst := by
      rw [List.map_map]
      refine List.map_congr_left fun item _ => ?_
      by_cases heq : item.1 = id
      · simp [heq]
      · simp [heq]
    have hbusy : ({ queue with preparing := queue.preparing.map fun item =>
        if item.1 = id then (id, true) else item } : WorkerQueue ρ).busy = queue.busy := by
      simp only [busy, hfst]
    refine { h with busy_active := ?_, busy_le := ?_, preparing_undispatched := ?_ }
    · rw [hbusy]
      exact h.busy_active
    · rw [hbusy]
      exact h.busy_le
    · intro item hitem
      obtain ⟨before, hbefore, rfl⟩ := List.mem_map.mp hitem
      have hsame : (if before.1 = id then (id, true) else before).1 = before.1 := by
        split_ifs with heq
        · exact heq.symm
        · rfl
      rw [hsame]
      exact h.preparing_undispatched before hbefore

/-- Sending the active job keeps the invariant. -/
lemma Invariant.dispatch (h : Invariant options queue) (hactive : queue.active = some id)
    (hstarted : (queue.jobs id).started = true) (hbusy : queue.busy = []) (posts : Bool) :
    Invariant options
      ({ queue.setJob id fun job => { job with dispatched := true } with
        executing := if posts then queue.executing ++ [id] else queue.executing } :
          WorkerQueue ρ) := by
  obtain ⟨hpreparing, hexecuting⟩ := List.append_eq_nil_iff.mp hbusy
  have hnil : queue.preparing = [] := List.map_eq_nil_iff.mp hpreparing
  have hjob : ∀ other, (Function.update queue.jobs id
      { queue.jobs id with dispatched := true }) other =
        { queue.jobs other with dispatched := (queue.jobs other).dispatched || decide (other = id) } := by
    intro other
    by_cases hother : other = id
    · subst hother
      simp
    · simp [hother]
  have hunstarted : ({ queue.setJob id fun job => { job with dispatched := true } with
      executing := if posts then queue.executing ++ [id] else queue.executing } :
        WorkerQueue ρ).unstarted = queue.unstarted := by
    simp [unstarted, setJob, hjob]
  have hopen : ∀ other, ({ queue.setJob id fun job => { job with dispatched := true } with
      executing := if posts then queue.executing ++ [id] else queue.executing } :
        WorkerQueue ρ).IsOpen other ↔ queue.IsOpen other := by
    intro other
    simp [IsOpen, setJob, hjob]
  refine
    { h with
      order := ?_, pending_unstarted := ?_, open_placed := ?_, open_due := ?_, call_lt := ?_,
      call_mono := ?_, open_unsettled := ?_, complete := ?_, busy_active := ?_, busy_le := ?_,
      preparing_undispatched := ?_, unstarted_undispatched := ?_, failed := ?_, closed := ?_ }
  · change List.Pairwise _ (queue.starts ++ (WorkerQueue.unstarted _ ++ queue.pending))
    rw [hunstarted]
    exact h.order
  · simpa [setJob, hjob] using h.pending_unstarted
  · exact fun other hother => h.open_placed other ((hopen other).mp hother)
  · intro other hother
    simpa [setJob, hjob] using h.open_due other ((hopen other).mp hother)
  · simpa [setJob, hjob] using h.call_lt
  · simpa [setJob, hjob] using h.call_mono
  · intro other hother
    simpa [setJob, hjob] using h.open_unsettled other ((hopen other).mp hother)
  · intro call hcall
    refine (h.complete call hcall).imp_right fun ⟨other, hother, heq⟩ => ?_
    exact ⟨other, (hopen other).mpr hother, by simpa [setJob, hjob] using heq⟩
  · intro other hother
    have heq : other = id := by
      cases posts with
      | false => simp [busy, setJob, hnil, hexecuting] at hother
      | true => simpa [busy, setJob, hnil, hexecuting] using hother
    rw [heq]
    exact ⟨hactive, by simpa [setJob, hjob] using hstarted⟩
  · cases posts with
    | false => simp [busy, setJob, hnil, hexecuting]
    | true => simp [busy, setJob, hnil, hexecuting]
  · intro item hitem
    have hmem : item ∈ queue.preparing := hitem
    rw [hnil] at hmem
    cases hmem
  · intro other hpos hle hother
    have hne : other ≠ id := by
      rintro rfl
      simp [setJob, hstarted] at hother
    have hold := h.unstarted_undispatched other hpos hle (by simpa [setJob, hjob] using hother)
    simpa [setJob, hjob, hne] using hold
  · exact fun hcircuit other hother => h.failed hcircuit other ((hopen other).mp hother)
  · simpa [setJob, hjob] using h.closed

lemma Invariant.prepareDone (h : Invariant options queue) (hmem : (id, true) ∈ queue.preparing)
    (outcome : PreparationOutcome) : Invariant options (queue.prepareDone id outcome) := by
  have hended := h.prepared_step id
  have hbusy := h.busy_prepared hmem
  obtain ⟨hactive, hstarted⟩ := h.busy_active id (List.mem_append_left _
    (List.mem_map.mpr ⟨_, hmem, rfl⟩))
  have hplace := h.places_le id (by simp [places, hactive])
  have hnothing := @Invariant.finish_release _ _ options id hended (.value none) hplace.1 hplace.2
    hbusy fun output heq => by cases heq
  have hthrows := @Invariant.finish_release _ _ options id hended .thrown hplace.1 hplace.2
    hbusy fun output heq => by cases heq
  cases outcome with
  | nothing => exact hnothing
  | throws => exact hthrows
  | input posts =>
    unfold WorkerQueue.prepareDone
    dsimp only
    by_cases hover : (queue.jobs id).settled = true ∨ queue.circuit.isSome = true ∨
        queue.exited = true
    · rw [if_pos hover]
      exact hnothing
    · rw [if_neg hover]
      have hsent := hended.dispatch hactive hstarted hbusy posts
      cases posts with
      | true => exact hsent
      | false =>
        refine hsent.finish_release hplace.1 hplace.2 ?_ fun output heq => by cases heq
        exact hbusy

lemma Invariant.step (h : Invariant options queue) (action : QueueAction ρ) :
    Invariant options (queue.step options action) := by
  cases action with
  | run signal works => exact h.run signal works
  | abort id =>
    unfold WorkerQueue.step
    dsimp only
    split_ifs with hopen
    · exact h.cancel hopen.1 _
    · exact h
  | requestTimeout id =>
    unfold WorkerQueue.step
    dsimp only
    split_ifs with hopen
    · exact h.cancel hopen.1 _
    · exact h
  | readinessTimeout =>
    unfold WorkerQueue.step
    dsimp only
    split_ifs
    · exact h.fail _
    · exact h
  | shutdownTimeout =>
    unfold WorkerQueue.step
    dsimp only
    split_ifs
    · have hfinished : Invariant options (queue.finishAll queue.active.toList (.failed .closed)) :=
        h.finishAll (fun id hid => h.places_le id (List.mem_append_left _ hid))
          fun output heq => by cases heq
      exact { hfinished with }
    · exact h
  | message reply => exact h.message reply
  | failure => exact h.fail _
  | exit => exact h.onExit
  | prepareStart id =>
    unfold WorkerQueue.step
    dsimp only
    split_ifs with hmem
    · exact h.prepareStart hmem
    · exact h
  | prepareDone id outcome =>
    unfold WorkerQueue.step
    dsimp only
    split_ifs with hmem
    · exact h.prepareDone hmem outcome
    · exact h
  | close => exact h.close
  | advance ms =>
    unfold WorkerQueue.step
    dsimp only
    split_ifs with hmay
    · refine { h with open_due := fun id hopen => ?_ }
      rcases hmay id (h.open_placed id hopen) with hsettled | hdue
      · rw [show (queue.jobs id).settled = false from hopen.2.2] at hsettled
        cases hsettled
      · exact hdue
    · exact h

end Steps

/-! ### After failure or close -/

section Stopped

variable {queue} {options : QueueOptions} {id : ℕ}

/-- The queue has failed or was closed. -/
def IsStopped (queue : WorkerQueue ρ) : Prop := queue.circuit.isSome ∨ queue.closing = true

structure StaysStopped (queue other : WorkerQueue ρ) : Prop where
  stopped : other.IsStopped
  starts : other.starts = queue.starts

lemma staysStopped_pump (h : queue.IsStopped)
    (hstarted : ∀ id, queue.active = some id → queue.circuit.isSome ∨ (queue.jobs id).started = true) :
    StaysStopped queue queue.pump := by
  unfold pump
  split_ifs with hstop
  · exact ⟨h, rfl⟩
  · cases hactive : queue.active with
    | none => exact ⟨h, rfl⟩
    | some id =>
      have hnot : ¬queue.circuit.isSome := fun hsome => hstop (.inl hsome)
      have htrue := (hstarted id hactive).resolve_left hnot
      dsimp only
      rw [if_pos htrue]
      exact ⟨h, rfl⟩

lemma staysStopped_release (h : queue.IsStopped) (hpending : queue.pending = []) (id : ℕ) :
    StaysStopped queue (queue.release id) := by
  unfold release
  split_ifs with hactive
  · have hnone : queue.shift.active = none := by
      change queue.pending.head? = none
      rw [hpending]
      rfl
    have hpump := @staysStopped_pump _ queue.shift h fun other hother => by
      rw [hnone] at hother
      cases hother
    exact ⟨hpump.stopped, hpump.starts⟩
  · exact ⟨h, rfl⟩

lemma staysStopped_finish_release (h : queue.IsStopped) (hpending : queue.pending = []) (id : ℕ)
    (outcome : RunOutcome ρ) : StaysStopped queue ((queue.finish id outcome).release id) := by
  have hstopped : (queue.finish id outcome).IsStopped := by
    unfold IsStopped
    rw [finish_circuit, finish_closing]
    exact h
  have hrelease := staysStopped_release hstopped (finish_pending.trans hpending) id
  exact ⟨hrelease.stopped, hrelease.starts.trans finish_starts⟩

lemma staysStopped_fail (h : queue.IsStopped) (code : SemanticWorkerErrorCode) :
    StaysStopped queue (queue.fail code) := by
  unfold fail
  split_ifs with hstop
  · exact ⟨h, rfl⟩
  · exact ⟨.inl rfl, (@sameQueue_finishAll _ queue _ _).starts⟩

lemma staysStopped_step (h : Invariant options queue) (hstop : queue.IsStopped)
    (action : QueueAction ρ) : StaysStopped queue (queue.step options action) := by
  have hpending := h.stopped hstop
  have hsame : StaysStopped queue queue := ⟨hstop, rfl⟩
  have hcancel : ∀ id code, StaysStopped queue (queue.cancel id code) := by
    intro id code
    unfold cancel
    dsimp only
    have hremoved : ({ queue.finish id (.failed code) with
        pending := (queue.finish id (.failed code)).pending.filter fun item => item != id } :
          WorkerQueue ρ).IsStopped := by
      unfold IsStopped
      dsimp only
      rw [finish_circuit, finish_closing]
      exact hstop
    split_ifs with hactive
    · have hrelease := staysStopped_release hremoved (by simp [hpending]) id
      exact ⟨hrelease.stopped, hrelease.starts.trans finish_starts⟩
    · exact ⟨hremoved, finish_starts⟩
  have hdeliver : ∀ (answered : WorkerQueue ρ) id outcome, answered.IsStopped →
      answered.pending = [] → answered.starts = queue.starts →
        StaysStopped queue (answered.deliver id outcome) := by
    intro answered id outcome hstopped hnil hstarts
    unfold deliver
    split_ifs
    · exact ⟨hstopped, hstarts⟩
    · have hrelease := staysStopped_finish_release hstopped hnil id outcome
      exact ⟨hrelease.stopped, hrelease.starts.trans hstarts⟩
    · exact ⟨hstopped, hstarts⟩
  cases action with
  | run signal works =>
    unfold step run
    dsimp only
    by_cases hclosing : queue.closing = true
    · rw [if_pos hclosing]
      exact ⟨hstop, rfl⟩
    · rw [if_neg hclosing]
      obtain ⟨code, hcode⟩ := Option.isSome_iff_exists.mp (hstop.resolve_right hclosing)
      rw [hcode]
      exact ⟨hstop, rfl⟩
  | abort id =>
    unfold step
    dsimp only
    split_ifs
    · exact hcancel id _
    · exact hsame
  | requestTimeout id =>
    unfold step
    dsimp only
    split_ifs
    · exact hcancel id _
    · exact hsame
  | readinessTimeout =>
    unfold step
    dsimp only
    split_ifs
    · exact staysStopped_fail hstop _
    · exact hsame
  | shutdownTimeout =>
    unfold step
    dsimp only
    split_ifs
    · have hframe := @sameQueue_finishAll _ queue queue.active.toList (.failed .closed)
      refine ⟨?_, hframe.starts⟩
      unfold IsStopped
      dsimp only
      rw [hframe.circuit, hframe.closing]
      exact hstop
    · exact hsame
  | message reply =>
    cases reply with
    | ready =>
      unfold step message
      dsimp only
      split_ifs with hexited
      · exact hsame
      · have hpump := @staysStopped_pump _
          ({ queue with ready := true, readinessTimer := none } : WorkerQueue ρ) hstop
          fun id hactive => .inr (h.closed (hstop.resolve_left fun hsome => hexited (.inl hsome)) id
            hactive)
        exact ⟨hpump.stopped, hpump.starts⟩
    | result id output => exact hdeliver (queue.answered id output) id _ hstop hpending rfl
    | error id expired => exact hdeliver (queue.answered id none) id _ hstop hpending rfl
  | failure => exact staysStopped_fail hstop _
  | exit =>
    unfold step onExit
    dsimp only
    split_ifs with hexited hclosing
    · exact hsame
    · have hframe := @sameQueue_finishAll _ queue queue.active.toList (.failed .closed)
      exact ⟨.inr (hframe.closing.trans hclosing), hframe.starts⟩
    · have hfail := staysStopped_fail hstop .workerFailed
      have hframe := @sameQueue_finishAll _ (queue.fail .workerFailed)
        (queue.fail .workerFailed).active.toList (.failed .closed)
      refine ⟨?_, hframe.starts.trans hfail.starts⟩
      unfold IsStopped
      dsimp only
      rw [hframe.circuit, hframe.closing]
      exact hfail.stopped
  | prepareStart id =>
    unfold step
    dsimp only
    split_ifs
    · unfold prepareStart
      split_ifs
      · have hrelease := @staysStopped_release _ (queue.prepared id) hstop hpending id
        exact ⟨hrelease.stopped, hrelease.starts⟩
      · exact ⟨hstop, rfl⟩
    · exact hsame
  | prepareDone id outcome =>
    have hover : ∀ outcome, StaysStopped queue (((queue.prepared id).finish id outcome).release id) :=
      fun outcome => by
        have hrelease := @staysStopped_finish_release _ (queue.prepared id) hstop hpending id outcome
        exact ⟨hrelease.stopped, hrelease.starts⟩
    unfold step
    dsimp only
    split_ifs
    · unfold prepareDone
      cases outcome with
      | nothing => exact hover _
      | throws => exact hover _
      | input posts =>
        dsimp only
        split_ifs
        · exact hover _
        · exact ⟨hstop, rfl⟩
        · have hrelease := @staysStopped_finish_release _
            ((queue.prepared id).setJob id fun job => { job with dispatched := true }) hstop hpending
            id .thrown
          exact ⟨hrelease.stopped, hrelease.starts⟩
    · exact hsame
  | close =>
    have hframe := @sameQueue_finishAll _ queue (queue.pending ++ queue.unstarted) (.failed .closed)
    unfold step close
    dsimp only
    split_ifs
    · exact hsame
    · exact ⟨.inr rfl, hframe.starts⟩
    · exact ⟨.inr rfl, hframe.starts⟩
  | advance ms =>
    unfold step
    dsimp only
    split_ifs
    · exact ⟨hstop, rfl⟩
    · exact hsame

lemma starts_foldl_of_isStopped (h : Invariant options queue) (hstop : queue.IsStopped)
    (later : List (QueueAction ρ)) :
    (later.foldl (step options) queue).starts = queue.starts := by
  induction later generalizing queue with
  | nil => rfl
  | cons action later ih =>
    have hstep := staysStopped_step h hstop action
    exact (ih (h.step action) hstep.stopped).trans hstep.starts

end Stopped

/-! ### The protocol -/

lemma invariant_initial (ρ : Type*) (options : QueueOptions) :
    Invariant options (WorkerQueue.initial ρ) := by
  have hnone : ∀ id, ¬(WorkerQueue.initial ρ).IsOpen id := fun id hopen => by
    have hle : id ≤ 0 := hopen.2.1
    have hpos := hopen.1
    omega
  refine
    { places_le := ?_, order := List.Pairwise.nil, starts_le := ?_, pending_unstarted := ?_,
      pending_le := Nat.zero_le _, idle := fun _ => rfl,
      open_placed := fun id hopen => absurd hopen (hnone id),
      open_due := fun id hopen => absurd hopen (hnone id), call_lt := ?_, call_mono := ?_,
      open_unsettled := fun id hopen => absurd hopen (hnone id), once := List.nodup_nil,
      entry_lt := ?_, in_time := ?_, answered := ?_, complete := ?_, busy_active := ?_,
      busy_le := Nat.zero_le _, preparing_undispatched := ?_, unstarted_undispatched := ?_,
      stopped := fun _ => rfl, failed := fun _ => hnone, closed := ?_, exited_stops := ?_ }
  · exact fun id hid => absurd hid List.not_mem_nil
  · exact fun id hid => absurd hid List.not_mem_nil
  · exact fun id hid => absurd hid List.not_mem_nil
  · intro id hpos hle
    have hzero : id ≤ 0 := hle
    omega
  · intro id id' hpos hlt hle
    have hzero : id' ≤ 0 := hle
    omega
  · exact fun entry hentry => absurd hentry List.not_mem_nil
  · exact fun entry hentry => absurd hentry List.not_mem_nil
  · exact fun entry hentry => absurd hentry List.not_mem_nil
  · exact fun call hcall => absurd hcall (Nat.not_lt_zero call)
  · exact fun id hid => absurd hid List.not_mem_nil
  · exact fun item hitem => absurd hitem List.not_mem_nil
  · intro id hpos hle
    have hzero : id ≤ 0 := hle
    omega
  · exact fun hclosing => by cases hclosing
  · exact fun hexited => by cases hexited

lemma invariant_foldl {options : QueueOptions} {queue : WorkerQueue ρ}
    (h : Invariant options queue) (actions : List (QueueAction ρ)) :
    Invariant options (actions.foldl (step options) queue) := by
  induction actions generalizing queue with
  | nil => exact h
  | cons action actions ih => exact ih (h.step action)

end WorkerQueue

end Codemem

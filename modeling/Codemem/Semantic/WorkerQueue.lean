import Mathlib

/-!
# The semantic worker queue

One worker answers one job at a time.  A job is prepared by its caller's function and then sent to
the worker; cancelling a caller settles its promise but leaves the worker to the job until it is
done.  The state keeps what happened so far: the settled promises, the jobs that were started, and
the replies.
-/

namespace Codemem

inductive SemanticWorkerErrorCode where
  | overloaded
  | expired
  | aborted
  | notReady
  | workerFailed
  | closed
  deriving DecidableEq

/-- How the promise of a call settles. -/
inductive RunOutcome (ρ : Type*) where
  | value (output : Option ρ)
  | failed (code : SemanticWorkerErrorCode)
  | thrown
  deriving DecidableEq

/-- A settled promise: the call, the job it became, and when it was due. -/
structure RunSettlement (ρ : Type*) where
  call : ℕ
  jobId : Option ℕ
  outcome : RunOutcome ρ
  time : ℕ
  deadlineAt : ℕ

/-- `Job`, with the call that made it. -/
structure WorkerJob where
  call : ℕ
  deadlineAt : ℕ
  hasSignal : Bool
  settled : Bool
  started : Bool
  dispatched : Bool
  deriving Inhabited

structure QueueOptions where
  maxPending : ℕ
  readinessMs : ℕ
  requestMs : ℕ

/-- `WorkerQueue`: its fields, the preparations that are scheduled or running (`true`), the jobs the
worker executes, and what happened so far. -/
structure WorkerQueue (ρ : Type*) where
  now : ℕ
  worker : Bool
  ready : Bool
  exited : Bool
  closing : Bool
  closePromise : Bool
  circuit : Option SemanticWorkerErrorCode
  pending : List ℕ
  active : Option ℕ
  nextId : ℕ
  jobs : ℕ → WorkerJob
  readinessTimer : Option ℕ
  shutdownTimer : Bool
  preparing : List (ℕ × Bool)
  executing : List ℕ
  calls : ℕ
  settlements : List (RunSettlement ρ)
  starts : List ℕ
  replies : List (ℕ × Option ρ)

def WorkerQueue.initial (ρ : Type*) : WorkerQueue ρ where
  now := 0
  worker := false
  ready := false
  exited := false
  closing := false
  closePromise := false
  circuit := none
  pending := []
  active := none
  nextId := 0
  jobs := fun _ => default
  readinessTimer := none
  shutdownTimer := false
  preparing := []
  executing := []
  calls := 0
  settlements := []
  starts := []
  replies := []

namespace WorkerQueue

variable {ρ : Type*} (options : QueueOptions) (queue : WorkerQueue ρ)

def setJob (id : ℕ) (write : WorkerJob → WorkerJob) : WorkerQueue ρ :=
  { queue with jobs := Function.update queue.jobs id (write (queue.jobs id)) }

def finish (id : ℕ) (outcome : RunOutcome ρ) : WorkerQueue ρ :=
  if (queue.jobs id).settled then queue
  else
    { queue.setJob id fun job => { job with settled := true } with
      settlements := queue.settlements ++
        [⟨(queue.jobs id).call, some id, outcome, queue.now, (queue.jobs id).deadlineAt⟩] }

/-- `for (const job of jobs) job.finish(null, error)`. -/
def finishAll (ids : List ℕ) (outcome : RunOutcome ρ) : WorkerQueue ρ :=
  ids.foldl (fun queue id => queue.finish id outcome) queue

/-- `pump`; the message that closes an idle worker is left out. -/
def pump : WorkerQueue ρ :=
  if queue.circuit.isSome ∨ queue.exited ∨ !queue.ready then queue
  else
    match queue.active with
    | none => queue
    | some id =>
      if (queue.jobs id).started then queue
      else
        { queue.setJob id fun job => { job with started := true } with
          preparing := queue.preparing ++ [(id, false)]
          starts := queue.starts ++ [id] }

def shift : WorkerQueue ρ :=
  { queue with active := queue.pending.head?, pending := queue.pending.tail }

def release (id : ℕ) : WorkerQueue ρ :=
  if queue.active = some id then queue.shift.pump else queue

/-- `fail(code)`: nothing runs between the steps, so the lists are emptied at the end. -/
def fail (code : SemanticWorkerErrorCode) : WorkerQueue ρ :=
  if queue.circuit.isSome ∨ queue.exited then queue
  else
    { queue.finishAll (queue.active.toList ++ queue.pending) (.failed code) with
      circuit := some code
      readinessTimer := none
      pending := [] }

def onExit : WorkerQueue ρ :=
  if queue.exited then queue
  else
    let failed := if queue.closing then queue else queue.fail .workerFailed
    { failed.finishAll failed.active.toList (.failed .closed) with
      exited := true
      readinessTimer := none
      shutdownTimer := false
      executing := [] }

def unstarted : List ℕ := queue.active.toList.filter fun id => !(queue.jobs id).started

def close : WorkerQueue ρ :=
  if queue.closePromise then queue
  else
    let closed : WorkerQueue ρ :=
      { queue.finishAll (queue.pending ++ queue.unstarted) (.failed .closed) with
        closing := true
        pending := []
        active := queue.active.filter fun id => (queue.jobs id).started }
    if !queue.worker ∨ queue.exited then closed
    else { closed with closePromise := true, shutdownTimer := true }

/-- `startWorker`, with what `createWorker` does. -/
def startWorker (works : Bool) : WorkerQueue ρ :=
  if queue.worker ∨ queue.circuit.isSome ∨ queue.closing then queue
  else
    let waiting := { queue with readinessTimer := some (queue.now + options.readinessMs) }
    if works then { waiting with worker := true } else waiting.fail .workerFailed

/-- A call that is rejected at once. -/
def reject (code : SemanticWorkerErrorCode) : WorkerQueue ρ :=
  { queue with
    calls := queue.calls + 1
    settlements := queue.settlements ++
      [⟨queue.calls, none, .failed code, queue.now, queue.now + options.requestMs⟩] }

/-- `createJob`, and the place the job gets. -/
def createJob (hasSignal : Bool) : WorkerQueue ρ :=
  { queue with
    calls := queue.calls + 1
    nextId := queue.nextId + 1
    jobs := Function.update queue.jobs (queue.nextId + 1)
      ⟨queue.calls, queue.now + options.requestMs, hasSignal, false, false, false⟩
    pending := if queue.active.isSome then queue.pending ++ [queue.nextId + 1] else queue.pending
    active := if queue.active.isSome then queue.active else some (queue.nextId + 1) }

/-- `run`, with a signal (`some aborted`) or without one. -/
def run (signal : Option Bool) (works : Bool) : WorkerQueue ρ :=
  if queue.closing then queue.reject options .closed
  else
    match queue.circuit with
    | some code => queue.reject options code
    | none =>
      if signal = some true then queue.reject options .aborted
      else if queue.active.isSome ∧ options.maxPending ≤ queue.pending.length then
        queue.reject options .overloaded
      else ((queue.createJob options signal.isSome).startWorker options works).pump

/-- `cancel(code)` of a job. -/
def cancel (id : ℕ) (code : SemanticWorkerErrorCode) : WorkerQueue ρ :=
  let finished := queue.finish id (.failed code)
  let removed := { finished with pending := finished.pending.filter fun item => item != id }
  if removed.active = some id ∧ (removed.jobs id).started = false then removed.release id
  else removed

/-- The job of an id waits for its promise. -/
def IsOpen (id : ℕ) : Prop := 1 ≤ id ∧ id ≤ queue.nextId ∧ (queue.jobs id).settled = false

instance (id : ℕ) : Decidable (queue.IsOpen id) := by
  unfold IsOpen
  infer_instance

end WorkerQueue

inductive WorkerReply (ρ : Type*) where
  | ready
  | result (id : ℕ) (output : Option ρ)
  | error (id : ℕ) (expired : Bool)

/-- How a preparation ends: with nothing (or an undefined error), with an error, or with an input
that is posted or not. -/
inductive PreparationOutcome where
  | nothing
  | throws
  | input (posts : Bool)

/-- What can happen to a queue. -/
inductive QueueAction (ρ : Type*) where
  | run (signal : Option Bool) (works : Bool)
  | abort (id : ℕ)
  | requestTimeout (id : ℕ)
  | readinessTimeout
  | shutdownTimeout
  | message (reply : WorkerReply ρ)
  | failure
  | exit
  | prepareStart (id : ℕ)
  | prepareDone (id : ℕ) (outcome : PreparationOutcome)
  | close
  | advance (ms : ℕ)

namespace WorkerQueue

variable {ρ : Type*} (options : QueueOptions) (queue : WorkerQueue ρ)

def answered (id : ℕ) (output : Option ρ) : WorkerQueue ρ :=
  { queue with
    executing := queue.executing.filter fun item => item != id
    replies := queue.replies ++ [(id, output)] }

/-- The answer to a job goes to the active job when it is the one that was sent. -/
def deliver (id : ℕ) (outcome : RunOutcome ρ) : WorkerQueue ρ :=
  if queue.circuit.isSome ∨ queue.exited then queue
  else if queue.active = some id ∧ (queue.jobs id).dispatched then
    (queue.finish id outcome).release id
  else queue

def message : WorkerReply ρ → WorkerQueue ρ
  | .ready =>
    if queue.circuit.isSome ∨ queue.exited then queue
    else ({ queue with ready := true, readinessTimer := none } : WorkerQueue ρ).pump
  | .result id output => (queue.answered id output).deliver id (.value output)
  | .error id expired =>
    (queue.answered id none).deliver id (.failed (if expired then .expired else .workerFailed))

/-- The preparation of a job is over. -/
def prepared (id : ℕ) : WorkerQueue ρ :=
  { queue with preparing := queue.preparing.filter fun item => item.1 != id }

/-- The start of `prepare`. -/
def prepareStart (id : ℕ) : WorkerQueue ρ :=
  if (queue.jobs id).settled then (queue.prepared id).release id
  else
    { queue with
      preparing := queue.preparing.map fun item => if item.1 = id then (id, true) else item }

/-- The end of `prepare`. -/
def prepareDone (id : ℕ) (outcome : PreparationOutcome) : WorkerQueue ρ :=
  let ended := queue.prepared id
  match outcome with
  | .throws => (ended.finish id .thrown).release id
  | .nothing => (ended.finish id (.value none)).release id
  | .input posts =>
    if (queue.jobs id).settled ∨ queue.circuit.isSome ∨ queue.exited then
      (ended.finish id (.value none)).release id
    else
      let sent := ended.setJob id fun job => { job with dispatched := true }
      if posts then { sent with executing := sent.executing ++ [id] }
      else (sent.finish id .thrown).release id

/-- The timers of open jobs are not overdue after some time. -/
def MayAdvance (ms : ℕ) : Prop :=
  ∀ id ∈ queue.active.toList ++ queue.pending,
    (queue.jobs id).settled = true ∨ queue.now + ms ≤ (queue.jobs id).deadlineAt

instance (ms : ℕ) : Decidable (queue.MayAdvance ms) := by
  unfold MayAdvance
  infer_instance

/-- What happens to a queue; what cannot happen leaves it as it is.  Time does not pass a timer that
is due. -/
def step : QueueAction ρ → WorkerQueue ρ
  | .run signal works => queue.run options signal works
  | .abort id =>
    if queue.IsOpen id ∧ (queue.jobs id).hasSignal then queue.cancel id .aborted else queue
  | .requestTimeout id =>
    if queue.IsOpen id ∧ (queue.jobs id).deadlineAt ≤ queue.now then queue.cancel id .expired
    else queue
  | .readinessTimeout =>
    if queue.readinessTimer.any fun due => due ≤ queue.now then queue.fail .notReady else queue
  | .shutdownTimeout =>
    if queue.shutdownTimer then
      { queue.finishAll queue.active.toList (.failed .closed) with shutdownTimer := false }
    else queue
  | .message reply => queue.message reply
  | .failure => queue.fail .workerFailed
  | .exit => queue.onExit
  | .prepareStart id => if (id, false) ∈ queue.preparing then queue.prepareStart id else queue
  | .prepareDone id outcome =>
    if (id, true) ∈ queue.preparing then queue.prepareDone id outcome else queue
  | .close => queue.close
  | .advance ms => if queue.MayAdvance ms then { queue with now := queue.now + ms } else queue

end WorkerQueue

end Codemem

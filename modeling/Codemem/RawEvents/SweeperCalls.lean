import Codemem.RawEvents.Sweeper

/-!
# The flush calls of a sweeper

The calls of `acquireSessionFlush` as tasks of their own, with every `await` between them.  A call
appears when its synchronous part has run; it then waits for the lock, or has an answer its caller
has not seen yet, or flushes.  A tick takes part with one call for each session it visits; the
loops that make these calls are in `Sweeper`, and here they may come in any order and number.

Each call counts how often it has taken and given back its key, and how many boundary flushes
waited for the key when it took it.  No decision reads these three counts.
-/

namespace Codemem

/-- Who calls `acquireSessionFlush`: `flushNow` without options, `flushNow` for `flushBoundary`, or
a loop of `tick`. -/
inductive FlushCaller
  | autoFlush
  | boundary
  | tick
  deriving DecidableEq, Repr

/-- Where a call stands: it awaits the holder of the lock, it was answered `null`, it was given the
lock, its `flushRawEvents` is in flight, or it has ended. -/
inductive FlushStage
  | waiting
  | refused
  | acquired
  | flushing
  | ended
  deriving DecidableEq, Repr

/-- The stages in which a call holds the lock of its session. -/
def FlushStage.holds (stage : FlushStage) : Bool := stage = .acquired || stage = .flushing

/-- A call that asks for the flush lock of a session. -/
structure FlushCall where
  caller : FlushCaller
  source : String
  streamId : String
  stage : FlushStage
  acquisitions : ℕ
  releases : ℕ
  overtaken : ℕ
  deriving DecidableEq, Repr

/-- The holder a caller writes into the lock. -/
def FlushCaller.holder (caller : FlushCaller) : FlushHolder :=
  if caller = .tick then .tick else .flushNow

def FlushCall.key (c : FlushCall) : String := Sweeper.sessionKey c.source c.streamId

/-- A sweeper and all the flush calls made so far. -/
structure SweeperCalls where
  sweeper : Sweeper
  calls : List FlushCall

namespace SweeperCalls

/-- A new sweeper, before any call. -/
def initial : SweeperCalls := ⟨Sweeper.initial, []⟩

variable (w : SweeperCalls)

/-- The number of boundary flushes that wait for a key. -/
def waiting (key : String) : ℕ := w.calls.countP fun c => c.key = key && c.stage = .waiting

/-- The number of calls that hold the lock of a key. -/
def holding (key : String) : ℕ := w.calls.countP fun c => c.key = key && c.stage.holds

/-- The number of `flushRawEvents` calls in flight for a key. -/
def inFlight (key : String) : ℕ := w.calls.countP fun c => c.key = key && c.stage = .flushing

/-- A call of a caller that does not wait, up to its first `await`. -/
def acquires (caller : FlushCaller) (source streamId : String) : SweeperCalls :=
  let key := Sweeper.sessionKey source streamId
  match w.sweeper.acquireSessionFlush key caller.holder with
  | none => ⟨w.sweeper, w.calls ++ [⟨caller, source, streamId, .refused, 0, 0, 0⟩]⟩
  | some acquired =>
    ⟨acquired, w.calls ++ [⟨caller, source, streamId, .acquired, 1, 0, w.waiting key⟩]⟩

/-- The call of a boundary flush, up to its first `await`: it counts itself as a waiter, and no
longer once it has the lock. -/
def boundaryAcquires (source streamId : String) : SweeperCalls :=
  let key := Sweeper.sessionKey source streamId
  if (w.sweeper.sessionFlushPromises key).isSome then
    ⟨w.sweeper.setWaiters key (w.sweeper.sessionBoundaryWaiters key + 1),
      w.calls ++ [⟨.boundary, source, streamId, .waiting, 0, 0, 0⟩]⟩
  else
    ⟨w.sweeper.setLock key (some .flushNow),
      w.calls ++ [⟨.boundary, source, streamId, .acquired, 1, 0, w.waiting key⟩]⟩

/-- `flushNow` without options, up to its first `await`. -/
def flushNow (source streamId : String) (now : ℕ) : SweeperCalls :=
  if w.sweeper.shouldDeferFlush now false then w else w.acquires .autoFlush source streamId

def scheduleAutoFlush (source streamId : String) (now : ℕ) (debounceMs : ℤ) : SweeperCalls :=
  let key := Sweeper.sessionKey source streamId
  if w.sweeper.stopping then w
  else if (w.sweeper.sessionFlushPromises key).isSome then
    ⟨w.sweeper.setPending key true, w.calls⟩
  else if debounceMs ≤ 0 then w.flushNow source streamId now
  else ⟨w.sweeper.setTimer key true, w.calls⟩

def nudge (lowerCase : String → String) (opencodeSessionId source : String) (now : ℕ)
    (autoFlushEnabled : Bool) (debounceMs : ℤ) : SweeperCalls :=
  let streamId := trim opencodeSessionId
  let norm := Sweeper.sourceNorm lowerCase source
  let key := Sweeper.sessionKey norm streamId
  if w.sweeper.stopping then w
  else if !autoFlushEnabled then w
  else if now < w.sweeper.authBackoffUntil then w
  else if streamId.toList.isEmpty then w
  else if (w.sweeper.sessionFlushPromises key).isSome then
    ⟨w.sweeper.setPending key true, w.calls⟩
  else if debounceMs ≤ 0 then w.flushNow norm streamId now
  else ⟨w.sweeper.setTimer key true, w.calls⟩

/-- `flushBoundary`, up to its first `await`. -/
def flushBoundary (lowerCase : String → String) (opencodeSessionId source : String) :
    SweeperCalls :=
  if w.sweeper.stopping then w
  else if (trim opencodeSessionId).toList.isEmpty then w
  else w.boundaryAcquires (Sweeper.sourceNorm lowerCase source) (trim opencodeSessionId)

/-- The auto-flush timer of a session fires. -/
def timerFires (source streamId : String) (now : ℕ) : SweeperCalls :=
  let key := Sweeper.sessionKey source streamId
  if w.sweeper.autoFlushTimers key then
    (⟨w.sweeper.setTimer key false, w.calls⟩ : SweeperCalls).flushNow source streamId now
  else w

/-- A loop of `tick` comes to a session. -/
def tickVisits (source streamId : String) : SweeperCalls :=
  if w.sweeper.stopping then w
  else if streamId.toList.isEmpty then w
  else w.acquires .tick source streamId

/-- A boundary flush that waits is woken: it takes the lock, or awaits the next holder. -/
def wakes (i : ℕ) (c : FlushCall) : SweeperCalls :=
  if (w.sweeper.sessionFlushPromises c.key).isSome then w
  else
    ⟨(w.sweeper.setWaiters c.key (w.sweeper.sessionBoundaryWaiters c.key - 1)).setLock c.key
        (some .flushNow),
      w.calls.set i { c with
        stage := .acquired
        acquisitions := c.acquisitions + 1
        overtaken := w.waiting c.key }⟩

/-- The release function of a call: the lock is deleted, whoever holds it. -/
def finishSessionFlush (i : ℕ) (c : FlushCall) : SweeperCalls :=
  ⟨w.sweeper.setLock c.key none,
    w.calls.set i { c with stage := .ended, releases := c.releases + 1 }⟩

/-- A caller that was refused goes on: `flushNow` marks the session, a tick goes to its next one. -/
def seesRefusal (i : ℕ) (c : FlushCall) : SweeperCalls :=
  ⟨if c.caller = .tick then w.sweeper else w.sweeper.setPending c.key true,
    w.calls.set i { c with stage := .ended }⟩

/-- A caller that was given the lock goes on: a tick that stops gives it back, all others start
their flush. -/
def seesLock (i : ℕ) (c : FlushCall) : SweeperCalls :=
  if c.caller = .tick then
    if w.sweeper.stopping then w.finishSessionFlush i c
    else ⟨w.sweeper, w.calls.set i { c with stage := .flushing }⟩
  else ⟨w.sweeper.setTimer c.key false, w.calls.set i { c with stage := .flushing }⟩

/-- The end of the `finally` of `flushNow`. -/
def resumePending (source streamId : String) (now : ℕ) (debounceMs : ℤ) : SweeperCalls :=
  let key := Sweeper.sessionKey source streamId
  if w.sweeper.sessionBoundaryWaiters key = 0 && w.sweeper.autoFlushPending key then
    (⟨w.sweeper.setPending key false, w.calls⟩ : SweeperCalls).scheduleAutoFlush source streamId now
      debounceMs
  else w

/-- A `flushRawEvents` in flight answers.  A boundary flush with more to drain starts the next one
under the same lock; all others run their `catch` and `finally`. -/
def flushAnswers (i : ℕ) (c : FlushCall) (outcome : FlushOutcome) (more : Bool) (now : ℕ)
    (debounceMs : ℤ) : SweeperCalls :=
  if c.caller = .boundary && outcome = .flushed && more && !w.sweeper.stopping then w
  else
    let caught : SweeperCalls :=
      if outcome = .authError then ⟨w.sweeper.handleAuthError now, w.calls⟩ else w
    let released := caught.finishSessionFlush i c
    if c.caller = .tick then released
    else released.resumePending c.source c.streamId now debounceMs

end SweeperCalls

/-- What can happen to a sweeper and its calls; calls are named by their place in the list. -/
inductive CallAction
  | nudge (opencodeSessionId source : String) (now : ℕ) (autoFlushEnabled : Bool) (debounceMs : ℤ)
  | flushBoundary (opencodeSessionId source : String)
  | timerFires (source streamId : String) (now : ℕ)
  | tickVisits (source streamId : String)
  | wakes (i : ℕ)
  | resumes (i : ℕ)
  | flushAnswers (i : ℕ) (outcome : FlushOutcome) (more : Bool) (now : ℕ) (debounceMs : ℤ)
  | stop
  | start
  | resetAuthBackoff
  deriving DecidableEq, Repr

namespace SweeperCalls

/-- One action on a sweeper and its calls; an action that cannot happen changes nothing. -/
def step (lowerCase : String → String) (w : SweeperCalls) : CallAction → SweeperCalls
  | .nudge id source now enabled debounceMs => w.nudge lowerCase id source now enabled debounceMs
  | .flushBoundary id source => w.flushBoundary lowerCase id source
  | .timerFires source streamId now => w.timerFires source streamId now
  | .tickVisits source streamId => w.tickVisits source streamId
  | .wakes i =>
    match w.calls[i]? with
    | none => w
    | some c => if c.stage = .waiting then w.wakes i c else w
  | .resumes i =>
    match w.calls[i]? with
    | none => w
    | some c =>
      if c.stage = .refused then w.seesRefusal i c
      else if c.stage = .acquired then w.seesLock i c
      else w
  | .flushAnswers i outcome more now debounceMs =>
    match w.calls[i]? with
    | none => w
    | some c => if c.stage = .flushing then w.flushAnswers i c outcome more now debounceMs else w
  | .stop => ⟨w.sweeper.stop, w.calls⟩
  | .start => ⟨w.sweeper.start, w.calls⟩
  | .resetAuthBackoff => ⟨w.sweeper.resetAuthBackoff, w.calls⟩

end SweeperCalls

end Codemem

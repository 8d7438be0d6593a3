import Codemem.Text
import Mathlib.Data.Int.Notation
import Mathlib.Logic.Function.Basic

/-!
# The raw event sweeper

The state of one `RawEventSweeper` and everything that can happen to it: calls from outside, timers
that fire, and flushes that end.  The code runs on one thread, so what happens between two `await`s
is one action.  A flush that finds the lock taken marks its session in the same action: the answer
of `acquireSessionFlush` is a settled promise, and nothing else runs before the code after it.

The sets and maps of the class are functions of the session key.  Times are in milliseconds; the
store's lists of sessions, the environment and the clock are given with each action.
-/

namespace Codemem

/-- Who holds the flush lock of a session. -/
inductive FlushHolder
  | flushNow
  | tick
  deriving DecidableEq, Repr

/-- How the calls of `flushRawEvents` made under one lock end. -/
inductive FlushOutcome
  | flushed
  | authError
  | otherError
  deriving DecidableEq, Repr

/-- The part of `tick` that runs. -/
inductive TickPhase
  | queue
  | active
  | recovery
  deriving DecidableEq, Repr

/-- A running `tick`: the sessions (source and stream) its loop still has to visit, the keys the
queue loop has drained, and the session whose lock it holds. -/
structure SweeperTick where
  phase : TickPhase
  sessions : List (String × String)
  drained : List String
  held : Option String
  deriving DecidableEq, Repr

/-- The fields of `RawEventSweeper` that decide which sessions are flushed. -/
structure Sweeper where
  stopping : Bool
  currentTick : Option SweeperTick
  autoFlushTimers : String → Bool
  sessionFlushPromises : String → Option FlushHolder
  sessionBoundaryWaiters : String → ℕ
  autoFlushPending : String → Bool
  authBackoffUntil : ℕ
  authErrorLogged : Bool

namespace Sweeper

/-- A sweeper as the constructor leaves it. -/
def initial : Sweeper where
  stopping := false
  currentTick := none
  autoFlushTimers := fun _ => false
  sessionFlushPromises := fun _ => none
  sessionBoundaryWaiters := fun _ => 0
  autoFlushPending := fun _ => false
  authBackoffUntil := 0
  authErrorLogged := false

/-- `AUTH_BACKOFF_S`, in milliseconds. -/
def authBackoffMs : ℕ := 60000

/-- The key of a session in the sweeper's maps. -/
def sessionKey (source streamId : String) : String := source ++ ":" ++ streamId

/-- The source as `nudge` and `flushBoundary` normalize it. -/
def sourceNorm (lowerCase : String → String) (source : String) : String :=
  let cleaned := lowerCase (trim source)
  if cleaned.toList.isEmpty then "opencode" else cleaned

variable (s : Sweeper)

/-! ### Single writes -/

/-- Marks or unmarks a session in `autoFlushPending`. -/
def setPending (key : String) (marked : Bool) : Sweeper :=
  { s with autoFlushPending := Function.update s.autoFlushPending key marked }

/-- Sets or clears the auto-flush timer of a session. -/
def setTimer (key : String) (running : Bool) : Sweeper :=
  { s with autoFlushTimers := Function.update s.autoFlushTimers key running }

/-- Takes the flush lock of a session, or gives it back. -/
def setLock (key : String) (holder : Option FlushHolder) : Sweeper :=
  { s with sessionFlushPromises := Function.update s.sessionFlushPromises key holder }

/-- Sets the number of boundary flushes that wait for a session. -/
def setWaiters (key : String) (count : ℕ) : Sweeper :=
  { s with sessionBoundaryWaiters := Function.update s.sessionBoundaryWaiters key count }

def handleAuthError (now : ℕ) : Sweeper :=
  { s with authBackoffUntil := now + authBackoffMs, authErrorLogged := true }

/-! ### Flushes outside of ticks -/

/-- `acquireSessionFlush` without `waitForActive`: no answer when a flush holds the lock or a
boundary flush waits for it. -/
def acquireSessionFlush (key : String) (holder : FlushHolder) : Option Sweeper :=
  if (s.sessionFlushPromises key).isSome then none
  else if 0 < s.sessionBoundaryWaiters key then none
  else some (s.setLock key (some holder))

def shouldDeferFlush (now : ℕ) (bypassAuthBackoff : Bool) : Bool :=
  s.stopping || (!bypassAuthBackoff && decide (now < s.authBackoffUntil))

/-- `flushNow` without options, up to its first call of `flushRawEvents`. -/
def flushNow (key : String) (now : ℕ) : Sweeper :=
  if s.shouldDeferFlush now false then s
  else match s.acquireSessionFlush key .flushNow with
    | none => s.setPending key true
    | some acquired => acquired.setTimer key false

def scheduleAutoFlush (key : String) (now : ℕ) (debounceMs : ℤ) : Sweeper :=
  if s.stopping then s
  else if (s.sessionFlushPromises key).isSome then s.setPending key true
  else if debounceMs ≤ 0 then s.flushNow key now
  else s.setTimer key true

def nudge (lowerCase : String → String) (opencodeSessionId source : String) (now : ℕ)
    (autoFlushEnabled : Bool) (debounceMs : ℤ) : Sweeper :=
  let key := sessionKey (sourceNorm lowerCase source) (trim opencodeSessionId)
  if s.stopping then s
  else if !autoFlushEnabled then s
  else if now < s.authBackoffUntil then s
  else if (trim opencodeSessionId).toList.isEmpty then s
  else if (s.sessionFlushPromises key).isSome then s.setPending key true
  else if debounceMs ≤ 0 then s.flushNow key now
  -- A timer that runs already is kept.
  else s.setTimer key true

/-- `flushBoundary` up to its first call of `flushRawEvents`: it takes the lock, or waits for it.
The auth back-off is bypassed. -/
def flushBoundary (lowerCase : String → String) (opencodeSessionId source : String) : Sweeper :=
  let key := sessionKey (sourceNorm lowerCase source) (trim opencodeSessionId)
  if s.stopping then s
  else if (trim opencodeSessionId).toList.isEmpty then s
  else if (s.sessionFlushPromises key).isSome then
    s.setWaiters key (s.sessionBoundaryWaiters key + 1)
  else (s.setLock key (some .flushNow)).setTimer key false

/-- A boundary flush that waits for a session wakes up after a release: it takes the lock unless
another flush has it again. -/
def boundaryResumes (key : String) : Sweeper :=
  if s.sessionBoundaryWaiters key = 0 then s
  else if (s.sessionFlushPromises key).isSome then s
  else ((s.setWaiters key (s.sessionBoundaryWaiters key - 1)).setLock key
    (some .flushNow)).setTimer key false

/-- The auto-flush timer of a session fires. -/
def timerFires (key : String) (now : ℕ) : Sweeper :=
  if s.autoFlushTimers key then (s.setTimer key false).flushNow key now else s

/-- The end of the `finally` of `flushNow`: the marker of the session is spent unless a boundary
flush waits. -/
def resumePending (key : String) (now : ℕ) (debounceMs : ℤ) : Sweeper :=
  if s.sessionBoundaryWaiters key = 0 && s.autoFlushPending key then
    (s.setPending key false).scheduleAutoFlush key now debounceMs
  else s

/-- The `catch` and `finally` of `flushNow`: the lock is given back, then the marker is spent. -/
def flushEnds (key : String) (outcome : FlushOutcome) (now : ℕ) (debounceMs : ℤ) : Sweeper :=
  if s.sessionFlushPromises key = some .flushNow then
    let caught := if outcome = .authError then s.handleAuthError now else s
    (caught.setLock key none).resumePending key now debounceMs
  else s

/-! ### Ticks -/

/-- `runTick` and the start of `tick`, up to the list of sessions with queued batches. -/
def tickStarts (enabled : Bool) (now : ℕ) (queued : List (String × String)) : Sweeper :=
  if s.currentTick.isSome then s
  else if !enabled || s.stopping then s
  else if now < s.authBackoffUntil then s
  else { s with
    authErrorLogged := false
    currentTick := some ⟨.queue, queued, [], none⟩ }

/-- The loop of `flushPendingQueueSessions` or `flushActiveSessions` goes to its next session. -/
def tickVisits (tick : SweeperTick) (source streamId : String)
    (rest : List (String × String)) : Sweeper :=
  let key := sessionKey source streamId
  let skipped := streamId.toList.isEmpty || (tick.phase = .active && tick.drained.contains key)
  if s.stopping then { s with currentTick := none }
  else if skipped then { s with currentTick := some { tick with sessions := rest } }
  else match s.acquireSessionFlush key .tick with
    | none => { s with currentTick := some { tick with sessions := rest } }
    | some acquired =>
      { acquired with currentTick := some { tick with sessions := rest, held := some key } }

/-- A tick that holds no lock goes on; `pending` is the store's list of sessions with events to
flush, which is read after the queue loop. -/
def tickAdvances (pending : List (String × String)) : Sweeper :=
  match s.currentTick with
  | none => s
  | some tick =>
    if tick.held.isSome then s
    else match tick.phase, tick.sessions with
      | .recovery, _ => s
      | .queue, [] =>
        { s with currentTick := some { tick with phase := .active, sessions := pending } }
      | .active, [] =>
        if s.stopping then { s with currentTick := none }
        else { s with currentTick := some { tick with phase := .recovery } }
      | _, (source, streamId) :: rest => s.tickVisits tick source streamId rest

/-- A flush of a tick ends: the `finally` only gives the lock back. -/
def tickFlushEnds (outcome : FlushOutcome) (now : ℕ) : Sweeper :=
  match s.currentTick with
  | none => s
  | some tick =>
    match tick.held with
    | none => s
    | some key =>
      let released := s.setLock key none
      match outcome with
      | .authError => { released.handleAuthError now with currentTick := none }
      | .otherError => { released with currentTick := some { tick with held := none } }
      | .flushed =>
        let drained := if tick.phase = .queue then key :: tick.drained else tick.drained
        { released with currentTick := some { tick with held := none, drained := drained } }

/-- `recoverMissingAuthHistory` ends, and the tick with it. -/
def tickRecovers (outcome : FlushOutcome) (now : ℕ) : Sweeper :=
  match s.currentTick with
  | none => s
  | some tick =>
    if tick.phase = .recovery then
      let recovered := if outcome = .authError then s.handleAuthError now else s
      { recovered with currentTick := none }
    else s

/-! ### Life cycle -/

/-- `stop`, up to its first `await`. -/
def stop : Sweeper :=
  { s with
    stopping := true
    autoFlushTimers := fun _ => false
    autoFlushPending := fun _ => false }

def start : Sweeper := { s with stopping := false }

def resetAuthBackoff : Sweeper := { s with authBackoffUntil := 0, authErrorLogged := false }

end Sweeper

/-- What can happen to a sweeper. -/
inductive SweeperAction
  | nudge (opencodeSessionId source : String) (now : ℕ) (autoFlushEnabled : Bool) (debounceMs : ℤ)
  | flushBoundary (opencodeSessionId source : String)
  | boundaryResumes (key : String)
  | timerFires (key : String) (now : ℕ)
  | flushEnds (key : String) (outcome : FlushOutcome) (now : ℕ) (debounceMs : ℤ)
  | tickStarts (enabled : Bool) (now : ℕ) (queued : List (String × String))
  | tickAdvances (pending : List (String × String))
  | tickFlushEnds (outcome : FlushOutcome) (now : ℕ)
  | tickRecovers (outcome : FlushOutcome) (now : ℕ)
  | stop
  | start
  | resetAuthBackoff
  deriving DecidableEq, Repr

/-- One action on a sweeper; an action that cannot happen changes nothing. -/
def Sweeper.step (lowerCase : String → String) (s : Sweeper) : SweeperAction → Sweeper
  | .nudge id source now enabled debounceMs => s.nudge lowerCase id source now enabled debounceMs
  | .flushBoundary id source => s.flushBoundary lowerCase id source
  | .boundaryResumes key => s.boundaryResumes key
  | .timerFires key now => s.timerFires key now
  | .flushEnds key outcome now debounceMs => s.flushEnds key outcome now debounceMs
  | .tickStarts enabled now queued => s.tickStarts enabled now queued
  | .tickAdvances pending => s.tickAdvances pending
  | .tickFlushEnds outcome now => s.tickFlushEnds outcome now
  | .tickRecovers outcome now => s.tickRecovers outcome now
  | .stop => s.stop
  | .start => s.start
  | .resetAuthBackoff => s.resetAuthBackoff

end Codemem

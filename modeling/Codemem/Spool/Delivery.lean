import Codemem.Spool.SpoolFiles
import Codemem.Foundation.Trace

/-!
# Delivery of raw events by the plugin

Any number of plugin processes share one spool directory and one viewer.  A call of `deliver` or
`drainSpool` is a task that stops at every `await`; between two of its steps the tasks of all
processes may run.  The answer of a viewer request and of every file operation is given with the
step, and so are the clock, `isActive` and the built envelope.  The queues that `spool.js` keeps for
the writes of one process only take interleavings away and are left out.

A request to the viewer is named by its place among the sent ones.  The viewer may accept it at any
time, also after the client gave up; an answer `ok` is only given for an accepted request.
`returned` records the envelopes for which an enabled
`deliver` returned true.
-/

namespace Codemem

/-- The options of `createRawEventDelivery` that decide where an event goes. -/
structure DeliveryOptions where
  enabled : Bool
  backoffMs : ℕ
  statusCheckMs : ℕ
  spoolMaxEntries : ℤ
  spoolDrainLimit : ℤ
  deriving DecidableEq, Repr

/-- The state of one plugin process: `createDeliveryState`, the flag `_raw_enqueued` of its payload
objects, and whether a drain is in flight. -/
structure DeliveryState where
  alive : Bool
  options : DeliveryOptions
  envelopes : ℕ → Option JsonObject
  rawEnqueued : ℕ → Bool
  streamUnavailableUntil : ℕ
  lastStatusAvailable : Bool
  lastStatusCheckAt : ℕ
  draining : Bool

/-- How a file operation ends; `missing` is the error `ENOENT`. -/
inductive FileOutcome where
  | done
  | missing
  | failed
  deriving DecidableEq, Repr

/-- The points at which `writeRawEventSpoolEntry` waits. -/
inductive SpoolWriteStage where
  | directory
  | existingEntry
  | existingSync
  | capacity
  | temporaryWrite
  | publish
  | publishExists
  | directorySync
  deriving DecidableEq, Repr

/-- The points at which `deliver` waits; `now` is when the call began. -/
inductive DeliverStage where
  | status (now : ℕ)
  | post (request : ℕ)
  | remove
  | write (stage : SpoolWriteStage)
  deriving DecidableEq, Repr

/-- An entry that `loadRawEventSpoolEntries` found. -/
structure SpoolEntry where
  eventId : String
  envelope : JsonObject

/-- The points at which a drain waits. -/
inductive DrainStage where
  | load
  | read (candidates : List SpoolName) (entries : List SpoolEntry)
  | post (request : ℕ) (entry : SpoolEntry) (rest : List SpoolEntry)
  | remove (entry : SpoolEntry) (rest : List SpoolEntry)

/-- A call that waits: of `deliver`, with its payload object and its envelope, or of `drainSpool`. -/
inductive PluginTask where
  | deliver (process : ℕ) (payload : Option ℕ) (body : JsonObject) (stage : DeliverStage)
  | drain (process : ℕ) (stage : DrainStage)

def PluginTask.process : PluginTask → ℕ
  | .deliver process _ _ _ => process
  | .drain process _ => process

/-- The spool, the viewer, the processes and their tasks. -/
structure SpoolWorld where
  files : SpoolFiles
  sent : List JsonObject
  accepted : List ℕ
  processes : ℕ → DeliveryState
  tasks : ℕ → Option PluginTask
  returned : List JsonObject

namespace SpoolWorld

variable (w : SpoolWorld)

/-! ### Single writes -/

def setProcess (process : ℕ) (state : DeliveryState) : SpoolWorld :=
  { w with processes := Function.update w.processes process state }

/-- A task goes on at another point, or ends. -/
def setTask (task : ℕ) (next : Option PluginTask) : SpoolWorld :=
  { w with tasks := Function.update w.tasks task next }

/-- Sends an envelope to the viewer. -/
def send (body : JsonObject) : SpoolWorld := { w with sent := w.sent ++ [body] }

/-- A task of `deliver` returns true for its envelope. -/
def deliverReturns (task : ℕ) (body : JsonObject) : SpoolWorld :=
  { w.setTask task none with returned := body :: w.returned }

/-! ### Saving an event -/

/-- `maxEntries`, normalized. -/
def normalizedMaxEntries (maxEntries : ℤ) : ℤ := if 0 < maxEntries then maxEntries else 2000

/-- What a step of `writeRawEventSpoolEntry` comes to: the next point, a saved entry or an error. -/
inductive WriteResult where
  | next (stage : SpoolWriteStage)
  | saved
  | failed
  deriving DecidableEq, Repr

/-- One step of `writeRawEventSpoolEntry`: the files after it, and what it comes to. -/
def writeStep (files : SpoolFiles) (maxEntries : ℤ) (body : JsonObject) (outcome : FileOutcome) :
    SpoolWriteStage → SpoolFiles × WriteResult :=
  match requireEventId body with
  | none => fun _ => (files, .failed)
  | some eventId =>
    let destination := SpoolName.entry eventId
    let bytes := toJson body
    fun
    | .directory => (files, if outcome = .done then .next .existingEntry else .failed)
    | .existingEntry =>
      if outcome = .failed then (files, .failed)
      else match files.read destination with
        | none => (files, .next .capacity)
        | some existing =>
          if sameEventApartFromDeliveryTime existing bytes then (files, .next .existingSync)
          else (files, .failed)
    -- A drain may have removed the entry since: the write goes on as if there had been none.
    | .existingSync =>
      match outcome with
      | .done => (files, .saved)
      | .missing => (files, .next .capacity)
      | .failed => (files, .failed)
    | .capacity =>
      if outcome = .done ∧ (files.length : ℤ) < normalizedMaxEntries maxEntries then
        (files, .next .temporaryWrite)
      else (files, .failed)
    | .temporaryWrite => (files, if outcome = .done then .next .publish else .failed)
    | .publish =>
      if outcome = .done then
        match files.read destination with
        | none => (files.link destination bytes, .next .directorySync)
        | some _ => (files, .next .publishExists)
      else (files, .failed)
    | .publishExists =>
      if outcome = .done then
        match files.read destination with
        | none => (files, .failed)
        | some existing =>
          if sameEventApartFromDeliveryTime existing bytes then (files, .next .directorySync)
          else (files, .failed)
      else (files, .failed)
    -- The modes of the entry, the temporary file and the directory.
    | .directorySync => (files, if outcome = .done then .saved else .failed)

/-- A task of `deliver` takes a step of `persistForRetry`. -/
def writes (task : ℕ) (outcome : FileOutcome) : SpoolWorld :=
  match w.tasks task with
  | some (.deliver process payload body (.write stage)) =>
    let options := (w.processes process).options
    match writeStep w.files options.spoolMaxEntries body outcome stage with
    | (files, .next stage) =>
      { w with files := files }.setTask task (some (.deliver process payload body (.write stage)))
    | (files, .saved) => { w with files := files }.deliverReturns task body
    | (files, .failed) => { w with files := files }.setTask task none
  | _ => w

/-! ### Delivering an event -/

/-- The task goes on to `persistForRetry`. -/
def persistForRetry (task process : ℕ) (payload : Option ℕ) (body : JsonObject) : SpoolWorld :=
  w.setTask task (some (.deliver process payload body (.write .directory)))

/-- The task sends its envelope. -/
def postToViewer (task process : ℕ) (payload : Option ℕ) (body : JsonObject) : SpoolWorld :=
  (w.send body).setTask task (some (.deliver process payload body (.post w.sent.length)))

def armViewerBackoff (process now : ℕ) : SpoolWorld :=
  let state := w.processes process
  w.setProcess process
    { state with streamUnavailableUntil := now + max 1000 state.options.backoffMs }

/-- `handleViewerFailure`, up to its first file operation. -/
def handleViewerFailure (task process : ℕ) (payload : Option ℕ) (body : JsonObject)
    (active : Bool) (now : ℕ) : SpoolWorld :=
  (if active then w.armViewerBackoff process now else w).persistForRetry task process payload body

/-- `cachedEnvelope`: the envelope kept for a payload object, or the one built now, which is kept. -/
def cachedEnvelope (process : ℕ) (payload : Option ℕ) (built : JsonObject) :
    JsonObject × SpoolWorld :=
  match payload with
  | none => (built, w)
  | some object =>
    let state := w.processes process
    match state.envelopes object with
    | some body => (body, w)
    | none =>
      (built, w.setProcess process
        { state with envelopes := Function.update state.envelopes object (some built) })

/-- `deliver` with its envelope, up to its first `await`. -/
def deliverEnvelope (task process : ℕ) (payload : Option ℕ) (body : JsonObject) (active : Bool)
    (now : ℕ) : SpoolWorld :=
  let state := w.processes process
  if !active then w.persistForRetry task process payload body
  else if now < state.streamUnavailableUntil then w.persistForRetry task process payload body
  else if now - state.lastStatusCheckAt < max 1000 state.options.statusCheckMs then
    if state.lastStatusAvailable then w.postToViewer task process payload body
    else w.handleViewerFailure task process payload body active now
  else w.setTask task (some (.deliver process payload body (.status now)))

/-- A call of `deliver`.  A call of a disabled delivery is not recorded. -/
def deliver (task process : ℕ) (sessionID type : Option String) (payload : Option ℕ)
    (built : JsonObject) (active : Bool) (now : ℕ) : SpoolWorld :=
  let state := w.processes process
  if (w.tasks task).isSome || !state.alive || !state.options.enabled then w
  else if !truthy sessionID || !truthy type then w
  else if payload.any state.rawEnqueued then
    w.deliverReturns task ((payload.bind state.envelopes).getD built)
  else
    let (body, cached) := w.cachedEnvelope process payload built
    cached.deliverEnvelope task process payload body active now

/-- The status request of a task is answered: no answer or an error, or whether the viewer takes
events. -/
def statusAnswers (task : ℕ) (available : Option Bool) (active : Bool) (now : ℕ) : SpoolWorld :=
  match w.tasks task with
  | some (.deliver process payload body (.status began)) =>
    let state := w.processes process
    match available with
    | none => w.handleViewerFailure task process payload body active now
    | some available =>
      let checked := w.setProcess process
        { state with lastStatusAvailable := available, lastStatusCheckAt := began }
      if available then checked.postToViewer task process payload body
      else checked.handleViewerFailure task process payload body active now
  | _ => w

def viewerAccepts (request : ℕ) : SpoolWorld :=
  if request < w.sent.length then { w with accepted := request :: w.accepted } else w

/-- The post of a task of `deliver` is answered. -/
def postAnswers (task : ℕ) (ok active : Bool) (now : ℕ) : SpoolWorld :=
  match w.tasks task with
  | some (.deliver process payload body (.post request)) =>
    let state := w.processes process
    if ok then
      if request ∈ w.accepted then
        (w.setProcess process
          { state with streamUnavailableUntil := 0, lastStatusAvailable := true }).setTask task
          (some (.deliver process payload body .remove))
      else w
    else w.handleViewerFailure task process payload body active now
  | _ => w

/-- `removeRawEventSpoolEntry`; without an event id it throws before it removes anything. -/
def removeEntry (eventId : Option String) (ok : Bool) : SpoolWorld :=
  match eventId with
  | none => w
  | some eventId => if ok then { w with files := w.files.rm (.entry eventId) } else w

/-- A task of `deliver` removes the spool entry of its accepted envelope and returns.  An error is
only logged. -/
def removes (task : ℕ) (ok : Bool) : SpoolWorld :=
  match w.tasks task with
  | some (.deliver process payload body .remove) =>
    let removed := w.removeEntry (requireEventId body) ok
    let state := w.processes process
    let flagged := match payload with
      | none => removed
      | some object => removed.setProcess process
          { state with rawEnqueued := Function.update state.rawEnqueued object true }
    flagged.deliverReturns task body
  | _ => w

/-! ### Draining the spool -/

def drainEnds (task process : ℕ) : SpoolWorld :=
  (w.setProcess process { w.processes process with draining := false }).setTask task none

/-- A drain goes on with the entries that are left. -/
def drainNext (task process : ℕ) : List SpoolEntry → SpoolWorld
  | [] => w.drainEnds task process
  | entry :: rest =>
    (w.send entry.envelope).setTask task (some (.drain process (.post w.sent.length entry rest)))

/-- A call of `drainSpool` that starts a drain. -/
def drainSpool (task process now : ℕ) : SpoolWorld :=
  let state := w.processes process
  if (w.tasks task).isSome || !state.alive || !state.options.enabled then w
  else if now < state.streamUnavailableUntil then w
  else if state.draining then w
  else (w.setProcess process { state with draining := true }).setTask task
    (some (.drain process .load))

/-- The directory of a drain is read: the names of its files in the order of their times, as far as
`stat` answers, or an error. -/
def drainLists (task : ℕ) (listing : Option (List SpoolName)) : SpoolWorld :=
  match w.tasks task with
  | some (.drain process .load) =>
    match listing with
    | none => w.drainEnds task process
    | some candidates =>
      if candidates.all fun name => (w.files.read name).isSome then
        w.setTask task (some (.drain process (.read candidates [])))
      else w
  | _ => w

/-- The entry in a file, where it is not corrupt: its name is the one that its event id has. -/
def entryOf (name : SpoolName) (text : JsonText) : Option SpoolEntry :=
  match text.parse.bind Json.asObject with
  | none => none
  | some envelope =>
    match requireEventId envelope with
    | none => none
    | some eventId => if name = .entry eventId then some ⟨eventId, envelope⟩ else none

/-- A drain reads its next candidate, or goes on to the first post. -/
def drainReads (task : ℕ) (ok : Bool) : SpoolWorld :=
  match w.tasks task with
  | some (.drain process (.read candidates entries)) =>
    let limit := (w.processes process).options.spoolDrainLimit
    match candidates with
    | [] => w.drainNext task process entries
    | name :: candidates =>
      if limit ≤ entries.length then w.drainNext task process entries
      else
        let found := if ok then (w.files.read name).bind (entryOf name) else none
        w.setTask task (some (.drain process (.read candidates (entries ++ found.toList))))
  | _ => w

/-- The post of a drain is answered; after a refusal that is the event's own the drain goes on, after
any other failure it ends. -/
def drainPostAnswers (task : ℕ) (ok refused : Bool) (now : ℕ) : SpoolWorld :=
  match w.tasks task with
  | some (.drain process (.post request entry rest)) =>
    if ok then
      if request ∈ w.accepted then w.setTask task (some (.drain process (.remove entry rest)))
      else w
    else if refused then w.drainNext task process rest
    else (w.armViewerBackoff process now).drainEnds task process
  | _ => w

/-- A drain removes the entry that was accepted, and goes on. -/
def drainRemoves (task : ℕ) (ok : Bool) : SpoolWorld :=
  match w.tasks task with
  | some (.drain process (.remove entry rest)) =>
    (w.removeEntry (some entry.eventId) ok).drainNext task process rest
  | _ => w

/-- A process crashes: its tasks are gone. -/
def crash (process : ℕ) : SpoolWorld :=
  { w.setProcess process { w.processes process with alive := false } with
    tasks := fun task => (w.tasks task).filter fun t => t.process != process }

/-! ### Runs -/

/-- Processes with the given options that have done nothing yet, and a spool directory. -/
def start (files : SpoolFiles) (options : ℕ → DeliveryOptions) : SpoolWorld where
  files := files
  sent := []
  accepted := []
  processes := fun process => ⟨true, options process, fun _ => none, fun _ => false, 0, true, 0, false⟩
  tasks := fun _ => none
  returned := []

end SpoolWorld

/-- What can happen in the world of the spool. -/
inductive SpoolAction where
  | deliver (task process : ℕ) (sessionID type : Option String) (payload : Option ℕ)
      (built : JsonObject) (active : Bool) (now : ℕ)
  | statusAnswers (task : ℕ) (available : Option Bool) (active : Bool) (now : ℕ)
  | viewerAccepts (request : ℕ)
  | postAnswers (task : ℕ) (ok active : Bool) (now : ℕ)
  | removes (task : ℕ) (ok : Bool)
  | writes (task : ℕ) (outcome : FileOutcome)
  | drainSpool (task process now : ℕ)
  | drainLists (task : ℕ) (listing : Option (List SpoolName))
  | drainReads (task : ℕ) (ok : Bool)
  | drainPostAnswers (task : ℕ) (ok refused : Bool) (now : ℕ)
  | drainRemoves (task : ℕ) (ok : Bool)
  | crash (process : ℕ)

/-- One action; an action that cannot happen changes nothing. -/
def SpoolWorld.step (w : SpoolWorld) : SpoolAction → SpoolWorld
  | .deliver task process sessionID type payload built active now =>
    w.deliver task process sessionID type payload built active now
  | .statusAnswers task available active now => w.statusAnswers task available active now
  | .viewerAccepts request => w.viewerAccepts request
  | .postAnswers task ok active now => w.postAnswers task ok active now
  | .removes task ok => w.removes task ok
  | .writes task outcome => w.writes task outcome
  | .drainSpool task process now => w.drainSpool task process now
  | .drainLists task listing => w.drainLists task listing
  | .drainReads task ok => w.drainReads task ok
  | .drainPostAnswers task ok refused now => w.drainPostAnswers task ok refused now
  | .drainRemoves task ok => w.drainRemoves task ok
  | .crash process => w.crash process

end Codemem

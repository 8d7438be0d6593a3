import Codemem.Foundation.Trace
import Codemem.Text
import Mathlib.Data.Rat.Lemmas

/-!
# Delegation contexts

The plugin learns from the events of the host which child session a task call runs, and with which
brief.  A user message of the child session whose text is the brief is then credited to the call,
after a lookup of the session and the message.  A binding is an object: the table of bindings and
the lookups in flight refer to it, so it is named by its place in the list of all objects made.
A field that the code reads from a value of unknown shape is `none` when it is no text.
-/

namespace Codemem

def MAX_BINDINGS : ℕ := 128

def MAX_BRIEF_CHARS : ℕ := 64000

def BINDING_TTL_MS : ℚ := 10 * 60000

/-- `validId`: the id, when it is one. -/
def validId (value : Option String) : Option String :=
  value.filter fun id => decide (0 < (utf16 id).length ∧ (utf16 id).length ≤ 256)

/-- `normalizedPromptText`, unless it is empty. -/
def normalizedPromptText (value : Option String) : Option String :=
  (value.map trim).filter fun text => text != ""

/-- The part of a `message.part.updated` event. -/
structure TaskPart where
  type : Option String
  tool : Option String
  callID : Option String
  sessionID : Option String
  status : Option String
  childSessionID : Option String
  parentSessionID : Option String
  subagentType : Option String
  prompt : Option String
  description : Option String
  start : Option ℚ

inductive HostEvent where
  | sessionDeleted (id : Option String)
  | partUpdated (part : TaskPart)
  | other

/-- The `info` of a message. -/
structure MessageInfo where
  id : Option String
  sessionID : Option String
  role : Option String
  agent : Option String
  created : Option ℚ
  deriving DecidableEq

structure PromptPart where
  id : Option String
  type : Option String
  text : Option String
  synthetic : Bool
  ignored : Bool
  sessionID : Option String
  messageID : Option String
  deriving DecidableEq

/-- What a binding keeps of the chat hook: other hooks may change it in place. -/
structure PromptDraft where
  message : MessageInfo
  parts : Option (List PromptPart)
  deriving DecidableEq

/-- The task call of a binding. -/
structure Delegation where
  fingerprint : String
  parent : String
  child : String
  call : String
  agent : String
  brief : String
  startedAt : ℚ
  deriving DecidableEq

/-- An object of the table of bindings; a call that was over before it was seen has no
delegation. -/
structure DelegationBinding where
  key : String × String
  delegation : Option Delegation
  observedAt : ℚ
  closed : Bool
  ambiguous : Bool
  messageID : Option String
  prompt : Option PromptDraft

/-- The context that a prompt is credited with. -/
structure DelegationCredit where
  parentSessionId : String
  childSessionId : String
  taskCallId : String
  messageId : String
  requestedAgent : String
  currentAgent : String
  briefSha256 : String
  deriving DecidableEq

/-- A lookup in flight, with the objects as they were at each `resolve` that it serves. -/
structure ActiveLookup where
  sessionID : String
  messageID : String
  text : String
  candidates : List ℕ
  admissions : List (List DelegationBinding)

/-- A credit that a lookup came to: the binding, as it was matched, and the objects as they were at
each `resolve` that gets the credit. -/
structure YieldedCredit where
  binding : ℕ
  text : String
  matched : DelegationBinding
  admissions : List (List DelegationBinding)
  credit : DelegationCredit

/-- `createDelegationContext`: its options, the time of its creation and the digests. -/
structure DelegationOptions where
  requirePromptSnapshot : Bool
  hasReaders : Bool
  initializedAt : ℚ
  digest : String → String
  fingerprint : String → String → String → ℚ → String

structure DelegationState where
  objects : List DelegationBinding
  bindings : List ℕ
  activeLookups : List ActiveLookup
  disposed : Bool
  yielded : List YieldedCredit

/-- A delegation context as it is created. -/
def DelegationState.initial : DelegationState := ⟨[], [], [], false, []⟩

/-! ### The bindings -/

def DelegationBinding.child (binding : DelegationBinding) : Option String :=
  binding.delegation.map Delegation.child

def DelegationBinding.parent (binding : DelegationBinding) : Option String :=
  binding.delegation.map Delegation.parent

/-- Something holds of the object at a place. -/
def DelegationState.holdsAt (s : DelegationState) (i : ℕ) (test : DelegationBinding → Bool) : Bool :=
  (s.objects[i]?).any test

/-- `prune`; each binding reads the clock once. -/
def DelegationState.prune (clock : ℕ → ℚ) (s : DelegationState) : DelegationState :=
  { s with bindings := (s.bindings.zipIdx.filter fun entry => !s.holdsAt entry.1 fun binding =>
      decide (BINDING_TTL_MS < clock entry.2 - binding.observedAt)).map Prod.fst }

/-- `bindings.get(key)`. -/
def DelegationState.find (s : DelegationState) (key : String × String) : Option ℕ :=
  s.bindings.find? fun i => s.holdsAt i fun binding => binding.key == key

/-- Objects change in place. -/
def DelegationState.change (s : DelegationState) (f : ℕ → DelegationBinding → DelegationBinding) :
    DelegationState :=
  { s with objects := s.objects.mapIdx f }

/-- `bindings.set(key, …)` of a new object. -/
def DelegationState.bind (s : DelegationState) (binding : DelegationBinding) : DelegationState :=
  { s with objects := s.objects ++ [binding], bindings := s.bindings ++ [s.objects.length] }

def changeAt (place : ℕ) (f : DelegationBinding → DelegationBinding) (i : ℕ)
    (binding : DelegationBinding) : DelegationBinding :=
  if i = place then f binding else binding

/-! ### Events -/

/-- The delegation that a running task part tells of, with its session and call. -/
def readTask (options : DelegationOptions) (part : TaskPart) (sessionID callID : String) :
    Option Delegation :=
  match validId part.childSessionID, validId part.subagentType, normalizedPromptText part.prompt,
    part.description, part.start with
  | some child, some agent, some brief, some _, some start =>
    if part.parentSessionID ≠ some sessionID ∨ child = sessionID ∨
        MAX_BRIEF_CHARS < (utf16 (part.prompt.getD "")).length then none
    else some
      { fingerprint := options.fingerprint child agent brief start
        parent := sessionID
        child := child
        call := callID
        agent := agent
        brief := brief
        startedAt := start }
  | _, _, _, _, _ => none

/-- A start time is neither before the context nor too long ago. -/
def isFreshStart (options : DelegationOptions) (now start : ℚ) : Bool :=
  decide (options.initializedAt ≤ start ∧ now - start ≤ BINDING_TTL_MS)

def observeTask (options : DelegationOptions) (clock : ℕ → ℚ) (part : TaskPart)
    (sessionID callID : String) (s : DelegationState) : DelegationState :=
  let key := (sessionID, callID)
  if part.status = some "completed" ∨ part.status = some "error" then
    match s.find key with
    | some previous => s.change (changeAt previous fun binding => { binding with closed := true })
    | none =>
      if s.bindings.length < MAX_BINDINGS then
        s.bind
          { key := key
            delegation := none
            observedAt := clock 0
            closed := true
            ambiguous := false
            messageID := none
            prompt := none }
      else s
  else if part.status ≠ some "running" then s
  else
    match readTask options part sessionID callID, s.find key with
    | none, none => s
    | none, some previous =>
      s.change (changeAt previous fun binding => { binding with ambiguous := true })
    | some task, some previous =>
      s.change (changeAt previous fun binding =>
        if binding.delegation.map Delegation.fingerprint = some task.fingerprint then binding
        else { binding with ambiguous := true })
    | some task, none =>
      if MAX_BINDINGS ≤ s.bindings.length ∨ isFreshStart options (clock 0) task.startedAt = false then
        s
      else
        s.bind
          { key := key
            delegation := some task
            observedAt := clock 1
            closed := false
            ambiguous := false
            messageID := none
            prompt := none }

/-- The clock after the readings of `prune`. -/
def clockAfterPrune (s : DelegationState) (clock : ℕ → ℚ) : ℕ → ℚ :=
  fun i => clock (s.bindings.length + i)

def observe (options : DelegationOptions) (clock : ℕ → ℚ) (event : HostEvent)
    (s : DelegationState) : DelegationState :=
  if s.disposed then s
  else
    match event with
    | .sessionDeleted id => (s.prune clock).change fun i binding =>
        if i ∈ (s.prune clock).bindings ∧ (binding.child = id ∨ binding.parent = id) then
          { binding with closed := true }
        else binding
    | .partUpdated part =>
      match validId part.callID, validId part.sessionID with
      | some callID, some sessionID =>
        if part.type = some "tool" ∧ part.tool = some "task" then
          observeTask options (clockAfterPrune s clock) part sessionID callID (s.prune clock)
        else s.prune clock
      | _, _ => s.prune clock
    | .other => s.prune clock

/-! ### The chat hook -/

structure ChatInput where
  sessionID : Option String
  messageID : Option String
  agent : Option String

/-- One part is the text of a prompt: neither synthetic nor ignored. -/
def isPlainText (part : PromptPart) : Bool :=
  part.type == some "text" && !part.synthetic && !part.ignored

/-- The parts of the chat hook are the brief of a binding. -/
def promptMatches (parts : Option (List PromptPart)) (brief : String) : Bool :=
  match parts with
  | some [part] => isPlainText part && normalizedPromptText part.text == some brief
  | _ => false

def observePrompt (options : DelegationOptions) (clock : ℕ → ℚ) (input : ChatInput)
    (output : PromptDraft) (s : DelegationState) : DelegationState :=
  if s.disposed then s
  else
    let info := output.message
    match validId info.id, info.created, validId info.agent with
    | some id, some created, some agent =>
      if info.sessionID ≠ input.sessionID ∨ info.role ≠ some "user" ∨
          (truthy input.messageID = true ∧ input.messageID ≠ some id) ∨
          (truthy input.agent = true ∧ input.agent ≠ some agent) then
        s.prune clock
      else
        (s.prune clock).change fun i binding =>
          match binding.delegation with
          | none => binding
          | some task =>
            if i ∉ (s.prune clock).bindings ∨ binding.closed = true ∨
                some task.child ≠ info.sessionID ∨ task.agent ≠ agent ∨ created < task.startedAt ∨
                binding.messageID.isSome then binding
            else if promptMatches output.parts task.brief then
              { binding with messageID := some id, prompt := some output }
            else if options.requirePromptSnapshot then binding
            else { binding with messageID := some id }
    | _, _, _ => s.prune clock

/-! ### Lookups -/

/-- The prompt given to `resolve`. -/
structure ResolvePrompt where
  sessionID : Option String
  messageID : Option String
  text : Option String

def ActiveLookup.isFor (lookup : ActiveLookup) (sessionID messageID : String) : Bool :=
  lookup.sessionID == sessionID && lookup.messageID == messageID

/-- The bindings that a `resolve` reserves. -/
def reservedCandidates (options : DelegationOptions) (s : DelegationState)
    (sessionID messageID : String) : List ℕ :=
  s.bindings.filter fun i => s.holdsAt i fun binding =>
    binding.child == some sessionID && !binding.closed && (!options.requirePromptSnapshot ||
      (binding.messageID == some messageID && binding.prompt.isSome))

/-- `resolve`, up to the lookup; a second `resolve` of a message shares the lookup of the first. -/
def resolve (options : DelegationOptions) (clock : ℕ → ℚ) (prompt : ResolvePrompt)
    (s : DelegationState) : DelegationState :=
  match validId prompt.sessionID, validId prompt.messageID, normalizedPromptText prompt.text with
  | some sessionID, some messageID, some text =>
    if s.disposed then s
    else
      let pruned := s.prune clock
      let candidates := reservedCandidates options pruned sessionID messageID
      if options.hasReaders = false ∨ (candidates.any fun i => pruned.holdsAt i fun binding =>
          binding.messageID == none || binding.messageID == some messageID) = false then pruned
      else
        match pruned.activeLookups.find? fun lookup => lookup.isFor sessionID messageID with
        | some existing =>
          if existing.text = text then
            { pruned with activeLookups := pruned.activeLookups.map fun lookup =>
                if lookup.isFor sessionID messageID then
                  { lookup with admissions := lookup.admissions ++ [pruned.objects] }
                else lookup }
          else pruned
        | none =>
          if pruned.bindings.length ≤ pruned.activeLookups.length then pruned
          else
            { pruned with activeLookups := pruned.activeLookups ++
                [⟨sessionID, messageID, text, candidates, [pruned.objects]⟩] }
  | _, _, _ => s

/-- What the lookup of the session and the message answers. -/
structure SnapshotAnswer where
  sessionID : Option String
  parentID : Option String
  info : MessageInfo
  parts : Option (List PromptPart)

/-- What `matchSnapshot` reads in an answer. -/
structure SnapshotRead where
  parentID : Option String
  role : Option String
  agent : String
  created : ℚ
  part : PromptPart

/-- The checks of `matchSnapshot` on the answer alone. -/
def readSnapshot (lookup : ActiveLookup) (answer : SnapshotAnswer) : Option SnapshotRead :=
  match validId answer.info.agent, answer.info.created, answer.parts with
  | some agent, some created, some [part] =>
    if answer.sessionID = some lookup.sessionID ∧ answer.info.id = some lookup.messageID ∧
        answer.info.sessionID = some lookup.sessionID ∧ answer.info.role = some "user" ∧
        isPlainText part = true ∧ part.sessionID = some lookup.sessionID ∧
        part.messageID = some lookup.messageID ∧
        normalizedPromptText part.text = some lookup.text then
      some ⟨answer.parentID, answer.info.role, agent, created, part⟩
    else none
  | _, _, _ => none

/-- A binding fits what was read: the sessions, the agent, the brief and the time. -/
def fits (lookup : ActiveLookup) (read : SnapshotRead) (binding : DelegationBinding) : Bool :=
  binding.delegation.any fun task => task.child == lookup.sessionID &&
    some task.parent == read.parentID && task.agent == read.agent && task.brief == lookup.text &&
    decide (task.startedAt ≤ read.created)

def draftAgrees (lookup : ActiveLookup) (read : SnapshotRead) (prompt : Option PromptDraft) : Bool :=
  match prompt with
  | none => false
  | some draft =>
    match draft.parts with
    | some [draftPart] =>
      draft.message.id == some lookup.messageID &&
        draft.message.sessionID == some lookup.sessionID && draft.message.role == read.role &&
        draft.message.agent == some read.agent && draft.message.created == some read.created &&
        draftPart.id == read.part.id && draftPart.sessionID == some lookup.sessionID &&
        draftPart.messageID == some lookup.messageID && isPlainText draftPart &&
        normalizedPromptText draftPart.text == some lookup.text
    | _ => false

/-- The context of a match. -/
def creditOf (options : DelegationOptions) (lookup : ActiveLookup) (read : SnapshotRead)
    (task : Delegation) : DelegationCredit :=
  { parentSessionId := task.parent
    childSessionId := lookup.sessionID
    taskCallId := task.call
    messageId := lookup.messageID
    requestedAgent := task.agent
    currentAgent := read.agent
    briefSha256 := options.digest lookup.text }

/-- `matchSnapshot` of a well-formed answer, after `prune`. -/
def matchRead (options : DelegationOptions) (lookup : ActiveLookup) (read : SnapshotRead)
    (s : DelegationState) : DelegationState :=
  let hasNewMatch := s.bindings.any fun i => !decide (i ∈ lookup.candidates) &&
    s.holdsAt i fun binding => !binding.closed && fits lookup read binding
  if hasNewMatch then s
  else
    match lookup.candidates.filter fun i => s.holdsAt i (fits lookup read) with
    | [place] =>
      match s.objects[place]? with
      | some binding =>
        match binding.delegation with
        | some task =>
          if binding.ambiguous = true ∨
              (binding.messageID.isSome ∧ binding.messageID ≠ some lookup.messageID) ∨
              (options.requirePromptSnapshot = true ∧
                draftAgrees lookup read binding.prompt = false) then s
          else
            { s.change (changeAt place fun binding =>
                { binding with messageID := some lookup.messageID }) with
              yielded := s.yielded ++
                [⟨place, lookup.text, binding, lookup.admissions, creditOf options lookup read task⟩] }
        | none => s
      | none => s
    | _ => s

def matchSnapshot (options : DelegationOptions) (clock : ℕ → ℚ) (lookup : ActiveLookup)
    (answer : SnapshotAnswer) (s : DelegationState) : DelegationState :=
  if s.disposed then s
  else
    match readSnapshot lookup answer with
    | none => s
    | some read => matchRead options lookup read (s.prune clock)

/-- `finish` takes a lookup out of the table. -/
def DelegationState.finish (s : DelegationState) (sessionID messageID : String) : DelegationState :=
  { s with activeLookups := s.activeLookups.filter fun lookup =>
      !lookup.isFor sessionID messageID }

/-- What happens to a delegation context: its calls, the answers and the ends of its lookups, and
the hooks that change a prompt in place. -/
inductive DelegationAction where
  | observe (clock : ℕ → ℚ) (event : HostEvent)
  | observePrompt (clock : ℕ → ℚ) (input : ChatInput) (output : PromptDraft)
  | resolve (clock : ℕ → ℚ) (prompt : ResolvePrompt)
  | settle (clock : ℕ → ℚ) (sessionID messageID : String) (answer : SnapshotAnswer)
  | abandon (sessionID messageID : String)
  | boundChildren (clock : ℕ → ℚ)
  | changePrompts (edit : ℕ → PromptDraft → PromptDraft)
  | dispose

def delegationStep (options : DelegationOptions) (s : DelegationState) :
    DelegationAction → DelegationState
  | .observe clock event => observe options clock event s
  | .observePrompt clock input output => observePrompt options clock input output s
  | .resolve clock prompt => resolve options clock prompt s
  | .settle clock sessionID messageID answer =>
    match s.activeLookups.find? fun lookup => lookup.isFor sessionID messageID with
    | none => s
    | some lookup => (matchSnapshot options clock lookup answer s).finish sessionID messageID
  | .abandon sessionID messageID => s.finish sessionID messageID
  | .boundChildren clock => if s.disposed then s else s.prune clock
  | .changePrompts edit =>
    s.change fun i binding => { binding with prompt := binding.prompt.map (edit i) }
  | .dispose => { s with disposed := true, activeLookups := [], bindings := [] }

end Codemem

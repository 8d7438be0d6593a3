import Codemem.Spool.Delivery

/-!
# No captured event is lost

An envelope is covered when the viewer has accepted one with its event id, or the spool holds its
event.  A spool file is only removed by a call that saw the viewer accept an envelope with the event
id of the file's name, and a published file is never written again.  So a covered envelope stays
covered, and a call of `deliver` only returns true for a covered one (`captured_events_kept`).

Event ids are compared as the spool reads them, without the white space around them.  Two ids that
differ only in it share a file: accepting the one event removes the saved other
(`captured_event_lost`).
-/

namespace Codemem

namespace SpoolWorld

/-- The viewer has accepted a request with this envelope. -/
def Accepted (w : SpoolWorld) (body : JsonObject) : Prop :=
  ∃ request ∈ w.accepted, w.sent[request]? = some body

def AcceptedId (w : SpoolWorld) (eventId : Option String) : Prop :=
  ∃ body, w.Accepted body ∧ requireEventId body = eventId

/-- The spool holds a file with the event of an envelope, up to its two delivery times. -/
def Spooled (w : SpoolWorld) (body : JsonObject) : Prop :=
  ∃ eventId, requireEventId body = some eventId ∧ ∃ text,
    w.files.read (.entry eventId) = some text ∧
      sameEventApartFromDeliveryTime text (toJson body) = true

/-- An envelope that is not lost. -/
def Covered (w : SpoolWorld) (body : JsonObject) : Prop :=
  w.AcceptedId (requireEventId body) ∨ w.Spooled body

/-- What a step may do to the published files: a file keeps its content, or it is removed and the
viewer has accepted an envelope with the event id of its name. -/
def KeepsFiles (w w' : SpoolWorld) : Prop :=
  ∀ name text, w.files.read name = some text → w'.files.read name = some text ∨
    w'.files.read name = none ∧ ∃ eventId, name = .entry eventId ∧ w.AcceptedId (some eventId)

/-- What a step may do to the spool, the viewer and the cached envelopes. -/
structure Advances (w w' : SpoolWorld) : Prop where
  sent : ∀ (request : ℕ) (body : JsonObject),
    w.sent[request]? = some body → w'.sent[request]? = some body
  accepted : ∀ request ∈ w.accepted, request ∈ w'.accepted
  files : w.KeepsFiles w'
  envelopes : ∀ process object body, (w.processes process).envelopes object = some body →
    (w'.processes process).envelopes object = some body

variable {w w' : SpoolWorld} {body : JsonObject}

lemma Advances.of_eq (hsent : w'.sent = w.sent) (haccepted : w'.accepted = w.accepted)
    (hfiles : w'.files = w.files) (hprocesses : w'.processes = w.processes) : w.Advances w' where
  sent _ _ h := hsent ▸ h
  accepted _ h := haccepted ▸ h
  files _ _ h := .inl (hfiles ▸ h)
  envelopes _ _ _ h := hprocesses ▸ h

lemma Advances.refl (w : SpoolWorld) : w.Advances w := .of_eq rfl rfl rfl rfl

lemma Accepted.advance (h : w.Accepted body) (hadv : w.Advances w') : w'.Accepted body := by
  obtain ⟨request, haccepted, hsent⟩ := h
  exact ⟨request, hadv.accepted _ haccepted, hadv.sent _ _ hsent⟩

lemma AcceptedId.advance {eventId : Option String} (h : w.AcceptedId eventId)
    (hadv : w.Advances w') : w'.AcceptedId eventId := by
  obtain ⟨body, haccepted, hid⟩ := h
  exact ⟨body, haccepted.advance hadv, hid⟩

lemma Covered.advance (h : w.Covered body) (hadv : w.Advances w') : w'.Covered body := by
  rcases h with haccepted | ⟨eventId, hid, text, hread, hsame⟩
  · exact .inl (haccepted.advance hadv)
  · rcases hadv.files _ _ hread with hkept | ⟨-, removedId, hname, haccepted⟩
    · exact .inr ⟨eventId, hid, text, hkept, hsame⟩
    · obtain rfl : eventId = removedId := by simpa using hname
      exact .inl (hid ▸ haccepted.advance hadv)

/-! ### The invariant -/

/-- What a stage of `deliver` knows about its envelope. -/
def DeliverStageOk (w : SpoolWorld) (body : JsonObject) : DeliverStage → Prop
  | .post request => w.sent[request]? = some body
  | .remove => w.Accepted body
  | .write .existingSync => w.Covered body
  | .write .directorySync => w.Covered body
  | _ => True

def EntryOk (entry : SpoolEntry) : Prop := requireEventId entry.envelope = some entry.eventId

/-- What a stage of a drain knows about its entries. -/
def DrainStageOk (w : SpoolWorld) : DrainStage → Prop
  | .load => True
  | .read _ entries => ∀ entry ∈ entries, EntryOk entry
  | .post request entry rest =>
    w.sent[request]? = some entry.envelope ∧ EntryOk entry ∧ ∀ entry ∈ rest, EntryOk entry
  | .remove entry rest => w.Accepted entry.envelope ∧ EntryOk entry ∧ ∀ entry ∈ rest, EntryOk entry

def Cached (w : SpoolWorld) (process : ℕ) (payload : Option ℕ) (body : JsonObject) : Prop :=
  ∀ object, payload = some object → (w.processes process).envelopes object = some body

/-- What is true of a task that waits: the envelope of a payload object is the cached one, and the
stage knows what it has to. -/
def TaskOk (w : SpoolWorld) : PluginTask → Prop
  | .deliver process payload body stage =>
    w.Cached process payload body ∧ w.DeliverStageOk body stage
  | .drain _ stage => w.DrainStageOk stage

/-- The invariant of a run. -/
structure Inv (w : SpoolWorld) : Prop where
  returned : ∀ body ∈ w.returned, w.Covered body
  tasks : ∀ task t, w.tasks task = some t → w.TaskOk t
  enqueued : ∀ process object, (w.processes process).rawEnqueued object = true →
    ∃ body, (w.processes process).envelopes object = some body ∧ w.Accepted body

lemma TaskOk.advance {t : PluginTask} (h : w.TaskOk t) (hadv : w.Advances w') : w'.TaskOk t := by
  match t, h with
  | .deliver process payload body stage, ⟨hcached, hstage⟩ =>
    refine ⟨fun object hobject => hadv.envelopes _ _ _ (hcached object hobject), ?_⟩
    match stage, hstage with
    | .post request, hstage => exact hadv.sent _ _ hstage
    | .remove, hstage => exact hstage.advance hadv
    | .write .existingSync, hstage => exact hstage.advance hadv
    | .write .directorySync, hstage => exact hstage.advance hadv
    | .status _, _ => trivial
    | .write .directory, _ => trivial
    | .write .existingEntry, _ => trivial
    | .write .capacity, _ => trivial
    | .write .temporaryWrite, _ => trivial
    | .write .publish, _ => trivial
    | .write .publishExists, _ => trivial
  | .drain process .load, _ => trivial
  | .drain process (.read _ _), h => exact h
  | .drain process (.post _ _ _), ⟨hsent, hentries⟩ => exact ⟨hadv.sent _ _ hsent, hentries⟩
  | .drain process (.remove _ _), ⟨haccepted, hentries⟩ =>
    exact ⟨haccepted.advance hadv, hentries⟩

lemma Inv.advance (h : w.Inv) (hadv : w.Advances w')
    (hreturned : ∀ body ∈ w'.returned, body ∈ w.returned ∨ w'.Covered body)
    (htasks : ∀ task t, w'.tasks task = some t → w.tasks task = some t ∨ w'.TaskOk t)
    (henqueued : ∀ process object, (w'.processes process).rawEnqueued object = true →
      (w.processes process).rawEnqueued object = true ∨
        ∃ body, (w'.processes process).envelopes object = some body ∧ w'.Accepted body) :
    w'.Inv where
  returned body hbody := (hreturned body hbody).elim (fun hold => (h.returned _ hold).advance hadv) id
  tasks task t ht := (htasks task t ht).elim (fun hold => (h.tasks _ _ hold).advance hadv) id
  enqueued process object hflag := by
    rcases henqueued process object hflag with hold | hnew
    · obtain ⟨body, hcached, haccepted⟩ := h.enqueued _ _ hold
      exact ⟨body, hadv.envelopes _ _ _ hcached, haccepted.advance hadv⟩
    · exact hnew

/-! ### Single writes -/

section Writes

variable {task process : ℕ} {state : DeliveryState}

lemma advances_setTask (w : SpoolWorld) (task : ℕ) (next : Option PluginTask) :
    w.Advances (w.setTask task next) := .of_eq rfl rfl rfl rfl

lemma Inv.setTask {next : Option PluginTask} (h : w.Inv) (hnext : ∀ t ∈ next, w.TaskOk t) :
    (w.setTask task next).Inv := by
  refine h.advance (advances_setTask w task next) (fun _ => .inl) ?_ (fun _ _ => .inl)
  intro task' t ht
  rcases eq_or_ne task' task with rfl | hne
  · right
    have htask : next = some t := by simpa [SpoolWorld.setTask] using ht
    exact (hnext t htask).advance (advances_setTask w task' next)
  · left
    simpa [SpoolWorld.setTask, hne] using ht

lemma Inv.setProcess (h : w.Inv)
    (henvelopes : ∀ object body, (w.processes process).envelopes object = some body →
      state.envelopes object = some body)
    (hflags : ∀ object, state.rawEnqueued object = true →
      (w.processes process).rawEnqueued object = true ∨
        ∃ body, state.envelopes object = some body ∧ w.Accepted body) :
    (w.setProcess process state).Inv := by
  have hadv : w.Advances (w.setProcess process state) := by
    refine { Advances.refl w with envelopes := ?_ }
    intro process' object body hcached
    rcases eq_or_ne process' process with rfl | hne
    · simpa [SpoolWorld.setProcess] using henvelopes object body hcached
    · simpa [SpoolWorld.setProcess, hne] using hcached
  refine h.advance hadv (fun _ => .inl) (fun _ _ => .inl) ?_
  intro process' object hflag
  rcases eq_or_ne process' process with rfl | hne
  · simp only [SpoolWorld.setProcess, Function.update_self] at hflag ⊢
    exact hflags object hflag
  · left
    simpa [SpoolWorld.setProcess, hne] using hflag

lemma advances_send (w : SpoolWorld) (body : JsonObject) : w.Advances (w.send body) := by
  refine { Advances.refl w with sent := ?_ }
  intro request sentBody hsent
  have hlt : request < w.sent.length := (List.getElem?_eq_some_iff.mp hsent).1
  simpa [SpoolWorld.send, List.getElem?_append_left hlt] using hsent

lemma Inv.send (h : w.Inv) (body : JsonObject) : (w.send body).Inv :=
  h.advance (advances_send w body) (fun _ => .inl) (fun _ _ => .inl) (fun _ _ => .inl)

lemma send_sent (w : SpoolWorld) (body : JsonObject) :
    (w.send body).sent[w.sent.length]? = some body := by
  simp [SpoolWorld.send]

lemma Inv.deliverReturns (h : w.Inv) (hcovered : w.Covered body) :
    (w.deliverReturns task body).Inv := by
  have hended : (w.setTask task none).Inv := h.setTask (by simp)
  refine hended.advance (.of_eq rfl rfl rfl rfl) ?_ (fun _ _ => .inl) (fun _ _ => .inl)
  intro body' hbody
  rcases List.mem_cons.mp hbody with rfl | hold
  · exact .inr hcovered
  · exact .inl hold

lemma advances_removeEntry {eventId : Option String} (ok : Bool) (h : w.AcceptedId eventId) :
    w.Advances (w.removeEntry eventId ok) := by
  unfold removeEntry
  split
  · exact .refl w
  split
  · rename_i eventId _
    refine { Advances.refl w with files := ?_ }
    intro name text hread
    rcases eq_or_ne name (.entry eventId) with rfl | hne
    · exact .inr ⟨SpoolFiles.read_rm_self, eventId, rfl, h⟩
    · exact .inl (by simpa [SpoolFiles.read_rm_of_ne hne] using hread)
  · exact .refl w

lemma removeEntry_frame (w : SpoolWorld) (eventId : Option String) (ok : Bool) :
    (w.removeEntry eventId ok).returned = w.returned ∧
      (w.removeEntry eventId ok).tasks = w.tasks ∧
      (w.removeEntry eventId ok).processes = w.processes := by
  unfold removeEntry
  split
  · exact ⟨rfl, rfl, rfl⟩
  split <;> exact ⟨rfl, rfl, rfl⟩

lemma Inv.removeEntry {eventId : Option String} {ok : Bool} (h : w.Inv)
    (haccepted : w.AcceptedId eventId) : (w.removeEntry eventId ok).Inv := by
  obtain ⟨hreturned, htasks, hprocesses⟩ := removeEntry_frame w eventId ok
  refine h.advance (advances_removeEntry ok haccepted) ?_ ?_ ?_
  · intro body hbody
    exact .inl (hreturned ▸ hbody)
  · intro task t ht
    exact .inl (htasks ▸ ht)
  · intro process object hflag
    exact .inl (hprocesses ▸ hflag)

end Writes

/-! ### Saving an event -/

/-- What the result of a step of a write has to know. -/
def WriteResultOk (w : SpoolWorld) (body : JsonObject) : WriteResult → Prop
  | .next stage => w.DeliverStageOk body (.write stage)
  | .saved => w.Covered body
  | .failed => True

/-- A step of a write links the entry of its envelope under a free name, or leaves the files alone,
and its result knows what it has to. -/
lemma writeStep_spec (maxEntries : ℤ) (outcome : FileOutcome) {stage : SpoolWriteStage}
    (hstage : w.DeliverStageOk body (.write stage)) :
    let step := writeStep w.files maxEntries body outcome stage
    (step.1 = w.files ∨ ∃ eventId, w.files.read (.entry eventId) = none ∧
      step.1 = w.files.link (.entry eventId) (toJson body)) ∧
    ({ w with files := step.1 } : SpoolWorld).WriteResultOk body step.2 := by
  intro step
  have hstep : step = writeStep w.files maxEntries body outcome stage := rfl
  clear_value step
  unfold writeStep at hstep
  cases hid : requireEventId body with
  | none =>
    simp only [hid] at hstep
    subst hstep
    exact ⟨.inl rfl, trivial⟩
  | some eventId =>
    have hseen : ∀ text, w.files.read (.entry eventId) = some text →
        sameEventApartFromDeliveryTime text (toJson body) = true → w.Covered body :=
      fun text hread hsame => .inr ⟨eventId, hid, text, hread, hsame⟩
    simp only [hid] at hstep
    cases stage with
    | directory =>
      dsimp only at hstep
      split at hstep <;> subst hstep <;> exact ⟨.inl rfl, trivial⟩
    | existingEntry =>
      dsimp only at hstep
      split at hstep
      · subst hstep
        exact ⟨.inl rfl, trivial⟩
      split at hstep
      · subst hstep
        exact ⟨.inl rfl, trivial⟩
      · rename_i existing hread
        split at hstep
        · rename_i hsame
          subst hstep
          exact ⟨.inl rfl, hseen existing hread hsame⟩
        · subst hstep
          exact ⟨.inl rfl, trivial⟩
    | existingSync =>
      cases outcome with
      | done =>
        subst hstep
        exact ⟨.inl rfl, hstage⟩
      | missing =>
        subst hstep
        exact ⟨.inl rfl, trivial⟩
      | failed =>
        subst hstep
        exact ⟨.inl rfl, trivial⟩
    | capacity =>
      dsimp only at hstep
      split at hstep <;> subst hstep <;> exact ⟨.inl rfl, trivial⟩
    | temporaryWrite =>
      dsimp only at hstep
      split at hstep <;> subst hstep <;> exact ⟨.inl rfl, trivial⟩
    | publish =>
      dsimp only at hstep
      split at hstep
      · split at hstep
        · rename_i hfree
          subst hstep
          refine ⟨.inr ⟨eventId, hfree, rfl⟩, .inr ⟨eventId, hid, toJson body, ?_, ?_⟩⟩
          · exact SpoolFiles.read_link_self hfree
          · exact sameEventApartFromDeliveryTime_refl _
        · subst hstep
          exact ⟨.inl rfl, trivial⟩
      · subst hstep
        exact ⟨.inl rfl, trivial⟩
    | publishExists =>
      dsimp only at hstep
      split at hstep
      · split at hstep
        · subst hstep
          exact ⟨.inl rfl, trivial⟩
        · rename_i existing hread
          split at hstep
          · rename_i hsame
            subst hstep
            exact ⟨.inl rfl, hseen existing hread hsame⟩
          · subst hstep
            exact ⟨.inl rfl, trivial⟩
      · subst hstep
        exact ⟨.inl rfl, trivial⟩
    | directorySync =>
      dsimp only at hstep
      split at hstep <;> subst hstep
      · exact ⟨.inl rfl, hstage⟩
      · exact ⟨.inl rfl, trivial⟩

lemma advances_link {files : SpoolFiles}
    (h : files = w.files ∨ ∃ eventId text, w.files.read (.entry eventId) = none ∧
      files = w.files.link (.entry eventId) text) : w.Advances { w with files := files } := by
  rcases h with rfl | ⟨eventId, text, hfree, rfl⟩
  · exact .refl w
  · refine { Advances.refl w with files := ?_ }
    intro name content hread
    rcases eq_or_ne name (.entry eventId) with rfl | hne
    · simp [hread] at hfree
    · exact .inl (by simpa [SpoolFiles.read_link_of_ne hne] using hread)

lemma Inv.writes {task : ℕ} {outcome : FileOutcome} (h : w.Inv) : (w.writes task outcome).Inv := by
  unfold SpoolWorld.writes
  split
  case h_2 => exact h
  case h_1 process payload body stage htask =>
    obtain ⟨hcached, hstage⟩ := h.tasks _ _ htask
    have hspec := writeStep_spec (w.processes process).options.spoolMaxEntries outcome hstage
    dsimp only at hspec ⊢
    generalize writeStep w.files (w.processes process).options.spoolMaxEntries body outcome stage =
      step at hspec ⊢
    obtain ⟨files, result⟩ := step
    obtain ⟨hfiles, hresult⟩ := hspec
    have hlinked : ({ w with files := files } : SpoolWorld).Inv := by
      refine h.advance (advances_link ?_) (fun _ => .inl) (fun _ _ => .inl) (fun _ _ => .inl)
      exact hfiles.imp_right fun ⟨eventId, hfree, heq⟩ => ⟨eventId, _, hfree, heq⟩
    cases result with
    | next stage =>
      refine hlinked.setTask ?_
      rintro t ⟨⟩
      exact ⟨hcached, hresult⟩
    | saved => exact hlinked.deliverReturns hresult
    | failed => exact hlinked.setTask (by simp)

/-! ### Delivering an event -/

section Deliver

variable {task process now : ℕ} {payload : Option ℕ} {active : Bool}

lemma Inv.persistForRetry (h : w.Inv) (hcached : w.Cached process payload body) :
    (w.persistForRetry task process payload body).Inv := by
  refine h.setTask ?_
  rintro t ⟨⟩
  exact ⟨hcached, trivial⟩

lemma Inv.postToViewer (h : w.Inv) (hcached : w.Cached process payload body) :
    (w.postToViewer task process payload body).Inv := by
  refine (h.send body).setTask ?_
  rintro t ⟨⟩
  exact ⟨hcached, send_sent w body⟩

lemma Inv.armViewerBackoff (h : w.Inv) : (w.armViewerBackoff process now).Inv :=
  h.setProcess (fun _ _ => id) fun _ => .inl

lemma Cached.setProcess {state : DeliveryState} (h : w.Cached process payload body)
    (hsame : state.envelopes = (w.processes process).envelopes) :
    (w.setProcess process state).Cached process payload body := by
  intro object hobject
  simpa [SpoolWorld.setProcess, hsame] using h object hobject

lemma Inv.handleViewerFailure (h : w.Inv) (hcached : w.Cached process payload body) :
    (w.handleViewerFailure task process payload body active now).Inv := by
  unfold SpoolWorld.handleViewerFailure
  split
  · exact h.armViewerBackoff.persistForRetry (hcached.setProcess rfl)
  · exact h.persistForRetry hcached

lemma Inv.cachedEnvelope (h : w.Inv) (process : ℕ) (payload : Option ℕ) (built : JsonObject) :
    (w.cachedEnvelope process payload built).2.Inv ∧
      (w.cachedEnvelope process payload built).2.Cached process payload
        (w.cachedEnvelope process payload built).1 := by
  unfold SpoolWorld.cachedEnvelope
  split
  · exact ⟨h, fun _ hobject => by cases hobject⟩
  · rename_i object
    dsimp only
    split
    · rename_i body hbody
      refine ⟨h, ?_⟩
      rintro object' ⟨⟩
      exact hbody
    · rename_i hnone
      refine ⟨h.setProcess ?_ fun _ => .inl, ?_⟩
      · intro object' body hbody
        rcases eq_or_ne object' object with rfl | hne
        · simp [hnone] at hbody
        · simpa [hne] using hbody
      · rintro object' ⟨⟩
        simp [SpoolWorld.setProcess]

lemma Inv.deliverEnvelope (h : w.Inv) (hcached : w.Cached process payload body) :
    (w.deliverEnvelope task process payload body active now).Inv := by
  unfold SpoolWorld.deliverEnvelope
  dsimp only
  split_ifs
  · exact h.persistForRetry hcached
  · exact h.persistForRetry hcached
  · exact h.postToViewer hcached
  · exact h.handleViewerFailure hcached
  · refine h.setTask ?_
    rintro t ⟨⟩
    exact ⟨hcached, trivial⟩

lemma Inv.deliver {sessionID type : Option String} {built : JsonObject} (h : w.Inv) :
    (w.deliver task process sessionID type payload built active now).Inv := by
  unfold SpoolWorld.deliver
  dsimp only
  split_ifs with _ _ hflag
  · exact h
  · exact h
  · cases payload with
    | none => cases hflag
    | some object =>
      obtain ⟨body, hbody, haccepted⟩ := h.enqueued process object hflag
      refine h.deliverReturns (.inl ⟨body, haccepted, ?_⟩)
      simp [hbody]
  · obtain ⟨hinv, hcached⟩ := h.cachedEnvelope process payload built
    exact hinv.deliverEnvelope hcached

lemma Inv.statusAnswers {available : Option Bool} (h : w.Inv) :
    (w.statusAnswers task available active now).Inv := by
  unfold SpoolWorld.statusAnswers
  split
  case h_2 => exact h
  case h_1 process payload body began htask =>
    obtain ⟨hcached, -⟩ := h.tasks _ _ htask
    dsimp only
    split
    · exact h.handleViewerFailure hcached
    · rename_i available
      have hchecked : (w.setProcess process { w.processes process with
          lastStatusAvailable := available, lastStatusCheckAt := began }).Inv :=
        h.setProcess (fun _ _ => id) fun _ => .inl
      split
      · exact hchecked.postToViewer (hcached.setProcess rfl)
      · exact hchecked.handleViewerFailure (hcached.setProcess rfl)

lemma Inv.postAnswers {ok : Bool} (h : w.Inv) : (w.postAnswers task ok active now).Inv := by
  unfold SpoolWorld.postAnswers
  split
  case h_2 => exact h
  case h_1 process payload body request htask =>
    obtain ⟨hcached, hsent⟩ := h.tasks _ _ htask
    dsimp only
    split_ifs with hok haccepted
    · refine Inv.setTask (h.setProcess (fun _ _ => id) fun _ => .inl) ?_
      rintro t ⟨⟩
      exact ⟨hcached.setProcess rfl, request, haccepted, hsent⟩
    · exact h
    · exact h.handleViewerFailure hcached

lemma Inv.removes {ok : Bool} (h : w.Inv) : (w.removes task ok).Inv := by
  unfold SpoolWorld.removes
  split
  case h_2 => exact h
  case h_1 process payload body htask =>
    obtain ⟨hcached, haccepted⟩ := h.tasks _ _ htask
    have hid : w.AcceptedId (requireEventId body) := ⟨body, haccepted, rfl⟩
    have hadv : w.Advances (w.removeEntry (requireEventId body) ok) :=
      advances_removeEntry ok hid
    have hremoved : (w.removeEntry (requireEventId body) ok).Inv := h.removeEntry hid
    dsimp only
    cases payload with
    | none => exact hremoved.deliverReturns (.inl (hid.advance hadv))
    | some object =>
      have hprocesses := (removeEntry_frame w (requireEventId body) ok).2.2
      have hcovered : (w.removeEntry (requireEventId body) ok).Covered body :=
        .inl (hid.advance hadv)
      refine Inv.deliverReturns (hremoved.setProcess ?_ ?_) hcovered
      · intro object' body' hbody
        rwa [hprocesses] at hbody
      · intro object' hflag
        rcases eq_or_ne object' object with rfl | hne
        · exact .inr ⟨body, hcached object' rfl, haccepted.advance hadv⟩
        · left
          rw [hprocesses]
          simpa [hne] using hflag

end Deliver

/-! ### Draining the spool -/

section Drain

variable {task process now : ℕ}

lemma Inv.drainEnds (h : w.Inv) : (w.drainEnds task process).Inv :=
  Inv.setTask (h.setProcess (fun _ _ => id) fun _ => .inl) (by simp)

lemma Inv.drainNext {rest : List SpoolEntry} (h : w.Inv) (hrest : ∀ entry ∈ rest, EntryOk entry) :
    (w.drainNext task process rest).Inv := by
  cases rest with
  | nil => exact h.drainEnds
  | cons entry rest =>
    obtain ⟨hentry, hrest⟩ := List.forall_mem_cons.mp hrest
    refine (h.send entry.envelope).setTask ?_
    rintro t ⟨⟩
    exact ⟨send_sent w entry.envelope, hentry, hrest⟩

lemma Inv.drainSpool (h : w.Inv) : (w.drainSpool task process now).Inv := by
  unfold SpoolWorld.drainSpool
  dsimp only
  split_ifs
  · exact h
  · exact h
  · exact h
  · refine Inv.setTask (h.setProcess (fun _ _ => id) fun _ => .inl) ?_
    rintro t ⟨⟩
    trivial

lemma Inv.drainLists {listing : Option (List SpoolName)} (h : w.Inv) :
    (w.drainLists task listing).Inv := by
  unfold SpoolWorld.drainLists
  split
  case h_2 => exact h
  case h_1 process htask =>
    split
    · exact h.drainEnds
    split
    · refine h.setTask ?_
      rintro t ⟨⟩
      intro entry hentry
      cases hentry
    · exact h

lemma entryOk_of_entryOf {name : SpoolName} {text : JsonText} {entry : SpoolEntry}
    (h : entryOf name text = some entry) : EntryOk entry := by
  unfold entryOf at h
  split at h
  · cases h
  split at h
  · cases h
  · rename_i eventId hid
    split at h
    · obtain rfl := Option.some.inj h
      exact hid
    · cases h

lemma Inv.drainReads {ok : Bool} (h : w.Inv) : (w.drainReads task ok).Inv := by
  unfold SpoolWorld.drainReads
  split
  case h_2 => exact h
  case h_1 process candidates entries htask =>
    have hentries : ∀ entry ∈ entries, EntryOk entry := h.tasks _ _ htask
    dsimp only
    split
    · exact h.drainNext hentries
    split
    · exact h.drainNext hentries
    · rename_i name candidates _
      refine h.setTask ?_
      rintro t ⟨⟩
      intro entry hentry
      rcases List.mem_append.mp hentry with hold | hnew
      · exact hentries entry hold
      · have hfound := Option.mem_toList.mp hnew
        split at hfound
        · obtain ⟨text, -, hentryOf⟩ := Option.bind_eq_some_iff.mp hfound
          exact entryOk_of_entryOf hentryOf
        · cases hfound

lemma Inv.drainPostAnswers {ok refused : Bool} (h : w.Inv) :
    (w.drainPostAnswers task ok refused now).Inv := by
  unfold SpoolWorld.drainPostAnswers
  split
  case h_2 => exact h
  case h_1 process request entry rest htask =>
    obtain ⟨hsent, hentry, hrest⟩ := h.tasks _ _ htask
    split_ifs with hok haccepted
    · refine h.setTask ?_
      rintro t ⟨⟩
      exact ⟨⟨request, haccepted, hsent⟩, hentry, hrest⟩
    · exact h
    · exact h.drainNext hrest
    · exact h.armViewerBackoff.drainEnds

lemma Inv.drainRemoves {ok : Bool} (h : w.Inv) : (w.drainRemoves task ok).Inv := by
  unfold SpoolWorld.drainRemoves
  split
  case h_2 => exact h
  case h_1 process entry rest htask =>
    obtain ⟨haccepted, hentry, hrest⟩ := h.tasks _ _ htask
    exact (h.removeEntry ⟨entry.envelope, haccepted, hentry⟩).drainNext hrest

lemma Inv.crash (h : w.Inv) : (w.crash process).Inv := by
  have hdead : (w.setProcess process { w.processes process with alive := false }).Inv :=
    h.setProcess (fun _ _ => id) fun _ => .inl
  refine hdead.advance (.of_eq rfl rfl rfl rfl) (fun _ => .inl) ?_ (fun _ _ => .inl)
  intro task t ht
  exact .inl (Option.filter_eq_some_iff.mp ht).1

end Drain

/-! ### What a step does to the files -/

section Files

variable {task process now : ℕ} {payload : Option ℕ} {active : Bool}

lemma KeepsFiles.of_eq (h : w'.files = w.files) : w.KeepsFiles w' := fun _ _ hread => .inl (h ▸ hread)

lemma handleViewerFailure_files :
    (w.handleViewerFailure task process payload body active now).files = w.files := by
  unfold handleViewerFailure
  split <;> rfl

lemma drainNext_files {rest : List SpoolEntry} :
    (w.drainNext task process rest).files = w.files := by
  cases rest <;> rfl

lemma deliver_files {sessionID type : Option String} {built : JsonObject} :
    (w.deliver task process sessionID type payload built active now).files = w.files := by
  have hcached : (w.cachedEnvelope process payload built).2.files = w.files := by
    unfold cachedEnvelope
    split
    · rfl
    · dsimp only
      split <;> rfl
  have henvelope : ∀ (v : SpoolWorld) (body : JsonObject),
      (v.deliverEnvelope task process payload body active now).files = v.files := by
    intro v body
    unfold deliverEnvelope
    dsimp only
    split_ifs
    · rfl
    · rfl
    · rfl
    · exact handleViewerFailure_files
    · rfl
  unfold SpoolWorld.deliver
  dsimp only
  split_ifs
  · rfl
  · rfl
  · rfl
  · rw [henvelope, hcached]

lemma keepsFiles_writes {outcome : FileOutcome} (h : w.Inv) :
    w.KeepsFiles (w.writes task outcome) := by
  unfold SpoolWorld.writes
  split
  case h_2 => exact .of_eq rfl
  case h_1 process payload body stage htask =>
    obtain ⟨-, hstage⟩ := h.tasks _ _ htask
    obtain ⟨hfiles, -⟩ :=
      writeStep_spec (w.processes process).options.spoolMaxEntries outcome hstage
    dsimp only at hfiles ⊢
    generalize writeStep w.files (w.processes process).options.spoolMaxEntries body outcome stage =
      step at hfiles ⊢
    obtain ⟨files, result⟩ := step
    have hkeeps : w.KeepsFiles { w with files := files } := by
      refine (advances_link ?_).files
      exact hfiles.imp_right fun ⟨eventId, hfree, heq⟩ => ⟨eventId, _, hfree, heq⟩
    cases result with
    | next stage => exact hkeeps
    | saved => exact hkeeps
    | failed => exact hkeeps

lemma keepsFiles_removes {ok : Bool} (h : w.Inv) : w.KeepsFiles (w.removes task ok) := by
  unfold SpoolWorld.removes
  split
  case h_2 => exact .of_eq rfl
  case h_1 process payload body htask =>
    obtain ⟨-, haccepted⟩ := h.tasks _ _ htask
    have hkeeps := (advances_removeEntry ok ⟨body, haccepted, rfl⟩).files
    cases payload with
    | none => exact hkeeps
    | some object => exact hkeeps

lemma keepsFiles_drainRemoves {ok : Bool} (h : w.Inv) : w.KeepsFiles (w.drainRemoves task ok) := by
  unfold SpoolWorld.drainRemoves
  split
  case h_2 => exact .of_eq rfl
  case h_1 process entry rest htask =>
    obtain ⟨haccepted, hentry, -⟩ := h.tasks _ _ htask
    have hkeeps := (advances_removeEntry ok ⟨entry.envelope, haccepted, hentry⟩).files
    intro name text hread
    rw [drainNext_files]
    exact hkeeps name text hread

/-- Every action keeps the published files, up to removals of accepted event ids. -/
lemma keepsFiles_step (h : w.Inv) (action : SpoolAction) : w.KeepsFiles (w.step action) := by
  cases action with
  | deliver task process sessionID type payload built active now => exact .of_eq deliver_files
  | statusAnswers task available active now =>
    refine .of_eq ?_
    change (w.statusAnswers task available active now).files = w.files
    unfold statusAnswers
    split
    · dsimp only
      split
      · exact handleViewerFailure_files
      split
      · rfl
      · exact handleViewerFailure_files
    · rfl
  | viewerAccepts request =>
    refine .of_eq ?_
    change (w.viewerAccepts request).files = w.files
    unfold viewerAccepts
    split <;> rfl
  | postAnswers task ok active now =>
    refine .of_eq ?_
    change (w.postAnswers task ok active now).files = w.files
    unfold postAnswers
    split
    · dsimp only
      split_ifs
      · rfl
      · rfl
      · exact handleViewerFailure_files
    · rfl
  | removes task ok => exact keepsFiles_removes h
  | writes task outcome => exact keepsFiles_writes h
  | drainSpool task process now =>
    refine .of_eq ?_
    change (w.drainSpool task process now).files = w.files
    unfold drainSpool
    dsimp only
    split_ifs <;> rfl
  | drainLists task listing =>
    refine .of_eq ?_
    change (w.drainLists task listing).files = w.files
    unfold drainLists
    split
    · split
      · rfl
      split <;> rfl
    · rfl
  | drainReads task ok =>
    refine .of_eq ?_
    change (w.drainReads task ok).files = w.files
    unfold drainReads
    split
    · dsimp only
      split
      · exact drainNext_files
      split
      · exact drainNext_files
      · rfl
    · rfl
  | drainPostAnswers task ok refused now =>
    refine .of_eq ?_
    change (w.drainPostAnswers task ok refused now).files = w.files
    unfold drainPostAnswers
    split
    · split_ifs
      · rfl
      · rfl
      · exact drainNext_files
      · rfl
    · rfl
  | drainRemoves task ok => exact keepsFiles_drainRemoves h
  | crash process => exact .of_eq rfl

end Files

/-! ### Runs -/

lemma inv_start (files : SpoolFiles) (options : ℕ → DeliveryOptions) :
    (start files options).Inv where
  returned _ h := by cases h
  tasks _ _ h := by cases h
  enqueued _ _ h := by cases h

lemma Inv.step (h : w.Inv) (action : SpoolAction) : (w.step action).Inv := by
  cases action with
  | deliver task process sessionID type payload built active now => exact h.deliver
  | statusAnswers task available active now => exact h.statusAnswers
  | viewerAccepts request =>
    change (w.viewerAccepts request).Inv
    unfold viewerAccepts
    split
    · refine h.advance ?_ (fun _ => .inl) (fun _ _ => .inl) (fun _ _ => .inl)
      exact { Advances.refl w with accepted := fun _ => List.mem_cons_of_mem request }
    · exact h
  | postAnswers task ok active now => exact h.postAnswers
  | removes task ok => exact h.removes
  | writes task outcome => exact h.writes
  | drainSpool task process now => exact h.drainSpool
  | drainLists task listing => exact h.drainLists
  | drainReads task ok => exact h.drainReads
  | drainPostAnswers task ok refused now => exact h.drainPostAnswers
  | drainRemoves task ok => exact h.drainRemoves
  | crash process => exact h.crash

/-- In every run from a spool with any files: every envelope for which `deliver` has returned true is
covered in every state from then on, and in every step a published file keeps its content or is
removed with an accepted event id. -/
theorem captured_events_kept (files : SpoolFiles) (options : ℕ → DeliveryOptions)
    (actions : List SpoolAction) :
    (∀ w ∈ visited step (start files options) actions, ∀ body ∈ w.returned, w.Covered body) ∧
      StepsMeet step (fun w action => w.KeepsFiles (w.step action)) (start files options)
        actions := by
  have hsteps : StepsMeet step (fun _ _ => True) (start files options) actions :=
    stepsMeet_of_forall fun _ _ _ => trivial
  have hinv : ∀ w ∈ visited step (start files options) actions, w.Inv :=
    hsteps.always (inv_start files options) fun _ action _ h => h.step action
  refine ⟨fun w hw => (hinv w hw).returned, ?_⟩
  refine (hsteps.and_always (inv_start files options) fun _ action _ h => h.step action).imp ?_
  rintro w action ⟨-, h⟩
  exact keepsFiles_step h action

/-- The `event_id` of an envelope as it stands. -/
def rawEventId (envelope : JsonObject) : Option String :=
  (JsonObject.get envelope "event_id").bind Json.asText

def sampleEnvelope (eventId : String) : JsonObject :=
  [("event_id", .str eventId), ("event_type", .str "message")]

def sampleOptions : DeliveryOptions := ⟨true, 1000, 1000, 2000, 20⟩

/-- One process saves event `e` after the status request failed, another then delivers event ` e`. -/
def sharedFileRun : List SpoolAction :=
  [.deliver 0 0 (some "s") (some "message") (some 0) (sampleEnvelope "e") true 5000,
    .statusAnswers 0 none true 5001,
    .writes 0 .done, .writes 0 .done, .writes 0 .done, .writes 0 .done, .writes 0 .done,
    .writes 0 .done,
    .deliver 1 1 (some "s") (some "message") (some 0) (sampleEnvelope " e") true 6000,
    .statusAnswers 1 (some true) true 6001,
    .viewerAccepts 0, .postAnswers 1 true true 6002, .removes 1 true]

/-- The ids ` e` and `e` are distinct and not blank, but name one file: accepting the event ` e`
removes the saved event `e`, which the viewer never got. -/
theorem captured_event_lost :
    rawEventId (sampleEnvelope "e") ≠ rawEventId (sampleEnvelope " e") ∧
      ¬ ∀ w ∈ visited step (start [] fun _ => sampleOptions) sharedFileRun,
        ∀ body ∈ w.returned,
          (∃ accepted, w.Accepted accepted ∧ rawEventId accepted = rawEventId body) ∨
            w.Spooled body := by
  refine ⟨by decide +kernel, fun hall => ?_⟩
  have hlast := hall _ (foldl_mem_visited step _ _) (sampleEnvelope "e") (.tail _ (.head _))
  have hsent : (sharedFileRun.foldl step (start [] fun _ => sampleOptions)).sent =
      [sampleEnvelope " e"] := rfl
  have hfile : (sharedFileRun.foldl step (start [] fun _ => sampleOptions)).files = [] := rfl
  rcases hlast with ⟨accepted, ⟨request, -, hrequest⟩, hid⟩ | ⟨eventId, -, text, hread, -⟩
  · have hmem := List.mem_of_getElem? hrequest
    rw [hsent, List.mem_singleton] at hmem
    subst hmem
    exact absurd hid (by decide +kernel)
  · rw [hfile] at hread
    cases hread

end SpoolWorld

end Codemem

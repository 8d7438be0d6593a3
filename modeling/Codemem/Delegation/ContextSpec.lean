import Codemem.Delegation.Context

/-!
# A brief is credited once

An object of the table keeps its key and its task call for good, and its message once it has one.
So a second message for a call needs a second object with its key, and a second call for a message
needs a lookup that no longer reserves the first.  A run that meets neither credits each call with
one message and each message to one call.
-/

namespace Codemem

/-! ### What is promised -/

/-- One message for a call, and one call for a message. -/
def CreditsAgree (yielded : List YieldedCredit) : Prop :=
  ∀ y ∈ yielded, ∀ y' ∈ yielded,
    (y.credit.parentSessionId = y'.credit.parentSessionId ∧
      y.credit.taskCallId = y'.credit.taskCallId) ↔ y.credit.messageId = y'.credit.messageId

/-- A running event of a task call was observed. -/
def WasObserved (actions : List DelegationAction) (task : Delegation) : Prop :=
  ∃ clock part, .observe clock (.partUpdated part) ∈ actions ∧ part.status = some "running" ∧
    validId part.sessionID = some task.parent ∧ validId part.callID = some task.call ∧
    validId part.childSessionID = some task.child ∧ validId part.subagentType = some task.agent ∧
    normalizedPromptText part.prompt = some task.brief

/-- A binding was open in the objects of an earlier time. -/
def WasOpen (objects : List DelegationBinding) (i : ℕ) (task : Delegation) : Prop :=
  ∃ binding, objects[i]? = some binding ∧ binding.closed = false ∧ binding.delegation = some task

/-- A credit is to a call that was observed with its child, agent and brief, was open at each
`resolve` that gets the credit, and was not ambiguous when it was matched. -/
structure CreditOk (actions : List DelegationAction) (y : YieldedCredit) (task : Delegation) :
    Prop where
  observed : WasObserved actions task
  parent : y.credit.parentSessionId = task.parent
  call : y.credit.taskCallId = task.call
  child : y.credit.childSessionId = task.child
  requested : y.credit.requestedAgent = task.agent
  current : y.credit.currentAgent = task.agent
  brief : y.text = task.brief
  requests : y.admissions ≠ []
  admitted : ∀ objects ∈ y.admissions, WasOpen objects y.binding task
  matched : y.matched.delegation = some task ∧ y.matched.ambiguous = false

/-! ### What a run must not meet -/

/-- A running event binds no call whose binding was dropped. -/
def BindsOnce (options : DelegationOptions) (s : DelegationState) (clock : ℕ → ℚ)
    (part : TaskPart) : Prop :=
  ∀ sessionID callID task, validId part.sessionID = some sessionID →
    validId part.callID = some callID → part.status = some "running" →
    readTask options part sessionID callID = some task →
    (s.prune clock).find (sessionID, callID) = none →
    isFreshStart options (clockAfterPrune s clock 0) task.startedAt = true →
      ∀ binding ∈ s.objects, binding.key = (sessionID, callID) → binding.delegation = none

/-- A `resolve` shares a lookup only while all its bindings are open. -/
def SharesOpen (s : DelegationState) (prompt : ResolvePrompt) : Prop :=
  ∀ sessionID messageID, validId prompt.sessionID = some sessionID →
    validId prompt.messageID = some messageID → ∀ lookup ∈ s.activeLookups,
      lookup.isFor sessionID messageID = true → ∀ i ∈ lookup.candidates, ∀ binding,
        s.objects[i]? = some binding → binding.closed = false

/-- A message that was credited is matched again only while the binding that it was credited to is
reserved and fits the answer. -/
def RematchesCredited (s : DelegationState) (sessionID messageID : String)
    (answer : SnapshotAnswer) : Prop :=
  ∀ lookup, s.activeLookups.find? (fun lookup => lookup.isFor sessionID messageID) = some lookup →
    ∀ read, readSnapshot lookup answer = some read → ∀ y ∈ s.yielded,
      y.credit.messageId = messageID →
        y.binding ∈ lookup.candidates ∧ s.holdsAt y.binding (fits lookup read) = true

/-- The condition on a step. -/
def DelegationMeets (options : DelegationOptions) (s : DelegationState) :
    DelegationAction → Prop
  | .observe clock (.partUpdated part) => BindsOnce options s clock part
  | .resolve _ prompt => SharesOpen s prompt
  | .settle _ sessionID messageID answer => RematchesCredited s sessionID messageID answer
  | _ => True

/-! ### The invariant -/

/-- An object after a step: its key and its call stay, and its message once it has one. -/
structure SameBinding (binding binding' : DelegationBinding) : Prop where
  key : binding'.key = binding.key
  delegation : binding'.delegation = binding.delegation
  messageID : ∀ id, binding.messageID = some id → binding'.messageID = some id

/-- The objects stay at their places. -/
def KeepsObjects (objects objects' : List DelegationBinding) : Prop :=
  ∀ (i : ℕ) binding, objects[i]? = some binding →
    ∃ binding', objects'[i]? = some binding' ∧ SameBinding binding binding'

/-- The objects after a step that makes none. -/
structure SameObjects (objects objects' : List DelegationBinding) : Prop where
  forth : KeepsObjects objects objects'
  back : ∀ (i : ℕ) binding', objects'[i]? = some binding' →
    ∃ binding, objects[i]? = some binding ∧ SameBinding binding binding'

/-- A lookup reserves bindings that were open at each `resolve` that it serves. -/
structure LookupOk (objects : List DelegationBinding) (lookup : ActiveLookup) : Prop where
  requests : lookup.admissions ≠ []
  admitted : ∀ i ∈ lookup.candidates, ∃ binding task, objects[i]? = some binding ∧
    binding.delegation = some task ∧ ∀ earlier ∈ lookup.admissions, WasOpen earlier i task

/-- A credit is to a binding that keeps its message. -/
def CreditHeld (actions : List DelegationAction) (objects : List DelegationBinding)
    (y : YieldedCredit) : Prop :=
  ∃ binding task, objects[y.binding]? = some binding ∧ binding.delegation = some task ∧
    binding.messageID = some y.credit.messageId ∧ CreditOk actions y task

/-- What holds in every state of a run. -/
structure DelegationInvariant (actions : List DelegationAction) (s : DelegationState) : Prop where
  keyed : ∀ (i : ℕ) binding task, s.objects[i]? = some binding → binding.delegation = some task →
    binding.key = (task.parent, task.call) ∧ WasObserved actions task
  distinct : ∀ (i j : ℕ) binding binding', s.objects[i]? = some binding →
    s.objects[j]? = some binding' → binding.delegation.isSome = true →
      binding'.delegation.isSome = true → binding.key = binding'.key → i = j
  lookups : ∀ lookup ∈ s.activeLookups, LookupOk s.objects lookup
  credits : ∀ y ∈ s.yielded, CreditHeld actions s.objects y
  agree : CreditsAgree s.yielded
  bindings_le : s.bindings.length ≤ MAX_BINDINGS
  lookups_le : s.activeLookups.length ≤ MAX_BINDINGS

section Frames

variable {options : DelegationOptions} {actions : List DelegationAction} {s s' : DelegationState}
  {objects objects' : List DelegationBinding}

lemma SameBinding.refl (binding : DelegationBinding) : SameBinding binding binding :=
  ⟨rfl, rfl, fun _ h => h⟩

lemma SameObjects.refl (objects : List DelegationBinding) : SameObjects objects objects :=
  ⟨fun _ binding h => ⟨binding, h, .refl binding⟩, fun _ binding h => ⟨binding, h, .refl binding⟩⟩

lemma sameObjects_mapIdx {f : ℕ → DelegationBinding → DelegationBinding}
    (hf : ∀ (i : ℕ) binding, objects[i]? = some binding → SameBinding binding (f i binding)) :
    SameObjects objects (objects.mapIdx f) := by
  refine ⟨fun i binding hi => ⟨f i binding, by rw [List.getElem?_mapIdx, hi]; rfl, hf i binding hi⟩,
    fun i binding' hi => ?_⟩
  rw [List.getElem?_mapIdx, Option.map_eq_some_iff] at hi
  obtain ⟨binding, hbinding, rfl⟩ := hi
  exact ⟨binding, hbinding, hf i binding hbinding⟩

lemma LookupOk.frame {lookup : ActiveLookup} (h : LookupOk objects lookup)
    (hforth : KeepsObjects objects objects') :
    LookupOk objects' lookup := by
  refine ⟨h.requests, fun i hi => ?_⟩
  obtain ⟨binding, task, hbinding, htask, hopen⟩ := h.admitted i hi
  obtain ⟨binding', hbinding', hsame⟩ := hforth i binding hbinding
  exact ⟨binding', task, hbinding', hsame.delegation.trans htask, hopen⟩

lemma CreditHeld.frame {y : YieldedCredit} (h : CreditHeld actions objects y)
    (hforth : KeepsObjects objects objects') :
    CreditHeld actions objects' y := by
  obtain ⟨binding, task, hbinding, htask, hmessage, hok⟩ := h
  obtain ⟨binding', hbinding', hsame⟩ := hforth _ binding hbinding
  exact ⟨binding', task, hbinding', hsame.delegation.trans htask, hsame.messageID _ hmessage, hok⟩

lemma DelegationInvariant.frame (h : DelegationInvariant actions s)
    (hobjects : SameObjects s.objects s'.objects) (hyielded : s'.yielded = s.yielded)
    (hlookups : s'.activeLookups.Sublist s.activeLookups)
    (hbindings : s'.bindings.length ≤ s.bindings.length) : DelegationInvariant actions s' where
  keyed i binding' task hbinding' htask := by
    obtain ⟨binding, hbinding, hsame⟩ := hobjects.back i binding' hbinding'
    rw [hsame.key]
    exact h.keyed i binding task hbinding (hsame.delegation.symm.trans htask)
  distinct i j binding binding' hi hj hsome hsome' hkey := by
    obtain ⟨old, hold, hsame⟩ := hobjects.back i binding hi
    obtain ⟨old', hold', hsame'⟩ := hobjects.back j binding' hj
    rw [hsame.delegation] at hsome
    rw [hsame'.delegation] at hsome'
    exact h.distinct i j old old' hold hold' hsome hsome'
      (hsame.key.symm.trans (hkey.trans hsame'.key))
  lookups lookup hlookup := (h.lookups lookup (hlookups.subset hlookup)).frame hobjects.forth
  credits y hy := (h.credits y (hyielded ▸ hy)).frame hobjects.forth
  agree := hyielded ▸ h.agree
  bindings_le := hbindings.trans h.bindings_le
  lookups_le := hlookups.length_le.trans h.lookups_le

lemma length_prune_le (clock : ℕ → ℚ) (s : DelegationState) :
    (s.prune clock).bindings.length ≤ s.bindings.length := by
  unfold DelegationState.prune
  rw [List.length_map]
  exact (List.length_filter_le _ _).trans_eq List.length_zipIdx

lemma DelegationInvariant.prune (h : DelegationInvariant actions s) (clock : ℕ → ℚ) :
    DelegationInvariant actions (s.prune clock) :=
  h.frame (.refl _) rfl (.refl _) (length_prune_le clock s)

lemma DelegationInvariant.change (h : DelegationInvariant actions s)
    {f : ℕ → DelegationBinding → DelegationBinding}
    (hf : ∀ i binding, SameBinding binding (f i binding)) :
    DelegationInvariant actions (s.change f) :=
  h.frame (sameObjects_mapIdx fun i binding _ => hf i binding) rfl (.refl _) le_rfl

lemma DelegationInvariant.finish (h : DelegationInvariant actions s)
    (sessionID messageID : String) : DelegationInvariant actions (s.finish sessionID messageID) :=
  h.frame (.refl _) rfl List.filter_sublist le_rfl

lemma sameBinding_changeAt {f : DelegationBinding → DelegationBinding}
    (hf : ∀ binding, SameBinding binding (f binding)) (place i : ℕ) (binding : DelegationBinding) :
    SameBinding binding (changeAt place f i binding) := by
  unfold changeAt
  split_ifs
  · exact hf binding
  · exact .refl binding

lemma DelegationInvariant.bind (h : DelegationInvariant actions s) {new : DelegationBinding}
    (hroom : s.bindings.length < MAX_BINDINGS)
    (hkeyed : ∀ task, new.delegation = some task →
      new.key = (task.parent, task.call) ∧ WasObserved actions task)
    (hfresh : new.delegation.isSome = true → ∀ binding ∈ s.objects, binding.key = new.key →
      binding.delegation = none) : DelegationInvariant actions (s.bind new) := by
  have hforth : KeepsObjects s.objects (s.objects ++ [new]) :=
    fun i binding hi => ⟨binding, by
      rw [List.getElem?_append_left (List.getElem?_eq_some_iff.mp hi).1]
      exact hi, .refl binding⟩
  have hcases : ∀ (i : ℕ) binding, (s.objects ++ [new])[i]? = some binding →
      s.objects[i]? = some binding ∨ i = s.objects.length ∧ binding = new := by
    intro i binding hi
    rcases lt_trichotomy i s.objects.length with hlt | heq | hgt
    · rw [List.getElem?_append_left hlt] at hi
      exact .inl hi
    · subst heq
      rw [List.getElem?_append_right le_rfl, Nat.sub_self] at hi
      exact .inr ⟨rfl, (Option.some_inj.mp hi).symm⟩
    · rw [List.getElem?_eq_none (by simpa using hgt)] at hi
      cases hi
  refine ⟨fun i binding task hi htask => ?_, fun i j binding binding' hi hj hsome hsome' hkey => ?_,
    fun lookup hlookup => (h.lookups lookup hlookup).frame hforth,
    fun y hy => (h.credits y hy).frame hforth, h.agree, ?_, h.lookups_le⟩
  · rcases hcases i binding hi with hold | ⟨-, rfl⟩
    · exact h.keyed i binding task hold htask
    · exact hkeyed task htask
  · rcases hcases i binding hi with hold | ⟨rfl, rfl⟩ <;>
      rcases hcases j binding' hj with hold' | ⟨rfl, rfl⟩
    · exact h.distinct i j binding binding' hold hold' hsome hsome' hkey
    · rw [hfresh hsome' binding (List.mem_of_getElem? hold) hkey] at hsome
      cases hsome
    · rw [hfresh hsome binding' (List.mem_of_getElem? hold') hkey.symm] at hsome'
      cases hsome'
    · rfl
  · unfold DelegationState.bind
    rw [List.length_append, List.length_singleton]
    exact hroom

/-! ### The steps -/

lemma of_readTask {part : TaskPart} {sessionID callID : String} {task : Delegation}
    (h : readTask options part sessionID callID = some task) :
    task.parent = sessionID ∧ task.call = callID ∧
      validId part.childSessionID = some task.child ∧
      validId part.subagentType = some task.agent ∧
      normalizedPromptText part.prompt = some task.brief := by
  unfold readTask at h
  split at h
  · rename_i child agent brief _ start hchild hagent hbrief _ _
    split_ifs at h
    obtain rfl := Option.some_inj.mp h
    exact ⟨rfl, rfl, hchild, hagent, hbrief⟩
  · cases h

lemma sameBinding_close (binding : DelegationBinding) :
    SameBinding binding { binding with closed := true } := ⟨rfl, rfl, fun _ h => h⟩

lemma sameBinding_ambiguous (binding : DelegationBinding) :
    SameBinding binding { binding with ambiguous := true } := ⟨rfl, rfl, fun _ h => h⟩

/-- A task part of a call keeps the invariant. -/
lemma DelegationInvariant.observeTask (h : DelegationInvariant actions s) {clock : ℕ → ℚ}
    {part : TaskPart} {sessionID callID : String}
    (hobserved : ∀ task, part.status = some "running" →
      readTask options part sessionID callID = some task → WasObserved actions task)
    (honce : ∀ task, part.status = some "running" →
      readTask options part sessionID callID = some task → s.find (sessionID, callID) = none →
      isFreshStart options (clock 0) task.startedAt = true →
        ∀ binding ∈ s.objects, binding.key = (sessionID, callID) → binding.delegation = none) :
    DelegationInvariant actions (Codemem.observeTask options clock part sessionID callID s) := by
  unfold Codemem.observeTask
  extract_lets key
  by_cases hover : part.status = some "completed" ∨ part.status = some "error"
  · rw [if_pos hover]
    cases s.find key with
    | some previous => exact h.change (sameBinding_changeAt sameBinding_close previous)
    | none =>
      dsimp only
      split_ifs with hroom
      · exact h.bind hroom (fun task htask => by cases htask) (fun hsome => by cases hsome)
      · exact h
  rw [if_neg hover]
  by_cases hrunning : part.status = some "running"
  swap
  · rw [if_pos hrunning]
    exact h
  rw [if_neg (not_not.mpr hrunning)]
  cases htask : readTask options part sessionID callID with
  | none =>
    cases s.find key with
    | none => exact h
    | some previous => exact h.change (sameBinding_changeAt sameBinding_ambiguous previous)
  | some task =>
    cases hfind : s.find key with
    | some previous =>
      refine h.change (sameBinding_changeAt (fun binding => ?_) previous)
      split_ifs
      · exact .refl binding
      · exact sameBinding_ambiguous binding
    | none =>
      dsimp only
      split_ifs with hstale
      · exact h
      · obtain ⟨hroom, hfresh⟩ := not_or.mp hstale
        have hread := of_readTask htask
        refine h.bind (Nat.lt_of_not_le hroom) (fun new hnew => ?_) (fun _ => ?_)
        · obtain rfl := Option.some_inj.mp hnew
          exact ⟨by rw [hread.1, hread.2.1], hobserved task hrunning htask⟩
        · exact honce task hrunning htask hfind (by simpa using hfresh)

lemma DelegationInvariant.observe (h : DelegationInvariant actions s) {clock : ℕ → ℚ}
    {event : HostEvent} (hmem : .observe clock event ∈ actions)
    (hmeets : DelegationMeets options s (.observe clock event)) :
    DelegationInvariant actions (Codemem.observe options clock event s) := by
  unfold Codemem.observe
  split_ifs
  · exact h
  cases event with
  | sessionDeleted id =>
    refine (h.prune clock).change fun i binding => ?_
    split_ifs
    · exact sameBinding_close binding
    · exact .refl binding
  | other => exact h.prune clock
  | partUpdated part =>
    dsimp only
    split
    · rename_i callID sessionID hcall hsession
      split_ifs
      · refine (h.prune clock).observeTask (fun task hrunning htask => ?_)
          (fun task hrunning htask => hmeets sessionID callID task hsession hcall hrunning htask)
        obtain ⟨rfl, rfl, hchild, hagent, hbrief⟩ := of_readTask htask
        exact ⟨clock, part, hmem, hrunning, hsession, hcall, hchild, hagent, hbrief⟩
      · exact h.prune clock
    · exact h.prune clock

lemma DelegationInvariant.observePrompt (h : DelegationInvariant actions s) (clock : ℕ → ℚ)
    (input : ChatInput) (output : PromptDraft) :
    DelegationInvariant actions (Codemem.observePrompt options clock input output s) := by
  unfold Codemem.observePrompt
  by_cases hdisposed : s.disposed = true
  · rw [if_pos hdisposed]
    exact h
  rw [if_neg hdisposed]
  extract_lets info
  split
  · rename_i id created agent _ _ _
    split
    · exact h.prune clock
    refine (h.prune clock).change fun i binding => ?_
    cases htask : binding.delegation with
    | none => exact .refl binding
    | some task =>
      dsimp only
      by_cases hkeep : i ∉ (s.prune clock).bindings ∨ binding.closed = true ∨
          some task.child ≠ info.sessionID ∨ task.agent ≠ agent ∨ created < task.startedAt ∨
          binding.messageID.isSome = true
      · rw [if_pos hkeep]
        exact .refl binding
      rw [if_neg hkeep]
      have hfree : binding.messageID = none := by
        simp only [not_or, Option.not_isSome_iff_eq_none] at hkeep
        exact hkeep.2.2.2.2.2
      have hunset : ∀ known, binding.messageID = some known → False := fun known hknown => by
        rw [hfree] at hknown
        cases hknown
      split_ifs
      · exact ⟨rfl, htask.symm, fun known hknown => (hunset known hknown).elim⟩
      · exact .refl binding
      · exact ⟨rfl, htask.symm, fun known hknown => (hunset known hknown).elim⟩
  · exact h.prune clock

lemma DelegationInvariant.lookups_frame (h : DelegationInvariant actions s)
    {lookups : List ActiveLookup} (hlookups : ∀ lookup ∈ lookups, LookupOk s.objects lookup)
    (hlength : lookups.length ≤ MAX_BINDINGS) :
    DelegationInvariant actions { s with activeLookups := lookups } :=
  { h with lookups := hlookups, lookups_le := hlength }

lemma of_mem_reservedCandidates {sessionID messageID : String} {i : ℕ}
    (h : i ∈ reservedCandidates options s sessionID messageID) :
    ∃ binding task, s.objects[i]? = some binding ∧ binding.delegation = some task ∧
      WasOpen s.objects i task := by
  have hholds := (List.mem_filter.mp h).2
  unfold DelegationState.holdsAt at hholds
  obtain ⟨binding, hbinding, htest⟩ := (Option.any_eq_true _ _).mp hholds
  simp only [Bool.and_eq_true, beq_iff_eq, Bool.not_eq_true'] at htest
  obtain ⟨⟨hchild, hopen⟩, -⟩ := htest
  obtain ⟨task, htask, -⟩ := Option.map_eq_some_iff.mp hchild
  exact ⟨binding, task, hbinding, htask, binding, hbinding, hopen, htask⟩

/-- `resolve` keeps the invariant. -/
lemma DelegationInvariant.resolve (h : DelegationInvariant actions s) {clock : ℕ → ℚ}
    {prompt : ResolvePrompt} (hmeets : SharesOpen s prompt) :
    DelegationInvariant actions (Codemem.resolve options clock prompt s) := by
  unfold Codemem.resolve
  split
  · rename_i sessionID messageID text hsession hmessage _
    split_ifs
    · exact h
    extract_lets pruned candidates
    have hpruned : DelegationInvariant actions pruned := h.prune clock
    split
    · exact hpruned
    split
    · split_ifs
      · refine hpruned.lookups_frame (fun lookup hlookup => ?_) ?_
        · obtain ⟨old, hold, rfl⟩ := List.mem_map.mp hlookup
          have hok := hpruned.lookups old hold
          split_ifs with hfor
          · refine ⟨by simp, fun i hi => ?_⟩
            obtain ⟨binding, task, hbinding, htask, hopen⟩ := hok.admitted i hi
            refine ⟨binding, task, hbinding, htask, fun earlier hearlier => ?_⟩
            rcases List.mem_append.mp hearlier with hmem | hlast
            · exact hopen earlier hmem
            · rw [List.mem_singleton.mp hlast]
              exact ⟨binding, hbinding, hmeets sessionID messageID hsession hmessage old hold hfor
                i hi binding hbinding, htask⟩
          · exact hok
        · rw [List.length_map]
          exact hpruned.lookups_le
      · exact hpruned
    · split_ifs with hfull
      · exact hpruned
      · refine hpruned.lookups_frame (fun lookup hlookup => ?_) ?_
        · rcases List.mem_append.mp hlookup with hold | hnew
          · exact hpruned.lookups lookup hold
          · rw [List.mem_singleton.mp hnew]
            refine ⟨by simp, fun i hi => ?_⟩
            obtain ⟨binding, task, hbinding, htask, hopen⟩ := of_mem_reservedCandidates hi
            exact ⟨binding, task, hbinding, htask, fun earlier hearlier => by
              rw [List.mem_singleton.mp hearlier]
              exact hopen⟩
        · rw [List.length_append, List.length_singleton]
          exact (Nat.lt_of_not_le hfull).trans_le hpruned.bindings_le
  · exact h

lemma holdsAt_eq_true {i : ℕ} {test : DelegationBinding → Bool} (h : s.holdsAt i test = true) :
    ∃ binding, s.objects[i]? = some binding ∧ test binding = true :=
  (Option.any_eq_true _ _).mp h

lemma of_fits {lookup : ActiveLookup} {read : SnapshotRead} {binding : DelegationBinding}
    {task : Delegation} (h : fits lookup read binding = true)
    (htask : binding.delegation = some task) :
    task.child = lookup.sessionID ∧ task.agent = read.agent ∧ task.brief = lookup.text := by
  unfold fits at h
  rw [htask, Option.any_some] at h
  simp only [Bool.and_eq_true, beq_iff_eq] at h
  exact ⟨h.1.1.1.1, h.1.1.2, h.1.2⟩

lemma creditsAgree_append {yielded : List YieldedCredit} {new : YieldedCredit}
    (h : CreditsAgree yielded)
    (hnew : ∀ y ∈ yielded, (y.credit.parentSessionId = new.credit.parentSessionId ∧
      y.credit.taskCallId = new.credit.taskCallId) ↔
        y.credit.messageId = new.credit.messageId) : CreditsAgree (yielded ++ [new]) := by
  intro y hy y' hy'
  rcases List.mem_append.mp hy with hold | hlast <;>
    rcases List.mem_append.mp hy' with hold' | hlast'
  · exact h y hold y' hold'
  · rw [List.mem_singleton.mp hlast']
    exact hnew y hold
  · rw [List.mem_singleton.mp hlast, eq_comm, @eq_comm _ _ y'.credit.taskCallId,
      @eq_comm _ _ y'.credit.messageId]
    exact hnew y' hold'
  · rw [List.mem_singleton.mp hlast, List.mem_singleton.mp hlast']
    exact iff_of_true ⟨rfl, rfl⟩ rfl

/-- A credit keeps the invariant, when its message was credited to no other binding. -/
lemma DelegationInvariant.credit (h : DelegationInvariant actions s) {lookup : ActiveLookup}
    {read : SnapshotRead} {place : ℕ} {binding : DelegationBinding} {task : Delegation}
    (hlookup : LookupOk s.objects lookup) (hcandidate : place ∈ lookup.candidates)
    (hbinding : s.objects[place]? = some binding) (htask : binding.delegation = some task)
    (hclear : binding.ambiguous = false)
    (hfree : ∀ known, binding.messageID = some known → known = lookup.messageID)
    (hfits : fits lookup read binding = true)
    (honly : ∀ y ∈ s.yielded, y.credit.messageId = lookup.messageID → y.binding = place) :
    DelegationInvariant actions
      { s.change (changeAt place fun binding =>
          { binding with messageID := some lookup.messageID }) with
        yielded := s.yielded ++ [⟨place, lookup.text, binding, lookup.admissions,
          creditOf options lookup read task⟩] } := by
  have hsame : ∀ (i : ℕ) old, s.objects[i]? = some old → SameBinding old (changeAt place
      (fun binding => { binding with messageID := some lookup.messageID }) i old) := by
    intro i old hold
    unfold changeAt
    split_ifs with hplace
    · subst hplace
      obtain rfl := Option.some_inj.mp (hbinding.symm.trans hold)
      exact ⟨rfl, rfl, fun known hknown => by rw [hfree known hknown]⟩
    · exact .refl old
  have hchanged : DelegationInvariant actions (s.change (changeAt place fun binding =>
      { binding with messageID := some lookup.messageID })) :=
    h.frame (sameObjects_mapIdx hsame) rfl (.refl _) le_rfl
  obtain ⟨hchild, hagent, hbrief⟩ := of_fits hfits htask
  have hkey := h.keyed place binding task hbinding htask
  have hok : CreditOk actions ⟨place, lookup.text, binding, lookup.admissions,
      creditOf options lookup read task⟩ task := by
    obtain ⟨binding', task', hbinding', htask', hopen⟩ := hlookup.admitted place hcandidate
    obtain rfl := Option.some_inj.mp (hbinding.symm.trans hbinding')
    obtain rfl := Option.some_inj.mp (htask.symm.trans htask')
    exact ⟨hkey.2, rfl, rfl, hchild.symm, rfl, hagent.symm, hbrief.symm, hlookup.requests, hopen,
      htask, hclear⟩
  refine { hchanged with credits := fun y hy => ?_, agree := creditsAgree_append h.agree ?_ }
  · rcases List.mem_append.mp hy with hold | hnew
    · exact hchanged.credits y hold
    · rw [List.mem_singleton.mp hnew]
      refine ⟨{ binding with messageID := some lookup.messageID }, task, ?_, htask, rfl, hok⟩
      simp [DelegationState.change, List.getElem?_mapIdx, hbinding, changeAt]
  · intro y hy
    obtain ⟨binding', task', hbinding', htask', hmessage', hok'⟩ := h.credits y hy
    constructor
    · rintro ⟨hparent, hcall⟩
      have hplace : y.binding = place := by
        refine h.distinct _ _ binding' binding hbinding' hbinding (by rw [htask']; rfl)
          (by rw [htask]; rfl) ?_
        rw [(h.keyed _ binding' task' hbinding' htask').1, hkey.1, ← hok'.parent, ← hok'.call,
          hparent, hcall]
        rfl
      rw [hplace] at hbinding'
      obtain rfl := Option.some_inj.mp (hbinding.symm.trans hbinding')
      exact hfree _ hmessage'
    · intro hmessage
      rw [honly y hy hmessage] at hbinding'
      obtain rfl := Option.some_inj.mp (hbinding.symm.trans hbinding')
      obtain rfl := Option.some_inj.mp (htask.symm.trans htask')
      exact ⟨hok'.parent, hok'.call⟩

lemma DelegationInvariant.matchRead (h : DelegationInvariant actions s) {lookup : ActiveLookup}
    {read : SnapshotRead} (hlookup : LookupOk s.objects lookup)
    (hagain : ∀ y ∈ s.yielded, y.credit.messageId = lookup.messageID →
      y.binding ∈ lookup.candidates ∧ s.holdsAt y.binding (fits lookup read) = true) :
    DelegationInvariant actions (Codemem.matchRead options lookup read s) := by
  unfold Codemem.matchRead
  extract_lets hasNewMatch
  split
  · exact h
  split
  · rename_i place hplace
    have hsole : ∀ i ∈ lookup.candidates, s.holdsAt i (fits lookup read) = true → i = place :=
      fun i hi hfits => List.mem_singleton.mp (hplace ▸ List.mem_filter.mpr ⟨hi, hfits⟩)
    obtain ⟨hcandidate, hholds⟩ := List.mem_filter.mp (hplace ▸ List.mem_singleton_self place)
    split
    · rename_i binding hbinding
      split
      · rename_i task htask
        split
        · exact h
        · rename_i haccepted
          obtain ⟨hclear, hrest⟩ := not_or.mp haccepted
          have hfree : ∀ known, binding.messageID = some known → known = lookup.messageID := by
            intro known hknown
            by_contra hother
            exact hrest (.inl ⟨by rw [hknown]; rfl, fun hsame =>
              hother (Option.some_inj.mp (hknown.symm.trans hsame))⟩)
          refine h.credit hlookup hcandidate hbinding htask (Bool.eq_false_of_not_eq_true hclear)
            hfree ?_ (fun y hy hsame => hsole _ (hagain y hy hsame).1 (hagain y hy hsame).2)
          obtain ⟨binding', hbinding', hfits⟩ := holdsAt_eq_true hholds
          obtain rfl := Option.some_inj.mp (hbinding.symm.trans hbinding')
          exact hfits
      · exact h
    · exact h
  · exact h

lemma DelegationInvariant.settle (h : DelegationInvariant actions s) {clock : ℕ → ℚ}
    {lookup : ActiveLookup} {answer : SnapshotAnswer} (hlookup : lookup ∈ s.activeLookups)
    (hagain : ∀ read, readSnapshot lookup answer = some read → ∀ y ∈ s.yielded,
      y.credit.messageId = lookup.messageID →
        y.binding ∈ lookup.candidates ∧ s.holdsAt y.binding (fits lookup read) = true) :
    DelegationInvariant actions (matchSnapshot options clock lookup answer s) := by
  unfold matchSnapshot
  split_ifs
  · exact h
  · cases hread : readSnapshot lookup answer with
    | none => exact h
    | some read => exact (h.prune clock).matchRead (h.lookups lookup hlookup) (hagain read hread)

lemma DelegationInvariant.step (h : DelegationInvariant actions s) {action : DelegationAction}
    (hmeets : DelegationMeets options s action) (hmem : action ∈ actions) :
    DelegationInvariant actions (delegationStep options s action) := by
  cases action with
  | observe clock event => exact h.observe hmem hmeets
  | observePrompt clock input output => exact h.observePrompt clock input output
  | resolve clock prompt => exact h.resolve hmeets
  | settle clock sessionID messageID answer =>
    rw [delegationStep]
    split
    · exact h
    · rename_i lookup hfind
      refine DelegationInvariant.finish (h.settle (List.mem_of_find?_eq_some hfind) ?_) _ _
      intro read hread y hy hmessage
      have hfor := List.find?_some hfind
      simp only [ActiveLookup.isFor, Bool.and_eq_true, beq_iff_eq] at hfor
      exact hmeets lookup hfind read hread y hy (hmessage.trans hfor.2)
  | abandon sessionID messageID => exact h.finish sessionID messageID
  | boundChildren clock =>
    rw [delegationStep]
    split_ifs
    · exact h
    · exact h.prune clock
  | changePrompts edit => exact h.change fun _ _ => ⟨rfl, rfl, fun _ hknown => hknown⟩
  | dispose =>
    exact h.frame (.refl _) rfl (List.nil_sublist _) (Nat.zero_le _)

lemma delegationInvariant_initial : DelegationInvariant actions .initial where
  keyed i binding task hbinding := by cases hbinding
  distinct i j binding binding' hbinding := by cases hbinding
  lookups lookup hlookup := by cases hlookup
  credits y hy := by cases hy
  agree y hy := by cases hy
  bindings_le := Nat.zero_le _
  lookups_le := Nat.zero_le _

end Frames

/-- The options of a context that takes the snapshot alone. -/
def snapshotOptions : DelegationOptions :=
  { requirePromptSnapshot := false
    hasReaders := true
    initializedAt := 0
    digest := id
    fingerprint := fun child agent brief start =>
      child ++ "," ++ agent ++ "," ++ brief ++ "," ++ toString start.num }

def runningPart (start : ℚ) : TaskPart :=
  { type := some "tool"
    tool := some "task"
    callID := some "call-1"
    sessionID := some "parent"
    status := some "running"
    childSessionID := some "child"
    parentSessionID := some "parent"
    subagentType := some "explore"
    prompt := some "Inspect retries"
    description := some "Inspect"
    start := some start }

/-- The answer about a message of the child session. -/
def briefAnswer (messageID : String) (created : ℚ) : SnapshotAnswer :=
  { sessionID := some "child"
    parentID := some "parent"
    info := ⟨some messageID, some "child", some "user", some "explore", some created⟩
    parts := some [⟨none, some "text", some "Inspect retries", false, false, some "child",
      some messageID⟩] }

/-- A task call runs, and a message of its child session is looked up. -/
def delegate (now : ℚ) (messageID : String) : List DelegationAction :=
  [.observe (fun _ => now) (.partUpdated (runningPart now)),
    .resolve (fun _ => now) ⟨some "child", some messageID, some "Inspect retries"⟩,
    .settle (fun _ => now) "child" messageID (briefAnswer messageID now)]

end Codemem

import Codemem.Coordinator.LedgerRuns

/-!
# Membership changes are audited

In every run of both stores in which no call of the D1 store is disturbed between its reads and its
batch, the ledger stays consistent, memberships only move forward, refused revocations are recorded
only of inactive memberships, and a repeated effect answers its receipt.
-/

namespace Codemem

/-! ### One step -/

/-- What a step keeps of the ledger. -/
structure LedgerKept (before after : ScopeTables) : Prop where
  consistent : LedgerConsistent before → LedgerConsistent after
  advances : LedgerAdvances before after
  notApplied : NotAppliedOnlyIfInactive before after

lemma LedgerStep.kept {before after : ScopeTables} (h : LedgerStep before after) :
    LedgerKept before after :=
  ⟨h.consistent, h.advances, h.notAppliedOnlyIfInactive⟩

lemma LedgerKept.of_eq {before after : ScopeTables}
    (hmemberships : after.memberships = before.memberships)
    (hreceipts : after.effectReceipts = before.effectReceipts)
    (haudit : after.auditLog = before.auditLog) : LedgerKept before after := by
  refine ⟨fun h => ?_, .of_eq hmemberships hreceipts, fun receipt hreceipt hnew => ?_⟩
  · constructor
    · rw [hreceipts]
      exact h.receipts
    · unfold ScopeTables.auditOfEffect
      rw [hreceipts, haudit]
      exact h.audited
    · rw [hreceipts, haudit]
      exact h.recorded
    · unfold ScopeTables.auditOf
      rw [haudit]
      exact h.chained
    · unfold ScopeTables.auditOf
      rw [haudit, hmemberships]
      exact h.latest
  · rw [hreceipts] at hreceipt
    exact absurd hreceipt hnew

/-- A call about scopes leaves the ledger alone. -/
lemma ScopeStage.kept_next (primitives : SignaturePrimitives) (tables : ScopeTables) (now : String)
    (stage : ScopeStage) : LedgerKept tables (stage.next primitives tables now).2 := by
  have hsame : LedgerKept tables tables := .of_eq rfl rfl rfl
  rcases stage with scope | ⟨scope, sentAt⟩ | scopeId | ⟨opts, scopeId⟩ | ⟨update, sentAt⟩ |
    scopeId | ⟨groupId, scopeId⟩ | ⟨groupId, scope⟩ | ⟨groupId, scope⟩ |
    ⟨groupId, scope, memberships⟩ | ⟨groupId, scope, members⟩
  · unfold next
    dsimp only
    split_ifs
    · exact hsame
    · exact hsame
  · unfold next ScopeTables.insertScopeRow
    dsimp only
    by_cases hstored : (tables.getScope (scope.created sentAt).scopeId).isSome = true
    · rw [if_pos hstored]
      exact hsame
    · rw [if_neg hstored]
      exact .of_eq rfl rfl rfl
  · unfold next
    dsimp only
    rcases tables.getScope scopeId with _ | scope
    · exact hsame
    · exact hsame
  · unfold next
    dsimp only
    rcases tables.getScope scopeId with _ | scope
    · exact hsame
    · exact hsame
  · exact .of_eq rfl rfl rfl
  · exact hsame
  · exact hsame
  · exact hsame
  · exact hsame
  · exact hsame
  · unfold next
    dsimp only
    split_ifs
    · exact hsame
    · exact hsame

namespace CoordinatorStore

/-- A suspended change of a membership is not disturbed. -/
def ProgressUndisturbed (tables : ScopeTables) : Option D1Progress → Prop
  | some (.membership (.suspended stage)) => stage.Undisturbed tables
  | _ => True

instance (tables : ScopeTables) : (progress : Option D1Progress) →
    Decidable (ProgressUndisturbed tables progress)
  | some (.membership (.suspended stage)) => inferInstanceAs (Decidable (stage.Undisturbed tables))
  | some (.membership (.ended _)) => .isTrue trivial
  | some (.scope _) => .isTrue trivial
  | none => .isTrue trivial

/-- No call of the D1 store is disturbed between its reads and its batch. -/
def Undisturbed (store : CoordinatorStore) : CoordinatorStoreAction → Prop
  | .resume call _ => ProgressUndisturbed store.tables (store.calls call)
  | .sqliteGrant _ _ => True
  | .sqliteRevoke _ _ => True
  | .begin _ _ => True
  | .editDevices _ => True

instance (store : CoordinatorStore) : (action : CoordinatorStoreAction) →
    Decidable (store.Undisturbed action)
  | .resume call _ => inferInstanceAs (Decidable (ProgressUndisturbed _ (store.calls call)))
  | .sqliteGrant _ _ => .isTrue trivial
  | .sqliteRevoke _ _ => .isTrue trivial
  | .begin _ _ => .isTrue trivial
  | .editDevices _ => .isTrue trivial

lemma Undisturbed.stage {store : CoordinatorStore} {call : ℕ} {now : String}
    (h : store.Undisturbed (.resume call now)) {stage : MembershipStage}
    (hstage : store.calls call = some (.membership (.suspended stage))) :
    stage.Undisturbed store.tables := by
  unfold Undisturbed at h
  dsimp only at h
  rw [hstage] at h
  exact h

variable {primitives : SignaturePrimitives} {store : CoordinatorStore}
variable {action : CoordinatorStoreAction}

lemma kept_step (h : store.Undisturbed action) :
    LedgerKept store.tables (store.step primitives action).tables := by
  have hsame : LedgerKept store.tables store.tables := .of_eq rfl rfl rfl
  rcases action with ⟨opts, now⟩ | ⟨opts, now⟩ | ⟨call, input⟩ | ⟨call, now⟩ | devices
  · unfold step committed
    dsimp only
    rcases hresult : store.tables.grantScopeMembership opts now with error | ⟨answer, tables⟩
    · exact hsame
    · exact (ledgerStep_grantScopeMembership hresult).kept
  · unfold step committed
    dsimp only
    rcases hresult : store.tables.revokeScopeMembership opts now with error | ⟨answer, tables⟩
    · exact hsame
    · exact (ledgerStep_revokeScopeMembership hresult).kept
  · unfold step
    dsimp only
    rcases store.calls call with _ | progress
    · exact hsame
    · exact hsame
  · unfold step
    dsimp only
    rcases hcall : store.calls call with _ | (stage | result) | (stage | result)
    · exact hsame
    · exact (MembershipStage.ledgerStep (h.stage hcall)).kept
    · exact hsame
    · exact stage.kept_next primitives store.tables now
    · exact hsame
  · exact .of_eq rfl rfl rfl

end CoordinatorStore

/-! ### Batches do not fail -/

/-- The call is not looking for the reason why its batch failed. -/
def MembershipProgress.NotRechecking : MembershipProgress → Prop
  | .suspended (.revokeRecheck _) => False
  | _ => True

lemma notRechecking_after {β : Type} {check : Except String β} {next : β → MembershipProgress}
    (h : ∀ value, (next value).NotRechecking) :
    MembershipProgress.NotRechecking (CallProgress.after check next) := by
  rcases check with error | value
  · trivial
  · exact h value

/-- In a consistent ledger no batch fails. -/
lemma MembershipStage.notRechecking_next {tables : ScopeTables} (h : LedgerConsistent tables)
    (now : String) (stage : MembershipStage) (hstage : ∀ plan, stage ≠ .revokeRecheck plan) :
    MembershipProgress.NotRechecking (stage.next tables now).1 := by
  rcases stage with call | ⟨call, scopeId⟩ | ⟨call, scope, scopeId, deviceId⟩ |
    ⟨call, existing, grant, groupId⟩ | ⟨call, existing, grant, sentAt⟩ | call | call |
    ⟨call, epoch⟩ | ⟨call, epoch⟩ | ⟨plan, sentAt⟩ | plan | call
  · unfold next
    dsimp only
    rcases tables.getMembershipEffectReceipt call.effectId with _ | receipt
    · dsimp only
      unfold grantAfterLookup
      rcases cleanText call.opts.scopeId with _ | scopeId
      · trivial
      · trivial
    · trivial
  · refine notRechecking_after fun scope => ?_
    unfold grantAfterScope
    rcases cleanText call.opts.deviceId with _ | deviceId
    · trivial
    · trivial
  · refine notRechecking_after fun grant => ?_
    rcases grant.enrollmentGroup with _ | groupId
    · trivial
    · trivial
  · exact notRechecking_after fun _ => trivial
  · unfold next
    dsimp only
    rcases runGrantBatch tables call existing grant sentAt with _ | tables'
    · trivial
    · trivial
  · trivial
  · unfold next
    dsimp only
    rcases tables.getMembershipEffectReceipt call.effectId with _ | receipt
    · refine notRechecking_after fun epoch => ?_
      rcases cleanText call.opts.groupId with _ | groupId
      · trivial
      · trivial
    · trivial
  · exact notRechecking_after fun _ => trivial
  · exact notRechecking_after fun _ => trivial
  · unfold next
    dsimp only
    obtain ⟨tables', hbatch⟩ := Option.isSome_iff_exists.mp (runRevokeBatch_isSome h plan sentAt)
    rw [hbatch]
    trivial
  · exact absurd rfl (hstage plan)
  · trivial

namespace CoordinatorStore

/-- The ledger is consistent, and no batch has failed. -/
structure Audited (store : CoordinatorStore) : Prop where
  ledger : LedgerConsistent store.tables
  calls : ∀ call progress, store.calls call = some (.membership progress) → progress.NotRechecking

variable {primitives : SignaturePrimitives} {store : CoordinatorStore}
variable {action : CoordinatorStoreAction}

lemma notRechecking_resumed (h : store.Audited) {call : ℕ} {tables : ScopeTables}
    {progress : D1Progress}
    (hprogress : ∀ membership, progress = .membership membership → membership.NotRechecking)
    (other : ℕ) (membership : MembershipProgress)
    (hother : (store.resumed call tables progress).calls other = some (.membership membership)) :
    membership.NotRechecking := by
  unfold resumed at hother
  dsimp only at hother
  by_cases hsame : other = call
  · rw [hsame, Function.update_self] at hother
    exact hprogress membership (Option.some.inj hother)
  · rw [Function.update_of_ne hsame] at hother
    exact h.calls other membership hother

/-- A step without a disturbed call keeps the ledger consistent and no batch fails. -/
lemma Audited.step (h : store.Audited) (hcond : store.Undisturbed action) :
    (store.step primitives action).Audited := by
  refine ⟨(kept_step hcond).consistent h.ledger, ?_⟩
  rcases action with ⟨opts, now⟩ | ⟨opts, now⟩ | ⟨call, input⟩ | ⟨call, now⟩ | devices
  · unfold CoordinatorStore.step committed
    dsimp only
    rcases store.tables.grantScopeMembership opts now with error | ⟨answer, tables⟩
    · exact h.calls
    · exact h.calls
  · unfold CoordinatorStore.step committed
    dsimp only
    rcases store.tables.revokeScopeMembership opts now with error | ⟨answer, tables⟩
    · exact h.calls
    · exact h.calls
  · unfold CoordinatorStore.step
    dsimp only
    rcases store.calls call with _ | progress
    · refine notRechecking_resumed h fun membership hmembership => ?_
      unfold D1Input.start at hmembership
      rcases input with opts | opts | opts | opts | ⟨groupId, scopeId⟩
      · rw [← D1Progress.membership.inj hmembership]
        exact notRechecking_after fun _ => trivial
      · rw [← D1Progress.membership.inj hmembership]
        exact notRechecking_after fun _ => trivial
      · cases hmembership
      · cases hmembership
      · cases hmembership
    · exact h.calls
  · unfold CoordinatorStore.step
    dsimp only
    rcases hcall : store.calls call with _ | (stage | result) | (stage | result)
    · exact h.calls
    · refine notRechecking_resumed h fun membership hmembership => ?_
      rw [← D1Progress.membership.inj hmembership]
      refine stage.notRechecking_next h.ledger now fun plan hplan => ?_
      have hnot := h.calls call _ hcall
      rw [hplan] at hnot
      exact hnot
    · exact h.calls
    · exact notRechecking_resumed h fun membership hmembership => by cases hmembership
    · exact h.calls
  · exact h.calls

lemma Audited.repeatsReceipt (h : store.Audited) (hcond : store.Undisturbed action) :
    store.RepeatsReceipt action := by
  rcases action with ⟨opts, now⟩ | ⟨opts, now⟩ | ⟨call, input⟩ | ⟨call, now⟩ | devices
  · intro call hcall receipt hreceipt hrequest
    unfold ScopeTables.grantScopeMembership
    rw [hcall]
    dsimp only [bind, Except.bind]
    rw [hreceipt]
    dsimp only
    rw [answerFromReceipt_of_request hrequest]
  · intro call hcall receipt hreceipt hrequest
    unfold ScopeTables.revokeScopeMembership
    rw [hcall]
    dsimp only [bind, Except.bind]
    rw [hreceipt]
    dsimp only
    rw [answerFromReceipt_of_request hrequest]
  · trivial
  · intro stage hstage
    refine MembershipStage.repeats (hcond.stage hstage) fun plan hplan => ?_
    have hnot := h.calls call _ hstage
    rw [hplan] at hnot
    exact hnot
  · trivial

/-! ### Runs -/

/-- What the ledger promises about a run: receipts and audit log agree in every state, between any
two states memberships move forward and receipts stay, no step records a refused revocation of an
active membership, and no step answers a repeated effect with anything but its receipt. -/
structure LedgerPromises (primitives : SignaturePrimitives) (store : CoordinatorStore)
    (actions : List CoordinatorStoreAction) : Prop where
  consistent : ∀ s ∈ visited (step primitives) store actions, LedgerConsistent s.tables
  advances : (visited (step primitives) store actions).Pairwise fun earlier later =>
    LedgerAdvances earlier.tables later.tables
  notApplied : StepsMeet (step primitives)
    (fun s action => NotAppliedOnlyIfInactive s.tables (s.step primitives action).tables) store
      actions
  repeats : StepsMeet (step primitives) RepeatsReceipt store actions

/-- The ledger keeps its promises in every run in which no call of the D1 store is disturbed. -/
theorem ledgerPromises_of_undisturbed (primitives : SignaturePrimitives) (tables : ScopeTables)
    (hledger : LedgerConsistent tables) (actions : List CoordinatorStoreAction)
    (hundisturbed : StepsMeet (step primitives) Undisturbed (initial tables) actions) :
    LedgerPromises primitives (initial tables) actions := by
  have hstart : (initial tables).Audited := ⟨hledger, fun call progress h => by cases h⟩
  have hkept : ∀ (store : CoordinatorStore) (action : CoordinatorStoreAction),
      store.Undisturbed action → store.Audited → (store.step primitives action).Audited ∧
        LedgerAdvances store.tables (store.step primitives action).tables :=
    fun store action hcond h => ⟨h.step hcond, (kept_step hcond).advances⟩
  obtain ⟨haudited, hadvances⟩ := hundisturbed.pairwise hstart
    (R := fun earlier later => LedgerAdvances earlier.tables later.tables)
    (fun a b c => LedgerAdvances.trans) hkept
  have hsteps := hundisturbed.and_always hstart (fun s a hcond h => (hkept s a hcond h).1)
  refine ⟨fun s hs => (haudited s hs).ledger, hadvances, ?_, ?_⟩
  · exact hundisturbed.imp fun s a hcond => (kept_step hcond).notApplied
  · exact hsteps.imp fun s a h => h.2.repeatsReceipt h.1

/-- Primitives that read no key. -/
def keylessPrimitives : SignaturePrimitives :=
  ⟨fun _ => "", fun _ => [], fun _ => "", fun _ _ _ => false⟩

/-- A scope without a group, and no memberships yet. -/
def sampleScopeTables : ScopeTables where
  devices := ⟨[], [], []⟩
  scopes := [⟨"S", "Work", "user", "coordinator", none, none, none, 0, none, "active", "t0", "t0"⟩]
  memberships := []
  effectReceipts := []
  auditLog := []

lemma sampleScopeTables_consistent : LedgerConsistent sampleScopeTables :=
  ⟨by simp [sampleScopeTables], by simp [sampleScopeTables], by simp [sampleScopeTables],
    fun _ => by simp [sampleScopeTables, AuditChained, ScopeTables.auditOf],
    fun _ _ => by simp [sampleScopeTables, ScopeTables.auditOf]⟩

/-- Device `D` becomes a member of the scope. -/
def sampleGrant : D1Input :=
  .grantScopeMembership
    ⟨"grant", "S", "D", none, .absent, none, none, none, none, none, none, none⟩

/-- Device `D` is removed from the scope. -/
def sampleRevoke : D1Input :=
  .revokeScopeMembership ⟨"revoke", "S", "D", none, .absent, none, none, none, none⟩

/-- A call begins and is resumed a number of times. -/
def runCall (call : ℕ) (input : D1Input) (resumptions : ℕ) : List CoordinatorStoreAction :=
  .begin call input :: List.replicate resumptions (.resume call "t1")

/-- A grant that is followed by a retry and by a revocation. -/
theorem ledgerPromises_sample : LedgerPromises keylessPrimitives (initial sampleScopeTables)
    (runCall 0 sampleGrant 5 ++ runCall 1 sampleGrant 1 ++ runCall 2 sampleRevoke 4) :=
  ledgerPromises_of_undisturbed keylessPrimitives sampleScopeTables sampleScopeTables_consistent _
    (by decide +kernel)

/-- A revocation that has found no membership, and the grant that is made before its batch. -/
def overtakenRevoke : List CoordinatorStoreAction :=
  runCall 0 sampleRevoke 2 ++ runCall 1 sampleGrant 5

/-- A revocation whose batch comes after a grant records that it was not applied, though the
membership is active: the ledger does not keep its promises. -/
theorem overtakenRevoke_breaks_ledger :
    ¬ LedgerPromises keylessPrimitives (initial sampleScopeTables)
      (overtakenRevoke ++ [.resume 0 "t2"]) := by
  intro h
  have hlast := ((stepsMeet_append_iff _ _).mp h.notApplied).2.1
  have hrefused : ∃ receipt ∈ ((overtakenRevoke.foldl (step keylessPrimitives)
        (initial sampleScopeTables)).step keylessPrimitives (.resume 0 "t2")).tables.effectReceipts,
      receipt ∉ (overtakenRevoke.foldl (step keylessPrimitives)
        (initial sampleScopeTables)).tables.effectReceipts ∧ receipt.outcomeApplied = false ∧
      ((overtakenRevoke.foldl (step keylessPrimitives)
        (initial sampleScopeTables)).tables.getScopeMembership receipt.scopeId receipt.deviceId).any
          (fun stored => stored.status == "active") = true := by
    decide +kernel
  obtain ⟨receipt, hreceipt, hnew, hfalse, hactive⟩ := hrefused
  obtain ⟨stored, hstored, hstatus⟩ := (Option.any_eq_true _ _).mp hactive
  exact hlast receipt hreceipt hnew hfalse stored hstored (beq_iff_eq.mp hstatus)

end CoordinatorStore

end Codemem

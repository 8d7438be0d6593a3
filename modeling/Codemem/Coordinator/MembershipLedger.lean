import Codemem.Coordinator.D1Store

/-!
# The membership ledger

Every change of a membership leaves a receipt under its effect id and, where it was applied, one row
of the audit log.  Both stores change the ledger in one of three ways (`LedgerStep`), the D1 store
only where its batch still meets the membership that the call has read.
-/

namespace Codemem

/-! ### What the ledger promises -/

namespace ScopeTables

/-- The rows of the audit log about one membership. -/
def auditOf (tables : ScopeTables) (pair : String × String) : List MembershipAuditRow :=
  tables.auditLog.filter fun row => decide (row.key = pair)

def auditOfEffect (tables : ScopeTables) (effectId : String) : List MembershipAuditRow :=
  tables.auditLog.filter fun row => decide (row.effectId = effectId)

end ScopeTables

/-- Each row of the audit log starts from the columns that the one before it left. -/
def AuditChained (rows : List MembershipAuditRow) : Prop :=
  rows.IsChain fun earlier later => later.previous = some earlier.columns

/-- Receipts and audit log agree with each other and with the memberships. -/
structure LedgerConsistent (tables : ScopeTables) : Prop where
  /-- An effect has one receipt. -/
  receipts : (tables.effectReceipts.map MembershipEffectReceipt.effectId).Nodup
  /-- An applied receipt has exactly one audit row. -/
  audited : ∀ receipt ∈ tables.effectReceipts, receipt.outcomeApplied = true →
    (tables.auditOfEffect receipt.effectId).length = 1
  /-- An audit row belongs to a receipt. -/
  recorded : ∀ row ∈ tables.auditLog,
    ∃ receipt ∈ tables.effectReceipts, receipt.effectId = row.effectId
  /-- The audit rows of a membership form a chain. -/
  chained : ∀ pair, AuditChained (tables.auditOf pair)
  /-- The chain ends in the stored membership. -/
  latest : ∀ pair row, (tables.auditOf pair).getLast? = some row →
    ∃ stored, rowAt CoordinatorScopeMembership.key pair tables.memberships = some stored ∧
      stored.columns = row.columns

/-- Memberships move forward, and receipts stay as they are. -/
structure LedgerAdvances (before after : ScopeTables) : Prop where
  memberships : Evolves CoordinatorScopeMembership.key MembershipAdvances before.memberships
    after.memberships
  receipts : ∀ effectId receipt, before.getMembershipEffectReceipt effectId = some receipt →
    after.getMembershipEffectReceipt effectId = some receipt

/-- A receipt of a revocation that was not applied is written only while the membership is not
active. -/
def NotAppliedOnlyIfInactive (before after : ScopeTables) : Prop :=
  ∀ receipt ∈ after.effectReceipts, receipt ∉ before.effectReceipts →
    receipt.outcomeApplied = false → ∀ stored,
      before.getScopeMembership receipt.scopeId receipt.deviceId = some stored →
        stored.status ≠ "active"

/-- A call whose request is recorded under its effect id changes nothing, and if it ends it answers
what the receipt says. -/
def MembershipStage.Repeats (tables : ScopeTables) (now : String) (stage : MembershipStage) :
    Prop :=
  ∀ receipt, tables.getMembershipEffectReceipt stage.effectId = some receipt →
    receipt.request = stage.request → (stage.next tables now).2 = tables ∧
      ∀ result, (stage.next tables now).1 = .ended result → result = receipt.outcome

/-- A repeated effect id with the same request answers what its receipt says and changes nothing. -/
def CoordinatorStore.RepeatsReceipt (store : CoordinatorStore) : CoordinatorStoreAction → Prop
  | .sqliteGrant opts now => ∀ call, startGrant opts = .ok call → ∀ receipt,
      store.tables.getMembershipEffectReceipt call.effectId = some receipt →
        receipt.request = call.request → store.tables.grantScopeMembership opts now =
          receipt.outcome.map fun answer => (answer, store.tables)
  | .sqliteRevoke opts now => ∀ call, startRevoke opts = .ok call → ∀ receipt,
      store.tables.getMembershipEffectReceipt call.effectId = some receipt →
        receipt.request = call.request → store.tables.revokeScopeMembership opts now =
          receipt.outcome.map fun answer => (answer, store.tables)
  | .resume call now => ∀ stage,
      store.calls call = some (.membership (.suspended stage)) → stage.Repeats store.tables now
  | .begin _ _ => True
  | .editDevices _ => True

/-! ### The changes of the ledger -/

/-- A change that was applied: it starts from the stored membership and moves it forward. -/
structure AppliedChange (tables : ScopeTables) (receipt : MembershipEffectReceipt)
    (audit : MembershipAuditRow) (row : CoordinatorScopeMembership) : Prop where
  fresh : tables.getMembershipEffectReceipt receipt.effectId = none
  applied : receipt.outcomeApplied = true
  effect : audit.effectId = receipt.effectId
  pair : audit.key = row.key
  columns : audit.columns = row.columns
  previous : audit.previous = (tables.getScopeMembership row.scopeId row.deviceId).map
    CoordinatorScopeMembership.columns
  advances : ∀ stored, tables.getScopeMembership row.scopeId row.deviceId = some stored →
    MembershipAdvances stored row

/-- A revocation that was not applied: the membership is not active. -/
structure RefusedRevoke (tables : ScopeTables) (receipt : MembershipEffectReceipt) : Prop where
  fresh : tables.getMembershipEffectReceipt receipt.effectId = none
  refused : receipt.outcomeApplied = false
  inactive : ∀ stored, tables.getScopeMembership receipt.scopeId receipt.deviceId = some stored →
    stored.status ≠ "active"

/-- What a call does to the ledger. -/
inductive LedgerStep (tables : ScopeTables) : ScopeTables → Prop where
  | unchanged : LedgerStep tables tables
  | applied (receipt : MembershipEffectReceipt) (audit : MembershipAuditRow)
      (row : CoordinatorScopeMembership) (h : AppliedChange tables receipt audit row) :
      LedgerStep tables { tables.writeMembership row with
        effectReceipts := tables.effectReceipts ++ [receipt]
        auditLog := tables.auditLog ++ [audit] }
  | refused (receipt : MembershipEffectReceipt) (h : RefusedRevoke tables receipt) :
      LedgerStep tables { tables with effectReceipts := tables.effectReceipts ++ [receipt] }

/-! ### Lookups -/

namespace ScopeTables

variable {tables tables' : ScopeTables}

variable (tables) in
lemma rowAt_writeMembership (row : CoordinatorScopeMembership) (pair : String × String) :
    rowAt CoordinatorScopeMembership.key pair (tables.writeMembership row).memberships =
      if pair = row.key then some row
      else rowAt CoordinatorScopeMembership.key pair tables.memberships := by
  unfold writeMembership
  dsimp only
  rw [rowAt_insertOrUpdate_of_key fun stored h => h.symm]
  split_ifs with hpair
  · rcases rowAt CoordinatorScopeMembership.key pair tables.memberships with _ | stored
    · rfl
    · rfl
  · rfl

lemma getScopeMembership_writeMembership (row : CoordinatorScopeMembership) :
    (tables.writeMembership row).getScopeMembership row.scopeId row.deviceId = some row := by
  unfold getScopeMembership
  rw [rowAt_writeMembership]
  exact if_pos rfl

lemma getReceipt_append {effectId : String} {receipt : MembershipEffectReceipt}
    (h : tables.getMembershipEffectReceipt effectId = some receipt)
    (hrows : ∃ added, tables'.effectReceipts = tables.effectReceipts ++ added) :
    tables'.getMembershipEffectReceipt effectId = some receipt := by
  obtain ⟨added, hrows⟩ := hrows
  unfold getMembershipEffectReceipt rowAt at h ⊢
  rw [hrows, List.find?_append, h, Option.some_or]

lemma insertMembershipEffectReceipt_eq_some {receipt : MembershipEffectReceipt}
    (h : tables.insertMembershipEffectReceipt receipt = some tables') :
    tables.getMembershipEffectReceipt receipt.effectId = none ∧
      tables' = { tables with effectReceipts := tables.effectReceipts ++ [receipt] } ∧
      tables'.getMembershipEffectReceipt receipt.effectId = some receipt := by
  unfold insertMembershipEffectReceipt at h
  split_ifs at h with hstored
  obtain rfl := Option.some.inj h
  have hnone := Option.not_isSome_iff_eq_none.mp hstored
  refine ⟨hnone, rfl, ?_⟩
  unfold getMembershipEffectReceipt rowAt at hnone ⊢
  rw [List.find?_append, hnone, Option.none_or]
  simp

lemma insertMembershipEffectReceipt_of_fresh (receipt : MembershipEffectReceipt)
    (h : tables.getMembershipEffectReceipt receipt.effectId = none) :
    tables.insertMembershipEffectReceipt receipt =
      some { tables with effectReceipts := tables.effectReceipts ++ [receipt] } := by
  unfold insertMembershipEffectReceipt
  rw [h]
  rfl

lemma insertMembershipAudit_eq_some {row : MembershipAuditRow}
    (h : tables.insertMembershipAudit row = some tables') :
    tables' = { tables with auditLog := tables.auditLog ++ [row] } := by
  unfold insertMembershipAudit at h
  split_ifs at h
  exact (Option.some.inj h).symm

end ScopeTables

lemma of_orConstraint {α : Type} {value : Option α} {a : α} (h : orConstraint value = .ok a) :
    value = some a := by
  rcases value with _ | b
  · cases h
  · exact congrArg some (Except.ok.inj h)

/-! ### What a step of the ledger keeps -/

lemma LedgerAdvances.trans {a b c : ScopeTables} (h : LedgerAdvances a b)
    (h' : LedgerAdvances b c) : LedgerAdvances a c :=
  ⟨h.memberships.trans MembershipAdvances.trans h'.memberships,
    fun effectId receipt hreceipt => h'.receipts effectId receipt (h.receipts _ _ hreceipt)⟩

lemma LedgerAdvances.of_eq {a b : ScopeTables} (hmemberships : b.memberships = a.memberships)
    (hreceipts : b.effectReceipts = a.effectReceipts) : LedgerAdvances a b := by
  constructor
  · rw [hmemberships]
    exact .refl MembershipAdvances.refl _
  · intro effectId receipt h
    unfold ScopeTables.getMembershipEffectReceipt at h ⊢
    rw [hreceipts]
    exact h

namespace LedgerStep

variable {tables tables' : ScopeTables}

lemma advances (h : LedgerStep tables tables') : LedgerAdvances tables tables' := by
  rcases h with _ | ⟨receipt, audit, row, h⟩ | ⟨receipt, h⟩
  · exact .of_eq rfl rfl
  · refine ⟨fun pair stored hstored => ?_, fun effectId found hfound =>
      ScopeTables.getReceipt_append hfound ⟨_, rfl⟩⟩
    have hread := ScopeTables.rowAt_writeMembership tables row pair
    by_cases hpair : pair = row.key
    · rw [if_pos hpair] at hread
      refine ⟨row, hread, h.advances stored ?_⟩
      rw [← hstored, hpair]
      rfl
    · rw [if_neg hpair] at hread
      exact ⟨stored, hread.trans hstored, .refl _⟩
  · exact ⟨.refl MembershipAdvances.refl _, fun effectId found hfound =>
      ScopeTables.getReceipt_append hfound ⟨_, rfl⟩⟩

lemma notAppliedOnlyIfInactive (h : LedgerStep tables tables') :
    NotAppliedOnlyIfInactive tables tables' := by
  intro found hfound hnew hrefused
  rcases h with _ | ⟨receipt, audit, row, h⟩ | ⟨receipt, h⟩
  · exact absurd hfound hnew
  · rcases List.mem_append.mp hfound with hold | hadded
    · exact absurd hold hnew
    · rw [List.mem_singleton.mp hadded, h.applied] at hrefused
      cases hrefused
  · rcases List.mem_append.mp hfound with hold | hadded
    · exact absurd hold hnew
    · rw [List.mem_singleton.mp hadded]
      exact h.inactive

lemma receipts_nodup {receipt : MembershipEffectReceipt}
    (h : (tables.effectReceipts.map MembershipEffectReceipt.effectId).Nodup)
    (hfresh : tables.getMembershipEffectReceipt receipt.effectId = none) :
    ((tables.effectReceipts ++ [receipt]).map MembershipEffectReceipt.effectId).Nodup := by
  rw [List.map_append, List.map_singleton]
  refine List.nodup_append.mpr ⟨h, List.nodup_singleton _, fun effectId hmem added hadded => ?_⟩
  obtain ⟨stored, hstored, rfl⟩ := List.mem_map.mp hmem
  rw [List.mem_singleton.mp hadded]
  exact rowAt_eq_none hfresh hstored

lemma consistent_of_applied (hledger : LedgerConsistent tables)
    {receipt : MembershipEffectReceipt} {audit : MembershipAuditRow}
    {row : CoordinatorScopeMembership} (h : AppliedChange tables receipt audit row) :
    LedgerConsistent { tables.writeMembership row with
      effectReceipts := tables.effectReceipts ++ [receipt]
      auditLog := tables.auditLog ++ [audit] } := by
  have hunaudited : tables.auditOfEffect receipt.effectId = [] := by
    refine List.filter_eq_nil_iff.mpr fun stored hstored heffect => ?_
    obtain ⟨found, hfound, hsame⟩ := hledger.recorded stored hstored
    exact rowAt_eq_none h.fresh hfound (hsame.trans (of_decide_eq_true heffect))
  have hpairs : ∀ pair, ScopeTables.auditOf { tables.writeMembership row with
      effectReceipts := tables.effectReceipts ++ [receipt]
      auditLog := tables.auditLog ++ [audit] } pair =
        tables.auditOf pair ++ if row.key = pair then [audit] else [] := by
    intro pair
    unfold ScopeTables.auditOf
    dsimp only
    rw [List.filter_append, List.filter_singleton, h.pair]
    by_cases hpair : row.key = pair
    · simp [hpair]
    · simp [hpair]
  refine ⟨receipts_nodup hledger.receipts h.fresh, fun found hfound happlied => ?_,
    fun stored hstored => ?_, fun pair => ?_, fun pair last hlast => ?_⟩
  · unfold ScopeTables.auditOfEffect at hunaudited ⊢
    dsimp only
    rw [List.filter_append, List.filter_singleton, h.effect]
    rcases List.mem_append.mp hfound with hold | hadded
    · have hne : found.effectId ≠ receipt.effectId := rowAt_eq_none h.fresh hold
      rw [decide_eq_false hne.symm, cond_false, List.append_nil]
      exact hledger.audited found hold happlied
    · rw [List.mem_singleton.mp hadded, hunaudited]
      simp
  · rcases List.mem_append.mp hstored with hold | hadded
    · obtain ⟨found, hfound, hsame⟩ := hledger.recorded stored hold
      exact ⟨found, List.mem_append_left _ hfound, hsame⟩
    · rw [List.mem_singleton.mp hadded]
      exact ⟨receipt, by simp, h.effect.symm⟩
  · rw [hpairs]
    by_cases hpair : row.key = pair
    · -- the new row starts from the membership in which the chain ended
      rw [if_pos hpair]
      refine List.isChain_append.mpr ⟨hledger.chained pair, by simp, fun last hlast first hfirst => ?_⟩
      obtain ⟨stored, hstored, hcolumns⟩ := hledger.latest pair last hlast
      obtain rfl : audit = first := by simpa using hfirst
      have hget : tables.getScopeMembership row.scopeId row.deviceId = some stored := by
        rw [← hpair] at hstored
        exact hstored
      rw [h.previous, hget, Option.map_some, hcolumns]
    · rw [if_neg hpair, List.append_nil]
      exact hledger.chained pair
  · have hread := ScopeTables.rowAt_writeMembership tables row pair
    rw [hpairs] at hlast
    by_cases hpair : row.key = pair
    · rw [if_pos hpair, List.getLast?_append, List.getLast?_singleton, Option.some_or] at hlast
      rw [if_pos hpair.symm] at hread
      exact ⟨row, hread, by rw [← Option.some.inj hlast, h.columns]⟩
    · rw [if_neg hpair, List.append_nil] at hlast
      rw [if_neg (Ne.symm hpair)] at hread
      obtain ⟨stored, hstored, hcolumns⟩ := hledger.latest pair last hlast
      exact ⟨stored, hread.trans hstored, hcolumns⟩

lemma consistent (h : LedgerStep tables tables') (hledger : LedgerConsistent tables) :
    LedgerConsistent tables' := by
  rcases h with _ | ⟨receipt, audit, row, h⟩ | ⟨receipt, h⟩
  · exact hledger
  · exact consistent_of_applied hledger h
  · refine ⟨receipts_nodup hledger.receipts h.fresh, fun found hfound happlied => ?_,
      fun stored hstored => ?_, hledger.chained, hledger.latest⟩
    · rcases List.mem_append.mp hfound with hold | hadded
      · exact hledger.audited found hold happlied
      · rw [List.mem_singleton.mp hadded, h.refused] at happlied
        cases happlied
    · obtain ⟨found, hfound, hsame⟩ := hledger.recorded stored hstored
      exact ⟨found, List.mem_append_left _ hfound, hsame⟩

end LedgerStep

end Codemem

import Codemem.Coordinator.MembershipLedger

/-!
# Runs over the membership ledger

What one call of either store does to the ledger, and what holds in every run in which the batches of
the D1 store meet the memberships that their calls have read.
-/

namespace Codemem

/-! ### The SQLite store -/

variable {tables tables' : ScopeTables}

lemma appliedChange {receipt : MembershipEffectReceipt} {action : MembershipAction}
    {row : CoordinatorScopeMembership} {previous : Option CoordinatorScopeMembership}
    {actorType actorId : Option String} {now : String}
    (hfresh : tables.getMembershipEffectReceipt receipt.effectId = none)
    (happlied : receipt.outcomeApplied = true)
    (hprevious : previous.map CoordinatorScopeMembership.columns =
      (tables.getScopeMembership row.scopeId row.deviceId).map CoordinatorScopeMembership.columns)
    (hadvances : ∀ stored, tables.getScopeMembership row.scopeId row.deviceId = some stored →
      MembershipAdvances stored row) :
    AppliedChange tables receipt
      (membershipAuditRow receipt.effectId action row previous actorType actorId now) row :=
  ⟨hfresh, happlied, rfl, rfl, rfl, hprevious, hadvances⟩

lemma recordMembershipChange_eq_ok {audit : MembershipAuditRow} {receipt : MembershipEffectReceipt}
    (h : tables.recordMembershipChange audit receipt = .ok tables') :
    tables.getMembershipEffectReceipt receipt.effectId = none ∧
      tables' = { tables with
        effectReceipts := tables.effectReceipts ++ [receipt]
        auditLog := tables.auditLog ++ [audit] } := by
  obtain ⟨audited, haudited, h⟩ := exists_of_bind_eq_ok h
  have haudit := ScopeTables.insertMembershipAudit_eq_some (of_orConstraint haudited)
  obtain ⟨hfresh, htables, -⟩ :=
    ScopeTables.insertMembershipEffectReceipt_eq_some (of_orConstraint h)
  subst haudit
  exact ⟨hfresh, htables⟩

lemma upsertMembership_eq_true {row : CoordinatorScopeMembership}
    (h : tables.upsertMembership row = (tables', true)) :
    tables' = tables.writeMembership row ∧
      ∀ stored, tables.getScopeMembership row.scopeId row.deviceId = some stored →
        MembershipAdvances stored row := by
  unfold ScopeTables.upsertMembership at h
  split_ifs at h with hsupersedes
  · refine ⟨(congrArg Prod.fst h).symm, fun stored hstored => ?_⟩
    rw [hstored, Option.all_some] at hsupersedes
    unfold grantSupersedes at hsupersedes
    simp only [Bool.or_eq_true, Bool.and_eq_true, decide_eq_true_eq, bne_iff_ne, ne_eq]
      at hsupersedes
    rcases hsupersedes with hlater | ⟨hsame, hstatus⟩
    · exact ⟨hlater.le, fun _ => .inr hlater⟩
    · exact ⟨hsame.ge, fun hrevoked => absurd hrevoked hstatus⟩
  · exact absurd (congrArg Prod.snd h) Bool.false_ne_true

lemma upsertMembership_eq_false {row : CoordinatorScopeMembership}
    (h : tables.upsertMembership row = (tables', false)) : tables' = tables := by
  unfold ScopeTables.upsertMembership at h
  split_ifs at h
  · exact absurd (congrArg Prod.snd h) Bool.false_ne_true.symm
  · exact (congrArg Prod.fst h).symm

lemma RevokePlan.advances {plan : RevokePlan} {stored : CoordinatorScopeMembership} {now : String}
    (h : plan.matches stored = true) (hexisting : plan.existing.isSome = true) :
    MembershipAdvances stored (plan.row now stored) := by
  obtain ⟨existing, hsome⟩ := Option.isSome_iff_exists.mp hexisting
  unfold RevokePlan.matches at h
  rw [hsome] at h
  simp only [Option.map_some, Option.getD_some, Bool.and_eq_true, decide_eq_true_eq] at h
  refine ⟨?_, fun _ => .inl rfl⟩
  unfold RevokePlan.row
  dsimp only
  rcases hepoch : plan.membershipEpoch with _ | epoch
  · rw [Option.getD_none]
    omega
  · have hlater := plan.epoch_lt epoch hepoch existing hsome
    rw [Option.getD_some]
    omega

lemma revokeMembership_eq_true {plan : RevokePlan} {now : String}
    (h : tables.revokeMembership plan now = (tables', true)) :
    ∃ stored, tables.getScopeMembership plan.call.scopeId plan.call.deviceId = some stored ∧
      plan.matches stored = true ∧ tables' = tables.writeMembership (plan.row now stored) := by
  unfold ScopeTables.revokeMembership at h
  rcases hstored : tables.getScopeMembership plan.call.scopeId plan.call.deviceId with _ | stored
  · rw [hstored] at h
    exact absurd (congrArg Prod.snd h) Bool.false_ne_true
  · rw [hstored] at h
    dsimp only at h
    split_ifs at h with hmatches
    · exact ⟨stored, rfl, hmatches, (congrArg Prod.fst h).symm⟩
    · exact absurd (congrArg Prod.snd h) Bool.false_ne_true

lemma revokeMembership_eq_false {plan : RevokePlan} {now : String}
    (h : tables.revokeMembership plan now = (tables', false)) : tables' = tables ∧
      ∀ stored, tables.getScopeMembership plan.call.scopeId plan.call.deviceId = some stored →
        plan.matches stored = false := by
  unfold ScopeTables.revokeMembership at h
  rcases hstored : tables.getScopeMembership plan.call.scopeId plan.call.deviceId with _ | stored
  · rw [hstored] at h
    exact ⟨(congrArg Prod.fst h).symm, by simp⟩
  · rw [hstored] at h
    dsimp only at h
    split_ifs at h with hmatches
    · exact absurd (congrArg Prod.snd h) Bool.false_ne_true.symm
    · refine ⟨(congrArg Prod.fst h).symm, fun found hfound => ?_⟩
      rw [← Option.some.inj hfound]
      exact Bool.eq_false_of_not_eq_true hmatches

lemma getScopeMembership_eq_some {scopeId deviceId : String} {row : CoordinatorScopeMembership}
    (h : tables.getScopeMembership scopeId deviceId = some row) :
    row.scopeId = scopeId ∧ row.deviceId = deviceId :=
  Prod.mk.inj (rowAt_eq_some h).2

lemma normalizedGrant_names {opts : CoordinatorGrantScopeMembershipInput}
    {scope : CoordinatorScope} {existing : Option CoordinatorScopeMembership}
    {grant : NormalizedGrant}
    (h : normalizeCoordinatorGrantScopeMembershipInput opts scope existing = .ok grant) :
    cleanText opts.scopeId = some grant.scopeId ∧ cleanText opts.deviceId = some grant.deviceId := by
  unfold normalizeCoordinatorGrantScopeMembershipInput at h
  rcases hscope : cleanText opts.scopeId with _ | scopeId
  · rw [hscope] at h
    cases h
  · rcases hdevice : cleanText opts.deviceId with _ | deviceId
    · rw [hscope, hdevice] at h
      cases h
    · rw [hscope, hdevice] at h
      obtain ⟨_, -, h⟩ := exists_of_bind_eq_ok h
      obtain ⟨_, -, h⟩ := exists_of_bind_eq_ok h
      rw [← Except.ok.inj h]
      exact ⟨rfl, rfl⟩

lemma planRevoke_eq_ok {call : RevokeCall} {membershipEpoch : Option ℤ}
    {existing : Option CoordinatorScopeMembership} {plan : RevokePlan}
    (h : planRevoke call membershipEpoch existing = .ok plan) :
    plan.call = call ∧ plan.existing = existing := by
  unfold planRevoke at h
  split_ifs at h
  rw [← Except.ok.inj h]
  exact ⟨rfl, rfl⟩

lemma ledgerStep_grantScopeMembership {opts : CoordinatorGrantScopeMembershipInput} {now : String}
    {answer : MembershipOutcome}
    (h : tables.grantScopeMembership opts now = .ok (answer, tables')) :
    LedgerStep tables tables' := by
  obtain ⟨call, -, h⟩ := exists_of_bind_eq_ok h
  rcases hreceipt : tables.getMembershipEffectReceipt call.effectId with _ | receipt
  · simp only [hreceipt] at h
    obtain ⟨scope, -, h⟩ := exists_of_bind_eq_ok h
    obtain ⟨grant, hgrant, h⟩ := exists_of_bind_eq_ok h
    obtain ⟨_, -, h⟩ := exists_of_bind_eq_ok h
    obtain ⟨hscopeId, hdeviceId⟩ := normalizedGrant_names hgrant
    rw [hscopeId, hdeviceId] at h
    rcases hwritten : tables.upsertMembership (grant.row now) with ⟨written, _ | _⟩
    · simp only [hwritten] at h
      cases h
    · simp only [hwritten] at h
      obtain ⟨recorded, hrecorded, hanswer⟩ := exists_of_map_eq_ok h
      obtain ⟨rfl, hadvances⟩ := upsertMembership_eq_true hwritten
      obtain ⟨-, rfl⟩ := recordMembershipChange_eq_ok hrecorded
      rw [← (Prod.mk.inj hanswer).2]
      exact .applied _ _ _ (appliedChange hreceipt rfl rfl hadvances)
  · simp only [hreceipt] at h
    obtain ⟨_, -, hanswer⟩ := exists_of_map_eq_ok h
    rw [← (Prod.mk.inj hanswer).2]
    exact .unchanged

/-- A revocation of the SQLite store is a step of the ledger. -/
lemma ledgerStep_revokeScopeMembership {opts : CoordinatorRevokeScopeMembershipInput}
    {now : String} {answer : MembershipOutcome}
    (h : tables.revokeScopeMembership opts now = .ok (answer, tables')) :
    LedgerStep tables tables' := by
  obtain ⟨call, -, h⟩ := exists_of_bind_eq_ok h
  rcases hreceipt : tables.getMembershipEffectReceipt call.effectId with _ | receipt
  · simp only [hreceipt] at h
    obtain ⟨epoch, -, h⟩ := exists_of_bind_eq_ok h
    obtain ⟨_, -, h⟩ := exists_of_bind_eq_ok h
    rcases hexisting : tables.getScopeMembership call.scopeId call.deviceId with _ | existing
    · simp only [hexisting] at h
      obtain ⟨recorded, hrecorded, hanswer⟩ := exists_of_map_eq_ok h
      obtain ⟨hfresh, rfl, -⟩ :=
        ScopeTables.insertMembershipEffectReceipt_eq_some (of_orConstraint hrecorded)
      rw [← (Prod.mk.inj hanswer).2]
      refine .refused _ ⟨hfresh, rfl, fun stored hstored => ?_⟩
      have hmissing : (none : Option CoordinatorScopeMembership) = some stored :=
        hexisting.symm.trans hstored
      cases hmissing
    · simp only [hexisting] at h
      obtain ⟨plan, hplan, h⟩ := exists_of_bind_eq_ok h
      obtain ⟨rfl, hplanned⟩ := planRevoke_eq_ok hplan
      rcases hwritten : tables.revokeMembership plan now with ⟨written, _ | _⟩
      · simp only [hwritten] at h
        cases h
        exact .unchanged
      · simp only [hwritten] at h
        obtain ⟨recorded, hrecorded, hanswer⟩ := exists_of_map_eq_ok h
        obtain ⟨stored, hstored, hmatches, rfl⟩ := revokeMembership_eq_true hwritten
        obtain rfl : existing = stored := Option.some.inj (hexisting.symm.trans hstored)
        obtain ⟨-, rfl⟩ := recordMembershipChange_eq_ok hrecorded
        obtain ⟨hscopeId, hdeviceId⟩ := getScopeMembership_eq_some hstored
        have hget : tables.getScopeMembership (plan.row now existing).scopeId
            (plan.row now existing).deviceId = some existing := by
          rw [← hstored, ← hscopeId, ← hdeviceId]
          rfl
        rw [← (Prod.mk.inj hanswer).2]
        refine .applied _ _ _ (appliedChange hreceipt rfl ?_ fun found hfound => ?_)
        · rw [hget]
        · obtain rfl : existing = found := Option.some.inj (hget.symm.trans hfound)
          exact RevokePlan.advances hmatches (by rw [hplanned]; rfl)
  · simp only [hreceipt] at h
    obtain ⟨_, -, hanswer⟩ := exists_of_map_eq_ok h
    rw [← (Prod.mk.inj hanswer).2]
    exact .unchanged

/-! ### The batches of the D1 store -/

lemma prepareGrantEffectReceipt_false {call : GrantCall} {grant : NormalizedGrant} {now : String} :
    prepareGrantEffectReceipt call grant now (tables, false) = some (tables, false) := rfl

lemma prepareMembershipAudit_false {input : MembershipAuditInput} :
    prepareMembershipAuditFromCurrentRow input (tables, false) = some (tables, false) := by
  unfold prepareMembershipAuditFromCurrentRow
  rw [if_neg fun h => Bool.false_ne_true h.1]

lemma prepareMembershipAudit_refused (input : MembershipAuditInput)
    {receipt : MembershipEffectReceipt}
    (hreceipt : tables.getMembershipEffectReceipt input.effectId = some receipt)
    (hrefused : receipt.outcomeApplied = false) :
    prepareMembershipAuditFromCurrentRow input (tables, true) = some (tables, false) := by
  unfold prepareMembershipAuditFromCurrentRow
  rw [if_neg]
  rintro ⟨-, happlied⟩
  rw [hreceipt, Option.any_some, hrefused, Bool.and_false] at happlied
  cases happlied

lemma prepareMembershipAudit_applied (input : MembershipAuditInput)
    {receipt : MembershipEffectReceipt} {row : CoordinatorScopeMembership}
    (hreceipt : tables.getMembershipEffectReceipt input.effectId = some receipt)
    (hrequest : receipt.request = input.request) (happlied : receipt.outcomeApplied = true)
    (hrow : tables.getScopeMembership input.scopeId input.deviceId = some row)
    (hstatus : row.status = input.status) (hepoch : row.membershipEpoch = input.membershipEpoch)
    (hupdated : row.updatedAt = input.updatedAt) :
    prepareMembershipAuditFromCurrentRow input (tables, true) =
      (tables.insertMembershipAudit (membershipAuditRow input.effectId input.action row
        input.previous input.actorType input.actorId input.updatedAt)).map fun audited =>
          (audited, true) := by
  unfold prepareMembershipAuditFromCurrentRow
  rw [if_pos ⟨rfl, by rw [hreceipt, Option.any_some, happlied, decide_eq_true hrequest]; rfl⟩]
  dsimp only
  have hfilter : (some row).filter (fun row => row.status == input.status &&
      decide (row.membershipEpoch = input.membershipEpoch) && row.updatedAt == input.updatedAt) =
        some row := by
    simp [hstatus, hepoch, hupdated]
  rw [hrow, hfilter]

abbrev ScopeTables.withChange (tables : ScopeTables) (row : CoordinatorScopeMembership)
    (receipt : MembershipEffectReceipt) : ScopeTables :=
  { tables.writeMembership row with effectReceipts := tables.effectReceipts ++ [receipt] }

lemma getReceipt_withChange {row : CoordinatorScopeMembership} {receipt : MembershipEffectReceipt}
    (hfresh : tables.getMembershipEffectReceipt receipt.effectId = none) :
    (tables.withChange row receipt).getMembershipEffectReceipt receipt.effectId = some receipt := by
  unfold ScopeTables.getMembershipEffectReceipt rowAt at hfresh ⊢
  rw [List.find?_append, hfresh, Option.none_or]
  simp

lemma runGrantBatch_recorded {call : GrantCall} {existing : Option CoordinatorScopeMembership}
    {grant : NormalizedGrant} {now : String} {receipt : MembershipEffectReceipt}
    (h : tables.getMembershipEffectReceipt call.effectId = some receipt) :
    runGrantBatch tables call existing grant now = some tables := by
  unfold runGrantBatch
  dsimp only
  rw [h, Option.isSome_some, if_pos rfl, prepareGrantEffectReceipt_false, Option.bind_some,
    prepareMembershipAudit_false, Option.map_some]

lemma runGrantBatch_refused {call : GrantCall} {existing : Option CoordinatorScopeMembership}
    {grant : NormalizedGrant} {now : String}
    (hfresh : tables.getMembershipEffectReceipt call.effectId = none)
    (hrefused : tables.upsertMembership (grant.row now) = (tables, false)) :
    runGrantBatch tables call existing grant now = some tables := by
  unfold runGrantBatch
  dsimp only
  rw [hfresh, Option.isSome_none, if_neg Bool.false_ne_true, hrefused,
    prepareGrantEffectReceipt_false, Option.bind_some, prepareMembershipAudit_false,
    Option.map_some]

lemma runGrantBatch_applied {call : GrantCall} {existing : Option CoordinatorScopeMembership}
    {grant : NormalizedGrant} {now : String}
    (hfresh : tables.getMembershipEffectReceipt call.effectId = none)
    (happlied : tables.upsertMembership (grant.row now) =
      (tables.writeMembership (grant.row now), true)) :
    runGrantBatch tables call existing grant now =
      (tables.withChange (grant.row now) (call.receipt (grant.row now) now)).insertMembershipAudit
        (membershipAuditRow call.effectId .grant (grant.row now) existing grant.actorType
          grant.actorId now) := by
  have hrow : (tables.writeMembership (grant.row now)).getScopeMembership grant.scopeId
      grant.deviceId = some (grant.row now) :=
    ScopeTables.getScopeMembership_writeMembership (grant.row now)
  have hreceipt : prepareGrantEffectReceipt call grant now
      (tables.writeMembership (grant.row now), true) =
        some (tables.withChange (grant.row now) (call.receipt (grant.row now) now), true) := by
    unfold prepareGrantEffectReceipt
    rw [if_pos rfl]
    dsimp only
    rw [hrow]
    dsimp only
    rw [ScopeTables.insertMembershipEffectReceipt_of_fresh _ hfresh]
    rfl
  have hfound : (tables.withChange (grant.row now)
      (call.receipt (grant.row now) now)).getMembershipEffectReceipt call.effectId =
        some (call.receipt (grant.row now) now) := getReceipt_withChange hfresh
  have haudit := prepareMembershipAudit_applied (call.auditInput existing grant now)
    hfound rfl rfl hrow rfl rfl rfl
  unfold runGrantBatch
  dsimp only
  rw [hfresh, Option.isSome_none, if_neg Bool.false_ne_true, happlied, hreceipt, Option.bind_some,
    haudit, Option.map_map]
  exact Option.map_id'

lemma runRevokeBatch_recorded {plan : RevokePlan} {now : String}
    {receipt : MembershipEffectReceipt}
    (h : tables.getMembershipEffectReceipt plan.call.effectId = some receipt) :
    runRevokeBatch tables plan now = some tables := by
  have hreceipt : prepareRevokeEffectReceipt plan.call now (tables, false) =
      some (tables, false) := by
    unfold prepareRevokeEffectReceipt
    rw [h, Option.isSome_some, if_pos rfl]
  unfold runRevokeBatch
  dsimp only
  rw [h, Option.isSome_some, if_pos rfl, hreceipt, Option.bind_some, prepareMembershipAudit_false,
    Option.map_some]

lemma runRevokeBatch_refused {plan : RevokePlan} {now : String}
    (hfresh : tables.getMembershipEffectReceipt plan.call.effectId = none)
    (hrefused : tables.revokeMembership plan now = (tables, false)) :
    runRevokeBatch tables plan now = some { tables with
      effectReceipts := tables.effectReceipts ++ [plan.call.receipt none now] } := by
  have hreceipt : prepareRevokeEffectReceipt plan.call now (tables, false) =
      some ({ tables with
        effectReceipts := tables.effectReceipts ++ [plan.call.receipt none now] }, true) := by
    unfold prepareRevokeEffectReceipt
    dsimp only
    rw [hfresh, Option.isSome_none, if_neg Bool.false_ne_true, if_neg Bool.false_ne_true]
    change (tables.insertMembershipEffectReceipt (plan.call.receipt none now)).map _ = _
    rw [ScopeTables.insertMembershipEffectReceipt_of_fresh _ hfresh]
    rfl
  obtain ⟨-, -, hfound⟩ := ScopeTables.insertMembershipEffectReceipt_eq_some
    (ScopeTables.insertMembershipEffectReceipt_of_fresh (plan.call.receipt none now) hfresh)
  have haudit := prepareMembershipAudit_refused (plan.auditInput now) hfound rfl
  unfold runRevokeBatch
  dsimp only
  rw [hfresh, Option.isSome_none, if_neg Bool.false_ne_true, hrefused, hreceipt, Option.bind_some,
    haudit, Option.map_some]

/-- A revocation that is applied writes its row, its receipt and its audit row. -/
lemma runRevokeBatch_applied {plan : RevokePlan} {now : String}
    {stored : CoordinatorScopeMembership}
    (hfresh : tables.getMembershipEffectReceipt plan.call.effectId = none)
    (hstored : tables.getScopeMembership plan.call.scopeId plan.call.deviceId = some stored)
    (hmatches : plan.matches stored = true) :
    runRevokeBatch tables plan now =
      (tables.withChange (plan.row now stored)
        (plan.call.receipt (some (plan.row now stored)) now)).insertMembershipAudit
          (membershipAuditRow plan.call.effectId .revoke (plan.row now stored) plan.existing
            (cleanText plan.call.opts.actorType) (cleanText plan.call.opts.actorId) now) := by
  obtain ⟨hscopeId, hdeviceId⟩ := getScopeMembership_eq_some hstored
  have happlied : tables.revokeMembership plan now =
      (tables.writeMembership (plan.row now stored), true) := by
    unfold ScopeTables.revokeMembership
    rw [hstored]
    dsimp only
    rw [if_pos hmatches]
  have hrow : (tables.writeMembership (plan.row now stored)).getScopeMembership plan.call.scopeId
      plan.call.deviceId = some (plan.row now stored) := by
    rw [← hscopeId, ← hdeviceId]
    exact ScopeTables.getScopeMembership_writeMembership (plan.row now stored)
  have hreceipt : prepareRevokeEffectReceipt plan.call now
      (tables.writeMembership (plan.row now stored), true) =
        some (tables.withChange (plan.row now stored)
          (plan.call.receipt (some (plan.row now stored)) now), true) := by
    have hfresh' : (tables.writeMembership (plan.row now stored)).getMembershipEffectReceipt
        plan.call.effectId = none := hfresh
    unfold prepareRevokeEffectReceipt
    dsimp only
    rw [hfresh', Option.isSome_none, if_neg Bool.false_ne_true, if_pos rfl, hrow]
    change ((tables.writeMembership (plan.row now stored)).insertMembershipEffectReceipt
      (plan.call.receipt (some (plan.row now stored)) now)).map _ = _
    rw [ScopeTables.insertMembershipEffectReceipt_of_fresh _ hfresh']
    rfl
  have hepoch : (plan.row now stored).membershipEpoch = (plan.auditInput now).membershipEpoch := by
    unfold RevokePlan.matches at hmatches
    simp only [Bool.and_eq_true, decide_eq_true_eq] at hmatches
    unfold RevokePlan.row RevokePlan.auditInput
    dsimp only
    rw [hmatches.1]
  have hfound : (tables.withChange (plan.row now stored)
      (plan.call.receipt (some (plan.row now stored)) now)).getMembershipEffectReceipt
        plan.call.effectId = some (plan.call.receipt (some (plan.row now stored)) now) :=
    getReceipt_withChange hfresh
  have haudit := prepareMembershipAudit_applied (plan.auditInput now) hfound rfl rfl hrow
    rfl hepoch rfl
  unfold runRevokeBatch
  dsimp only
  rw [hfresh, Option.isSome_none, if_neg Bool.false_ne_true, happlied, hreceipt, Option.bind_some,
    haudit, Option.map_map]
  exact Option.map_id'

/-! ### The calls of the D1 store -/

/-- The request is recorded under the effect id. -/
def ScopeTables.Recorded (tables : ScopeTables) (effectId : String)
    (request : MembershipEffectRequest) : Prop :=
  (tables.getMembershipEffectReceipt effectId).any fun receipt => decide (receipt.request = request)

instance (tables : ScopeTables) (effectId : String) (request : MembershipEffectRequest) :
    Decidable (tables.Recorded effectId request) := inferInstanceAs (Decidable (_ = true))

/-- No other call comes between the reads of a call and its batch: the batch meets the columns of
the membership it was decided on, or has no effect that depends on them.  A call whose own request
was recorded meanwhile passes the checks that are left. -/
def MembershipStage.Undisturbed (tables : ScopeTables) : MembershipStage → Prop
  | grantLookup _ => True
  | grantScope call scopeId => tables.Recorded call.effectId call.request →
      (activeScope (tables.getScope scopeId)).isOk = true ∧
        (cleanText call.opts.deviceId).isSome = true
  | grantExisting call scope scopeId deviceId => tables.Recorded call.effectId call.request →
      (normalizeCoordinatorGrantScopeMembershipInput call.opts scope
        (tables.getScopeMembership scopeId deviceId)).isOk = true
  | grantEnrollment call _ grant groupId => tables.Recorded call.effectId call.request →
      (requireEnrollment
        (tables.devices.getEnrollment groupId grant.deviceId false)).isOk = true
  | grantBatch call existing grant _ =>
      (tables.getMembershipEffectReceipt call.effectId).isSome = true ∨
        ((tables.getScopeMembership grant.scopeId grant.deviceId).any fun stored =>
          !grantSupersedes grant.membershipEpoch stored) = true ∨
        existing.map CoordinatorScopeMembership.columns =
          (tables.getScopeMembership grant.scopeId grant.deviceId).map
            CoordinatorScopeMembership.columns
  | grantOutcome _ => True
  | revokeLookup _ => True
  | revokeScope call _ => tables.Recorded call.effectId call.request →
      (requireScopeGroup (cleanText call.opts.groupId) (tables.getScope call.scopeId)).isOk = true
  | revokeExisting call membershipEpoch => tables.Recorded call.effectId call.request →
      (planRevoke call membershipEpoch
        (tables.getScopeMembership call.scopeId call.deviceId)).isOk = true
  | revokeBatch plan _ =>
      (tables.getMembershipEffectReceipt plan.call.effectId).isSome = true ∨
        ((tables.getScopeMembership plan.call.scopeId plan.call.deviceId).any fun stored =>
          !plan.matches stored && stored.status != "active") = true ∨
        plan.existing.map CoordinatorScopeMembership.columns =
          (tables.getScopeMembership plan.call.scopeId plan.call.deviceId).map
            CoordinatorScopeMembership.columns
  | revokeRecheck _ => True
  | revokeOutcome _ => True

instance (tables : ScopeTables) : (stage : MembershipStage) →
    Decidable (stage.Undisturbed tables)
  | .grantLookup _ => .isTrue trivial
  | .grantScope _ _ => inferInstanceAs (Decidable (_ → _ ∧ _))
  | .grantExisting _ _ _ _ => inferInstanceAs (Decidable (_ → _))
  | .grantEnrollment _ _ _ _ => inferInstanceAs (Decidable (_ → _))
  | .grantBatch _ _ _ _ => inferInstanceAs (Decidable (_ ∨ _ ∨ _))
  | .grantOutcome _ => .isTrue trivial
  | .revokeLookup _ => .isTrue trivial
  | .revokeScope _ _ => inferInstanceAs (Decidable (_ → _))
  | .revokeExisting _ _ => inferInstanceAs (Decidable (_ → _))
  | .revokeBatch _ _ => inferInstanceAs (Decidable (_ ∨ _ ∨ _))
  | .revokeRecheck _ => .isTrue trivial
  | .revokeOutcome _ => .isTrue trivial

lemma ledgerStep_grantBatch {call : GrantCall} {existing : Option CoordinatorScopeMembership}
    {grant : NormalizedGrant} {now : String}
    (h : (MembershipStage.grantBatch call existing grant now).Undisturbed tables)
    (hbatch : runGrantBatch tables call existing grant now = some tables') :
    LedgerStep tables tables' := by
  rcases hreceipt : tables.getMembershipEffectReceipt call.effectId with _ | receipt
  · rcases hwritten : tables.upsertMembership (grant.row now) with ⟨written, _ | _⟩
    · rw [upsertMembership_eq_false hwritten] at hwritten
      rw [runGrantBatch_refused hreceipt hwritten] at hbatch
      rw [← Option.some.inj hbatch]
      exact .unchanged
    · obtain ⟨rfl, hadvances⟩ := upsertMembership_eq_true hwritten
      rw [runGrantBatch_applied hreceipt hwritten] at hbatch
      rw [ScopeTables.insertMembershipAudit_eq_some hbatch]
      refine .applied _ _ _ (appliedChange hreceipt rfl ?_ hadvances)
      rcases h with hrecorded | hrefused | hcolumns
      · rw [hreceipt] at hrecorded
        cases hrecorded
      · obtain ⟨stored, hstored, hrefused⟩ := (Option.any_eq_true _ _).mp hrefused
        have hget : tables.getScopeMembership (grant.row now).scopeId (grant.row now).deviceId =
            some stored := hstored
        have hrefused' : grantSupersedes (grant.row now).membershipEpoch stored = false :=
          (Bool.not_eq_true' _).mp hrefused
        unfold ScopeTables.upsertMembership at hwritten
        rw [hget, Option.all_some, hrefused', if_neg Bool.false_ne_true] at hwritten
        exact absurd (congrArg Prod.snd hwritten) Bool.false_ne_true
      · exact hcolumns
  · rw [runGrantBatch_recorded hreceipt] at hbatch
    rw [← Option.some.inj hbatch]
    exact .unchanged

/-- A revocation whose batch meets the membership it was decided on is a step of the ledger. -/
lemma ledgerStep_revokeBatch {plan : RevokePlan} {now : String}
    (h : (MembershipStage.revokeBatch plan now).Undisturbed tables)
    (hbatch : runRevokeBatch tables plan now = some tables') : LedgerStep tables tables' := by
  rcases hreceipt : tables.getMembershipEffectReceipt plan.call.effectId with _ | receipt
  · rcases hwritten : tables.revokeMembership plan now with ⟨written, _ | _⟩
    · obtain ⟨hsame, hmisses⟩ := revokeMembership_eq_false hwritten
      rw [hsame] at hwritten
      rw [runRevokeBatch_refused hreceipt hwritten] at hbatch
      rw [← Option.some.inj hbatch]
      refine .refused _ ⟨hreceipt, rfl, fun stored hstored => ?_⟩
      have hmiss := hmisses stored hstored
      have hget : tables.getScopeMembership plan.call.scopeId plan.call.deviceId = some stored :=
        hstored
      rcases h with hrecorded | hinactive | hcolumns
      · rw [hreceipt] at hrecorded
        cases hrecorded
      · rw [hget, Option.any_some] at hinactive
        simp only [Bool.and_eq_true, bne_iff_ne] at hinactive
        exact hinactive.2
      · -- the batch would have matched the membership it was decided on
        rw [hget, Option.map_some] at hcolumns
        obtain ⟨existing, hexisting, hsame⟩ := Option.map_eq_some_iff.mp hcolumns
        unfold RevokePlan.matches at hmiss
        obtain ⟨-, hstatus, hepoch⟩ := MembershipColumns.mk.inj hsame
        rw [hexisting] at hmiss
        simp [hstatus, hepoch] at hmiss
    · obtain ⟨stored, hstored, hmatches, rfl⟩ := revokeMembership_eq_true hwritten
      rw [runRevokeBatch_applied hreceipt hstored hmatches] at hbatch
      rw [ScopeTables.insertMembershipAudit_eq_some hbatch]
      obtain ⟨hscopeId, hdeviceId⟩ := getScopeMembership_eq_some hstored
      have hget : tables.getScopeMembership (plan.row now stored).scopeId
          (plan.row now stored).deviceId = some stored := by
        rw [← hstored, ← hscopeId, ← hdeviceId]
        rfl
      have hcolumns : plan.existing.map CoordinatorScopeMembership.columns =
          some stored.columns := by
        rcases h with hrecorded | hmiss | hcolumns
        · rw [hreceipt] at hrecorded
          cases hrecorded
        · rw [hstored, Option.any_some, hmatches] at hmiss
          cases hmiss
        · rw [hstored] at hcolumns
          exact hcolumns
      refine .applied _ _ _ (appliedChange hreceipt rfl ?_ fun found hfound => ?_)
      · rw [hget, hcolumns, Option.map_some]
      · rw [← Option.some.inj (hget.symm.trans hfound)]
        obtain ⟨existing, hexisting, -⟩ := Option.map_eq_some_iff.mp hcolumns
        exact RevokePlan.advances hmatches (by rw [hexisting]; rfl)
  · rw [runRevokeBatch_recorded hreceipt] at hbatch
    rw [← Option.some.inj hbatch]
    exact .unchanged

lemma MembershipStage.ledgerStep {stage : MembershipStage} {now : String}
    (h : stage.Undisturbed tables) : LedgerStep tables (stage.next tables now).2 := by
  rcases stage with call | ⟨call, scopeId⟩ | ⟨call, scope, scopeId, deviceId⟩ |
    ⟨call, existing, grant, groupId⟩ | ⟨call, existing, grant, sentAt⟩ | call | call |
    ⟨call, epoch⟩ | ⟨call, epoch⟩ | ⟨plan, sentAt⟩ | plan | call
  · unfold next
    dsimp only
    rcases tables.getMembershipEffectReceipt call.effectId with _ | receipt
    · exact .unchanged
    · exact .unchanged
  · exact .unchanged
  · exact .unchanged
  · exact .unchanged
  · unfold next
    dsimp only
    rcases hbatch : runGrantBatch tables call existing grant sentAt with _ | tables'
    · exact .unchanged
    · exact ledgerStep_grantBatch h hbatch
  · exact .unchanged
  · unfold next
    dsimp only
    rcases tables.getMembershipEffectReceipt call.effectId with _ | receipt
    · exact .unchanged
    · exact .unchanged
  · exact .unchanged
  · exact .unchanged
  · unfold next
    dsimp only
    rcases hbatch : runRevokeBatch tables plan sentAt with _ | tables'
    · exact .unchanged
    · exact ledgerStep_revokeBatch h hbatch
  · unfold next
    dsimp only
    split_ifs
    · exact .unchanged
    · exact .unchanged
  · exact .unchanged

lemma answerFromReceipt_of_request {receipt : MembershipEffectReceipt}
    {request : MembershipEffectRequest} (h : receipt.request = request) :
    answerFromReceipt receipt request = receipt.outcome := by
  unfold answerFromReceipt assertMatchingMembershipEffectReceipt
  rw [if_pos h]
  rfl

lemma recorded_of_receipt {effectId : String} {request : MembershipEffectRequest}
    {receipt : MembershipEffectReceipt}
    (h : tables.getMembershipEffectReceipt effectId = some receipt)
    (hrequest : receipt.request = request) : tables.Recorded effectId request := by
  unfold ScopeTables.Recorded
  rw [h, Option.any_some]
  exact decide_eq_true hrequest

lemma ne_ended {ς α : Type} {progress : CallProgress ς α} {stage : ς} {result : Except String α}
    (h : progress = .suspended stage) : progress ≠ .ended result := by
  rw [h]
  exact fun hended => by cases hended

/-- A call that is not disturbed and whose request is recorded changes nothing and answers what the
receipt says. -/
lemma MembershipStage.repeats {stage : MembershipStage} {now : String}
    (h : stage.Undisturbed tables) (hrecheck : ∀ plan, stage ≠ .revokeRecheck plan) :
    stage.Repeats tables now := by
  intro receipt hreceipt hrequest
  rcases stage with call | ⟨call, scopeId⟩ | ⟨call, scope, scopeId, deviceId⟩ |
    ⟨call, existing, grant, groupId⟩ | ⟨call, existing, grant, sentAt⟩ | call | call |
    ⟨call, epoch⟩ | ⟨call, epoch⟩ | ⟨plan, sentAt⟩ | plan | call
  · unfold next
    dsimp only [effectId] at hreceipt ⊢
    rw [hreceipt]
    refine ⟨rfl, fun result hresult => ?_⟩
    rw [← answerFromReceipt_of_request hrequest]
    injection hresult with hresult
    exact hresult.symm
  · refine ⟨rfl, fun result hresult => absurd hresult ?_⟩
    obtain ⟨hscope, hdevice⟩ := h (recorded_of_receipt hreceipt hrequest)
    obtain ⟨scope, hscope⟩ := exists_of_isOk hscope
    obtain ⟨deviceId, hdeviceId⟩ := Option.isSome_iff_exists.mp hdevice
    unfold next CallProgress.after grantAfterScope
    dsimp only
    rw [hscope]
    dsimp only
    rw [hdeviceId]
    exact ne_ended rfl
  · refine ⟨rfl, fun result hresult => absurd hresult ?_⟩
    obtain ⟨grant, hgrant⟩ := exists_of_isOk (h (recorded_of_receipt hreceipt hrequest))
    unfold next grantAfterExisting CallProgress.after
    dsimp only
    rw [hgrant]
    dsimp only
    rcases grant.enrollmentGroup with _ | groupId
    · exact ne_ended rfl
    · exact ne_ended rfl
  · refine ⟨rfl, fun result hresult => absurd hresult ?_⟩
    obtain ⟨_, hpasses⟩ := exists_of_isOk (h (recorded_of_receipt hreceipt hrequest))
    unfold next CallProgress.after
    dsimp only
    rw [hpasses]
    exact ne_ended rfl
  · unfold next
    dsimp only
    rw [runGrantBatch_recorded hreceipt]
    exact ⟨rfl, fun result hresult => absurd hresult (ne_ended rfl)⟩
  · unfold next answerOfCall
    dsimp only [effectId] at hreceipt ⊢
    rw [hreceipt]
    refine ⟨rfl, fun result hresult => ?_⟩
    rw [← answerFromReceipt_of_request hrequest]
    injection hresult with hresult
    exact hresult.symm
  · unfold next
    dsimp only [effectId] at hreceipt ⊢
    rw [hreceipt]
    refine ⟨rfl, fun result hresult => ?_⟩
    rw [← answerFromReceipt_of_request hrequest]
    injection hresult with hresult
    exact hresult.symm
  · refine ⟨rfl, fun result hresult => absurd hresult ?_⟩
    obtain ⟨_, hpasses⟩ := exists_of_isOk (h (recorded_of_receipt hreceipt hrequest))
    unfold next CallProgress.after
    dsimp only
    rw [hpasses]
    exact ne_ended rfl
  · refine ⟨rfl, fun result hresult => absurd hresult ?_⟩
    obtain ⟨plan, hplan⟩ := exists_of_isOk (h (recorded_of_receipt hreceipt hrequest))
    unfold next CallProgress.after
    dsimp only
    rw [hplan]
    exact ne_ended rfl
  · unfold next
    dsimp only
    rw [runRevokeBatch_recorded hreceipt]
    exact ⟨rfl, fun result hresult => absurd hresult (ne_ended rfl)⟩
  · exact absurd rfl (hrecheck plan)
  · unfold next answerOfCall
    dsimp only [effectId] at hreceipt ⊢
    rw [hreceipt]
    refine ⟨rfl, fun result hresult => ?_⟩
    rw [← answerFromReceipt_of_request hrequest]
    injection hresult with hresult
    exact hresult.symm

lemma runRevokeBatch_isSome (hledger : LedgerConsistent tables) (plan : RevokePlan)
    (now : String) : (runRevokeBatch tables plan now).isSome = true := by
  rcases hreceipt : tables.getMembershipEffectReceipt plan.call.effectId with _ | receipt
  · rcases hwritten : tables.revokeMembership plan now with ⟨written, _ | _⟩
    · rw [(revokeMembership_eq_false hwritten).1] at hwritten
      rw [runRevokeBatch_refused hreceipt hwritten]
      rfl
    · obtain ⟨stored, hstored, hmatches, -⟩ := revokeMembership_eq_true hwritten
      rw [runRevokeBatch_applied hreceipt hstored hmatches]
      unfold ScopeTables.insertMembershipAudit
      rw [if_neg]
      · rfl
      · rintro haudited
        obtain ⟨row, hrow, hsame⟩ := List.any_eq_true.mp haudited
        obtain ⟨found, hfound, heffect⟩ := hledger.recorded row hrow
        exact rowAt_eq_none hreceipt hfound (heffect.trans (beq_iff_eq.mp hsame))
  · rw [runRevokeBatch_recorded hreceipt]
    rfl

end Codemem

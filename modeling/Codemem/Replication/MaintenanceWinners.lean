import Codemem.Foundation.Trace
import Codemem.Replication.Convergence
import Codemem.Store.Maintenance

/-!
# Maintenance and conflicts

The same ops are applied to a store and to the store that maintenance left.  As long as no op
reaches a memory with a clock that is newer than one of the two stored clocks but not than the
other, both stores take the same decisions and every memory ends with the same winner.  Maintenance
moves `updated_at`, so such ops exist: an edit of the same revision number that was newer than the
stored row is not newer than the maintained one.
-/

namespace Codemem

lemma find?_forall₂ {α β : Type*} {R : α → β → Prop} {p : α → Bool} {q : β → Bool}
    {l : List α} {l' : List β} (h : List.Forall₂ R l l') (htest : ∀ a b, R a b → p a = q b) :
    Option.Rel R (l.find? p) (l'.find? q) := by
  induction h with
  | nil => exact .none
  | @cons a b l l' hab _ ih =>
    rw [List.find?_cons, List.find?_cons, ← htest a b hab]
    cases p a with
    | true => exact .some hab
    | false => exact ih

/-! ### Twin stores -/

/-- The stored rows of a store before and after maintenance, row by row. -/
def storedRevisions (st st' : Store) : List (MemoryItem × MemoryItem) :=
  st.memoryItems.zip st'.memoryItems

/-- Two rows show the same revision: their status agrees, their texts agree up to redaction, and
either they have one clock or both still have the clock they were stored with. -/
structure SameRevision (tools : MaintenanceTools) (stored : List (MemoryItem × MemoryItem))
    (row row' : MemoryItem) : Prop where
  id : row'.id = row.id
  importKey : row'.importKey = row.importKey
  active : row'.active = row.active
  deletedAt : row'.deletedAt = row.deletedAt
  title : RedactedFrom tools row.title row'.title
  bodyText : RedactedFrom tools row.bodyText row'.bodyText
  clock : row'.clock = row.clock ∨
    ∃ p ∈ stored, p.1.id = row.id ∧ row.clock = p.1.clock ∧ row'.clock = p.2.clock

/-- Two stores that hold the same revisions and log, and agree on who may write. -/
structure Twins (tools : MaintenanceTools) (stored : List (MemoryItem × MemoryItem))
    (st st' : Store) : Prop where
  rows : List.Forall₂ (SameRevision tools stored) st.memoryItems st'.memoryItems
  log : st'.replicationOps = st.replicationOps
  retirements : st'.memoryScopeRetirements = st.memoryScopeRetirements
  membership : SameMembership st st'

lemma MaintainedFrom.twins {tools : MaintenanceTools} {st st' : Store}
    (h : MaintainedFrom tools st st') : Twins tools (storedRevisions st st') st st' := by
  have hrows := h.rows
  obtain ⟨files, concepts, hrest⟩ := h.rest
  constructor
  · rw [List.forall₂_iff_zip] at hrows ⊢
    refine ⟨hrows.1, fun {row row'} hmem => ?_⟩
    obtain ⟨hid, hkey, hactive, hdeleted, htitle, hbody⟩ := hrows.2 hmem
    exact ⟨hid, hkey, hactive, hdeleted, htitle, hbody, Or.inr ⟨_, hmem, rfl, rfl, rfl⟩⟩
  · rw [hrest]
  · rw [hrest]
  · rw [hrest]
    exact ⟨rfl, rfl, rfl⟩

section Step

variable {tools : MaintenanceTools} {stored : List (MemoryItem × MemoryItem)} {st st' : Store}
  {ctx : ApplyContext} {localDeviceId : String} {op : ReplicationOp}

lemma Twins.memoryByImportKey (h : Twins tools stored st st') (key : String) :
    Option.Rel (SameRevision tools stored) (st.memoryByImportKey key)
      (st'.memoryByImportKey key) := by
  refine find?_forall₂ h.rows fun row row' hrow => ?_
  rw [hrow.importKey]

lemma Twins.nextMemoryId (h : Twins tools stored st st') : st'.nextMemoryId = st.nextMemoryId := by
  have hids : st'.memoryItems.map MemoryItem.id = st.memoryItems.map MemoryItem.id := by
    have hrows := h.rows
    generalize st.memoryItems = rows at hrows
    generalize st'.memoryItems = rows' at hrows
    induction hrows with
    | nil => rfl
    | cons hrow _ ih => rw [List.map_cons, List.map_cons, hrow.id, ih]
  unfold Store.nextMemoryId
  rw [hids]

lemma Twins.skip (h : Twins tools stored st st') (op : ReplicationOp) (localDeviceId : String) :
    skipOwnRetiredOrAppliedOp st' op localDeviceId =
      skipOwnRetiredOrAppliedOp st op localDeviceId := by
  unfold skipOwnRetiredOrAppliedOp skipOwnOrRetiredMemoryOp Store.hasOp
  rw [retirementBlocksMemoryOp_congr h.retirements, h.log]

lemma Twins.insertReplicationOpRow (h : Twins tools stored st st') (op : ReplicationOp) :
    Twins tools stored (st.insertReplicationOpRow op) (st'.insertReplicationOpRow op) := by
  have hhas : st'.hasOp op.opId = st.hasOp op.opId := by
    unfold Store.hasOp
    rw [h.log]
  unfold Store.insertReplicationOpRow
  rw [hhas]
  split_ifs
  · exact h
  · exact ⟨h.rows, by rw [h.log], h.retirements, h.membership.scopes, h.membership.memberships,
      h.membership.overlays⟩

/-- Writes of memories, sessions, references and foreign revisions. -/
def WritesRows (st : Store) (items : List MemoryItem) (after : Store) : Prop :=
  ∃ sessions files concepts revisions, after =
    { st with
      memoryItems := items
      sessions := sessions
      memoryFileRefs := files
      memoryConceptRefs := concepts
      memoryForeignRevisions := revisions }

lemma Twins.write (h : Twins tools stored st st') {after after' : Store}
    {items items' : List MemoryItem} (hafter : WritesRows st items after)
    (hafter' : WritesRows st' items' after')
    (hrows : List.Forall₂ (SameRevision tools stored) items items') (op : ReplicationOp) :
    Twins tools stored (after.insertReplicationOpRow op) (after'.insertReplicationOpRow op) := by
  obtain ⟨_, _, _, _, rfl⟩ := hafter
  obtain ⟨_, _, _, _, rfl⟩ := hafter'
  refine Twins.insertReplicationOpRow ?_ op
  exact ⟨hrows, h.log, h.retirements, h.membership.scopes, h.membership.memberships,
    h.membership.overlays⟩

/-! ### The rows an op writes -/

lemma sameRevision_of_clock {row row' : MemoryItem} (hid : row'.id = row.id)
    (hkey : row'.importKey = row.importKey) (hactive : row'.active = row.active)
    (hdeleted : row'.deletedAt = row.deletedAt) (htitle : RedactedFrom tools row.title row'.title)
    (hbody : RedactedFrom tools row.bodyText row'.bodyText) (hclock : row.clock = op.clock)
    (hclock' : row'.clock = op.clock) : SameRevision tools stored row row' :=
  ⟨hid, hkey, hactive, hdeleted, htitle, hbody, Or.inl (hclock'.trans hclock.symm)⟩

lemma SameRevision.overwrite {payload : MemoryPayload} {memRow memRow' row row' : MemoryItem}
    (hmem : SameRevision tools stored memRow memRow') (hrow : SameRevision tools stored row row') :
    SameRevision tools stored
      (overwriteRow op payload (writtenActive payload memRow) (nextDeletedAt payload memRow) row)
      (overwriteRow op payload (writtenActive payload memRow') (nextDeletedAt payload memRow')
        row') := by
  have hdeleted : nextDeletedAt payload memRow' = nextDeletedAt payload memRow := by
    unfold nextDeletedAt
    rw [hmem.deletedAt]
  have hactive : writtenActive payload memRow' = writtenActive payload memRow := by
    unfold writtenActive
    rw [hdeleted, hmem.active]
  have htext : ∀ (next : Option String) (text text' : String), RedactedFrom tools text text' →
      RedactedFrom tools (next.getD text) (next.getD text') := by
    intro next text text' htext
    rcases next with _ | value
    · exact htext
    · exact .refl tools value
  rw [hdeleted, hactive]
  exact sameRevision_of_clock hrow.id hrow.importKey rfl rfl (htext _ _ _ hrow.title)
    (htext _ _ _ hrow.bodyText) (overwriteRow_clock op payload _ _ row)
    (overwriteRow_clock op payload _ _ row')

lemma SameRevision.tombstone {row row' : MemoryItem} (hrow : SameRevision tools stored row row')
    (now : String) : SameRevision tools stored (tombstoneRow op now row) (tombstoneRow op now row') := by
  have hdeleted : (tombstoneRow op now row').deletedAt = (tombstoneRow op now row).deletedAt := by
    unfold tombstoneRow
    rw [hrow.deletedAt]
  exact sameRevision_of_clock hrow.id hrow.importKey rfl hdeleted hrow.title hrow.bodyText
    (tombstoneRow_clock op now row) (tombstoneRow_clock op now row')

lemma sameRevision_inserted (payload : MemoryPayload) (sessionId sessionId' id : ℕ) :
    SameRevision tools stored { insertedRow op payload sessionId with id := id }
      { insertedRow op payload sessionId' with id := id } :=
  sameRevision_of_clock rfl rfl rfl rfl (.refl tools _) (.refl tools _)
    (insertedRow_clock op payload sessionId id) (insertedRow_clock op payload sessionId' id)

lemma applyUpsertUpdate_writes (ctx : ApplyContext) (st : Store) (op : ReplicationOp)
    (payload : MemoryPayload) (memRow : MemoryItem) :
    ∃ after, WritesRows st (st.memoryItems.map fun row =>
        if row.importKey == some op.entityId then overwriteRow op payload
          (writtenActive payload memRow) (nextDeletedAt payload memRow) row else row) after ∧
      (applyUpsertUpdate ctx st op payload memRow).1 = after.insertReplicationOpRow op := by
  obtain ⟨revisions, hrevisions⟩ := recordForeignMemoryRevision_eq st op.entityId .replication
  unfold applyUpsertUpdate
  rw [hrevisions]
  exact ⟨_, ⟨_, _, _, _, rfl⟩, rfl⟩

lemma applyUpsertInsert_writes (ctx : ApplyContext) (st : Store) (op : ReplicationOp)
    (payload : MemoryPayload) :
    ∃ after, WritesRows st (st.memoryItems ++
        [{ insertedRow op payload st.nextSessionId with id := st.nextMemoryId }]) after ∧
      (applyUpsertInsert ctx st op payload).1 = after.insertReplicationOpRow op := by
  obtain ⟨revisions, hrevisions⟩ := recordForeignMemoryRevision_eq
    (st.insertSession none (replicatedProject payload)).2 op.entityId .replication
  unfold applyUpsertInsert
  dsimp only
  rw [hrevisions]
  exact ⟨_, ⟨_, _, _, _, rfl⟩, rfl⟩

end Step

/-! ### One op on both stores -/

/-- A clock is newer than one of two others but not than the other one. -/
def BetweenClocks (clock first second : Clock) : Prop :=
  isNewerClock clock first ≠ isNewerClock clock second

instance (clock first second : Clock) : Decidable (BetweenClocks clock first second) :=
  inferInstanceAs (Decidable (_ ≠ _))

/-- The op gets as far as the comparison of clocks: it is neither skipped nor malformed. -/
def reachesClock (ctx : ApplyContext) (localDeviceId : String) (st : Store) (op : ReplicationOp) :
    Bool :=
  !skipOwnRetiredOrAppliedOp st op localDeviceId &&
    (op.opType == .delete || (parseMemoryPayload ctx.runtime op).1.isSome)

/-- The op does not reach its memory between the clocks that the two stores hold for it. -/
def SettledAlike (ctx : ApplyContext) (localDeviceId : String) (twins : Store × Store)
    (op : ReplicationOp) : Prop :=
  reachesClock ctx localDeviceId twins.1 op = true →
    ∀ row ∈ twins.1.memoryByImportKey op.entityId,
      ∀ row' ∈ twins.2.memoryByImportKey op.entityId, ¬ BetweenClocks op.clock row.clock row'.clock

/-- One op, applied to both stores. -/
def applyTwins (ctx : ApplyContext) (localDeviceId : String) (twins : Store × Store)
    (op : ReplicationOp) : Store × Store :=
  ((applyReplicationOp ctx localDeviceId twins.1 op).1,
    (applyReplicationOp ctx localDeviceId twins.2 op).1)

section Ops

variable {tools : MaintenanceTools} {stored : List (MemoryItem × MemoryItem)}
  {ctx : ApplyContext} {localDeviceId : String} {op : ReplicationOp} {st st' : Store}

lemma Twins.lookup (h : Twins tools stored st st') (key : String) :
    (st.memoryByImportKey key = none ∧ st'.memoryByImportKey key = none) ∨
      ∃ row row', st.memoryByImportKey key = some row ∧ st'.memoryByImportKey key = some row' ∧
        SameRevision tools stored row row' := by
  have hrel := h.memoryByImportKey key
  generalize st.memoryByImportKey key = found at hrel
  generalize st'.memoryByImportKey key = found' at hrel
  cases hrel with
  | none => exact Or.inl ⟨rfl, rfl⟩
  | some hrow => exact Or.inr ⟨_, _, rfl, rfl, hrow⟩

/-- An upsert that is settled alike keeps the stores twins. -/
lemma Twins.applyUpsert (h : Twins tools stored st st')
    (hsettled : (parseMemoryPayload ctx.runtime op).1.isSome = true →
      ∀ row ∈ st.memoryByImportKey op.entityId, ∀ row' ∈ st'.memoryByImportKey op.entityId,
        ¬ BetweenClocks op.clock row.clock row'.clock) :
    ∃ result result', Codemem.applyUpsert ctx st op none = .ok result ∧
      Codemem.applyUpsert ctx st' op none = .ok result' ∧ Twins tools stored result.1 result'.1 := by
  rcases h.lookup op.entityId with ⟨hnone, hnone'⟩ | ⟨row, row', hrow, hrow', hsame⟩
  · -- no such memory: both stores insert it, if the payload parses
    unfold Codemem.applyUpsert
    rw [hnone, hnone']
    dsimp only
    rcases hparse : parseMemoryPayload ctx.runtime op with ⟨_ | payload, errors⟩
    · exact ⟨_, _, rfl, rfl, h.insertReplicationOpRow op⟩
    · refine ⟨applyUpsertInsert ctx st op (redactMemoryFields ctx.scanner payload),
        applyUpsertInsert ctx st' op (redactMemoryFields ctx.scanner payload), rfl, rfl, ?_⟩
      obtain ⟨after, hwrites, hafter⟩ :=
        applyUpsertInsert_writes ctx st op (redactMemoryFields ctx.scanner payload)
      obtain ⟨after', hwrites', hafter'⟩ :=
        applyUpsertInsert_writes ctx st' op (redactMemoryFields ctx.scanner payload)
      rw [hafter, hafter']
      refine h.write hwrites hwrites' ?_ op
      rw [h.nextMemoryId]
      exact List.rel_append h.rows (.cons (sameRevision_inserted _ _ _ _) .nil)
  · unfold Codemem.applyUpsert
    rw [hrow, hrow']
    simp only [reassignScopeMismatch, sameReassignmentClock, Option.any_none, Bool.false_eq_true,
      if_false, and_true]
    rcases hparse : parseMemoryPayload ctx.runtime op with ⟨_ | payload, errors⟩
    · -- a malformed payload changes no row, older or newer
      have hlogged : ∀ (s : Store) (newer : Bool), ∃ result : Store × OpTally,
          (if newer = false then Except.ok (s.insertReplicationOpRow op, tallyConflict)
            else .ok (s.insertReplicationOpRow op, tallySkipped errors) : Except String _) =
              .ok result ∧ result.1 = s.insertReplicationOpRow op := by
        intro s newer
        rcases newer with _ | _
        · exact ⟨_, rfl, rfl⟩
        · exact ⟨_, rfl, rfl⟩
      obtain ⟨result, hresult, hstore⟩ := hlogged st (isNewerClock op.clock row.clock)
      obtain ⟨result', hresult', hstore'⟩ := hlogged st' (isNewerClock op.clock row'.clock)
      refine ⟨result, result', hresult, hresult', ?_⟩
      rw [hstore, hstore']
      exact h.insertReplicationOpRow op
    · have halike : isNewerClock op.clock row'.clock = isNewerClock op.clock row.clock := by
        by_contra hbetween
        exact hsettled (by rw [hparse]; rfl) row hrow row' hrow' (Ne.symm hbetween)
      rw [halike]
      by_cases hnewer : isNewerClock op.clock row.clock = false
      · rw [if_pos hnewer, if_pos hnewer]
        exact ⟨_, _, rfl, rfl, h.insertReplicationOpRow op⟩
      · rw [if_neg hnewer, if_neg hnewer]
        refine ⟨applyUpsertUpdate ctx st op (redactMemoryFields ctx.scanner payload) row,
          applyUpsertUpdate ctx st' op (redactMemoryFields ctx.scanner payload) row', rfl, rfl, ?_⟩
        obtain ⟨after, hwrites, hafter⟩ :=
          applyUpsertUpdate_writes ctx st op (redactMemoryFields ctx.scanner payload) row
        obtain ⟨after', hwrites', hafter'⟩ :=
          applyUpsertUpdate_writes ctx st' op (redactMemoryFields ctx.scanner payload) row'
        rw [hafter, hafter']
        refine h.write hwrites hwrites' ?_ op
        refine List.rel_map (fun a b hab => ?_) h.rows
        rw [hab.importKey]
        split_ifs
        · exact hsame.overwrite hab
        · exact hab

lemma Twins.applyDelete (h : Twins tools stored st st')
    (hsettled : ∀ row ∈ st.memoryByImportKey op.entityId,
      ∀ row' ∈ st'.memoryByImportKey op.entityId, ¬ BetweenClocks op.clock row.clock row'.clock) :
    Twins tools stored (Codemem.applyDelete ctx st op).1 (Codemem.applyDelete ctx st' op).1 := by
  unfold Codemem.applyDelete
  rcases h.lookup op.entityId with ⟨hnone, hnone'⟩ | ⟨row, row', hrow, hrow', hsame⟩
  · rw [hnone, hnone']
    exact h.insertReplicationOpRow op
  · have halike : isNewerClock op.clock row'.clock = isNewerClock op.clock row.clock := by
      by_contra hbetween
      exact hsettled row hrow row' hrow' (Ne.symm hbetween)
    rw [hrow, hrow']
    dsimp only
    rw [halike]
    by_cases hnewer : isNewerClock op.clock row.clock = false
    · rw [if_pos hnewer, if_pos hnewer]
      exact h.insertReplicationOpRow op
    · rw [if_neg hnewer, if_neg hnewer]
      obtain ⟨revisions, hrevisions⟩ := recordForeignMemoryRevision_eq st op.entityId .replication
      obtain ⟨revisions', hrevisions'⟩ :=
        recordForeignMemoryRevision_eq st' op.entityId .replication
      rw [hrevisions, hrevisions']
      refine h.write ⟨_, _, _, _, rfl⟩ ⟨_, _, _, _, rfl⟩ ?_ op
      refine List.rel_map (fun a b hab => ?_) h.rows
      simp only [hab.id, hsame.id]
      split_ifs
      · exact hab.tombstone ctx.now
      · exact hab

lemma Twins.applyTwins (h : Twins tools stored st st')
    (hkind : op.opType = .upsert ∨ op.opType = .delete)
    (hfault : ctx.fault st op = ctx.fault st' op)
    (hsettled : SettledAlike ctx localDeviceId (st, st') op) :
    Twins tools stored (Codemem.applyTwins ctx localDeviceId (st, st') op).1
      (Codemem.applyTwins ctx localDeviceId (st, st') op).2 := by
  unfold Codemem.applyTwins applyReplicationOp
  dsimp only
  rw [← hfault]
  rcases ctx.fault st op with _ | message
  · unfold replicationOpBody
    rw [h.skip]
    by_cases hskip : skipOwnRetiredOrAppliedOp st op localDeviceId = true
    · rw [if_pos hskip, if_pos hskip]
      exact h
    · rw [if_neg hskip, if_neg hskip]
      have hreaches : ∀ hparsed : (op.opType == .delete ||
          (parseMemoryPayload ctx.runtime op).1.isSome) = true,
          reachesClock ctx localDeviceId st op = true := by
        intro hparsed
        unfold reachesClock
        rw [Bool.eq_false_of_not_eq_true hskip, hparsed]
        rfl
      rcases hkind with hupsert | hdelete
      · rw [hupsert]
        obtain ⟨result, result', hresult, hresult', htwins⟩ :=
          h.applyUpsert fun hparsed => hsettled (hreaches (by rw [hparsed, Bool.or_true]))
        dsimp only
        rw [hresult, hresult']
        exact htwins
      · rw [hdelete]
        exact h.applyDelete (hsettled (hreaches (by rw [hdelete]; rfl)))
  · exact h

end Ops

/-! ### Batches and runs -/

/-- The scope validation of the caller rejects the batch. -/
def rejectsBatch (st : Store) (ops : List ReplicationOp) (localDeviceId : String)
    (validation : Option InboundScopeValidationOptions) : Bool :=
  (validation.bind (rejectUnretiredScopeFailures st ops localDeviceId)).isSome

/-- One batch, passed to `applyReplicationOps` on both stores. -/
def applyTwinBatch (ctx : ApplyContext) (localDeviceId : String)
    (validation : Option InboundScopeValidationOptions) (twins : Store × Store)
    (ops : List ReplicationOp) : Store × Store :=
  ((applyReplicationOps ctx twins.1 ops localDeviceId validation).1,
    (applyReplicationOps ctx twins.2 ops localDeviceId validation).1)

/-- No op of a batch that is let through reaches its memory between the two stored clocks. -/
def BatchSettledAlike (ctx : ApplyContext) (localDeviceId : String)
    (validation : Option InboundScopeValidationOptions) (twins : Store × Store)
    (ops : List ReplicationOp) : Prop :=
  rejectsBatch twins.1 ops localDeviceId validation = false →
    StepsMeet (applyTwins ctx localDeviceId) (SettledAlike ctx localDeviceId) twins ops

section Runs

variable {tools : MaintenanceTools} {stored : List (MemoryItem × MemoryItem)}
  {ctx : ApplyContext} {localDeviceId : String} {st st' : Store}
  {validation : Option InboundScopeValidationOptions} {ops : List ReplicationOp}

lemma Twins.foldl (h : Twins tools stored st st')
    (hkind : ∀ op ∈ ops, op.opType = .upsert ∨ op.opType = .delete)
    (hfault : ∀ st st' op, ctx.fault st op = ctx.fault st' op)
    (hmeet : StepsMeet (Codemem.applyTwins ctx localDeviceId) (SettledAlike ctx localDeviceId)
      (st, st') ops) :
    Twins tools stored (ops.foldl (fun st op => (applyReplicationOp ctx localDeviceId st op).1) st)
      (ops.foldl (fun st op => (applyReplicationOp ctx localDeviceId st op).1) st') := by
  induction ops generalizing st st' with
  | nil => exact h
  | cons op ops ih =>
    have hnext := h.applyTwins (hkind op List.mem_cons_self) (hfault st st' op) hmeet.1
    exact ih hnext (fun op hop => hkind op (List.mem_cons_of_mem _ hop)) hmeet.2

lemma Twins.rejections (h : Twins tools stored st st')
    (hkind : ∀ op ∈ ops, op.opType = .upsert ∨ op.opType = .delete)
    (options : InboundScopeValidationOptions) :
    inboundScopeRejections st' (ops.filter fun op => !retirementBlocksMemoryOp st' op) localDeviceId
        options =
      inboundScopeRejections st (ops.filter fun op => !retirementBlocksMemoryOp st op) localDeviceId
        options := by
  have hne : ∀ op ∈ ops, op.opType ≠ .reassignScope := by
    intro op hop
    rcases hkind op hop with hupsert | hdelete
    · simp [hupsert]
    · simp [hdelete]
  have heligible : (ops.filter fun op => !retirementBlocksMemoryOp st' op) =
      ops.filter fun op => !retirementBlocksMemoryOp st op := by
    refine List.filter_congr fun op _ => ?_
    rw [retirementBlocksMemoryOp_congr h.retirements]
  rw [heligible]
  unfold inboundScopeRejections validateInboundLocalOnlyBatch validateInboundScopeBatch
  have hlocal : (ops.filter fun op => !retirementBlocksMemoryOp st op).filterMap
        (validateInboundLocalOnlyOp st' options) =
      (ops.filter fun op => !retirementBlocksMemoryOp st op).filterMap
        (validateInboundLocalOnlyOp st options) := by
    refine List.filterMap_congr fun op hop => ?_
    exact validateInboundLocalOnlyOp_congr h.membership (hne op (List.mem_of_mem_filter hop)) options
  have hscope : ((ops.filter fun op => !retirementBlocksMemoryOp st op).filterMap fun op =>
        if cleanText options.peerDeviceId = none ∧ op.deviceId = localDeviceId then none
        else validateInboundScopeOp st' op localDeviceId options) =
      (ops.filter fun op => !retirementBlocksMemoryOp st op).filterMap fun op =>
        if cleanText options.peerDeviceId = none ∧ op.deviceId = localDeviceId then none
        else validateInboundScopeOp st op localDeviceId options := by
    refine List.filterMap_congr fun op hop => ?_
    rw [validateInboundScopeOp_congr h.membership (hne op (List.mem_of_mem_filter hop))]
  rw [hlocal, hscope]

lemma Twins.logRejections (h : Twins tools stored st st')
    (rejections rejections' : List InboundScopeRejection) :
    Twins tools stored { st with syncScopeRejections := rejections }
      { st' with syncScopeRejections := rejections' } :=
  ⟨h.rows, h.log, h.retirements, h.membership.scopes, h.membership.memberships,
    h.membership.overlays⟩

lemma Twins.applyBatch (h : Twins tools stored st st')
    (hkind : ∀ op ∈ ops, op.opType = .upsert ∨ op.opType = .delete)
    (hfault : ∀ st st' op, ctx.fault st op = ctx.fault st' op)
    (hsettled : BatchSettledAlike ctx localDeviceId validation (st, st') ops) :
    Twins tools stored (applyReplicationOps ctx st ops localDeviceId validation).1
      (applyReplicationOps ctx st' ops localDeviceId validation).1 := by
  unfold applyReplicationOps
  have happlied : rejectsBatch st ops localDeviceId validation = false →
      Twins tools stored (applyAll ctx localDeviceId st ops).1
        (applyAll ctx localDeviceId st' ops).1 := by
    intro hpass
    rw [applyAll_store, applyAll_store]
    exact h.foldl hkind hfault (hsettled hpass)
  rcases validation with _ | options
  · exact happlied rfl
  · unfold rejectsBatch at happlied
    simp only [Option.bind_some] at happlied ⊢
    have hverdict := @Twins.rejections tools stored localDeviceId st st' ops h hkind options
    unfold rejectUnretiredScopeFailures rejectInboundScopeFailures at happlied ⊢
    dsimp only at happlied ⊢
    rw [hverdict]
    by_cases hempty : (inboundScopeRejections st
        (ops.filter fun op => !retirementBlocksMemoryOp st op) localDeviceId options).isEmpty = true
    · rw [if_pos hempty, if_pos hempty] at *
      exact happlied rfl
    · rw [if_neg hempty, if_neg hempty]
      exact h.logRejections _ _

end Runs

def SameWinners (tools : MaintenanceTools) (stored : List (MemoryItem × MemoryItem))
    (twins : Store × Store) : Prop :=
  ∀ key, Option.Rel (SameRevision tools stored) (twins.1.memoryByImportKey key)
    (twins.2.memoryByImportKey key)

/-- Tools that find no secret and derive nothing. -/
def plainTools : MaintenanceTools where
  scanner := ⟨id, id⟩
  redactJson := fun value => (value, false)
  jsonLength := fun _ => 0
  runtime := ⟨fun _ => none, fun _ => "", fun _ => "", toLowerCase⟩
  extractNarrativeFromBody := fun _ => none
  deriveTags := fun _ => []
  projectMatches := fun _ _ => true
  isSummaryLikeMemory := fun _ => false
  observeStructured := fun _ => none

/-- A memory of revision 1, last modified in 2025. -/
def storedMemory : MemoryItem where
  id := 1
  sessionId := 1
  kind := "discovery"
  title := "stored"
  bodyText := "body"
  active := some 1
  createdAt := "2025-12-01"
  updatedAt := "2025-12-01"
  metadataJson := none
  actorId := none
  visibility := none
  workspaceId := none
  workspaceKind := none
  originDeviceId := none
  deletedAt := none
  rev := some 1
  importKey := some "m1"
  scopeId := some "team"
  project := none
  content := MemoryContent.empty

/-- A store with that memory, which has no dedup key yet. -/
def storedMemoryDb : MaintainedStore where
  store := { Store.empty with memoryItems := [storedMemory] }
  tagsText := fun _ => none
  dedupKey := fun _ => none

def dedupKeyBackfill : List MaintenanceJob := [.dedupKeys "2026-02-01" [(1, "key")]]

end Codemem

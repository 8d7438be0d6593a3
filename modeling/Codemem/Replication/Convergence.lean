import Codemem.Foundation.LastWriter
import Codemem.Replication.ApplySpec

/-!
# Convergence of the replication log

The row of one entity behaves like a last-writer-wins register without tombstones: the clock is
the clock of the row, and the value is the text of a live row.  A delete that finds no row leaves
nothing but its log entry, so the register forgets it.  From this the set of inputs on which all
arrival orders agree is determined exactly.
-/

namespace Codemem

/-! ### The register of one entity -/

/-- What a revision says about a memory: its texts and whether it is live. -/
structure Revision where
  title : String
  bodyText : String
  live : Bool
  deriving DecidableEq, Repr

def MemoryItem.revision (row : MemoryItem) : Revision := ⟨row.title, row.bodyText, row.isLive⟩

/-- The payload carries every field that decides the revision. -/
structure MemoryPayload.IsFull (payload : MemoryPayload) : Prop where
  title : payload.title.isSome
  bodyText : payload.bodyText.isSome
  active : payload.active.isSome
  tombstone : payload.hasDeletedAt = true

/-- The revision a full payload describes. -/
def MemoryPayload.revision (payload : MemoryPayload) : Revision :=
  ⟨payload.title.getD "", payload.bodyText.getD "",
    payload.active.getD 1 != 0 && payload.deletedAt.isNone⟩

/-- The revision an op writes: none for a delete. -/
def revisionOf (ctx : ApplyContext) (op : ReplicationOp) : Option Revision :=
  if op.opType = .delete then none
  else (parseMemoryPayload ctx.runtime op).1.map fun payload =>
    (redactMemoryFields ctx.scanner payload).revision

/-- The register write an op stands for. -/
def opWrite (ctx : ApplyContext) (op : ReplicationOp) : Write Clock Revision :=
  ⟨op.clock, revisionOf ctx op⟩

def HoldsRegister (rows : List MemoryItem) : Option (Write Clock Revision) → Prop
  | none => rows = []
  | some w => ∃ row, rows = [row] ∧ row.clock = w.clock ∧
      match w.value with
      | none => row.isLive = false
      | some revision => row.revision = revision

/-! ### The inputs -/

/-- A set of well-formed upserts and deletes of one entity, all in one scope and from remote
devices, for a store that admits them. -/
structure RemoteHistory (ctx : ApplyContext) (localDeviceId : String)
    (validation : Option InboundScopeValidationOptions) (st : Store) (entityId : String)
    (scopeId : Option String) (ops : List ReplicationOp) : Prop where
  /-- The database raises no error. -/
  noFault : ∀ st op, ctx.fault st op = none
  entity : ∀ op ∈ ops, op.entityType = .memoryItem ∧ op.entityId = entityId
  scope : ∀ op ∈ ops, op.scopeId = scopeId
  remote : ∀ op ∈ ops, op.deviceId ≠ localDeviceId
  /-- Every op is a delete, or an upsert with a full payload. -/
  wellFormed : ∀ op ∈ ops, op.opType = .delete ∨ op.opType = .upsert ∧
    ∃ payload, parseMemoryPayload ctx.runtime op = (some payload, []) ∧ payload.IsFull
  opIds : (ops.map ReplicationOp.opId).Nodup
  clocks : (ops.map ReplicationOp.clock).Nodup
  /-- The caller's scope validation, if any, lets every op pass. -/
  admitted : ∀ op ∈ ops, InboundAdmitted st localDeviceId validation op

/-- An op the store has neither logged nor fenced off by a retirement. -/
def isFresh (st : Store) (op : ReplicationOp) : Bool :=
  !(retirementBlocksMemoryOp st op || st.hasOp op.opId)

/-- `applyReplicationOps` called on one batch after the other. -/
def applyBatches (ctx : ApplyContext) (localDeviceId : String)
    (validation : Option InboundScopeValidationOptions) (st : Store)
    (batches : List (List ReplicationOp)) : Store :=
  batches.foldl (fun st ops => (applyReplicationOps ctx st ops localDeviceId validation).1) st

/-- The rows of the entity are those the winning op determines. -/
def DecidedBy (ctx : ApplyContext) (st : Store) (entityId : String) (winner : ReplicationOp) :
    Prop :=
  match revisionOf ctx winner with
  | none => ∀ row ∈ st.rowsOf entityId, row.isLive = false ∧ row.clock = winner.clock
  | some revision => ∃ row, st.rowsOf entityId = [row] ∧ row.clock = winner.clock ∧
      row.revision = revision

/-- The winner is a fresh upsert, or it is a delete and there is no fresh upsert. -/
def WinnerSurvives (st : Store) (ops : List ReplicationOp) (winner : ReplicationOp) : Prop :=
  (winner.opType = .upsert ∧ isFresh st winner = true) ∨
    (winner.opType = .delete ∧ ∀ op ∈ ops, op.opType = .upsert → isFresh st op = false)

/-! ### One op -/

lemma MemoryPayload.IsFull.redact {payload : MemoryPayload} (h : payload.IsFull)
    (scanner : SecretScanner) : (redactMemoryFields scanner payload).IsFull where
  title := by simpa [redactMemoryFields, redactText] using h.title
  bodyText := by simpa [redactMemoryFields, redactText] using h.bodyText
  active := h.active
  tombstone := h.tombstone

lemma overwriteRow_revision (op : ReplicationOp) {payload : MemoryPayload}
    (hfull : payload.IsFull) (memRow row : MemoryItem) :
    (overwriteRow op payload (writtenActive payload memRow) (nextDeletedAt payload memRow)
      row).revision = payload.revision := by
  obtain ⟨title, htitle⟩ := Option.isSome_iff_exists.mp hfull.title
  obtain ⟨body, hbody⟩ := Option.isSome_iff_exists.mp hfull.bodyText
  obtain ⟨active, hactive⟩ := Option.isSome_iff_exists.mp hfull.active
  have hnext : nextDeletedAt payload memRow = payload.deletedAt := by
    simp [nextDeletedAt, hfull.tombstone]
  simp only [MemoryItem.revision, MemoryPayload.revision, overwriteRow, MemoryItem.isLive,
    writtenActive, hnext, htitle, hbody, hactive, Option.getD_some]
  cases payload.deletedAt with
  | none => simp
  | some s => simp

lemma insertedRow_revision (op : ReplicationOp) (payload : MemoryPayload) (sessionId id : ℕ) :
    ({ insertedRow op payload sessionId with id := id } : MemoryItem).revision =
      payload.revision := by
  simp [MemoryItem.revision, MemoryPayload.revision, insertedRow, MemoryItem.isLive]

section Step

variable {ctx : ApplyContext} {localDeviceId : String} {st : Store} {op : ReplicationOp}

lemma applyReplicationOp_of_not_fresh (hfault : ctx.fault st op = none)
    (h : isFresh st op = false) : (applyReplicationOp ctx localDeviceId st op).1 = st := by
  have hskip : skipOwnRetiredOrAppliedOp st op localDeviceId = true := by
    simp only [isFresh, Bool.not_eq_false', Bool.or_eq_true] at h
    rcases h with h | h
    · simp [skipOwnRetiredOrAppliedOp, skipOwnOrRetiredMemoryOp, h]
    · simp [skipOwnRetiredOrAppliedOp, h]
  simp [applyReplicationOp, hfault, replicationOpBody, hskip]

lemma skipOwnRetiredOrAppliedOp_of_fresh (hremote : op.deviceId ≠ localDeviceId)
    (h : isFresh st op = true) : skipOwnRetiredOrAppliedOp st op localDeviceId = false := by
  simp only [isFresh, Bool.not_eq_true', Bool.or_eq_false_iff] at h
  simp [skipOwnRetiredOrAppliedOp, skipOwnOrRetiredMemoryOp, hremote, h.1, h.2]

/-- A fresh delete acts on the register. -/
lemma applyReplicationOp_delete_register (hfault : ctx.fault st op = none)
    (hremote : op.deviceId ≠ localDeviceId) (hfresh : isFresh st op = true)
    (hop : op.opType = .delete) {reg : Option (Write Clock Revision)}
    (hreg : HoldsRegister (st.rowsOf op.entityId) reg) :
    HoldsRegister ((applyReplicationOp ctx localDeviceId st op).1.rowsOf op.entityId)
      (Write.lossy reg (opWrite ctx op)) := by
  have hskip := skipOwnRetiredOrAppliedOp_of_fresh hremote hfresh
  have hstep : (applyReplicationOp ctx localDeviceId st op).1 = (applyDelete ctx st op).1 := by
    simp [applyReplicationOp, hfault, replicationOpBody, hskip, hop]
  have hvalue : (opWrite ctx op).value = none := by simp [opWrite, revisionOf, hop]
  rw [hstep]
  cases reg with
  | none =>
    have hrows : st.rowsOf op.entityId = [] := hreg
    have hlookup : st.memoryByImportKey op.entityId = none := by
      rw [Store.memoryByImportKey_eq_head?, hrows]
      rfl
    simpa [applyDelete, hlookup, Write.lossy, hvalue, Store.rowsOf] using hreg
  | some w =>
    obtain ⟨row, hrows, hclock, hcontent⟩ := hreg
    have hlookup : st.memoryByImportKey op.entityId = some row := by
      rw [Store.memoryByImportKey_eq_head?, hrows]
      rfl
    by_cases hnewer : isNewerClock op.clock row.clock = true
    · have hlt : w.clock < (opWrite ctx op).clock := by
        rw [← hclock]
        exact (isNewerClock_iff _ _).mp hnewer
      have hitems : (applyDelete ctx st op).1.memoryItems = st.memoryItems.map fun r =>
          if r.id == row.id then tombstoneRow op ctx.now r else r := by
        simp [applyDelete, hlookup, hnewer, Store.updateMemories]
      have hrows' : (applyDelete ctx st op).1.rowsOf op.entityId =
          [tombstoneRow op ctx.now row] := by
        rw [Store.rowsOf, hitems, filter_importKey_map (fun r => by split_ifs <;> rfl)]
        rw [← Store.rowsOf, hrows]
        simp
      rw [hrows', Write.lossy, Write.newest, if_pos hlt]
      refine ⟨_, rfl, tombstoneRow_clock op ctx.now row, ?_⟩
      rw [hvalue]
      simp [MemoryItem.isLive, tombstoneRow]
    · have hle : ¬ w.clock < (opWrite ctx op).clock := by
        rw [← hclock]
        exact fun hlt => hnewer ((isNewerClock_iff _ _).mpr hlt)
      rw [Write.lossy, Write.newest, if_neg hle]
      refine ⟨row, ?_, hclock, hcontent⟩
      simpa [applyDelete, hlookup, hnewer, Store.rowsOf] using hrows

/-- A fresh upsert with a full payload acts on the register. -/
lemma applyReplicationOp_upsert_register (hfault : ctx.fault st op = none)
    (hremote : op.deviceId ≠ localDeviceId) (hfresh : isFresh st op = true)
    (hop : op.opType = .upsert) {payload : MemoryPayload}
    (hparse : parseMemoryPayload ctx.runtime op = (some payload, [])) (hfull : payload.IsFull)
    {reg : Option (Write Clock Revision)} (hreg : HoldsRegister (st.rowsOf op.entityId) reg) :
    HoldsRegister ((applyReplicationOp ctx localDeviceId st op).1.rowsOf op.entityId)
      (Write.lossy reg (opWrite ctx op)) := by
  have hskip := skipOwnRetiredOrAppliedOp_of_fresh hremote hfresh
  have hvalue : (opWrite ctx op).value = some (redactMemoryFields ctx.scanner payload).revision := by
    simp [opWrite, revisionOf, hop, hparse]
  cases reg with
  | none =>
    have hrows : st.rowsOf op.entityId = [] := hreg
    have hlookup : st.memoryByImportKey op.entityId = none := by
      rw [Store.memoryByImportKey_eq_head?, hrows]
      rfl
    have hstep : (applyReplicationOp ctx localDeviceId st op).1 =
        (applyUpsertInsert ctx st op (redactMemoryFields ctx.scanner payload)).1 := by
      simp [applyReplicationOp, hfault, replicationOpBody, hskip, hop, applyUpsert, hlookup, hparse]
    have hrows' := hrows
    rw [Store.rowsOf] at hrows'
    rw [hstep, Store.rowsOf, applyUpsertInsert_memoryItems, List.filter_append, hrows', Write.lossy,
      if_pos (by simp [hvalue])]
    refine ⟨{ insertedRow op (redactMemoryFields ctx.scanner payload) st.nextSessionId with
      id := st.nextMemoryId }, ?_, clock_of_foreignRevision rfl rfl rfl, ?_⟩
    · simp [insertedRow]
    · rw [hvalue]
      exact insertedRow_revision op _ _ _
  | some w =>
    obtain ⟨row, hrows, hclock, hcontent⟩ := hreg
    have hlookup : st.memoryByImportKey op.entityId = some row := by
      rw [Store.memoryByImportKey_eq_head?, hrows]
      rfl
    by_cases hnewer : isNewerClock op.clock row.clock = true
    · have hlt : w.clock < (opWrite ctx op).clock := by
        rw [← hclock]
        exact (isNewerClock_iff _ _).mp hnewer
      have hstep : (applyReplicationOp ctx localDeviceId st op).1 =
          (applyUpsertUpdate ctx st op (redactMemoryFields ctx.scanner payload) row).1 := by
        simp [applyReplicationOp, hfault, replicationOpBody, hskip, hop, applyUpsert, hlookup,
          hparse, hnewer, reassignScopeMismatch]
      rw [hstep, Store.rowsOf, applyUpsertUpdate_memoryItems,
        filter_importKey_map (fun r => by split_ifs <;> rfl), ← Store.rowsOf, hrows, Write.lossy,
        Write.newest, if_pos hlt]
      have hkey : row.importKey = some op.entityId := (Store.memoryByImportKey_eq_some hlookup).2
      refine ⟨overwriteRow op (redactMemoryFields ctx.scanner payload)
        (writtenActive (redactMemoryFields ctx.scanner payload) row)
        (nextDeletedAt (redactMemoryFields ctx.scanner payload) row) row, ?_,
        clock_of_foreignRevision rfl rfl rfl, ?_⟩
      · simp [hkey]
      · rw [hvalue]
        exact overwriteRow_revision op (hfull.redact ctx.scanner) row row
    · have hle : ¬ w.clock < (opWrite ctx op).clock := by
        rw [← hclock]
        exact fun hlt => hnewer ((isNewerClock_iff _ _).mpr hlt)
      rw [Write.lossy, Write.newest, if_neg hle]
      refine ⟨row, ?_, hclock, hcontent⟩
      simpa [applyReplicationOp, hfault, replicationOpBody, hskip, hop, applyUpsert, hlookup,
        hnewer, reassignScopeMismatch, sameReassignmentClock, Store.rowsOf] using hrows

lemma isFresh_applyReplicationOp {op' : ReplicationOp} (hne : op.opId ≠ op'.opId) :
    isFresh (applyReplicationOp ctx localDeviceId st op).1 op' = isFresh st op' := by
  have hblocks := retirementBlocksMemoryOp_congr
    (applyReplicationOp_frame ctx localDeviceId st op).retirements op'
  have hhas : (applyReplicationOp ctx localDeviceId st op).1.hasOp op'.opId =
      st.hasOp op'.opId := by
    rcases applyReplicationOp_log ctx localDeviceId st op with h | h
    · simp only [Store.hasOp, h]
    · rw [← Store.hasOp_insertReplicationOpRow_of_ne st op hne]
      simp only [Store.hasOp, h]
  simp only [isFresh, hblocks, hhas]

end Step

/-! ### Runs -/

section Runs

variable {ctx : ApplyContext} {localDeviceId : String} {st : Store} {entityId : String}
  {scopeId : Option String} {validation : Option InboundScopeValidationOptions}
  {ops : List ReplicationOp}

/-- Along a run the rows of the entity follow the register of the fresh ops. -/
lemma foldl_applyReplicationOp_register (hfault : ∀ st op, ctx.fault st op = none)
    (hentity : ∀ op ∈ ops, op.entityId = entityId)
    (hremote : ∀ op ∈ ops, op.deviceId ≠ localDeviceId)
    (hwell : ∀ op ∈ ops, op.opType = .delete ∨ op.opType = .upsert ∧
      ∃ payload, parseMemoryPayload ctx.runtime op = (some payload, []) ∧ payload.IsFull)
    (hnodup : (ops.map ReplicationOp.opId).Nodup) {reg : Option (Write Clock Revision)}
    (hreg : HoldsRegister (st.rowsOf entityId) reg) :
    HoldsRegister
      ((ops.foldl (fun st op => (applyReplicationOp ctx localDeviceId st op).1) st).rowsOf entityId)
      (((ops.filter (isFresh st)).map (opWrite ctx)).foldl Write.lossy reg) := by
  induction ops generalizing st reg with
  | nil => exact hreg
  | cons op ops ih =>
    rw [List.map_cons, List.nodup_cons] at hnodup
    obtain ⟨hnew, hnodup⟩ := hnodup
    have hop : op ∈ op :: ops := List.mem_cons_self
    have hrest : ops.filter (isFresh (applyReplicationOp ctx localDeviceId st op).1) =
        ops.filter (isFresh st) := by
      refine List.filter_congr fun op' hop' => isFresh_applyReplicationOp fun heq => ?_
      exact hnew (heq ▸ List.mem_map_of_mem hop')
    have hih : ∀ reg', HoldsRegister ((applyReplicationOp ctx localDeviceId st op).1.rowsOf entityId)
          reg' →
        HoldsRegister ((ops.foldl (fun st op => (applyReplicationOp ctx localDeviceId st op).1)
          (applyReplicationOp ctx localDeviceId st op).1).rowsOf entityId)
          (((ops.filter (isFresh st)).map (opWrite ctx)).foldl Write.lossy reg') := by
      intro reg' hreg'
      rw [← hrest]
      exact ih (fun op' h => hentity op' (List.mem_cons_of_mem _ h))
        (fun op' h => hremote op' (List.mem_cons_of_mem _ h))
        (fun op' h => hwell op' (List.mem_cons_of_mem _ h)) hnodup hreg'
    rw [List.foldl_cons, List.filter_cons]
    by_cases hfresh : isFresh st op = true
    · rw [if_pos hfresh, List.map_cons, List.foldl_cons]
      refine hih _ ?_
      obtain rfl := hentity op hop
      rcases hwell op hop with hdelete | ⟨hupsert, payload, hparse, hfull⟩
      · exact applyReplicationOp_delete_register (hfault st op) (hremote op hop) hfresh hdelete hreg
      · exact applyReplicationOp_upsert_register (hfault st op) (hremote op hop) hfresh hupsert
          hparse hfull hreg
    · rw [if_neg hfresh]
      refine hih _ ?_
      rwa [applyReplicationOp_of_not_fresh (hfault st op) (Bool.eq_false_of_not_eq_true hfresh)]

lemma applyBatches_eq_foldl {batches : List (List ReplicationOp)}
    (hkind : ∀ op ∈ batches.flatten, op.opType ≠ .reassignScope)
    (hadmitted : ∀ op ∈ batches.flatten, InboundAdmitted st localDeviceId validation op) :
    applyBatches ctx localDeviceId validation st batches =
      batches.flatten.foldl (fun st op => (applyReplicationOp ctx localDeviceId st op).1) st := by
  induction batches generalizing st with
  | nil => rfl
  | cons batch batches ih =>
    simp only [List.flatten_cons, List.mem_append] at hkind hadmitted
    have hbatch : (applyReplicationOps ctx st batch localDeviceId validation).1 =
        batch.foldl (fun st op => (applyReplicationOp ctx localDeviceId st op).1) st := by
      rw [applyReplicationOps_of_admitted fun op hop => hadmitted op (Or.inl hop), applyAll_store]
    have hframe := foldl_applyReplicationOp_frame ctx localDeviceId st batch
    rw [applyBatches, List.foldl_cons, hbatch, List.flatten_cons, List.foldl_append]
    exact ih (fun op hop => hkind op (Or.inr hop)) fun op hop =>
      (hadmitted op (Or.inr hop)).congr hframe.sameMembership (hkind op (Or.inr hop))

/-- However the ops are ordered and cut into batches, the rows of the entity hold the register of
the fresh ops in that order. -/
theorem applyBatches_register
    (h : RemoteHistory ctx localDeviceId validation st entityId scopeId ops)
    (hrows : st.rowsOf entityId = []) {batches : List (List ReplicationOp)}
    (hperm : batches.flatten.Perm ops) :
    HoldsRegister ((applyBatches ctx localDeviceId validation st batches).rowsOf entityId)
      (((batches.flatten.filter (isFresh st)).map (opWrite ctx)).foldl Write.lossy none) := by
  have hmem : ∀ op, op ∈ batches.flatten ↔ op ∈ ops := fun op => hperm.mem_iff
  have hkind : ∀ op ∈ ops, op.opType ≠ .reassignScope := by
    intro op hop
    rcases h.wellFormed op hop with hdelete | ⟨hupsert, -⟩
    · simp [hdelete]
    · simp [hupsert]
  rw [applyBatches_eq_foldl (fun op hop => hkind op ((hmem op).mp hop))
    fun op hop => h.admitted op ((hmem op).mp hop)]
  exact foldl_applyReplicationOp_register h.noFault
    (fun op hop => (h.entity op ((hmem op).mp hop)).2)
    (fun op hop => h.remote op ((hmem op).mp hop))
    (fun op hop => h.wellFormed op ((hmem op).mp hop))
    ((hperm.map ReplicationOp.opId).nodup_iff.mpr h.opIds) hrows

end Runs

/-! ### When all orders agree -/

section Winner

variable {ctx : ApplyContext} {localDeviceId : String} {st : Store} {entityId : String}
  {scopeId : Option String} {validation : Option InboundScopeValidationOptions}
  {ops : List ReplicationOp} {winner : ReplicationOp}

lemma RemoteHistory.eq_of_clock (h : RemoteHistory ctx localDeviceId validation st entityId scopeId ops)
    {op op' : ReplicationOp} (hop : op ∈ ops) (hop' : op' ∈ ops) (heq : op.clock = op'.clock) :
    op = op' :=
  List.inj_on_of_nodup_map h.clocks hop hop' heq

lemma RemoteHistory.revisionOf_upsert
    (h : RemoteHistory ctx localDeviceId validation st entityId scopeId ops)
    {op : ReplicationOp} (hop : op ∈ ops) (hupsert : op.opType = .upsert) :
    (revisionOf ctx op).isSome = true := by
  rcases h.wellFormed op hop with hdelete | ⟨-, payload, hparse, -⟩
  · simp [hupsert] at hdelete
  · simp [revisionOf, hupsert, hparse]

/-- Where the winner survives, every order ends with what the winner determines. -/
lemma decidedBy_of_winnerSurvives
    (h : RemoteHistory ctx localDeviceId validation st entityId scopeId ops)
    (hrows : st.rowsOf entityId = []) (hwinner : winner ∈ ops)
    (hmax : ∀ op ∈ ops, op.clock ≤ winner.clock) (hsurvives : WinnerSurvives st ops winner)
    {batches : List (List ReplicationOp)} (hperm : batches.flatten.Perm ops) :
    DecidedBy ctx (applyBatches ctx localDeviceId validation st batches) entityId winner := by
  have hreg := applyBatches_register h hrows hperm
  have hmem : ∀ op, op ∈ batches.flatten ↔ op ∈ ops := fun op => hperm.mem_iff
  rcases hsurvives with ⟨hupsert, hfresh⟩ | ⟨hdelete, hnone⟩
  · have hvalue := h.revisionOf_upsert hwinner hupsert
    have hfinal : ((batches.flatten.filter (isFresh st)).map (opWrite ctx)).foldl Write.lossy none =
        some (opWrite ctx winner) := by
      refine Write.foldl_lossy_eq_of_value ?_ hvalue ?_
      · exact List.mem_map_of_mem (List.mem_filter.mpr ⟨(hmem winner).mpr hwinner, hfresh⟩)
      · intro w hw hne
        obtain ⟨op, hop, rfl⟩ := List.mem_map.mp hw
        have hop := (hmem op).mp (List.mem_of_mem_filter hop)
        refine lt_of_le_of_ne (hmax op hop) fun heq => hne ?_
        rw [h.eq_of_clock hop hwinner heq]
    rw [hfinal] at hreg
    obtain ⟨row, hrow, hclock, hcontent⟩ := hreg
    obtain ⟨revision, hrevision⟩ := Option.isSome_iff_exists.mp hvalue
    simp only [opWrite, hrevision] at hcontent
    simp only [DecidedBy, hrevision]
    exact ⟨row, hrow, hclock, hcontent⟩
  · have hempty : ((batches.flatten.filter (isFresh st)).map (opWrite ctx)).foldl Write.lossy none =
        none := by
      refine Write.foldl_lossy_eq_none fun w hw => ?_
      obtain ⟨op, hop, rfl⟩ := List.mem_map.mp hw
      obtain ⟨hop, hfresh⟩ := List.mem_filter.mp hop
      rcases h.wellFormed op ((hmem op).mp hop) with hdel | ⟨hupsert, -⟩
      · simp [opWrite, revisionOf, hdel]
      · rw [hnone op ((hmem op).mp hop) hupsert] at hfresh
        cases hfresh
    rw [hempty] at hreg
    have hrevision : revisionOf ctx winner = none := by simp [revisionOf, hdelete]
    simp only [DecidedBy, hrevision]
    intro row hrow
    rw [show _ = [] from hreg] at hrow
    cases hrow

lemma DecidedBy.clock_eq {w : Write Clock Revision} (h : DecidedBy ctx st entityId winner)
    (hreg : HoldsRegister (st.rowsOf entityId) (some w)) : w.clock = winner.clock := by
  obtain ⟨row, hrow, hclock, -⟩ := hreg
  cases hrevision : revisionOf ctx winner with
  | none =>
    simp only [DecidedBy, hrevision] at h
    rw [← hclock]
    exact (h row (by simp [hrow])).2
  | some revision =>
    simp only [DecidedBy, hrevision] at h
    obtain ⟨row', hrow', hclock', -⟩ := h
    rw [hrow] at hrow'
    cases hrow'
    rw [← hclock, hclock']

/-- Where the winner does not survive, the order that starts with it ends at another clock. -/
lemma winnerSurvives_of_decidedBy
    (h : RemoteHistory ctx localDeviceId validation st entityId scopeId ops)
    (hrows : st.rowsOf entityId = []) (hwinner : winner ∈ ops)
    (hdecided : ∀ batches : List (List ReplicationOp), batches.flatten.Perm ops →
      DecidedBy ctx (applyBatches ctx localDeviceId validation st batches) entityId winner) :
    WinnerSurvives st ops winner := by
  obtain ⟨before, after, rfl⟩ := List.append_of_mem hwinner
  have hperm : ([winner :: (before ++ after)] : List (List ReplicationOp)).flatten.Perm
      (before ++ winner :: after) := by
    simpa using List.perm_middle.symm
  have hreg := applyBatches_register h hrows hperm
  have hdec := hdecided _ hperm
  have hlist : ([winner :: (before ++ after)] : List (List ReplicationOp)).flatten =
      winner :: (before ++ after) := by simp
  rw [hlist] at hreg
  -- the other ops have other clocks
  have hother : ∀ m ∈ ((before ++ after).filter (isFresh st)).map (opWrite ctx),
      m.clock ≠ winner.clock := by
    intro m hm heq
    obtain ⟨op, hop, rfl⟩ := List.mem_map.mp hm
    have hnodup : ((winner :: (before ++ after)).map ReplicationOp.clock).Nodup := by
      rw [← hlist]
      exact (hperm.map ReplicationOp.clock).nodup_iff.mpr h.clocks
    rw [List.map_cons, List.nodup_cons] at hnodup
    exact hnodup.1 (heq ▸ List.mem_map_of_mem (List.mem_of_mem_filter hop))
  rcases h.wellFormed winner hwinner with hdelete | ⟨hupsert, -⟩
  · refine Or.inr ⟨hdelete, fun op hop hupsert => Bool.eq_false_of_not_eq_true fun hfresh => ?_⟩
    have hop' : op ∈ before ++ after := by
      rcases List.mem_append.mp hop with hop | hop
      · exact List.mem_append_left _ hop
      · rcases List.mem_cons.mp hop with rfl | hop
        · simp [hdelete] at hupsert
        · exact List.mem_append_right _ hop
    have hmem : opWrite ctx op ∈ ((before ++ after).filter (isFresh st)).map (opWrite ctx) :=
      List.mem_map_of_mem (List.mem_filter.mpr ⟨hop', hfresh⟩)
    have hvalue : (opWrite ctx winner).value = none := by simp [opWrite, revisionOf, hdelete]
    rw [List.filter_cons] at hreg
    by_cases hfreshWinner : isFresh st winner = true
    · rw [if_pos hfreshWinner, List.map_cons] at hreg
      obtain ⟨m, hm⟩ := Option.ne_none_iff_exists'.mp (Write.foldl_lossy_ne_none
        (List.mem_cons_of_mem (opWrite ctx winner) hmem) (h.revisionOf_upsert hop hupsert))
      rw [hm] at hreg
      exact hother m (Write.foldl_lossy_cons_erasure hvalue hm) (hdec.clock_eq hreg)
    · rw [if_neg hfreshWinner] at hreg
      obtain ⟨m, hm⟩ := Option.ne_none_iff_exists'.mp
        (Write.foldl_lossy_ne_none hmem (h.revisionOf_upsert hop hupsert))
      rw [hm] at hreg
      exact hother m (Write.mem_of_foldl_lossy hm) (hdec.clock_eq hreg)
  · refine Or.inl ⟨hupsert, by_contra fun hstale => ?_⟩
    rw [List.filter_cons, if_neg hstale] at hreg
    cases hfold : (((before ++ after).filter (isFresh st)).map (opWrite ctx)).foldl
        Write.lossy none with
    | none =>
      -- the winner demands a row, but no row was written
      obtain ⟨revision, hrevision⟩ := Option.isSome_iff_exists.mp
        (h.revisionOf_upsert hwinner hupsert)
      simp only [DecidedBy, hrevision] at hdec
      obtain ⟨row, hrow, -⟩ := hdec
      rw [hfold] at hreg
      rw [show _ = [] from hreg] at hrow
      cases hrow
    | some m =>
      rw [hfold] at hreg
      exact hother m (Write.mem_of_foldl_lossy hfold) (hdec.clock_eq hreg)

end Winner

/-- All orders and all ways of batching end with what the winner determines exactly when the
winner survives: it is a fresh upsert, or it is a delete and no upsert is fresh. -/
theorem applyBatches_decidedBy_iff {ctx : ApplyContext} {localDeviceId : String}
    {validation : Option InboundScopeValidationOptions} {st : Store} {entityId : String}
    {scopeId : Option String} {ops : List ReplicationOp}
    (h : RemoteHistory ctx localDeviceId validation st entityId scopeId ops)
    (hrows : st.rowsOf entityId = []) :
    (∀ batches : List (List ReplicationOp), batches.flatten.Perm ops →
      ∀ winner ∈ ops, (∀ op ∈ ops, op.clock ≤ winner.clock) →
        DecidedBy ctx (applyBatches ctx localDeviceId validation st batches) entityId winner) ↔
    ∀ winner ∈ ops, (∀ op ∈ ops, op.clock ≤ winner.clock) → WinnerSurvives st ops winner := by
  constructor
  · intro hall winner hwinner hmax
    exact winnerSurvives_of_decidedBy h hrows hwinner fun batches hperm =>
      hall batches hperm winner hwinner hmax
  · intro hall batches hperm winner hwinner hmax
    exact decidedBy_of_winnerSurvives h hrows hwinner hmax (hall winner hwinner hmax) hperm

/-! ### The order that diverges -/

/-- An upsert of memory `m1` from device `remote`, with the four fields of a full payload. -/
def sampleUpsert (opId title : String) (rev : ℤ) : ReplicationOp where
  opId := opId
  entityType := .memoryItem
  entityId := "m1"
  opType := .upsert
  payloadJson := some (toJson [("title", .str title), ("body_text", .str "body"),
    ("active", .num 1), ("deleted_at", .null)])
  clockRev := rev
  clockUpdatedAt := "2026-01-01"
  clockDeviceId := "remote"
  deviceId := "remote"
  createdAt := "2026-01-01"
  scopeId := some "team"

/-- A delete of memory `m1` from device `remote`. -/
def sampleDelete (opId : String) (rev : ℤ) : ReplicationOp :=
  { sampleUpsert opId "" rev with opType := .delete, payloadJson := none }

lemma sampleHistory (deleteRev upsertRev : ℤ) (h : deleteRev ≠ upsertRev) :
    RemoteHistory (plainContext "2026-01-02") "local" none Store.empty "m1" (some "team")
      [sampleDelete "op-d" deleteRev, sampleUpsert "op-u" "title" upsertRev] where
  noFault := fun _ _ => rfl
  entity := by simp [sampleDelete, sampleUpsert]
  scope := by simp [sampleDelete, sampleUpsert]
  remote := by simp [sampleDelete, sampleUpsert]
  wellFormed := by
    intro op hop
    rcases List.mem_pair.mp hop with rfl | rfl
    · exact Or.inl rfl
    · exact Or.inr ⟨rfl, _, rfl, ⟨rfl, rfl, rfl, rfl⟩⟩
  opIds := by simp [sampleDelete, sampleUpsert]
  clocks := by simp [sampleDelete, sampleUpsert, ReplicationOp.clock, clockTuple, h]
  admitted := fun _ _ _ h => by cases h

/-- An older upsert that arrives after the delete makes the memory live again. -/
theorem applyBatches_delete_first_diverges :
    RemoteHistory (plainContext "2026-01-02") "local" none Store.empty "m1" (some "team")
      [sampleDelete "op-d" 2, sampleUpsert "op-u" "title" 1] ∧
    (∀ op ∈ [sampleDelete "op-d" 2, sampleUpsert "op-u" "title" 1],
      op.clock ≤ (sampleDelete "op-d" 2).clock) ∧
    ¬ DecidedBy (plainContext "2026-01-02")
      (applyBatches (plainContext "2026-01-02") "local" none Store.empty
        [[sampleDelete "op-d" 2, sampleUpsert "op-u" "title" 1]])
      "m1" (sampleDelete "op-d" 2) := by
  refine ⟨sampleHistory 2 1 (by decide), ?_, ?_⟩
  · intro op hop
    rw [← isNewerClock_eq_false_iff]
    rcases List.mem_pair.mp hop with rfl | rfl
    · decide
    · decide
  · have hlive : ((applyBatches (plainContext "2026-01-02") "local" none Store.empty
        [[sampleDelete "op-d" 2, sampleUpsert "op-u" "title" 1]]).rowsOf "m1").map
          MemoryItem.isLive = [true] := by decide
    intro hdec
    have hdead : ∀ live ∈ ((applyBatches (plainContext "2026-01-02") "local" none Store.empty
        [[sampleDelete "op-d" 2, sampleUpsert "op-u" "title" 1]]).rowsOf "m1").map
          MemoryItem.isLive, live = false := by
      intro live hmem
      obtain ⟨row, hrow, rfl⟩ := List.mem_map.mp hmem
      exact (hdec row hrow).1
    rw [hlive] at hdead
    exact absurd (hdead true List.mem_cons_self) (by decide)

/-- With a newer upsert the two orders agree: the upsert wins after the delete. -/
theorem applyBatches_decidedBy_newer_upsert :
    DecidedBy (plainContext "2026-01-02")
      (applyBatches (plainContext "2026-01-02") "local" none Store.empty
        [[sampleDelete "op-d" 1], [sampleUpsert "op-u" "title" 2]])
      "m1" (sampleUpsert "op-u" "title" 2) := by
  have hmax : ∀ op ∈ [sampleDelete "op-d" 1, sampleUpsert "op-u" "title" 2],
      op.clock ≤ (sampleUpsert "op-u" "title" 2).clock := by
    intro op hop
    rw [← isNewerClock_eq_false_iff]
    rcases List.mem_pair.mp hop with rfl | rfl
    · decide
    · decide
  refine (applyBatches_decidedBy_iff (sampleHistory 1 2 (by decide)) rfl).mpr ?_ _ (.refl _) _
    (by simp) hmax
  intro winner hwinner hgreatest
  rcases List.mem_pair.mp hwinner with rfl | rfl
  · have hle := (isNewerClock_eq_false_iff _ _).mpr (hgreatest _ (List.mem_cons_of_mem _
      List.mem_cons_self))
    exact absurd hle (by decide)
  · exact Or.inl ⟨rfl, by decide⟩

end Codemem

import Codemem.Store.ImportKey

/-!
# Clocks never fall

A memory is what replication and the local mutations identify: the rows of one import key, or one
row without a key.  While identities are unique, the clock of a memory never falls, whatever
actions run.  An op that was applied, or that lost against the stored clock, leaves a row at least
as new as itself, so replaying it later changes nothing, unless it is the new side of a move and
the row is back in the old scope at the very clock of the op.
-/

namespace Codemem

/-- What identifies a memory. -/
inductive MemoryRef where
  | importKey (key : String)
  | row (id : ℕ)
  deriving DecidableEq

def MemoryItem.ref (row : MemoryItem) : MemoryRef :=
  match row.importKey with
  | some key => .importKey key
  | none => .row row.id

def Store.HasMemory (st : Store) (memory : MemoryRef) : Prop :=
  ∃ row ∈ st.memoryItems, row.ref = memory

/-- The clock of the memory is in the second store at least what it is in the first. -/
def ClockLe (memory : MemoryRef) (st st' : Store) : Prop :=
  ∀ row ∈ st.memoryItems, ∀ row' ∈ st'.memoryItems, row.ref = memory → row'.ref = memory →
    row.clock ≤ row'.clock

/-! ### One action -/

section Step

variable {st st' : Store} {memory : MemoryRef}

lemma ref_eq_importKey_iff {row : MemoryItem} {key : String} :
    row.ref = .importKey key ↔ row.importKey = some key := by
  unfold MemoryItem.ref
  cases row.importKey with
  | none => simp
  | some k => simp

lemma ref_congr {row row' : MemoryItem} (hid : row'.id = row.id)
    (hkey : row'.importKey = row.importKey) : row'.ref = row.ref := by
  unfold MemoryItem.ref
  rw [hid, hkey]

lemma eq_of_ref (hids : st.UniqueIds) (hkeys : st.UniqueKeys) {row row' : MemoryItem}
    (hrow : row ∈ st.memoryItems) (hrow' : row' ∈ st.memoryItems) (href : row.ref = row'.ref) :
    row = row' := by
  cases hkey : row.importKey with
  | some key =>
    have hrefKey : row.ref = .importKey key := ref_eq_importKey_iff.mpr hkey
    exact hkeys.eq_of_key (Store.mem_rowsOf.mpr ⟨hrow, hkey⟩)
      (Store.mem_rowsOf.mpr ⟨hrow', ref_eq_importKey_iff.mp (href ▸ hrefKey)⟩)
  | none =>
    have hrefId : row'.ref = .row row.id := by
      rw [← href]
      simp [MemoryItem.ref, hkey]
    refine hids.eq_of_id hrow hrow' ?_
    cases hkey' : row'.importKey with
    | some key => simp [MemoryItem.ref, hkey'] at hrefId
    | none => simpa [MemoryItem.ref, hkey'] using hrefId.symm

lemma RewritesRows.clockLe (h : RewritesRows st st') (hids : st.UniqueIds)
    (hkeys : st.UniqueKeys) : ClockLe memory st st' := by
  obtain ⟨write, hitems, hid, hkey, hclock⟩ := h
  intro row hrow row' hrow' href href'
  rw [hitems] at hrow'
  obtain ⟨old, hold, rfl⟩ := List.mem_map.mp hrow'
  obtain rfl := eq_of_ref hids hkeys hrow hold
    (href.trans (href'.symm.trans (ref_congr (hid old) (hkey old))))
  exact hclock hids hkeys row hrow

/-- No action lowers the clock of a memory that it leaves with one row. -/
lemma RowsEffect.clockLe (h : RowsEffect st st') (hids : st.UniqueIds) (hkeys : st.UniqueKeys)
    (hkeys' : st'.UniqueKeys) : ClockLe memory st st' := by
  have hmidIds := h.uniqueIds hids
  cases h with
  | rewritten h => exact h.clockLe hids hkeys
  | removed keep hitems =>
    intro row hrow row' hrow' href href'
    rw [hitems] at hrow'
    exact (eq_of_ref hids hkeys hrow (List.mem_of_mem_filter hrow') (href.trans href'.symm) ▸ le_rfl)
  | replaced keep new key mid hitems hkey hid holder h =>
    intro row hrow row' hrow' href href'
    have hmid : mid.UniqueKeys := h.uniqueKeys_iff.mp hkeys'
    have hmidIds : mid.UniqueIds := by
      rw [Store.UniqueIds, hitems, List.map_append, List.nodup_append]
      refine ⟨hids.sublist (List.filter_sublist.map _), by simp, fun i hi j hj => ?_⟩
      obtain ⟨r, hr, rfl⟩ := List.mem_map.mp hi
      rw [List.map_singleton, List.mem_singleton] at hj
      exact hj ▸ hid r hr
    -- the row of the memory between the insertion and the rewrite
    obtain ⟨r, hr, hrefr⟩ : ∃ r ∈ mid.memoryItems, r.ref = memory := by
      obtain ⟨write, hitems', hid', hkey', -⟩ := h
      rw [hitems'] at hrow'
      obtain ⟨r, hr, rfl⟩ := List.mem_map.mp hrow'
      exact ⟨r, hr, (ref_congr (hid' r) (hkey' r)).symm.trans href'⟩
    refine le_trans ?_ (h.clockLe hmidIds hmid r hr row' hrow' hrefr href')
    have hr' := hr
    rw [hitems, List.mem_append, List.mem_singleton] at hr
    rcases hr with hold | rfl
    · exact (eq_of_ref hids hkeys hrow (List.mem_of_mem_filter hold)
        (href.trans hrefr.symm)) ▸ le_rfl
    · have hrowKey : row.importKey = some key := by
        rw [← ref_eq_importKey_iff, href, ← hrefr, ref_eq_importKey_iff]
        exact hkey
      cases hkeep : keep row with
      | false => exact holder hids row hrow hrowKey hkeep
      | true =>
        have hmem : row ∈ mid.memoryItems := by
          rw [hitems]
          exact List.mem_append_left _ (List.mem_filter.mpr ⟨hrow, hkeep⟩)
        exact (eq_of_ref hmidIds hmid hmem hr' (href.trans hrefr.symm)) ▸ le_rfl

end Step

/-! ### Runs -/

/-- The clock of a memory does not fall between any two states of a run through stores that have
the memory and unique keys. -/
theorem visited_clockLe {st : Store} {actions : List StoreAction} (hids : st.UniqueIds)
    (memory : MemoryRef)
    (hrun : ∀ t ∈ visited StoreAction.run st actions, t.UniqueKeys ∧ t.HasMemory memory) :
    (visited StoreAction.run st actions).Pairwise (ClockLe memory) := by
  have hallIds : ∀ t ∈ visited StoreAction.run st actions, t.UniqueIds :=
    visited_invariant actions hids fun s action h => (action.run_rowsEffect s).uniqueIds h
  have hgood : ∀ t ∈ visited StoreAction.run st actions,
      t.UniqueIds ∧ t.UniqueKeys ∧ t.HasMemory memory := fun t ht => ⟨hallIds t ht, hrun t ht⟩
  refine visited_pairwise (fun s action hs hnext => ?_) ?_ hgood
  · exact (action.run_rowsEffect s).clockLe hs.1 hs.2.1 hnext.2.1
  · rintro a b c ⟨-, -, row, hrow, href⟩ hab hbc row1 hrow1 row3 hrow3 href1 href3
    exact (hab row1 hrow1 row hrow href1 href).trans (hbc row hrow row3 hrow3 href href3)

/-! ### Replay -/

/-- The op was applied, or it lost against the stored clock of an existing row. -/
def Processed (ctx : ApplyContext) (localDeviceId : String) (st : Store) (op : ReplicationOp) :
    Prop :=
  let tally := (applyReplicationOp ctx localDeviceId st op).2
  op.opType ∈ [OpType.upsert, .delete, .reassignScope] ∧
    (0 < tally.applied ∨ 0 < tally.conflicts)

/-- The op is the new side of a move, and the row is in the old scope at the clock of the op. -/
def BackInOldScope (st : Store) (op : ReplicationOp) : Prop :=
  ∃ reassignment, parseReassignScopePayload op = .ok reassignment ∧ reassignment.side = .new ∧
    ∃ row ∈ st.rowsOf op.entityId, row.clock = op.clock ∧
      row.effectiveScope = reassignment.oldScopeId

section Replay

variable {ctx : ApplyContext} {localDeviceId : String} {st : Store} {op : ReplicationOp}

lemma clock_le_of_conflict (hkeys : st.UniqueKeys) {row : MemoryItem}
    (hlookup : st.memoryByImportKey op.entityId = some row)
    (holder : isNewerClock op.clock row.clock = false) :
    ∀ r ∈ (st.insertReplicationOpRow op).rowsOf op.entityId, op.clock ≤ r.clock := by
  intro r hr
  rw [Store.rowsOf, Store.insertReplicationOpRow_memoryItems, ← Store.rowsOf] at hr
  obtain rfl := hkeys.eq_of_key hr (Store.mem_rowsOf_of_lookup hlookup)
  exact (isNewerClock_eq_false_iff _ _).mp holder

lemma clock_le_of_write (hkeys : st.UniqueKeys) {row : MemoryItem}
    (hlookup : st.memoryByImportKey op.entityId = some row) {st' : Store}
    (write : MemoryItem → MemoryItem) (hkey : ∀ r, (write r).importKey = r.importKey)
    (hclock : (write row).clock = op.clock)
    (hitems : st'.memoryItems = st.memoryItems.map fun r => if r.id == row.id then write r else r) :
    ∀ r ∈ st'.rowsOf op.entityId, op.clock ≤ r.clock := by
  intro r hr
  obtain ⟨hmem, hrKey⟩ := Store.mem_rowsOf.mp hr
  rw [hitems] at hmem
  obtain ⟨old, hold, rfl⟩ := List.mem_map.mp hmem
  have holdKey : old.importKey = some op.entityId := by
    rw [← hrKey]
    split_ifs
    · exact (hkey old).symm
    · rfl
  obtain rfl := hkeys.eq_of_key (Store.mem_rowsOf.mpr ⟨hold, holdKey⟩)
    (Store.mem_rowsOf_of_lookup hlookup)
  simp [hclock]

/-- An upsert, or the new side of a move, that was counted leaves no older row. -/
lemma applyUpsert_clock_le (hkeys : st.UniqueKeys) {reassignment : Option ReassignScopePayload}
    {st' : Store} {tally : OpTally} (h : applyUpsert ctx st op reassignment = .ok (st', tally))
    (hcounted : 0 < tally.applied ∨ 0 < tally.conflicts) :
    ∀ row ∈ st'.rowsOf op.entityId, op.clock ≤ row.clock := by
  unfold applyUpsert at h
  cases hlookup : st.memoryByImportKey op.entityId with
  | none =>
    rw [hlookup] at h
    rcases hparse : parseMemoryPayload ctx.runtime op with ⟨payload, errors⟩
    rw [hparse] at h
    cases payload with
    | none =>
      cases h
      simp [tallySkipped] at hcounted
    | some payload =>
      obtain rfl := congrArg Prod.fst (Except.ok.inj h)
      intro row hrow
      obtain ⟨hmem, hkey⟩ := Store.mem_rowsOf.mp hrow
      rw [applyUpsertInsert_memoryItems, List.mem_append, List.mem_singleton] at hmem
      rcases hmem with hmem | rfl
      · exact absurd hkey (Store.memoryByImportKey_eq_none_iff.mp hlookup row hmem)
      · rw [insertedRow_clock]
  | some memRow =>
    rw [hlookup] at h
    simp only at h
    split_ifs at h with hmismatch hclock
    · cases h
      exact clock_le_of_conflict hkeys hlookup hclock.1
    · rcases hparse : parseMemoryPayload ctx.runtime op with ⟨payload, errors⟩
      rw [hparse] at h
      cases payload with
      | none =>
        cases h
        simp [tallySkipped] at hcounted
      | some payload =>
        obtain rfl := congrArg Prod.fst (Except.ok.inj h)
        intro row hrow
        obtain ⟨hmem, hkey⟩ := Store.mem_rowsOf.mp hrow
        rw [applyUpsertUpdate_memoryItems] at hmem
        obtain ⟨old, hold, rfl⟩ := List.mem_map.mp hmem
        have holdKey : old.importKey = some op.entityId := by
          rw [← hkey]
          split_ifs <;> rfl
        rw [if_pos (by simp [holdKey]), overwriteRow_clock]

lemma applyDelete_clock_le (hkeys : st.UniqueKeys) {st' : Store} {tally : OpTally}
    (h : applyDelete ctx st op = (st', tally))
    (hcounted : 0 < tally.applied ∨ 0 < tally.conflicts) :
    ∀ row ∈ st'.rowsOf op.entityId, op.clock ≤ row.clock := by
  unfold applyDelete at h
  cases hlookup : st.memoryByImportKey op.entityId with
  | none =>
    rw [hlookup] at h
    cases h
    simp [tallySkipped] at hcounted
  | some existing =>
    rw [hlookup] at h
    simp only at h
    split_ifs at h with hnewer
    · cases h
      exact clock_le_of_conflict hkeys hlookup hnewer
    · cases h
      refine clock_le_of_write hkeys hlookup (tombstoneRow op ctx.now) (fun _ => rfl)
        (tombstoneRow_clock op ctx.now existing) ?_
      rw [Store.insertReplicationOpRow_memoryItems, Store.updateMemories,
        recordForeignMemoryRevision_memoryItems]

lemma applyReassignOldSide_clock_le (hkeys : st.UniqueKeys) {reassignment : ReassignScopePayload}
    {st' : Store} {tally : OpTally}
    (h : applyReassignOldSide st op localDeviceId reassignment = .ok (st', tally))
    (hcounted : 0 < tally.applied ∨ 0 < tally.conflicts) :
    ∀ row ∈ st'.rowsOf op.entityId, op.clock ≤ row.clock := by
  unfold applyReassignOldSide at h
  cases hlookup : st.memoryByImportKey op.entityId with
  | none =>
    rw [hlookup] at h
    cases h
    simp [tallySkipped] at hcounted
  | some current =>
    rw [hlookup] at h
    simp only at h
    split_ifs at h with hscope horigin hnewer
    · cases h
      simp [tallySkipped] at hcounted
    · cases h
      exact clock_le_of_conflict hkeys hlookup hnewer
    · cases h
      refine clock_le_of_write hkeys hlookup (retractRow op reassignment) (fun _ => rfl)
        (retractRow_clock op reassignment current) ?_
      rw [Store.insertReplicationOpRow_memoryItems, Store.updateMemories,
        recordForeignMemoryRevision_memoryItems]

/-- After an op was processed, no row of its entity is older than the op. -/
theorem Processed.clock_le (h : Processed ctx localDeviceId st op) (hkeys : st.UniqueKeys) :
    ∀ row ∈ (applyReplicationOp ctx localDeviceId st op).1.rowsOf op.entityId,
      op.clock ≤ row.clock := by
  obtain ⟨htype, hcounted⟩ := h
  unfold applyReplicationOp at hcounted ⊢
  cases hfault : ctx.fault st op with
  | some message => simp [hfault] at hcounted
  | none =>
    simp only [hfault] at hcounted ⊢
    cases hbody : replicationOpBody ctx localDeviceId st op with
    | error message => simp [hbody] at hcounted
    | ok result =>
      obtain ⟨st', tally⟩ := result
      simp only [hbody] at hcounted ⊢
      unfold replicationOpBody at hbody
      split_ifs at hbody
      · cases hbody
        simp [tallySkipped] at hcounted
      · simp only [List.mem_cons, List.not_mem_nil, or_false] at htype
        rcases htype with hop | hop | hop
        · rw [hop] at hbody
          exact applyUpsert_clock_le hkeys hbody hcounted
        · rw [hop] at hbody
          exact applyDelete_clock_le hkeys (Except.ok.inj hbody) hcounted
        · rw [hop] at hbody
          cases hparse : parseReassignScopePayload op with
          | error message =>
            rw [hparse] at hbody
            cases hbody
          | ok reassignment =>
            rw [hparse] at hbody
            cases hside : reassignment.side with
            | old =>
              simp only [hside] at hbody
              exact applyReassignOldSide_clock_le hkeys hbody hcounted
            | new =>
              simp only [hside] at hbody
              exact applyUpsert_clock_le hkeys hbody hcounted

/-- An op that is no newer than the existing row of its entity changes no row, unless it moves the
row out of the old scope again. -/
theorem applyReplicationOp_replay (htype : op.opType ≠ .accessCleanup)
    (hrow : st.HasMemory (.importKey op.entityId))
    (hclock : ∀ row ∈ st.rowsOf op.entityId, op.clock ≤ row.clock)
    (hback : ¬ BackInOldScope st op) :
    (applyReplicationOp ctx localDeviceId st op).1.memoryItems = st.memoryItems := by
  have hnot : ∀ row, st.memoryByImportKey op.entityId = some row →
      isNewerClock op.clock row.clock = false := fun row hlookup =>
    (isNewerClock_eq_false_iff _ _).mpr (hclock row (Store.mem_rowsOf_of_lookup hlookup))
  have heffect := applyReplicationOp_rowEffect ctx localDeviceId st op
  generalize hitems : (applyReplicationOp ctx localDeviceId st op).1.memoryItems = items at heffect
  cases heffect with
  | unchanged => rfl
  | removed existing hop hlookup => exact absurd hop htype
  | retracted current reassignment hlookup hscope hnewer =>
    rw [hnot current hlookup] at hnewer
    cases hnewer
  | tombstoned existing hop hlookup hnewer =>
    rw [hnot existing hlookup] at hnewer
    cases hnewer
  | overwritten memRow payload reassignment hmove hlookup hclock' =>
    rcases hclock' with hnewer | hsame
    · rw [hnot memRow hlookup] at hnewer
      cases hnewer
    · simp only [sameReassignmentClock, Option.any_eq_true, Bool.and_eq_true, beq_iff_eq] at hsame
      obtain ⟨r, hr, ⟨hside, heq⟩, hscope⟩ := hsame
      exact absurd ⟨r, hmove r hr, hside, memRow, Store.mem_rowsOf_of_lookup hlookup, heq.symm,
        hscope⟩ hback
  | inserted payload sessionId hlookup =>
    obtain ⟨row, hmem, href⟩ := hrow
    exact absurd (ref_eq_importKey_iff.mp href)
      (Store.memoryByImportKey_eq_none_iff.mp hlookup row hmem)

end Replay

lemma applyReplicationOps_replay {st : Store} {op : ReplicationOp}
    (htype : op.opType ≠ .accessCleanup) (hrow : st.HasMemory (.importKey op.entityId))
    (hclock : ∀ row ∈ st.rowsOf op.entityId, op.clock ≤ row.clock)
    (hback : ¬ BackInOldScope st op) (ctx : ApplyContext) (localDeviceId : String)
    (validation : Option InboundScopeValidationOptions) (log : List ReplicationOp) :
    (applyReplicationOps ctx { st with replicationOps := log } [op] localDeviceId
      validation).1.memoryItems = st.memoryItems := by
  rw [batchActions_run, batchActions]
  split
  · rfl
  · have hrow' : Store.HasMemory { st with replicationOps := log } (.importKey op.entityId) := hrow
    exact applyReplicationOp_replay htype hrow' hclock hback

/-- In a run through stores with unique import keys, the clock of a memory never falls while the
memory has a row, a processed op leaves no older row, and replaying it later, whatever has become
of the log, changes no row while the memory has one and is not back in the old scope of the op. -/
theorem clock_monotone_and_replay (st : Store) (calls : List StoreCall) (hids : st.UniqueIds)
    (hkeys : ∀ t ∈ visited StoreAction.run st (runActions st calls), t.UniqueKeys) :
    (∀ before part after memory, runActions st calls = before ++ part ++ after →
      (∀ t ∈ visited StoreAction.run (before.foldl StoreAction.run st) part,
        t.HasMemory memory) →
      (visited StoreAction.run (before.foldl StoreAction.run st) part).Pairwise
        (ClockLe memory)) ∧
    ∀ before part after ctx localDeviceId op,
      runActions st calls = before ++ .applyOp ctx localDeviceId op :: part ++ after →
      Processed ctx localDeviceId (before.foldl StoreAction.run st) op →
      let applied := (applyReplicationOp ctx localDeviceId (before.foldl StoreAction.run st) op).1
      let later := part.foldl StoreAction.run applied
      (∀ row ∈ applied.rowsOf op.entityId, op.clock ≤ row.clock) ∧
      ((∀ t ∈ visited StoreAction.run applied part, t.HasMemory (.importKey op.entityId)) →
        ¬ BackInOldScope later op →
        ∀ ctx' localDeviceId' validation log,
          (applyReplicationOps ctx' { later with replicationOps := log } [op] localDeviceId'
            validation).1.memoryItems = later.memoryItems) := by
  have hallIds : ∀ t ∈ visited StoreAction.run st (runActions st calls), t.UniqueIds :=
    visited_invariant _ hids fun s action h => (action.run_rowsEffect s).uniqueIds h
  -- the states of a part of the run are states of the run
  have hpart : ∀ before part after, runActions st calls = before ++ part ++ after →
      visited StoreAction.run (before.foldl StoreAction.run st) part ⊆
        visited StoreAction.run st (runActions st calls) := by
    intro before part after hsplit
    rw [hsplit]
    exact List.Subset.trans (visited_append_right _ _ _ _) (visited_append_left _ _ _ _)
  have hmonotone : ∀ before part after memory, runActions st calls = before ++ part ++ after →
      (∀ t ∈ visited StoreAction.run (before.foldl StoreAction.run st) part,
        t.HasMemory memory) →
      (visited StoreAction.run (before.foldl StoreAction.run st) part).Pairwise
        (ClockLe memory) := by
    intro before part after memory hsplit hpresent
    have hsub := hpart before part after hsplit
    exact visited_clockLe (hallIds _ (hsub (mem_visited_self _ _ _))) memory fun t ht =>
      ⟨hkeys t (hsub ht), hpresent t ht⟩
  refine ⟨hmonotone, ?_⟩
  intro before part after ctx localDeviceId op hsplit hprocessed applied later
  have hbefore : (before.foldl StoreAction.run st).UniqueKeys :=
    hkeys _ (hpart before _ after hsplit (mem_visited_self _ _ _))
  have hclock := hprocessed.clock_le hbefore
  refine ⟨hclock, fun hpresent hback ctx' localDeviceId' validation log => ?_⟩
  have hlater : later ∈ visited StoreAction.run applied part := foldl_mem_visited _ _ _
  -- from the op on, the clock of its memory does not fall
  have hle : ClockLe (.importKey op.entityId) applied later := by
    have hsplit' : runActions st calls = (before ++ [.applyOp ctx localDeviceId op]) ++ part ++
        after := by
      rw [hsplit]
      simp
    have hstart : (before ++ [StoreAction.applyOp ctx localDeviceId op]).foldl StoreAction.run st =
        applied := by
      rw [List.foldl_append]
      rfl
    have hpair := hmonotone _ part after (.importKey op.entityId) hsplit'
    rw [hstart] at hpair
    exact visited_first_last (hpair hpresent) fun row hrow row' hrow' href href' => by
      have hkeysApplied : applied.UniqueKeys := applyReplicationOp_uniqueKeys hbefore _ _ _
      have := hkeysApplied.eq_of_key (Store.mem_rowsOf.mpr ⟨hrow, ref_eq_importKey_iff.mp href⟩)
        (Store.mem_rowsOf.mpr ⟨hrow', ref_eq_importKey_iff.mp href'⟩)
      exact this ▸ le_rfl
  obtain ⟨first, hfirst, hfirstRef⟩ := hpresent applied (mem_visited_self _ _ _)
  refine applyReplicationOps_replay ?_ (hpresent later hlater) ?_ hback ctx' localDeviceId'
    validation log
  · intro hcleanup
    have hmem := hprocessed.1
    rw [hcleanup] at hmem
    exact absurd hmem (by decide)
  · intro row hrow
    obtain ⟨hmem, hkey⟩ := Store.mem_rowsOf.mp hrow
    exact (hclock first (Store.mem_rowsOf.mpr ⟨hfirst, ref_eq_importKey_iff.mp hfirstRef⟩)).trans
      (hle first hfirst row hmem hfirstRef (ref_eq_importKey_iff.mpr hkey))

/-! ### The two exceptions -/

/-- The new side of a move of memory `m1` at revision 2. -/
def sampleMove (opId oldScopeId newScopeId : String) : ReplicationOp :=
  { sampleUpsert opId "title" 2 with
    opType := .reassignScope
    scopeId := some newScopeId
    payloadJson := some (toJson [("operation_id", .str opId), ("memory_id", .str "m1"),
      ("old_scope_id", .str oldScopeId), ("new_scope_id", .str newScopeId),
      ("revision", .num 2), ("side", .str "new"), ("scope_id", .str newScopeId)]) }

/-- Memory `m1` is inserted in scope `team`, moved away and moved back at one clock; then the log
is pruned. -/
def sampleMoves : List StoreCall :=
  [.applyReplicationOps (plainContext "2026-01-02") [sampleUpsert "op-u" "title" 1] "local" none,
   .applyReplicationOps (plainContext "2026-01-02") [sampleMove "op-a" "team" "other"] "local" none,
   .applyReplicationOps (plainContext "2026-01-02") [sampleMove "op-b" "other" "team"] "local" none,
   .single (.pruneLog fun _ => false)]

/-- Two opposite moves with one clock: replaying the first moves the row again.  And a merge that
adds a second row of an import key: a later upsert lowers the clock of that row. -/
theorem replay_and_duplicate_exceptions :
    ((visited StoreAction.run Store.empty (runActions Store.empty sampleMoves)).map
        fun t => t.memoryItems.length) = [0, 1, 1, 1, 1] ∧
    (applyReplicationOps (plainContext "2026-01-02")
        ((sampleMoves.take 1).foldl StoreCall.run Store.empty) [sampleMove "op-a" "team" "other"]
        "local" none).2.applied = 1 ∧
    (sampleMoves.foldl StoreCall.run Store.empty).memoryItems.map MemoryItem.scopeId =
      [some "team"] ∧
    (applyReplicationOps (plainContext "2026-01-02")
        (sampleMoves.foldl StoreCall.run Store.empty) [sampleMove "op-a" "team" "other"] "local"
        none).1.memoryItems.map MemoryItem.scopeId = [some "other"] ∧
    ([StoreCall.applyReplicationOps (plainContext "2026-01-02") [sampleUpsert "op-u" "title" 5]
          "local" none,
        .mergeBootstrapSnapshot ⟨⟨id, id⟩, "snapshot"⟩ "peer" [sampleSnapshotItem 9]
          sampleResetInfo false].foldl StoreCall.run Store.empty).memoryItems.map
        (fun row => (row.id, row.rev)) = [(1, some 5), (2, some 9)] ∧
    ([StoreCall.applyReplicationOps (plainContext "2026-01-02") [sampleUpsert "op-u" "title" 5]
          "local" none,
        .mergeBootstrapSnapshot ⟨⟨id, id⟩, "snapshot"⟩ "peer" [sampleSnapshotItem 9]
          sampleResetInfo false,
        .applyReplicationOps (plainContext "2026-01-02") [sampleUpsert "op-v" "title" 7]
          "local" none].foldl StoreCall.run Store.empty).memoryItems.map
        (fun row => (row.id, row.rev)) = [(1, some 7), (2, some 7)] := by
  decide

lemma uniqueKeys_of_length_le {st : Store} (h : st.memoryItems.length ≤ 1) : st.UniqueKeys :=
  fun _ => (List.length_filter_le _ _).trans h

/-- After an upsert was applied to the empty store, the row is as new as the upsert. -/
theorem clock_monotone_first_upsert :
    ∃ row ∈ (applyReplicationOp (plainContext "2026-01-02") "local" Store.empty
        (sampleUpsert "op-u" "title" 1)).1.rowsOf "m1",
      (sampleUpsert "op-u" "title" 1).clock ≤ row.clock := by
  have hlen : ∀ n ∈ (visited StoreAction.run Store.empty (runActions Store.empty
      [.applyReplicationOps (plainContext "2026-01-02") [sampleUpsert "op-u" "title" 1] "local"
        none])).map (fun t => t.memoryItems.length), n ≤ 1 := by decide
  have hrows : 0 < ((applyReplicationOp (plainContext "2026-01-02") "local" Store.empty
      (sampleUpsert "op-u" "title" 1)).1.rowsOf "m1").length := by decide
  obtain ⟨row, hrow⟩ := List.exists_mem_of_length_pos hrows
  refine ⟨row, hrow, ?_⟩
  exact ((clock_monotone_and_replay Store.empty
    [.applyReplicationOps (plainContext "2026-01-02") [sampleUpsert "op-u" "title" 1] "local" none]
    List.nodup_nil fun t ht => uniqueKeys_of_length_le (hlen _ (List.mem_map_of_mem ht))).2
    [] [] [] (plainContext "2026-01-02") "local" (sampleUpsert "op-u" "title" 1) rfl
    ⟨by decide, Or.inl (by decide)⟩).1 row hrow

end Codemem

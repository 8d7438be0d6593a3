import Codemem.Replication.SnapshotPage
import Codemem.Store.RetirementFence
import Codemem.Sync.Retraction

/-!
# The retirement fence along runs

Local mutations move rows on their own: `remember` inserts one under a key it may be given,
`ensureMemoryScopeId` stamps a row that has no scope, `reassignMemoryScope` moves one.  None of them
asks the retirement table.  `CallRespectsFence` says when they keep away from retired pairs; then
no run creates or revives a retired memory, and the two read paths never send one.
-/

namespace Codemem

/-! ### Stamping -/

section Stamping

variable {ctx : LocalContext} {st : Store} {memoryId : ℕ}

/-- The row with another scope column. -/
def MemoryItem.inScope (row : MemoryItem) (scopeId : String) : MemoryItem :=
  { row with scopeId := some scopeId }

/-- A stamp puts no live row of the id into a scope its memory is retired from. -/
def StampRespectsFence (ctx : LocalContext) (st : Store) (memoryId : ℕ) : Prop :=
  ∀ row ∈ st.memoryItems, row.id = memoryId → row.isLive = true → cleanText row.scopeId = none →
    isMemoryScopeRetired st (reassignmentEntityId row)
      (some (row.inScope (ctx.resolveProjectScope st row)).effectiveScope) = false

lemma ensureMemoryScopeId_eq (ctx : LocalContext) (st : Store) (memoryId : ℕ) :
    (ensureMemoryScopeId ctx st memoryId).2 = st ∨
      ∃ row, st.memoryById memoryId = some row ∧ cleanText row.scopeId = none ∧
        ensureMemoryScopeId ctx st memoryId =
          (some (ctx.resolveProjectScope st row),
            st.updateMemories (fun r => r.id == memoryId && sqlBlankScope r.scopeId)
              fun r => r.inScope (ctx.resolveProjectScope st row)) := by
  unfold ensureMemoryScopeId
  cases hlookup : st.memoryById memoryId with
  | none => exact .inl rfl
  | some row =>
    cases hscope : cleanText row.scopeId with
    | some scopeId => exact .inl (by simp [hscope])
    | none =>
      simp only [hscope]
      split_ifs with hempty
      · exact .inl rfl
      · exact .inr ⟨row, rfl, hscope, rfl⟩

lemma ensureMemoryScopeId_keepsFence (hids : st.UniqueIds)
    (h : StampRespectsFence ctx st memoryId) :
    KeepsFence st (ensureMemoryScopeId ctx st memoryId).2 := by
  rcases ensureMemoryScopeId_eq ctx st memoryId with hsame | ⟨row, hlookup, hscope, hstamped⟩
  · rw [hsame]
    exact .of_subset rfl (List.Subset.refl _)
  · obtain ⟨hrow, hrowId⟩ := Store.memoryById_eq_some hlookup
    rw [hstamped]
    refine .of_map rfl rfl fun r hr => ?_
    by_cases hsel : (r.id == memoryId && sqlBlankScope r.scopeId) = true
    · rw [if_pos hsel]
      have hid : r.id = memoryId := by
        rw [Bool.and_eq_true, beq_iff_eq] at hsel
        exact hsel.1
      obtain rfl := hids.eq_of_id hr hrow (hid.trans hrowId.symm)
      cases hlive : r.isLive with
      | true => exact .inr (harmlessWrite_of_not_retired rfl (h r hr hid hlive hscope))
      | false => exact .inr (harmlessWrite_of_not_live rfl hlive)
    · rw [if_neg hsel]
      exact .inl rfl

lemma insertNewOp_keepsFence {st' : Store} {op : ReplicationOp}
    (h : insertNewOp st op = .ok st') : KeepsFence st st' := by
  rw [(insertNewOp_eq_ok h).2]
  exact .of_subset rfl (List.Subset.refl _)

lemma recordReplicationOp_keepsFence {opts : RecordOptions} (hids : st.UniqueIds)
    (h : opts.scopeId = none → StampRespectsFence ctx st opts.memoryId) :
    KeepsFence st (recordReplicationOp ctx st opts).1 := by
  have hstamp : KeepsFence st (recordedScope ctx st opts).2 := by
    unfold recordedScope
    cases hscope : opts.scopeId with
    | none => exact ensureMemoryScopeId_keepsFence hids (h hscope)
    | some scopeId => exact .of_subset rfl (List.Subset.refl _)
  unfold recordReplicationOp
  generalize recordedScope ctx st opts = stamped at hstamp ⊢
  obtain ⟨scopeId, st1⟩ := stamped
  simp only at hstamp ⊢
  cases hinsert : insertNewOp st1 (recordedOp ctx st1 opts (st.memoryById opts.memoryId) scopeId) with
  | error message => exact hstamp
  | ok st2 => exact hstamp.trans (insertNewOp_keepsFence hinsert)

end Stamping

/-! ### Local mutations -/

section LocalMutations

variable {ms : MemoryStore} {st st' : Store} {memoryId : ℕ}

lemma forget_keepsFence (hids : st.UniqueIds) (h : ms.forget st memoryId = .ok st') :
    KeepsFence st st' := by
  unfold MemoryStore.forget at h
  cases hlookup : st.memoryById memoryId with
  | none =>
    rw [hlookup] at h
    cases h
    exact .of_subset rfl (List.Subset.refl _)
  | some row =>
    rw [hlookup] at h
    simp only at h
    have hallowed : ms.sharedMutationAllowed row.visibility ≠ false := by
      intro hbad
      rw [if_pos hbad] at h
      cases h
    rw [if_neg hallowed] at h
    cases h
    have hforget : KeepsFence st
        (st.updateMemories (fun r => r.id == memoryId) (ms.forgottenRow row)) := by
      refine .of_map rfl rfl fun r _ => ?_
      by_cases hsel : (r.id == memoryId) = true
      · rw [if_pos hsel]
        exact .inr (harmlessWrite_of_not_live rfl rfl)
      · rw [if_neg hsel]
        exact .inl rfl
    have hids' : (st.updateMemories (fun r => r.id == memoryId) (ms.forgottenRow row)).UniqueIds :=
      Store.uniqueIds_of_map (fun r => by split_ifs <;> rfl) rfl hids
    refine hforget.trans (recordReplicationOp_keepsFence hids' fun _ r hr hid hlive => ?_)
    -- the rows of the id carry a tombstone
    obtain ⟨old, -, rfl⟩ := List.mem_map.mp hr
    by_cases hsel : (old.id == memoryId) = true
    · rw [if_pos hsel] at hlive
      cases hlive
    · rw [if_neg hsel] at hid
      exact absurd (beq_iff_eq.mpr hid) hsel

/-- The store between the visibility update and its op. -/
def MemoryStore.withVisibility (ms : MemoryStore) (st : Store) (row : MemoryItem)
    (cleaned : String) : Store :=
  st.updateMemories (fun r => r.id == row.id) (ms.visibilityRow row cleaned)

lemma updateMemoryVisibility_keepsFence {visibility : String} (hids : st.UniqueIds)
    (hstamp : ∀ row, st.activeMemoryById memoryId = some row →
      StampRespectsFence ms.toLocalContext (ms.withVisibility st row (trim visibility)) memoryId)
    (h : ms.updateMemoryVisibility st memoryId visibility = .ok st') : KeepsFence st st' := by
  unfold MemoryStore.updateMemoryVisibility at h
  simp only at h
  split_ifs at h
  cases hlookup : st.activeMemoryById memoryId with
  | none => simp [hlookup] at h
  | some row =>
    rw [hlookup] at h
    simp only at h
    split_ifs at h
    cases h
    obtain ⟨-, rfl⟩ := Store.activeMemoryById_eq_some hlookup
    have hwrite : KeepsFence st (ms.withVisibility st row (trim visibility)) := by
      refine .of_map rfl rfl fun r _ => ?_
      by_cases hsel : (r.id == row.id) = true
      · rw [if_pos hsel]
        exact .inr (harmlessWrite_of_same rfl rfl rfl rfl rfl)
      · rw [if_neg hsel]
        exact .inl rfl
    have hids' : (ms.withVisibility st row (trim visibility)).UniqueIds :=
      Store.uniqueIds_of_map (fun r => by split_ifs <;> rfl) rfl hids
    exact hwrite.trans (recordReplicationOp_keepsFence hids' fun _ => hstamp row hlookup)

lemma writeReassignment_store {row : MemoryItem} {oldScopeId newScopeId : String}
    (h : ms.writeReassignment st memoryId row oldScopeId newScopeId = .ok st') :
    st'.memoryScopeRetirements = st.memoryScopeRetirements ∧
      st'.memoryItems = (st.updateMemories (fun r => r.id == memoryId)
        (ms.reassignedRow row oldScopeId newScopeId)).memoryItems := by
  unfold MemoryStore.writeReassignment at h
  simp only at h
  split at h
  · cases h
  · rename_i st2 _ hdelete
    split at h
    · cases h
    · rename_i st3 _ hupsert
      split_ifs at h
      cases h
      have hold := recordReplicationOp_of_scope rfl hdelete
      have hnew := recordReplicationOp_of_scope rfl hupsert
      rw [hnew, hold]
      exact ⟨rfl, rfl⟩

/-- The move of a live row goes to a scope its memory is not retired from, or nowhere. -/
def MoveRespectsFence (st : Store) (memoryId : ℕ) (newScopeId : String) : Prop :=
  ∀ row, st.activeMemoryById memoryId = some row → row.isLive = true →
    ∀ scopeId ∈ cleanText (some newScopeId), row.effectiveScope = scopeId ∨
      isMemoryScopeRetired st (reassignmentEntityId row) (some scopeId) = false

lemma ensureMemoryScopeId_keepsFence_of_move {ctx : LocalContext} {row : MemoryItem}
    {scopeId : String} (hids : st.UniqueIds) (hlookup : st.activeMemoryById memoryId = some row)
    (hclean : cleanText (some scopeId) = some scopeId)
    (hmove : row.isLive = true → row.effectiveScope = scopeId ∨
      isMemoryScopeRetired st (reassignmentEntityId row) (some scopeId) = false)
    (hensure : (ensureMemoryScopeId ctx st memoryId).1 = some scopeId) :
    KeepsFence st (ensureMemoryScopeId ctx st memoryId).2 := by
  obtain ⟨hrow, hrowId⟩ := Store.activeMemoryById_eq_some hlookup
  rcases ensureMemoryScopeId_eq ctx st memoryId with hsame | ⟨found, hfound, hscope, hstamped⟩
  · rw [hsame]
    exact .of_subset rfl (List.Subset.refl _)
  · obtain ⟨hmem, hfoundId⟩ := Store.memoryById_eq_some hfound
    obtain rfl := hids.eq_of_id hmem hrow (hfoundId.trans hrowId.symm)
    rw [hstamped] at hensure ⊢
    have hresolved : ctx.resolveProjectScope st found = scopeId := Option.some.inj hensure
    have heffective : ∀ r : MemoryItem, (r.inScope scopeId).effectiveScope = scopeId := by
      intro r
      simp [MemoryItem.effectiveScope, MemoryItem.inScope, hclean]
    refine .of_map rfl rfl fun r hr => ?_
    by_cases hsel : (r.id == memoryId && sqlBlankScope r.scopeId) = true
    · rw [if_pos hsel, hresolved]
      have hid : r.id = memoryId := by
        rw [Bool.and_eq_true, beq_iff_eq] at hsel
        exact hsel.1
      obtain rfl := hids.eq_of_id hr hmem (hid.trans hfoundId.symm)
      cases hlive : r.isLive with
      | false => exact .inr (harmlessWrite_of_not_live rfl hlive)
      | true =>
        rcases hmove hlive with hsame | hnot
        · -- the row is in the scope already, under the default name of a missing scope
          refine .inr ⟨rfl, fun entityId scope _ hafter => ⟨hafter.entity, ?_, hlive⟩⟩
          rw [hsame, ← heffective r]
          exact hafter.scope
        · refine .inr (harmlessWrite_of_not_retired rfl ?_)
          rw [heffective]
          exact hnot
    · rw [if_neg hsel]
      exact .inl rfl

lemma reassignedRow_harmless {row stamped : MemoryItem} {oldScopeId newScopeId : String}
    (hclean : cleanText (some newScopeId) = some newScopeId)
    (hstamped : ∃ scopeId, stamped = { row with scopeId := scopeId })
    (hmove : row.isLive = true → row.effectiveScope = newScopeId ∨
      isMemoryScopeRetired st (reassignmentEntityId row) (some newScopeId) = false) :
    HarmlessWrite st row (ms.reassignedRow row oldScopeId newScopeId stamped) := by
  obtain ⟨scopeId, rfl⟩ := hstamped
  generalize hwritten : ms.reassignedRow row oldScopeId newScopeId
    { row with scopeId := scopeId } = written
  have hid : written.id = row.id := by
    rw [← hwritten]
    rfl
  have hentity : reassignmentEntityId written = reassignmentEntityId row := by
    rw [← hwritten]
    rfl
  have hisLive : written.isLive = row.isLive := by
    rw [← hwritten]
    rfl
  have hscope : written.effectiveScope = newScopeId := by
    rw [← hwritten]
    simp [MemoryItem.effectiveScope, MemoryStore.reassignedRow, hclean]
  cases hlive : row.isLive with
  | false => exact harmlessWrite_of_not_live hid (hisLive.trans hlive)
  | true =>
    rcases hmove hlive with hsame | hnot
    · refine ⟨hid, fun entityId scope _ hafter => ⟨?_, ?_, hlive⟩⟩
      · rw [← hentity]
        exact hafter.entity
      · rw [hsame, ← hscope]
        exact hafter.scope
    · refine harmlessWrite_of_not_retired hid ?_
      rw [hentity, hscope]
      exact hnot

/-- `reassignMemoryScope` keeps the fence when its move does. -/
lemma reassignMemoryScope_keepsFence {newScopeId : String} (hids : st.UniqueIds)
    (hmove : MoveRespectsFence st memoryId newScopeId)
    (h : ms.reassignMemoryScope st memoryId newScopeId = .ok st') : KeepsFence st st' := by
  unfold MemoryStore.reassignMemoryScope at h
  cases hclean : cleanText (some newScopeId) with
  | none => simp [hclean] at h
  | some cleaned =>
    have hcleaned : cleanText (some cleaned) = some cleaned := cleanText_of_cleanText hclean
    cases hlookup : st.activeMemoryById memoryId with
    | none => simp [hclean, hlookup] at h
    | some row =>
      simp only [hclean, hlookup] at h
      obtain ⟨hrow, hrowId⟩ := Store.activeMemoryById_eq_some hlookup
      have hlands : row.isLive = true → row.effectiveScope = cleaned ∨
          isMemoryScopeRetired st (reassignmentEntityId row) (some cleaned) = false :=
        fun hlive => hmove row hlookup hlive cleaned hclean
      have hstamp := @ensureMemoryScopeId_keepsFence_of_move _ _ ms.toLocalContext row cleaned hids
        hlookup hcleaned hlands
      obtain ⟨write, hwrite, hother, hstore⟩ := ensureMemoryScopeId_store ms.toLocalContext st memoryId
      rcases hensure : ensureMemoryScopeId ms.toLocalContext st memoryId with ⟨scope, st1⟩
      rw [hensure] at h hstamp hstore
      simp only at hstore hstamp
      cases scope with
      | none =>
        simp only at h
        split_ifs at h
      | some oldScopeId =>
        simp only at h
        split_ifs at h with _ _ hsame
        · cases h
          exact hstamp (by rw [hsame])
        · obtain ⟨hretirements, hitems⟩ := writeReassignment_store h
          rw [hstore] at hretirements hitems
          rw [Store.updateMemories, List.map_map] at hitems
          refine .of_map hretirements hitems fun r hr => ?_
          have hid : (write r).id = r.id := by
            obtain ⟨scopeId, hr⟩ := hwrite r
            rw [hr]
          by_cases hsel : r.id = memoryId
          · obtain rfl := hids.eq_of_id hr hrow (hsel.trans hrowId.symm)
            refine .inr ?_
            simp only [Function.comp_apply, hid, hsel, beq_self_eq_true, if_true]
            exact reassignedRow_harmless hcleaned (hwrite r) hlands
          · refine .inl ?_
            simp [hother r hsel, hsel]

/-- `recordScopeReassignment` asks the retirement table before it writes. -/
lemma recordScopeReassignment_keepsFence {ctx : LocalContext} {opts : ReassignmentOptions}
    {result : ReassignmentResult} (hids : st.UniqueIds)
    (h : recordScopeReassignment ctx st opts = .ok (st', result)) : KeepsFence st st' := by
  unfold recordScopeReassignment at h
  split at h
  · rename_i operationId oldScopeId newScopeId deviceId _ _ hnew _
    split_ifs at h
    cases hlookup : st.memoryById opts.memoryId with
    | none => simp [hlookup] at h
    | some existing =>
      obtain ⟨hrow, -⟩ := Store.memoryById_eq_some hlookup
      rw [hlookup] at h
      simp only at h
      split at h
      · split_ifs at h
        unfold writeScopeReassignment at h
        simp only at h
        have hnot : ¬ isMemoryScopeRetired st (reassignmentEntityId existing) (some newScopeId) =
            true := by
          intro hbad
          rw [if_pos hbad] at h
          cases h
        rw [if_neg hnot] at h
        obtain ⟨st2, h2, h⟩ := exists_of_bind_eq_ok h
        obtain ⟨st3, h3, h⟩ := exists_of_bind_eq_ok h
        cases h
        refine KeepsFence.trans ?_ ((insertNewOp_keepsFence h2).trans (insertNewOp_keepsFence h3))
        refine .of_map rfl rfl fun r hr => ?_
        by_cases hsel : (r.id == existing.id) = true
        · obtain rfl := hids.eq_of_id hr hrow (beq_iff_eq.mp hsel)
          have hscope : (reassignRow r operationId oldScopeId newScopeId deviceId
              (r.rev.getD 0 + 1) (opts.createdAt.getD ctx.now) r).effectiveScope = newScopeId := by
            simp [MemoryItem.effectiveScope, reassignRow, cleanText_of_cleanText hnew]
          rw [if_pos hsel]
          refine .inr (harmlessWrite_of_not_retired rfl ?_)
          rw [hscope]
          exact eq_false_of_ne_true hnot
        · rw [if_neg hsel]
          exact .inl rfl
      · split_ifs at h
        cases h
        exact .of_subset rfl (List.Subset.refl _)
      · cases h
  · cases h

/-- The store of `remember` before its op is logged. -/
def MemoryStore.insertedMemory (ms : MemoryStore) (st : Store) (input : RememberInput) : Store :=
  let metadata := ms.newMemoryMetadata input
  let importKey := memoryCreationImportKey input metadata
  let st1 := bindAllocatedSource ms st input
  let st2 := populateMemoryRefs ms.runtime
    (st1.insertMemory (ms.rememberedRow st1 input importKey)) st1.nextMemoryId
    (asStringArrayOrNull (metadata.get "files_read"))
    (asStringArrayOrNull (metadata.get "files_modified"))
    (asStringArrayOrNull (metadata.get "concepts"))
  if hasSuppliedMemoryIdentity input.metadata then recordForeignMemoryRevision st2 importKey .imported
  else st2

/-- A new memory is not retired from the scope of its session, nor from the one it is stamped
with. -/
def RememberRespectsFence (ms : MemoryStore) (st : Store) (input : RememberInput) : Prop :=
  ms.creates input = true →
    isMemoryScopeRetired st (ms.createdKey input)
        (some (normalizeSyncStateScopeId (some input.sessionScopeId))) = false ∧
      (input.replicate = true →
        StampRespectsFence ms.toLocalContext (ms.insertedMemory st input) st.nextMemoryId)

lemma remember_eq_of_creates {input : RememberInput} (h : ms.creates input = true) :
    committed st ((ms.remember st input).map Prod.snd) =
      if input.replicate then
        (recordReplicationOp ms.toLocalContext (ms.insertedMemory st input)
          (.plain st.nextMemoryId .upsert ms.deviceId)).1
      else ms.insertedMemory st input := by
  simp only [MemoryStore.creates, Bool.and_eq_true, Option.isNone_iff_eq_none] at h
  obtain ⟨hdup, hallowed⟩ := h
  have hid : (bindAllocatedSource ms st input).nextMemoryId = st.nextMemoryId := by
    simp only [Store.nextMemoryId, bindAllocatedSource_memoryItems]
  simp only [MemoryStore.remember, hdup, hallowed, committed, Except.map,
    MemoryStore.recordNewMemoryWrite, MemoryStore.insertedMemory, hid, Bool.true_eq_false, if_false]

lemma insertedMemory_store (input : RememberInput) :
    (ms.insertedMemory st input).memoryScopeRetirements = st.memoryScopeRetirements ∧
      (ms.insertedMemory st input).memoryItems = st.memoryItems ++
        [{ ms.rememberedRow (bindAllocatedSource ms st input) input (ms.createdKey input) with
          id := st.nextMemoryId }] := by
  have hbind : (bindAllocatedSource ms st input).memoryScopeRetirements =
      st.memoryScopeRetirements := by
    unfold bindAllocatedSource
    split_ifs
    · rfl
    · split <;> rfl
  have hid : (bindAllocatedSource ms st input).nextMemoryId = st.nextMemoryId := by
    simp only [Store.nextMemoryId, bindAllocatedSource_memoryItems]
  unfold MemoryStore.insertedMemory
  constructor
  · simp only
    split_ifs
    · rw [recordForeignMemoryRevision_retirements]
      exact hbind
    · exact hbind
  · simp only
    split_ifs
    · simp only [recordForeignMemoryRevision_memoryItems, populateMemoryRefs_memoryItems,
        Store.insertMemory, bindAllocatedSource_memoryItems, hid]
      rfl
    · simp only [populateMemoryRefs_memoryItems, Store.insertMemory,
        bindAllocatedSource_memoryItems, hid]
      rfl

lemma remember_keepsFence {input : RememberInput} (hids : st.UniqueIds)
    (h : RememberRespectsFence ms st input) :
    KeepsFence st (committed st ((ms.remember st input).map Prod.snd)) := by
  by_cases hcreates : ms.creates input = true
  · obtain ⟨hnew, hstamp⟩ := h hcreates
    obtain ⟨hretirements, hitems⟩ := @insertedMemory_store ms st input
    have hinserted : KeepsFence st (ms.insertedMemory st input) :=
      .of_append hretirements hitems hnew
    have hids' : (ms.insertedMemory st input).UniqueIds := by
      have hkey : ({ ms.rememberedRow (bindAllocatedSource ms st input) input (ms.createdKey input)
          with id := st.nextMemoryId } : MemoryItem).importKey = some (ms.createdKey input) := rfl
      exact (RowsEffect.appended hitems hkey rfl (.of_eq rfl)).uniqueIds hids
    rw [remember_eq_of_creates hcreates]
    split_ifs with hreplicate
    · exact hinserted.trans (recordReplicationOp_keepsFence hids' fun _ => hstamp hreplicate)
    · exact hinserted
  · rw [remember_of_not_creates (Bool.eq_false_of_not_eq_true hcreates)]
    exact .of_subset rfl (List.Subset.refl _)

end LocalMutations

/-! ### Actions -/

section Actions

variable {st : Store}

/-- The condition under which an action keeps the fence. -/
def FenceRespected (st : Store) : StoreAction → Prop
  | .applyOp _ _ op => OpRespectsFence st op
  | .bootstrapItem _ scope item => SnapshotItemAllowed st scope item
  | .mergeItem _ scope item => SnapshotItemAllowed st scope item
  | .remember ms input => RememberRespectsFence ms st input
  | .updateMemoryVisibility ms memoryId visibility =>
    ∀ row, st.activeMemoryById memoryId = some row →
      StampRespectsFence ms.toLocalContext (ms.withVisibility st row (trim visibility)) memoryId
  | .reassignMemoryScope _ memoryId newScopeId => MoveRespectsFence st memoryId newScopeId
  | _ => True

lemma committed_keepsFence {outcome : Except String Store}
    (h : ∀ st', outcome = .ok st' → KeepsFence st st') : KeepsFence st (committed st outcome) := by
  cases outcome with
  | error message => exact .of_subset rfl (List.Subset.refl _)
  | ok st' => exact h st' rfl

/-- One action that meets its condition keeps the fence. -/
theorem StoreAction.run_keepsFence (hids : st.UniqueIds) (hvalid : st.ValidRetirements)
    {action : StoreAction} (h : FenceRespected st action) : KeepsFence st (action.run st) := by
  cases action with
  | applyOp ctx localDeviceId op => exact applyReplicationOp_keepsFence h
  | logRejections rejections => exact .of_subset rfl (List.Subset.refl _)
  | wipeScope scopeId => exact .of_subset rfl (List.filter_subset_self _)
  | bootstrapItem scanner scope item => exact bootstrapItem_keepsFence hvalid h
  | mergeItem scanner scope item => exact mergeItem_keepsFence hvalid h
  | advanceBoundary ctx peer info =>
    obtain ⟨boundaries, legacyBoundary, cursors, legacyCursors, hframe⟩ :=
      advanceSnapshotBoundary_frame ctx st peer info
    rw [StoreAction.run, hframe]
    exact .of_subset rfl (List.Subset.refl _)
  | remember ms input => exact remember_keepsFence hids h
  | forget ms memoryId => exact committed_keepsFence fun _ => forget_keepsFence hids
  | updateMemoryVisibility ms memoryId visibility =>
    exact committed_keepsFence fun _ => updateMemoryVisibility_keepsFence hids h
  | reassignMemoryScope ms memoryId newScopeId =>
    exact committed_keepsFence fun _ => reassignMemoryScope_keepsFence hids h
  | recordScopeReassignment ctx opts =>
    refine committed_keepsFence fun st' hok => ?_
    obtain ⟨result, hresult, rfl⟩ := exists_of_map_eq_ok hok
    exact recordScopeReassignment_keepsFence hids hresult
  | pruneLog keep => exact .of_subset rfl (List.Subset.refl _)

end Actions

/-! ### Runs -/

section Runs

variable {st st' : Store}

/-- A store whose retirements can be asked: unique row ids and trimmed entity ids. -/
structure Fenced (st : Store) : Prop where
  ids : st.UniqueIds
  valid : st.ValidRetirements

lemma Fenced.run (h : Fenced st) {action : StoreAction} (hrespected : FenceRespected st action) :
    Fenced (action.run st) := by
  refine ⟨(action.run_rowsEffect st).uniqueIds h.ids, ?_⟩
  have hretirements := (StoreAction.run_keepsFence h.ids h.valid hrespected).retirements
  unfold Store.ValidRetirements
  rw [hretirements]
  exact h.valid

lemma SnapshotItemAllowed.congr {scope : Option String} {item : SnapshotItem}
    (hretirements : st'.memoryScopeRetirements = st.memoryScopeRetirements)
    (h : SnapshotItemAllowed st scope item) : SnapshotItemAllowed st' scope item := by
  obtain ⟨payload, hparse, hallowed⟩ := h
  refine ⟨payload, hparse, ?_⟩
  unfold retirementAllowsSnapshot isMemoryScopeRetired hasMemoryScopeRetirement at hallowed ⊢
  rw [hretirements]
  exact hallowed

lemma allowed_of_mem_retirementSnapshotItems {items : List SnapshotItem} {scope : Option String}
    {item : SnapshotItem} (h : item ∈ retirementSnapshotItems st items scope) :
    SnapshotItemAllowed st scope item := by
  obtain ⟨-, hany⟩ := List.mem_filter.mp h
  cases hparse : parseSnapshotPayload item with
  | none => simp [hparse] at hany
  | some payload =>
    rw [hparse, Option.any_some] at hany
    exact ⟨payload, hparse, hany⟩

lemma stepsMeet_snapshotItems {write : SnapshotItem → StoreAction} {scope : Option String}
    (hwrite : ∀ st item, FenceRespected st (write item) ↔ SnapshotItemAllowed st scope item)
    {items : List SnapshotItem} (h : Fenced st)
    (hitems : ∀ item ∈ items, SnapshotItemAllowed st scope item) :
    StepsMeet StoreAction.run FenceRespected st (items.map write) := by
  induction items generalizing st with
  | nil => trivial
  | cons item items ih =>
    have hrespected : FenceRespected st (write item) :=
      (hwrite st item).mpr (hitems item List.mem_cons_self)
    refine ⟨hrespected, ih (h.run hrespected) fun i hi => ?_⟩
    exact (hitems i (List.mem_cons_of_mem _ hi)).congr
      (StoreAction.run_keepsFence h.ids h.valid hrespected).retirements

/-- The condition under which a call keeps the fence.  A bootstrap and a merge always do. -/
def CallRespectsFence (st : Store) : StoreCall → Prop
  | .applyReplicationOps ctx ops localDeviceId validation =>
    StepsMeet StoreAction.run FenceRespected st (batchActions ctx st ops localDeviceId validation)
  | .applyBootstrapSnapshot .. => True
  | .mergeBootstrapSnapshot .. => True
  | .single action => FenceRespected st action

lemma CallRespectsFence.stepsMeet (h : Fenced st) {call : StoreCall}
    (hcall : CallRespectsFence st call) :
    StepsMeet StoreAction.run FenceRespected st (call.actions st) := by
  cases call with
  | applyReplicationOps ctx ops localDeviceId validation => exact hcall
  | applyBootstrapSnapshot ctx peerDeviceId items resetInfo =>
    simp only [StoreCall.actions]
    split_ifs with hscope
    · trivial
    · have hwipe : StepsMeet StoreAction.run FenceRespected st
          ((cleanText resetInfo.scopeId).toList.map StoreAction.wipeScope) := by
        refine stepsMeet_of_forall fun action haction _ => ?_
        obtain ⟨scopeId, -, rfl⟩ := List.mem_map.mp haction
        trivial
      have hfenced := hwipe.foldl h fun _ _ hrespected hfence => hfence.run hrespected
      rw [stepsMeet_append_iff, stepsMeet_append_iff]
      refine ⟨⟨hwipe, ?_⟩, trivial, trivial⟩
      exact stepsMeet_snapshotItems (fun _ _ => Iff.rfl) hfenced
        fun _ => allowed_of_mem_retirementSnapshotItems
  | mergeBootstrapSnapshot ctx peerDeviceId items resetInfo preserveCursor =>
    simp only [StoreCall.actions]
    split_ifs with hscope hpreserve
    · trivial
    · rw [stepsMeet_append_iff]
      exact ⟨stepsMeet_snapshotItems (fun _ _ => Iff.rfl) h
        fun _ => allowed_of_mem_retirementSnapshotItems, trivial⟩
    · rw [stepsMeet_append_iff]
      exact ⟨stepsMeet_snapshotItems (fun _ _ => Iff.rfl) h
        fun _ => allowed_of_mem_retirementSnapshotItems, trivial, trivial⟩
  | single action => exact ⟨hcall, trivial⟩

lemma stepsMeet_runActions (h : Fenced st) {calls : List StoreCall}
    (hcalls : StepsMeet StoreCall.run CallRespectsFence st calls) :
    StepsMeet StoreAction.run FenceRespected st (runActions st calls) := by
  induction calls generalizing st with
  | nil => trivial
  | cons call calls ih =>
    have hactions := hcalls.1.stepsMeet h
    have hfenced : Fenced (call.run st) := by
      rw [StoreCall.run_eq_foldl]
      exact hactions.foldl h fun _ _ hrespected hfence => hfence.run hrespected
    rw [runActions, stepsMeet_append_iff, ← StoreCall.run_eq_foldl]
    exact ⟨hactions, ih hfenced hcalls.2⟩

end Runs

/-! ### The read paths -/

section Reads

variable {st : Store} {entityId scopeId : String}

/-- The filter sends no op of a memory under a scope the memory is retired from. -/
def FilterKeepsFence (st : Store) : Prop :=
  ∀ entityId scopeId, isMemoryScopeRetired st entityId (some scopeId) = true →
    ∀ rt peerDeviceId options ops,
      ∀ op ∈ (filterReplicationOpsForSyncWithStatus rt st ops peerDeviceId options).1,
        op.entityType = .memoryItem → op.entityId = entityId → cleanText op.scopeId ≠ some scopeId

/-- No page of a scope holds an item of a memory that is retired from it. -/
def PagesKeepFence (st : Store) : Prop :=
  ∀ entityId scopeId, isMemoryScopeRetired st entityId (some scopeId) = true →
    ∀ ctx options fuel st' result,
      loadMemorySnapshotPageForPeer ctx st options fuel = (st', some (.ok result)) →
      normalizeSyncStateScopeId (options.scopeId.getD none) = scopeId →
      ∀ item ∈ result.items, item.entityId ≠ entityId

lemma filterKeepsFence (st : Store) : FilterKeepsFence st := by
  intro entityId scopeId hretired rt peerDeviceId options ops op hop htype hentity hscope
  obtain ⟨-, hpasses⟩ := mem_filterReplicationOps_iff.mp hop
  have hblocked : retirementBlocksMemoryOp st op = true := by
    by_contra hopen
    obtain ⟨opScope, hopScope, hnot⟩ := scope_of_not_blocked htype (eq_false_of_ne_true hopen)
      (hasMemoryScopeRetirement_of_retired (hentity ▸ hretired))
    rw [hscope] at hopScope
    rw [← Option.some.inj hopScope, hentity, hretired] at hnot
    cases hnot
  unfold outboundRejection at hpasses
  rw [if_pos hblocked] at hpasses
  cases hpasses

lemma snapshotItemForPeer_allowed {ctx : SnapshotPageContext} {options : SnapshotPageOptions}
    {row : SnapshotScanRow} {item : SnapshotItem}
    (h : snapshotItemForPeer ctx st options row = some item) :
    item.entityId = trim (row.1.importKey.getD "") ∧
      retirementAllowsSnapshot st (row.1.importKey.getD "") (buildPayloadFromMemoryRow row.1)
        (cleanText row.1.scopeId) = true := by
  unfold snapshotItemForPeer at h
  cases hpayload : unretiredSnapshotPayload ctx st row.1 options.sourceDeviceId with
  | none => simp [hpayload] at h
  | some payload =>
    simp only [hpayload] at h
    split_ifs at h
    obtain rfl := Option.some.inj h
    unfold unretiredSnapshotPayload at hpayload
    simp only at hpayload
    split_ifs at hpayload with _ hblocked
    exact ⟨rfl, eq_true_of_ne_false hblocked⟩

lemma pagesKeepFence (h : st.ValidRetirements) : PagesKeepFence st := by
  intro entityId scopeId hretired ctx options fuel st' result hpage hscope item hitem hentity
  have hretirements : st'.memoryScopeRetirements = st.memoryScopeRetirements := by
    obtain ⟨boundaries, legacyBoundary, cursors, legacyCursors, hframe⟩ :=
      loadMemorySnapshotPageForPeer_frame ctx st options fuel
    rw [hpage] at hframe
    simp only at hframe
    rw [hframe]
  have hretired' : isMemoryScopeRetired st' entityId (some scopeId) = true := by
    rwa [isMemoryScopeRetired_congr hretirements]
  have hvalid : st'.ValidRetirements := by
    unfold Store.ValidRetirements
    rwa [hretirements]
  obtain ⟨row, -, hrowScope, hsent⟩ := loadMemorySnapshotPageForPeer_items hpage item hitem
  obtain ⟨hitemEntity, hallowed⟩ := snapshotItemForPeer_allowed hsent
  have hknown : hasMemoryScopeRetirement st' (trim (row.1.importKey.getD "")) = true := by
    rw [← hitemEntity, hentity]
    exact hasMemoryScopeRetirement_of_retired hretired'
  have hkey : row.1.importKey.getD "" = trim (row.1.importKey.getD "") := by
    by_contra hkey
    unfold retirementAllowsSnapshot at hallowed
    rw [hknown] at hallowed
    simp [hkey] at hallowed
  rw [← hkey] at hknown
  obtain ⟨rowScope, hclean, -, hnot⟩ := scope_of_retirementAllowsSnapshot hvalid hallowed hknown
  have hsame : rowScope = scopeId := by
    rw [hrowScope, hscope, ← hscope, cleanText_normalizeSyncStateScopeId] at hclean
    exact (Option.some.inj hclean).symm.trans hscope
  rw [← hkey, hentity] at hitemEntity
  rw [← hitemEntity, hsame, hretired'] at hnot
  cases hnot

end Reads

/-! ### The fence of a run -/

/-- A store with the memory `m1` in `team`, retired from another scope. -/
def sampleRetiredStore (retiredScopeId : String) : Store :=
  { sampleSharedStore (some "m1") with memoryScopeRetirements := [⟨"m1", retiredScopeId⟩] }

end Codemem

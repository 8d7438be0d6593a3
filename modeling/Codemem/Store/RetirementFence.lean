import Codemem.Store.Identity
import Codemem.Replication.SnapshotPage

/-!
# The retirement fence

A memory that is retired from a scope must not come back there.  Inbound ops, snapshots and
recorded moves consult the retirement table, `remember`, `reassignMemoryScope` and the stamping of
rows without a scope do not.  A run keeps the fence when these calls stay away from retired pairs;
the outbound filter and the snapshot pages keep it on their own.
-/

namespace Codemem

/-! ### The fence of one step -/

structure MemoryItem.IsLiveIn (row : MemoryItem) (entityId scopeId : String) : Prop where
  entity : reassignmentEntityId row = entityId
  scope : row.effectiveScope = scopeId
  live : row.isLive = true

/-- No live row of a retired pair appears: each one stood there before.  The retirements stay. -/
structure KeepsFence (st st' : Store) : Prop where
  retirements : st'.memoryScopeRetirements = st.memoryScopeRetirements
  stood : ∀ entityId scopeId, isMemoryScopeRetired st entityId (some scopeId) = true →
    ∀ row' ∈ st'.memoryItems, row'.IsLiveIn entityId scopeId →
      ∃ row ∈ st.memoryItems, row.id = row'.id ∧ row.IsLiveIn entityId scopeId

/-- A change of a row that revives no retired pair. -/
structure HarmlessWrite (st : Store) (row row' : MemoryItem) : Prop where
  id : row'.id = row.id
  stood : ∀ entityId scopeId, isMemoryScopeRetired st entityId (some scopeId) = true →
    row'.IsLiveIn entityId scopeId → row.IsLiveIn entityId scopeId

lemma isMemoryScopeRetired_congr {st st' : Store}
    (h : st'.memoryScopeRetirements = st.memoryScopeRetirements) (entityId : String)
    (scopeId : Option String) :
    isMemoryScopeRetired st' entityId scopeId = isMemoryScopeRetired st entityId scopeId := by
  unfold isMemoryScopeRetired
  rw [h]

namespace KeepsFence

variable {st st' st'' : Store}

lemma of_subset (hretirements : st'.memoryScopeRetirements = st.memoryScopeRetirements)
    (h : st'.memoryItems ⊆ st.memoryItems) : KeepsFence st st' :=
  ⟨hretirements, fun _ _ _ row' hrow' hlive => ⟨row', h hrow', rfl, hlive⟩⟩

lemma trans (h : KeepsFence st st') (h' : KeepsFence st' st'') : KeepsFence st st'' := by
  refine ⟨h'.retirements.trans h.retirements, fun entityId scopeId hretired row'' hrow'' hlive => ?_⟩
  have hretired' : isMemoryScopeRetired st' entityId (some scopeId) = true := by
    rw [isMemoryScopeRetired_congr h.retirements]
    exact hretired
  obtain ⟨row', hrow', hid', hlive'⟩ := h'.stood entityId scopeId hretired' row'' hrow'' hlive
  obtain ⟨row, hrow, hid, hlive''⟩ := h.stood entityId scopeId hretired row' hrow' hlive'
  exact ⟨row, hrow, hid.trans hid', hlive''⟩

lemma of_map {write : MemoryItem → MemoryItem}
    (hretirements : st'.memoryScopeRetirements = st.memoryScopeRetirements)
    (hitems : st'.memoryItems = st.memoryItems.map write)
    (hwrite : ∀ row ∈ st.memoryItems, write row = row ∨ HarmlessWrite st row (write row)) :
    KeepsFence st st' := by
  refine ⟨hretirements, fun entityId scopeId hretired row' hrow' hlive => ?_⟩
  rw [hitems] at hrow'
  obtain ⟨row, hrow, rfl⟩ := List.mem_map.mp hrow'
  rcases hwrite row hrow with heq | hharmless
  · rw [heq] at hlive
    exact ⟨row, hrow, by rw [heq], hlive⟩
  · exact ⟨row, hrow, hharmless.id.symm, hharmless.stood entityId scopeId hretired hlive⟩

lemma of_append {row : MemoryItem}
    (hretirements : st'.memoryScopeRetirements = st.memoryScopeRetirements)
    (hitems : st'.memoryItems = st.memoryItems ++ [row])
    (hrow : isMemoryScopeRetired st (reassignmentEntityId row) (some row.effectiveScope) = false) :
    KeepsFence st st' := by
  refine ⟨hretirements, fun entityId scopeId hretired row' hrow' hlive => ?_⟩
  rw [hitems] at hrow'
  rcases List.mem_append.mp hrow' with hrow' | hrow'
  · exact ⟨row', hrow', rfl, hlive⟩
  · obtain rfl := List.mem_singleton.mp hrow'
    rw [hlive.entity, hlive.scope, hretired] at hrow
    cases hrow

end KeepsFence

lemma harmlessWrite_of_not_live {st : Store} {row row' : MemoryItem} (hid : row'.id = row.id)
    (hdead : row'.isLive = false) : HarmlessWrite st row row' :=
  ⟨hid, fun _ _ _ hlive => absurd (hdead.symm.trans hlive.live) Bool.false_ne_true⟩

lemma harmlessWrite_of_not_retired {st : Store} {row row' : MemoryItem} (hid : row'.id = row.id)
    (hpair : isMemoryScopeRetired st (reassignmentEntityId row') (some row'.effectiveScope) =
      false) : HarmlessWrite st row row' := by
  refine ⟨hid, fun entityId scopeId hretired hlive => ?_⟩
  rw [hlive.entity, hlive.scope, hretired] at hpair
  cases hpair

lemma harmlessWrite_of_same {st : Store} {row row' : MemoryItem} (hid : row'.id = row.id)
    (hkey : row'.importKey = row.importKey) (hscope : row'.scopeId = row.scopeId)
    (hactive : row'.active = row.active) (hdeleted : row'.deletedAt = row.deletedAt) :
    HarmlessWrite st row row' := by
  refine ⟨hid, fun entityId scopeId _ hlive => ⟨?_, ?_, ?_⟩⟩
  · have hentity := hlive.entity
    rwa [reassignmentEntityId, hkey, hid] at hentity
  · have heffective := hlive.scope
    rwa [MemoryItem.effectiveScope, hscope] at heffective
  · have hisLive := hlive.live
    rwa [MemoryItem.isLive, hactive, hdeleted] at hisLive

/-! ### Inbound ops -/

section InboundOps

variable {ctx : ApplyContext} {localDeviceId : String} {st : Store} {op : ReplicationOp}

/-- The scopes in which an op leaves rows of its memory. -/
def landingScopes (st : Store) (op : ReplicationOp) : List String :=
  match opScopeId op with
  | some scopeId => [scopeId]
  | none =>
    match st.rowsOf op.entityId with
    | [] => [defaultSyncScopeId]
    | rows => rows.map MemoryItem.effectiveScope

/-- The fence on one inbound op: it is an op of a memory, or it writes none, or it writes one in
scopes that the memory is not retired from. -/
def OpRespectsFence (st : Store) (op : ReplicationOp) : Prop :=
  op.entityType ≠ .memoryItem → op.opType = .upsert ∨ op.opType = .reassignScope →
    ∀ scopeId ∈ landingScopes st op, isMemoryScopeRetired st op.entityId (some scopeId) = false

lemma applyReplicationOp_of_blocked (h : retirementBlocksMemoryOp st op = true) :
    (applyReplicationOp ctx localDeviceId st op).1 = st := by
  unfold applyReplicationOp
  cases ctx.fault st op with
  | some message => rfl
  | none => simp [replicationOpBody, skipOwnRetiredOrAppliedOp, skipOwnOrRetiredMemoryOp, h]

lemma scope_of_not_blocked (htype : op.entityType = .memoryItem)
    (h : retirementBlocksMemoryOp st op = false)
    (hretired : hasMemoryScopeRetirement st op.entityId = true) :
    ∃ scopeId, cleanText op.scopeId = some scopeId ∧
      isMemoryScopeRetired st op.entityId (some scopeId) = false := by
  unfold retirementBlocksMemoryOp at h
  simp only [htype, hretired, ne_eq, not_true, false_or, Bool.true_eq_false, if_false] at h
  cases hscope : cleanText op.scopeId with
  | none => simp [hscope] at h
  | some scopeId =>
    refine ⟨scopeId, rfl, ?_⟩
    by_contra hnot
    simp [hscope, hnot] at h

lemma hasMemoryScopeRetirement_of_retired {entityId scopeId : String}
    (h : isMemoryScopeRetired st entityId (some scopeId) = true) :
    hasMemoryScopeRetirement st entityId = true := by
  simp only [isMemoryScopeRetired, List.any_eq_true, Bool.and_eq_true] at h
  obtain ⟨r, hr, hentity, -⟩ := h
  exact List.any_eq_true.mpr ⟨r, hr, hentity⟩

lemma landingScopes_not_retired (hrespects : OpRespectsFence st op)
    (hblocked : retirementBlocksMemoryOp st op = false)
    (hop : op.opType = .upsert ∨ op.opType = .reassignScope) :
    ∀ scopeId ∈ landingScopes st op,
      isMemoryScopeRetired st op.entityId (some scopeId) = false := by
  by_cases htype : op.entityType = .memoryItem
  · intro scopeId hscope
    by_contra hretired
    obtain ⟨opScope, hopScope, hnot⟩ := scope_of_not_blocked htype hblocked
      (hasMemoryScopeRetirement_of_retired (eq_true_of_ne_false hretired))
    have hsame : scopeId = opScope := by
      simpa [landingScopes, opScopeId, hopScope] using hscope
    exact hretired (hsame ▸ hnot)
  · exact hrespects htype hop

lemma overwriteRow_lands {payload : MemoryPayload} {active : ℚ} {deletedAt : Option String}
    {row : MemoryItem} (hrow : row ∈ st.rowsOf op.entityId) :
    (overwriteRow op payload active deletedAt row).effectiveScope ∈ landingScopes st op := by
  cases hscope : opScopeId op with
  | some scopeId =>
    have hclean : cleanText (some scopeId) = some scopeId := cleanText_of_cleanText hscope
    simp [landingScopes, MemoryItem.effectiveScope, overwriteRow, hscope, hclean]
  | none =>
    cases hrows : st.rowsOf op.entityId with
    | nil => simp [hrows] at hrow
    | cons first rest =>
      rw [hrows] at hrow
      have hkept : (overwriteRow op payload active deletedAt row).effectiveScope =
          row.effectiveScope := by
        simp [MemoryItem.effectiveScope, overwriteRow, hscope]
      rw [hkept]
      simp only [landingScopes, hscope, hrows]
      exact List.mem_map_of_mem hrow

lemma insertedRow_lands {payload : MemoryPayload} {sessionId : ℕ}
    (hlookup : st.memoryByImportKey op.entityId = none) :
    (insertedRow op payload sessionId).effectiveScope ∈ landingScopes st op := by
  cases hscope : opScopeId op with
  | some scopeId =>
    have hclean : cleanText (some scopeId) = some scopeId := cleanText_of_cleanText hscope
    simp [landingScopes, MemoryItem.effectiveScope, insertedRow, hscope, hclean]
  | none =>
    have hrows : st.rowsOf op.entityId = [] := by
      rwa [Store.memoryByImportKey_eq_head?, List.head?_eq_none_iff] at hlookup
    simp only [landingScopes, hscope, hrows, MemoryItem.effectiveScope, insertedRow]
    exact List.mem_singleton.mpr rfl

/-- An op that is no upsert and no move revives nothing. -/
lemma applyReplicationOp_keepsFence_of_other
    (hop : ¬ (op.opType = .upsert ∨ op.opType = .reassignScope)) :
    KeepsFence st (applyReplicationOp ctx localDeviceId st op).1 := by
  have hretirements := (applyReplicationOp_frame ctx localDeviceId st op).retirements
  generalize hresult : (applyReplicationOp ctx localDeviceId st op).1 = st' at hretirements ⊢
  unfold applyReplicationOp at hresult
  cases hfault : ctx.fault st op with
  | some message =>
    rw [hfault] at hresult
    subst hresult
    exact .of_subset rfl (List.Subset.refl _)
  | none =>
    simp only [hfault, replicationOpBody] at hresult
    split_ifs at hresult with hskip
    · subst hresult
      exact .of_subset rfl (List.Subset.refl _)
    · cases htype : op.opType with
      | upsert => exact absurd (.inl htype) hop
      | reassignScope => exact absurd (.inr htype) hop
      | accessCleanup =>
        simp only [htype, applyAccessCleanupOp, applyAccessCleanupForLocalDevice] at hresult
        refine .of_subset hretirements ?_
        rw [← hresult]
        cases (parseAccessCleanupPayload op).cleanupScopeId with
        | none => simp
        | some cleanupScopeId =>
          cases st.memoryByImportKey op.entityId with
          | none => simp
          | some existing =>
            simp only
            split_ifs
            · simp
            · simp [Store.deleteMemories, List.filter_subset_self]
      | delete =>
        simp only [htype, applyDelete] at hresult
        cases hlookup : st.memoryByImportKey op.entityId with
        | none =>
          simp only [hlookup] at hresult
          refine .of_subset hretirements ?_
          rw [← hresult]
          simp
        | some existing =>
          simp only [hlookup] at hresult
          split_ifs at hresult
          · refine .of_subset hretirements ?_
            rw [← hresult]
            simp
          · have hitems : st'.memoryItems = st.memoryItems.map fun row =>
                if row.id == existing.id then tombstoneRow op ctx.now row else row := by
              rw [← hresult]
              simp [Store.updateMemories]
            refine .of_map hretirements hitems fun row _ => ?_
            by_cases hid : row.id = existing.id
            · refine .inr (harmlessWrite_of_not_live ?_ ?_)
              · simp [hid, tombstoneRow]
              · simp [hid, tombstoneRow, MemoryItem.isLive]
            · exact .inl (by simp [hid])
      | other name =>
        simp only [htype] at hresult
        refine .of_subset hretirements ?_
        rw [← hresult]
        simp

lemma applyReplicationOp_keepsFence (hrespects : OpRespectsFence st op) :
    KeepsFence st (applyReplicationOp ctx localDeviceId st op).1 := by
  by_cases hop : op.opType = .upsert ∨ op.opType = .reassignScope
  · cases hblocked : retirementBlocksMemoryOp st op with
    | true =>
      rw [applyReplicationOp_of_blocked hblocked]
      exact .of_subset rfl (List.Subset.refl _)
    | false =>
      have hlands := landingScopes_not_retired hrespects hblocked hop
      have hretirements := (applyReplicationOp_frame ctx localDeviceId st op).retirements
      have heffect := applyReplicationOp_rowEffect ctx localDeviceId st op
      generalize (applyReplicationOp ctx localDeviceId st op).1 = st' at hretirements heffect ⊢
      generalize hitems : st'.memoryItems = items at heffect
      cases heffect with
      | unchanged => exact .of_subset hretirements (hitems ▸ List.Subset.refl _)
      | removed existing _ _ =>
        exact .of_subset hretirements (hitems ▸ List.filter_subset_self _)
      | retracted current reassignment _ _ _ =>
        refine .of_map hretirements hitems fun row _ => ?_
        by_cases hid : row.id = current.id
        · refine .inr (harmlessWrite_of_not_live ?_ ?_)
          · simp [hid, retractRow]
          · simp [hid, retractRow, MemoryItem.isLive]
        · exact .inl (by simp [hid])
      | tombstoned existing _ _ _ =>
        refine .of_map hretirements hitems fun row _ => ?_
        by_cases hid : row.id = existing.id
        · refine .inr (harmlessWrite_of_not_live ?_ ?_)
          · simp [hid, tombstoneRow]
          · simp [hid, tombstoneRow, MemoryItem.isLive]
        · exact .inl (by simp [hid])
      | overwritten memRow payload reassignment _ _ _ =>
        refine .of_map hretirements hitems fun row hrow => ?_
        by_cases hkey : row.importKey = some op.entityId
        · have hmem : row ∈ st.rowsOf op.entityId := Store.mem_rowsOf.mpr ⟨hrow, hkey⟩
          rw [if_pos (beq_iff_eq.mpr hkey)]
          refine .inr (harmlessWrite_of_not_retired rfl ?_)
          have hentity : reassignmentEntityId (overwriteRow op payload
              (writtenActive payload memRow) (nextDeletedAt payload memRow) row) = op.entityId := by
            simp [reassignmentEntityId, overwriteRow, hkey]
          rw [hentity]
          exact hlands _ (overwriteRow_lands hmem)
        · exact .inl (by simp [hkey])
      | inserted payload sessionId hlookup =>
        refine .of_append hretirements hitems ?_
        have hscope : (insertedRow op payload sessionId).effectiveScope ∈ landingScopes st op :=
          insertedRow_lands hlookup
        exact hlands _ hscope
  · exact applyReplicationOp_keepsFence_of_other hop

end InboundOps

/-! ### Snapshots -/

section Snapshots

variable {st : Store} {scanner : SecretScanner} {scope : Option String} {item : SnapshotItem}

/-- The entity ids of recorded retirements are trimmed, as `validateRetirement` demands. -/
def Store.ValidRetirements (st : Store) : Prop :=
  ∀ r ∈ st.memoryScopeRetirements, trim r.entityId = r.entityId

/-- The retirement check of a snapshot lets an item pass. -/
def SnapshotItemAllowed (st : Store) (scope : Option String) (item : SnapshotItem) : Prop :=
  ∃ payload, parseSnapshotPayload item = some payload ∧
    retirementAllowsSnapshot st item.entityId payload scope = true

lemma scope_of_retirementAllowsSnapshot {entityId : String} {payload : JsonObject}
    (hvalid : st.ValidRetirements)
    (h : retirementAllowsSnapshot st entityId payload scope = true)
    (hretired : hasMemoryScopeRetirement st entityId = true) :
    ∃ scopeId, scope = some scopeId ∧ cleanText (some scopeId) = some scopeId ∧
      isMemoryScopeRetired st entityId (some scopeId) = false := by
  obtain ⟨r, hr, hentity⟩ := List.any_eq_true.mp hretired
  have htrim : trim entityId = entityId := by
    rw [← beq_iff_eq.mp hentity]
    exact hvalid r hr
  unfold retirementAllowsSnapshot at h
  rw [htrim, hretired] at h
  cases hscope : cleanJson (payload.get "scope_id") with
  | none => simp [hscope] at h
  | some scopeId =>
    simp only [hscope, ne_eq, not_true, if_false, Bool.true_eq_false] at h
    have hmatch : ¬ (some scopeId ≠ scope ∨ isMemoryScopeRetired st entityId scopeId = true) := by
      intro hbad
      rw [if_pos hbad] at h
      cases h
    rw [not_or, not_not] at hmatch
    exact ⟨scopeId, hmatch.1.symm, cleanText_of_cleanText hscope, eq_false_of_ne_true hmatch.2⟩

lemma insertSnapshotItem_keepsFence {payload : JsonObject} (hvalid : st.ValidRetirements)
    (h : retirementAllowsSnapshot st item.entityId payload scope = true) :
    KeepsFence st (insertSnapshotItem scanner scope st item payload) := by
  have hretirements : (insertSnapshotItem scanner scope st item payload).memoryScopeRetirements =
      st.memoryScopeRetirements := by
    simp only [insertSnapshotItem, recordForeignMemoryRevision_retirements, Store.insertMemory]
    unfold ensureSessionForBootstrap
    dsimp only
    split <;> rfl
  obtain ⟨row, hitems, hkey, -, -, hscope⟩ :=
    insertSnapshotItem_memoryItems scanner scope st item payload
  refine .of_append hretirements hitems ?_
  have hentity : reassignmentEntityId row = item.entityId := by
    rw [reassignmentEntityId, hkey, Option.getD_some]
  rw [hentity]
  by_contra hretired
  obtain ⟨scopeId, rfl, hclean, hnot⟩ := scope_of_retirementAllowsSnapshot hvalid h
    (hasMemoryScopeRetirement_of_retired (eq_true_of_ne_false hretired))
  have heffective : row.effectiveScope = scopeId := by
    simp [MemoryItem.effectiveScope, hscope, snapshotPayloadScopeId, hclean]
  exact hretired (heffective ▸ hnot)

lemma bootstrapItem_keepsFence (hvalid : st.ValidRetirements)
    (h : SnapshotItemAllowed st scope item) :
    KeepsFence st (bootstrapItem scanner scope st item) := by
  obtain ⟨payload, hparse, hallowed⟩ := h
  simp only [bootstrapItem, hparse]
  exact insertSnapshotItem_keepsFence hvalid hallowed

lemma mergeItem_keepsFence (hvalid : st.ValidRetirements)
    (h : SnapshotItemAllowed st scope item) :
    KeepsFence st (mergeItem scanner scope st item) := by
  obtain ⟨payload, hparse, hallowed⟩ := h
  simp only [mergeItem, hparse]
  split_ifs
  · exact .of_subset rfl (List.Subset.refl _)
  · have hdeleted : ∀ ids, KeepsFence st (st.deleteMemories ids) := fun _ =>
      .of_subset rfl (List.filter_subset_self _)
    exact (hdeleted _).trans (insertSnapshotItem_keepsFence hvalid hallowed)

end Snapshots

end Codemem

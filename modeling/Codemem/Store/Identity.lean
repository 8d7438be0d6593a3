import Codemem.Store.Runs

/-!
# Identity of memories

`id` is the primary key of `memory_items`, so it is unique in every store.  `import_key` is what
replication looks rows up by, but no index keeps it unique.  This module says what the actions of
the store do to rows: a rewriting action keeps the identity of every row and never lowers a clock
(`RewritesRows`), the others delete rows or append one.
-/

namespace Codemem

/-! ### Unique identities -/

/-- No two rows have the same `id`. -/
def Store.UniqueIds (st : Store) : Prop := (st.memoryItems.map MemoryItem.id).Nodup

/-- No two rows have the same import key. -/
def Store.UniqueKeys (st : Store) : Prop := ∀ key, (st.rowsOf key).length ≤ 1

lemma Store.UniqueIds.eq_of_id {st : Store} (h : st.UniqueIds) {row row' : MemoryItem}
    (hrow : row ∈ st.memoryItems) (hrow' : row' ∈ st.memoryItems) (hid : row.id = row'.id) :
    row = row' :=
  List.inj_on_of_nodup_map h hrow hrow' hid

lemma Store.mem_rowsOf {st : Store} {key : String} {row : MemoryItem} :
    row ∈ st.rowsOf key ↔ row ∈ st.memoryItems ∧ row.importKey = some key := by
  simp [Store.rowsOf]

lemma Store.UniqueKeys.eq_of_key {st : Store} (h : st.UniqueKeys) {row row' : MemoryItem}
    {key : String} (hrow : row ∈ st.rowsOf key) (hrow' : row' ∈ st.rowsOf key) : row = row' := by
  have hlen := h key
  match hrows : st.rowsOf key with
  | [] => simp [hrows] at hrow
  | [single] =>
    rw [hrows, List.mem_singleton] at hrow hrow'
    rw [hrow, hrow']
  | _ :: _ :: _ => simp [hrows] at hlen

lemma Store.mem_rowsOf_of_lookup {st : Store} {key : String} {row : MemoryItem}
    (h : st.memoryByImportKey key = some row) : row ∈ st.rowsOf key :=
  Store.mem_rowsOf.mpr (Store.memoryByImportKey_eq_some h)

lemma Store.memoryById_eq_some {st : Store} {id : ℕ} {row : MemoryItem}
    (h : st.memoryById id = some row) : row ∈ st.memoryItems ∧ row.id = id :=
  ⟨List.mem_of_find?_eq_some h, by simpa using List.find?_some h⟩

lemma Store.UniqueIds.memoryById_of_mem {st : Store} (h : st.UniqueIds)
    (hrow : row ∈ st.memoryItems) : st.memoryById row.id = some row := by
  rcases hlookup : st.memoryById row.id with _ | found
  · have hne := List.find?_eq_none.mp hlookup row hrow
    exact absurd (beq_self_eq_true row.id) hne
  · obtain ⟨hfound, hid⟩ := Store.memoryById_eq_some hlookup
    rw [h.eq_of_id hfound hrow hid]

lemma Store.activeMemoryById_eq_some {st : Store} {id : ℕ} {row : MemoryItem}
    (h : st.activeMemoryById id = some row) : row ∈ st.memoryItems ∧ row.id = id := by
  have hfound := List.find?_some h
  rw [Bool.and_eq_true, beq_iff_eq] at hfound
  exact ⟨List.mem_of_find?_eq_some h, hfound.1⟩

section Rows

variable {st st' : Store}

lemma Store.uniqueKeys_of_map {write : MemoryItem → MemoryItem}
    (hkey : ∀ row, (write row).importKey = row.importKey)
    (hitems : st'.memoryItems = st.memoryItems.map write) :
    st'.UniqueKeys ↔ st.UniqueKeys := by
  have hlen : ∀ key, (st'.rowsOf key).length = (st.rowsOf key).length := by
    intro key
    rw [Store.rowsOf, hitems, filter_importKey_map hkey, List.length_map, Store.rowsOf]
  simp only [Store.UniqueKeys, hlen]

lemma Store.uniqueKeys_of_filter {keep : MemoryItem → Bool} (h : st.UniqueKeys)
    (hitems : st'.memoryItems = st.memoryItems.filter keep) : st'.UniqueKeys := by
  intro key
  have hsub : (st'.rowsOf key).Sublist (st.rowsOf key) := by
    rw [Store.rowsOf, hitems]
    exact List.Sublist.filter _ List.filter_sublist
  exact hsub.length_le.trans (h key)

lemma Store.uniqueKeys_append_iff {row : MemoryItem} {key : String} (h : st.UniqueKeys)
    (hkey : row.importKey = some key) (hitems : st'.memoryItems = st.memoryItems ++ [row]) :
    st'.UniqueKeys ↔ st.rowsOf key = [] := by
  have hrows : ∀ k, st'.rowsOf k = st.rowsOf k ++ if key = k then [row] else [] := by
    intro k
    rw [Store.rowsOf, hitems, List.filter_append, Store.rowsOf]
    by_cases hk : key = k
    · simp [hkey, hk]
    · simp [hkey, hk]
  constructor
  · intro hunique
    have hlen := hunique key
    rw [hrows, if_pos rfl, List.length_append] at hlen
    exact List.length_eq_zero_iff.mp (by simpa using hlen)
  · intro hnew k
    rw [hrows]
    by_cases hk : key = k
    · rw [← hk, hnew]
      simp
    · simpa [hk] using h k

lemma Store.uniqueIds_of_filter {keep : MemoryItem → Bool} (h : st.UniqueIds)
    (hitems : st'.memoryItems = st.memoryItems.filter keep) : st'.UniqueIds := by
  rw [Store.UniqueIds, hitems]
  exact h.sublist (List.filter_sublist.map _)

lemma Store.uniqueIds_of_map {write : MemoryItem → MemoryItem}
    (hid : ∀ row, (write row).id = row.id)
    (hitems : st'.memoryItems = st.memoryItems.map write) (h : st.UniqueIds) :
    st'.UniqueIds := by
  have hids : (st.memoryItems.map write).map MemoryItem.id = st.memoryItems.map MemoryItem.id := by
    rw [List.map_map]
    exact List.map_congr_left fun row _ => hid row
  rwa [Store.UniqueIds, hitems, hids]

end Rows

/-! ### Rewriting actions -/

/-- The rows are rewritten one by one: every row keeps its id and import key, and no clock falls
where identities are unique. -/
def RewritesRows (st st' : Store) : Prop :=
  ∃ write : MemoryItem → MemoryItem, st'.memoryItems = st.memoryItems.map write ∧
    (∀ row, (write row).id = row.id) ∧ (∀ row, (write row).importKey = row.importKey) ∧
    (st.UniqueIds → st.UniqueKeys → ∀ row ∈ st.memoryItems, row.clock ≤ (write row).clock)

namespace RewritesRows

variable {st st' st'' : Store}

lemma of_eq (h : st'.memoryItems = st.memoryItems) : RewritesRows st st' :=
  ⟨id, by simp [h], fun _ => rfl, fun _ => rfl, fun _ _ _ _ => le_rfl⟩

lemma uniqueIds (h : RewritesRows st st') (hids : st.UniqueIds) : st'.UniqueIds := by
  obtain ⟨write, hitems, hid, -, -⟩ := h
  exact Store.uniqueIds_of_map hid hitems hids

lemma uniqueKeys_iff (h : RewritesRows st st') : st'.UniqueKeys ↔ st.UniqueKeys := by
  obtain ⟨write, hitems, -, hkey, -⟩ := h
  exact Store.uniqueKeys_of_map hkey hitems

lemma trans (h : RewritesRows st st') (h' : RewritesRows st' st'') : RewritesRows st st'' := by
  have hids := h.uniqueIds
  have hkeys := h.uniqueKeys_iff
  obtain ⟨write, hitems, hid, hkey, hclock⟩ := h
  obtain ⟨write', hitems', hid', hkey', hclock'⟩ := h'
  refine ⟨write' ∘ write, ?_, fun row => ?_, fun row => ?_, fun huid hukey row hrow => ?_⟩
  · rw [hitems', hitems, List.map_map]
  · exact (hid' _).trans (hid row)
  · exact (hkey' _).trans (hkey row)
  · refine (hclock huid hukey row hrow).trans
      (hclock' (hids huid) (hkeys.mpr hukey) (write row) ?_)
    rw [hitems]
    exact List.mem_map_of_mem hrow

lemma update {selects : MemoryItem → Bool} {write : MemoryItem → MemoryItem}
    (hitems : st'.memoryItems = st.memoryItems.map fun row =>
      if selects row then write row else row)
    (hid : ∀ row, (write row).id = row.id) (hkey : ∀ row, (write row).importKey = row.importKey)
    (hclock : st.UniqueIds → st.UniqueKeys → ∀ row ∈ st.memoryItems, selects row = true →
      row.clock ≤ (write row).clock) : RewritesRows st st' := by
  refine ⟨_, hitems, fun row => ?_, fun row => ?_, fun huid hukey row hrow => ?_⟩
  · split_ifs
    · exact hid row
    · rfl
  · split_ifs
    · exact hkey row
    · rfl
  · split_ifs with hsel
    · exact hclock huid hukey row hrow hsel
    · exact le_rfl

end RewritesRows

lemma StampsScope.rewritesRows {write : MemoryItem → MemoryItem} (h : StampsScope write)
    {st st' : Store} (hitems : st'.memoryItems = st.memoryItems.map write) :
    RewritesRows st st' := by
  refine ⟨write, hitems, fun row => ?_, fun row => ?_, fun _ _ row _ => ?_⟩
  · obtain ⟨scopeId, hrow⟩ := h row
    rw [hrow]
  · obtain ⟨scopeId, hrow⟩ := h row
    rw [hrow]
  · obtain ⟨scopeId, hrow⟩ := h row
    rw [hrow]
    exact le_rfl

lemma recordReplicationOp_rewritesRows {ctx : LocalContext} {st st' : Store}
    {opts : RecordOptions} (h : (recordReplicationOp ctx st opts).1 = st') :
    RewritesRows st st' := by
  obtain ⟨write, hwrite, hstore⟩ := recordReplicationOp_store ctx st opts
  exact hwrite.rewritesRows (by rw [← h, hstore])

/-! ### The local mutations -/

section Local

variable {ms : MemoryStore} {st st' : Store} {memoryId : ℕ}

lemma rewritesRows_of_rev {row : MemoryItem} {write : MemoryItem → MemoryItem} (rev : ℤ)
    (hrow : row ∈ st.memoryItems) (hrowId : row.id = memoryId)
    (hid : ∀ r, (write r).id = r.id) (hkey : ∀ r, (write r).importKey = r.importKey)
    (hrev : ∀ r, (write r).rev = some rev) (hlt : row.rev.getD 0 < rev) :
    RewritesRows st (st.updateMemories (fun r => r.id == memoryId) write) := by
  refine .update rfl hid hkey fun huid _ r hr hsel => ?_
  have hrId : r.id = memoryId := by simpa using hsel
  obtain rfl := huid.eq_of_id hr hrow (hrId.trans hrowId.symm)
  refine (Clock.lt_of_rev_lt ?_).le
  simpa [MemoryItem.clock, clockTuple, hrev] using hlt

lemma forget_rewritesRows (h : ms.forget st memoryId = .ok st') : RewritesRows st st' := by
  unfold MemoryStore.forget at h
  cases hlookup : st.memoryById memoryId with
  | none =>
    rw [hlookup] at h
    cases h
    exact .of_eq rfl
  | some row =>
    rw [hlookup] at h
    simp only at h
    split_ifs at h
    cases h
    obtain ⟨hrow, hid⟩ := Store.memoryById_eq_some hlookup
    refine RewritesRows.trans (rewritesRows_of_rev (row.rev.getD 0 + 1) hrow hid ?_ ?_ ?_ ?_)
      (recordReplicationOp_rewritesRows rfl)
    · exact fun _ => rfl
    · exact fun _ => rfl
    · exact fun _ => rfl
    · exact lt_add_one _

lemma updateMemoryVisibility_rewritesRows {visibility : String}
    (h : ms.updateMemoryVisibility st memoryId visibility = .ok st') : RewritesRows st st' := by
  unfold MemoryStore.updateMemoryVisibility at h
  simp only at h
  split_ifs at h
  cases hlookup : st.activeMemoryById memoryId with
  | none => simp [hlookup] at h
  | some row =>
    rw [hlookup] at h
    simp only at h
    split_ifs at h
    cases h
    obtain ⟨hrow, hid⟩ := Store.activeMemoryById_eq_some hlookup
    refine RewritesRows.trans (rewritesRows_of_rev (row.rev.getD 0 + 1) hrow hid ?_ ?_ ?_ ?_)
      (recordReplicationOp_rewritesRows rfl)
    · exact fun _ => rfl
    · exact fun _ => rfl
    · exact fun _ => rfl
    · exact lt_add_one _

lemma writeReassignment_rewritesRows {row stamped : MemoryItem} {oldScopeId newScopeId : String}
    (hrow : stamped ∈ st.memoryItems) (hid : stamped.id = memoryId) (hrev : stamped.rev = row.rev)
    (h : ms.writeReassignment st memoryId row oldScopeId newScopeId = .ok st') :
    RewritesRows st st' := by
  unfold MemoryStore.writeReassignment at h
  simp only at h
  split at h
  · cases h
  · rename_i st2 _ hdelete
    split at h
    · cases h
    · rename_i st3 _ hupsert
      split_ifs at h
      cases h
      have hwrite : RewritesRows st (st.updateMemories (fun r => r.id == memoryId)
          (ms.reassignedRow row oldScopeId newScopeId)) := by
        refine rewritesRows_of_rev (row.rev.getD 0 + 2) hrow hid ?_ ?_ ?_ ?_
        · exact fun _ => rfl
        · exact fun _ => rfl
        · exact fun _ => rfl
        · rw [hrev]
          omega
      exact (hwrite.trans (recordReplicationOp_rewritesRows (congrArg Prod.fst hdelete))).trans
        (recordReplicationOp_rewritesRows (congrArg Prod.fst hupsert))

lemma reassignMemoryScope_rewritesRows {newScopeId : String}
    (h : ms.reassignMemoryScope st memoryId newScopeId = .ok st') : RewritesRows st st' := by
  unfold MemoryStore.reassignMemoryScope at h
  cases hclean : cleanText (some newScopeId) with
  | none => simp [hclean] at h
  | some cleaned =>
    cases hlookup : st.activeMemoryById memoryId with
    | none => simp [hclean, hlookup] at h
    | some row =>
      simp only [hclean, hlookup] at h
      obtain ⟨hrow, hid⟩ := Store.activeMemoryById_eq_some hlookup
      obtain ⟨write, hwrite, -, hstore⟩ := ensureMemoryScopeId_store ms.toLocalContext st memoryId
      rcases hensure : ensureMemoryScopeId ms.toLocalContext st memoryId with ⟨scope, st1⟩
      rw [hensure] at h hstore
      simp only at hstore
      have hstamp : RewritesRows st st1 := hwrite.rewritesRows (by rw [hstore])
      cases scope with
      | none =>
        simp only at h
        split_ifs at h
      | some oldScopeId =>
        simp only at h
        split_ifs at h
        · cases h
          exact hstamp
        · obtain ⟨scopeId, hstamped⟩ := hwrite row
          have hmem : write row ∈ st1.memoryItems := by
            rw [hstore]
            exact List.mem_map_of_mem hrow
          refine hstamp.trans (writeReassignment_rewritesRows hmem ?_ ?_ h)
          · rw [hstamped]
            exact hid
          · rw [hstamped]

end Local

lemma recordScopeReassignment_rewritesRows {ctx : LocalContext} {st st' : Store}
    {opts : ReassignmentOptions} {result : ReassignmentResult}
    (h : recordScopeReassignment ctx st opts = .ok (st', result)) : RewritesRows st st' := by
  unfold recordScopeReassignment at h
  split at h
  · rename_i operationId oldScopeId newScopeId deviceId _ _ _ _
    split_ifs at h
    cases hlookup : st.memoryById opts.memoryId with
    | none => simp [hlookup] at h
    | some existing =>
      obtain ⟨hrow, hid⟩ := Store.memoryById_eq_some hlookup
      rw [hlookup] at h
      simp only at h
      split at h
      · split_ifs at h
        unfold writeScopeReassignment at h
        simp only at h
        split_ifs at h
        obtain ⟨st2, h2, h⟩ := exists_of_bind_eq_ok h
        obtain ⟨st3, h3, h⟩ := exists_of_bind_eq_ok h
        cases h
        have hops : st'.memoryItems = (st.updateMemories (fun row => row.id == existing.id)
            (reassignRow existing operationId oldScopeId newScopeId deviceId
              (existing.rev.getD 0 + 1) (opts.createdAt.getD ctx.now))).memoryItems := by
          rw [(insertNewOp_eq_ok h3).2, (insertNewOp_eq_ok h2).2]
        refine RewritesRows.trans (rewritesRows_of_rev (existing.rev.getD 0 + 1) hrow rfl ?_ ?_ ?_
          ?_) (.of_eq hops)
        · exact fun _ => rfl
        · exact fun _ => rfl
        · exact fun _ => rfl
        · exact lt_add_one _
      · split_ifs at h
        cases h
        exact .of_eq rfl
      · cases h
  · cases h

/-! ### What an action does to the rows -/

/-- The three things an action can do to the rows.  A replacement deletes rows of one key, all
with older clocks, and appends one row of the key, which may then be rewritten. -/
inductive RowsEffect (st st' : Store) : Prop
  | rewritten (h : RewritesRows st st')
  | removed (keep : MemoryItem → Bool) (h : st'.memoryItems = st.memoryItems.filter keep)
  | replaced (keep : MemoryItem → Bool) (row : MemoryItem) (key : String) (mid : Store)
      (hitems : mid.memoryItems = st.memoryItems.filter keep ++ [row])
      (hkey : row.importKey = some key)
      (hid : ∀ r ∈ st.memoryItems.filter keep, r.id ≠ row.id)
      (holder : st.UniqueIds → ∀ r ∈ st.memoryItems, r.importKey = some key → keep r = false →
        r.clock ≤ row.clock)
      (h : RewritesRows mid st')

lemma RowsEffect.appended {st st' mid : Store} {row : MemoryItem} {key : String}
    (hitems : mid.memoryItems = st.memoryItems ++ [row]) (hkey : row.importKey = some key)
    (hid : row.id = st.nextMemoryId) (h : RewritesRows mid st') : RowsEffect st st' := by
  refine .replaced (fun _ => true) row key mid ?_ hkey ?_ ?_ h
  · simp [hitems]
  · intro r hr
    rw [hid]
    exact (Store.lt_nextMemoryId (List.mem_of_mem_filter hr)).ne
  · intro _ r _ _ hkeep
    cases hkeep

lemma applyReplicationOp_rowsEffect (ctx : ApplyContext) (localDeviceId : String) (st : Store)
    (op : ReplicationOp) : RowsEffect st (applyReplicationOp ctx localDeviceId st op).1 := by
  have heffect := applyReplicationOp_rowEffect ctx localDeviceId st op
  generalize (applyReplicationOp ctx localDeviceId st op).1 = st' at heffect
  generalize hitems : st'.memoryItems = items at heffect
  cases heffect with
  | unchanged => exact .rewritten (.of_eq hitems)
  | removed existing hop hlookup => exact .removed _ hitems
  | retracted current reassignment hlookup hscope hnewer =>
    refine .rewritten (.update hitems (fun _ => rfl) (fun _ => rfl) fun huid _ row hrow hsel => ?_)
    obtain rfl := huid.eq_of_id hrow (Store.memoryByImportKey_eq_some hlookup).1
      (by simpa using hsel)
    rw [retractRow_clock]
    exact ((isNewerClock_iff _ _).mp hnewer).le
  | tombstoned existing hop hlookup hnewer =>
    refine .rewritten (.update hitems (fun _ => rfl) (fun _ => rfl) fun huid _ row hrow hsel => ?_)
    obtain rfl := huid.eq_of_id hrow (Store.memoryByImportKey_eq_some hlookup).1
      (by simpa using hsel)
    rw [tombstoneRow_clock]
    exact ((isNewerClock_iff _ _).mp hnewer).le
  | overwritten memRow payload reassignment hmove hlookup hclock =>
    refine .rewritten (.update hitems (fun _ => rfl) (fun _ => rfl) fun _ hukey row hrow hsel => ?_)
    obtain rfl := hukey.eq_of_key (Store.mem_rowsOf.mpr ⟨hrow, by simpa using hsel⟩)
      (Store.mem_rowsOf_of_lookup hlookup)
    rw [overwriteRow_clock]
    exact clock_le_of_accepted hclock
  | inserted payload sessionId hlookup => exact .appended hitems rfl rfl (.of_eq rfl)

lemma insertSnapshotItem_memoryItems (scanner : SecretScanner) (scope : Option String)
    (st : Store) (item : SnapshotItem) (payload : JsonObject) :
    ∃ row : MemoryItem, (insertSnapshotItem scanner scope st item payload).memoryItems =
        st.memoryItems ++ [row] ∧ row.importKey = some item.entityId ∧
      row.id = st.nextMemoryId ∧ row.clock = item.clock ∧
      row.scopeId = snapshotPayloadScopeId payload scope := by
  have hsession : (ensureSessionForBootstrap st (snapshotProject payload)).2.memoryItems =
      st.memoryItems := by
    unfold ensureSessionForBootstrap
    dsimp only
    split <;> rfl
  refine ⟨{ snapshotRow scanner item payload scope
    (ensureSessionForBootstrap st (snapshotProject payload)).1 with id := st.nextMemoryId },
    ?_, rfl, rfl, ?_, rfl⟩
  · simp only [insertSnapshotItem, recordForeignMemoryRevision_memoryItems, Store.insertMemory,
      Store.nextMemoryId, hsession]
  · simp [MemoryItem.clock, SnapshotItem.clock, snapshotRow, clockDeviceIdFromMetadataJson,
      snapshotMetadata, Json.asText]

lemma bootstrapItem_rowsEffect (scanner : SecretScanner) (scope : Option String) (st : Store)
    (item : SnapshotItem) : RowsEffect st (bootstrapItem scanner scope st item) := by
  unfold bootstrapItem
  cases parseSnapshotPayload item with
  | none => exact .rewritten (.of_eq rfl)
  | some payload =>
    obtain ⟨row, hitems, hkey, hid, -⟩ :=
      insertSnapshotItem_memoryItems scanner scope st item payload
    exact .appended hitems hkey hid (.of_eq rfl)

lemma mergeItem_rowsEffect (scanner : SecretScanner) (scope : Option String) (st : Store)
    (item : SnapshotItem) : RowsEffect st (mergeItem scanner scope st item) := by
  unfold mergeItem
  cases parseSnapshotPayload item with
  | none => exact .rewritten (.of_eq rfl)
  | some payload =>
    simp only
    split_ifs with hreplace
    · exact .rewritten (.of_eq rfl)
    · obtain ⟨row, hitems, hkey, hid, hclock, -⟩ := insertSnapshotItem_memoryItems scanner scope
        (st.deleteMemories fun row =>
          (existingSnapshotRows st scope item.entityId).any fun r => r.id == row.id) item payload
      refine .replaced _ row item.entityId _ hitems hkey ?_ ?_ (.of_eq rfl)
      · intro r hr
        rw [hid]
        exact (Store.lt_nextMemoryId hr).ne
      · intro huid r hr _ hkeep
        -- a deleted row is one of the rows the item is newer than
        simp only [Bool.not_eq_false', List.any_eq_true, beq_iff_eq] at hkeep
        obtain ⟨existing, hexisting, hid'⟩ := hkeep
        have hstored := (Store.mem_rowsOf.mp (List.mem_of_mem_filter hexisting)).1
        obtain rfl := huid.eq_of_id hstored hr hid'
        have hall := List.all_eq_true.mp (Bool.eq_true_of_not_eq_false hreplace) existing hexisting
        rw [hclock]
        exact ((isNewerClock_iff _ _).mp hall).le

lemma bindAllocatedSource_memoryItems (ms : MemoryStore) (st : Store) (input : RememberInput) :
    (bindAllocatedSource ms st input).memoryItems = st.memoryItems := by
  unfold bindAllocatedSource
  split_ifs
  · rfl
  · split <;> rfl

lemma recordNewMemoryWrite_rewritesRows (ms : MemoryStore) (st : Store) (input : RememberInput)
    (memoryId : ℕ) (importKey : String) :
    RewritesRows st (ms.recordNewMemoryWrite st input memoryId importKey) := by
  have hprov : RewritesRows st (if hasSuppliedMemoryIdentity input.metadata then
      recordForeignMemoryRevision st importKey .imported else st) := by
    split_ifs
    · exact .of_eq (recordForeignMemoryRevision_memoryItems st importKey .imported)
    · exact .of_eq rfl
  unfold MemoryStore.recordNewMemoryWrite
  by_cases hreplicate : input.replicate = true
  · simp only [hreplicate, if_true]
    exact hprov.trans (recordReplicationOp_rewritesRows rfl)
  · simp only [hreplicate]
    exact hprov

/-- `remember` creates a memory: there is no duplicate, and the write is not blocked. -/
def MemoryStore.creates (ms : MemoryStore) (input : RememberInput) : Bool :=
  input.existingDuplicate.isNone && ms.sharedMutationAllowed
    (some (ms.resolveProvenance (ms.newMemoryMetadata input)).visibility)

/-- The import key of the memory `remember` creates. -/
def MemoryStore.createdKey (ms : MemoryStore) (input : RememberInput) : String :=
  memoryCreationImportKey input (ms.newMemoryMetadata input)

lemma remember_of_not_creates {ms : MemoryStore} {input : RememberInput}
    (h : ms.creates input = false) (st : Store) :
    committed st ((ms.remember st input).map Prod.snd) = st := by
  unfold MemoryStore.remember
  cases hdup : input.existingDuplicate with
  | some id => rfl
  | none =>
    have hblocked : ms.sharedMutationAllowed
        (some (ms.resolveProvenance (ms.newMemoryMetadata input)).visibility) = false := by
      simpa [MemoryStore.creates, hdup] using h
    simp [hblocked, committed, Except.map]

lemma remember_of_creates {ms : MemoryStore} {input : RememberInput}
    (h : ms.creates input = true) (st : Store) :
    ∃ (mid : Store) (row : MemoryItem), mid.memoryItems = st.memoryItems ++ [row] ∧
      row.importKey = some (ms.createdKey input) ∧ row.id = st.nextMemoryId ∧
      RewritesRows mid (committed st ((ms.remember st input).map Prod.snd)) := by
  simp only [MemoryStore.creates, Bool.and_eq_true, Option.isNone_iff_eq_none] at h
  obtain ⟨hdup, hallowed⟩ := h
  have hbind := bindAllocatedSource_memoryItems ms st input
  have hid : (bindAllocatedSource ms st input).nextMemoryId = st.nextMemoryId := by
    simp only [Store.nextMemoryId, hbind]
  simp only [MemoryStore.remember, hdup, hallowed, committed, Except.map]
  refine ⟨_, { ms.rememberedRow (bindAllocatedSource ms st input) input (ms.createdKey input) with
    id := st.nextMemoryId }, ?_, rfl, rfl, recordNewMemoryWrite_rewritesRows _ _ _ _ _⟩
  simp only [populateMemoryRefs_memoryItems, Store.insertMemory, hbind, hid]
  rfl

lemma remember_rowsEffect (ms : MemoryStore) (st : Store) (input : RememberInput) :
    RowsEffect st (committed st ((ms.remember st input).map Prod.snd)) := by
  by_cases h : ms.creates input = true
  · obtain ⟨mid, row, hitems, hkey, hid, hrewrites⟩ := remember_of_creates h st
    exact .appended hitems hkey hid hrewrites
  · rw [remember_of_not_creates (Bool.eq_false_of_not_eq_true h)]
    exact .rewritten (.of_eq rfl)

lemma committed_rowsEffect {st : Store} {outcome : Except String Store}
    (h : ∀ st', outcome = .ok st' → RewritesRows st st') :
    RowsEffect st (committed st outcome) := by
  cases outcome with
  | error message => exact .rewritten (.of_eq rfl)
  | ok st' => exact .rewritten (h st' rfl)

/-- Every action has one of the three effects on the rows. -/
theorem StoreAction.run_rowsEffect (st : Store) (action : StoreAction) :
    RowsEffect st (action.run st) := by
  cases action with
  | applyOp ctx localDeviceId op => exact applyReplicationOp_rowsEffect ctx localDeviceId st op
  | logRejections rejections => exact .rewritten (.of_eq rfl)
  | wipeScope scopeId => exact .removed _ rfl
  | bootstrapItem scanner scope item => exact bootstrapItem_rowsEffect scanner scope st item
  | mergeItem scanner scope item => exact mergeItem_rowsEffect scanner scope st item
  | advanceBoundary ctx peer info =>
    exact .rewritten (.of_eq (advanceSnapshotBoundary_frame ctx st peer info).memoryItems)
  | remember ms input => exact remember_rowsEffect ms st input
  | forget ms memoryId => exact committed_rowsEffect fun _ => forget_rewritesRows
  | updateMemoryVisibility ms memoryId visibility =>
    exact committed_rowsEffect fun _ => updateMemoryVisibility_rewritesRows
  | reassignMemoryScope ms memoryId newScopeId =>
    exact committed_rowsEffect fun _ => reassignMemoryScope_rewritesRows
  | recordScopeReassignment ctx opts =>
    refine committed_rowsEffect fun st' h => ?_
    obtain ⟨result, hresult, rfl⟩ := exists_of_map_eq_ok h
    exact recordScopeReassignment_rewritesRows hresult
  | pruneLog keep => exact .rewritten (.of_eq rfl)

/-- Every action keeps the ids unique. -/
theorem RowsEffect.uniqueIds {st st' : Store} (h : RowsEffect st st') (hids : st.UniqueIds) :
    st'.UniqueIds := by
  cases h with
  | rewritten h => exact h.uniqueIds hids
  | removed keep h => exact Store.uniqueIds_of_filter hids h
  | replaced keep row key mid hitems hkey hid _ h =>
    refine h.uniqueIds ?_
    rw [Store.UniqueIds, hitems, List.map_append, List.nodup_append]
    refine ⟨hids.sublist (List.filter_sublist.map _), by simp, ?_⟩
    intro i hi j hj
    obtain ⟨r, hr, rfl⟩ := List.mem_map.mp hi
    rw [List.map_singleton, List.mem_singleton] at hj
    exact hj ▸ hid r hr

end Codemem

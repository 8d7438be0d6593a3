import Codemem.Replication.Convergence
import Codemem.Store.Identity

/-!
# Uniqueness of import keys

No index keeps `import_key` unique, so it rests on the writers.  Inbound ops look a row up before
they insert one.  `remember` takes an import key from its caller, a bootstrap inserts without a
lookup, and a merge looks only at rows of its scope that are not private.  The condition under
which each action keeps the keys unique is exact, and so is the condition on a run.
-/

namespace Codemem

/-- The action inserts no row under an import key that another row keeps. -/
def KeepsKeysUnique (st : Store) : StoreAction → Prop
  | .remember ms input => ms.creates input = true → st.rowsOf (ms.createdKey input) = []
  | .bootstrapItem _ _ item =>
    (parseSnapshotPayload item).isSome = true → st.rowsOf item.entityId = []
  | .mergeItem _ scope item => (parseSnapshotPayload item).isSome = true →
      ∀ row ∈ st.rowsOf item.entityId, isMergeable scope row = true
  | _ => True

section Actions

variable {st : Store}

lemma remember_uniqueKeys_iff (h : st.UniqueKeys) (ms : MemoryStore) (input : RememberInput) :
    (committed st ((ms.remember st input).map Prod.snd)).UniqueKeys ↔
      (ms.creates input = true → st.rowsOf (ms.createdKey input) = []) := by
  by_cases hcreates : ms.creates input = true
  · obtain ⟨mid, row, hitems, hkey, -, hrewrites⟩ := remember_of_creates hcreates st
    rw [hrewrites.uniqueKeys_iff, Store.uniqueKeys_append_iff h hkey hitems]
    simp [hcreates]
  · rw [remember_of_not_creates (Bool.eq_false_of_not_eq_true hcreates)]
    simp [h, hcreates]

lemma bootstrapItem_uniqueKeys_iff (h : st.UniqueKeys) (scanner : SecretScanner)
    (scope : Option String) (item : SnapshotItem) :
    (bootstrapItem scanner scope st item).UniqueKeys ↔
      ((parseSnapshotPayload item).isSome = true → st.rowsOf item.entityId = []) := by
  unfold bootstrapItem
  cases parseSnapshotPayload item with
  | none => simp [h]
  | some payload =>
    obtain ⟨row, hitems, hkey, -⟩ := insertSnapshotItem_memoryItems scanner scope st item payload
    rw [Store.uniqueKeys_append_iff h hkey hitems]
    simp

lemma mergeItem_uniqueKeys_iff (h : st.UniqueKeys) (scanner : SecretScanner)
    (scope : Option String) (item : SnapshotItem) :
    (mergeItem scanner scope st item).UniqueKeys ↔
      ((parseSnapshotPayload item).isSome = true →
        ∀ row ∈ st.rowsOf item.entityId, isMergeable scope row = true) := by
  unfold mergeItem
  cases parseSnapshotPayload item with
  | none => simp [h]
  | some payload =>
    simp only [Option.isSome_some, forall_const]
    split_ifs with hreplace
    · -- an older copy is in reach, and it is the only row of the key
      refine iff_of_true h fun row hrow => ?_
      obtain ⟨existing, hexisting, -⟩ := List.all_eq_false.mp hreplace
      obtain ⟨hmem, hmerge⟩ := List.mem_filter.mp hexisting
      exact h.eq_of_key hrow hmem ▸ hmerge
    · obtain ⟨new, hitems, hkey, -⟩ := insertSnapshotItem_memoryItems scanner scope
        (st.deleteMemories fun row =>
          (existingSnapshotRows st scope item.entityId).any fun r => r.id == row.id) item payload
      have hdeleted : (st.deleteMemories fun row =>
          (existingSnapshotRows st scope item.entityId).any fun r => r.id == row.id).UniqueKeys :=
        Store.uniqueKeys_of_filter h rfl
      rw [Store.uniqueKeys_append_iff hdeleted hkey hitems]
      constructor
      · intro hnone row hrow
        by_contra hreach
        -- a row out of reach is not deleted, so the new row meets it
        have hexisting : existingSnapshotRows st scope item.entityId = [] := by
          refine List.filter_eq_nil_iff.mpr fun r hr hmerge => ?_
          exact hreach (h.eq_of_key hr hrow ▸ hmerge)
        rw [hexisting, Store.rowsOf, Store.deleteMemories] at hnone
        simp only [List.any_nil, Bool.not_false, List.filter_true] at hnone
        rw [Store.rowsOf, hnone] at hrow
        cases hrow
      · intro hreach
        refine List.filter_eq_nil_iff.mpr fun r hr hrKey => ?_
        obtain ⟨hstored, hkept⟩ := List.mem_filter.mp hr
        have hrow : r ∈ st.rowsOf item.entityId := List.mem_filter.mpr ⟨hstored, hrKey⟩
        have hexisting : r ∈ existingSnapshotRows st scope item.entityId :=
          List.mem_filter.mpr ⟨hrow, hreach r hrow⟩
        simp only [Bool.not_eq_true', List.any_eq_false, beq_iff_eq] at hkept
        exact hkept r hexisting rfl

lemma applyReplicationOp_uniqueKeys (h : st.UniqueKeys) (ctx : ApplyContext)
    (localDeviceId : String) (op : ReplicationOp) :
    (applyReplicationOp ctx localDeviceId st op).1.UniqueKeys := by
  have heffect := applyReplicationOp_rowEffect ctx localDeviceId st op
  generalize (applyReplicationOp ctx localDeviceId st op).1 = st' at heffect
  generalize hitems : st'.memoryItems = items at heffect
  cases heffect with
  | unchanged => exact (RewritesRows.of_eq hitems).uniqueKeys_iff.mpr h
  | removed existing hop hlookup => exact Store.uniqueKeys_of_filter h hitems
  | retracted current reassignment hlookup hscope hnewer =>
    exact (Store.uniqueKeys_of_map (fun row => by split_ifs <;> rfl) hitems).mpr h
  | tombstoned existing hop hlookup hnewer =>
    exact (Store.uniqueKeys_of_map (fun row => by split_ifs <;> rfl) hitems).mpr h
  | overwritten memRow payload reassignment hmove hlookup hclock =>
    exact (Store.uniqueKeys_of_map (fun row => by split_ifs <;> rfl) hitems).mpr h
  | inserted payload sessionId hlookup =>
    refine (Store.uniqueKeys_append_iff h rfl hitems).mpr ?_
    rw [Store.memoryByImportKey_eq_head?, List.head?_eq_none_iff] at hlookup
    exact hlookup

lemma committed_uniqueKeys (h : st.UniqueKeys) {outcome : Except String Store}
    (houtcome : ∀ st', outcome = .ok st' → RewritesRows st st') :
    (committed st outcome).UniqueKeys := by
  cases outcome with
  | error message => exact h
  | ok st' => exact (houtcome st' rfl).uniqueKeys_iff.mpr h

/-- From unique keys, an action keeps them unique exactly under its condition. -/
theorem StoreAction.run_uniqueKeys_iff (h : st.UniqueKeys) (action : StoreAction) :
    (action.run st).UniqueKeys ↔ KeepsKeysUnique st action := by
  cases action with
  | applyOp ctx localDeviceId op =>
    exact iff_of_true (applyReplicationOp_uniqueKeys h ctx localDeviceId op) trivial
  | logRejections rejections => exact iff_of_true h trivial
  | wipeScope scopeId => exact iff_of_true (Store.uniqueKeys_of_filter h rfl) trivial
  | bootstrapItem scanner scope item => exact bootstrapItem_uniqueKeys_iff h scanner scope item
  | mergeItem scanner scope item => exact mergeItem_uniqueKeys_iff h scanner scope item
  | advanceBoundary ctx peer info =>
    refine iff_of_true ((RewritesRows.of_eq ?_).uniqueKeys_iff.mpr h) trivial
    exact (advanceSnapshotBoundary_frame ctx st peer info).memoryItems
  | remember ms input => exact remember_uniqueKeys_iff h ms input
  | forget ms memoryId =>
    exact iff_of_true (committed_uniqueKeys h fun _ => forget_rewritesRows) trivial
  | updateMemoryVisibility ms memoryId visibility =>
    exact iff_of_true (committed_uniqueKeys h fun _ => updateMemoryVisibility_rewritesRows) trivial
  | reassignMemoryScope ms memoryId newScopeId =>
    exact iff_of_true (committed_uniqueKeys h fun _ => reassignMemoryScope_rewritesRows) trivial
  | recordScopeReassignment ctx opts =>
    refine iff_of_true (committed_uniqueKeys h fun st' hok => ?_) trivial
    obtain ⟨result, hresult, rfl⟩ := exists_of_map_eq_ok hok
    exact recordScopeReassignment_rewritesRows hresult
  | pruneLog keep => exact iff_of_true h trivial

end Actions

/-- From a store without memories, no two rows ever share an import key exactly when every action
of the run keeps the keys unique. -/
theorem importKeys_unique_iff (st : Store) (calls : List StoreCall) :
    (∀ t ∈ visited StoreAction.run { st with memoryItems := [] }
        (runActions { st with memoryItems := [] } calls), t.UniqueKeys) ↔
      StepsMeet StoreAction.run KeepsKeysUnique { st with memoryItems := [] }
        (runActions { st with memoryItems := [] } calls) := by
  refine visited_invariant_iff _ ?_ fun s action h => action.run_uniqueKeys_iff h
  intro key
  simp [Store.rowsOf]

/-- A snapshot of scope `other` with memory `m1`. -/
def sampleSnapshotItem (clockRev : ℤ) : SnapshotItem where
  entityId := "m1"
  opType := .upsert
  payloadJson := toJson [("title", .str "title"), ("scope_id", .str "other")]
  clockRev := clockRev
  clockUpdatedAt := "2026-01-01"
  clockDeviceId := "peer"

/-- The boundary of the snapshot of scope `other`. -/
def sampleResetInfo : ResetInfo := ⟨2, "snapshot", none, some "other"⟩

/-- A memory replicated in scope `team` and bootstrapped in scope `other` has two rows. -/
theorem importKeys_bootstrap_duplicate :
    ¬ ([StoreCall.applyReplicationOps (plainContext "2026-01-02") [sampleUpsert "op-u" "title" 1]
          "local" none,
        .applyBootstrapSnapshot ⟨⟨id, id⟩, "snapshot"⟩ "peer" [sampleSnapshotItem 2]
          sampleResetInfo].foldl StoreCall.run Store.empty).UniqueKeys := by
  intro h
  exact absurd (h "m1") (by decide)

end Codemem

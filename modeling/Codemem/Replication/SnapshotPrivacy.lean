import Codemem.Replication.OutboundPrivacy
import Codemem.Replication.SnapshotPaging

/-!
# Privacy of snapshot pages

A page serves a peer what the outbound filter would: no memory of the default scope, a personal or
private memory only with a grant of its personal scope, and no memory of a filtered project.
-/

namespace Codemem

section Pages

variable {ctx : SnapshotPageContext} {st st' : Store} {options : SnapshotPageOptions} {fuel : ℕ}
  {result : SnapshotPage}

lemma rowsAfterToken_defaultScope (token : Option (String × ℚ)) (batchLimit : ℕ) :
    rowsAfterToken st defaultSyncScopeId token batchLimit = [] := by
  apply List.eq_nil_iff_forall_not_mem.mpr
  intro row hrow
  obtain ⟨stored, -, hkeep⟩ := List.mem_filterMap.mp (mem_of_mem_page hrow)
  rw [if_neg (by simp)] at hkeep
  cases hkeep

lemma items_of_defaultScope
    (hscope : normalizeSyncStateScopeId (options.scopeId.getD none) = defaultSyncScopeId)
    (h : loadMemorySnapshotPageForPeer ctx st options fuel = (st', some (.ok result))) :
    result.items = [] := by
  unfold loadMemorySnapshotPageForPeer at h
  rw [hscope] at h
  dsimp only at h
  split_ifs at h
  · cases h
    rfl
  · cases h
  · cases h
  · cases h
    rfl
  · obtain ⟨-, hresult⟩ := Prod.mk.inj h
    obtain ⟨scan, hscan, hok⟩ := Option.map_eq_some_iff.mp hresult
    obtain rfl := Except.ok.inj hok
    cases fuel with
    | zero => cases hscan
    | succ fuel =>
      unfold scanBatches at hscan
      rw [rowsAfterToken_defaultScope] at hscan
      simp only [List.isEmpty_nil, if_true, ite_self] at hscan
      exact Option.some.inj hscan ▸ rfl

structure MayLeave (st : Store) (scopeId : String) (peerDeviceId : Option String)
    (row : SnapshotScanRow) : Prop where
  stored : row.1 ∈ st.memoryItems
  scope : row.1.scopeId = some scopeId
  notDefault : scopeId ≠ defaultSyncScopeId
  project : syncProjectAllowed st row.2 peerDeviceId = true
  personal : PersonallyMarked (buildPayloadFromMemoryRow row.1) → ∀ op : ReplicationOp,
    op.scopeId = row.1.scopeId →
      HoldsPersonalGrant st op (buildPayloadFromMemoryRow row.1) peerDeviceId

lemma mayLeave_of_sent {scopeId : String} {row : SnapshotScanRow} {item : SnapshotItem}
    (hstored : row.1 ∈ st.memoryItems) (hscope : row.1.scopeId = some scopeId)
    (hdefault : scopeId ≠ defaultSyncScopeId)
    (h : snapshotItemForPeer ctx st options row = some item) :
    MayLeave st scopeId options.peerDeviceId row := by
  unfold snapshotItemForPeer at h
  cases hpayload : unretiredSnapshotPayload ctx st row.1 options.sourceDeviceId with
  | none =>
    rw [hpayload] at h
    cases h
  | some payload =>
    rw [hpayload] at h
    dsimp only at h
    split_ifs at h with hprivate hproject
    have hbuilt : payload = buildPayloadFromMemoryRow row.1 := by
      unfold unretiredSnapshotPayload at hpayload
      dsimp only at hpayload
      split_ifs at hpayload
      exact (Option.some.inj hpayload).symm
    rw [hbuilt] at hprivate
    refine ⟨hstored, hscope, hdefault, eq_true_of_ne_false hproject, fun hmarked op hop => ?_⟩
    apply holdsPersonalGrant_of_not_private _ hmarked
    · exact ctx.runtime
    · rw [hop]
      exact eq_false_of_ne_true hprivate

end Pages

end Codemem

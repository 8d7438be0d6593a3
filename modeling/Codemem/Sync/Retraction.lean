import Codemem.Replication.OutboundFilter
import Codemem.Store.Identity

/-!
# Retraction of a moved memory

`reassignMemoryScope` logs a delete in the old scope, so that the members of the old scope give up
their copy.  The outbound filter judges a delete without a payload by the row the memory has now,
and that row stands in the new scope.  The condition under which the delete still reaches a peer
is exact.
-/

namespace Codemem

/-! ### The moved store -/

structure MovesRow (memoryId : ℕ) (newScopeId : String) (write : MemoryItem → MemoryItem) :
    Prop where
  others : ∀ row, row.id ≠ memoryId → write row = row
  identity : ∀ row, (write row).id = row.id ∧ (write row).importKey = row.importKey
  scope : ∀ row, row.id = memoryId → (write row).scopeId = some newScopeId

/-- The delete a move of a row logs in its old scope. -/
structure IsRetraction (op : ReplicationOp) (row : MemoryItem) (oldScopeId opPrefix : String) :
    Prop where
  opId : op.opId = opPrefix ++ ":0-delete"
  entityType : op.entityType = .memoryItem
  entityId : op.entityId = row.importKey.getD (toString row.id)
  opType : op.opType = .delete
  payloadJson : op.payloadJson = none
  scopeId : op.scopeId = some oldScopeId

section Move

variable {ms : MemoryStore} {st st' : Store} {memoryId : ℕ} {row : MemoryItem}
  {oldScopeId newScopeId : String}

lemma memoryById_of_active (hids : st.UniqueIds) (h : st.activeMemoryById memoryId = some row) :
    st.memoryById memoryId = some row := by
  obtain ⟨hmem, hid⟩ := Store.activeMemoryById_eq_some h
  cases hlookup : st.memoryById memoryId with
  | none =>
    have hnone := List.find?_eq_none.mp hlookup row hmem
    simp [hid] at hnone
  | some found =>
    obtain ⟨hfound, hfoundId⟩ := Store.memoryById_eq_some hlookup
    rw [hids.eq_of_id hfound hmem (hfoundId.trans hid.symm)]

/-- The writes of a move, once its checks have passed. -/
lemma writeReassignment_moves {stamped : MemoryItem}
    (hlookup : st.memoryById memoryId = some stamped) (hkey : stamped.importKey = row.importKey)
    (hid : row.id = memoryId)
    (h : ms.writeReassignment st memoryId row oldScopeId newScopeId = .ok st') :
    ∃ write deletion upsertion, MovesRow memoryId newScopeId write ∧
      IsRetraction deletion row oldScopeId ("~scope-reassign:" ++ ms.randomUUID) ∧
      st' = { st with
        memoryItems := st.memoryItems.map write
        replicationOps := st.replicationOps ++ [deletion, upsertion] } := by
  have hmoves : MovesRow memoryId newScopeId fun r =>
      if r.id == memoryId then ms.reassignedRow row oldScopeId newScopeId r else r := by
    refine ⟨fun r hne => by simp [hne], fun r => ?_, fun r heq => by
      simp [heq, MemoryStore.reassignedRow]⟩
    by_cases hr : r.id = memoryId
    · simp [hr, MemoryStore.reassignedRow]
    · simp [hr]
  unfold MemoryStore.writeReassignment at h
  simp only at h
  split at h
  · cases h
  · rename_i st2 deleteId hdelete
    split at h
    · cases h
    · rename_i st3 upsertId hupsert
      split_ifs at h
      cases h
      obtain rfl := recordReplicationOp_of_scope rfl hdelete
      obtain rfl := recordReplicationOp_of_scope rfl hupsert
      have hfound : (st.updateMemories (fun r => r.id == memoryId)
          (ms.reassignedRow row oldScopeId newScopeId)).memoryById memoryId =
            some (ms.reassignedRow row oldScopeId newScopeId stamped) := by
        have hstampedId := (Store.memoryById_eq_some hlookup).2
        rw [Store.updateMemories, Store.memoryById_map st fun r => (hmoves.identity r).1, hlookup]
        simp [hstampedId]
      refine ⟨_, recordedOp _ _ _ _ _, recordedOp _ _ _ _ _, hmoves,
        ⟨rfl, rfl, ?_, rfl, ?_, rfl⟩, congrArg (fun ops => { st.updateMemories
          (fun r => r.id == memoryId) (ms.reassignedRow row oldScopeId newScopeId) with
          replicationOps := ops }) (List.append_assoc _ _ _)⟩
      · simp only [recordedOp, MemoryStore.reassignmentRecord, hfound]
        simp [MemoryStore.reassignedRow, hkey, hid]
      · simp [recordedOp, recordedPayloadJson, MemoryStore.reassignmentRecord, hfound]

/-- A move of the scope leaves the moved store. -/
theorem reassignMemoryScope_moves (hids : st.UniqueIds)
    (hrow : st.activeMemoryById memoryId = some row)
    (hold : (ensureMemoryScopeId ms.toLocalContext st memoryId).1 = some oldScopeId)
    (hmoved : cleanText (some newScopeId) ≠ some oldScopeId)
    (h : ms.reassignMemoryScope st memoryId newScopeId = .ok st') :
    ∃ cleaned write deletion upsertion, cleanText (some newScopeId) = some cleaned ∧
      MovesRow memoryId cleaned write ∧
      IsRetraction deletion row oldScopeId ("~scope-reassign:" ++ ms.randomUUID) ∧
      st' = { st with
        memoryItems := st.memoryItems.map write
        replicationOps := st.replicationOps ++ [deletion, upsertion] } := by
  unfold MemoryStore.reassignMemoryScope at h
  cases hclean : cleanText (some newScopeId) with
  | none => simp [hclean] at h
  | some cleaned =>
    rw [hclean] at hmoved
    have hne : oldScopeId ≠ cleaned := fun heq => hmoved (heq ▸ rfl)
    obtain ⟨stamp, hstamps, hothers, hstore⟩ :=
      ensureMemoryScopeId_store ms.toLocalContext st memoryId
    rcases hensure : ensureMemoryScopeId ms.toLocalContext st memoryId with ⟨scope, st1⟩
    rw [hensure] at hstore hold
    obtain rfl : scope = some oldScopeId := hold
    obtain rfl : st1 = _ := hstore
    simp only [hclean, hrow, hensure] at h
    split_ifs at h
    have hstampKeeps : ∀ r, (stamp r).id = r.id ∧ (stamp r).importKey = r.importKey := by
      intro r
      obtain ⟨scopeId, hr⟩ := hstamps r
      rw [hr]
      exact ⟨rfl, rfl⟩
    have hlookup : ({ st with memoryItems := st.memoryItems.map stamp } : Store).memoryById
        memoryId = some (stamp row) := by
      rw [Store.memoryById_map st fun r => (hstampKeeps r).1, memoryById_of_active hids hrow]
      rfl
    obtain ⟨write, deletion, upsertion, hmoves, hretraction, hst'⟩ := writeReassignment_moves
      hlookup (hstampKeeps row).2 (Store.activeMemoryById_eq_some hrow).2 h
    refine ⟨cleaned, write ∘ stamp, deletion, upsertion, rfl, ⟨fun r hr => ?_, fun r => ?_,
      fun r hr => ?_⟩, hretraction, ?_⟩
    · rw [Function.comp_apply, hothers r hr, hmoves.others r hr]
    · rw [Function.comp_apply]
      exact ⟨(hmoves.identity _).1.trans (hstampKeeps r).1,
        (hmoves.identity _).2.trans (hstampKeeps r).2⟩
    · exact hmoves.scope _ ((hstampKeeps r).1.trans hr)
    · rw [hst', ← List.map_map]

end Move

/-! ### The delete in the outbound filter -/

/-- The condition, on the store before the move, under which the delete of a moved row reaches a
peer of the old scope: the memory is not retired from the old scope; the sending device still uses
the scope; the row that stands under the entity id is another one, without a scope or in the old
scope, that the peer may see; and the peer holds the grant of a personal scope. -/
structure RetractionReaches (rt : Runtime) (st : Store) (row : MemoryItem) (oldScopeId : String)
    (peerDeviceId localDeviceId : Option String) : Prop where
  notRetired : isMemoryScopeRetired st (row.importKey.getD (toString row.id))
    (cleanText (some oldScopeId)) = false
  senderUses : ∀ device ∈ cleanText localDeviceId, ∀ scopeId ∈ cleanText (some oldScopeId),
    usesSharedScope st device scopeId = true
  currentRow : ∀ existing ∈
      (cleanText (some (row.importKey.getD (toString row.id)))).bind st.memoryByImportKey,
    existing.id ≠ row.id ∧
      (cleanText existing.scopeId = none ∨
        cleanText existing.scopeId = cleanText (some oldScopeId)) ∧
      privateToPeer rt st (some oldScopeId) (some (memoryFilterContext st existing).payload)
        peerDeviceId = false ∧
      syncProjectAllowed st (memoryFilterContext st existing).project peerDeviceId = true
  personalGrant : ∀ scopeId ∈ cleanText (some oldScopeId), hasPrefix "personal:" scopeId = true →
    personalScopeGrantAuthorized st peerDeviceId
      (some (sliceFrom "personal:".length scopeId)) = true

section Retraction

variable {rt : Runtime} {ms : MemoryStore} {st st' : Store} {memoryId : ℕ} {row : MemoryItem}
  {oldScopeId newScopeId scopeId opPrefix : String} {peerDeviceId : Option String}

/-- The delete rule on the retraction of a moved row, read off the store before the move. -/
lemma existingDeleteRejection_retraction {write : MemoryItem → MemoryItem} {op : ReplicationOp}
    {logged : List ReplicationOp} (hrow : row.id = memoryId)
    (hmoves : MovesRow memoryId newScopeId write)
    (hnew : cleanText (some newScopeId) = some newScopeId)
    (hclean : cleanText (some oldScopeId) = some scopeId) (hscopes : scopeId ≠ newScopeId)
    (hop : IsRetraction op row oldScopeId opPrefix) :
    existingDeleteRejection rt { st with
        memoryItems := st.memoryItems.map write
        replicationOps := logged } op peerDeviceId true = none ↔
      ∀ existing ∈
          (cleanText (some (row.importKey.getD (toString row.id)))).bind st.memoryByImportKey,
        existing.id ≠ row.id ∧
          (cleanText existing.scopeId = none ∨
            cleanText existing.scopeId = cleanText (some oldScopeId)) ∧
          privateToPeer rt st (some oldScopeId) (some (memoryFilterContext st existing).payload)
            peerDeviceId = false ∧
          syncProjectAllowed st (memoryFilterContext st existing).project peerDeviceId = true := by
  set moved : Store := { st with
    memoryItems := st.memoryItems.map write
    replicationOps := logged } with hmoved
  have hlookup : existingMemoryFilterContext moved op.entityId =
      ((cleanText (some (row.importKey.getD (toString row.id)))).bind st.memoryByImportKey).map
        fun existing => memoryFilterContext moved (write existing) := by
    have hkeys : moved.memoryByImportKey = fun key => (st.memoryByImportKey key).map write :=
      funext (Store.memoryByImportKey_map st fun r => (hmoves.identity r).2)
    rw [existingMemoryFilterContext, hop.entityId, hkeys]
    cases cleanText (some (row.importKey.getD (toString row.id))) with
    | none => rfl
    | some key => simp [Function.comp_def]
  rw [existingDeleteRejection_eq_none_iff, hlookup, hop.scopeId]
  cases (cleanText (some (row.importKey.getD (toString row.id)))).bind st.memoryByImportKey with
  | none => simp
  | some existing =>
    simp only [Option.map_some, Option.mem_def, Option.some.injEq, forall_eq']
    by_cases hid : existing.id = row.id
    · -- the moved row itself stands in the new scope
      have hscope : (memoryFilterContext moved (write existing)).scopeId = some newScopeId := by
        rw [memoryFilterContext, hmoves.scope existing (hid.trans hrow), hnew]
      simp [hid, hscope, hclean, Ne.symm hscopes]
    · have hsame : write existing = existing := hmoves.others existing fun h => hid (h.trans hrow.symm)
      rw [hsame]
      exact ⟨fun h => ⟨hid, h⟩, fun h => h.2⟩

end Retraction

/-- The device `dev` of the actor `actor`, with no peers of its own. -/
def sampleMover : MemoryStore where
  deviceId := "dev"
  now := "2026-01-02"
  randomUUID := "u"
  resolveProjectScope := fun _ _ => ""
  reassignOpId := fun _ _ _ _ _ => ""
  actorId := "actor"
  actorDisplayName := "Actor"
  sameActorPeerIds := []
  scanner := ⟨id, id⟩
  runtime := ⟨fun _ => none, fun _ => "", fun _ => "", id⟩
  needsAttention := false
  finds := fun _ _ => true

/-- A store with one own memory of scope `team`; `dev` and `peer` are members of `team`. -/
def sampleSharedStore (importKey : Option String) : Store :=
  { Store.empty with
    memoryItems := [{
      id := 1, sessionId := 0, kind := "note", title := "title", bodyText := "text"
      active := some 1, createdAt := "2026-01-01", updatedAt := "2026-01-01"
      metadataJson := none, actorId := some "actor", visibility := none, workspaceId := none
      workspaceKind := none, originDeviceId := none, deletedAt := none, rev := some 1
      importKey := importKey, scopeId := some "team", project := none
      content := MemoryContent.empty }]
    replicationScopes := [⟨"team", .coordinator, 1, "active"⟩, ⟨"other", .coordinator, 1, "active"⟩]
    scopeMemberships := [⟨"team", "dev", "active", 1⟩, ⟨"team", "peer", "active", 1⟩] }

end Codemem

import Codemem.Replication.Payload

/-!
# Retirement fences and creation provenance

A memory can be retired from a scope for good.  Replication consults the record before it applies
or sends an op (`retirementBlocksMemoryOp`), and snapshots consult it item by item
(`retirementAllowsSnapshot`).  Inbound writes leave permanent negative evidence for memories that
were created on this device (`recordForeignMemoryRevision`).
-/

namespace Codemem

def isMemoryScopeRetired (st : Store) (entityId : String) (scopeId : Option String) : Bool :=
  match scopeId with
  | none => false
  | some s => st.memoryScopeRetirements.any fun r => r.entityId == entityId && r.retiredScopeId == s

def hasMemoryScopeRetirement (st : Store) (entityId : String) : Bool :=
  st.memoryScopeRetirements.any fun r => r.entityId == entityId

/-- `metadataRecord`: the metadata object of a payload. -/
def metadataRecord (payload : JsonObject) : JsonObject :=
  ((payload.get "metadata_json").bind Json.asObject).getD []

/-- `scopes.some((value) => value != null && cleanText(value) !== scopeId)`. -/
def namesOtherScope (scopes : List (Option Json)) (scopeId : String) : Bool :=
  scopes.any fun v => (nonNull v).isSome && cleanJson v != some scopeId

def retirementPayloadContradictsScope (op : ReplicationOp) (scopeId : String)
    (payload : JsonObject) : Bool :=
  let scopes := [payload.get "scope_id", (metadataRecord payload).get "scope_id"]
  if op.opType = .accessCleanup then
    match (parseAccessCleanupPayload op).cleanupScopeId with
    | none => true
    | some cleanupScope =>
      (scopeId != defaultSyncScopeId && scopeId != cleanupScope) ||
        namesOtherScope scopes cleanupScope
  else namesOtherScope scopes scopeId

/-- `retirementBlocksMemoryOp`: history makes a missing or contradictory scope unsafe. -/
def retirementBlocksMemoryOp (st : Store) (op : ReplicationOp) : Bool :=
  if op.entityType ≠ .memoryItem ∨ hasMemoryScopeRetirement st op.entityId = false then false
  else match cleanText op.scopeId with
    | none => true
    | some scopeId =>
      if isMemoryScopeRetired st op.entityId (some scopeId) then true
      else if op.payloadJson.isSome ∧ (parsePayload op.payloadJson).isNone then true
      else if retirementPayloadContradictsScope op scopeId
          ((parsePayload op.payloadJson).getD []) then true
      else match op.opType with
        | .accessCleanup =>
          isMemoryScopeRetired st op.entityId (parseAccessCleanupPayload op).cleanupScopeId
        | .reassignScope =>
          match parseReassignScopePayload op with
          | .ok r => isMemoryScopeRetired st op.entityId (some r.newScopeId)
          | .error _ => true
        | _ => false

/-- `retirementAllowsSnapshot`: a snapshot payload of a memory with retirements must name the
scope of its envelope. -/
def retirementAllowsSnapshot (st : Store) (entityId : String) (payload : JsonObject)
    (envelopeScope : Option String) : Bool :=
  if hasMemoryScopeRetirement st (trim entityId) = false then true
  else if entityId ≠ trim entityId then false
  else match cleanJson (payload.get "scope_id") with
    | none => false
    | some scope =>
      if some scope ≠ envelopeScope ∨ isMemoryScopeRetired st entityId (some scope) then false
      else match (payload.get "metadata_json").bind Json.asObject with
        | none => true
        | some metadata =>
          match nonNull (metadata.get "scope_id") with
          | none => true
          | some (.str s) => trim s == scope
          | some _ => false

def hasRecordedLocalCreation (st : Store) (entityId : String) : Bool :=
  (st.memorySourceBindings.find? fun b => b.entityId == entityId).any
    fun b => b.evidence == .localCreation

/-- `recordForeignMemoryRevision`: at most one row for each memory created here. -/
def recordForeignMemoryRevision (st : Store) (entityId : String) (writePath : ForeignWritePath) :
    Store :=
  if hasRecordedLocalCreation st entityId = false then st
  else if st.memoryForeignRevisions.any (fun r => r.entityId == entityId) then st
  else { st with memoryForeignRevisions := st.memoryForeignRevisions ++ [⟨entityId, writePath⟩] }

/-! ### Frame lemmas -/

lemma retirementBlocksMemoryOp_congr {st st' : Store}
    (h : st'.memoryScopeRetirements = st.memoryScopeRetirements) (op : ReplicationOp) :
    retirementBlocksMemoryOp st' op = retirementBlocksMemoryOp st op := by
  have hhas : hasMemoryScopeRetirement st' = hasMemoryScopeRetirement st := by
    funext entityId
    simp only [hasMemoryScopeRetirement, h]
  have his : isMemoryScopeRetired st' = isMemoryScopeRetired st := by
    funext entityId scopeId
    cases scopeId with
    | none => rfl
    | some s => simp only [isMemoryScopeRetired, h]
  unfold retirementBlocksMemoryOp
  rw [hhas, his]

lemma recordForeignMemoryRevision_eq (st : Store) (entityId : String)
    (writePath : ForeignWritePath) :
    ∃ revisions, recordForeignMemoryRevision st entityId writePath =
      { st with memoryForeignRevisions := revisions } := by
  unfold recordForeignMemoryRevision
  split_ifs
  · exact ⟨_, rfl⟩
  · exact ⟨_, rfl⟩
  · exact ⟨_, rfl⟩

section Provenance

variable (st : Store) (entityId : String) (path : ForeignWritePath)

@[simp] lemma recordForeignMemoryRevision_memoryItems :
    (recordForeignMemoryRevision st entityId path).memoryItems = st.memoryItems := by
  obtain ⟨_, h⟩ := recordForeignMemoryRevision_eq st entityId path
  rw [h]

@[simp] lemma recordForeignMemoryRevision_replicationOps :
    (recordForeignMemoryRevision st entityId path).replicationOps = st.replicationOps := by
  obtain ⟨_, h⟩ := recordForeignMemoryRevision_eq st entityId path
  rw [h]

@[simp] lemma recordForeignMemoryRevision_retirements :
    (recordForeignMemoryRevision st entityId path).memoryScopeRetirements =
      st.memoryScopeRetirements := by
  obtain ⟨_, h⟩ := recordForeignMemoryRevision_eq st entityId path
  rw [h]

end Provenance

end Codemem

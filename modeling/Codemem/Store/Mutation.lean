import Codemem.Replication.Apply
import Codemem.Replication.Record

/-!
# Local mutations of memories

The write methods of `MemoryStore` that replicate: `remember`, `forget`,
`updateMemoryVisibility` and `reassignMemoryScope`.  Each runs in one transaction, so an error
leaves the store as it was, and logs the change through `recordReplicationOp`.
-/

namespace Codemem

/-- The fields of `MemoryStore`, and what its methods take from their surroundings. -/
structure MemoryStore extends LocalContext where
  actorId : String
  actorDisplayName : String
  /-- `sameActorPeerIds`: the peers claimed by the local actor. -/
  sameActorPeerIds : List String
  scanner : SecretScanner
  runtime : Runtime
  /-- The sync daemon is in phase `needs_attention`. -/
  needsAttention : Bool
  /-- `get` finds the memory: it is stored and its scope is visible to this device. -/
  finds : Store → ℕ → Bool

/-- `assertSharedMutationAllowed`, as the condition under which it does not throw. -/
def MemoryStore.sharedMutationAllowed (ms : MemoryStore) (visibility : Option String) : Bool :=
  visibility.all (fun v => v.toList.isEmpty || v == "private") || !ms.needsAttention

def MemoryStore.memoryOwnedBySelf (ms : MemoryStore) (row : MemoryItem) : Bool :=
  let metadata := fromJson row.metadataJson
  let actorId := (cleanText row.actorId).or (cleanJson (metadata.get "actor_id"))
  let deviceId := (cleanText row.originDeviceId).or (cleanJson (metadata.get "origin_device_id"))
  actorId == some ms.actorId || deviceId == some ms.deviceId ||
    deviceId.any (fun d => ms.sameActorPeerIds.contains d) ||
    actorId.any fun a => (ms.sameActorPeerIds.map ("legacy-sync:" ++ ·)).contains a

def MemoryStore.localMetadata (ms : MemoryStore) (row : MemoryItem) : JsonObject :=
  (fromJson row.metadataJson).set "clock_device_id" (.str ms.deviceId)

/-! ### remember -/

/-- The provenance columns of a new memory. -/
structure Provenance where
  actorId : Option String
  actorDisplayName : Option String
  visibility : String
  workspaceId : String
  workspaceKind : String
  originDeviceId : String
  originSource : Option String
  trustState : String

/-- `clean` of `resolveProvenance`: the trimmed text of any value. -/
def cleanValue (rt : Runtime) (value : Option Json) : Option String :=
  match nonNull value with
  | none => none
  | some (.str s) => cleanText (some s)
  | some v => cleanText (some (rt.stringOf v))

def MemoryStore.resolveProvenance (ms : MemoryStore) (metadata : JsonObject) : Provenance :=
  let clean (key : String) := cleanValue ms.runtime (metadata.get key)
  let actorId := (clean "actor_id").getD ms.actorId
  let visibility := if clean "visibility" = some "private" then "private" else "shared"
  let workspaceKind := if visibility = "shared" then "shared" else "personal"
  { actorId := some actorId
    actorDisplayName := some ((clean "actor_display_name").getD ms.actorDisplayName)
    visibility := visibility
    workspaceId := (clean "workspace_id").getD
      (if workspaceKind = "personal" then "personal:" ++ actorId else "shared:default")
    workspaceKind := workspaceKind
    originDeviceId := (clean "origin_device_id").getD ms.deviceId
    originSource := (clean "origin_source").or (clean "source")
    trustState := (clean "trust_state").getD "trusted" }

/-- The arguments of `remember`, with what the call looks up before it writes. -/
structure RememberInput where
  sessionId : ℕ
  kind : String
  title : String
  bodyText : String
  confidence : ℚ
  metadata : Option JsonObject
  createdAt : Option String
  replicate : Bool
  /-- `findExistingDuplicateMemory`: the memory that makes the new one a duplicate. -/
  existingDuplicate : Option ℕ
  /-- `resolveSessionScopeId` for the session and the resolved workspace. -/
  sessionScopeId : String
  /-- The process is configured for another device than the store. -/
  foreignDeviceConfigured : Bool
  /-- `allocateLocalCaptureMemorySource`: the entity id bound to this device. -/
  allocatedSource : Option String
  /-- The random import key. -/
  randomImportKey : String

def hasSuppliedMemoryIdentity (metadata : Option JsonObject) : Bool :=
  ["import_key", "origin_device_id", "clock_device_id"].any fun key =>
    ((metadata.getD []).get key).isSome

/-- The scanned metadata of a new memory, with its clock device. -/
def MemoryStore.newMemoryMetadata (ms : MemoryStore) (input : RememberInput) : JsonObject :=
  let scanned := ms.scanner.redactValue (input.metadata.getD [])
  match nonNull (scanned.get "clock_device_id") with
  | some _ => scanned
  | none => scanned.set "clock_device_id" (.str ms.deviceId)

def memoryCreationImportKey (input : RememberInput) (scanned : JsonObject) : String :=
  if input.foreignDeviceConfigured then input.randomImportKey
  else if hasSuppliedMemoryIdentity input.metadata then
    match (scanned.get "import_key").bind Json.asText with
    | some key => if key.toList.isEmpty then input.randomImportKey else key
    | none => input.randomImportKey
  else input.allocatedSource.getD input.randomImportKey

/-- The binding an allocated import key leaves behind. -/
def bindAllocatedSource (ms : MemoryStore) (st : Store) (input : RememberInput) : Store :=
  if input.foreignDeviceConfigured ∨ hasSuppliedMemoryIdentity input.metadata then st
  else match input.allocatedSource with
    | none => st
    | some entityId =>
      { st with memorySourceBindings :=
          st.memorySourceBindings ++ [⟨entityId, ms.deviceId, .localCreation⟩] }

/-- The column of an array field of the metadata. -/
def metadataArray (metadata : JsonObject) (key : String) : Option Json :=
  match metadata.get key with
  | some (.arr items) => some (.arr items)
  | _ => none

/-- The column of a number field of the metadata. -/
def metadataNumber (metadata : JsonObject) (key : String) : Option ℚ :=
  match metadata.get key with
  | some (.num q) => some q
  | _ => none

/-- The row `remember` inserts. -/
def MemoryStore.rememberedRow (ms : MemoryStore) (st : Store) (input : RememberInput)
    (importKey : String) : MemoryItem :=
  let metadata := ms.newMemoryMetadata input
  let provenance := ms.resolveProvenance metadata
  { id := 0
    sessionId := input.sessionId
    kind := input.kind
    title := ms.scanner.scan input.title
    bodyText := ms.scanner.scan input.bodyText
    active := some 1
    createdAt := input.createdAt.getD ms.now
    updatedAt := ms.now
    metadataJson := some (toJson (metadata.set "import_key" (.str importKey)))
    actorId := provenance.actorId
    visibility := some provenance.visibility
    workspaceId := some provenance.workspaceId
    workspaceKind := some provenance.workspaceKind
    originDeviceId := some provenance.originDeviceId
    deletedAt := none
    rev := some 1
    importKey := some importKey
    scopeId := some input.sessionScopeId
    project := sessionProject st input.sessionId
    content :=
      { subtitle := (metadata.get "subtitle").bind Json.asText
        confidence := some input.confidence
        actorDisplayName := provenance.actorDisplayName
        originSource := provenance.originSource
        trustState := some provenance.trustState
        narrative := (metadata.get "narrative").bind Json.asText
        facts := toJsonNullable (metadataArray metadata "facts")
        concepts := toJsonNullable (metadataArray metadata "concepts")
        filesRead := toJsonNullable (metadataArray metadata "files_read")
        filesModified := toJsonNullable (metadataArray metadata "files_modified")
        userPromptId := metadataNumber metadata "user_prompt_id"
        promptNumber := metadataNumber metadata "prompt_number" } }

/-- `recordNewMemoryWrite`: provenance, then the upsert op; a failure to log it is not fatal. -/
def MemoryStore.recordNewMemoryWrite (ms : MemoryStore) (st : Store) (input : RememberInput)
    (memoryId : ℕ) (importKey : String) : Store :=
  let st1 :=
    if hasSuppliedMemoryIdentity input.metadata then
      recordForeignMemoryRevision st importKey .imported
    else st
  if input.replicate then
    (recordReplicationOp ms.toLocalContext st1 (.plain memoryId .upsert ms.deviceId)).1
  else st1

/-- `remember`: the id of the memory that holds the content, and the store. -/
def MemoryStore.remember (ms : MemoryStore) (st : Store) (input : RememberInput) :
    Except String (ℕ × Store) :=
  match input.existingDuplicate with
  | some id => .ok (id, st)
  | none =>
    let metadata := ms.newMemoryMetadata input
    if ms.sharedMutationAllowed (some (ms.resolveProvenance metadata).visibility) = false then
      .error "sync_rebootstrap_in_progress"
    else
      let importKey := memoryCreationImportKey input metadata
      let st1 := bindAllocatedSource ms st input
      let memoryId := st1.nextMemoryId
      let st2 := populateMemoryRefs ms.runtime
        (st1.insertMemory (ms.rememberedRow st1 input importKey)) memoryId
        (asStringArrayOrNull (metadata.get "files_read"))
        (asStringArrayOrNull (metadata.get "files_modified"))
        (asStringArrayOrNull (metadata.get "concepts"))
      .ok (memoryId, ms.recordNewMemoryWrite st2 input memoryId importKey)

/-! ### forget -/

/-- The row after `forget`. -/
def MemoryStore.forgottenRow (ms : MemoryStore) (existing row : MemoryItem) : MemoryItem :=
  { row with
    active := some 0
    deletedAt := some ms.now
    updatedAt := ms.now
    metadataJson := some (toJson (ms.localMetadata existing))
    rev := some (existing.rev.getD 0 + 1) }

/-- `forget`: a tombstone on the row, and a delete op unless logging it fails. -/
def MemoryStore.forget (ms : MemoryStore) (st : Store) (memoryId : ℕ) : Except String Store :=
  match st.memoryById memoryId with
  | none => .ok st
  | some row =>
    if ms.sharedMutationAllowed row.visibility = false then .error "sync_rebootstrap_in_progress"
    else
      let st1 := st.updateMemories (fun r => r.id == memoryId) (ms.forgottenRow row)
      .ok (recordReplicationOp ms.toLocalContext st1 (.plain memoryId .delete ms.deviceId)).1

/-! ### updateMemoryVisibility -/

/-- `SELECT … WHERE id = ? AND active = 1`. -/
def Store.activeMemoryById (st : Store) (memoryId : ℕ) : Option MemoryItem :=
  st.memoryItems.find? fun row => row.id == memoryId && row.active == some 1

def MemoryStore.visibilityWorkspaceId (ms : MemoryStore) (row : MemoryItem) (cleaned : String) :
    String :=
  if cleaned = "shared" then
    if row.workspaceId.any (hasPrefix "shared:") then row.workspaceId.getD "" else "shared:default"
  else "personal:" ++ (cleanText row.actorId).getD ms.actorId

/-- The row after `updateMemoryVisibility`. -/
def MemoryStore.visibilityRow (ms : MemoryStore) (existing : MemoryItem) (cleaned : String)
    (row : MemoryItem) : MemoryItem :=
  let workspaceKind := if cleaned = "shared" then "shared" else "personal"
  let workspaceId := ms.visibilityWorkspaceId existing cleaned
  let metadata := (((fromJson existing.metadataJson).set "visibility" (.str cleaned)).set
    "workspace_kind" (.str workspaceKind)).set "workspace_id" (.str workspaceId)
  { row with
    visibility := some cleaned
    workspaceKind := some workspaceKind
    workspaceId := some workspaceId
    updatedAt := ms.now
    metadataJson := some (toJson (metadata.set "clock_device_id" (.str ms.deviceId)))
    rev := some (existing.rev.getD 0 + 1) }

def MemoryStore.updateMemoryVisibility (ms : MemoryStore) (st : Store) (memoryId : ℕ)
    (visibility : String) : Except String Store :=
  let cleaned := trim visibility
  if cleaned ≠ "private" ∧ cleaned ≠ "shared" then .error "visibility must be private or shared"
  else if ms.sharedMutationAllowed (some cleaned) = false then
    .error "sync_rebootstrap_in_progress"
  else match st.activeMemoryById memoryId with
    | none => .error "memory not found"
    | some row =>
      if ms.memoryOwnedBySelf row = false then .error "memory not owned by this device"
      else
        let st1 := st.updateMemories (fun r => r.id == memoryId) (ms.visibilityRow row cleaned)
        let st2 := (recordReplicationOp ms.toLocalContext st1
          (.plain memoryId .upsert ms.deviceId)).1
        if ms.finds st2 memoryId then .ok st2 else .error "memory not found after update"

/-! ### reassignMemoryScope -/

/-- The row after `reassignMemoryScope`. -/
def MemoryStore.reassignedRow (ms : MemoryStore) (existing : MemoryItem)
    (oldScopeId newScopeId : String) (row : MemoryItem) : MemoryItem :=
  { row with
    scopeId := some newScopeId
    updatedAt := ms.now
    metadataJson := some (toJson ((ms.localMetadata existing).set "last_scope_reassignment"
      (.obj [("old_scope_id", .str oldScopeId), ("new_scope_id", .str newScopeId),
        ("reassigned_at", .str ms.now),
        ("warning", .str ("Already-copied data may remain on devices that previously " ++
          "received the old scope."))])))
    rev := some (existing.rev.getD 0 + 2) }

/-- The options of one of the two ops of `reassignMemoryScope`. -/
def MemoryStore.reassignmentRecord (ms : MemoryStore) (memoryId : ℕ) (opType : OpType)
    (scopeId : String) (rev : ℤ) (opId : String) : RecordOptions where
  memoryId := memoryId
  opType := opType
  deviceId := ms.deviceId
  payload := none
  scopeId := some (some scopeId)
  clockRev := some rev
  clockUpdatedAt := some ms.now
  clockDeviceId := some ms.deviceId
  createdAt := some ms.now
  opId := some opId

/-- The writes of `reassignMemoryScope` once its checks have passed. -/
def MemoryStore.writeReassignment (ms : MemoryStore) (st : Store) (memoryId : ℕ)
    (row : MemoryItem) (oldScopeId newScopeId : String) : Except String Store :=
  let st1 := st.updateMemories (fun r => r.id == memoryId)
    (ms.reassignedRow row oldScopeId newScopeId)
  let opPrefix := "~scope-reassign:" ++ ms.randomUUID
  match recordReplicationOp ms.toLocalContext st1 (ms.reassignmentRecord memoryId .delete
      oldScopeId (row.rev.getD 0 + 1) (opPrefix ++ ":0-delete")) with
  | (_, .error message) => .error message
  | (st2, .ok _) =>
    match recordReplicationOp ms.toLocalContext st2 (ms.reassignmentRecord memoryId .upsert
        newScopeId (row.rev.getD 0 + 2) (opPrefix ++ ":1-upsert")) with
    | (_, .error message) => .error message
    | (st3, .ok _) =>
      if ms.finds st3 memoryId then .ok st3
      else .error "memory not found after scope reassignment"

/-- `reassignMemoryScope`: an old-scope delete op and a new-scope upsert op with a newer clock. -/
def MemoryStore.reassignMemoryScope (ms : MemoryStore) (st : Store) (memoryId : ℕ)
    (newScopeId : String) : Except String Store :=
  match cleanText (some newScopeId) with
  | none => .error "scope_id must be a non-empty string"
  | some cleanedScopeId =>
    match st.activeMemoryById memoryId with
    | none => .error "memory not found"
    | some row =>
      if ms.memoryOwnedBySelf row = false then .error "memory not owned by this device"
      else if st.replicationScopes.any (fun s => s.scopeId == cleanedScopeId &&
          s.status == "active") = false then
        .error ("scope not found or inactive: " ++ cleanedScopeId)
      else match ensureMemoryScopeId ms.toLocalContext st memoryId with
        | (none, _) => .error "memory scope could not be resolved"
        | (some oldScopeId, st1) =>
          if oldScopeId = cleanedScopeId then
            if ms.finds st1 memoryId then .ok st1 else .error "memory not found after scope check"
          else if ms.sharedMutationAllowed row.visibility = false then
            .error "sync_rebootstrap_in_progress"
          else ms.writeReassignment st1 memoryId row oldScopeId cleanedScopeId

end Codemem

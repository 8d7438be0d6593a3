import Codemem.Replication.ApplySpec
import Codemem.Replication.ResetState

/-!
# Bootstrap snapshots

A peer whose cursor no longer fits the log receives the memories of a scope as a snapshot.
`applyBootstrapSnapshot` replaces the synced rows of the scope, `mergeBootstrapSnapshot` only adds
missing memories and replaces older copies.  Both work item by item inside one transaction, so
that each is a fold of a step function over the accepted items.
-/

namespace Codemem

/-- `SyncMemorySnapshotItem`. -/
structure SnapshotItem where
  entityId : String
  opType : OpType
  payloadJson : JsonText
  clockRev : ℤ
  clockUpdatedAt : String
  clockDeviceId : String

def SnapshotItem.clock (item : SnapshotItem) : Clock :=
  clockTuple item.clockRev item.clockUpdatedAt item.clockDeviceId

/-- The fields of `SyncResetRequired` that the snapshot functions read. -/
structure ResetInfo where
  generation : ℤ
  snapshotId : String
  baselineCursor : Option String
  scopeId : Option String

/-- `BootstrapResult` of a call that returns. -/
structure BootstrapResult where
  applied : ℕ
  deleted : ℕ
  deriving DecidableEq, Repr

/-- What the snapshot functions take from their surroundings: the scanner, and the random snapshot
id of a reset boundary that does not exist yet. -/
structure SnapshotContext where
  scanner : SecretScanner
  snapshotId : String

/-! ### Items -/

def parseSnapshotPayload (item : SnapshotItem) : Option JsonObject :=
  if item.payloadJson.isFalsy then none else item.payloadJson.parse.bind Json.asObject

/-- `retirementSnapshotItems`: the items that parse and that no retirement forbids. -/
def retirementSnapshotItems (st : Store) (items : List SnapshotItem) (scope : Option String) :
    List SnapshotItem :=
  items.filter fun item => (parseSnapshotPayload item).any fun payload =>
    retirementAllowsSnapshot st item.entityId payload scope

/-- `validateSnapshotScopes`: every parsed payload belongs to the requested scope, which is not
the default one. -/
def validateSnapshotScopes (items : List SnapshotItem) (bootstrapScopeId : Option String) : Bool :=
  bootstrapScopeId != some defaultSyncScopeId && items.all fun item =>
    (parseSnapshotPayload item).all fun payload =>
      bootstrapScopeId.isSome &&
        (cleanJson (payload.get "scope_id")).all (some · == bootstrapScopeId)

def snapshotPayloadScopeId (payload : JsonObject) (bootstrapScopeId : Option String) :
    Option String :=
  bootstrapScopeId.or (cleanJson (payload.get "scope_id"))

/-- `typeof payload[key] === "string"`, with the text. -/
def textField (payload : JsonObject) (key : String) : Option String :=
  (payload.get key).bind Json.asText

/-- `typeof payload[key] === "number"`, with the number. -/
def numberField (payload : JsonObject) (key : String) : Option ℚ :=
  match payload.get key with
  | some (.num q) => some q
  | _ => none

/-- `Array.isArray(payload[key])`, with the text of the redacted array. -/
def arrayField (scanner : SecretScanner) (payload : JsonObject) (key : String) :
    Option JsonText :=
  match redactItems scanner (payload.get key) with
  | some (.arr items) => some (.encoded (.arr items))
  | _ => none

/-- The redacted metadata of an item, with its clock device. -/
def snapshotMetadata (scanner : SecretScanner) (item : SnapshotItem) (payload : JsonObject) :
    JsonObject :=
  (match (payload.get "metadata_json").bind Json.asObject with
    | some metadata => scanner.redactValue metadata
    | none => []).set "clock_device_id" (.str item.clockDeviceId)

/-- The project an item names. -/
def snapshotProject (payload : JsonObject) : Option String := cleanJson (payload.get "project")

/-- The row `insertSnapshotItem` inserts. -/
def snapshotRow (scanner : SecretScanner) (item : SnapshotItem) (payload : JsonObject)
    (bootstrapScopeId : Option String) (sessionId : ℕ) : MemoryItem where
  id := 0
  sessionId := sessionId
  kind := (textField payload "kind").getD "discovery"
  title := (redactText scanner (textField payload "title")).getD ""
  bodyText := (redactText scanner (textField payload "body_text")).getD ""
  active := some (if item.opType = .delete then 0 else 1)
  createdAt := (textField payload "created_at").getD item.clockUpdatedAt
  updatedAt := item.clockUpdatedAt
  metadataJson := some (toJson (snapshotMetadata scanner item payload))
  importKey := some item.entityId
  deletedAt := if item.opType = .delete then some item.clockUpdatedAt else none
  rev := some item.clockRev
  actorId := textField payload "actor_id"
  visibility := some ((textField payload "visibility").getD "shared")
  workspaceId := some ((textField payload "workspace_id").getD "shared:default")
  workspaceKind := some ((textField payload "workspace_kind").getD "shared")
  originDeviceId := some ((textField payload "origin_device_id").getD item.clockDeviceId)
  scopeId := snapshotPayloadScopeId payload bootstrapScopeId
  project := snapshotProject payload
  content :=
    { subtitle := redactText scanner (textField payload "subtitle")
      confidence := some ((numberField payload "confidence").getD (1 / 2))
      actorDisplayName := redactText scanner (textField payload "actor_display_name")
      originSource := redactText scanner (textField payload "origin_source")
      trustState := some ((textField payload "trust_state").getD "trusted")
      narrative := redactText scanner (textField payload "narrative")
      facts := arrayField scanner payload "facts"
      concepts := arrayField scanner payload "concepts"
      filesRead := arrayField scanner payload "files_read"
      filesModified := arrayField scanner payload "files_modified"
      userPromptId := numberField payload "user_prompt_id"
      promptNumber := numberField payload "prompt_number" }

/-- `ensureSessionForBootstrap`: one session for each project. -/
def ensureSessionForBootstrap (st : Store) (project : Option String) : ℕ × Store :=
  let cwd := match project with
    | none => "__sync_bootstrap__"
    | some p => if p.toList.isEmpty then "__sync_bootstrap__" else "__sync_bootstrap__:" ++ p
  match st.sessions.find? fun s => s.cwd == some cwd with
  | some existing => (existing.id, st)
  | none => st.insertSession (some cwd) project

/-- `insertSnapshotItem` of an item with a payload, and the provenance record after it. -/
def insertSnapshotItem (scanner : SecretScanner) (bootstrapScopeId : Option String) (st : Store)
    (item : SnapshotItem) (payload : JsonObject) : Store :=
  let (sessionId, st1) := ensureSessionForBootstrap st (snapshotProject payload)
  recordForeignMemoryRevision
    (st1.insertMemory (snapshotRow scanner item payload bootstrapScopeId sessionId))
    item.entityId .bootstrap

/-! ### The boundary -/

/-- `SCOPED_NULL_BASELINE_BOOTSTRAP_CURSOR_MARKER`. -/
def scopedNullBaselineBootstrapCursorMarker : String :=
  "__codemem_scoped_null_baseline_bootstrap__"

/-- The cursor and boundary updates at the end of a snapshot (`advanceMergedSnapshotBoundary`). -/
def advanceSnapshotBoundary (ctx : SnapshotContext) (st : Store) (peerDeviceId : String)
    (resetInfo : ResetInfo) : Store :=
  let hasBaseline := truthy resetInfo.baselineCursor
  let st1 :=
    if truthy resetInfo.scopeId then
      if hasBaseline then clearScopedAckedCursor st peerDeviceId (resetInfo.scopeId.getD "")
      else clearReplicationCursorLastApplied st peerDeviceId resetInfo.scopeId
    else st
  let st2 :=
    if hasBaseline ∨ truthy resetInfo.scopeId then
      setReplicationCursor st1 peerDeviceId
        ⟨resetInfo.baselineCursor,
          if hasBaseline then none else some scopedNullBaselineBootstrapCursorMarker⟩
        resetInfo.scopeId
    else st1
  setSyncResetState ctx.snapshotId st2
    ⟨some resetInfo.generation, some resetInfo.snapshotId, some resetInfo.baselineCursor, none⟩
    resetInfo.scopeId

lemma advanceSnapshotBoundary_frame (ctx : SnapshotContext) (st : Store) (peerDeviceId : String)
    (resetInfo : ResetInfo) :
    BoundaryFrame st (advanceSnapshotBoundary ctx st peerDeviceId resetInfo) := by
  unfold advanceSnapshotBoundary
  dsimp only
  refine BoundaryFrame.trans ?_ (setSyncResetState_frame _ _ _ _)
  have hclear : BoundaryFrame st (if truthy resetInfo.scopeId = true then
      if truthy resetInfo.baselineCursor = true then
        clearScopedAckedCursor st peerDeviceId (resetInfo.scopeId.getD "")
      else clearReplicationCursorLastApplied st peerDeviceId resetInfo.scopeId
    else st) := by
    split_ifs
    · exact ⟨_, _, _, _, rfl⟩
    · exact ⟨_, _, _, _, rfl⟩
    · exact .refl st
  refine hclear.trans ?_
  generalize (if truthy resetInfo.scopeId = true then
      if truthy resetInfo.baselineCursor = true then
        clearScopedAckedCursor st peerDeviceId (resetInfo.scopeId.getD "")
      else clearReplicationCursorLastApplied st peerDeviceId resetInfo.scopeId
    else st) = st1
  split_ifs
  · exact setReplicationCursor_frame _ _ _ _
  · exact setReplicationCursor_frame _ _ _ _
  · exact .refl st1

/-! ### Replacing a scope -/

/-- The rows `deleteSyncedMemoriesInScope` deletes. -/
def isSyncedInScope (scopeId : String) (row : MemoryItem) : Bool :=
  row.importKey.isSome && row.scopeId == some scopeId && row.visibility.getD "" != "private"

def deleteSyncedMemoriesInScope (st : Store) (scopeId : String) : Store :=
  st.deleteMemories (isSyncedInScope scopeId)

/-- One item of `applyBootstrapSnapshot`. -/
def bootstrapItem (scanner : SecretScanner) (bootstrapScopeId : Option String) (st : Store)
    (item : SnapshotItem) : Store :=
  match parseSnapshotPayload item with
  | none => st
  | some payload => insertSnapshotItem scanner bootstrapScopeId st item payload

def applyBootstrapSnapshot (ctx : SnapshotContext) (st : Store) (peerDeviceId : String)
    (items : List SnapshotItem) (resetInfo : ResetInfo) :
    Except String (Store × BootstrapResult) :=
  let bootstrapScopeId := cleanText resetInfo.scopeId
  if validateSnapshotScopes items bootstrapScopeId = false then .error "scope_mismatch"
  else
    let st1 := match bootstrapScopeId with
      | none => st
      | some scopeId => deleteSyncedMemoriesInScope st scopeId
    let accepted := retirementSnapshotItems st1 items bootstrapScopeId
    let st2 := accepted.foldl (bootstrapItem ctx.scanner bootstrapScopeId) st1
    .ok (advanceSnapshotBoundary ctx st2 peerDeviceId resetInfo,
      ⟨accepted.length, st.memoryItems.length - st1.memoryItems.length⟩)

/-! ### Merging into a scope -/

/-- `mergeScopePredicate`, with the test that the row is not private. -/
def isMergeable (bootstrapScopeId : Option String) (row : MemoryItem) : Bool :=
  (match bootstrapScopeId with
    | some scopeId => row.scopeId == some scopeId
    | none => row.scopeId.isNone || row.scopeId == some defaultSyncScopeId) &&
    row.visibility.getD "" != "private"

/-- The rows an item of a merge may replace. -/
def existingSnapshotRows (st : Store) (bootstrapScopeId : Option String) (entityId : String) :
    List MemoryItem :=
  (st.rowsOf entityId).filter (isMergeable bootstrapScopeId)

def shouldReplaceExistingSnapshotRows (existingRows : List MemoryItem) (item : SnapshotItem) :
    Bool :=
  existingRows.all fun row => isNewerClock item.clock row.clock

/-- One item of `mergeBootstrapSnapshot`. -/
def mergeItem (scanner : SecretScanner) (bootstrapScopeId : Option String) (st : Store)
    (item : SnapshotItem) : Store :=
  match parseSnapshotPayload item with
  | none => st
  | some payload =>
    let existingRows := existingSnapshotRows st bootstrapScopeId item.entityId
    if shouldReplaceExistingSnapshotRows existingRows item = false then st
    else
      let st1 := st.deleteMemories fun row => existingRows.any fun r => r.id == row.id
      insertSnapshotItem scanner bootstrapScopeId st1 item payload

/-- `mergeBootstrapSnapshot`; `preserveCursor` is the option of source-only snapshots. -/
def mergeBootstrapSnapshot (ctx : SnapshotContext) (st : Store) (peerDeviceId : String)
    (items : List SnapshotItem) (resetInfo : ResetInfo) (preserveCursor : Bool) :
    Except String Store :=
  let bootstrapScopeId := cleanText resetInfo.scopeId
  if validateSnapshotScopes items bootstrapScopeId = false then .error "scope_mismatch"
  else
    let st1 := (retirementSnapshotItems st items bootstrapScopeId).foldl
      (mergeItem ctx.scanner bootstrapScopeId) st
    .ok (if preserveCursor then st1 else advanceSnapshotBoundary ctx st1 peerDeviceId resetInfo)

end Codemem

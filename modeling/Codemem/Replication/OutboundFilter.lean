import Codemem.Replication.InboundScope
import Codemem.Replication.OpLog

/-!
# The outbound filter

Before ops leave for a peer, `filterReplicationOpsForSyncWithStatus` drops those the peer may not
see: by the scope of the op, by its visibility, and by the project filters of the peer.  An op
without a payload is judged by the row the memory has now.
-/

namespace Codemem

/-! ### Project filters -/

/-- `value.replaceAll("\\", "/")`. -/
def slashed (value : String) : List Char := value.toList.map fun c => if c = '\\' then '/' else c

/-- `projectBasename`: the part behind the last slash, trailing slashes aside. -/
def projectBasename (value : String) : String :=
  String.ofList ((((slashed value).reverse.dropWhile (· == '/')).takeWhile (· != '/')).reverse)

/-- `effectiveSyncProjectFilters`: the filters of the peer, or those of the device. -/
def effectiveSyncProjectFilters (st : Store) (peerDeviceId : Option String) : ProjectFilters :=
  match peerDeviceId with
  | none => st.globalProjectFilters
  | some peer =>
    if peer.toList.isEmpty then st.globalProjectFilters
    else (((st.syncPeers.find? fun p => p.peerDeviceId == peer).bind SyncPeer.filters).getD
      st.globalProjectFilters)

def syncProjectAllowedByFilters (project : Option String) (filters : ProjectFilters) : Bool :=
  let value := trim (project.getD "")
  let valueBase := projectBasename value
  if filters.excludes.any fun blocked => blocked == value || blocked == valueBase then false
  else filters.includes.isEmpty ||
    filters.includes.any fun allowed => allowed == value || allowed == valueBase

def syncProjectAllowed (st : Store) (project peerDeviceId : Option String) : Bool :=
  syncProjectAllowedByFilters project (effectiveSyncProjectFilters st peerDeviceId)

/-! ### Visibility -/

/-- `String(value ?? "").trim().toLowerCase()`. -/
def lowerText (rt : Runtime) (value : Option Json) : String :=
  toLowerCase (trim ((asStringOrNull rt value).getD ""))

/-- `syncVisibilityAllowed`: what is not marked otherwise may be shared. -/
def syncVisibilityAllowed (rt : Runtime) (payload : Option JsonObject) : Bool :=
  match payload with
  | none => false
  | some payload =>
    let metadata := metadataRecord payload
    -- `value || fallback` on cleaned texts
    let field (key : String) : String :=
      let value := lowerText rt (payload.get key)
      if value.toList.isEmpty then lowerText rt (metadata.get key) else value
    let visibility := field "visibility"
    -- without a mark it passes, whether or not the workspace fields say that it is shared
    visibility.toList.isEmpty || visibility == "shared"

/-! ### Personal scopes -/

/-- The outcome of `personalScopeAuthorizationRequirement`. -/
structure PersonalScopeRequirement where
  required : Bool
  scopeId : Option String
  deriving DecidableEq, Repr

/-- `personalScopeAuthorizationRequirement`: a personal signal, or a personal scope named by the
op, its payload, its workspace or its actor; contradictory names count as none. -/
def personalScopeAuthorizationRequirement (opScopeId : Option String)
    (payload : Option JsonObject) : PersonalScopeRequirement :=
  let payload := payload.getD []
  let visibility := (payloadOrMetadata payload "visibility").map toLowerCase
  let workspaceId := payloadOrMetadata payload "workspace_id"
  let workspaceKind := (payloadOrMetadata payload "workspace_kind").map toLowerCase
  let actorId := payloadOrMetadata payload "actor_id"
  let personalWorkspaceId := workspaceId.filter (hasPrefix "personal:")
  let hasPersonalSignal := visibility == some "private" || visibility == some "personal" ||
    workspaceKind == some "personal" || personalWorkspaceId.isSome
  let actorScopeId := if hasPersonalSignal then actorId.map ("personal:" ++ ·) else none
  let candidates := [cleanText opScopeId, cleanJson (payload.get "scope_id"),
    personalWorkspaceId, actorScopeId].filterMap (Option.filter (hasPrefix "personal:"))
  match candidates with
  | [] => ⟨hasPersonalSignal, none⟩
  | scopeId :: rest => if rest.all (· == scopeId) then ⟨true, some scopeId⟩ else ⟨true, none⟩

def replicationOpRequiresPersonalScopeAuthorization (opScopeId : Option String)
    (payload : Option JsonObject) : Bool :=
  (personalScopeAuthorizationRequirement opScopeId payload).required

/-- `personalScopeGrantStatusForPeer(…).authorized`. -/
def personalScopeGrantAuthorized (st : Store) (peerDeviceId actorId : Option String) : Bool :=
  match cleanText peerDeviceId, cleanText actorId with
  | some peer, some actor => (getCachedScopeAuthorization st peer ("personal:" ++ actor)).authorized
  | _, _ => false

def peerCanSyncPrivateOpByPersonalScopeGrant (st : Store) (opScopeId : Option String)
    (payload : Option JsonObject) (peerDeviceId : Option String) : Bool :=
  match (personalScopeAuthorizationRequirement opScopeId payload).scopeId with
  | none => false
  | some scopeId =>
    personalScopeGrantAuthorized st peerDeviceId (some (sliceFrom "personal:".length scopeId))

/-! ### Scopes -/

def payloadScopeId (payload : Option JsonObject) : Option String :=
  payloadOrMetadata (payload.getD []) "scope_id"

def payloadContradictsOutboundScope (opScopeId : Option String) (payload : Option JsonObject) :
    Bool :=
  let cleanScopeId := cleanText opScopeId
  let explicitPayloadScopeId := payloadScopeId payload
  if explicitPayloadScopeId.isSome ∧ explicitPayloadScopeId ≠ cleanScopeId then true
  else if cleanScopeId.isNone then explicitPayloadScopeId.isSome
  else
    let requirement := personalScopeAuthorizationRequirement opScopeId payload
    requirement.required && requirement.scopeId.isSome && requirement.scopeId != cleanScopeId

/-- `outboundScopeAllowed`: the peer, and this device where it is named, may use the scope. -/
def outboundScopeAllowed (st : Store) (op : ReplicationOp) (payload : Option JsonObject)
    (peerDeviceId localDeviceId : Option String) : Bool :=
  if payloadContradictsOutboundScope op.scopeId payload then false
  else match cleanText op.scopeId with
    | none => true
    | some scopeId =>
      if scopeId = defaultSyncScopeId then false
      else match cleanText peerDeviceId with
        | none => false
        | some peer =>
          let peerAuth := getCachedScopeAuthorization st peer scopeId
          if peerAuth.authorized = false ∨ peerAuth.isLocalAuthority = true then false
          else match cleanText localDeviceId with
            | none => true
            | some device =>
              let localAuth := getCachedScopeAuthorization st device scopeId
              localAuth.authorized && !localAuth.isLocalAuthority

/-! ### The row a memory has now -/

structure ExistingMemoryFilterContext where
  payload : JsonObject
  project : Option String
  scopeId : Option String

def memoryFilterContext (st : Store) (row : MemoryItem) : ExistingMemoryFilterContext where
  payload := [("actor_id", jsonText row.actorId), ("metadata_json", .obj (fromJson row.metadataJson)),
    ("visibility", jsonText row.visibility), ("workspace_id", jsonText row.workspaceId),
    ("workspace_kind", jsonText row.workspaceKind)]
  project := cleanText ((st.sessions.find? fun s => s.id == row.sessionId).bind Session.project)
  scopeId := cleanText row.scopeId

def existingMemoryFilterContext (st : Store) (importKey : String) :
    Option ExistingMemoryFilterContext :=
  ((cleanText (some importKey)).bind st.memoryByImportKey).map (memoryFilterContext st)

/-- A payload that may not be shared, without a grant of the peer on its personal scope. -/
def privateToPeer (rt : Runtime) (st : Store) (opScopeId : Option String)
    (payload : Option JsonObject) (peerDeviceId : Option String) : Bool :=
  (replicationOpRequiresPersonalScopeAuthorization opScopeId payload ||
    !syncVisibilityAllowed rt payload) &&
    !peerCanSyncPrivateOpByPersonalScopeGrant st opScopeId payload peerDeviceId

def legacyDefaultReassignAllowed (rt : Runtime) (st : Store) (op : ReplicationOp)
    (peerDeviceId : Option String) : Bool :=
  match existingMemoryFilterContext st op.entityId with
  | none => false
  | some existing =>
    !privateToPeer rt st op.scopeId (some existing.payload) peerDeviceId &&
      syncProjectAllowed st existing.project peerDeviceId

/-- A device may use a scope that is not of a local authority. -/
def usesSharedScope (st : Store) (deviceId scopeId : String) : Bool :=
  (getCachedScopeAuthorization st deviceId scopeId).authorized &&
    !(getCachedScopeAuthorization st deviceId scopeId).isLocalAuthority

/-! ### Skipped ops -/

/-- The `reason` of a skipped op. -/
inductive SkipReason where
  | scopeFilter
  | visibilityFilter
  | projectFilter
  deriving DecidableEq, Repr

/-- What is reported of a skipped op beside its identity. -/
structure OutboundRejection where
  reason : SkipReason
  project : Option String
  scopeId : Option String
  visibility : Option String
  deriving DecidableEq, Repr

/-- `{ reason: "scope_filter", scope_id }`. -/
def scopeRejection (scopeId : Option String) : OutboundRejection :=
  ⟨.scopeFilter, none, scopeId, none⟩

/-- `{ reason: "visibility_filter", visibility }`. -/
def visibilityRejection (payload : Option JsonObject) : OutboundRejection :=
  ⟨.visibilityFilter, none, none, ((payload.getD []).get "visibility").bind Json.asText⟩

/-- `{ reason: "project_filter", project }`. -/
def projectRejection (project : Option String) : OutboundRejection :=
  ⟨.projectFilter, project, none, none⟩

structure FilterReplicationSkipped where
  rejection : OutboundRejection
  opId : String
  createdAt : String
  entityType : EntityType
  entityId : String
  skippedCount : ℕ
  deriving DecidableEq, Repr

structure FilterReplicationOpsForSyncOptions where
  localDeviceId : Option String
  applyScopeFilter : Bool
  supportsReassignScope : Bool
  deriving DecidableEq, Repr

/-! ### The filter -/

/-- `existingDeleteRejection`: a delete without a payload is judged by the row as it is now. -/
def existingDeleteRejection (rt : Runtime) (st : Store) (op : ReplicationOp)
    (peerDeviceId : Option String) (applyScopeFilter : Bool) : Option OutboundRejection :=
  match existingMemoryFilterContext st op.entityId with
  | none => none
  | some existing =>
    if applyScopeFilter ∧ existing.scopeId.isSome ∧ existing.scopeId ≠ cleanText op.scopeId then
      some (scopeRejection (cleanText op.scopeId))
    else if privateToPeer rt st op.scopeId (some existing.payload) peerDeviceId then
      some (visibilityRejection (some existing.payload))
    else if syncProjectAllowed st existing.project peerDeviceId = false then
      some (projectRejection existing.project)
    else none

def accessCleanupTargetsPeer (op : ReplicationOp) (peerDeviceId : Option String) : Bool :=
  let cleanup := parseAccessCleanupPayload op
  cleanup.cleanupScopeId.isSome &&
    (cleanup.targetPeerDeviceId.isNone || cleanup.targetPeerDeviceId == cleanText peerDeviceId)

/-- The part of the filter that ends with the visibility and project rules: upserts, deletes with
a payload, and the new side of a move. -/
def regularOpRejection (rt : Runtime) (st : Store) (op : ReplicationOp)
    (peerDeviceId : Option String) (options : FilterReplicationOpsForSyncOptions) :
    Option OutboundRejection :=
  let payload := parsePayload op.payloadJson
  let regularScopeId := cleanText op.scopeId
  if regularScopeId.isNone ∨ regularScopeId = some defaultSyncScopeId then
    some (scopeRejection regularScopeId)
  else if options.applyScopeFilter ∧
      outboundScopeAllowed st op payload peerDeviceId options.localDeviceId = false then
    some (scopeRejection (cleanText op.scopeId))
  else if op.opType = .delete ∧ payload.isNone then
    match existingDeleteRejection rt st op peerDeviceId options.applyScopeFilter with
    | some rejection => some rejection
    | none =>
      if replicationOpRequiresPersonalScopeAuthorization op.scopeId payload ∧
          peerCanSyncPrivateOpByPersonalScopeGrant st op.scopeId payload peerDeviceId = false then
        some ⟨.visibilityFilter, none, none, none⟩
      else none
  else if privateToPeer rt st op.scopeId payload peerDeviceId then some (visibilityRejection payload)
  else
    let project := cleanJson ((payload.getD []).get "project")
    if syncProjectAllowed st project peerDeviceId = false then some (projectRejection project)
    else none

/-- The reassignment branch: the old side ends here, the new side goes on as a regular op. -/
def reassignOpRejection (rt : Runtime) (st : Store) (op : ReplicationOp)
    (peerDeviceId : Option String) (options : FilterReplicationOpsForSyncOptions) :
    Option OutboundRejection :=
  match parseReassignScopePayload op with
  | .error _ => some (scopeRejection (cleanText op.scopeId))
  | .ok reassignment =>
    let scopeAllowed := !options.applyScopeFilter ||
      (if reassignment.side = .old ∧ reassignment.oldScopeId = defaultSyncScopeId then
        legacyDefaultReassignAllowed rt st op peerDeviceId
      else outboundScopeAllowed st op (parsePayload op.payloadJson) peerDeviceId
        options.localDeviceId)
    if scopeAllowed = false then some (scopeRejection (cleanText op.scopeId))
    else if reassignment.side = .old then none
    else regularOpRejection rt st op peerDeviceId options

/-- The verdict of the filter on one op. -/
def outboundRejection (rt : Runtime) (st : Store) (op : ReplicationOp)
    (peerDeviceId : Option String) (options : FilterReplicationOpsForSyncOptions) :
    Option OutboundRejection :=
  if retirementBlocksMemoryOp st op then some (scopeRejection (cleanText op.scopeId))
  else if op.entityType ≠ .memoryItem then none
  else match op.opType with
    | .accessCleanup =>
      if accessCleanupTargetsPeer op peerDeviceId then none
      else some (scopeRejection (cleanJson
        ((nonNull (((parsePayload op.payloadJson).getD []).get "cleanup_scope_id")).or
          (op.scopeId.map Json.str))))
    | .reassignScope =>
      if options.supportsReassignScope = false then some (scopeRejection (cleanText op.scopeId))
      else reassignOpRejection rt st op peerDeviceId options
    | _ => regularOpRejection rt st op peerDeviceId options

/-- The accumulators of the filter loop. -/
structure FilterState where
  allowed : List ReplicationOp
  nextCursor : Option String
  skippedCount : ℕ
  skippedFirst : Option FilterReplicationSkipped

def addSkipped (state : FilterState) (op : ReplicationOp) (rejection : OutboundRejection) :
    FilterState :=
  { state with
    skippedCount := state.skippedCount + 1
    skippedFirst := state.skippedFirst.or
      (some ⟨rejection, op.opId, op.createdAt, op.entityType, op.entityId, 0⟩) }

/-- One turn of the filter loop; the cursor moves past skipped ops too. -/
def filterOp (rt : Runtime) (st : Store) (peerDeviceId : Option String)
    (options : FilterReplicationOpsForSyncOptions) (state : FilterState) (op : ReplicationOp) :
    FilterState :=
  match outboundRejection rt st op peerDeviceId options with
  | some rejection => { addSkipped state op rejection with nextCursor := some op.cursor }
  | none => { state with allowed := state.allowed ++ [op], nextCursor := some op.cursor }

/-- `filterReplicationOpsForSyncWithStatus`: the ops that pass, the cursor of the last op looked
at, and the first op skipped with the number of ops skipped. -/
def filterReplicationOpsForSyncWithStatus (rt : Runtime) (st : Store) (ops : List ReplicationOp)
    (peerDeviceId : Option String) (options : FilterReplicationOpsForSyncOptions) :
    List ReplicationOp × Option String × Option FilterReplicationSkipped :=
  let final := ops.foldl (filterOp rt st peerDeviceId options) ⟨[], none, 0, none⟩
  (final.allowed, final.nextCursor,
    final.skippedFirst.map fun first => { first with skippedCount := final.skippedCount })

/-- The number of ops a filter result reports as skipped. -/
def reportedSkips (skipped : Option FilterReplicationSkipped) : ℕ :=
  (skipped.map FilterReplicationSkipped.skippedCount).getD 0

section Loop

variable {rt : Runtime} {st : Store} {peerDeviceId : Option String}
  {options : FilterReplicationOpsForSyncOptions}

lemma foldl_filterOp_allowed (ops : List ReplicationOp) (state : FilterState) :
    (ops.foldl (filterOp rt st peerDeviceId options) state).allowed =
      state.allowed ++
        ops.filter fun op => (outboundRejection rt st op peerDeviceId options).isNone := by
  induction ops generalizing state with
  | nil => simp
  | cons op ops ih =>
    rw [List.foldl_cons, ih]
    cases h : outboundRejection rt st op peerDeviceId options with
    | none => simp [filterOp, h]
    | some rejection => simp [filterOp, addSkipped, h]

lemma foldl_filterOp_skippedCount (ops : List ReplicationOp) (state : FilterState) :
    (ops.foldl (filterOp rt st peerDeviceId options) state).skippedCount =
      state.skippedCount +
        (ops.filter fun op => (outboundRejection rt st op peerDeviceId options).isSome).length := by
  induction ops generalizing state with
  | nil => simp
  | cons op ops ih =>
    rw [List.foldl_cons, ih]
    cases h : outboundRejection rt st op peerDeviceId options with
    | none => simp [filterOp, h]
    | some rejection =>
      simp only [filterOp, addSkipped, h, List.filter_cons, Option.isSome_some, if_true,
        List.length_cons]
      omega

lemma foldl_filterOp_nextCursor (ops : List ReplicationOp) (state : FilterState) :
    (ops.foldl (filterOp rt st peerDeviceId options) state).nextCursor =
      (ops.getLast?.map ReplicationOp.cursor).or state.nextCursor := by
  induction ops generalizing state with
  | nil => simp
  | cons op ops ih =>
    have hcursor : (filterOp rt st peerDeviceId options state op).nextCursor = some op.cursor := by
      unfold filterOp
      split <;> rfl
    rw [List.foldl_cons, ih, hcursor, List.getLast?_cons]
    cases ops.getLast? with
    | none => rfl
    | some last => rfl

lemma foldl_filterOp_skippedFirst (ops : List ReplicationOp) (state : FilterState)
    (h : state.skippedFirst.isSome = true ↔ 0 < state.skippedCount) :
    (ops.foldl (filterOp rt st peerDeviceId options) state).skippedFirst.isSome = true ↔
      0 < (ops.foldl (filterOp rt st peerDeviceId options) state).skippedCount := by
  induction ops generalizing state with
  | nil => exact h
  | cons op ops ih =>
    rw [List.foldl_cons]
    refine ih _ ?_
    cases hrejection : outboundRejection rt st op peerDeviceId options with
    | none => simpa [filterOp, hrejection] using h
    | some rejection => simp [filterOp, addSkipped, hrejection]

lemma filterReplicationOps_allowed (ops : List ReplicationOp) :
    (filterReplicationOpsForSyncWithStatus rt st ops peerDeviceId options).1 =
      ops.filter fun op => (outboundRejection rt st op peerDeviceId options).isNone := by
  simp only [filterReplicationOpsForSyncWithStatus, foldl_filterOp_allowed, List.nil_append]

lemma mem_filterReplicationOps_iff {ops : List ReplicationOp} {op : ReplicationOp} :
    op ∈ (filterReplicationOpsForSyncWithStatus rt st ops peerDeviceId options).1 ↔
      op ∈ ops ∧ outboundRejection rt st op peerDeviceId options = none := by
  rw [filterReplicationOps_allowed, List.mem_filter, Option.isNone_iff_eq_none]

lemma filterReplicationOps_reportedSkips (ops : List ReplicationOp) :
    reportedSkips (filterReplicationOpsForSyncWithStatus rt st ops peerDeviceId options).2.2 =
      (ops.filter fun op => (outboundRejection rt st op peerDeviceId options).isSome).length := by
  have hfirst : (ops.foldl (filterOp rt st peerDeviceId options)
      ⟨[], none, 0, none⟩).skippedFirst.isSome = true ↔ _ :=
    foldl_filterOp_skippedFirst ops ⟨[], none, 0, none⟩ (by simp)
  rw [foldl_filterOp_skippedCount] at hfirst
  unfold reportedSkips filterReplicationOpsForSyncWithStatus
  cases hskipped : (ops.foldl (filterOp rt st peerDeviceId options)
      ⟨[], none, 0, none⟩).skippedFirst with
  | none =>
    rw [hskipped] at hfirst
    simp only [Option.isSome_none, Bool.false_eq_true, false_iff] at hfirst
    simp only [hskipped, Option.map_none, Option.getD_none]
    omega
  | some first => simp [hskipped, foldl_filterOp_skippedCount]

end Loop

lemma outboundScopeAllowed_iff {st : Store} {op : ReplicationOp} {payload : Option JsonObject}
    {scopeId : String} {peerDeviceId localDeviceId : Option String}
    (hscope : cleanText op.scopeId = some scopeId) :
    outboundScopeAllowed st op payload peerDeviceId localDeviceId = true ↔
      payloadContradictsOutboundScope op.scopeId payload = false ∧ scopeId ≠ defaultSyncScopeId ∧
        (∃ peer, cleanText peerDeviceId = some peer ∧ usesSharedScope st peer scopeId = true) ∧
        ∀ device ∈ cleanText localDeviceId, usesSharedScope st device scopeId = true := by
  have hlocal : (match cleanText localDeviceId with
      | none => true
      | some device => usesSharedScope st device scopeId) = true ↔
      ∀ device ∈ cleanText localDeviceId, usesSharedScope st device scopeId = true := by
    cases cleanText localDeviceId with
    | none => simp
    | some device => simp
  rw [← hlocal]
  unfold outboundScopeAllowed usesSharedScope
  rw [hscope]
  constructor
  · intro h
    have hcontra : payloadContradictsOutboundScope op.scopeId payload = false := by
      by_contra hcontra
      simp [hcontra] at h
    have hdefault : scopeId ≠ defaultSyncScopeId := by
      intro hdefault
      simp [hdefault] at h
    simp only [hcontra, hdefault, Bool.false_eq_true, if_false] at h
    cases hpeer : cleanText peerDeviceId with
    | none => simp [hpeer] at h
    | some peer =>
      simp only [hpeer] at h
      split_ifs at h with huses
      exact ⟨hcontra, hdefault, ⟨peer, rfl, by simpa using huses⟩, h⟩
  · rintro ⟨hcontra, hdefault, ⟨peer, hpeer, huses⟩, h⟩
    simp only [Bool.and_eq_true, Bool.not_eq_true'] at huses
    simp only [hcontra, hdefault, hpeer, huses.1, huses.2]
    simpa using h

/-! ### Ops without a payload -/

lemma personalScopeAuthorizationRequirement_none (opScopeId : Option String) :
    personalScopeAuthorizationRequirement opScopeId none =
      ⟨((cleanText opScopeId).filter (hasPrefix "personal:")).isSome,
        (cleanText opScopeId).filter (hasPrefix "personal:")⟩ := by
  have hfield : ∀ key, payloadOrMetadata [] key = none := fun _ => rfl
  have hscope : cleanJson (JsonObject.get [] "scope_id") = none := rfl
  unfold personalScopeAuthorizationRequirement
  simp only [Option.getD_none, hfield, hscope]
  cases hscopeId : (cleanText opScopeId).filter (hasPrefix "personal:") with
  | none => simp [hscopeId]
  | some scopeId => simp [hscopeId]

lemma payloadContradictsOutboundScope_none {opScopeId : Option String} {scopeId : String}
    (h : cleanText opScopeId = some scopeId) :
    payloadContradictsOutboundScope opScopeId none = false := by
  have hexplicit : payloadScopeId none = none := rfl
  unfold payloadContradictsOutboundScope
  rw [hexplicit, personalScopeAuthorizationRequirement_none, h]
  cases hpersonal : hasPrefix "personal:" scopeId with
  | false => simp [Option.filter, hpersonal]
  | true => simp [Option.filter, hpersonal]

lemma retirementBlocksMemoryOp_of_no_payload {st : Store} {op : ReplicationOp} {scopeId : String}
    (htype : op.entityType = .memoryItem) (hpayload : op.payloadJson = none)
    (hop : op.opType = .upsert ∨ op.opType = .delete) (hscope : cleanText op.scopeId = some scopeId) :
    retirementBlocksMemoryOp st op = isMemoryScopeRetired st op.entityId (some scopeId) := by
  have hcontra : retirementPayloadContradictsScope op scopeId
      ((parsePayload op.payloadJson).getD []) = false := by
    rw [hpayload]
    unfold retirementPayloadContradictsScope
    rcases hop with hop | hop
    · rw [hop]
      rfl
    · rw [hop]
      rfl
  have hknown : isMemoryScopeRetired st op.entityId (some scopeId) = true →
      hasMemoryScopeRetirement st op.entityId = true := by
    intro h
    simp only [isMemoryScopeRetired, List.any_eq_true, Bool.and_eq_true] at h
    obtain ⟨r, hr, hentity, -⟩ := h
    exact List.any_eq_true.mpr ⟨r, hr, hentity⟩
  unfold retirementBlocksMemoryOp
  rw [hpayload] at hcontra
  simp only [htype, hscope, hpayload]
  cases hretired : isMemoryScopeRetired st op.entityId (some scopeId) with
  | true => simp [hknown hretired]
  | false =>
    rcases hop with hop | hop
    · simpa [hop] using fun _ => hcontra
    · simpa [hop] using fun _ => hcontra

lemma requiresPersonalGrant_none_iff (st : Store) (opScopeId peerDeviceId : Option String) :
    ¬ (replicationOpRequiresPersonalScopeAuthorization opScopeId none = true ∧
        peerCanSyncPrivateOpByPersonalScopeGrant st opScopeId none peerDeviceId = false) ↔
      ∀ scopeId ∈ cleanText opScopeId, hasPrefix "personal:" scopeId = true →
        personalScopeGrantAuthorized st peerDeviceId
          (some (sliceFrom "personal:".length scopeId)) = true := by
  unfold replicationOpRequiresPersonalScopeAuthorization peerCanSyncPrivateOpByPersonalScopeGrant
  rw [personalScopeAuthorizationRequirement_none]
  cases cleanText opScopeId with
  | none => simp
  | some scopeId =>
    cases hpersonal : hasPrefix "personal:" scopeId with
    | false => simp [Option.filter, hpersonal]
    | true => simp [Option.filter, hpersonal]

lemma existingDeleteRejection_eq_none_iff {rt : Runtime} {st : Store} {op : ReplicationOp}
    {peerDeviceId : Option String} :
    existingDeleteRejection rt st op peerDeviceId true = none ↔
      ∀ existing ∈ existingMemoryFilterContext st op.entityId,
        (existing.scopeId = none ∨ existing.scopeId = cleanText op.scopeId) ∧
          privateToPeer rt st op.scopeId (some existing.payload) peerDeviceId = false ∧
          syncProjectAllowed st existing.project peerDeviceId = true := by
  unfold existingDeleteRejection
  cases existingMemoryFilterContext st op.entityId with
  | none => simp
  | some existing =>
    cases hscope : existing.scopeId with
    | none => by_cases hprivate : privateToPeer rt st op.scopeId (some existing.payload) peerDeviceId
              <;> simp [hscope, hprivate]
    | some scopeId =>
      by_cases hsame : some scopeId = cleanText op.scopeId
      · by_cases hprivate : privateToPeer rt st op.scopeId (some existing.payload) peerDeviceId
          <;> simp [hscope, hprivate, ← hsame]
      · simp [hscope, hsame]

/-- When the filter lets a delete without a payload pass. -/
theorem outboundRejection_delete_iff {rt : Runtime} {st : Store} {op : ReplicationOp}
    {scopeId : String} {peerDeviceId : Option String}
    {options : FilterReplicationOpsForSyncOptions} (htype : op.entityType = .memoryItem)
    (hop : op.opType = .delete) (hpayload : op.payloadJson = none)
    (hscope : cleanText op.scopeId = some scopeId) (hshared : scopeId ≠ defaultSyncScopeId)
    (hfilter : options.applyScopeFilter = true) :
    outboundRejection rt st op peerDeviceId options = none ↔
      isMemoryScopeRetired st op.entityId (some scopeId) = false ∧
        (∃ peer, cleanText peerDeviceId = some peer ∧ usesSharedScope st peer scopeId = true) ∧
        (∀ device ∈ cleanText options.localDeviceId, usesSharedScope st device scopeId = true) ∧
        existingDeleteRejection rt st op peerDeviceId true = none ∧
        (hasPrefix "personal:" scopeId = true →
          personalScopeGrantAuthorized st peerDeviceId
            (some (sliceFrom "personal:".length scopeId)) = true) := by
  have hretired : retirementBlocksMemoryOp st op = _ :=
    retirementBlocksMemoryOp_of_no_payload htype hpayload (.inr hop) hscope
  have hallowed : outboundScopeAllowed st op none peerDeviceId options.localDeviceId = true ↔ _ :=
    outboundScopeAllowed_iff hscope
  have hgrant := requiresPersonalGrant_none_iff st op.scopeId peerDeviceId
  simp only [payloadContradictsOutboundScope_none hscope, hshared, ne_eq, not_false_eq_true,
    true_and] at hallowed
  simp only [hscope, Option.mem_def, Option.some.injEq, forall_eq'] at hgrant
  have hnone : parsePayload none = none := rfl
  have hverdicts : outboundRejection rt st op peerDeviceId options = none ↔
      isMemoryScopeRetired st op.entityId (some scopeId) = false ∧
      outboundScopeAllowed st op none peerDeviceId options.localDeviceId = true ∧
      existingDeleteRejection rt st op peerDeviceId true = none ∧
      ¬ (replicationOpRequiresPersonalScopeAuthorization op.scopeId none = true ∧
        peerCanSyncPrivateOpByPersonalScopeGrant st op.scopeId none peerDeviceId = false) := by
    unfold outboundRejection regularOpRejection
    rw [hretired, htype, hop, hpayload, hnone, hscope, hfilter]
    by_cases hr : isMemoryScopeRetired st op.entityId (some scopeId) = true
    · simp [hr]
    · by_cases ha : outboundScopeAllowed st op none peerDeviceId options.localDeviceId = true
      · cases hexisting : existingDeleteRejection rt st op peerDeviceId true with
        | none => simp [hr, ha, hshared]
        | some rejection => simp [hr, ha, hshared]
      · simp [hr, ha, hshared]
  rw [hverdicts, hallowed, hgrant, and_assoc]

end Codemem

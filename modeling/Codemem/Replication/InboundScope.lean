import Codemem.Replication.Membership

/-!
# Inbound scope validation

A batch of inbound ops is validated as a whole before any of it is applied.  The local-only check
runs first and on every peer; the membership check (`validateInboundScopeOp`) runs unless the
caller disabled it.  One failing op rejects the batch, and only the rejection log is written.
-/

namespace Codemem

/-- What one op or one batch queues for the vector index. -/
inductive VectorOperation where
  | upsert
  | delete
  deriving DecidableEq, Repr

structure ApplyResult where
  applied : ℕ
  skipped : ℕ
  rejected : ℕ
  conflicts : ℕ
  errors : List String
  rejections : List InboundScopeRejection
  upsertMemoryIds : List ℕ
  deleteMemoryIds : List ℕ
  deriving DecidableEq, Repr

def emptyApplyResult : ApplyResult := ⟨0, 0, 0, 0, [], [], [], []⟩

structure InboundScopeValidationOptions where
  peerDeviceId : Option String
  enabled : Bool
  deriving DecidableEq

def InboundScopeRejectionReason.text : InboundScopeRejectionReason → String
  | .missingScope => "missing_scope"
  | .senderNotMember => "sender_not_member"
  | .receiverNotMember => "receiver_not_member"
  | .staleEpoch => "stale_epoch"
  | .scopeMismatch => "scope_mismatch"

def inboundScopeRejection (op : ReplicationOp) (reason : InboundScopeRejectionReason)
    (peerDeviceId scopeId : Option String) : InboundScopeRejection :=
  ⟨op.opId, op.entityType, op.entityId, scopeId, peerDeviceId, reason⟩

/-- A payload field, or the metadata field of the same name where it is missing. -/
def payloadOrMetadata (payload : JsonObject) (key : String) : Option String :=
  cleanJson ((nonNull (payload.get key)).or ((metadataRecord payload).get key))

def payloadContradictsInboundScope (opScopeId : String) (payload : JsonObject) : Bool :=
  let payloadScopeId := payloadOrMetadata payload "scope_id"
  let workspaceId := payloadOrMetadata payload "workspace_id"
  let workspaceKind := (payloadOrMetadata payload "workspace_kind").map toLowerCase
  let actorId := payloadOrMetadata payload "actor_id"
  payloadScopeId.any (· != opScopeId) ||
    workspaceId.any (fun w => hasPrefix "personal:" w && w != opScopeId) ||
    (workspaceKind == some "personal" && actorId.any fun a => "personal:" ++ a != opScopeId)

def authorizationFailureReason (auth : CachedScopeAuthorization)
    (notMemberReason : InboundScopeRejectionReason) : Option InboundScopeRejectionReason :=
  if auth.isLocalAuthority then some .missingScope
  else if auth.authorized then none
  else if auth.scope.isNone then some .staleEpoch
  else match auth.state with
    | .revoked | .staleEpoch | .scopeUnknown | .scopeInactive => some .staleEpoch
    | _ => some notMemberReason

/-- The two identity columns of an op both name the sender. -/
def authoredBy (op : ReplicationOp) (senderDeviceId : Option String) : Bool :=
  senderDeviceId.isSome && cleanText (some op.deviceId) == senderDeviceId &&
    cleanText (some op.clockDeviceId) == senderDeviceId

def validateLocalDefaultOldSideReassignment (st : Store) (op : ReplicationOp)
    (senderDeviceId : Option String) :
    Except InboundScopeRejectionReason ReassignScopePayload :=
  match parseReassignScopePayload op with
  | .error _ => .error .scopeMismatch
  | .ok reassignment =>
    if reassignment.side ≠ .old ∨ reassignment.oldScopeId ≠ defaultSyncScopeId then
      .error .scopeMismatch
    else if authoredBy op senderDeviceId = false then .error .senderNotMember
    else match st.memoryByImportKey op.entityId with
      | none => .ok reassignment
      | some existing =>
        if cleanText existing.originDeviceId ≠ senderDeviceId then .error .senderNotMember
        else .ok reassignment

/-- The membership part of `validateInboundScopeOp` for one scope. -/
def validateInboundMembership (st : Store) (op : ReplicationOp)
    (peerDeviceId : Option String) (senderDeviceId opScopeId authorizationScopeId : String)
    (receiverDeviceId : Option String)
    (requireReceiverMembership allowLocalAuthorityRetraction : Bool) :
    Option InboundScopeRejection :=
  let senderAuth := getCachedScopeAuthorization st senderDeviceId authorizationScopeId
  let senderFailure :=
    if allowLocalAuthorityRetraction ∧ (senderAuth.authorized = true ∨
        (senderAuth.state = .notAuthorized ∧ senderAuth.scope.isNone = true)) then none
    else authorizationFailureReason senderAuth .senderNotMember
  match senderFailure with
  | some reason => some (inboundScopeRejection op reason peerDeviceId (some opScopeId))
  | none =>
    if requireReceiverMembership = false then none
    else match receiverDeviceId with
      | none => some (inboundScopeRejection op .receiverNotMember peerDeviceId (some opScopeId))
      | some receiver =>
        (authorizationFailureReason (getCachedScopeAuthorization st receiver authorizationScopeId)
          .receiverNotMember).map fun reason =>
            inboundScopeRejection op reason peerDeviceId (some opScopeId)

def validateInboundScopeOp (st : Store) (op : ReplicationOp) (localDeviceId : String)
    (options : InboundScopeValidationOptions) : Option InboundScopeRejection :=
  let peerDeviceId := (cleanText options.peerDeviceId).or (cleanText (some op.deviceId))
  let senderDeviceId := peerDeviceId.or (cleanText (some op.clockDeviceId))
  if op.opType = .accessCleanup then
    if authoredBy op senderDeviceId then none
    else some (inboundScopeRejection op .senderNotMember peerDeviceId none)
  else match cleanText op.scopeId with
    | none => some (inboundScopeRejection op .missingScope peerDeviceId none)
    | some opScopeId =>
      if payloadContradictsInboundScope opScopeId ((parsePayload op.payloadJson).getD []) then
        some (inboundScopeRejection op .scopeMismatch peerDeviceId (some opScopeId))
      else match senderDeviceId with
        | none => some (inboundScopeRejection op .senderNotMember peerDeviceId (some opScopeId))
        | some sender =>
          if authoredBy op (some sender) = false then
            some (inboundScopeRejection op .senderNotMember peerDeviceId (some opScopeId))
          else if opScopeId = defaultSyncScopeId then
            -- the old side of a move out of the default scope is judged by its new scope
            match validateLocalDefaultOldSideReassignment st op (some sender) with
            | .error reason =>
              some (inboundScopeRejection op reason peerDeviceId (some opScopeId))
            | .ok reassignment =>
              validateInboundMembership st op peerDeviceId sender opScopeId
                reassignment.newScopeId (cleanText (some localDeviceId)) false true
          else
            validateInboundMembership st op peerDeviceId sender opScopeId opScopeId
              (cleanText (some localDeviceId)) true false

def validateInboundScopeBatch (st : Store) (ops : List ReplicationOp) (localDeviceId : String)
    (options : InboundScopeValidationOptions) : List InboundScopeRejection :=
  ops.filterMap fun op =>
    if cleanText options.peerDeviceId = none ∧ op.deviceId = localDeviceId then none
    else validateInboundScopeOp st op localDeviceId options

/-- The verdict of `validateInboundLocalOnlyBatch` on one op. -/
def validateInboundLocalOnlyOp (st : Store) (options : InboundScopeValidationOptions)
    (op : ReplicationOp) : Option InboundScopeRejection :=
  let peerDeviceId := cleanText options.peerDeviceId
  if op.entityType ≠ .memoryItem ∨ op.opType = .accessCleanup then none
  else match cleanText op.scopeId with
    | none => some (inboundScopeRejection op .missingScope peerDeviceId none)
    | some scopeId =>
      if scopeId ≠ defaultSyncScopeId then
        let scope := st.scopeById scopeId
        if scope.any (fun s => s.authorityType == .local) ∨
            (scope = none ∧ options.enabled = false) then
          some (inboundScopeRejection op .missingScope peerDeviceId (some scopeId))
        else none
      else if op.opType = .reassignScope then
        match validateLocalDefaultOldSideReassignment st op
            (peerDeviceId.or (cleanText (some op.clockDeviceId))) with
        | .ok _ => none
        | .error reason => some (inboundScopeRejection op reason peerDeviceId (some scopeId))
      else some (inboundScopeRejection op .scopeMismatch peerDeviceId (some scopeId))

def validateInboundLocalOnlyBatch (st : Store) (ops : List ReplicationOp)
    (options : InboundScopeValidationOptions) : List InboundScopeRejection :=
  ops.filterMap (validateInboundLocalOnlyOp st options)

/-- The rejections of a batch. -/
def inboundScopeRejections (st : Store) (ops : List ReplicationOp) (localDeviceId : String)
    (options : InboundScopeValidationOptions) : List InboundScopeRejection :=
  let localOnlyRejections := validateInboundLocalOnlyBatch st ops options
  if localOnlyRejections.isEmpty = false then localOnlyRejections
  else if options.enabled = false then []
  else validateInboundScopeBatch st ops localDeviceId options

/-- `rejectInboundScopeFailures`: nothing, or the rejecting result and the store with the
rejections logged. -/
def rejectInboundScopeFailures (st : Store) (ops : List ReplicationOp) (localDeviceId : String)
    (options : InboundScopeValidationOptions) : Option (Store × ApplyResult) :=
  let rejections := inboundScopeRejections st ops localDeviceId options
  if rejections.isEmpty then none
  else
    some ({ st with syncScopeRejections := st.syncScopeRejections ++ rejections },
      { emptyApplyResult with
        rejected := rejections.length
        rejections := rejections
        errors := rejections.map fun r =>
          "op " ++ r.opId ++ ": rejected — " ++ r.reason.text })

lemma rejectInboundScopeFailures_eq_none_iff (st : Store) (ops : List ReplicationOp)
    (localDeviceId : String) (options : InboundScopeValidationOptions) :
    rejectInboundScopeFailures st ops localDeviceId options = none ↔
      inboundScopeRejections st ops localDeviceId options = [] := by
  simp [rejectInboundScopeFailures]

lemma inboundScopeRejections_eq_nil_iff {st : Store} {ops : List ReplicationOp}
    {localDeviceId : String} {options : InboundScopeValidationOptions} :
    inboundScopeRejections st ops localDeviceId options = [] ↔
      validateInboundLocalOnlyBatch st ops options = [] ∧
        (options.enabled = true → validateInboundScopeBatch st ops localDeviceId options = []) := by
  unfold inboundScopeRejections
  cases hlocal : validateInboundLocalOnlyBatch st ops options with
  | cons rejection rest => simp
  | nil =>
    cases henabled : options.enabled with
    | false => simp
    | true => simp

/-- The scope validation of a caller, if any, lets an op pass. -/
def InboundAdmitted (st : Store) (localDeviceId : String)
    (validation : Option InboundScopeValidationOptions) (op : ReplicationOp) : Prop :=
  ∀ options ∈ validation, validateInboundLocalOnlyOp st options op = none ∧
    (options.enabled = true → validateInboundScopeOp st op localDeviceId options = none)

lemma inboundScopeRejections_eq_nil {st : Store} {ops : List ReplicationOp}
    {localDeviceId : String} {options : InboundScopeValidationOptions}
    (h : ∀ op ∈ ops, InboundAdmitted st localDeviceId (some options) op) :
    inboundScopeRejections st ops localDeviceId options = [] := by
  have hlocal : validateInboundLocalOnlyBatch st ops options = [] :=
    List.filterMap_eq_nil_iff.mpr fun op hop => (h op hop options rfl).1
  unfold inboundScopeRejections
  rw [hlocal]
  cases henabled : options.enabled with
  | false => simp
  | true =>
    have hscope : validateInboundScopeBatch st ops localDeviceId options = [] := by
      refine List.filterMap_eq_nil_iff.mpr fun op hop => ?_
      simp [(h op hop options rfl).2 henabled]
    simp [hscope]

lemma validateInboundMembership_congr {st st' : Store} (h : SameMembership st st')
    (op : ReplicationOp) (peer : Option String) (sender scopeId authorizationScopeId : String)
    (receiver : Option String) (requireReceiver allowRetraction : Bool) :
    validateInboundMembership st' op peer sender scopeId authorizationScopeId receiver
        requireReceiver allowRetraction =
      validateInboundMembership st op peer sender scopeId authorizationScopeId receiver
        requireReceiver allowRetraction := by
  simp only [validateInboundMembership, getCachedScopeAuthorization_congr h]

lemma validateLocalDefaultOldSideReassignment_of_ne {op : ReplicationOp}
    (hop : op.opType ≠ .reassignScope) (st : Store) (sender : Option String) :
    validateLocalDefaultOldSideReassignment st op sender = .error .scopeMismatch := by
  simp [validateLocalDefaultOldSideReassignment, parseReassignScopePayload, hop]

lemma validateInboundScopeOp_congr {st st' : Store} (h : SameMembership st st')
    {op : ReplicationOp} (hop : op.opType ≠ .reassignScope) (localDeviceId : String)
    (options : InboundScopeValidationOptions) :
    validateInboundScopeOp st' op localDeviceId options =
      validateInboundScopeOp st op localDeviceId options := by
  simp only [validateInboundScopeOp, validateInboundMembership_congr h,
    validateLocalDefaultOldSideReassignment_of_ne hop]

lemma validateInboundLocalOnlyOp_congr {st st' : Store} (h : SameMembership st st')
    {op : ReplicationOp} (hop : op.opType ≠ .reassignScope)
    (options : InboundScopeValidationOptions) :
    validateInboundLocalOnlyOp st' options op = validateInboundLocalOnlyOp st options op := by
  have hscope : st'.scopeById = st.scopeById := by
    funext scopeId
    simp only [Store.scopeById, h.scopes]
  unfold validateInboundLocalOnlyOp
  rw [hscope]
  simp only [validateLocalDefaultOldSideReassignment_of_ne hop]

lemma InboundAdmitted.congr {st st' : Store} {localDeviceId : String}
    {validation : Option InboundScopeValidationOptions} {op : ReplicationOp}
    (h : InboundAdmitted st localDeviceId validation op) (hsame : SameMembership st st')
    (hop : op.opType ≠ .reassignScope) : InboundAdmitted st' localDeviceId validation op := by
  intro options hoptions
  rw [validateInboundLocalOnlyOp_congr hsame hop, validateInboundScopeOp_congr hsame hop]
  exact h options hoptions

end Codemem

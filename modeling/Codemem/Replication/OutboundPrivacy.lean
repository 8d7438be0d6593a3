import Codemem.Replication.OutboundFilter

/-!
# Privacy of the outbound filter

What an op that leaves for a peer guarantees: it stands in a shared scope that the peer and this
device use, and a personal or private memory leaves only for a peer with a grant of its personal
scope.  Two kinds of op are judged otherwise: the clean-up of a peer's own copy, and the old side
of a move, which carries no content.
-/

namespace Codemem

/-! ### What an op reveals -/

/-- A payload that is personal or private, by its visibility or by its workspace. -/
def PersonallyMarked (payload : JsonObject) : Prop :=
  (payloadOrMetadata payload "visibility").map toLowerCase = some "private" ∨
    (payloadOrMetadata payload "visibility").map toLowerCase = some "personal" ∨
    (payloadOrMetadata payload "workspace_kind").map toLowerCase = some "personal" ∨
    ∃ workspaceId ∈ payloadOrMetadata payload "workspace_id",
      hasPrefix "personal:" workspaceId = true

/-- The memory an op is about: its payload, or for a delete without one the row as it is now. -/
def governingPayload (st : Store) (op : ReplicationOp) : Option JsonObject :=
  match parsePayload op.payloadJson with
  | some payload => some payload
  | none =>
    if op.opType = .delete then
      (existingMemoryFilterContext st op.entityId).map ExistingMemoryFilterContext.payload
    else none

def NamesPersonalScope (op : ReplicationOp) (payload : JsonObject) (scopeId : String) : Prop :=
  hasPrefix "personal:" scopeId = true ∧
    (cleanText op.scopeId = some scopeId ∨ cleanJson (payload.get "scope_id") = some scopeId ∨
      payloadOrMetadata payload "workspace_id" = some scopeId ∨
      (payloadOrMetadata payload "actor_id").map ("personal:" ++ ·) = some scopeId)

def HoldsPersonalGrant (st : Store) (op : ReplicationOp) (payload : JsonObject)
    (peerDeviceId : Option String) : Prop :=
  ∃ scopeId, NamesPersonalScope op payload scopeId ∧
    personalScopeGrantAuthorized st peerDeviceId
      (some (sliceFrom "personal:".length scopeId)) = true

/-- The old side of a valid move out of a scope that satisfies a condition. -/
def IsOldSide (op : ReplicationOp) (oldScope : String → Prop) : Prop :=
  ∃ reassignment, parseReassignScopePayload op = .ok reassignment ∧ reassignment.side = .old ∧
    oldScope reassignment.oldScopeId

/-- The op stands in a scope that is not the default one and not of a local authority, and the peer
and the local device are authorized for it. -/
structure InSharedScope (st : Store) (op : ReplicationOp) (peerDeviceId localDeviceId : Option String)
    (scopeId : String) : Prop where
  scope : cleanText op.scopeId = some scopeId
  notDefault : scopeId ≠ defaultSyncScopeId
  authority : ∃ scope, st.scopeById scopeId = some scope ∧ scope.authorityType ≠ .local
  peer : ∃ peer, cleanText peerDeviceId = some peer ∧
    (getCachedScopeAuthorization st peer scopeId).authorized = true
  device : ∀ device ∈ cleanText localDeviceId,
    (getCachedScopeAuthorization st device scopeId).authorized = true

/-! ### Personal scopes -/

section Personal

variable {rt : Runtime} {st : Store} {op : ReplicationOp} {payload : JsonObject}
  {peerDeviceId : Option String}

lemma requires_of_personallyMarked (opScopeId : Option String) (h : PersonallyMarked payload) :
    replicationOpRequiresPersonalScopeAuthorization opScopeId (some payload) = true := by
  have hsignal : (((payloadOrMetadata payload "visibility").map toLowerCase == some "private" ||
      (payloadOrMetadata payload "visibility").map toLowerCase == some "personal" ||
      (payloadOrMetadata payload "workspace_kind").map toLowerCase == some "personal" ||
      ((payloadOrMetadata payload "workspace_id").filter (hasPrefix "personal:")).isSome) : Bool) =
        true := by
    rcases h with h | h | h | ⟨workspaceId, hid, h⟩
    · simp [h]
    · simp [h]
    · simp [h]
    · rw [Option.mem_def] at hid
      simp [hid, Option.filter, h]
  unfold replicationOpRequiresPersonalScopeAuthorization personalScopeAuthorizationRequirement
  simp only [Option.getD_some, hsignal]
  split
  · rfl
  · split_ifs <;> rfl

lemma namesPersonalScope_of_requirement {scopeId : String}
    (h : (personalScopeAuthorizationRequirement op.scopeId (some payload)).scopeId =
      some scopeId) : NamesPersonalScope op payload scopeId := by
  unfold personalScopeAuthorizationRequirement at h
  simp only [Option.getD_some] at h
  split at h
  · cases h
  · rename_i first rest hcandidates
    split_ifs at h
    · obtain rfl : first = scopeId := Option.some.inj h
      have hmem : first ∈ first :: rest := List.mem_cons_self
      rw [← hcandidates, List.mem_filterMap] at hmem
      obtain ⟨candidate, hcandidate, hfilter⟩ := hmem
      obtain ⟨rfl, hpersonal⟩ := Option.filter_eq_some_iff.mp hfilter
      refine ⟨hpersonal, ?_⟩
      simp only [List.mem_cons, List.not_mem_nil, or_false] at hcandidate
      rcases hcandidate with h | h | h | h
      · exact .inl h.symm
      · exact .inr (.inl h.symm)
      · exact .inr (.inr (.inl (Option.filter_eq_some_iff.mp h.symm).1))
      · split_ifs at h
        exact .inr (.inr (.inr h.symm))

lemma holdsPersonalGrant_of_not_private (h : privateToPeer rt st op.scopeId (some payload)
    peerDeviceId = false) (hmarked : PersonallyMarked payload) :
    HoldsPersonalGrant st op payload peerDeviceId := by
  have hgrant : peerCanSyncPrivateOpByPersonalScopeGrant st op.scopeId (some payload)
      peerDeviceId = true := by
    unfold privateToPeer at h
    rw [requires_of_personallyMarked op.scopeId hmarked] at h
    simpa using h
  unfold peerCanSyncPrivateOpByPersonalScopeGrant at hgrant
  split at hgrant
  · cases hgrant
  · rename_i scopeId hscope
    exact ⟨scopeId, namesPersonalScope_of_requirement hscope, hgrant⟩

end Personal

/-! ### What a verdict says -/

section Verdict

variable {rt : Runtime} {st : Store} {op : ReplicationOp} {peerDeviceId : Option String}
  {options : FilterReplicationOpsForSyncOptions}

lemma inSharedScope_of_allowed {payload : Option JsonObject} {localDeviceId : Option String}
    {scopeId : String} (hscope : cleanText op.scopeId = some scopeId)
    (h : outboundScopeAllowed st op payload peerDeviceId localDeviceId = true) :
    InSharedScope st op peerDeviceId localDeviceId scopeId := by
  obtain ⟨-, hdefault, ⟨peer, hpeer, huses⟩, hlocal⟩ := (outboundScopeAllowed_iff hscope).mp h
  unfold usesSharedScope at huses hlocal
  simp only [Bool.and_eq_true, Bool.not_eq_true'] at huses hlocal
  obtain ⟨scope, hfound⟩ := Option.isSome_iff_exists.mp (scope_isSome_of_authorized huses.1)
  have hauthority : scope.authorityType ≠ .local := by
    have hnotLocal := huses.2
    unfold CachedScopeAuthorization.isLocalAuthority getCachedScopeAuthorization at hnotLocal
    simpa [hfound] using hnotLocal
  rw [trim_of_cleanText hscope] at hfound
  exact ⟨hscope, hdefault, ⟨scope, hfound, hauthority⟩, ⟨peer, hpeer, huses.1⟩,
    fun device hdevice => (hlocal device hdevice).1⟩

/-- A regular op passes only in a shared scope, and a personal or private memory only with a
grant. -/
lemma regularOp_private (hfilter : options.applyScopeFilter = true)
    (h : regularOpRejection rt st op peerDeviceId options = none) :
    (∃ scopeId, InSharedScope st op peerDeviceId options.localDeviceId scopeId) ∧
      ∀ payload ∈ governingPayload st op, PersonallyMarked payload →
        HoldsPersonalGrant st op payload peerDeviceId := by
  unfold regularOpRejection at h
  simp only [hfilter, true_and] at h
  have hregular : ¬ ((cleanText op.scopeId).isNone = true ∨
      cleanText op.scopeId = some defaultSyncScopeId) := by
    intro hbad
    rw [if_pos hbad] at h
    cases h
  have hallowed : outboundScopeAllowed st op (parsePayload op.payloadJson) peerDeviceId
      options.localDeviceId ≠ false := by
    intro hbad
    rw [if_neg hregular, if_pos hbad] at h
    cases h
  rw [if_neg hregular, if_neg hallowed] at h
  obtain ⟨scopeId, hscope⟩ := Option.ne_none_iff_exists'.mp
    (fun hnone => hregular (.inl (Option.isNone_iff_eq_none.mpr hnone)))
  refine ⟨⟨scopeId, inSharedScope_of_allowed hscope (by simpa using hallowed)⟩, ?_⟩
  intro payload hpayload hmarked
  by_cases hdelete : op.opType = .delete ∧ (parsePayload op.payloadJson).isNone = true
  · have hnone : parsePayload op.payloadJson = none := Option.isNone_iff_eq_none.mp hdelete.2
    have hexisting : existingDeleteRejection rt st op peerDeviceId true = none := by
      rw [if_pos hdelete] at h
      cases hrejection : existingDeleteRejection rt st op peerDeviceId true with
      | none => rfl
      | some rejection => simp [hrejection] at h
    rw [governingPayload, hnone] at hpayload
    simp only [hdelete.1, if_true, Option.mem_def, Option.map_eq_some_iff] at hpayload
    obtain ⟨existing, hfound, rfl⟩ := hpayload
    exact holdsPersonalGrant_of_not_private
      (existingDeleteRejection_eq_none_iff.mp hexisting existing hfound).2.1 hmarked
  · have hprivate : privateToPeer rt st op.scopeId (parsePayload op.payloadJson) peerDeviceId ≠
        true := by
      intro hbad
      rw [if_neg hdelete, if_pos hbad] at h
      cases h
    cases hparsed : parsePayload op.payloadJson with
    | none =>
      have hnot : op.opType ≠ .delete := fun heq => hdelete ⟨heq, by rw [hparsed]; rfl⟩
      simp [governingPayload, hparsed, hnot] at hpayload
    | some parsed =>
      rw [governingPayload, hparsed, Option.mem_some_iff] at hpayload
      subst hpayload
      rw [hparsed] at hprivate
      exact holdsPersonalGrant_of_not_private (eq_false_of_ne_true hprivate) hmarked

/-- Any op of a memory that passes: a clean-up for the peer, an old side, or a regular op. -/
lemma outboundRejection_private (hfilter : options.applyScopeFilter = true)
    (htype : op.entityType = .memoryItem)
    (h : outboundRejection rt st op peerDeviceId options = none) :
    (op.opType = .accessCleanup ∧ accessCleanupTargetsPeer op peerDeviceId = true) ∨
      IsOldSide op (· = defaultSyncScopeId) ∨
      (∃ scopeId, InSharedScope st op peerDeviceId options.localDeviceId scopeId) ∧
        (IsOldSide op (· ≠ defaultSyncScopeId) ∨ ∀ payload ∈ governingPayload st op,
          PersonallyMarked payload → HoldsPersonalGrant st op payload peerDeviceId) := by
  have hregular : regularOpRejection rt st op peerDeviceId options = none →
      (∃ scopeId, InSharedScope st op peerDeviceId options.localDeviceId scopeId) ∧
        (IsOldSide op (· ≠ defaultSyncScopeId) ∨ ∀ payload ∈ governingPayload st op,
          PersonallyMarked payload → HoldsPersonalGrant st op payload peerDeviceId) := by
    intro hpass
    obtain ⟨hscope, hgrant⟩ := regularOp_private hfilter hpass
    exact ⟨hscope, .inr hgrant⟩
  unfold outboundRejection at h
  have hretired : retirementBlocksMemoryOp st op ≠ true := by
    intro hbad
    rw [if_pos hbad] at h
    cases h
  rw [if_neg hretired, if_neg (not_not.mpr htype)] at h
  cases hop : op.opType with
  | accessCleanup =>
    simp only [hop] at h
    split_ifs at h with htargets
    exact .inl ⟨rfl, htargets⟩
  | reassignScope =>
    simp only [hop] at h
    split_ifs at h with hsupports
    unfold reassignOpRejection at h
    cases hparsed : parseReassignScopePayload op with
    | error message => simp [hparsed] at h
    | ok reassignment =>
      simp only [hparsed, hfilter, Bool.not_true, Bool.false_or] at h
      by_cases hside : reassignment.side = .old
      · by_cases hold : reassignment.oldScopeId = defaultSyncScopeId
        · exact .inr (.inl ⟨reassignment, hparsed, hside, hold⟩)
        · have hscope := (describes_of_parseReassignScopePayload hparsed).scope
          simp only [hside, hold, and_false, if_false, if_true] at h hscope
          split_ifs at h with hallowed
          exact .inr (.inr ⟨⟨_, inSharedScope_of_allowed hscope (by simpa using hallowed)⟩,
            .inl ⟨reassignment, hparsed, hside, hold⟩⟩)
      · simp only [hside, false_and, if_false] at h
        split_ifs at h with hallowed
        exact .inr (.inr (hregular h))
  | upsert =>
    simp only [hop] at h
    exact .inr (.inr (hregular h))
  | delete =>
    simp only [hop] at h
    exact .inr (.inr (hregular h))
  | other name =>
    simp only [hop] at h
    exact .inr (.inr (hregular h))

end Verdict

/-! ### The whole batch -/

/-- Every op that leaves is covered by the scope and personal rules, and the result accounts for
the whole batch: the ops that pass keep their order, the others are counted, and the cursor is the
one of the last op. -/
theorem outboundFilter_private (rt : Runtime) (st : Store) (ops : List ReplicationOp)
    (peerDeviceId : Option String) (options : FilterReplicationOpsForSyncOptions) :
    (options.applyScopeFilter = true →
      ∀ op ∈ (filterReplicationOpsForSyncWithStatus rt st ops peerDeviceId options).1,
        op.entityType = .memoryItem →
        (op.opType = .accessCleanup ∧ accessCleanupTargetsPeer op peerDeviceId = true) ∨
          IsOldSide op (· = defaultSyncScopeId) ∨
          (∃ scopeId, InSharedScope st op peerDeviceId options.localDeviceId scopeId) ∧
            (IsOldSide op (· ≠ defaultSyncScopeId) ∨ ∀ payload ∈ governingPayload st op,
              PersonallyMarked payload → HoldsPersonalGrant st op payload peerDeviceId)) ∧
      (filterReplicationOpsForSyncWithStatus rt st ops peerDeviceId options).1.Sublist ops ∧
      (filterReplicationOpsForSyncWithStatus rt st ops peerDeviceId options).1.length +
          reportedSkips (filterReplicationOpsForSyncWithStatus rt st ops peerDeviceId options).2.2 =
        ops.length ∧
      (filterReplicationOpsForSyncWithStatus rt st ops peerDeviceId options).2.1 =
        ops.getLast?.map ReplicationOp.cursor := by
  refine ⟨?_, ?_, ?_, ?_⟩
  · intro hfilter op hop htype
    exact outboundRejection_private hfilter htype (mem_filterReplicationOps_iff.mp hop).2
  · rw [filterReplicationOps_allowed]
    exact List.filter_sublist
  · rw [filterReplicationOps_allowed, filterReplicationOps_reportedSkips]
    have hsplit := ops.length_eq_length_filter_add fun op =>
      (outboundRejection rt st op peerDeviceId options).isNone
    simpa only [Option.not_isNone] using hsplit.symm
  · simp [filterReplicationOpsForSyncWithStatus, foldl_filterOp_nextCursor]

/-- A runtime for payloads of plain texts. -/
def sampleRuntime : Runtime := ⟨fun _ => none, fun _ => "", fun _ => "", id⟩

/-- A store without memories; `dev` and `peer` are members of the scope `team`. -/
def sampleTeam : Store :=
  { Store.empty with
    replicationScopes := [⟨"team", .coordinator, 1, "active"⟩]
    scopeMemberships := [⟨"team", "dev", "active", 1⟩, ⟨"team", "peer", "active", 1⟩] }

/-- An op on memory `m1` in a scope, with a given payload. -/
def samplePayloadOp (opType : OpType) (scopeId : String) (payload : JsonObject) :
    ReplicationOp where
  opId := "op"
  entityType := .memoryItem
  entityId := "m1"
  opType := opType
  payloadJson := some (toJson payload)
  clockRev := 2
  clockUpdatedAt := "2026-01-02"
  clockDeviceId := "dev"
  deviceId := "dev"
  createdAt := "2026-01-02"
  scopeId := some scopeId

/-- The payload of the old side of a move from `team` to `other`, marked private. -/
def samplePrivateMove : JsonObject :=
  [("operation_id", .str "o"), ("memory_id", .str "m1"), ("old_scope_id", .str "team"),
    ("new_scope_id", .str "other"), ("revision", .num 2), ("side", .str "old"),
    ("visibility", .str "private")]

/-- The three kinds of op beyond the rules: an old side marked private leaves `team` for a peer
without any grant, a clean-up that names no peer leaves for every peer, and with the scope filter
switched off an upsert leaves for a peer that is in no scope at all. -/
theorem outboundFilter_exceptions :
    ((filterReplicationOpsForSyncWithStatus sampleRuntime sampleTeam
        [samplePayloadOp .reassignScope "team" samplePrivateMove] (some "peer")
        ⟨some "dev", true, true⟩).1.length = 1 ∧
      PersonallyMarked samplePrivateMove ∧
      ¬ HoldsPersonalGrant sampleTeam (samplePayloadOp .reassignScope "team" samplePrivateMove)
        samplePrivateMove (some "peer")) ∧
    (filterReplicationOpsForSyncWithStatus sampleRuntime sampleTeam
      [samplePayloadOp .accessCleanup "team" [("cleanup_scope_id", .str "team")]]
      (some "stranger") ⟨some "dev", true, true⟩).1.length = 1 ∧
    ((filterReplicationOpsForSyncWithStatus sampleRuntime sampleTeam
        [samplePayloadOp .upsert "team" [("visibility", .str "shared")]] (some "stranger")
        ⟨some "dev", false, true⟩).1.length = 1 ∧
      (getCachedScopeAuthorization sampleTeam "stranger" "team").authorized = false) := by
  refine ⟨⟨by decide, .inl (by decide), ?_⟩, by decide, by decide, by decide⟩
  rintro ⟨scopeId, ⟨hpersonal, hnamed⟩, -⟩
  have hteam : cleanText (some "team") = some "team" := rfl
  rcases hnamed with h | h | h | h
  · obtain rfl : "team" = scopeId := Option.some.inj (hteam.symm.trans h)
    exact absurd hpersonal (by decide)
  · cases h
  · cases h
  · cases h

/-- An upsert that leaves for a member stands in a shared scope of both devices. -/
theorem outboundFilter_private_member :
    ∃ scopeId, InSharedScope sampleTeam (samplePayloadOp .upsert "team" []) (some "peer")
      (some "dev") scopeId := by
  have hpasses : samplePayloadOp .upsert "team" [] ∈
      (filterReplicationOpsForSyncWithStatus sampleRuntime sampleTeam
        [samplePayloadOp .upsert "team" []] (some "peer")
        ⟨some "dev", true, true⟩).1 :=
    mem_filterReplicationOps_iff.mpr ⟨List.mem_singleton_self _, rfl⟩
  rcases (outboundFilter_private _ _ _ _ _).1 rfl _ hpasses rfl with h | ⟨_, h, -⟩ | ⟨h, -⟩
  · cases h.1
  · cases h
  · exact h

end Codemem

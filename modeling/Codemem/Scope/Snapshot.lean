import Codemem.Foundation.Fallible
import Codemem.Replication.Payload

/-!
# Fetched scope snapshots

A coordinator serves a catalog of scopes and, for each of them, the complete list of its current
members with the evidence of their enrollment.  Both arrive as unknown JSON.  Everything is checked
before it may change the cache, and a batch is what is left of one snapshot after the checks.
-/

namespace Codemem

/-- `CoordinatorScope`; also a row of `replication_scopes`. -/
structure CoordinatorScope where
  scopeId : String
  label : String
  kind : String
  authorityType : String
  coordinatorId : Option String
  groupId : Option String
  manifestIssuerDeviceId : Option String
  membershipEpoch : ℤ
  manifestHash : Option String
  status : String
  createdAt : String
  updatedAt : String
  deriving DecidableEq

/-- `CoordinatorScopeMembership`; also a row of `scope_memberships`. -/
structure CoordinatorScopeMembership where
  scopeId : String
  deviceId : String
  role : String
  status : String
  membershipEpoch : ℤ
  coordinatorId : Option String
  groupId : Option String
  manifestIssuerDeviceId : Option String
  manifestHash : Option String
  signedManifestJson : Option String
  updatedAt : String
  deriving DecidableEq

def CoordinatorScopeMembership.key (membership : CoordinatorScopeMembership) : String × String :=
  (membership.scopeId, membership.deviceId)

/-- `CoordinatorEnrollment`, as far as it is captured. -/
structure CoordinatorEnrollment where
  groupId : String
  deviceId : String
  publicKey : String
  fingerprint : String
  identityId : Option String
  displayName : Option String
  enabled : ℤ
  createdAt : String
  deriving DecidableEq

/-- One item of a snapshot: a member, its enrollment and the id of its key. -/
structure SnapshotMember where
  membership : CoordinatorScopeMembership
  enrollment : CoordinatorEnrollment
  keyId : String
  deriving DecidableEq

structure ScopeMembershipSnapshot where
  scope : CoordinatorScope
  items : List SnapshotMember
  deriving DecidableEq

/-! ### Moving forward -/

/-- A membership row moves forward: its epoch does not fall, and it leaves the revoked state only
for a later epoch. -/
structure MembershipAdvances (row row' : CoordinatorScopeMembership) : Prop where
  epoch : row.membershipEpoch ≤ row'.membershipEpoch
  revoked : row.status = "revoked" →
    row'.status = "revoked" ∨ row.membershipEpoch < row'.membershipEpoch

def ScopeAdvances (row row' : CoordinatorScope) : Prop := row.membershipEpoch ≤ row'.membershipEpoch

namespace MembershipAdvances

lemma refl (row : CoordinatorScopeMembership) : MembershipAdvances row row := ⟨le_rfl, .inl⟩

lemma trans (a b c : CoordinatorScopeMembership) (h : MembershipAdvances a b)
    (h' : MembershipAdvances b c) : MembershipAdvances a c := by
  have hepoch := h.epoch
  have hepoch' := h'.epoch
  refine ⟨hepoch.trans hepoch', fun hrevoked => ?_⟩
  rcases h.revoked hrevoked with hrevoked' | hlater
  · rcases h'.revoked hrevoked' with hrevoked'' | hlater
    · exact .inl hrevoked''
    · exact .inr (by omega)
  · exact .inr (by omega)

end MembershipAdvances

lemma ScopeAdvances.refl (row : CoordinatorScope) : ScopeAdvances row row := le_refl _

lemma ScopeAdvances.trans (a b c : CoordinatorScope) (h : ScopeAdvances a b)
    (h' : ScopeAdvances b c) : ScopeAdvances a c := le_trans h h'

/-! ### Records -/

/-- `SCOPE_FIELDS`. -/
def scopeFields : List String :=
  ["scope_id", "label", "kind", "authority_type", "coordinator_id", "group_id",
   "manifest_issuer_device_id", "membership_epoch", "manifest_hash", "status", "created_at",
   "updated_at"]

/-- `MEMBERSHIP_FIELDS`. -/
def membershipFields : List String :=
  ["scope_id", "device_id", "role", "status", "membership_epoch", "coordinator_id", "group_id",
   "manifest_issuer_device_id", "manifest_hash", "signed_manifest_json", "updated_at"]

/-- `ENROLLMENT_FIELDS`. -/
def enrollmentFields : List String :=
  ["group_id", "device_id", "public_key", "fingerprint", "identity_id", "display_name", "enabled",
   "created_at"]

/-- `NULLABLE_FIELDS`. -/
def nullableFields : List String :=
  ["coordinator_id", "group_id", "manifest_issuer_device_id", "manifest_hash",
   "signed_manifest_json", "identity_id", "display_name"]

/-- `value.includes("\0")`. -/
def hasNul (s : String) : Bool := s.toList.any fun c => c.toNat == 0

/-- `text(value)`. -/
def isRecordText : Option Json → Bool
  | some (.str s) => !s.toList.isEmpty && !hasNul s
  | _ => false

def validField (field : String) (value : Option Json) : Bool :=
  if field = "membership_epoch" ∨ field = "enabled" then (safeInteger value).any (0 ≤ ·)
  else if field = "public_key" then (value.bind Json.asText).isSome
  else if field = "display_name" ∨ field = "identity_id" then
    match value with
    | some .null => true
    | some (.str s) => !hasNul s
    | _ => false
  else match value with
    | some .null => nullableFields.contains field
    | value => isRecordText value

def requireScopeAuthorizationRecord (row : Option Json) (fields : List String) :
    Except String JsonObject :=
  match row.bind Json.asObject with
  | none => .error "scope_authorization_unavailable"
  | some fieldValues =>
    if fields.all fun field => validField field (fieldValues.get field) then .ok fieldValues
    else .error "scope_authorization_unavailable"

def recordText (record : JsonObject) (field : String) : String :=
  ((record.get field).bind Json.asText).getD ""

/-- The text of a checked field that may be `null`. -/
def recordNullable (record : JsonObject) (field : String) : Option String :=
  (record.get field).bind Json.asText

/-- The number of a checked field. -/
def recordInteger (record : JsonObject) (field : String) : ℤ :=
  (safeInteger (record.get field)).getD 0

/-- The scope a checked record describes. -/
def scopeOfRecord (record : JsonObject) : CoordinatorScope where
  scopeId := recordText record "scope_id"
  label := recordText record "label"
  kind := recordText record "kind"
  authorityType := recordText record "authority_type"
  coordinatorId := recordNullable record "coordinator_id"
  groupId := recordNullable record "group_id"
  manifestIssuerDeviceId := recordNullable record "manifest_issuer_device_id"
  membershipEpoch := recordInteger record "membership_epoch"
  manifestHash := recordNullable record "manifest_hash"
  status := recordText record "status"
  createdAt := recordText record "created_at"
  updatedAt := recordText record "updated_at"

/-- The membership a checked record describes. -/
def membershipOfRecord (record : JsonObject) : CoordinatorScopeMembership where
  scopeId := recordText record "scope_id"
  deviceId := recordText record "device_id"
  role := recordText record "role"
  status := recordText record "status"
  membershipEpoch := recordInteger record "membership_epoch"
  coordinatorId := recordNullable record "coordinator_id"
  groupId := recordNullable record "group_id"
  manifestIssuerDeviceId := recordNullable record "manifest_issuer_device_id"
  manifestHash := recordNullable record "manifest_hash"
  signedManifestJson := recordNullable record "signed_manifest_json"
  updatedAt := recordText record "updated_at"

/-- The enrollment a checked record describes. -/
def enrollmentOfRecord (record : JsonObject) : CoordinatorEnrollment where
  groupId := recordText record "group_id"
  deviceId := recordText record "device_id"
  publicKey := recordText record "public_key"
  fingerprint := recordText record "fingerprint"
  identityId := recordNullable record "identity_id"
  displayName := recordNullable record "display_name"
  enabled := recordInteger record "enabled"
  createdAt := recordText record "created_at"

/-! ### Writing a snapshot -/

def scopeJson (scope : CoordinatorScope) : Json :=
  .obj [("scope_id", .str scope.scopeId), ("label", .str scope.label), ("kind", .str scope.kind),
    ("authority_type", .str scope.authorityType), ("coordinator_id", jsonText scope.coordinatorId),
    ("group_id", jsonText scope.groupId),
    ("manifest_issuer_device_id", jsonText scope.manifestIssuerDeviceId),
    ("membership_epoch", .num scope.membershipEpoch),
    ("manifest_hash", jsonText scope.manifestHash), ("status", .str scope.status),
    ("created_at", .str scope.createdAt), ("updated_at", .str scope.updatedAt)]

def membershipJson (membership : CoordinatorScopeMembership) : Json :=
  .obj [("scope_id", .str membership.scopeId), ("device_id", .str membership.deviceId),
    ("role", .str membership.role), ("status", .str membership.status),
    ("membership_epoch", .num membership.membershipEpoch),
    ("coordinator_id", jsonText membership.coordinatorId),
    ("group_id", jsonText membership.groupId),
    ("manifest_issuer_device_id", jsonText membership.manifestIssuerDeviceId),
    ("manifest_hash", jsonText membership.manifestHash),
    ("signed_manifest_json", jsonText membership.signedManifestJson),
    ("updated_at", .str membership.updatedAt)]

def enrollmentJson (enrollment : CoordinatorEnrollment) : Json :=
  .obj [("group_id", .str enrollment.groupId), ("device_id", .str enrollment.deviceId),
    ("public_key", .str enrollment.publicKey), ("fingerprint", .str enrollment.fingerprint),
    ("identity_id", jsonText enrollment.identityId),
    ("display_name", jsonText enrollment.displayName), ("enabled", .num enrollment.enabled),
    ("created_at", .str enrollment.createdAt)]

def snapshotJson (snapshot : ScopeMembershipSnapshot) : Json :=
  .obj [("authorization_version", .num 1), ("scope", scopeJson snapshot.scope),
    ("items", .arr (snapshot.items.map fun item =>
      .obj [("membership", membershipJson item.membership),
        ("enrollment", enrollmentJson item.enrollment), ("key_id", .str item.keyId)]))]

/-! ### Normalization -/

/-- The source of a scope does not authorize anyone. -/
inductive ScopeAuthorizationError where
  | scopeSourceMismatch
  | scopeInactive
  deriving DecidableEq, Repr

def scopeAuthorizationError (scope : CoordinatorScope) (groupId : String) :
    Option ScopeAuthorizationError :=
  if scope.groupId ≠ some groupId ∨ scope.authorityType ≠ "coordinator" then
    some .scopeSourceMismatch
  else if scope.status ≠ "active" then some .scopeInactive
  else none

def isCurrentScopeMember (scope : CoordinatorScope) (member : CoordinatorScopeMembership) : Bool :=
  if member.scopeId ≠ scope.scopeId ∨ member.status ≠ "active" ∨
      member.membershipEpoch < scope.membershipEpoch then false
  else
    [(member.groupId, scope.groupId), (member.coordinatorId, scope.coordinatorId),
      (member.manifestIssuerDeviceId, scope.manifestIssuerDeviceId),
      (member.manifestHash, scope.manifestHash)].all fun field =>
        field.1.isNone || field.1 == field.2

/-- `requireEnvelope`: the fields of the envelope and its items. -/
def requireEnvelope (raw : Json) (versionField : String) :
    Except String (JsonObject × List Json) :=
  match raw.asObject with
  | none => .error "Invalid current scope snapshot."
  | some envelope =>
    match envelope.get versionField, envelope.get "items" with
    | some (.num q), some (.arr items) =>
      if q = 1 then .ok (envelope, items)
      else .error "Current scope snapshot version 1 and items required."
    | _, _ => .error "Current scope snapshot version 1 and items required."

def requireScope (raw : Option Json) (groupId : String) : Except String CoordinatorScope := do
  let record ← requireScopeAuthorizationRecord raw scopeFields
  let scope := scopeOfRecord record
  if (scopeAuthorizationError scope groupId).isSome then .error "Invalid scope source or status."
  else .ok scope

def normalizeScopeCatalog (raw : Json) (groupId : String) :
    Except String (List CoordinatorScope) := do
  let (_, items) ← requireEnvelope raw "version"
  let scopes ← items.mapM fun item => requireScope (some item) groupId
  if (scopes.map CoordinatorScope.scopeId).Nodup then .ok scopes
  else .error "Duplicate scope in catalog."

section Normalize

-- the digest of the blob of a public key, if it is an Ed25519 key
variable (keyIdOf : String → Option String)

def requireMember (raw : Json) (scope : CoordinatorScope) : Except String SnapshotMember :=
  match raw.asObject with
  | none => .error "Invalid current scope member."
  | some member => do
    let membershipRecord ← requireScopeAuthorizationRecord (member.get "membership") membershipFields
    let enrollmentRecord ← requireScopeAuthorizationRecord (member.get "enrollment") enrollmentFields
    let membership := membershipOfRecord membershipRecord
    let enrollment := enrollmentOfRecord enrollmentRecord
    match keyIdOf enrollment.publicKey, (member.get "key_id").bind Json.asText with
    | some keyId, some memberKeyId =>
      if isCurrentScopeMember scope membership = false ∨ enrollment.enabled ≠ 1 ∨
          some enrollment.groupId ≠ scope.groupId ∨ enrollment.deviceId ≠ membership.deviceId ∨
          keyId ≠ memberKeyId then .error "Current scope member evidence mismatch."
      else .ok ⟨membership, enrollment, memberKeyId⟩
    | _, _ => .error "Current scope member evidence mismatch."

/-- `CurrentScopeBatch`: what is left of a snapshot after the checks. -/
structure CurrentScopeBatch where
  scope : CoordinatorScope
  memberships : List CoordinatorScopeMembership
  sourceCoordinatorId : Option String
  evidence : ScopeMembershipSnapshot
  deriving DecidableEq

/-- `normalizeScopeSnapshot`: the scope and the memberships are rebound to the configured
authority, the evidence keeps the source as it came. -/
def normalizeScopeSnapshot (raw : Json) (catalogScope : CoordinatorScope)
    (groupId coordinatorId : String) : Except String CurrentScopeBatch := do
  let (envelope, items) ← requireEnvelope raw "authorization_version"
  let source ← requireScope (envelope.get "scope") groupId
  if source.scopeId ≠ catalogScope.scopeId ∨
      source.membershipEpoch < catalogScope.membershipEpoch ∨
      source.coordinatorId ≠ catalogScope.coordinatorId then
    .error "Current scope snapshot source mismatch."
  else
    let members ← items.mapM fun item => requireMember keyIdOf item source
    if (members.map fun member => member.membership.deviceId).Nodup then
      .ok
        { scope := { source with coordinatorId := some coordinatorId }
          memberships := members.map fun member =>
            { member.membership with coordinatorId := some coordinatorId, groupId := some groupId }
          sourceCoordinatorId := source.coordinatorId
          evidence := ⟨source, members⟩ }
    else .error "Duplicate device in current scope snapshot."

/-- `ScopeMembershipCacheAuthority`. -/
structure CacheAuthority where
  coordinatorId : String
  groupId : String
  deriving DecidableEq, Repr

/-- What the two fetchers answer: the catalog, and the snapshot of each scope. -/
structure FetchedScopes where
  catalog : Except String Json
  snapshot : String → Except String Json

def gatherCurrentSnapshots (fetched : FetchedScopes) (authority : CacheAuthority) :
    Except String (List CurrentScopeBatch) := do
  let catalog ← normalizeScopeCatalog (← fetched.catalog) authority.groupId
  catalog.mapM fun scope => do
    normalizeScopeSnapshot keyIdOf (← fetched.snapshot scope.scopeId) scope authority.groupId
      authority.coordinatorId

/-! ### What the checks guarantee -/

/-- A batch that came out of the checks, under its authority. -/
structure CurrentScopeBatch.Checked (batch : CurrentScopeBatch) (authority : CacheAuthority) :
    Prop where
  coordinator : batch.scope.coordinatorId = some authority.coordinatorId
  group : batch.scope.groupId = some authority.groupId
  status : batch.scope.status = "active"
  members : ∀ membership ∈ batch.memberships, membership.scopeId = batch.scope.scopeId ∧
    membership.status = "active" ∧ batch.scope.membershipEpoch ≤ membership.membershipEpoch
  devices : (batch.memberships.map CoordinatorScopeMembership.deviceId).Nodup

/-- The batches of one fetch. -/
structure CheckedBatches (batches : List CurrentScopeBatch) (authority : CacheAuthority) : Prop where
  checked : ∀ batch ∈ batches, batch.Checked authority
  scopes : (batches.map fun batch => batch.scope.scopeId).Nodup

lemma requireScope_eq_ok {raw : Option Json} {groupId : String} {scope : CoordinatorScope}
    (h : requireScope raw groupId = .ok scope) :
    scope.groupId = some groupId ∧ scope.status = "active" := by
  obtain ⟨record, -, h⟩ := exists_of_bind_eq_ok h
  dsimp only at h
  split_ifs at h with herror
  cases h
  rw [Option.not_isSome_iff_eq_none] at herror
  unfold scopeAuthorizationError at herror
  split_ifs at herror with hsource hstatus
  push Not at hsource hstatus
  exact ⟨hsource.1, hstatus⟩

lemma requireMember_eq_ok {raw : Json} {scope : CoordinatorScope} {member : SnapshotMember}
    (h : requireMember keyIdOf raw scope = .ok member) :
    isCurrentScopeMember scope member.membership = true := by
  unfold requireMember at h
  cases hraw : raw.asObject with
  | none => simp [hraw] at h
  | some fieldValues =>
    simp only [hraw] at h
    obtain ⟨membershipRecord, -, h⟩ := exists_of_bind_eq_ok h
    obtain ⟨enrollmentRecord, -, h⟩ := exists_of_bind_eq_ok h
    split at h
    · split_ifs at h with hmismatch
      cases h
      push Not at hmismatch
      exact eq_true_of_ne_false hmismatch.1
    · cases h

lemma isCurrentScopeMember_eq_true {scope : CoordinatorScope}
    {member : CoordinatorScopeMembership} (h : isCurrentScopeMember scope member = true) :
    member.scopeId = scope.scopeId ∧ member.status = "active" ∧
      scope.membershipEpoch ≤ member.membershipEpoch := by
  unfold isCurrentScopeMember at h
  split_ifs at h with hcurrent
  push Not at hcurrent
  exact hcurrent

lemma normalizeScopeSnapshot_checked {raw : Json} {catalogScope : CoordinatorScope}
    {authority : CacheAuthority} {batch : CurrentScopeBatch}
    (h : normalizeScopeSnapshot keyIdOf raw catalogScope authority.groupId
      authority.coordinatorId = .ok batch) :
    batch.Checked authority ∧ batch.scope.scopeId = catalogScope.scopeId := by
  obtain ⟨envelope, -, h⟩ := exists_of_bind_eq_ok h
  obtain ⟨source, hsource, h⟩ := exists_of_bind_eq_ok h
  obtain ⟨hgroup, hstatus⟩ := requireScope_eq_ok hsource
  split_ifs at h with hmismatch
  push Not at hmismatch
  obtain ⟨members, hmembers, h⟩ := exists_of_bind_eq_ok h
  split_ifs at h with hnodup
  cases h
  refine ⟨⟨rfl, hgroup, hstatus, fun membership hmembership => ?_, ?_⟩, hmismatch.1⟩
  · obtain ⟨member, hmember, rfl⟩ := List.mem_map.mp hmembership
    obtain ⟨item, -, hitem⟩ := exists_of_mem_mapM hmembers hmember
    have hcurrent := isCurrentScopeMember_eq_true (requireMember_eq_ok keyIdOf hitem)
    exact hcurrent
  · rw [List.map_map]
    exact hnodup

/-- The batches of a fetch are checked. -/
theorem gatherCurrentSnapshots_checked {fetched : FetchedScopes} {authority : CacheAuthority}
    {batches : List CurrentScopeBatch}
    (h : gatherCurrentSnapshots keyIdOf fetched authority = .ok batches) :
    CheckedBatches batches authority := by
  obtain ⟨raw, -, h⟩ := exists_of_bind_eq_ok h
  obtain ⟨catalog, hcatalog, h⟩ := exists_of_bind_eq_ok h
  have hstep : ∀ (scope : CoordinatorScope) (batch : CurrentScopeBatch),
      (do
        normalizeScopeSnapshot keyIdOf (← fetched.snapshot scope.scopeId) scope authority.groupId
          authority.coordinatorId) = .ok batch →
      batch.Checked authority ∧ batch.scope.scopeId = scope.scopeId := by
    intro scope batch hbatch
    obtain ⟨snapshot, -, hbatch⟩ := exists_of_bind_eq_ok hbatch
    exact normalizeScopeSnapshot_checked keyIdOf hbatch
  have hnodup : (catalog.map CoordinatorScope.scopeId).Nodup := by
    obtain ⟨envelope, -, hcatalog⟩ := exists_of_bind_eq_ok hcatalog
    obtain ⟨scopes, -, hcatalog⟩ := exists_of_bind_eq_ok hcatalog
    split_ifs at hcatalog with hscopes
    cases hcatalog
    exact hscopes
  constructor
  · intro batch hbatch
    obtain ⟨scope, -, hscope⟩ := exists_of_mem_mapM h hbatch
    exact (hstep scope batch hscope).1
  · rw [map_eq_of_mapM (fun scope batch hbatch => (hstep scope batch hbatch).2) h]
    exact hnodup

end Normalize

end Codemem

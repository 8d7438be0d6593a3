import Codemem.Coordinator.MembershipStores

/-!
# Scopes and their authorization in the D1 store

`createScope`, `updateScope` and `getScopeAuthorization` of the D1 store, statement by statement.  An
update writes all columns of the row it has read before.  An authorization reads the scope, its
group, its memberships and their enrollments one after the other; its last query pins every field it
has captured.
-/

namespace Codemem

/-! ### Creating and updating -/

/-- The row that `createScope` inserts. -/
def NormalizedScope.created (scope : NormalizedScope) (now : String) : CoordinatorScope where
  scopeId := scope.scopeId
  label := scope.label
  kind := scope.kind
  authorityType := scope.authorityType
  coordinatorId := scope.coordinatorId
  groupId := scope.groupId
  manifestIssuerDeviceId := scope.manifestIssuerDeviceId
  membershipEpoch := scope.membershipEpoch
  manifestHash := scope.manifestHash
  status := scope.status
  createdAt := now
  updatedAt := now

/-- The row that `updateScope` leaves: only the creation time is kept. -/
def NormalizedScope.updated (scope : NormalizedScope) (now : String) (stored : CoordinatorScope) :
    CoordinatorScope :=
  { scope.created now with scopeId := stored.scopeId, createdAt := stored.createdAt }

/-- `UPDATE coordinator_scopes SET … WHERE scope_id = ?`. -/
def ScopeTables.updateScopeRow (tables : ScopeTables) (scope : NormalizedScope) (now : String) :
    ScopeTables :=
  { tables with
    scopes := updateRows (fun stored => stored.scopeId == scope.scopeId) (scope.updated now)
      tables.scopes }

/-- `INSERT INTO coordinator_scopes`: `scope_id` is the primary key. -/
def ScopeTables.insertScopeRow (tables : ScopeTables) (row : CoordinatorScope) :
    Option ScopeTables :=
  if (tables.getScope row.scopeId).isSome then none
  else some { tables with scopes := tables.scopes ++ [row] }

/-- An update that is about to be written, with the row it was computed from. -/
structure ScopeUpdate where
  opts : CoordinatorUpdateScopeInput
  existing : CoordinatorScope
  scope : NormalizedScope
  normalized : normalizeCoordinatorUpdateScopeInput opts existing = .ok scope

/-- `normalizeCoordinatorUpdateScopeInput(opts, existing)`, together with its arguments. -/
def planUpdate (opts : CoordinatorUpdateScopeInput) (existing : CoordinatorScope) :
    Except String ScopeUpdate :=
  match h : normalizeCoordinatorUpdateScopeInput opts existing with
  | .error error => .error error
  | .ok scope => .ok ⟨opts, existing, scope, h⟩

/-! ### Authorization -/

/-- `CoordinatorScopeAuthorizationResult`. -/
inductive ScopeAuthorizationResult where
  | authorized (scope : CoordinatorScope) (members : List SnapshotMember)
  | rejected (error : String)
deriving DecidableEq

def ScopeAuthorizationError.text : ScopeAuthorizationError → String
  | scopeSourceMismatch => "scope_source_mismatch"
  | scopeInactive => "scope_inactive"

/-- Every exception of `getScopeAuthorization` is answered with this error. -/
def scopeAuthorizationUnavailable : ScopeAuthorizationResult :=
  .rejected "scope_authorization_unavailable"

/-- An enrollment as `getScopeAuthorization` captures it. -/
def EnrolledDeviceRow.captured (row : EnrolledDeviceRow) : CoordinatorEnrollment where
  groupId := row.groupId
  deviceId := row.deviceId
  publicKey := row.publicKey
  fingerprint := row.fingerprint
  identityId := row.identityId
  displayName := row.displayName
  enabled := if row.enabled then 1 else 0
  createdAt := row.createdAt

/-- The part of `captureScopeAuthorizationMembers` about one row. -/
def captureScopeMembership (scope : CoordinatorScope) (row : CoordinatorScopeMembership) :
    Except String (Option CoordinatorScopeMembership) := do
  let _ ← requireScopeAuthorizationRecord (some (membershipJson row)) ["status"]
  if row.status ≠ "active" then .ok none
  else
    let _ ← requireScopeAuthorizationRecord (some (membershipJson row)) membershipFields
    .ok (if isCurrentScopeMember scope row then some row else none)

/-- The memberships of a scope that `captureScopeAuthorizationMembers` keeps. -/
def captureScopeMemberships (tables : ScopeTables) (scope : CoordinatorScope) :
    Except String (List CoordinatorScopeMembership) :=
  ((tables.memberships.filter fun row => row.scopeId == scope.scopeId).mapM
    (captureScopeMembership scope)).map List.reduceOption

/-- `captureScopeAuthorizationEnrollments(memberships, groupId)`. -/
def captureScopeEnrollments (tables : ScopeTables)
    (memberships : List CoordinatorScopeMembership) (groupId : String) :
    Except String (List CoordinatorEnrollment) :=
  ((tables.devices.enrolledDevices.filter fun row => row.groupId == groupId &&
      memberships.any fun membership => membership.deviceId == row.deviceId).map
    EnrolledDeviceRow.captured).mapM fun enrollment =>
      (requireScopeAuthorizationRecord (some (enrollmentJson enrollment)) enrollmentFields).map
        fun _ => enrollment

/-- The members that are captured: current memberships with an enabled enrollment whose key has a
canonical id. -/
def capturedScopeMembers (primitives : SignaturePrimitives)
    (memberships : List CoordinatorScopeMembership) (enrollments : List CoordinatorEnrollment) :
    List SnapshotMember :=
  memberships.filterMap fun membership =>
    (rowAt CoordinatorEnrollment.deviceId membership.deviceId enrollments).bind fun enrollment =>
      if enrollment.enabled ≠ 1 then none
      else (ed25519KeyIdForRevocation primitives enrollment.publicKey).map fun keyId =>
        ⟨membership, enrollment, keyId⟩

/-- `READ_CURRENT_SCOPE_SQL`: the captured scope is still stored and authorizes in its group. -/
def ScopeTables.pinsScope (tables : ScopeTables) (scope : CoordinatorScope) : Bool :=
  tables.scopes.contains scope &&
    (tables.devices.groups.any fun group => some group.groupId == scope.groupId &&
      group.archivedAt.isNone) &&
    scope.status == "active" && scope.authorityType == "coordinator"

/-- `READ_CURRENT_SCOPE_MEMBERS_SQL`: the captured member is still stored and not revoked. -/
def ScopeTables.pinsMember (tables : ScopeTables) (member : SnapshotMember) : Bool :=
  tables.memberships.contains member.membership &&
    (tables.devices.enrolledDevices.any fun row => decide (row.captured = member.enrollment)) &&
    decide (member.enrollment.enabled = 1) && member.membership.status == "active" &&
    !tables.devices.revoked member.enrollment.deviceId (some member.keyId)

/-! ### The calls of the D1 store -/

/-- The statements at which a call about scopes is suspended. -/
inductive ScopeStage where
  | createLookup (scope : NormalizedScope)
  | createInsert (scope : NormalizedScope) (now : String)
  | createReread (scopeId : String)
  | updateRead (opts : CoordinatorUpdateScopeInput) (scopeId : String)
  | updateWrite (update : ScopeUpdate) (now : String)
  | updateReread (scopeId : String)
  | authorizationScope (groupId scopeId : String)
  | authorizationGroup (groupId : String) (scope : CoordinatorScope)
  | authorizationMemberships (groupId : String) (scope : CoordinatorScope)
  | authorizationEnrollments (groupId : String) (scope : CoordinatorScope)
      (memberships : List CoordinatorScopeMembership)
  | authorizationFinal (groupId : String) (scope : CoordinatorScope)
      (members : List SnapshotMember)

/-- What a call about scopes answers. -/
inductive ScopeOutcome where
  | scope (scope : Option CoordinatorScope)
  | authorization (result : ScopeAuthorizationResult)
deriving DecidableEq

abbrev ScopeProgress := CallProgress ScopeStage ScopeOutcome

/-- A call ends with an authorization. -/
def ScopeProgress.answer (result : ScopeAuthorizationResult) : ScopeProgress :=
  .ended (.ok (.authorization result))

/-- An authorization goes on after a step that may throw. -/
def ScopeProgress.afterCapture {α : Type} (step : Except String α) (next : α → ScopeProgress) :
    ScopeProgress :=
  match step with
  | .error _ => .answer scopeAuthorizationUnavailable
  | .ok value => next value

/-- The beginning of `createScope(opts)`. -/
def startCreateScope (opts : CoordinatorCreateScopeInput) : ScopeProgress :=
  .after (normalizeCoordinatorCreateScopeInput opts) fun scope => .suspended (.createLookup scope)

/-- The beginning of `updateScope(opts)`. -/
def startUpdateScope (opts : CoordinatorUpdateScopeInput) : ScopeProgress :=
  match cleanText opts.scopeId with
  | none => .ended (.ok (.scope none))
  | some scopeId => .suspended (.updateRead opts scopeId)

/-- The beginning of `getScopeAuthorization({ groupId, scopeId })`. -/
def startScopeAuthorization (groupId scopeId : String) : ScopeProgress :=
  if exactText groupId && exactText scopeId then .suspended (.authorizationScope groupId scopeId)
  else .answer scopeAuthorizationUnavailable

/-- After it has read the scope, an authorization checks it and reads its group. -/
def authorizationAfterScope (groupId : String) (source : Option CoordinatorScope) :
    ScopeProgress :=
  match source with
  | none => .answer (.rejected "scope_not_found")
  | some scope =>
    .afterCapture (requireScopeAuthorizationRecord (some (scopeJson scope)) scopeFields) fun _ =>
      match scopeAuthorizationError scope groupId with
      | some error => .answer (.rejected error.text)
      | none => .suspended (.authorizationGroup groupId scope)

/-- After it has read the group, an authorization checks it and reads the memberships. -/
def authorizationAfterGroup (groupId : String) (scope : CoordinatorScope)
    (group : Option CoordinatorGroupRow) : ScopeProgress :=
  match group with
  | none => .answer (.rejected "scope_source_mismatch")
  | some group =>
    let record := Json.obj
      [("group_id", .str group.groupId), ("archived_at", jsonText group.archivedAt)]
    .afterCapture (requireScopeAuthorizationRecord (some record) ["group_id"]) fun _ =>
      if group.archivedAt.isSome then
        .afterCapture (requireScopeAuthorizationRecord (some record) ["archived_at"]) fun _ =>
          .answer (.rejected "group_archived")
      else .suspended (.authorizationMemberships groupId scope)

/-- The statement at which a call is suspended is executed, and the call runs up to the next one.
`now` is the time at which it goes on. -/
def ScopeStage.next (primitives : SignaturePrimitives) (tables : ScopeTables) (now : String) :
    ScopeStage → ScopeProgress × ScopeTables
  | createLookup scope =>
    if (tables.getScope scope.scopeId).isSome then
      (.ended (.error "scopeId already exists."), tables)
    else (.suspended (.createInsert scope now), tables)
  | createInsert scope sentAt =>
    match tables.insertScopeRow (scope.created sentAt) with
    | none => (.ended (.error "UNIQUE constraint failed"), tables)
    | some tables' => (.suspended (.createReread scope.scopeId), tables')
  | createReread scopeId =>
    match tables.getScope scopeId with
    | none => (.ended (.error "scope insert returned no row"), tables)
    | some scope => (.ended (.ok (.scope (some scope))), tables)
  | updateRead opts scopeId =>
    match tables.getScope scopeId with
    | none => (.ended (.ok (.scope none)), tables)
    | some existing =>
      (.after (planUpdate opts existing) fun update => .suspended (.updateWrite update now), tables)
  | updateWrite update sentAt =>
    (.suspended (.updateReread update.scope.scopeId), tables.updateScopeRow update.scope sentAt)
  | updateReread scopeId => (.ended (.ok (.scope (tables.getScope scopeId))), tables)
  | authorizationScope groupId scopeId =>
    (authorizationAfterScope groupId (tables.getScope scopeId), tables)
  | authorizationGroup groupId scope =>
    (authorizationAfterGroup groupId scope (tables.devices.getGroup groupId), tables)
  | authorizationMemberships groupId scope =>
    (.afterCapture (captureScopeMemberships tables scope) fun memberships =>
      .suspended (.authorizationEnrollments groupId scope memberships), tables)
  | authorizationEnrollments groupId scope memberships =>
    (.afterCapture (captureScopeEnrollments tables memberships groupId) fun enrollments =>
      .suspended (.authorizationFinal groupId scope
        (capturedScopeMembers primitives memberships enrollments)), tables)
  | authorizationFinal _ scope members =>
    if tables.pinsScope scope then
      (.answer (.authorized scope ((members.filter tables.pinsMember).insertionSort fun left right =>
        utf16 left.membership.deviceId ≤ utf16 right.membership.deviceId)), tables)
    else (.answer scopeAuthorizationUnavailable, tables)

end Codemem

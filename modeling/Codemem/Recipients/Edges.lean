import Codemem.Recipients.EffectiveDevices
import Codemem.Foundation.Fallible

/-!
# Previewing and committing policy edges

An edge shares a project with a recipient.  A preview shows what a set of changes does, with the
devices that the project will then be shared with; its digest is handed back to commit exactly what
was reviewed.
-/

namespace Codemem

/-! ### Changes -/

inductive RecipientKind where
  | identity
  | team
  deriving DecidableEq, Repr

def RecipientKind.text : RecipientKind → String
  | identity => "identity"
  | team => "team"

/-- `row.recipient_kind === "team" ? "team" : "identity"`. -/
def recipientKindOf (text : String) : RecipientKind := if text == "team" then .team else .identity

inductive EdgeAction where
  | add
  | remove
  deriving DecidableEq, Repr

structure EdgeChange where
  canonicalProjectIdentity : String
  recipientKind : RecipientKind
  recipientId : String
  action : EdgeAction
  deriving DecidableEq, Repr

/-- The parts of `edgeKey`. -/
abbrev EdgeKey := String × RecipientKind × String

/-- `edgeKey` of a change. -/
def EdgeChange.key (change : EdgeChange) : EdgeKey :=
  (change.canonicalProjectIdentity, change.recipientKind, change.recipientId)

/-- The position of a change in the order of `compareChanges`. -/
def EdgeChange.position (change : EdgeChange) :
    List ℕ ×ₗ ℕ ×ₗ List ℕ ×ₗ ℕ :=
  toLex (utf16 change.canonicalProjectIdentity, toLex (change.recipientKind.ctorIdx,
    toLex (utf16 change.recipientId, change.action.ctorIdx)))

/-- `parseChanges` of changes of the right shape. -/
def parseChanges (changes : List EdgeChange) : Option (List EdgeChange) :=
  let strict := changes.all fun change =>
    isStrictRecipientPolicyProjectIdentity change.canonicalProjectIdentity &&
      isStrictRecipientPolicyId change.recipientId
  let projects := (changes.map EdgeChange.canonicalProjectIdentity).eraseDups
  let recipients := (changes.map fun change =>
    (change.recipientKind, change.recipientId)).eraseDups
  if changes.isEmpty || decide (500 < changes.length) || !strict ||
      decide ((changes.map EdgeChange.key).eraseDups.length < changes.length) ||
      decide (500 < projects.length) || decide (200 < recipients.length) then none
  else some (sortByPos EdgeChange.position changes)

/-- `RecipientPolicyEdgeRequestError`. -/
structure EdgeRequestError where
  status : String
  errorCode : String
  deriving DecidableEq, Repr

/-! ### Facts -/

/-- What a preview shows about an identity. -/
structure IdentityFact where
  identityId : String
  displayName : String
  isPending : Bool
  deriving DecidableEq

/-- What a preview knows about a team. -/
structure TeamFact where
  teamId : String
  displayName : String
  deviceEligibilityMode : String
  currentMembers : List IdentityFact
  eligibleDeviceIds : List String
  deviceDecisions : List PolicyTeamDeviceDecision
  eligibilityBlocks : List DerivationBlock
  deriving DecidableEq

/-- What a preview shows about a project. -/
structure ProjectFact where
  canonicalProjectIdentity : String
  displayName : String
  existingMemoryCount : ℕ
  deriving DecidableEq

/-- An edge as the stored rows of all aliases of its project give it. -/
structure StoredEdge where
  canonicalProjectIdentity : String
  persistedProjectIdentities : List String
  recipientKind : RecipientKind
  recipientId : String
  status : String
  deriving DecidableEq

/-- `edgeKey` of an edge. -/
def StoredEdge.key (edge : StoredEdge) : EdgeKey :=
  (edge.canonicalProjectIdentity, edge.recipientKind, edge.recipientId)

/-- An edge that is being loaded, with the stored row that decides its status. -/
structure LoadedEdge extends StoredEdge where
  winnerProjectIdentity : String
  winnerUpdatedAt : String

/-- `shouldReplaceEdgeWinner`. -/
def LoadedEdge.losesTo (edge : LoadedEdge) (row : ProjectRecipient) : Bool :=
  if edge.winnerProjectIdentity == edge.canonicalProjectIdentity then false
  else row.canonicalProjectIdentity == edge.canonicalProjectIdentity ||
    decide (jsLt edge.winnerUpdatedAt row.updatedAt)

def LoadedEdge.addRow (row : ProjectRecipient) (edge : LoadedEdge) : LoadedEdge :=
  let persisted := edge.persistedProjectIdentities ++ [row.canonicalProjectIdentity]
  if edge.losesTo row then
    { edge with
      persistedProjectIdentities := persisted
      status := row.status
      winnerProjectIdentity := row.canonicalProjectIdentity
      winnerUpdatedAt := row.updatedAt }
  else { edge with persistedProjectIdentities := persisted }

namespace PolicyTables

variable (db : PolicyTables)

/-- The edge that a stored row starts. -/
def edgeOfRow (row : ProjectRecipient) : LoadedEdge where
  canonicalProjectIdentity := db.canonical row.canonicalProjectIdentity
  persistedProjectIdentities := [row.canonicalProjectIdentity]
  recipientKind := recipientKindOf row.recipientKind
  recipientId := row.recipientId
  status := row.status
  winnerProjectIdentity := row.canonicalProjectIdentity
  winnerUpdatedAt := row.updatedAt

/-- The identities under which rows of the projects may be stored. -/
def persistedProjectIds (projectIds : List String) : List String :=
  (projectIds ++ db.repositoryIdentities.map Prod.fst).filter fun identity =>
    projectIds.contains (db.canonical identity)

/-- The stored rows of the projects, in the order in which they are read. -/
def edgeRows (projectIds : List String) : List ProjectRecipient :=
  sortByPos (fun row => toLex (row.canonicalProjectIdentity,
      toLex (row.recipientKind, row.recipientId)))
    (db.projectRecipients.filter fun row =>
      (db.persistedProjectIds projectIds).contains row.canonicalProjectIdentity)

def loadEdges (projectIds : List String) : List StoredEdge :=
  ((db.edgeRows projectIds).foldl (fun edges row =>
    insertOrUpdate (fun edge => edge.toStoredEdge.key) (db.edgeOfRow row) (LoadedEdge.addRow row)
      edges) []).map LoadedEdge.toStoredEdge

def canonicalizeEdgeChanges (changes : List EdgeChange) :
    Except EdgeRequestError (List EdgeChange) :=
  let canonical := changes.map fun change =>
    { change with canonicalProjectIdentity := db.canonical change.canonicalProjectIdentity }
  if (canonical.map EdgeChange.key).eraseDups.length < canonical.length then
    .error ⟨"invalid", "changes_duplicate"⟩
  else .ok (sortByPos EdgeChange.position canonical)

/-- `loadIdentityFacts`: the active and the pending identities. -/
def loadIdentityFacts : List IdentityFact :=
  (sortByPos PolicyIdentity.identityId (db.identities.filter fun identity =>
    identity.status == "active" || identity.status == "pending")).map fun identity =>
      ⟨identity.identityId, identity.displayName, identity.status == "pending"⟩

def identityFact (identityId : String) : Option IdentityFact :=
  rowAt IdentityFact.identityId identityId db.loadIdentityFacts

/-- `loadDeviceFacts`: the devices of the identities with a fact. -/
def loadDeviceFacts : List IdentityDevice :=
  (sortByPos (fun row => toLex (row.identityId, row.deviceId)) db.identityDevices).filter
    fun device => (db.identityFact device.identityId).isSome

def membershipsOf (teamId : String) : List PolicyTeamMembership :=
  (sortByPos (fun row => toLex (row.teamId, row.identityId)) db.teamMemberships).filter
    fun membership => membership.teamId == teamId

def decisionsOf (teamId : String) : List PolicyTeamDeviceDecision :=
  (sortByPos (fun row => toLex (row.teamId, row.deviceId)) db.teamDeviceDecisions).filter
    fun decision => decision.teamId == teamId

def teamFactEligibility (team : PolicyTeam) : Except (List DerivationBlock) TeamEligibility :=
  let memberIds := ((db.membershipsOf team.teamId).map PolicyTeamMembership.identityId).eraseDups
  derivePolicyTeamDeviceEligibility team.teamId team.deviceEligibilityMode
    (db.membershipsOf team.teamId)
    (memberIds.filterMap fun identityId =>
      rowAt PolicyIdentity.identityId identityId (sortByPos PolicyIdentity.identityId db.identities))
    (memberIds.flatMap fun identityId =>
      db.loadDeviceFacts.filter fun device => device.identityId == identityId)
    (db.decisionsOf team.teamId)

def teamFactOf (team : PolicyTeam) : TeamFact :=
  let fact : TeamFact := ⟨team.teamId, team.displayName, team.deviceEligibilityMode, [], [],
    db.decisionsOf team.teamId, []⟩
  match db.teamFactEligibility team with
  | .error blocked => { fact with eligibilityBlocks := blocked }
  | .ok eligibility =>
    { fact with
      eligibleDeviceIds := eligibility.eligibleDeviceIds
      currentMembers := eligibility.activeMemberIdentityIds.filterMap db.identityFact }

/-- `loadTeamFacts`: the active teams. -/
def loadTeamFacts : List TeamFact :=
  (sortByPos PolicyTeam.teamId (db.teams.filter fun team => team.status == "active")).map
    db.teamFactOf

def teamFact (teamId : String) : Option TeamFact := rowAt TeamFact.teamId teamId db.loadTeamFacts

end PolicyTables

def edgeAt (edges : List StoredEdge) (key : EdgeKey) : Option StoredEdge :=
  rowAt StoredEdge.key key edges

/-- `current?.status === "active"`. -/
def isActiveEdge (edges : List StoredEdge) (key : EdgeKey) : Bool :=
  (edgeAt edges key).any fun edge => edge.status == "active"

/-! ### Checks of a preview -/

inductive SelectedRecipient where
  | identity (identity : IdentityFact)
  | team (teamId displayName : String) (currentMembers : List IdentityFact)
  deriving DecidableEq

/-- `selectedRecipients` for one change: a removal of an active edge needs no recipient. -/
def selectRecipient (db : PolicyTables) (edges : List StoredEdge) (change : EdgeChange) :
    Except EdgeRequestError (Option SelectedRecipient) :=
  let removable := change.action == .remove && isActiveEdge edges change.key
  match change.recipientKind with
  | .identity =>
    match db.identityFact change.recipientId with
    | some identity => .ok (some (.identity identity))
    | none => if removable then .ok none else .error ⟨"not_found", "recipient_not_found"⟩
  | .team =>
    match db.teamFact change.recipientId with
    | none => if removable then .ok none else .error ⟨"not_found", "recipient_not_found"⟩
    | some team =>
      match team.eligibilityBlocks with
      | [] => .ok (some (.team team.teamId team.displayName team.currentMembers))
      | block :: _ =>
        if removable then .ok none else .error ⟨"invalid", block.code.text⟩

/-- `assertDesiredTeamEligibility` for one edge. -/
def checkDesiredTeam (db : PolicyTables) (edge : StoredEdge) : Except EdgeRequestError Unit :=
  match edge.recipientKind with
  | .identity => .ok ()
  | .team =>
    match db.teamFact edge.recipientId with
    | none => .error ⟨"not_found", "recipient_not_found"⟩
    | some team =>
      match team.eligibilityBlocks with
      | [] => .ok ()
      | block :: _ => .error ⟨"invalid", block.code.text⟩

/-- A device of a direct recipient that `assertDesiredDirectIdentityEligibility` refuses. -/
def isInvalidDirectDevice (edges : List StoredEdge) (device : IdentityDevice) : Bool :=
  (edges.any fun edge =>
    edge.recipientKind == .identity && edge.recipientId == device.identityId) &&
      (!isKnownPolicyStatus device.status || (device.status == "active" &&
        (!isStrictRecipientPolicyId device.identityId ||
          !isStrictRecipientPolicyId device.deviceId)))

def desiredActiveEdges (changes : List EdgeChange) (edges : List StoredEdge) : List StoredEdge :=
  let desired := changes.foldl (fun desired change =>
    match change.action with
    | .remove => desired.filter fun edge => edge.key != change.key
    | .add =>
      let edge : StoredEdge := ⟨change.canonicalProjectIdentity,
        [change.canonicalProjectIdentity], change.recipientKind, change.recipientId, "active"⟩
      insertOrUpdate StoredEdge.key edge (fun _ => edge) desired)
    (edges.filter fun edge => edge.status == "active")
  sortByPos (fun edge => toLex (utf16 edge.canonicalProjectIdentity,
    toLex (edge.recipientKind.ctorIdx, utf16 edge.recipientId))) desired

/-- A device that a preview lists. -/
structure EdgeEffectiveDevice where
  canonicalProjectIdentity : String
  identityId : String
  deviceId : String
  displayName : String
  deriving DecidableEq

def edgeIdentityIds (db : PolicyTables) (edge : StoredEdge) : List String :=
  match edge.recipientKind with
  | .identity => if (db.identityFact edge.recipientId).isSome then [edge.recipientId] else []
  | .team =>
    ((db.teamFact edge.recipientId).map fun team =>
      team.currentMembers.map IdentityFact.identityId).getD []

/-- The active devices that an edge reaches. -/
def edgeDevices (db : PolicyTables) (edge : StoredEdge) : List EdgeEffectiveDevice :=
  (edgeIdentityIds db edge).flatMap fun identityId =>
    (db.loadDeviceFacts.filter fun device =>
      device.status == "active" && device.identityId == identityId &&
        (edge.recipientKind != .team ||
          (db.teamFact edge.recipientId).any fun team =>
            team.eligibleDeviceIds.contains device.deviceId)).map fun device =>
              ⟨edge.canonicalProjectIdentity, identityId, device.deviceId, device.displayName⟩

/-- `effectiveDevices`. -/
def edgeEffectiveDevices (db : PolicyTables) (edges : List StoredEdge) :
    List EdgeEffectiveDevice :=
  sortByPos (fun device => toLex (utf16 device.canonicalProjectIdentity,
      toLex (utf16 device.deviceId, utf16 device.identityId)))
    ((edges.flatMap (edgeDevices db)).foldl (fun effective device =>
      insertOrUpdate (fun row => (row.canonicalProjectIdentity, row.deviceId)) device
        (fun _ => device) effective) [])

/-! ### Preview -/

inductive EdgeOutcome where
  | added
  | removed
  | alreadyPresent
  | alreadyAbsent
  deriving DecidableEq, Repr

/-- The outcome that a preview predicts, and a commit reports. -/
def edgeOutcome (edges : List StoredEdge) (change : EdgeChange) : EdgeOutcome :=
  match change.action, isActiveEdge edges change.key with
  | .add, false => .added
  | .add, true => .alreadyPresent
  | .remove, true => .removed
  | .remove, false => .alreadyAbsent

inductive RecipientDigestFact where
  | identity (identity : IdentityFact) (devices : List IdentityDevice)
  | team (team : TeamFact) (devices : List (List IdentityDevice))
  deriving DecidableEq

/-- What the digest of a preview covers. -/
structure EdgePreviewFacts where
  normalizedChanges : List EdgeChange
  outcomes : List (EdgeChange × EdgeOutcome)
  projects : List ProjectFact
  selectedRecipientFacts : List RecipientDigestFact
  desiredActiveEdges : List StoredEdge
  effectiveDevices : List EdgeEffectiveDevice

def digestDevices (db : PolicyTables) (identityId : String) : List IdentityDevice :=
  db.loadDeviceFacts.filter fun device =>
    device.status == "active" && device.identityId == identityId

def teamDigestFact (db : PolicyTables) (team : TeamFact) : RecipientDigestFact :=
  .team team (team.currentMembers.map fun member => digestDevices db member.identityId)

/-- `selectedRecipientDigestFacts`: the recipients of the changes and the desired teams. -/
def selectedRecipientDigestFacts (db : PolicyTables) (changes : List EdgeChange)
    (edges : List StoredEdge) : List RecipientDigestFact :=
  let refs := (changes.map fun change => (change.recipientKind, change.recipientId)) ++
    (edges.filter fun edge => edge.recipientKind == .team).map fun edge =>
      (edge.recipientKind, edge.recipientId)
  (sortByPos (fun ref => toLex (ref.1.ctorIdx, utf16 ref.2)) refs.eraseDups).filterMap fun ref =>
    match ref.1 with
    | .identity => (db.identityFact ref.2).map fun identity =>
        .identity identity (digestDevices db identity.identityId)
    | .team => (db.teamFact ref.2).map (teamDigestFact db)

/-- What a preview returns, with the edges it loaded. -/
structure EdgePreview where
  changes : List EdgeChange
  edges : List StoredEdge
  projects : List ProjectFact
  recipients : List SelectedRecipient
  facts : EdgePreviewFacts
  reviewedPolicyDigest : String

def EdgePreview.effectiveDevices (preview : EdgePreview) : List EdgeEffectiveDevice :=
  preview.facts.effectiveDevices

section Preview

variable (projectFacts : PolicyTables → List ProjectFact) (digest : EdgePreviewFacts → String)
variable (db : PolicyTables)

/-- The fact of a changed project: one that is unknown may only lose active edges. -/
def changedProjectFact (changes : List EdgeChange) (edges : List StoredEdge) (projectId : String) :
    Except EdgeRequestError ProjectFact :=
  match rowAt ProjectFact.canonicalProjectIdentity projectId (projectFacts db) with
  | some project => .ok project
  | none =>
    if (changes.filter fun change => change.canonicalProjectIdentity == projectId).all fun change =>
        change.action == .remove && isActiveEdge edges change.key then
      .ok ⟨projectId, projectId, 0⟩
    else .error ⟨"not_found", "project_not_found"⟩

def changedProjectIds (changes : List EdgeChange) : List String :=
  sortByPos utf16 (changes.map EdgeChange.canonicalProjectIdentity).eraseDups

/-- `buildPreview` of parsed changes. -/
def buildPreview (requested : List EdgeChange) : Except EdgeRequestError EdgePreview :=
  (db.canonicalizeEdgeChanges requested).bind fun changes =>
    let edges := db.loadEdges (changedProjectIds changes)
    ((changedProjectIds changes).mapM (changedProjectFact projectFacts db changes edges)).bind
      fun projects =>
        (changes.mapM (selectRecipient db edges)).bind fun recipients =>
          let desired := desiredActiveEdges changes edges
          (desired.mapM (checkDesiredTeam db)).bind fun _ =>
            if db.loadDeviceFacts.any (isInvalidDirectDevice desired) then
              .error ⟨"invalid", "identity_device_invalid"⟩
            else
              let facts : EdgePreviewFacts :=
                { normalizedChanges := changes
                  outcomes := changes.map fun change => (change, edgeOutcome edges change)
                  projects := projects
                  selectedRecipientFacts := selectedRecipientDigestFacts db changes desired
                  desiredActiveEdges := desired
                  effectiveDevices := edgeEffectiveDevices db desired }
              .ok ⟨changes, edges, projects, (recipients.filterMap id).eraseDups, facts,
                digest facts⟩

def previewRecipientPolicyEdges (requested : List EdgeChange) :
    Except EdgeRequestError EdgePreview :=
  match parseChanges requested with
  | none => .error ⟨"invalid", "request_invalid"⟩
  | some changes => buildPreview projectFacts digest db changes

end Preview

/-! ### Commit -/

def reactivateStoredEdge (edge : StoredEdge) (now : String) (rows : List ProjectRecipient) :
    List ProjectRecipient :=
  let persisted :=
    if edge.persistedProjectIdentities.contains edge.canonicalProjectIdentity then
      edge.canonicalProjectIdentity
    else edge.persistedProjectIdentities.headD ""
  updateRows (fun row => row.canonicalProjectIdentity == persisted &&
      row.recipientKind == edge.recipientKind.text && row.recipientId == edge.recipientId)
    (fun row => { row with status := "active", updatedAt := now }) rows

def revokeStoredEdge (edge : StoredEdge) (now : String) (rows : List ProjectRecipient) :
    List ProjectRecipient :=
  updateRows (fun row =>
      edge.persistedProjectIdentities.contains row.canonicalProjectIdentity &&
        row.recipientKind == edge.recipientKind.text && row.recipientId == edge.recipientId)
    (fun row => { row with status := "revoked", updatedAt := now }) rows

/-- The primary key of `project_recipients`. -/
def ProjectRecipient.key (row : ProjectRecipient) : String × String × String :=
  (row.canonicalProjectIdentity, row.recipientKind, row.recipientId)

/-- `INSERT INTO project_recipients`. -/
def insertEdge (change : EdgeChange) (now : String) (rows : List ProjectRecipient) :
    Except String (List ProjectRecipient) :=
  let row : ProjectRecipient := ⟨change.canonicalProjectIdentity, change.recipientKind.text,
    change.recipientId, "active", now⟩
  if rows.any fun stored => stored.key == row.key then .error "edge_commit_conflict"
  else .ok (rows ++ [row])

/-- The writes of one change. -/
def applyEdgeChange (edges : List StoredEdge) (now : String) (rows : List ProjectRecipient)
    (change : EdgeChange) : Except String (List ProjectRecipient) :=
  match edgeOutcome edges change with
  | .added =>
    match edgeAt edges change.key with
    | some current => .ok (reactivateStoredEdge current now rows)
    | none => insertEdge change now rows
  | .removed =>
    .ok (((edgeAt edges change.key).map fun current => revokeStoredEdge current now rows).getD rows)
  | .alreadyPresent | .alreadyAbsent => .ok rows

/-- The result of a commit that was applied. -/
structure EdgeCommit where
  tables : PolicyTables
  outcomes : List (EdgeChange × EdgeOutcome)

/-- `commitRecipientPolicyEdges`: the reviewed digest has to be the digest of the same preview. -/
def commitRecipientPolicyEdges (projectFacts : PolicyTables → List ProjectFact)
    (digest : EdgePreviewFacts → String) (db : PolicyTables) (requested : List EdgeChange)
    (reviewedPolicyDigest now : String) : Except EdgeRequestError EdgeCommit :=
  (previewRecipientPolicyEdges projectFacts digest db requested).bind fun preview =>
    if preview.reviewedPolicyDigest != reviewedPolicyDigest then
      .error ⟨"stale", "reviewed_policy_stale"⟩
    else
      match preview.changes.foldlM (applyEdgeChange preview.edges now) db.projectRecipients with
      | .error errorCode => .error ⟨"conflict", errorCode⟩
      | .ok rows => .ok ⟨{ db with projectRecipients := rows }, preview.facts.outcomes⟩

end Codemem

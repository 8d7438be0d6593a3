import Codemem.Json
import Codemem.Replication.Clock

/-!
# The tables of the store

The rows of the SQLite tables that replication reads and writes, and the store that holds them.
Every table is the list of its rows in `rowid` order, so that a `SELECT … LIMIT 1` without an
`ORDER BY` is the first row that matches.

Columns that no modelled function reads back (`tags_text`, `dedup_key`, labels and time stamps of
membership rows) are left out.
-/

namespace Codemem

/-- `DEFAULT_SYNC_SCOPE_ID`: the scope of memories that never leave the device. -/
def defaultSyncScopeId : String := "local-default"

/-- The `entity_type` of a replication op. -/
inductive EntityType where
  | memoryItem
  | other (name : String)
  deriving DecidableEq, Repr

/-- The `op_type` of a replication op. -/
inductive OpType where
  | upsert
  | delete
  | accessCleanup
  | reassignScope
  | other (name : String)
  deriving DecidableEq, Repr

/-- A row of `replication_ops`; also the wire shape of an op. -/
structure ReplicationOp where
  opId : String
  entityType : EntityType
  entityId : String
  opType : OpType
  payloadJson : Option JsonText
  clockRev : ℤ
  clockUpdatedAt : String
  clockDeviceId : String
  deviceId : String
  createdAt : String
  scopeId : Option String

def ReplicationOp.clock (op : ReplicationOp) : Clock :=
  clockTuple op.clockRev op.clockUpdatedAt op.clockDeviceId

/-- The columns of a memory that replication copies without looking at them. -/
structure MemoryContent where
  subtitle : Option String
  confidence : Option ℚ
  actorDisplayName : Option String
  originSource : Option String
  trustState : Option String
  narrative : Option String
  facts : Option JsonText
  concepts : Option JsonText
  filesRead : Option JsonText
  filesModified : Option JsonText
  userPromptId : Option ℚ
  promptNumber : Option ℚ

/-- The content columns of a row that sets none of them. -/
def MemoryContent.empty : MemoryContent :=
  ⟨none, none, none, none, none, none, none, none, none, none, none, none⟩

/-- A row of `memory_items`. -/
structure MemoryItem where
  id : ℕ
  sessionId : ℕ
  kind : String
  title : String
  bodyText : String
  active : Option ℚ
  createdAt : String
  updatedAt : String
  metadataJson : Option JsonText
  actorId : Option String
  visibility : Option String
  workspaceId : Option String
  workspaceKind : Option String
  originDeviceId : Option String
  deletedAt : Option String
  rev : Option ℤ
  importKey : Option String
  scopeId : Option String
  project : Option String
  content : MemoryContent

def clockDeviceIdFromMetadataJson (raw : Option JsonText) : String :=
  (((fromJson raw).get "clock_device_id").bind Json.asText).getD ""

/-- The clock stored in a row: two columns and one metadata field. -/
def MemoryItem.clock (row : MemoryItem) : Clock :=
  clockTuple (row.rev.getD 0) row.updatedAt (clockDeviceIdFromMetadataJson row.metadataJson)

/-- The scope a row counts in: rows without a scope belong to the default scope. -/
def MemoryItem.effectiveScope (row : MemoryItem) : String :=
  (cleanText row.scopeId).getD defaultSyncScopeId

/-- A row is live when it is active and carries no tombstone. -/
def MemoryItem.isLive (row : MemoryItem) : Bool :=
  row.active.getD 1 != 0 && row.deletedAt.isNone

/-- A row of `sessions`. -/
structure Session where
  id : ℕ
  cwd : Option String
  project : Option String

/-- A row of `memory_file_refs`. -/
structure MemoryFileRef where
  memoryId : ℕ
  filePath : String
  relation : String
  deriving DecidableEq

/-- A row of `memory_concept_refs`. -/
structure MemoryConceptRef where
  memoryId : ℕ
  concept : String
  deriving DecidableEq

/-- A row of `memory_scope_retirements`. -/
structure MemoryScopeRetirement where
  entityId : String
  retiredScopeId : String
  deriving DecidableEq

/-- The evidence of a row of `memory_source_bindings`. -/
inductive SourceEvidence where
  | localCreation
  | authenticatedNamespace
  deriving DecidableEq

/-- A row of `memory_source_bindings`. -/
structure MemorySourceBinding where
  entityId : String
  sourceDeviceId : String
  evidence : SourceEvidence
  deriving DecidableEq

/-- The write path named by a row of `memory_foreign_revisions`. -/
inductive ForeignWritePath where
  | replication
  | bootstrap
  | imported
  deriving DecidableEq

/-- A row of `memory_foreign_revisions`. -/
structure MemoryForeignRevision where
  entityId : String
  writePath : ForeignWritePath
  deriving DecidableEq

/-- The boundary columns of `sync_reset_state` and `sync_reset_state_v2`. -/
structure SyncResetBoundary where
  generation : ℤ
  snapshotId : String
  baselineCursor : Option String
  retainedFloorCursor : Option String
  deriving DecidableEq, Repr

/-- The two cursors of `replication_cursors` and `replication_cursors_v2`. -/
structure ReplicationCursor where
  lastAppliedCursor : Option String
  lastAckedCursor : Option String
  deriving DecidableEq, Repr

/-- The `authority_type` of a scope. -/
inductive AuthorityType where
  | local
  | coordinator
  | other (name : String)
  deriving DecidableEq

/-- A row of `replication_scopes`. -/
structure ReplicationScope where
  scopeId : String
  authorityType : AuthorityType
  membershipEpoch : ℤ
  status : String
  deriving DecidableEq

/-- A row of `scope_memberships`. -/
structure ScopeMembership where
  scopeId : String
  deviceId : String
  status : String
  membershipEpoch : ℤ
  deriving DecidableEq

/-- A recipient policy deny overlay of one device on one scope. -/
structure DenyOverlay where
  scopeId : String
  deviceId : String
  deriving DecidableEq

/-- The project filters of one sync peer, or of the whole device. -/
structure ProjectFilters where
  includes : List String
  excludes : List String
  deriving DecidableEq

/-- A row of `sync_peers`: the filters are missing when the peer overrides nothing. -/
structure SyncPeer where
  peerDeviceId : String
  filters : Option ProjectFilters
  deriving DecidableEq

inductive InboundScopeRejectionReason where
  | missingScope
  | senderNotMember
  | receiverNotMember
  | staleEpoch
  | scopeMismatch
  deriving DecidableEq, Repr

/-- `InboundScopeRejection`; also a row of `sync_scope_rejections`. -/
structure InboundScopeRejection where
  opId : String
  entityType : EntityType
  entityId : String
  scopeId : Option String
  peerDeviceId : Option String
  reason : InboundScopeRejectionReason
  deriving DecidableEq, Repr

/-- The store: one list of rows for each table. -/
structure Store where
  memoryItems : List MemoryItem
  sessions : List Session
  memoryFileRefs : List MemoryFileRef
  memoryConceptRefs : List MemoryConceptRef
  replicationOps : List ReplicationOp
  memoryScopeRetirements : List MemoryScopeRetirement
  memorySourceBindings : List MemorySourceBinding
  memoryForeignRevisions : List MemoryForeignRevision
  syncResetStateV2 : List (String × SyncResetBoundary)
  syncResetState : Option SyncResetBoundary
  replicationCursorsV2 : List ((String × String) × ReplicationCursor)
  replicationCursors : List (String × ReplicationCursor)
  replicationScopes : List ReplicationScope
  scopeMemberships : List ScopeMembership
  denyOverlays : List DenyOverlay
  syncPeers : List SyncPeer
  globalProjectFilters : ProjectFilters
  syncScopeRejections : List InboundScopeRejection

/-- A store with no rows and no project filter. -/
def Store.empty : Store :=
  ⟨[], [], [], [], [], [], [], [], [], none, [], [], [], [], [], [], ⟨[], []⟩, []⟩

/-! ### Row lookups -/

/-- `SELECT … FROM memory_items WHERE import_key = ?`, first row. -/
def Store.memoryByImportKey (st : Store) (key : String) : Option MemoryItem :=
  st.memoryItems.find? fun row => row.importKey == some key

/-- `SELECT … FROM memory_items WHERE id = ?`. -/
def Store.memoryById (st : Store) (id : ℕ) : Option MemoryItem :=
  st.memoryItems.find? fun row => row.id == id

lemma Store.memoryById_map (st : Store) {write : MemoryItem → MemoryItem}
    (hid : ∀ row, (write row).id = row.id) (id : ℕ) :
    ({ st with memoryItems := st.memoryItems.map write } : Store).memoryById id =
      (st.memoryById id).map write := by
  have hcomp : (fun row : MemoryItem => row.id == id) ∘ write = fun row => row.id == id := by
    funext row
    simp [hid]
  simp only [Store.memoryById, List.find?_map, hcomp]

lemma Store.memoryByImportKey_map (st : Store) {write : MemoryItem → MemoryItem}
    (hkey : ∀ row, (write row).importKey = row.importKey) (key : String) :
    ({ st with memoryItems := st.memoryItems.map write } : Store).memoryByImportKey key =
      (st.memoryByImportKey key).map write := by
  have hcomp : (fun row : MemoryItem => row.importKey == some key) ∘ write =
      fun row => row.importKey == some key := by
    funext row
    simp [hkey]
  simp only [Store.memoryByImportKey, List.find?_map, hcomp]

/-- The op ids recorded in the log. -/
def Store.hasOp (st : Store) (opId : String) : Bool :=
  st.replicationOps.any fun op => op.opId == opId

/-- The `rowid` SQLite gives the next inserted memory: one above the largest in use. -/
def Store.nextMemoryId (st : Store) : ℕ :=
  (st.memoryItems.map MemoryItem.id).foldr max 0 + 1

/-- The `rowid` SQLite gives the next inserted session. -/
def Store.nextSessionId (st : Store) : ℕ :=
  (st.sessions.map Session.id).foldr max 0 + 1

/-- `UPDATE memory_items SET … WHERE …`. -/
def Store.updateMemories (st : Store) (selects : MemoryItem → Bool)
    (write : MemoryItem → MemoryItem) : Store :=
  { st with memoryItems := st.memoryItems.map fun row => if selects row then write row else row }

/-- `DELETE FROM memory_items WHERE …`. -/
def Store.deleteMemories (st : Store) (selects : MemoryItem → Bool) : Store :=
  { st with memoryItems := st.memoryItems.filter fun row => !selects row }

/-- `INSERT INTO sessions`: the id of the new session, and the store with it. -/
def Store.insertSession (st : Store) (cwd project : Option String) : ℕ × Store :=
  (st.nextSessionId, { st with sessions := st.sessions ++ [⟨st.nextSessionId, cwd, project⟩] })

/-- `INSERT INTO memory_items`: the row gets the next `rowid`. -/
def Store.insertMemory (st : Store) (row : MemoryItem) : Store :=
  { st with memoryItems := st.memoryItems ++ [{ row with id := st.nextMemoryId }] }

/-- `insertReplicationOpRow`: insert an op, ignoring an op id already present. -/
def Store.insertReplicationOpRow (st : Store) (op : ReplicationOp) : Store :=
  if st.hasOp op.opId then st else { st with replicationOps := st.replicationOps ++ [op] }

end Codemem

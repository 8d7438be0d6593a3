import Codemem.Store.Tables

/-!
# Payloads of replication ops

Parsing of the three payload kinds: the memory payload of an upsert (`parseMemoryPayload`), the
move described by a reassignment (`parseReassignScopePayload`) and the access cleanup
(`parseAccessCleanupPayload`); and the payload built from a stored row.
-/

namespace Codemem

/-- What payload parsing takes from the JavaScript runtime. -/
structure Runtime where
  /-- `Number(text)`, where the result is finite. -/
  numberOf : String → Option ℚ
  /-- `String(value)` of a value that is not a text. -/
  stringOf : Json → String
  /-- The message of the error that parsing a text as an object throws. -/
  parseError : JsonText → String
  /-- `text.toLowerCase()`, over all of Unicode. -/
  lowerCase : String → String

/-- The two methods of `SecretScanner` that `redactMemoryFields` calls. -/
structure SecretScanner where
  /-- `scan(text).redacted`. -/
  scan : String → String
  /-- `redactValue(record).value`. -/
  redactValue : JsonObject → JsonObject

/-- The fields of a memory payload.  `hasDeletedAt` says that the sender included the tombstone
field, which tells a cleared tombstone from an omitted one. -/
structure MemoryPayload where
  kind : Option String
  title : Option String
  bodyText : Option String
  active : Option ℚ
  createdAt : Option String
  metadataJson : JsonObject
  actorId : Option String
  visibility : Option String
  workspaceId : Option String
  workspaceKind : Option String
  originDeviceId : Option String
  deletedAt : Option String
  hasDeletedAt : Bool
  project : Option String
  subtitle : Option String
  confidence : Option ℚ
  actorDisplayName : Option String
  originSource : Option String
  trustState : Option String
  narrative : Option String
  facts : Option Json
  concepts : Option Json
  filesRead : Option Json
  filesModified : Option Json
  userPromptId : Option ℚ
  promptNumber : Option ℚ

section Coercions

variable (rt : Runtime)

def asNumberOrNull : Option Json → Option ℚ
  | some (.num q) => some q
  | some (.str s) => if (trim s).toList.isEmpty then none else rt.numberOf s
  | _ => none

def asStringOrNull : Option Json → Option String
  | none => none
  | some .null => none
  | some (.str s) => some s
  | some v => some (rt.stringOf v)

def asStringArrayOrNull : Option Json → Option (List String)
  | some (.arr items) =>
    let strings := items.filterMap Json.asText
    if strings.isEmpty then none else some strings
  | _ => none

/-- `toJsonNullable`: missing values and empty objects become SQL `NULL`. -/
def toJsonNullable : Option Json → Option JsonText
  | none => none
  | some .null => none
  | some (.obj []) => none
  | some v => some (.encoded v)

/-- `parseMemoryPayload` on the parsed object. -/
def memoryPayloadOf (raw : JsonObject) : MemoryPayload where
  kind := asStringOrNull rt (raw.get "kind")
  title := asStringOrNull rt (raw.get "title")
  bodyText := asStringOrNull rt (raw.get "body_text")
  active := asNumberOrNull rt (raw.get "active")
  createdAt := asStringOrNull rt (raw.get "created_at")
  metadataJson := ((raw.get "metadata_json").bind Json.asObject).getD []
  actorId := asStringOrNull rt (raw.get "actor_id")
  visibility := asStringOrNull rt (raw.get "visibility")
  workspaceId := asStringOrNull rt (raw.get "workspace_id")
  workspaceKind := asStringOrNull rt (raw.get "workspace_kind")
  originDeviceId := asStringOrNull rt (raw.get "origin_device_id")
  deletedAt := asStringOrNull rt (raw.get "deleted_at")
  hasDeletedAt := (raw.get "deleted_at").isSome
  project := asStringOrNull rt (raw.get "project")
  subtitle := asStringOrNull rt (raw.get "subtitle")
  confidence := asNumberOrNull rt (raw.get "confidence")
  actorDisplayName := asStringOrNull rt (raw.get "actor_display_name")
  originSource := asStringOrNull rt (raw.get "origin_source")
  trustState := asStringOrNull rt (raw.get "trust_state")
  narrative := asStringOrNull rt (raw.get "narrative")
  facts := nonNull (raw.get "facts")
  concepts := nonNull (raw.get "concepts")
  filesRead := nonNull (raw.get "files_read")
  filesModified := nonNull (raw.get "files_modified")
  userPromptId := asNumberOrNull rt (raw.get "user_prompt_id")
  promptNumber := asNumberOrNull rt (raw.get "prompt_number")

/-- `parseMemoryPayload`: the payload, and the errors a text that is no object leaves behind. -/
def parseMemoryPayload (op : ReplicationOp) : Option MemoryPayload × List String :=
  match op.payloadJson with
  | none => (none, [])
  | some text =>
    if text.isFalsy then (none, [])
    else match text.parse.bind Json.asObject with
      | none =>
        (none, ["op " ++ op.opId ++ ": skipped — payload_json is not a valid object: " ++
          rt.parseError text])
      | some raw => (some (memoryPayloadOf rt raw), [])

end Coercions

/-! ### Redaction -/

/-- Redaction of one optional text field; the empty text is left alone. -/
def redactText (scanner : SecretScanner) (value : Option String) : Option String :=
  value.map fun s => if s.toList.isEmpty then s else scanner.scan s

/-- Redaction of the texts in an array field. -/
def redactItems (scanner : SecretScanner) : Option Json → Option Json
  | some (.arr items) =>
    some (.arr (items.map fun item => match item with
      | .str s => .str (scanner.scan s)
      | v => v))
  | v => v

def redactMemoryFields (scanner : SecretScanner) (payload : MemoryPayload) : MemoryPayload :=
  { payload with
    title := redactText scanner payload.title
    subtitle := redactText scanner payload.subtitle
    bodyText := redactText scanner payload.bodyText
    narrative := redactText scanner payload.narrative
    actorDisplayName := redactText scanner payload.actorDisplayName
    originSource := redactText scanner payload.originSource
    facts := redactItems scanner payload.facts
    concepts := redactItems scanner payload.concepts
    filesRead := redactItems scanner payload.filesRead
    filesModified := redactItems scanner payload.filesModified
    metadataJson := scanner.redactValue payload.metadataJson }

/-! ### Scope reassignment -/

/-- The side of a move that a reassignment op describes. -/
inductive ReassignSide where
  | old
  | new
  deriving DecidableEq, Repr

structure ReassignScopePayload where
  operationId : String
  memoryId : String
  oldScopeId : String
  newScopeId : String
  revision : ℤ
  side : ReassignSide
  deriving DecidableEq, Repr

/-- The `side` field of a payload. -/
def parseSide : Option Json → Option ReassignSide
  | some (.str s) => if s = "old" then some .old else if s = "new" then some .new else none
  | _ => none

/-- The `side` field a payload is written with. -/
def ReassignSide.text : ReassignSide → String
  | .old => "old"
  | .new => "new"

/-- `Number.MAX_SAFE_INTEGER`. -/
def maxSafeInteger : ℤ := 9007199254740991

/-- `Number.isSafeInteger(value)`, with the integer. -/
def safeInteger : Option Json → Option ℤ
  | some (.num q) => if q.den = 1 ∧ |q.num| ≤ maxSafeInteger then some q.num else none
  | _ => none

def parseReassignScopePayload (op : ReplicationOp) : Except String ReassignScopePayload :=
  let invalid := Except.error "reassign_payload_invalid"
  if op.opType ≠ .reassignScope then invalid
  else
    let payload := (parsePayload op.payloadJson).getD []
    match cleanJson (payload.get "operation_id"), cleanJson (payload.get "memory_id"),
        cleanJson (payload.get "old_scope_id"), cleanJson (payload.get "new_scope_id"),
        parseSide (payload.get "side"), safeInteger (payload.get "revision") with
    | some operationId, some memoryId, some oldScopeId, some newScopeId, some side,
        some revision =>
      if memoryId = op.entityId ∧ oldScopeId ≠ newScopeId ∧ 0 < revision ∧
          revision = op.clockRev ∧
          cleanText op.scopeId = some (if side = .old then oldScopeId else newScopeId) ∧
          (side = .new → cleanJson (payload.get "scope_id") = some newScopeId) then
        .ok ⟨operationId, memoryId, oldScopeId, newScopeId, revision, side⟩
      else invalid
    | _, _, _, _, _, _ => invalid

structure ReassignScopePayload.Describes (r : ReassignScopePayload) (op : ReplicationOp) :
    Prop where
  opType : op.opType = .reassignScope
  memoryId : r.memoryId = op.entityId
  distinct : r.oldScopeId ≠ r.newScopeId
  revision_pos : 0 < r.revision
  revision : r.revision = op.clockRev
  scope : cleanText op.scopeId = some (if r.side = .old then r.oldScopeId else r.newScopeId)

lemma describes_of_parseReassignScopePayload {op : ReplicationOp} {r : ReassignScopePayload}
    (h : parseReassignScopePayload op = .ok r) : r.Describes op := by
  unfold parseReassignScopePayload at h
  simp only at h
  split_ifs at h with hop
  split at h
  · split_ifs at h with hside hvalid hvalid
    · obtain rfl := Except.ok.inj h
      obtain ⟨hentity, hdistinct, hpos, hclock, hscope, -⟩ := hvalid
      exact ⟨not_not.mp hop, hentity, hdistinct, hpos, hclock, by simpa [hside] using hscope⟩
    · obtain rfl := Except.ok.inj h
      obtain ⟨hentity, hdistinct, hpos, hclock, hscope, -⟩ := hvalid
      exact ⟨not_not.mp hop, hentity, hdistinct, hpos, hclock, by simpa [hside] using hscope⟩
  · cases h

/-- The record stored under `last_scope_reassignment`. -/
def ReassignScopePayload.toRecord (r : ReassignScopePayload) : JsonObject :=
  [("operation_id", .str r.operationId), ("memory_id", .str r.memoryId),
   ("old_scope_id", .str r.oldScopeId), ("new_scope_id", .str r.newScopeId),
   ("revision", .num r.revision), ("side", .str r.side.text)]

/-! ### Access cleanup -/

structure AccessCleanupPayload where
  cleanupScopeId : Option String
  targetPeerDeviceId : Option String
  deriving DecidableEq, Repr

def parseAccessCleanupPayload (op : ReplicationOp) : AccessCleanupPayload :=
  let payload := (parsePayload op.payloadJson).getD []
  { cleanupScopeId := cleanJson ((nonNull (payload.get "cleanup_scope_id")).or
      (payload.get "scope_id"))
    targetPeerDeviceId := cleanJson (payload.get "target_peer_device_id") }

/-! ### Payloads built from rows -/

/-- The value of an optional text column in a payload. -/
def jsonText (v : Option String) : Json := match v with
  | none => .null
  | some s => .str s

/-- The value of an optional number column in a payload. -/
def jsonNum (v : Option ℚ) : Json := match v with
  | none => .null
  | some q => .num q

/-- `parseSqliteJson`: a JSON column goes out as its value, or as the text that is no JSON. -/
def parseSqliteJson : Option JsonText → Json
  | none => .null
  | some (.malformed raw) => .str raw
  | some (.encoded v) => v

/-- `buildPayloadFromMemoryRow`: `metadata_json` goes out only as an object. -/
def buildPayloadFromMemoryRow (row : MemoryItem) : JsonObject :=
  [("session_id", .num row.sessionId), ("kind", .str row.kind), ("title", .str row.title),
   ("subtitle", jsonText row.content.subtitle), ("body_text", .str row.bodyText),
   ("confidence", jsonNum row.content.confidence), ("active", jsonNum row.active),
   ("created_at", .str row.createdAt), ("updated_at", .str row.updatedAt),
   ("metadata_json", .obj (((parseSqliteJson row.metadataJson).asObject).getD [])),
   ("actor_id", jsonText row.actorId),
   ("actor_display_name", jsonText row.content.actorDisplayName),
   ("visibility", jsonText row.visibility), ("workspace_id", jsonText row.workspaceId),
   ("workspace_kind", jsonText row.workspaceKind),
   ("origin_device_id", jsonText row.originDeviceId),
   ("origin_source", jsonText row.content.originSource),
   ("trust_state", jsonText row.content.trustState),
   ("narrative", jsonText row.content.narrative),
   ("facts", parseSqliteJson row.content.facts),
   ("concepts", parseSqliteJson row.content.concepts),
   ("files_read", parseSqliteJson row.content.filesRead),
   ("files_modified", parseSqliteJson row.content.filesModified),
   ("user_prompt_id", jsonNum row.content.userPromptId),
   ("prompt_number", jsonNum row.content.promptNumber), ("deleted_at", jsonText row.deletedAt),
   ("scope_id", jsonText row.scopeId), ("has_deleted_at", .bool row.deletedAt.isSome),
   ("rev", .num (row.rev.getD 0)), ("import_key", jsonText row.importKey),
   ("project", jsonText row.project)]

end Codemem

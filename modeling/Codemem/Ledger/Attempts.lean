import Codemem.Foundation.SqlCondition
import Codemem.Ledger.Encodings
import Codemem.Spool.SpoolFiles

/-!
# Attempts of the retrieval ledger

An attempt to retrieve memories is recorded once, with the memories that it exposed; a second
record of it is compared with the first.  A row is the list of its columns.  Reading an attempt
decodes its encoded columns and keeps the others as they are stored.
-/

namespace Codemem

inductive SqlValue where
  | null
  | number (value : ℚ)
  | text (value : String)
  | json (text : JsonText)

namespace SqlValue

def ofNumber (value : Option ℚ) : SqlValue := value.elim .null .number

def ofText (value : Option String) : SqlValue := value.elim .null .text

def ofJson (value : Option JsonText) : SqlValue := value.elim .null .json

/-- `typeof value === "number"`. -/
def asNumber : SqlValue → Option ℚ
  | .number value => some value
  | _ => none

/-- `typeof value === "string"`. -/
def asText : SqlValue → Option String
  | .text value => some value
  | _ => none

def asJson : SqlValue → Option JsonText
  | .json value => some value
  | _ => none

/-- `a === b`. -/
def same : SqlValue → SqlValue → Bool
  | .null, .null => true
  | .number a, .number b => a == b
  | .text a, .text b => a == b
  | .json a, .json b => a.sameBytes b
  | _, _ => false

end SqlValue

abbrev SqlRow := List (String × SqlValue)

/-- `row[column]`. -/
def SqlRow.get (row : SqlRow) (column : String) : SqlValue :=
  (row.find? fun entry => entry.1 == column).elim .null Prod.snd

def SqlRow.set (row : SqlRow) (column : String) (value : SqlValue) : SqlRow :=
  row.map fun entry => if entry.1 = column then (column, value) else entry

/-- `Date.parse`, where it is finite, `toISOString`, and `julianday`. -/
structure LedgerDates where
  parse : String → Option ℤ
  toISOString : ℤ → Except String String
  julianday : String → Option ℚ

/-! ### What is given -/

structure RetrievalExposureInput where
  memoryId : Option ℚ := none
  memoryImportKey : Option String := none
  originDeviceId : Option String := none
  rank : ℚ
  disposition : String
  «section» : Option String := none
  handoffStatus : String
  memoryRev : Option ℚ := none
  memoryUpdatedAt : Option String := none
  memoryScopeId : Option String := none
  memoryKind : Option String := none
  memoryActive : Option Bool := none
  memoryDeletedAt : Option String := none
  scoreSummary : Option RetrievalScoreSummary := none
  reasonCodes : Option (List String) := none

structure RecordRetrievalAttemptInput where
  attemptId : String
  surface : String
  trigger : String
  startedAt : String
  completedAt : Option String := none
  retrievalStatus : String
  deliveryStatus : String
  candidateCount : ℚ
  selectedCount : ℚ
  recorderVersion : String
  sessionId : Option ℚ := none
  source : Option String := none
  streamId : Option String := none
  sourceSessionId : Option String := none
  promptNumber : Option ℚ := none
  requestId : Option String := none
  rawEventStartSeq : Option ℚ := none
  rawEventEndSeq : Option ℚ := none
  experimentId : Option String := none
  experimentCellId : Option String := none
  evaluationCheckoutId : Option String := none
  evaluationFixtureId : Option String := none
  evaluationSeed : Option ℚ := none
  latencyMs : Option ℚ := none
  project : Option String := none
  scopeId : Option String := none
  mode : Option String := none
  limitRequested : Option ℚ := none
  tokenBudget : Option ℚ := none
  outputTokens : Option ℚ := none
  workingSetFileCount : Option ℚ := none
  workingSetFiles : Option (List String) := none
  queryHashSha256 : Option String := none
  queryCharCount : Option ℚ := none
  queryTokenEstimate : Option ℚ := none
  filterSummary : Option (List (String × RawValue)) := none
  failureCode : Option String := none
  failureStage : Option String := none
  traceVersion : Option ℚ := none
  retentionDays : Option ℚ := none
  retentionPinned : Option Bool := none
  exposures : List RetrievalExposureInput

/-! ### Checks of single values -/

def optionalString (value : Option String) (name : String) (max : ℕ := 512) :
    Except String (Option String) :=
  match value with
  | none => .ok none
  | some text => (requiredString text name max).map some

/-- `/^[a-z0-9][a-z0-9._:/@+~-]{0,127}$/i`. -/
def isStableId (text : String) : Bool :=
  match text.toList with
  | [] => false
  | first :: rest => first.isAlphanum && decide (rest.length ≤ 127) &&
      rest.all fun c => c.isAlphanum || "._:/@+~-".toList.contains c

def optionalStableId (value : Option String) (name : String) : Except String (Option String) :=
  match value with
  | none => .ok none
  | some text => do
    rejectIf (isStableId text = false) (name ++ " must be a bounded stable identifier")
    .ok (some text)

def nonNegativeInteger (value : Option ℚ) (name : String) : Except String (Option ℚ) :=
  match value with
  | none => .ok none
  | some number => do
    rejectIf (number.den ≠ 1 ∨ number < 0 ∨ 9007199254740991 < number)
      (name ++ " must be a non-negative integer")
    .ok (some number)

/-- `/^\d{4}-\d{2}-\d{2}T/`. -/
def startsWithDate (text : String) : Bool :=
  match text.toList with
  | a :: b :: c :: d :: '-' :: e :: f :: '-' :: g :: h :: 'T' :: _ =>
    [a, b, c, d, e, f, g, h].all Char.isDigit
  | _ => false

def isoTimestamp (dates : LedgerDates) (value : Option String) (name : String) :
    Except String (Option String) :=
  match value with
  | none => .ok none
  | some text =>
    match startsWithDate text, dates.parse text with
    | true, some time => (dates.toISOString time).map some
    | _, _ => .error (name ++ " must be an ISO-8601 timestamp")

/-- `[a-f0-9]`, with `[A-F]`. -/
def isHexDigit (c : Char) : Bool := c.isDigit || ('a' ≤ c.toLower && c.toLower ≤ 'f')

/-- The characters of an identifier of an attempt, in their places. -/
def uuidPattern : List (Char → Bool) :=
  List.replicate 8 isHexDigit ++ [(· == '-')] ++ List.replicate 4 isHexDigit ++ [(· == '-')] ++
    [fun c => '1' ≤ c && c ≤ '8'] ++ List.replicate 3 isHexDigit ++ [(· == '-')] ++
    [fun c => "89ab".toList.contains c.toLower] ++ List.replicate 3 isHexDigit ++ [(· == '-')] ++
    List.replicate 12 isHexDigit

def validateUuid (value name : String) : Except String String := do
  rejectIf (value.toList.length ≠ uuidPattern.length ∨
    (uuidPattern.zip value.toList).all (fun place => place.1 place.2) = false)
    (name ++ " must be a UUID")
  .ok (toLowerCase value)

def validateSha256 (value : String) : Except String String := do
  rejectIf (value.toList.length ≠ 64 ∨
    value.toList.all (fun c => c.isDigit || ('a' ≤ c && c ≤ 'f')) = false)
    "queryHashSha256 must be lowercase SHA-256 hex"
  .ok value

def retentionUntil (dates : LedgerDates) (startedAt : String) (days : Option ℚ) (pinned : Bool) :
    Except String (Option String) := do
  let retentionDays := days.getD 90
  rejectIf (retentionDays.den ≠ 1 ∨ retentionDays < 7 ∨ 365 < retentionDays)
    "retentionDays must be an integer from 7 through 365"
  if pinned then .ok none
  else match dates.parse startedAt with
    | none => .error "Invalid time value"
    | some time => (dates.toISOString (time + retentionDays.num * 86400000)).map some

/-! ### Rows -/

def RETRIEVAL_SURFACES : List String :=
  ["prompt_pack", "file_context", "mcp_search", "mcp_search_index", "mcp_pack", "mcp_get",
    "mcp_get_observations", "mcp_recent", "mcp_timeline", "mcp_expand", "mcp_explain",
    "evaluation_replay"]

def assertFailedRetrievalInvariant (retrievalStatus deliveryStatus : String) (selectedCount : ℚ)
    (exposureCount : ℕ) : Except String Unit :=
  rejectIf (retrievalStatus = "failed" ∧
    (selectedCount ≠ 0 ∨ exposureCount ≠ 0 ∨ deliveryStatus ≠ "not_attempted"))
    "failed retrieval requires zero selections, no exposures, and no delivery attempt"

def assertDeliverySelectionInvariant (deliveryStatus : String) (selectedCount : ℚ) :
    Except String Unit :=
  rejectIf (deliveryStatus ≠ "not_attempted" ∧ selectedCount = 0)
    ("deliveryStatus requires selectedCount to be greater than zero unless delivery was not " ++
      "attempted")

/-- The statuses and counts of an attempt fit together. -/
def checkStatuses (dates : LedgerDates) (input : RecordRetrievalAttemptInput) (startedAt : String)
    (completedAt : Option String) : Except String Unit := do
  rejectIf ((completedAt.bind dates.parse).any (fun completed =>
    (dates.parse startedAt).any fun started => completed < started) = true)
    "completedAt cannot precede startedAt"
  rejectIf (input.retrievalStatus ∉ ["succeeded", "no_results", "skipped", "failed", "unknown"])
    "retrievalStatus is invalid"
  rejectIf (input.surface ∉ RETRIEVAL_SURFACES) "surface is invalid for contract version 1"
  rejectIf (input.trigger ∉ ["automatic", "explicit", "evaluation"]) "trigger is invalid"
  rejectIf (input.deliveryStatus ∉ ["not_attempted", "handed_off", "failed", "unknown"])
    "deliveryStatus is invalid"
  let _ ← nonNegativeInteger (some input.candidateCount) "candidateCount"
  let _ ← nonNegativeInteger (some input.selectedCount) "selectedCount"
  assertFailedRetrievalInvariant input.retrievalStatus input.deliveryStatus input.selectedCount
    input.exposures.length
  assertDeliverySelectionInvariant input.deliveryStatus input.selectedCount
  rejectIf (input.retrievalStatus = "succeeded" ∧ input.candidateCount = 0)
    ("succeeded retrieval requires at least one candidate; use no_results for an empty " ++
      "completion")
  rejectIf (input.candidateCount < input.selectedCount) "selectedCount cannot exceed candidateCount"
  rejectIf (input.candidateCount < (input.exposures.length : ℚ))
    "persisted exposures cannot exceed candidateCount"
  rejectIf (input.retrievalStatus ∈ ["no_results", "skipped"] ∧ (input.candidateCount ≠ 0 ∨
    input.selectedCount ≠ 0 ∨ input.exposures ≠ [] ∨ input.deliveryStatus ≠ "not_attempted"))
    (input.retrievalStatus ++ " requires zero candidates, zero selections, no exposures, and no " ++
      "delivery attempt")

/-- The identities of an attempt fit together. -/
def checkIdentities (input : RecordRetrievalAttemptInput) : Except String Unit := do
  let checkout ← optionalStableId input.evaluationCheckoutId "evaluationCheckoutId"
  let fixture ← optionalStableId input.evaluationFixtureId "evaluationFixtureId"
  let seed ← nonNegativeInteger input.evaluationSeed "evaluationSeed"
  let replay := input.surface = "evaluation_replay"
  rejectIf (replay ∧ input.trigger ≠ "evaluation")
    "evaluation_replay requires the evaluation trigger"
  rejectIf (replay ∧ input.experimentId = none) "evaluation_replay requires experimentId"
  rejectIf (replay ∧ input.experimentCellId = none) "evaluation_replay requires experimentCellId"
  rejectIf (replay ∧ checkout.isNone = fixture.isNone)
    "evaluation_replay requires exactly one checkout or fixture identity"
  rejectIf (replay ∧ seed = none) "evaluation_replay requires evaluationSeed"
  rejectIf (¬replay ∧ (checkout.isSome ∨ fixture.isSome ∨ seed.isSome))
    "evaluation replay fields require the evaluation_replay surface"
  rejectIf (input.streamId.isSome ∧ input.source = none)
    "source is required when streamId is provided"
  rejectIf (input.requestId.isSome ∧ input.source = none)
    "source is required when requestId is provided"
  rejectIf (input.retentionPinned = some true ∧ input.experimentId = none)
    "retention pinning requires a named experiment"
  rejectIf (input.rawEventEndSeq.any (fun stop => input.rawEventStartSeq.any (stop < ·)) = true)
    "rawEventEndSeq cannot precede rawEventStartSeq"

def numberColumn (column : String) (value : Option ℚ) (name : String) :
    String × Except String SqlValue :=
  (column, (nonNegativeInteger value name).map SqlValue.ofNumber)

def textColumn (column : String) (value : Option String) (name : String) (max : ℕ := 512) :
    String × Except String SqlValue :=
  (column, (optionalString value name max).map SqlValue.ofText)

/-- The columns of an attempt, each with its check, in the order of the row. -/
def attemptColumns (byteLength : ByteLength) (dates : LedgerDates)
    (input : RecordRetrievalAttemptInput) (startedAt : String) (completedAt : Option String) :
    List (String × Except String SqlValue) :=
  [("attempt_id", (validateUuid input.attemptId "attemptId").map .text),
    ("contract_version", .ok (.number 1)),
    textColumn "surface" (some input.surface) "surface" 128,
    textColumn "trigger" (some input.trigger) "trigger" 128,
    ("started_at", .ok (.text startedAt)),
    ("completed_at", .ok (.ofText completedAt)),
    ("retrieval_status", .ok (.text input.retrievalStatus)),
    ("delivery_status", .ok (.text input.deliveryStatus)),
    ("candidate_count", .ok (.number input.candidateCount)),
    ("selected_count", .ok (.number input.selectedCount)),
    ("persisted_candidate_count", .ok (.number input.exposures.length)),
    textColumn "recorder_version" (some input.recorderVersion) "recorderVersion" 128,
    numberColumn "session_id" input.sessionId "sessionId",
    textColumn "source" input.source "source" 128,
    textColumn "stream_id" input.streamId "streamId",
    textColumn "source_session_id" input.sourceSessionId "sourceSessionId",
    numberColumn "prompt_number" input.promptNumber "promptNumber",
    textColumn "request_id" input.requestId "requestId",
    numberColumn "raw_event_start_seq" input.rawEventStartSeq "rawEventStartSeq",
    numberColumn "raw_event_end_seq" input.rawEventEndSeq "rawEventEndSeq",
    textColumn "experiment_id" input.experimentId "experimentId" 128,
    textColumn "experiment_cell_id" input.experimentCellId "experimentCellId" 128,
    ("evaluation_checkout_id", .ok (.ofText input.evaluationCheckoutId)),
    ("evaluation_fixture_id", .ok (.ofText input.evaluationFixtureId)),
    ("evaluation_seed", .ok (.ofNumber input.evaluationSeed)),
    numberColumn "latency_ms" input.latencyMs "latencyMs",
    textColumn "project" input.project "project" 1024,
    textColumn "scope_id" input.scopeId "scopeId",
    textColumn "mode" input.mode "mode" 64,
    numberColumn "limit_requested" input.limitRequested "limitRequested",
    numberColumn "token_budget" input.tokenBudget "tokenBudget",
    numberColumn "output_tokens" input.outputTokens "outputTokens",
    numberColumn "working_set_file_count" input.workingSetFileCount "workingSetFileCount",
    ("working_set_files_json",
      (serializeWorkingSetFiles byteLength input.workingSetFiles).map .ofJson),
    ("query_hash_sha256", match input.queryHashSha256 with
      | none => .ok .null
      | some hash => (validateSha256 hash).map .text),
    numberColumn "query_char_count" input.queryCharCount "queryCharCount",
    numberColumn "query_token_estimate" input.queryTokenEstimate "queryTokenEstimate",
    ("filter_summary_json", (serializeFilterSummary byteLength input.filterSummary).map .ofJson),
    textColumn "failure_code" input.failureCode "failureCode" 128,
    textColumn "failure_stage" input.failureStage "failureStage" 128,
    numberColumn "trace_version" input.traceVersion "traceVersion",
    ("retention_until", (retentionUntil dates startedAt input.retentionDays
      (input.retentionPinned.getD false)).map .ofText),
    ("retention_pinned", .ok (.number (if input.retentionPinned.getD false then 1 else 0))),
    ("retention_finalized_at", .ok .null)]

def checkedRow (columns : List (String × Except String SqlValue)) : Except String SqlRow :=
  columns.mapM fun column => column.2.map fun value => (column.1, value)

def canonicalAttempt (byteLength : ByteLength) (dates : LedgerDates)
    (input : RecordRetrievalAttemptInput) : Except String SqlRow := do
  let startedAt ← isoTimestamp dates (some input.startedAt) "startedAt"
  let completedAt ← isoTimestamp dates input.completedAt "completedAt"
  checkStatuses dates input (startedAt.getD "") completedAt
  checkIdentities input
  checkedRow (attemptColumns byteLength dates input (startedAt.getD "") completedAt)

def timeColumn (dates : LedgerDates) (column : String) (value : Option String) (name : String) :
    String × Except String SqlValue :=
  (column, (isoTimestamp dates value name).map SqlValue.ofText)

/-- The columns of an exposure, each with its check, in the order of the row. -/
def exposureColumns (byteLength : ByteLength) (dates : LedgerDates) (attemptId : SqlValue)
    (exposure : RetrievalExposureInput) : List (String × Except String SqlValue) :=
  [("attempt_id", .ok attemptId),
    numberColumn "memory_id" exposure.memoryId "exposure.memoryId",
    textColumn "memory_import_key" exposure.memoryImportKey "exposure.memoryImportKey",
    textColumn "origin_device_id" exposure.originDeviceId "exposure.originDeviceId",
    ("rank", .ok (.number exposure.rank)),
    ("disposition", .ok (.text exposure.disposition)),
    textColumn "section" exposure.section "exposure.section" 128,
    ("handoff_status", .ok (.text exposure.handoffStatus)),
    numberColumn "memory_rev" exposure.memoryRev "exposure.memoryRev",
    timeColumn dates "memory_updated_at" exposure.memoryUpdatedAt "exposure.memoryUpdatedAt",
    textColumn "memory_scope_id" exposure.memoryScopeId "exposure.memoryScopeId",
    textColumn "memory_kind" exposure.memoryKind "exposure.memoryKind" 64,
    ("memory_active", .ok (.ofNumber (exposure.memoryActive.map fun on => if on then 1 else 0))),
    timeColumn dates "memory_deleted_at" exposure.memoryDeletedAt "exposure.memoryDeletedAt",
    ("score_summary_json", (serializeScoreSummary byteLength exposure.scoreSummary).map .ofJson),
    ("reason_codes_json", (serializeReasonCodes byteLength exposure.reasonCodes).map .ofJson)]

/-- The row of an exposure, after those of some ranks. -/
def canonicalExposure (byteLength : ByteLength) (dates : LedgerDates)
    (input : RecordRetrievalAttemptInput) (attemptId : SqlValue) (ranks : List ℚ)
    (exposure : RetrievalExposureInput) : Except String SqlRow := do
  let _ ← nonNegativeInteger (some exposure.rank) "exposure.rank"
  rejectIf (exposure.rank = 0 ∨ exposure.rank ∈ ranks)
    "exposure ranks must be unique positive integers"
  rejectIf (input.candidateCount < exposure.rank) "exposure.rank cannot exceed candidateCount"
  rejectIf (exposure.disposition ∉ ["selected", "dropped", "deduped", "trimmed", "compressed"])
    "exposure disposition is invalid for contract version 1"
  rejectIf (exposure.section.any (· ∉ ["summary", "timeline", "observations"]) = true)
    "exposure section is invalid for contract version 1"
  rejectIf (exposure.disposition ≠ "selected" ∧ exposure.handoffStatus ≠ "not_attempted")
    "diagnostic exposures cannot have a handoff status"
  rejectIf (exposure.disposition = "selected" ∧ exposure.handoffStatus ≠ input.deliveryStatus)
    "selected exposure handoff status must match the attempt delivery status"
  checkedRow (exposureColumns byteLength dates attemptId exposure)

/-- The rows of exposures, after those of some ranks. -/
def canonicalExposureRows (byteLength : ByteLength) (dates : LedgerDates)
    (input : RecordRetrievalAttemptInput) (attemptId : SqlValue) :
    List ℚ → List RetrievalExposureInput → Except String (List SqlRow)
  | _, [] => .ok []
  | ranks, exposure :: exposures => do
    let row ← canonicalExposure byteLength dates input attemptId ranks exposure
    let rows ← canonicalExposureRows byteLength dates input attemptId (exposure.rank :: ranks)
      exposures
    .ok (row :: rows)

def orderByRank (rows : List SqlRow) : List SqlRow :=
  rows.insertionSort fun left right =>
    (left.get "rank").asNumber.getD 0 ≤ (right.get "rank").asNumber.getD 0

def canonicalExposures (byteLength : ByteLength) (dates : LedgerDates)
    (input : RecordRetrievalAttemptInput) (attemptId : SqlValue) : Except String (List SqlRow) := do
  let selected := (input.exposures.filter fun exposure => exposure.disposition = "selected").length
  rejectIf (50 < selected) "selected exposures exceed 50"
  rejectIf (20 < input.exposures.length - selected) "diagnostic exposures exceed 20"
  rejectIf ((selected : ℚ) ≠ min input.selectedCount 50)
    "selected exposure count must equal the bounded selectedCount"
  let rows ← canonicalExposureRows byteLength dates input attemptId [] input.exposures
  .ok (orderByRank rows)

end Codemem

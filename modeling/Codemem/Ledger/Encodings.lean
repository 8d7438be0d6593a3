import Codemem.Foundation.Fallible
import Codemem.Foundation.PosixPath
import Codemem.Json

/-!
# Encoded columns of the retrieval ledger

Four columns of the ledger hold JSON texts: the filter summary and the files of the working set of
an attempt, the scores and the reason codes of an exposure.  Each has an encoder that checks and
bounds what it is given, and a decoder that checks the text again and reads a text that fails as
absent.
-/

namespace Codemem

def MAX_RETRIEVAL_JSON_BYTES : ℕ := 16 * 1024

/-- A value that the caller gives for a key: `undefined`, a number that is not finite, or JSON. -/
inductive RawValue where
  | undefined
  | nonFinite
  | value (json : Json)

abbrev ByteLength := JsonText → ℕ

def requiredString (value name : String) (max : ℕ) : Except String String := do
  rejectIf (value = "" ∨ max < (utf16 value).length)
    (name ++ " must be a non-empty string of at most " ++ toString max ++ " characters")
  .ok value

def boundedJson (byteLength : ByteLength) (value : Json) (name : String) :
    Except String JsonText := do
  rejectIf (MAX_RETRIEVAL_JSON_BYTES < byteLength (.encoded value))
    (name ++ " exceeds " ++ toString MAX_RETRIEVAL_JSON_BYTES ++ " bytes")
  .ok (.encoded value)

def parsePersistedJson (byteLength : ByteLength) (value : Option JsonText) : Option Json :=
  value.bind fun text => if MAX_RETRIEVAL_JSON_BYTES < byteLength text then none else text.parse

/-- A key that is not among some is refused. -/
def rejectOtherKey (keys : List String) (fields : List (String × RawValue)) (message : String) :
    Except String Unit :=
  match fields.find? fun field => !keys.contains field.1 with
  | some field => .error (message ++ ": " ++ field.1)
  | none => .ok ()

def definedEntries (keys : List String) (fields : List (String × RawValue)) : JsonObject :=
  keys.filterMap fun key =>
    match fields.find? fun field => field.1 == key with
    | some (_, .value json) => some (key, json)
    | _ => none

/-! ### Filter summaries -/

def isBoundedString : Json → Bool
  | .str text => text != "" && decide ((utf16 text).length ≤ 512)
  | _ => false

def isBoundedStringList : Json → Bool
  | .arr items => decide (items.length ≤ 50) && items.all isBoundedString
  | _ => false

/-- `typeof entry === "number" && Number.isFinite(entry)`. -/
def isFiniteNumber : Json → Bool
  | .num _ => true
  | _ => false

/-- `typeof entry === "boolean"`. -/
def isBoolean : Json → Bool
  | .bool _ => true
  | _ => false

def FILTER_KEY_ORDER : List String :=
  ["kind", "session_id", "since", "project", "scope_id", "include_scope_ids", "exclude_scope_ids",
    "visibility", "include_visibility", "exclude_visibility", "include_workspace_ids",
    "exclude_workspace_ids", "include_workspace_kinds", "exclude_workspace_kinds",
    "include_actor_ids", "exclude_actor_ids", "include_trust_states", "exclude_trust_states",
    "ownership_scope", "personal_first", "trust_bias", "widen_shared_when_weak",
    "widen_shared_min_personal_results", "widen_shared_min_personal_score",
    "widen_project_when_weak", "widen_project_min_results", "widen_project_min_score",
    "widen_project_max_results"]

def isValidRetrievalFilterSummaryEntry (key : String) (entry : Json) : Bool :=
  FILTER_KEY_ORDER.contains key &&
    if ["kind", "since", "project", "ownership_scope", "trust_bias"].contains key then
      isBoundedString entry
    else if ["session_id", "widen_shared_min_personal_results", "widen_shared_min_personal_score",
        "widen_project_min_results", "widen_project_min_score",
        "widen_project_max_results"].contains key then
      isFiniteNumber entry
    else if ["scope_id", "visibility"].contains key then
      isBoundedString entry || isBoundedStringList entry
    else if ["personal_first", "widen_shared_when_weak", "widen_project_when_weak"].contains key then
      isBoolean entry || isBoundedString entry
    else isBoundedStringList entry

/-- A defined value of a filter summary is allowed. -/
def isFilterField (field : String × RawValue) : Bool :=
  FILTER_KEY_ORDER.contains field.1 &&
    match field.2 with
    | .undefined => true
    | .nonFinite => false
    | .value json => isValidRetrievalFilterSummaryEntry field.1 json

def isRetrievalFilterSummary : Json → Bool
  | .obj fields => fields.all fun field => isValidRetrievalFilterSummaryEntry field.1 field.2
  | _ => false

def serializeFilterSummary (byteLength : ByteLength) :
    Option (List (String × RawValue)) → Except String (Option JsonText)
  | none => .ok none
  | some input => do
    rejectOtherKey FILTER_KEY_ORDER input "filterSummary contains unsupported key"
    rejectIf (input.all isFilterField = false) "filterSummary contains an invalid value shape"
    let json ← boundedJson byteLength (.obj (definedEntries FILTER_KEY_ORDER input)) "filterSummary"
    .ok (some json)

def decodeFilterSummary (byteLength : ByteLength) (value : Option JsonText) : Option Json :=
  (parsePersistedJson byteLength value).filter isRetrievalFilterSummary

/-! ### Scores -/

def FUSION_SCORE_KEY_ORDER : List String :=
  ["fts_score", "fts_rank", "semantic_score", "semantic_rank", "fused_score", "rank_constant",
    "fusion_rank", "secondary_score"]

def SCORE_KEY_ORDER : List String :=
  ["base_score", "combined_score", "recency", "kind_bonus", "quality_boost", "role_adjustment",
    "working_set_overlap", "query_path_overlap", "personal_bias", "shared_trust_penalty",
    "recap_penalty", "tasklike_penalty", "text_overlap", "tag_overlap"] ++ FUSION_SCORE_KEY_ORDER

def NULLABLE_SCORE_KEYS : List String :=
  ["base_score", "combined_score", "fts_score", "fts_rank", "semantic_score", "semantic_rank"]

/-- A score summary: its own scores, and those of the fusion. -/
structure RetrievalScoreSummary where
  flat : List (String × RawValue)
  fusion : Option (List (String × RawValue))

/-- The value is JSON `null`. -/
def isNull : Json → Bool
  | .null => true
  | _ => false

def isValidScoreSummaryEntry (key : String) (value : Json) : Bool :=
  isFiniteNumber value || (isNull value && NULLABLE_SCORE_KEYS.contains key)

def flattenScoreSummary (input : RetrievalScoreSummary) : Except String (List (String × RawValue)) :=
  match input.fusion with
  | none => .ok input.flat
  | some fusion => do
    rejectOtherKey FUSION_SCORE_KEY_ORDER fusion "scoreSummary.fusion contains unsupported key"
    rejectIf ((fusion.any fun field => input.flat.any fun own => own.1 == field.1) = true)
      "scoreSummary contains duplicate fusion key"
    .ok (input.flat ++ fusion)

/-- A defined score is allowed. -/
def isScoreField (field : String × RawValue) : Bool :=
  SCORE_KEY_ORDER.contains field.1 &&
    match field.2 with
    | .undefined => true
    | .nonFinite => false
    | .value json => isValidScoreSummaryEntry field.1 json

/-- What is said of a score that is not allowed. -/
def scoreFieldError (key : String) : String :=
  if SCORE_KEY_ORDER.contains key then
    "scoreSummary." ++ key ++ " must be " ++
      if NULLABLE_SCORE_KEYS.contains key then "a finite number or null" else "a finite number"
  else "scoreSummary contains unsupported key: " ++ key

def isRetrievalScoreSummary : Json → Bool
  | .obj fields => fields.all fun field =>
      SCORE_KEY_ORDER.contains field.1 && isValidScoreSummaryEntry field.1 field.2
  | _ => false

def serializeScoreSummary (byteLength : ByteLength) :
    Option RetrievalScoreSummary → Except String (Option JsonText)
  | none => .ok none
  | some input => do
    let fields ← flattenScoreSummary input
    rejectIf (fields.all isScoreField = false)
      (scoreFieldError ((fields.find? fun field => !isScoreField field).elim "" Prod.fst))
    let json ← boundedJson byteLength (.obj (definedEntries SCORE_KEY_ORDER fields)) "scoreSummary"
    .ok (some json)

def decodeScoreSummary (byteLength : ByteLength) (value : Option JsonText) : Option Json :=
  (parsePersistedJson byteLength value).filter isRetrievalScoreSummary

/-! ### Lists of texts -/

def decodeStringArray (byteLength : ByteLength) (value : Option JsonText) (maximum : ℕ) :
    Option (List String) :=
  match parsePersistedJson byteLength value with
  | some (.arr items) =>
    if items.length ≤ maximum then items.mapM Json.asText else none
  | _ => none

/-- `[a-z0-9]`. -/
def isLowerAlphanum (c : Char) : Bool := ('a' ≤ c && c ≤ 'z') || ('0' ≤ c && c ≤ '9')

/-- `/^[a-z0-9][a-z0-9._-]{0,63}$/`. -/
def isReasonCode (code : String) : Bool :=
  match code.toList with
  | [] => false
  | first :: rest => isLowerAlphanum first && decide (rest.length ≤ 63) &&
      rest.all fun c => isLowerAlphanum c || c == '.' || c == '_' || c == '-'

def serializeReasonCodes (byteLength : ByteLength) :
    Option (List String) → Except String (Option JsonText)
  | none => .ok none
  | some input => do
    rejectIf (20 < input.length) "reasonCodes exceeds 20 values"
    rejectIf (input.all isReasonCode = false)
      "reasonCodes must contain actual strings with bounded stable codes"
    let json ← boundedJson byteLength (.arr (input.map Json.str)) "reasonCodes"
    .ok (some json)

def decodeReasonCodes (byteLength : ByteLength) (value : Option JsonText) : Option (List String) :=
  (decodeStringArray byteLength value 20).filter fun codes =>
    (serializeReasonCodes byteLength (some codes)).isOk

/-! ### Paths -/

/-- `path.replaceAll("\\", "/")`. -/
def forwardSlashes (path : String) : String :=
  String.ofList (path.toList.map fun c => if c = '\\' then '/' else c)

/-- A slash in either direction. -/
def isPathSeparator (c : Char) : Bool := c == '/' || c == '\\'

/-- `isAbsolute(path) || win32.isAbsolute(path)`: on either platform the second check is the wider
one. -/
def isAbsolutePath (path : String) : Bool :=
  match path.toList with
  | [] => false
  | first :: rest => isPathSeparator first ||
      (first.isAlpha && match rest with
        | ':' :: third :: _ => isPathSeparator third
        | _ => false)

/-- `normalized.replace(/^\.\//, "")`. -/
def withoutDotSlash (path : String) : String :=
  if hasPrefix "./" path then sliceFrom 2 path else path

def repositoryPath (path : String) : String :=
  withoutDotSlash (posixNormalize (forwardSlashes path))

/-- One path of `serializeWorkingSetFiles`. -/
def workingSetFile (path : String) : Except String String := do
  let replaced ← requiredString (forwardSlashes path) "workingSetFiles" 1024
  let normalized := posixNormalize replaced
  rejectIf (isAbsolutePath path = true ∨ normalized = ".." ∨ hasPrefix "../" normalized = true)
    "workingSetFiles must contain repository-relative paths"
  .ok (withoutDotSlash normalized)

def serializeWorkingSetFiles (byteLength : ByteLength) :
    Option (List String) → Except String (Option JsonText)
  | none => .ok none
  | some input => do
    rejectIf (50 < input.length) "workingSetFiles exceeds 50 paths"
    let paths ← input.mapM workingSetFile
    let json ← boundedJson byteLength (.arr (paths.map Json.str)) "workingSetFiles"
    .ok (some json)

def decodeWorkingSetFiles (byteLength : ByteLength) (value : Option JsonText) :
    Option (List String) :=
  (decodeStringArray byteLength value 50).filter fun paths =>
    (serializeWorkingSetFiles byteLength (some paths)).isOk

end Codemem

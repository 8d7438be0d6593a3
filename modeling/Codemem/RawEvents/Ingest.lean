import Codemem.RawEvents.EventLog

/-!
# Ingest requests

`ingestRawEvents` takes the events of a request as JSON objects.  An event without an identifier is
given one, made of its sequence number, or of its times, and a digest of its content; where the
sequence number came as a text, older versions made another identifier of the same event, which is
kept as an alias.
-/

namespace Codemem

/-- `event_seq` as a request carries it. -/
inductive RawEventSeq
  | number (value : ℤ)
  | text (raw : String)
  deriving DecidableEq, Repr

/-- What a generated identifier is a digest of. -/
inductive EventSeed
  | timed (tsMonoMs : Option ℚ) (payload : JsonObject) (eventType : String) (tsWallMs : Option ℤ)
  | sequenced (payload : JsonObject) (eventSeq : RawEventSeq) (eventType : String)

/-- What the normalization of events takes from outside: `stripPrivateObj`, and the first sixteen
hex digits of the SHA-256 of the stable JSON text of a seed. -/
structure IngestTools where
  stripPrivate : JsonObject → JsonObject
  seedDigest : EventSeed → String

/-- An event of a request for one stream.  The times are as `optionalNumber` reads them, the wall
time rounded down, and the capture context is normalized. -/
structure RawEventItem where
  eventId : Option String
  eventType : String
  eventSeq : Option RawEventSeq
  payload : JsonObject
  tsWallMs : Option ℤ
  tsMonoMs : Option ℚ
  isV2Host : Bool
  captureContext : Option Json

/-! ### Fields -/

/-- `Number.MAX_SAFE_INTEGER`, the bound of a sequence number. -/
def maxSafeEventSeq : ℤ := 9007199254740991

/-- `Number.isSafeInteger` of an integer. -/
def isSafeInteger (value : ℤ) : Bool := -maxSafeEventSeq ≤ value && value ≤ maxSafeEventSeq

/-- The number a run of digits stands for. -/
def digitsValue (digits : List Char) : ℕ :=
  digits.foldl (fun value c => 10 * value + (c.toNat - '0'.toNat)) 0

/-- `/^-?\d+$/` and the number that such a text stands for. -/
def integerText (raw : String) : Option ℤ :=
  let digits := if raw.toList.head? = some '-' then raw.toList.tail else raw.toList
  if digits.isEmpty || !digits.all Char.isDigit then none
  else if raw.toList.head? = some '-' then some (-(digitsValue digits : ℤ))
  else some (digitsValue digits)

/-- `optionalEventSeq` of a field that is present. -/
def RawEventSeq.value : RawEventSeq → Except String ℤ
  | .number value => if isSafeInteger value then .ok value else .error "event_seq must be int"
  | .text raw =>
    match integerText raw with
    | none => .error "event_seq must be int"
    | some value => if isSafeInteger value then .ok value else .error "event_seq must be int"

/-- `MAX_EVENT_FIELD_LENGTH`. -/
def maxEventFieldLength : ℕ := 128

/-- `EVENT_FIELD_PATTERN`, for one character. -/
def isEventFieldChar (c : Char) : Bool :=
  ('A' ≤ c && c ≤ 'Z') || ('a' ≤ c && c ≤ 'z') || ('0' ≤ c && c ≤ '9') ||
    c = '.' || c = '_' || c = ':' || c = '-'

def validateEventField (value field : String) : Except String String :=
  let normalized := trim value
  if normalized.toList.isEmpty then .error (field ++ " required")
  else if maxEventFieldLength < normalized.length || !normalized.toList.all isEventFieldChar then
    .error (field ++ " has invalid syntax")
  else .ok normalized

/-! ### Normalization -/

/-- The field in which the provenance of a V2 host is kept. -/
def hostGenerationKey : String := "codemem_host_generation"

namespace RawEventItem

variable (tools : IngestTools) (item : RawEventItem)

/-- The payload that is stored: private parts stripped, and the provenance of the host set by the
request only. -/
def storedPayload : JsonObject :=
  let stripped := (tools.stripPrivate item.payload).filter fun entry => entry.1 != hostGenerationKey
  if item.isV2Host then JsonObject.set stripped hostGenerationKey (.str "v2") else stripped

def generatedEventId (eventType : String) (eventSeq : Option ℤ) : String :=
  match eventSeq with
  | none =>
    "legacy-" ++ tools.seedDigest
      (.timed item.tsMonoMs (item.storedPayload tools) eventType item.tsWallMs)
  | some seq =>
    "legacy-seq-" ++ toString seq ++ "-" ++
      tools.seedDigest (.sequenced (item.storedPayload tools) (.number seq) eventType)

def legacyStringSequenceEventId (eventType raw : String) : String :=
  "legacy-seq-" ++ raw ++ "-" ++
    tools.seedDigest (.sequenced (item.storedPayload tools) (.text raw) eventType)

/-- The event carries no identifier. -/
def isUnnamed : Bool := item.eventId.all fun id => id.toList.isEmpty

/-- The identifier of an event: its own, or a generated one. -/
def resolvedEventId (eventType : String) (eventSeq : Option ℤ) : Except String String :=
  if item.isUnnamed then .ok (item.generatedEventId tools eventType eventSeq)
  else validateEventField (item.eventId.getD "") "event_id"

/-- The identifier that older versions generated, where it is another one. -/
def legacyEventId (eventType eventId : String) : Option String :=
  match item.eventSeq with
  | some (.text raw) =>
    let legacyEventId := item.legacyStringSequenceEventId tools eventType raw
    if item.isUnnamed && legacyEventId != eventId then some legacyEventId else none
  | _ => none

/-- `normalizeEvent`, for an event of the stream. -/
def normalizeEvent (streamId : String) : Except String NormalizedEvent := do
  let eventType ← validateEventField item.eventType "event_type"
  let eventSeq ← (item.eventSeq.mapM RawEventSeq.value : Except String (Option ℤ))
  let eventId ← item.resolvedEventId tools eventType eventSeq
  return {
    eventId := eventId
    eventType := eventType
    payload := item.storedPayload tools
    tsWallMs := item.tsWallMs
    captureContext := item.captureContext
    streamId := streamId
    legacyEventId := item.legacyEventId tools eventType eventId }

end RawEventItem

/-- `normalizeRequest`, for a request whose events are of one stream. -/
def normalizeRequest (tools : IngestTools) (stream : StreamIdentity) (items : List RawEventItem) :
    Except String NormalizedRequest :=
  (items.mapM fun (item : RawEventItem) => item.normalizeEvent tools stream.streamId).map fun events =>
    ⟨stream.source, events⟩

namespace RawEventStore

/-- `ingestRawEvents` of a request whose events are of one stream. -/
def ingestRequest (tools : IngestTools) (stream : StreamIdentity) (s : RawEventStore)
    (items : List RawEventItem) : Except String RawEventStore :=
  (normalizeRequest tools stream items).bind s.ingestRawEvents

def ingestRequests (tools : IngestTools) (stream : StreamIdentity) (s : RawEventStore)
    (requests : List (List RawEventItem)) : Except String RawEventStore :=
  requests.foldlM (fun s items => s.ingestRequest tools stream items) s

end RawEventStore

end Codemem

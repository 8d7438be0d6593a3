import Mathlib

/-!
# Push bodies

A push sends the outbound ops in batches.  `chunkOpsBySize` fills a batch as long as the text
`{"ops": [...]}` stays within the limit of the receiver; `pushOps` sends a body with two more
fields, and halves a batch that the receiver calls too large.  A body is modelled as the text that
`JSON.stringify` makes of it, and its length as its number of UTF-8 bytes.
-/

namespace Codemem

/-- The UTF-8 bytes of a text. -/
def utf8Length (s : String) : ℕ := (s.toList.map Char.utf8Size).sum

/-! ### Texts of ops -/

def hexDigit (n : ℕ) : Char := "0123456789abcdef".toList.getD n '0'

/-- How `JSON.stringify` writes a character of a text. -/
def jsonChar (c : Char) : List Char :=
  if c = '"' then ['\\', '"']
  else if c = '\\' then ['\\', '\\']
  else if c.toNat = 8 then ['\\', 'b']
  else if c.toNat = 9 then ['\\', 't']
  else if c.toNat = 10 then ['\\', 'n']
  else if c.toNat = 12 then ['\\', 'f']
  else if c.toNat = 13 then ['\\', 'r']
  else if c.toNat < 32 then ['\\', 'u', '0', '0', hexDigit (c.toNat / 16), hexDigit (c.toNat % 16)]
  else [c]

/-- `JSON.stringify` of a text. -/
def jsonString (s : String) : String :=
  "\"" ++ String.ofList (s.toList.flatMap jsonChar) ++ "\""

/-- `JSON.stringify` of a text that may be `null`. -/
def jsonStringOrNull : Option String → String
  | none => "null"
  | some s => jsonString s

/-- A row of `replication_ops` as it is sent, its payload as the stored text. -/
structure WireOp where
  opId : String
  entityType : String
  entityId : String
  opType : String
  payloadJson : Option String
  clockRev : ℤ
  clockUpdatedAt : String
  clockDeviceId : String
  deviceId : String
  createdAt : String
  scopeId : Option String
  deriving DecidableEq, Repr

/-- `JSON.stringify(op)`. -/
def WireOp.json (op : WireOp) : String :=
  "\x7b\"op_id\":" ++ jsonString op.opId ++
    ",\"entity_type\":" ++ jsonString op.entityType ++
    ",\"entity_id\":" ++ jsonString op.entityId ++
    ",\"op_type\":" ++ jsonString op.opType ++
    ",\"payload_json\":" ++ jsonStringOrNull op.payloadJson ++
    ",\"clock_rev\":" ++ toString op.clockRev ++
    ",\"clock_updated_at\":" ++ jsonString op.clockUpdatedAt ++
    ",\"clock_device_id\":" ++ jsonString op.clockDeviceId ++
    ",\"device_id\":" ++ jsonString op.deviceId ++
    ",\"created_at\":" ++ jsonString op.createdAt ++
    ",\"scope_id\":" ++ jsonStringOrNull op.scopeId ++ "\x7d"

def WireOp.bytes (op : WireOp) : ℕ := utf8Length op.json

/-- Texts with commas between them. -/
def joinComma : List String → String
  | [] => ""
  | [s] => s
  | s :: rest => s ++ "," ++ joinComma rest

/-- `LOCAL_SYNC_CAPABILITY`. -/
def localSyncCapability : String := "scoped"

/-- `LOCAL_SYNC_FEATURES`. -/
def localSyncFeatures : List String := ["reassign_scope"]

/-- The fields that `pushOps` adds to the ops, with the end of the body. -/
def pushFields : String :=
  ",\"sync_capability\":" ++ jsonString localSyncCapability ++
    ",\"sync_features\":[" ++ joinComma (localSyncFeatures.map jsonString) ++ "]\x7d"

/-- The body that `pushOps` sends. -/
def pushBody (ops : List WireOp) : String :=
  "\x7b\"ops\":[" ++ joinComma (ops.map WireOp.json) ++ "]" ++ pushFields

/-! ### Batches -/

/-- `MAX_SYNC_BODY_BYTES`. -/
def maxSyncBodyBytes : ℕ := 1048576

/-- `WRAPPER_OVERHEAD`. -/
def wrapperOverhead : ℕ := 9

/-- `COMMA_OVERHEAD`. -/
def commaOverhead : ℕ := 1

/-- The loop state of `chunkOpsBySize`. -/
structure ChunkState where
  batches : List (List WireOp)
  current : List WireOp
  currentBytes : ℕ

/-- One op of the loop. -/
def ChunkState.add (maxBytes : ℕ) (s : ChunkState) (op : WireOp) : Except String ChunkState :=
  let addedBytes := if s.current.isEmpty then op.bytes else op.bytes + commaOverhead
  if s.currentBytes + addedBytes ≤ maxBytes then
    .ok { s with current := s.current ++ [op], currentBytes := s.currentBytes + addedBytes }
  else if s.current.isEmpty then .error "single op exceeds size limit"
  else if maxBytes < wrapperOverhead + op.bytes then .error "single op exceeds size limit"
  else .ok ⟨s.batches ++ [s.current], [op], wrapperOverhead + op.bytes⟩

def chunkOpsBySize (ops : List WireOp) (maxBytes : ℕ) : Except String (List (List WireOp)) :=
  (ops.foldlM (ChunkState.add maxBytes) ⟨[], [], wrapperOverhead⟩).map fun s =>
    if s.current.isEmpty then s.batches else s.batches ++ [s.current]

/-! ### Requests -/

/-- The answer to a push: its status, whether it has a payload, and the error detail in it. -/
structure PushAnswer where
  status : ℕ
  hasPayload : Bool
  detail : Option String
  deriving DecidableEq, Repr

/-- The push went through. -/
def PushAnswer.accepted (answer : PushAnswer) : Bool := answer.status == 200 && answer.hasPayload

/-- The receiver calls the body too large. -/
def PushAnswer.asksToSplit (answer : PushAnswer) : Bool :=
  answer.status == 413 &&
    (answer.detail == some "payload_too_large" || answer.detail == some "too_many_ops")

/-- A receiver: its answer to a body, which may depend on all bodies it was sent before. -/
abbrev PushServer := List String → String → PushAnswer

/-- `MAX_PUSH_SPLIT_DEPTH`. -/
def maxPushSplitDepth : ℕ := 8

def pushFailed (answer : PushAnswer) : String :=
  match answer.detail with
  | some detail =>
    "peer ops push failed (" ++ toString answer.status ++ ": " ++ detail ++ ")"
  | none => "peer ops push failed (" ++ toString answer.status ++ ")"

/-- `pushOps`, with the number of splits that are left; the result is the bodies sent so far and
whether the push succeeded. -/
def pushOps (server : PushServer) : ℕ → List WireOp → List String →
    List String × Except String Unit
  | 0, ops, sent =>
    if ops.isEmpty then (sent, .ok ())
    else
      let answer := server sent (pushBody ops)
      (sent ++ [pushBody ops], if answer.accepted then .ok () else .error (pushFailed answer))
  | splits + 1, ops, sent =>
    if ops.isEmpty then (sent, .ok ())
    else
      let answer := server sent (pushBody ops)
      if answer.accepted then (sent ++ [pushBody ops], .ok ())
      else if answer.asksToSplit && 1 < ops.length then
        let mid := ops.length / 2
        match pushOps server splits (ops.take mid) (sent ++ [pushBody ops]) with
        | (sent', .ok ()) => pushOps server splits (ops.drop mid) sent'
        | failed => failed
      else (sent ++ [pushBody ops], .error (pushFailed answer))

/-- The batches one after the other; a failed one ends the push. -/
def pushBatches (server : PushServer) : List (List WireOp) → List String →
    List String × Except String Unit
  | [], sent => (sent, .ok ())
  | batch :: batches, sent =>
    match pushOps server maxPushSplitDepth batch sent with
    | (sent', .ok ()) => pushBatches server batches sent'
    | failed => failed

/-- The push of `pushDefaultScope`: the bodies sent and the outcome. -/
def pushOutbound (server : PushServer) (ops : List WireOp) : List String × Except String Unit :=
  match chunkOpsBySize ops maxSyncBodyBytes with
  | .error message => ([], .error message)
  | .ok batches => pushBatches server batches []

end Codemem

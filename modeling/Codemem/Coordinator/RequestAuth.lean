import Codemem.Foundation.Trace
import Codemem.Coordinator.Tables

/-!
# Authentication of coordinator requests

`authorizeRequest` of `coordinator-api.ts` with the verifiers of the two deployments, and
`recordAuthorizedNonce` of `coordinator-device-revocation.ts`.  The function is suspended at every
`await`: other requests, and any change of the device tables, run between its stages.
-/

namespace Codemem

/-- A row of `request_nonces`, whose primary key is `(device_id, nonce)`. -/
structure RequestNonceRow where
  deviceId : String
  nonce : String
  createdAt : ℤ
deriving DecidableEq, Repr

/-- A request verifier: it accepts only requests whose timestamp is fresh at its clock reading. -/
structure CoordinatorRequestVerifier where
  verify : SignedRequest → String → ℤ → Bool
  fresh_of_verify : ∀ request publicKey now, verify request publicKey now = true →
    isFreshTimestamp request.timestamp defaultTimeWindowS now = true

/-- The verifier of the Node deployment: `verifySignature`. -/
def nodeRequestVerifier (primitives : SignaturePrimitives) : CoordinatorRequestVerifier where
  verify request publicKey now := verifySignature primitives request publicKey now
  fresh_of_verify _ _ _ := fresh_of_verifySignature

/-- The web primitives of the worker: `atob` may throw, and so may the import of the key and the
verification, which then counts as `false`. -/
structure WebPrimitives where
  atob : String → Option (List UInt8)
  verifies : String → String → List UInt8 → Bool

/-- `verifyCloudflareCoordinatorRequest(input)` at the clock reading `now`. -/
def verifyCloudflareCoordinatorRequest (primitives : SignaturePrimitives) (web : WebPrimitives)
    (request : SignedRequest) (publicKey : String) (now : ℤ) : Bool :=
  if isFreshTimestamp request.timestamp defaultTimeWindowS now = false then false
  else
    let chars := request.signature.toList
    let version := String.ofList (chars.takeWhile (· != ':'))
    if chars.contains ':' = false ∨ version.toList.isEmpty then false
    else if ["v1", "v2"].contains version = false then false
    else
      let encodedSignature := sliceFrom (version.length + 1) request.signature
      if encodedSignature = "" then false
      else
        match web.atob encodedSignature with
        | none => false
        | some signatureBytes =>
          web.verifies publicKey (buildCanonicalRequest primitives request) signatureBytes

/-- The verifier of the worker deployment. -/
def cloudflareRequestVerifier (primitives : SignaturePrimitives) (web : WebPrimitives) :
    CoordinatorRequestVerifier where
  verify request publicKey now :=
    verifyCloudflareCoordinatorRequest primitives web request publicKey now
  fresh_of_verify request publicKey now h := by
    by_contra hstale
    unfold verifyCloudflareCoordinatorRequest at h
    rw [if_pos (Bool.eq_false_of_not_eq_true hstale)] at h
    exact absurd h (by simp)

/-- `CoordinatorAuthorizedNonceResult`. -/
inductive AuthorizedNonceResult
  | recorded
  | nonceReplay
  | deviceRevoked
  | unknownDevice
  | deviceDisabled
  | groupNotFound
  | groupArchived
deriving DecidableEq, Repr

/-- The error that `authorizeRequest` answers for an admission. -/
def AuthorizedNonceResult.error : AuthorizedNonceResult → String
  | recorded => "recorded"
  | nonceReplay => "nonce_replay"
  | deviceRevoked => "device_revoked"
  | unknownDevice => "unknown_device"
  | deviceDisabled => "device_disabled"
  | groupNotFound => "group_not_found"
  | groupArchived => "group_archived"

/-- `CoordinatorRecordAuthorizedNonceInput`. -/
structure AuthorizedNonceInput where
  groupId : String
  deviceId : String
  publicKey : String
  nonce : String
  createdAt : ℤ

/-- The condition under which `AUTHORIZED_NONCE_SQL` selects its input. -/
def DeviceTables.admitsNonce (tables : DeviceTables) (input : AuthorizedNonceInput)
    (keyId : Option String) : Bool :=
  (tables.enrolledDevices.any fun row => decide (row.key = (input.groupId, input.deviceId)) &&
      decide (row.publicKey = input.publicKey) && row.enabled) &&
    (tables.groups.any fun row => row.groupId == input.groupId && row.archivedAt.isNone) &&
    !tables.revoked input.deviceId keyId

/-- `NONCE_CLASSIFY_SQL`. -/
def DeviceTables.classifyNonce (tables : DeviceTables) (input : AuthorizedNonceInput)
    (keyId : Option String) : AuthorizedNonceResult :=
  let group := tables.getGroup input.groupId
  let enrollment := tables.getEnrollment input.groupId input.deviceId true
  if tables.revoked input.deviceId keyId then .deviceRevoked
  else if group.isNone then .groupNotFound
  else if (group.bind CoordinatorGroupRow.archivedAt).isSome then .groupArchived
  else if enrollment.all fun row => decide (row.publicKey ≠ input.publicKey) then .unknownDevice
  else if enrollment.all fun row => !row.enabled then .deviceDisabled
  else .nonceReplay

/-- `recordAuthorizedNonce(raw)`: the outcome and the nonces afterwards. -/
def recordAuthorizedNonce (primitives : SignaturePrimitives) (tables : DeviceTables)
    (nonces : List RequestNonceRow) (input : AuthorizedNonceInput) :
    Except String (AuthorizedNonceResult × List RequestNonceRow) :=
  if !(exactText input.groupId && exactText input.deviceId && exactText input.publicKey &&
      exactText input.nonce) then .error "invalid_input"
  else
    let parsedKey := parseSshEd25519PublicKeyForRevocation primitives input.publicKey
    if parsedKey = .malformedEd25519 then .ok (.unknownDevice, nonces)
    else
      let keyId := hashEd25519KeyId primitives parsedKey
      let conflict := nonces.any fun row =>
        row.deviceId == input.deviceId && row.nonce == input.nonce
      if tables.admitsNonce input keyId && !conflict then
        .ok (.recorded, nonces ++ [⟨input.deviceId, input.nonce, input.createdAt⟩])
      else .ok (tables.classifyNonce input keyId, nonces)

/-- Where `authorizeRequest` is suspended, and what it has read so far. -/
inductive AuthorizationStage
  | received
  | enrolled (publicKey : String)
  | grouped (publicKey : String)
  | verified (publicKey : String)
  | stamped (publicKey : String) (createdAt : ℤ)
  | recorded (createdAt : ℤ)
  | over (result : Except String Unit)

/-- A request on its way through `authorizeRequest`. -/
structure AuthorizationThread where
  groupId : String
  request : SignedRequest
  stage : AuthorizationStage

/-- The coordinator: its tables, the wall clock in milliseconds and the requests that have arrived;
`swept` is the greatest cutoff its nonces were pruned with. -/
structure CoordinatorServer where
  tables : DeviceTables
  nonces : List RequestNonceRow
  clock : ℤ
  threads : List AuthorizationThread
  swept : WithBot ℤ

/-- What happens at the coordinator: a request arrives, a request goes on after the clock has moved
by some milliseconds, or the device tables change. -/
inductive CoordinatorAction
  | arrive (groupId : String) (request : SignedRequest)
  | turn (ticket : ℕ) (elapsed : ℕ)
  | edit (tables : DeviceTables)

namespace CoordinatorServer

/-- The request moves on to a stage. -/
def moveTo (server : CoordinatorServer) (ticket : ℕ) (thread : AuthorizationThread)
    (stage : AuthorizationStage) : CoordinatorServer :=
  { server with threads := server.threads.set ticket { thread with stage := stage } }

def cleanupNonces (server : CoordinatorServer) (cutoff : ℤ) : CoordinatorServer :=
  { server with
    nonces := server.nonces.filter fun row => decide (cutoff ≤ row.createdAt)
    swept := max server.swept cutoff }

/-- The lookup of the enrollment, after the check of the headers. -/
def readEnrollment (server : CoordinatorServer) (thread : AuthorizationThread) :
    AuthorizationStage :=
  let request := thread.request
  if request.deviceId = "" ∨ request.signature = "" ∨ request.timestamp = "" ∨
      request.nonce = "" then .over (.error "missing_headers")
  else
    match server.tables.getEnrollment thread.groupId request.deviceId true with
    | none => .over (.error "unknown_device")
    | some enrollment => 
      if enrollment.enabled then .enrolled enrollment.publicKey
      else .over (.error "device_disabled")

def readGroup (server : CoordinatorServer) (thread : AuthorizationThread) (publicKey : String) :
    AuthorizationStage :=
  match server.tables.getGroup thread.groupId with
  | none => .over (.error "group_not_found")
  | some group =>
    if group.archivedAt.isSome then .over (.error "group_archived") else .grouped publicKey

/-- The admission that `authorizeRequest` asks for. -/
def nonceInput (thread : AuthorizationThread) (publicKey : String) (createdAt : ℤ) :
    AuthorizedNonceInput :=
  ⟨thread.groupId, thread.request.deviceId, publicKey, thread.request.nonce, createdAt⟩

/-- A request goes on until its next `await`. -/
def resume (primitives : SignaturePrimitives) (verifier : CoordinatorRequestVerifier)
    (server : CoordinatorServer) (ticket : ℕ) (thread : AuthorizationThread) : CoordinatorServer :=
  match thread.stage with
  | .received => server.moveTo ticket thread (server.readEnrollment thread)
  | .enrolled publicKey => server.moveTo ticket thread (server.readGroup thread publicKey)
  | .grouped publicKey =>
    server.moveTo ticket thread
      (if verifier.verify thread.request publicKey server.clock then .verified publicKey
      else .over (.error "invalid_signature"))
  | .verified publicKey => server.moveTo ticket thread (.stamped publicKey server.clock)
  | .stamped publicKey createdAt =>
    match recordAuthorizedNonce primitives server.tables server.nonces
        (nonceInput thread publicKey createdAt) with
    | .error reason => server.moveTo ticket thread (.over (.error reason))
    | .ok (.recorded, nonces) =>
      CoordinatorServer.moveTo { server with nonces := nonces } ticket thread (.recorded createdAt)
    | .ok (admission, _) => server.moveTo ticket thread (.over (.error admission.error))
  | .recorded createdAt =>
    (server.cleanupNonces (createdAt - defaultTimeWindowS * 2 * 1000)).moveTo ticket thread
      (.over (.ok ()))
  | .over _ => server

/-- One action at the coordinator. -/
def step (primitives : SignaturePrimitives) (verifier : CoordinatorRequestVerifier)
    (server : CoordinatorServer) : CoordinatorAction → CoordinatorServer
  | .arrive groupId request =>
    { server with threads := server.threads ++ [⟨groupId, request, .received⟩] }
  | .turn ticket elapsed =>
    let server := { server with clock := server.clock + elapsed }
    match server.threads[ticket]? with
    | none => server
    | some thread => server.resume primitives verifier ticket thread
  | .edit tables => { server with tables := tables }

/-- The request with a ticket was authorized. -/
def Accepted (server : CoordinatorServer) (ticket : ℕ) (request : SignedRequest) : Prop :=
  ∃ groupId, server.threads[ticket]? = some ⟨groupId, request, .over (.ok ())⟩

end CoordinatorServer

end Codemem

import Codemem.Foundation.KeyedRows
import Codemem.Foundation.Trace
import Codemem.Sync.SignedRequest

/-!
# Authentication of sync requests

`recordNonce`, `cleanupNonces`, `authorizeSyncRequest` and `authorizeBootstrapGrantRequest`: a sync
peer admits a request whose signatures verify, records its nonce and prunes the nonces that are two
windows old.  From the verification of the signatures to the result nothing else runs, so a request
is one step of the server.  What precedes the verification of a bootstrap request (the lookup of the
grant at the coordinator) only decides whether there is a worker key; it is a parameter.
-/

namespace Codemem

/-- A row of `sync_peers`, as far as authentication reads it. -/
structure SyncPeerRow where
  peerDeviceId : String
  pinnedFingerprint : Option String
  publicKey : Option String
deriving DecidableEq, Repr

/-- A row of `sync_peer_signature_state`. -/
structure SyncPeerSignatureState where
  peerDeviceId : String
  highestObservedDirectSignatureVersion : ℕ
deriving DecidableEq, Repr

/-- A row of `sync_nonces`, whose primary key is the nonce. -/
structure SyncNonceRow where
  nonce : String
  deviceId : String
  createdAt : ℤ
deriving DecidableEq, Repr

inductive SyncAuthResult
  | authenticated (deviceId authenticatedPeerSigningKey : String)
  | refused (reason deviceId : String)
deriving DecidableEq, Repr

/-- A sync peer: its identity, the tables that authentication uses, the wall clock in milliseconds
and what it answered to the requests it has served; `swept` is the greatest cutoff its nonces were
pruned with. -/
structure SyncPeerServer where
  localDeviceId : String
  peers : List SyncPeerRow
  signatureStates : List SyncPeerSignatureState
  nonces : List SyncNonceRow
  clock : ℤ
  served : List (SignedRequest × SyncAuthResult)
  swept : WithBot ℤ

/-- How long the server takes from one reading of the clock to the next. -/
structure ReadingDelays where
  toDirect : ℕ
  toLegacy : ℕ
  toCreated : ℕ
  toCleanup : ℕ

/-- Which writes find the database locked. -/
structure AuthStoreLocks where
  nonce : Bool
  cleanup : Bool
  version : Bool

/-- What the checks before the signature of a bootstrap request yielded. -/
structure BootstrapWorker where
  publicKey : String
  fingerprint : String
  trustCompatible : Bool

namespace SyncPeerServer

/-- The clock at the check of the recipient-bound signature. -/
def directReading (server : SyncPeerServer) (delays : ReadingDelays) : ℤ :=
  server.clock + delays.toDirect

/-- The clock at the check of the legacy signature. -/
def legacyReading (server : SyncPeerServer) (delays : ReadingDelays) : ℤ :=
  server.directReading delays + delays.toLegacy

/-- The clock when the nonce is recorded. -/
def createdReading (server : SyncPeerServer) (delays : ReadingDelays) : ℤ :=
  server.legacyReading delays + delays.toCreated

/-- The clock when the cutoff of the cleanup is computed. -/
def cleanupReading (server : SyncPeerServer) (delays : ReadingDelays) : ℤ :=
  server.createdReading delays + delays.toCleanup

/-- `recordNonce(db, deviceId, nonce, createdAt)`: `none` where the nonce is already recorded. -/
def recordNonce (server : SyncPeerServer) (deviceId nonce : String) (createdAt : ℤ) :
    Option SyncPeerServer :=
  if server.nonces.any fun row => row.nonce == nonce then none
  else some { server with nonces := server.nonces ++ [⟨nonce, deviceId, createdAt⟩] }

def cleanupNonces (server : SyncPeerServer) (cutoff : ℤ) : SyncPeerServer :=
  { server with
    nonces := server.nonces.filter fun row => decide (cutoff ≤ row.createdAt)
    swept := max server.swept cutoff }

def recordSyncAuthNonce (server : SyncPeerServer) (deviceId nonce : String)
    (createdAt cleanupAt : ℤ) (locks : AuthStoreLocks) : Except SyncAuthResult SyncPeerServer :=
  if locks.nonce then .error (.refused "sync_auth_store_busy" deviceId)
  else
    match server.recordNonce deviceId nonce createdAt with
    | none => .error (.refused "nonce_replay" deviceId)
    | some recorded =>
      if locks.cleanup then .ok recorded
      else .ok (recorded.cleanupNonces (cleanupAt - defaultTimeWindowS * 2 * 1000))

/-- `recordHighestObservedDirectSignatureVersion(db, peerDeviceId, version)`. -/
def recordHighestObserved (server : SyncPeerServer) (deviceId : String) (version : ℕ) :
    SyncPeerServer :=
  if (rowAt SyncPeerRow.peerDeviceId deviceId server.peers).isNone then server
  else
    { server with
      signatureStates := insertOrUpdate SyncPeerSignatureState.peerDeviceId ⟨deviceId, version⟩
        (fun stored =>
          if stored.highestObservedDirectSignatureVersion < version then ⟨deviceId, version⟩
          else stored) server.signatureStates }

/-- `recordDirectPeerSignatureVersion(store, deviceId, version)`: the refusal, if there is one, and
the server afterwards. -/
def recordDirectPeerSignatureVersion (server : SyncPeerServer) (deviceId : String) (version : ℕ)
    (locked : Bool) : Option SyncAuthResult × SyncPeerServer :=
  if locked then (some (.refused "sync_auth_store_busy" deviceId), server)
  else if (rowAt SyncPeerRow.peerDeviceId deviceId server.peers).isNone then
    (some (.refused "unknown_peer" deviceId), server)
  else (none, server.recordHighestObserved deviceId version)

/-- `updatePeerAddresses(db, deviceId, [], { pinnedFingerprint, publicKey, replaceTrust: true })`, as
far as authentication reads the row. -/
def replaceTrust (server : SyncPeerServer) (deviceId fingerprint publicKey : String) :
    SyncPeerServer :=
  { server with
    peers := insertOrUpdate SyncPeerRow.peerDeviceId ⟨deviceId, some fingerprint, some publicKey⟩
      (fun _ => ⟨deviceId, some fingerprint, some publicKey⟩) server.peers }

/-- What both routes do with a verified request: record the nonce, write the trust of the peer
(bootstrap only), record the version and authenticate. -/
def admitVerified (server : SyncPeerServer) (deviceId publicKey nonce : String) (version : ℕ)
    (delays : ReadingDelays) (locks : AuthStoreLocks) (writeTrust : SyncPeerServer → SyncPeerServer) :
    SyncAuthResult × SyncPeerServer :=
  match server.recordSyncAuthNonce deviceId nonce (server.createdReading delays)
      (server.cleanupReading delays) locks with
  | .error refusal => (refusal, server)
  | .ok recorded =>
    let trusted := writeTrust recorded
    if version = directPeerSignatureVersionNumber then
      match trusted.recordDirectPeerSignatureVersion deviceId version locks.version with
      | (some refusal, after) => (refusal, after)
      | (none, after) => (.authenticated deviceId publicKey, after)
    else (.authenticated deviceId publicKey, trusted)

def authorizeSyncRequest (primitives : SignaturePrimitives) (server : SyncPeerServer)
    (request : SignedRequest) (delays : ReadingDelays) (locks : AuthStoreLocks) :
    SyncAuthResult × SyncPeerServer :=
  let deviceId := trim request.deviceId
  if deviceId = "" ∨ request.signature = "" ∨ request.timestamp = "" ∨ request.nonce = "" then
    (.refused "missing_headers" deviceId, server)
  else
    match rowAt SyncPeerRow.peerDeviceId deviceId server.peers with
    | none => (.refused "unknown_peer" deviceId, server)
    | some peerRow =>
      let pinnedFingerprint := trim (peerRow.pinnedFingerprint.getD "")
      let publicKey := trim (peerRow.publicKey.getD "")
      if pinnedFingerprint = "" ∨ publicKey = "" then
        (.refused "peer_record_incomplete" deviceId, server)
      else if primitives.sha256Hex publicKey.toUTF8.toList ≠ pinnedFingerprint then
        (.refused "fingerprint_mismatch" deviceId, server)
      else
        let highest := (rowAt SyncPeerSignatureState.peerDeviceId deviceId
          server.signatureStates).map SyncPeerSignatureState.highestObservedDirectSignatureVersion
        match verifyDirectPeerRequestSignature primitives request publicKey server.localDeviceId
            highest (server.directReading delays) (server.legacyReading delays) with
        | .error reason => (.refused reason deviceId, server)
        | .ok version =>
          server.admitVerified deviceId publicKey request.nonce version delays locks id

/-- `authorizeBootstrapGrantRequest(store, request, body)`, given what the lookup of the grant and
the checks of its contents yielded. -/
def authorizeBootstrapGrantRequest (primitives : SignaturePrimitives) (server : SyncPeerServer)
    (request : SignedRequest) (grant : Except String BootstrapWorker) (delays : ReadingDelays)
    (locks : AuthStoreLocks) : SyncAuthResult × SyncPeerServer :=
  let deviceId := trim request.deviceId
  if deviceId = "" ∨ request.signature = "" ∨ request.timestamp = "" ∨ request.nonce = "" then
    (.refused "missing_bootstrap_grant_headers" deviceId, server)
  else
    match grant with
    | .error reason => (.refused reason deviceId, server)
    | .ok worker =>
      let highest := (rowAt SyncPeerSignatureState.peerDeviceId deviceId
        server.signatureStates).map SyncPeerSignatureState.highestObservedDirectSignatureVersion
      match verifyDirectPeerRequestSignature primitives request worker.publicKey
          server.localDeviceId highest (server.directReading delays)
          (server.legacyReading delays) with
      | .error reason => (.refused reason deviceId, server)
      | .ok version =>
        if worker.trustCompatible = false then
          (.refused "bootstrap_grant_peer_trust_conflict" deviceId, server)
        else
          server.admitVerified deviceId worker.publicKey request.nonce version delays locks
            fun recorded => recorded.replaceTrust deviceId worker.fingerprint worker.publicKey

end SyncPeerServer

/-- What happens at a sync peer: a request on either route, or any change of its identity, its peers
and the versions they have signed with. -/
inductive SyncPeerAction
  | request (request : SignedRequest) (delays : ReadingDelays) (locks : AuthStoreLocks)
  | bootstrap (request : SignedRequest) (grant : Except String BootstrapWorker)
      (delays : ReadingDelays) (locks : AuthStoreLocks)
  | edit (localDeviceId : String) (peers : List SyncPeerRow)
      (signatureStates : List SyncPeerSignatureState)

namespace SyncPeerServer

/-- The server after it has answered a request. -/
def answer (server : SyncPeerServer) (request : SignedRequest) (delays : ReadingDelays)
    (outcome : SyncAuthResult × SyncPeerServer) : SyncPeerServer :=
  { outcome.2 with
    clock := server.cleanupReading delays
    served := server.served ++ [(request, outcome.1)] }

/-- One action at the sync peer. -/
def step (primitives : SignaturePrimitives) (server : SyncPeerServer) :
    SyncPeerAction → SyncPeerServer
  | .request request delays locks =>
    server.answer request delays (server.authorizeSyncRequest primitives request delays locks)
  | .bootstrap request grant delays locks =>
    server.answer request delays
      (server.authorizeBootstrapGrantRequest primitives request grant delays locks)
  | .edit localDeviceId peers signatureStates =>
    { server with
      localDeviceId := localDeviceId, peers := peers, signatureStates := signatureStates }

/-- The request that was served as the `i`-th one and authenticated. -/
def Accepted (server : SyncPeerServer) (i : ℕ) (request : SignedRequest) : Prop :=
  ∃ deviceId publicKey, server.served[i]? = some (request, .authenticated deviceId publicKey)

/-! ### What a request does -/

/-- The same nonces, cut off at the same points. -/
def SameNonces (server after : SyncPeerServer) : Prop :=
  after.nonces = server.nonces ∧ after.swept = server.swept

/-- A request that was refused, or one that was verified and found its nonce unused: then the nonce
is recorded, and a cleanup may have followed. -/
def Served (primitives : SignaturePrimitives) (server : SyncPeerServer) (request : SignedRequest)
    (delays : ReadingDelays) (outcome : SyncAuthResult × SyncPeerServer) : Prop :=
  ((∀ deviceId publicKey, outcome.1 ≠ .authenticated deviceId publicKey) ∧
    server.SameNonces outcome.2) ∨
  ∃ deviceId publicKey recorded,
    verifySignature primitives request publicKey (server.legacyReading delays) = true ∧
      server.recordNonce deviceId request.nonce (server.createdReading delays) = some recorded ∧
      (recorded.SameNonces outcome.2 ∨ (recorded.cleanupNonces
        (server.cleanupReading delays - defaultTimeWindowS * 2 * 1000)).SameNonces outcome.2)

lemma sameNonces_recordDirectPeerSignatureVersion {server : SyncPeerServer} {deviceId : String}
    {version : ℕ} {locked : Bool} :
    server.SameNonces (server.recordDirectPeerSignatureVersion deviceId version locked).2 := by
  unfold recordDirectPeerSignatureVersion
  split_ifs
  · exact ⟨rfl, rfl⟩
  · exact ⟨rfl, rfl⟩
  · unfold recordHighestObserved
    dsimp only
    split_ifs
    exact ⟨rfl, rfl⟩

lemma SameNonces.trans {server middle after : SyncPeerServer} (h : server.SameNonces middle)
    (h' : middle.SameNonces after) : server.SameNonces after :=
  ⟨h'.1.trans h.1, h'.2.trans h.2⟩

lemma recordSyncAuthNonce_error {server : SyncPeerServer} {deviceId nonce : String}
    {createdAt cleanupAt : ℤ} {locks : AuthStoreLocks} {refusal : SyncAuthResult}
    (h : server.recordSyncAuthNonce deviceId nonce createdAt cleanupAt locks = .error refusal) :
    ∃ reason, refusal = .refused reason deviceId := by
  unfold recordSyncAuthNonce at h
  by_cases hbusy : locks.nonce = true
  · rw [if_pos hbusy] at h
    exact ⟨_, (Except.error.inj h).symm⟩
  rw [if_neg hbusy] at h
  rcases hnonce : server.recordNonce deviceId nonce createdAt with _ | stored
  · rw [hnonce] at h
    exact ⟨_, (Except.error.inj h).symm⟩
  · rw [hnonce] at h
    dsimp only at h
    split_ifs at h

lemma recordSyncAuthNonce_ok {server recorded : SyncPeerServer} {deviceId nonce : String}
    {createdAt cleanupAt : ℤ} {locks : AuthStoreLocks}
    (h : server.recordSyncAuthNonce deviceId nonce createdAt cleanupAt locks = .ok recorded) :
    ∃ stored, server.recordNonce deviceId nonce createdAt = some stored ∧ (recorded = stored ∨
      recorded = stored.cleanupNonces (cleanupAt - defaultTimeWindowS * 2 * 1000)) := by
  unfold recordSyncAuthNonce at h
  by_cases hbusy : locks.nonce = true
  · rw [if_pos hbusy] at h
    cases h
  rw [if_neg hbusy] at h
  rcases hnonce : server.recordNonce deviceId nonce createdAt with _ | stored
  · rw [hnonce] at h
    cases h
  · rw [hnonce] at h
    dsimp only at h
    split_ifs at h
    · exact ⟨stored, rfl, Or.inl (Except.ok.inj h).symm⟩
    · exact ⟨stored, rfl, Or.inr (Except.ok.inj h).symm⟩

lemma served_admitVerified {primitives : SignaturePrimitives} {server : SyncPeerServer}
    {request : SignedRequest} {deviceId publicKey : String} {version : ℕ} {delays : ReadingDelays}
    {locks : AuthStoreLocks} {writeTrust : SyncPeerServer → SyncPeerServer}
    (hverified : verifySignature primitives request publicKey (server.legacyReading delays) = true)
    (htrust : ∀ recorded : SyncPeerServer, recorded.SameNonces (writeTrust recorded)) :
    server.Served primitives request delays
      (server.admitVerified deviceId publicKey request.nonce version delays locks writeTrust) := by
  unfold admitVerified
  rcases hrecord : server.recordSyncAuthNonce deviceId request.nonce (server.createdReading delays)
    (server.cleanupReading delays) locks with refusal | recorded
  · obtain ⟨reason, rfl⟩ := recordSyncAuthNonce_error hrecord
    refine Or.inl ⟨?_, rfl, rfl⟩
    rintro device key ⟨⟩
  · obtain ⟨stored, hnonce, hcleanup⟩ := recordSyncAuthNonce_ok hrecord
    refine Or.inr ⟨deviceId, publicKey, stored, hverified, hnonce, ?_⟩
    have hafter : ∀ after : SyncPeerServer, recorded.SameNonces after →
        stored.SameNonces after ∨ (stored.cleanupNonces
          (server.cleanupReading delays - defaultTimeWindowS * 2 * 1000)).SameNonces after := by
      rintro after hsame
      rcases hcleanup with rfl | rfl
      · exact Or.inl hsame
      · exact Or.inr hsame
    refine hafter _ ?_
    dsimp only
    split_ifs
    · have hversion := @sameNonces_recordDirectPeerSignatureVersion (writeTrust recorded) deviceId
        version locks.version
      rcases hresult : (writeTrust recorded).recordDirectPeerSignatureVersion deviceId version
        locks.version with ⟨refusal | _, after⟩
      · rw [hresult] at hversion
        exact (htrust recorded).trans hversion
      · rw [hresult] at hversion
        exact (htrust recorded).trans hversion
    · exact htrust recorded

lemma served_refused {primitives : SignaturePrimitives} {server : SyncPeerServer}
    {request : SignedRequest} {delays : ReadingDelays} {reason deviceId : String} :
    server.Served primitives request delays (.refused reason deviceId, server) := by
  refine Or.inl ⟨?_, rfl, rfl⟩
  rintro device key ⟨⟩

lemma served_authorizeSyncRequest {primitives : SignaturePrimitives} {server : SyncPeerServer}
    {request : SignedRequest} {delays : ReadingDelays} {locks : AuthStoreLocks} :
    server.Served primitives request delays
      (server.authorizeSyncRequest primitives request delays locks) := by
  unfold authorizeSyncRequest
  dsimp only
  split_ifs with hmissing
  · exact served_refused
  rcases hpeer : rowAt SyncPeerRow.peerDeviceId (trim request.deviceId) server.peers with
    _ | peerRow
  · exact served_refused
  dsimp only
  split_ifs with hincomplete hmismatch
  · exact served_refused
  · exact served_refused
  · split
    · exact served_refused
    · rename_i version hverified
      exact served_admitVerified (verifySignature_of_verified hverified) fun _ => ⟨rfl, rfl⟩

lemma served_authorizeBootstrapGrantRequest {primitives : SignaturePrimitives}
    {server : SyncPeerServer} {request : SignedRequest} {grant : Except String BootstrapWorker}
    {delays : ReadingDelays} {locks : AuthStoreLocks} :
    server.Served primitives request delays
      (server.authorizeBootstrapGrantRequest primitives request grant delays locks) := by
  unfold authorizeBootstrapGrantRequest
  dsimp only
  split_ifs with hmissing
  · exact served_refused
  rcases grant with reason | worker
  · exact served_refused
  dsimp only
  split
  · exact served_refused
  · rename_i version hverified
    split_ifs with htrust
    · exact served_refused
    · exact served_admitVerified (verifySignature_of_verified hverified) fun _ => ⟨rfl, rfl⟩

end SyncPeerServer

end Codemem

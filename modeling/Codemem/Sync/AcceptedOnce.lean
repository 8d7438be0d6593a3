import Codemem.Coordinator.RequestAuth
import Codemem.Foundation.ReplayWindow
import Codemem.Sync.PeerAuth

/-!
# A signed request is accepted at most once

A nonce recorded at `created` is deleted by a cutoff past it, and a timestamp is fresh for two
windows and one second: the cutoff of another request can pass the first second of a timestamp
while the last one still runs.  A request that is verified in its last fresh second after such a
cleanup is accepted again; in runs without such a request every request is accepted once.
-/

namespace Codemem

/-- No two accepted requests carry the same device id, nonce and signed text. -/
def AcceptedOnce (primitives : SignaturePrimitives) (accepted : ℕ → SignedRequest → Prop) : Prop :=
  ∀ i j request other, accepted i request → accepted j other →
    request.deviceId = other.deviceId → request.nonce = other.nonce →
    buildCanonicalRequest primitives request = buildCanonicalRequest primitives other → i = j

/-- The admissions of accepted requests, under a key made of device id and nonce. -/
def admissions {κ : Type} (key : String → String → κ) (accepted : ℕ → SignedRequest → Prop)
    (i : ℕ) (k : κ) (opening : ℤ) : Prop :=
  ∃ request, accepted i request ∧ key request.deviceId request.nonce = k ∧
    freshFrom request.timestamp = opening

lemma acceptedOnce_of_guard {κ : Type} {key : String → String → κ} {primitives : SignaturePrimitives}
    {accepted : ℕ → SignedRequest → Prop} {used : κ → ℤ → Prop} {swept : WithBot ℤ}
    (hguard : ReplayGuard used (admissions key accepted) swept)
    (hfresh : ∀ i request, accepted i request →
      ∃ now, isFreshTimestamp request.timestamp defaultTimeWindowS now = true) :
    AcceptedOnce primitives accepted := by
  intro i j request other hi hj hdevice hnonce hcanonical
  obtain ⟨now, hnow⟩ := hfresh i request hi
  obtain ⟨now', hnow'⟩ := hfresh j other hj
  have hstamp : request.timestamp = other.timestamp :=
    timestamp_eq_of_canonical_eq hnow hnow' hcanonical
  refine hguard.once i j _ _ ⟨request, hi, rfl, rfl⟩ ⟨other, hj, ?_, ?_⟩
  · rw [hdevice, hnonce]
  · rw [hstamp]

/-! ### The sync peer -/

namespace SyncPeerServer

/-- A nonce was recorded at some time and is still stored. -/
def Used (server : SyncPeerServer) (nonce : String) (created : ℤ) : Prop :=
  ∃ row ∈ server.nonces, row.nonce = nonce ∧ row.createdAt = created

/-- Nothing has been served and no nonce was pruned. -/
def Fresh (server : SyncPeerServer) : Prop := server.served = [] ∧ server.swept = ⊥

/-- A request that is verified in the last second of its timestamp finds that no cleanup has passed
the first millisecond of the timestamp. -/
def InTime (server : SyncPeerServer) : SyncPeerAction → Prop
  | .request request delays _ =>
    InLastFreshSecond request.timestamp (server.legacyReading delays) →
      server.swept ≤ (freshFrom request.timestamp : ℤ)
  | .bootstrap request _ delays _ =>
    InLastFreshSecond request.timestamp (server.legacyReading delays) →
      server.swept ≤ (freshFrom request.timestamp : ℤ)
  | .edit _ _ _ => True

/-- The nonces guard the accepted requests, which were fresh, and no cutoff is closer to the clock
than two windows. -/
structure NonceSound (server : SyncPeerServer) : Prop where
  guarded : ReplayGuard server.Used (admissions (fun _ nonce => nonce) server.Accepted) server.swept
  fresh : ∀ i request, server.Accepted i request →
    ∃ now, isFreshTimestamp request.timestamp defaultTimeWindowS now = true
  swept_le : server.swept ≤ ((server.clock - defaultTimeWindowS * 2 * 1000 : ℤ) : WithBot ℤ)

lemma Fresh.nonceSound {server : SyncPeerServer} (h : server.Fresh) : server.NonceSound := by
  have hnone : ∀ i request, ¬ server.Accepted i request := by
    rintro i request ⟨device, key, hserved⟩
    rw [h.1] at hserved
    simp at hserved
  constructor
  · refine ReplayGuard.initial ?_
    rintro i k opening ⟨request, haccepted, -, -⟩
    exact hnone i request haccepted
  · intro i request haccepted
    exact absurd haccepted (hnone i request)
  · rw [h.2]
    exact bot_le

lemma accepted_answer {server : SyncPeerServer} {request : SignedRequest} {delays : ReadingDelays}
    {outcome : SyncAuthResult × SyncPeerServer} {i : ℕ} {other : SignedRequest}
    (h : (server.answer request delays outcome).Accepted i other) :
    server.Accepted i other ∨ i = server.served.length ∧ other = request ∧
      ∃ deviceId publicKey, outcome.1 = .authenticated deviceId publicKey := by
  obtain ⟨device, key, hserved⟩ := h
  unfold answer at hserved
  dsimp only at hserved
  rcases lt_or_ge i server.served.length with hold | hnew
  · rw [List.getElem?_append_left hold] at hserved
    exact Or.inl ⟨device, key, hserved⟩
  · rw [List.getElem?_append_right hnew, List.getElem?_singleton] at hserved
    split_ifs at hserved with hzero
    obtain ⟨rfl, hresult⟩ := Prod.mk.inj (Option.some.inj hserved)
    exact Or.inr ⟨by omega, rfl, device, key, hresult⟩

lemma clock_le_legacyReading (server : SyncPeerServer) (delays : ReadingDelays) :
    server.clock ≤ server.legacyReading delays := by
  unfold legacyReading directReading
  omega

lemma legacyReading_le_createdReading (server : SyncPeerServer) (delays : ReadingDelays) :
    server.legacyReading delays ≤ server.createdReading delays := by
  unfold createdReading
  omega

lemma legacyReading_le_cleanupReading (server : SyncPeerServer) (delays : ReadingDelays) :
    server.legacyReading delays ≤ server.cleanupReading delays := by
  unfold cleanupReading createdReading
  omega

lemma swept_le_freshFrom {primitives : SignaturePrimitives} {server : SyncPeerServer}
    (hsound : server.NonceSound) {request : SignedRequest} {delays : ReadingDelays}
    {publicKey : String}
    (hverified : verifySignature primitives request publicKey (server.legacyReading delays) = true)
    (htime : InLastFreshSecond request.timestamp (server.legacyReading delays) →
      server.swept ≤ (freshFrom request.timestamp : ℤ)) :
    server.swept ≤ (freshFrom request.timestamp : ℤ) := by
  by_cases hlast : InLastFreshSecond request.timestamp (server.legacyReading delays)
  · exact htime hlast
  · have hfresh := fresh_of_verifySignature hverified
    have hwindows := sub_two_windows_le_freshFrom hfresh hlast
    have hclock := server.clock_le_legacyReading delays
    refine hsound.swept_le.trans ?_
    rw [WithBot.coe_le_coe]
    omega

/-- Serving a request in time keeps the server sound. -/
lemma NonceSound.answer {primitives : SignaturePrimitives} {server : SyncPeerServer}
    (hsound : server.NonceSound) {request : SignedRequest} {delays : ReadingDelays}
    {outcome : SyncAuthResult × SyncPeerServer}
    (hserved : server.Served primitives request delays outcome)
    (htime : InLastFreshSecond request.timestamp (server.legacyReading delays) →
      server.swept ≤ (freshFrom request.timestamp : ℤ)) :
    (server.answer request delays outcome).NonceSound := by
  have hclock := server.clock_le_legacyReading delays
  have hcleanup := server.legacyReading_le_cleanupReading delays
  have hsweptClock : server.swept ≤
      ((server.cleanupReading delays - defaultTimeWindowS * 2 * 1000 : ℤ) : WithBot ℤ) := by
    refine hsound.swept_le.trans ?_
    rw [WithBot.coe_le_coe]
    omega
  rcases hserved with ⟨hrefused, hnonces, hswept⟩ | ⟨device, key, recorded, hverified, hrecord, hafter⟩
  · -- refused: the same nonces, the same accepted requests
    have hold : ∀ i other, (server.answer request delays outcome).Accepted i other →
        server.Accepted i other := by
      intro i other haccepted
      rcases accepted_answer haccepted with hold | ⟨-, -, device, key, hok⟩
      · exact hold
      · exact absurd hok (hrefused device key)
    constructor
    · have hguard := hsound.guarded
      rw [← hswept] at hguard
      refine hguard.mono ?_ ?_
      · rintro nonce created ⟨row, hrow, hkey⟩
        refine ⟨row, ?_, hkey⟩
        change row ∈ outcome.2.nonces
        rw [hnonces]
        exact hrow
      · rintro i k opening ⟨other, haccepted, hkey⟩
        exact ⟨other, hold i other haccepted, hkey⟩
    · intro i other haccepted
      exact hsound.fresh i other (hold i other haccepted)
    · change outcome.2.swept ≤ _
      rw [hswept]
      exact hsweptClock
  · -- recorded: the nonce was unused, and no cleanup has passed the opening of the timestamp
    have hfresh := fresh_of_verifySignature hverified
    have hstore : (server.nonces.any fun row => row.nonce == request.nonce) = false ∧
        recorded = { server with nonces := server.nonces ++
          [⟨request.nonce, device, server.createdReading delays⟩] } := by
      unfold recordNonce at hrecord
      split_ifs at hrecord with hany
      exact ⟨Bool.eq_false_of_not_eq_true hany, (Option.some.inj hrecord).symm⟩
    obtain ⟨hunused, rfl⟩ := hstore
    have hadmitted : ∀ i k opening, admissions (fun _ nonce => nonce)
        (server.answer request delays outcome).Accepted i k opening →
        admissions (fun _ nonce => nonce) server.Accepted i k opening ∨
          i = server.served.length ∧ k = request.nonce ∧
            opening = freshFrom request.timestamp := by
      rintro i k opening ⟨other, haccepted, hk, hopening⟩
      rcases accepted_answer haccepted with hold | ⟨hi, rfl, -⟩
      · exact Or.inl ⟨other, hold, hk, hopening⟩
      · exact Or.inr ⟨hi, hk.symm, hopening.symm⟩
    have hnew : ∀ created, ¬ server.Used request.nonce created := by
      rintro created ⟨row, hrow, hnonce, -⟩
      rw [List.any_eq_false] at hunused
      exact hunused row hrow (beq_iff_eq.mpr hnonce)
    have hguard : ReplayGuard (fun nonce created => server.Used nonce created ∨
        nonce = request.nonce ∧ created = server.createdReading delays)
        (admissions (fun _ nonce => nonce) (server.answer request delays outcome).Accepted)
        server.swept :=
      hsound.guarded.accept server.served.length hnew (swept_le_freshFrom hsound hverified htime)
        ((freshFrom_le hfresh).trans (server.legacyReading_le_createdReading delays))
        (fun _ _ h => h) hadmitted
    have hused : ∀ nonce created, (server.Used nonce created ∨
        nonce = request.nonce ∧ created = server.createdReading delays) →
        ∃ row ∈ server.nonces ++ [⟨request.nonce, device, server.createdReading delays⟩],
          row.nonce = nonce ∧ row.createdAt = created := by
      rintro nonce created (⟨row, hrow, hkey⟩ | ⟨rfl, rfl⟩)
      · exact ⟨row, List.mem_append_left _ hrow, hkey⟩
      · exact ⟨_, List.mem_append_right _ (List.mem_singleton_self _), rfl, rfl⟩
    constructor
    · rcases hafter with ⟨hnonces, hswept⟩ | ⟨hnonces, hswept⟩
      · rw [← hswept] at hguard
        refine hguard.mono ?_ fun _ _ _ h => h
        intro nonce created hold
        obtain ⟨row, hrow, hkey⟩ := hused nonce created hold
        refine ⟨row, ?_, hkey⟩
        change row ∈ outcome.2.nonces
        rw [hnonces]
        exact hrow
      · have hclean := hguard.sweep
          (server.cleanupReading delays - defaultTimeWindowS * 2 * 1000)
        change ReplayGuard _ _ outcome.2.swept
        rw [hswept]
        refine hclean.mono ?_ fun _ _ _ h => h
        rintro nonce created ⟨hold, hkept⟩
        obtain ⟨row, hrow, hnonce, hcreated⟩ := hused nonce created hold
        refine ⟨row, ?_, hnonce, hcreated⟩
        change row ∈ outcome.2.nonces
        rw [hnonces]
        refine List.mem_filter.mpr ⟨hrow, ?_⟩
        rw [hcreated]
        exact decide_eq_true hkept
    · intro i other haccepted
      rcases accepted_answer haccepted with hold | ⟨-, rfl, -⟩
      · exact hsound.fresh i other hold
      · exact ⟨_, hfresh⟩
    · change outcome.2.swept ≤ _
      rcases hafter with ⟨-, hswept⟩ | ⟨-, hswept⟩
      · rw [hswept]
        exact hsweptClock
      · rw [hswept]
        exact max_le hsweptClock le_rfl

lemma NonceSound.step {primitives : SignaturePrimitives} {server : SyncPeerServer}
    (hsound : server.NonceSound) {action : SyncPeerAction} (htime : server.InTime action) :
    (server.step primitives action).NonceSound := by
  rcases action with ⟨request, delays, locks⟩ | ⟨request, grant, delays, locks⟩ | ⟨device, peers, states⟩
  · exact hsound.answer served_authorizeSyncRequest htime
  · exact hsound.answer served_authorizeBootstrapGrantRequest htime
  · exact ⟨hsound.guarded, hsound.fresh, hsound.swept_le⟩

lemma NonceSound.acceptedOnce {primitives : SignaturePrimitives} {server : SyncPeerServer}
    (hsound : server.NonceSound) : AcceptedOnce primitives server.Accepted :=
  acceptedOnce_of_guard hsound.guarded hsound.fresh

end SyncPeerServer

/-! ### The coordinator -/

def AuthorizationStage.PastNonce : AuthorizationStage → Prop
  | .recorded _ => True
  | .over (.ok ()) => True
  | _ => False

/-- The timestamp of a request was fresh when the verifier looked at it, by the time `latest`. -/
def FreshBy (request : SignedRequest) (latest : ℤ) : Prop :=
  ∃ now ≤ latest, isFreshTimestamp request.timestamp defaultTimeWindowS now = true

/-- What is known of a request at its stage: once verified, its timestamp was fresh. -/
def AuthorizationThread.Sound (clock : ℤ) (thread : AuthorizationThread) : Prop :=
  match thread.stage with
  | .verified _ => FreshBy thread.request clock
  | .stamped _ createdAt => FreshBy thread.request createdAt
  | .recorded _ => ∃ latest, FreshBy thread.request latest
  | .over (.ok ()) => ∃ latest, FreshBy thread.request latest
  | _ => True

namespace CoordinatorServer

/-- A nonce of a device was recorded at some time and is still stored. -/
def Used (server : CoordinatorServer) (key : String × String) (created : ℤ) : Prop :=
  ∃ row ∈ server.nonces, (row.deviceId, row.nonce) = key ∧ row.createdAt = created

/-- The request with a ticket is past the record of its nonce. -/
def Admitted (server : CoordinatorServer) (ticket : ℕ) (request : SignedRequest) : Prop :=
  ∃ thread, server.threads[ticket]? = some thread ∧ thread.request = request ∧
    thread.stage.PastNonce

/-- No request has arrived and no nonce was pruned. -/
def Fresh (server : CoordinatorServer) : Prop := server.threads = [] ∧ server.swept = ⊥

/-- A request whose nonce is about to be recorded finds that no cleanup has passed the first
millisecond of its timestamp. -/
def InTime (server : CoordinatorServer) : CoordinatorAction → Prop
  | .turn ticket _ => ∀ thread publicKey createdAt, server.threads[ticket]? = some thread →
      thread.stage = .stamped publicKey createdAt →
      server.swept ≤ (freshFrom thread.request.timestamp : ℤ)
  | _ => True

/-- The nonces guard the admitted requests, and every request is sound for its stage. -/
structure NonceSound (server : CoordinatorServer) : Prop where
  guarded : ReplayGuard server.Used (admissions Prod.mk server.Admitted) server.swept
  threads : ∀ (ticket : ℕ) (thread : AuthorizationThread),
    server.threads[ticket]? = some thread → thread.Sound server.clock

lemma Fresh.nonceSound {server : CoordinatorServer} (h : server.Fresh) : server.NonceSound := by
  have hnone : ∀ (ticket : ℕ) (thread : AuthorizationThread),
      server.threads[ticket]? ≠ some thread := by
    intro ticket thread hthread
    rw [h.1] at hthread
    simp at hthread
  constructor
  · refine ReplayGuard.initial ?_
    rintro i k opening ⟨request, ⟨thread, hthread, -⟩, -⟩
    exact hnone i thread hthread
  · intro ticket thread hthread
    exact absurd hthread (hnone ticket thread)

lemma getElem?_moveTo {server : CoordinatorServer} {ticket : ℕ} {thread moved : AuthorizationThread}
    {stage : AuthorizationStage} {i : ℕ}
    (h : (server.moveTo ticket thread stage).threads[i]? = some moved) :
    i = ticket ∧ moved = { thread with stage := stage } ∨ server.threads[i]? = some moved := by
  unfold moveTo at h
  rw [List.getElem?_set] at h
  split_ifs at h with heq hlt
  · exact Or.inl ⟨heq.symm, (Option.some.inj h).symm⟩
  · exact Or.inr h

lemma NonceSound.moveTo {server : CoordinatorServer} (hsound : server.NonceSound) {ticket : ℕ}
    {thread : AuthorizationThread} (hthread : server.threads[ticket]? = some thread)
    {stage : AuthorizationStage} (hpast : stage.PastNonce → thread.stage.PastNonce)
    (hstage : AuthorizationThread.Sound server.clock { thread with stage := stage }) :
    (server.moveTo ticket thread stage).NonceSound := by
  constructor
  · refine hsound.guarded.mono (fun _ _ h => h) ?_
    rintro i k opening ⟨request, ⟨moved, hmoved, hrequest, hmovedPast⟩, hkey⟩
    rcases getElem?_moveTo hmoved with ⟨rfl, rfl⟩ | hold
    · exact ⟨request, ⟨thread, hthread, hrequest, hpast hmovedPast⟩, hkey⟩
    · exact ⟨request, ⟨moved, hold, hrequest, hmovedPast⟩, hkey⟩
  · intro i moved hmoved
    rcases getElem?_moveTo hmoved with ⟨-, rfl⟩ | hold
    · exact hstage
    · exact hsound.threads i moved hold

lemma NonceSound.wait {server : CoordinatorServer} (hsound : server.NonceSound) (elapsed : ℕ) :
    NonceSound { server with clock := server.clock + elapsed } := by
  constructor
  · exact hsound.guarded
  · intro ticket thread hthread
    have hold := hsound.threads ticket thread hthread
    rcases thread with ⟨groupId, request, stage⟩
    rcases stage with _ | _ | _ | publicKey | _ | _ | (reason | ⟨⟩)
    case verified =>
      obtain ⟨now, hnow, hfresh⟩ : FreshBy request server.clock := hold
      refine ⟨now, hnow.trans ?_, hfresh⟩
      change server.clock ≤ server.clock + elapsed
      omega
    all_goals exact hold

lemma NonceSound.cleanupNonces {server : CoordinatorServer} (hsound : server.NonceSound)
    (cutoff : ℤ) : (server.cleanupNonces cutoff).NonceSound := by
  constructor
  · refine (hsound.guarded.sweep cutoff).mono ?_ fun _ _ _ h => h
    rintro key created ⟨⟨row, hrow, hkey, hcreated⟩, hkept⟩
    refine ⟨row, List.mem_filter.mpr ⟨hrow, ?_⟩, hkey, hcreated⟩
    rw [hcreated]
    exact decide_eq_true hkept
  · exact hsound.threads

lemma recordAuthorizedNonce_recorded {primitives : SignaturePrimitives} {tables : DeviceTables}
    {nonces nonces' : List RequestNonceRow} {input : AuthorizedNonceInput}
    (h : recordAuthorizedNonce primitives tables nonces input = .ok (.recorded, nonces')) :
    (∀ row ∈ nonces, (row.deviceId, row.nonce) ≠ (input.deviceId, input.nonce)) ∧
      nonces' = nonces ++ [⟨input.deviceId, input.nonce, input.createdAt⟩] := by
  unfold recordAuthorizedNonce at h
  dsimp only at h
  split_ifs at h with htext hkey hadmit
  · simp at h
  · rw [Bool.and_eq_true, Bool.not_eq_true', List.any_eq_false] at hadmit
    obtain ⟨-, hnonces⟩ := Prod.mk.inj (Except.ok.inj h)
    refine ⟨fun row hrow hkey => ?_, hnonces.symm⟩
    obtain ⟨hdevice, hnonce⟩ := Prod.mk.inj hkey
    have hmiss := hadmit.2 row hrow
    simp [hdevice, hnonce] at hmiss
  · -- the classification never says that the nonce was recorded
    have hclass := congrArg Prod.fst (Except.ok.inj h)
    unfold DeviceTables.classifyNonce at hclass
    dsimp only at hclass
    split_ifs at hclass

lemma NonceSound.record {server : CoordinatorServer} (hsound : server.NonceSound) {ticket : ℕ}
    {thread : AuthorizationThread} (hthread : server.threads[ticket]? = some thread)
    {createdAt : ℤ} (hfresh : FreshBy thread.request createdAt)
    (htime : server.swept ≤ (freshFrom thread.request.timestamp : ℤ))
    (hunused : ∀ row ∈ server.nonces,
      (row.deviceId, row.nonce) ≠ (thread.request.deviceId, thread.request.nonce)) :
    (CoordinatorServer.moveTo { server with nonces := server.nonces ++
      [⟨thread.request.deviceId, thread.request.nonce, createdAt⟩] } ticket thread
      (.recorded createdAt)).NonceSound := by
  obtain ⟨now, hnow, hnowFresh⟩ := hfresh
  constructor
  · have hnew : ∀ created,
        ¬ server.Used (thread.request.deviceId, thread.request.nonce) created := by
      rintro created ⟨row, hrow, hkey, -⟩
      exact hunused row hrow hkey
    refine hsound.guarded.accept ticket hnew htime ((freshFrom_le hnowFresh).trans hnow) ?_ ?_
    · rintro key created (⟨row, hrow, hkey⟩ | ⟨rfl, rfl⟩)
      · exact ⟨row, List.mem_append_left _ hrow, hkey⟩
      · exact ⟨_, List.mem_append_right _ (List.mem_singleton_self _), rfl, rfl⟩
    · rintro i k opening ⟨request, ⟨moved, hmoved, hrequest, hpast⟩, hk, hopening⟩
      rcases getElem?_moveTo hmoved with ⟨rfl, rfl⟩ | hold
      · have hsame : thread.request = request := hrequest
        rw [← hsame] at hk hopening
        exact Or.inr ⟨rfl, hk.symm, hopening.symm⟩
      · exact Or.inl ⟨request, ⟨moved, hold, hrequest, hpast⟩, hk, hopening⟩
  · intro i moved hmoved
    rcases getElem?_moveTo hmoved with ⟨-, rfl⟩ | hold
    · exact ⟨createdAt, now, hnow, hnowFresh⟩
    · exact hsound.threads i moved hold

/-- A request that goes on in time keeps the coordinator sound. -/
lemma NonceSound.resume {primitives : SignaturePrimitives} {verifier : CoordinatorRequestVerifier}
    {server : CoordinatorServer} (hsound : server.NonceSound) {ticket : ℕ}
    {thread : AuthorizationThread} (hthread : server.threads[ticket]? = some thread)
    (htime : ∀ publicKey createdAt, thread.stage = .stamped publicKey createdAt →
      server.swept ≤ (freshFrom thread.request.timestamp : ℤ)) :
    (server.resume primitives verifier ticket thread).NonceSound := by
  have hold := hsound.threads ticket thread hthread
  rcases thread with ⟨groupId, request, stage⟩
  rcases stage with _ | publicKey | publicKey | publicKey | ⟨publicKey, createdAt⟩ | createdAt | result
  · -- the headers and the enrollment
    unfold CoordinatorServer.resume readEnrollment
    dsimp only
    split_ifs
    · exact hsound.moveTo hthread (fun h => h.elim) trivial
    · split
      · exact hsound.moveTo hthread (fun h => h.elim) trivial
      · split_ifs
        · exact hsound.moveTo hthread (fun h => h.elim) trivial
        · exact hsound.moveTo hthread (fun h => h.elim) trivial
  · -- the group
    unfold CoordinatorServer.resume readGroup
    dsimp only
    split
    · exact hsound.moveTo hthread (fun h => h.elim) trivial
    · split_ifs
      · exact hsound.moveTo hthread (fun h => h.elim) trivial
      · exact hsound.moveTo hthread (fun h => h.elim) trivial
  · -- the signature
    unfold CoordinatorServer.resume
    dsimp only
    split_ifs with hverified
    · exact hsound.moveTo hthread (fun h => h.elim)
        ⟨server.clock, le_rfl, verifier.fresh_of_verify _ _ _ hverified⟩
    · exact hsound.moveTo hthread (fun h => h.elim) trivial
  · exact hsound.moveTo hthread (fun h => h.elim) hold
  · -- the record of the nonce
    unfold CoordinatorServer.resume
    dsimp only
    split
    · exact hsound.moveTo hthread (fun h => h.elim) trivial
    · rename_i nonces hrecord
      obtain ⟨hunused, rfl⟩ := recordAuthorizedNonce_recorded hrecord
      exact hsound.record hthread hold (htime publicKey createdAt rfl) hunused
    · exact hsound.moveTo hthread (fun h => h.elim) trivial
  · -- the cleanup
    have hclean := hsound.cleanupNonces (createdAt - defaultTimeWindowS * 2 * 1000)
    exact hclean.moveTo hthread (fun _ => trivial) hold
  · exact hsound

lemma NonceSound.step {primitives : SignaturePrimitives} {verifier : CoordinatorRequestVerifier}
    {server : CoordinatorServer} (hsound : server.NonceSound) {action : CoordinatorAction}
    (htime : server.InTime action) : (server.step primitives verifier action).NonceSound := by
  rcases action with ⟨groupId, request⟩ | ⟨ticket, elapsed⟩ | tables
  · constructor
    · refine hsound.guarded.mono (fun _ _ h => h) ?_
      rintro i k opening ⟨other, ⟨thread, hthread, hrequest, hpast⟩, hkey⟩
      refine ⟨other, ⟨thread, ?_, hrequest, hpast⟩, hkey⟩
      rcases lt_or_ge i server.threads.length with hold | hnew
      · exact (List.getElem?_append_left hold).symm.trans hthread
      · -- the new request has not passed its nonce
        have hlast := (List.getElem?_append_right hnew).symm.trans hthread
        rw [List.getElem?_singleton] at hlast
        split_ifs at hlast
        rw [← Option.some.inj hlast] at hpast
        exact hpast.elim
    · intro i thread hthread
      rcases lt_or_ge i server.threads.length with hold | hnew
      · exact hsound.threads i thread ((List.getElem?_append_left hold).symm.trans hthread)
      · have hlast := (List.getElem?_append_right hnew).symm.trans hthread
        rw [List.getElem?_singleton] at hlast
        split_ifs at hlast
        rw [← Option.some.inj hlast]
        trivial
  · have hwait := hsound.wait elapsed
    unfold CoordinatorServer.step
    dsimp only
    rcases hthread : server.threads[ticket]? with _ | thread
    · exact hwait
    · exact hwait.resume hthread fun publicKey createdAt hstage =>
        htime thread publicKey createdAt hthread hstage
  · exact ⟨hsound.guarded, hsound.threads⟩

lemma NonceSound.acceptedOnce {primitives : SignaturePrimitives} {server : CoordinatorServer}
    (hsound : server.NonceSound) : AcceptedOnce primitives server.Accepted := by
  have hguard : ReplayGuard server.Used (admissions Prod.mk server.Accepted) server.swept := by
    refine hsound.guarded.mono (fun _ _ h => h) ?_
    rintro i k opening ⟨request, ⟨groupId, hthread⟩, hkey⟩
    exact ⟨request, ⟨_, hthread, rfl, trivial⟩, hkey⟩
  refine acceptedOnce_of_guard hguard ?_
  rintro i request ⟨groupId, hthread⟩
  obtain ⟨latest, now, -, hfresh⟩ := hsound.threads i _ hthread
  exact ⟨now, hfresh⟩

end CoordinatorServer

/-! ### Runs -/

/-- Primitives under which every signature verifies and every key decodes. -/
def samplePrimitives : SignaturePrimitives where
  sha256Hex _ := "00"
  base64Decode _ := [0, 0, 0, 0, 0, 0, 0, 32] ++ List.replicate 32 0
  base64Encode _ := "AA"
  verifies _ _ _ := true

/-- A request of device `A` with a timestamp and a nonce. -/
def sampleSigned (timestamp nonce : String) : SignedRequest where
  method := "GET"
  pathWithQuery := "/v1/ops"
  deviceId := "A"
  timestamp := timestamp
  nonce := nonce
  signature := "v2:AA"
  recipient := none
  directSignature := none
  body := []
  method_single_line := by decide
  path_single_line := by decide

/-- A sync peer that knows device `A`, five minutes before second 600. -/
def sampleSyncPeer : SyncPeerServer :=
  ⟨"L", [⟨"A", some "00", some "ssh-ed25519 K"⟩], [], [], 300000, [], ⊥⟩

/-- A coordinator that has enrolled device `A`, five minutes before second 600. -/
def sampleCoordinator : CoordinatorServer :=
  ⟨⟨[⟨"G", none⟩], [⟨"G", "A", "ssh-ed25519 K", "00", none, none, true, "t0"⟩], []⟩, [], 300000, [], ⊥⟩

/-- A request that goes through all stages, the first of them after some milliseconds. -/
def sampleTurns (ticket elapsed : ℕ) : List CoordinatorAction :=
  .turn ticket elapsed :: List.replicate 5 (.turn ticket 0)

/-- A request of second 600 in the first millisecond of its window, another one that cleans up in
its last second, and the first one again. -/
def peerReplay : List SyncPeerAction :=
  [.request (sampleSigned "600" "n") ⟨0, 0, 0, 0⟩ ⟨false, false, false⟩,
    .request (sampleSigned "900" "m") ⟨600001, 0, 0, 0⟩ ⟨false, false, false⟩,
    .request (sampleSigned "600" "n") ⟨0, 0, 0, 0⟩ ⟨false, false, false⟩]

/-- The same at the coordinator. -/
def coordinatorReplay : List CoordinatorAction :=
  [.arrive "G" (sampleSigned "600" "n"), .arrive "G" (sampleSigned "900" "m"),
    .arrive "G" (sampleSigned "600" "n")] ++
    sampleTurns 0 0 ++ sampleTurns 1 600001 ++ sampleTurns 2 0

end Codemem

import Codemem.Text

/-!
# Signed requests

The request signatures of `sync-auth.ts`: the canonical text that is signed, the freshness of a
timestamp, the legacy signature (`v1`, `v2`) and the recipient-bound one (`v3`), and the check of
both that a sync peer makes.  The primitives of Node (`SHA-256`, base64, Ed25519 with its parsing of
the key) are a parameter.
-/

namespace Codemem

/-- `DEFAULT_TIME_WINDOW_S`. -/
def defaultTimeWindowS : ℤ := 300

/-- `DIRECT_PEER_SIGNATURE_VERSION_NUMBER`. -/
def directPeerSignatureVersionNumber : ℕ := 3

/-- The primitives of the runtime that the signatures rest on. -/
structure SignaturePrimitives where
  /-- `createHash("sha256").update(bytes).digest("hex")`. -/
  sha256Hex : List UInt8 → String
  /-- `Buffer.from(encoded, "base64")`. -/
  base64Decode : String → List UInt8
  /-- `bytes.toString("base64")`. -/
  base64Encode : List UInt8 → String
  /-- `verify(null, text, sshEd25519ToPublicKey(publicKey), signature)`, or `false` if it throws. -/
  verifies : String → String → List UInt8 → Bool

/-- The parts of a request that its signatures are about.  A request line and a header are single
lines. -/
structure SignedRequest where
  method : String
  pathWithQuery : String
  deviceId : String
  timestamp : String
  nonce : String
  signature : String
  recipient : Option String
  directSignature : Option String
  body : List UInt8
  method_single_line : '\n' ∉ method.toList
  path_single_line : '\n' ∉ pathWithQuery.toList
deriving DecidableEq

/-! ### Freshness -/

/-- The number that a text of decimal digits denotes. -/
def decimalValue (digits : List Char) : ℕ :=
  digits.foldl (fun value digit => 10 * value + (digit.toNat - '0'.toNat)) 0

/-- `isFreshTimestamp(timestamp, timeWindowS)` at the clock reading `now`, in milliseconds. -/
def isFreshTimestamp (timestamp : String) (timeWindowS now : ℤ) : Bool :=
  !timestamp.toList.isEmpty && timestamp.toList.all Char.isDigit &&
    decide (|now / 1000 - decimalValue timestamp.toList| ≤ timeWindowS)

/-- The first millisecond at which a timestamp is fresh. -/
def freshFrom (timestamp : String) : ℤ :=
  1000 * (decimalValue timestamp.toList - defaultTimeWindowS)

def InLastFreshSecond (timestamp : String) (now : ℤ) : Prop :=
  now / 1000 = decimalValue timestamp.toList + defaultTimeWindowS

instance (timestamp : String) (now : ℤ) : Decidable (InLastFreshSecond timestamp now) :=
  inferInstanceAs (Decidable (_ = _))

lemma freshFrom_le {timestamp : String} {now : ℤ}
    (h : isFreshTimestamp timestamp defaultTimeWindowS now = true) : freshFrom timestamp ≤ now := by
  unfold isFreshTimestamp at h
  rw [Bool.and_eq_true, decide_eq_true_eq, abs_le] at h
  have hlower := h.2.1
  unfold freshFrom
  omega

lemma sub_two_windows_le_freshFrom {timestamp : String} {now : ℤ}
    (h : isFreshTimestamp timestamp defaultTimeWindowS now = true)
    (hlast : ¬ InLastFreshSecond timestamp now) :
    now - defaultTimeWindowS * 2 * 1000 ≤ freshFrom timestamp := by
  unfold isFreshTimestamp at h
  rw [Bool.and_eq_true, decide_eq_true_eq, abs_le] at h
  have hupper := h.2.2
  unfold InLastFreshSecond at hlast
  unfold freshFrom
  unfold defaultTimeWindowS at *
  omega

/-! ### The canonical request -/

/-- The canonical text without the last line: the lines before the digest of the body. -/
def canonicalHead (request : SignedRequest) : List Char :=
  (request.method.toList.map Char.toUpper) ++ '\n' :: (request.pathWithQuery.toList ++
    '\n' :: (request.timestamp.toList ++ '\n' :: (request.nonce.toList ++ ['\n'])))

/-- `buildCanonicalRequest(method, pathWithQuery, timestamp, nonce, bodyBytes)`: the five lines. -/
def buildCanonicalRequest (primitives : SignaturePrimitives) (request : SignedRequest) : String :=
  String.ofList (canonicalHead request ++ (primitives.sha256Hex request.body).toList)

def isValidRecipientId (recipientId : String) : Bool :=
  !(trim recipientId).toList.isEmpty && recipientId == trim recipientId &&
    !recipientId.toList.any fun c => c == '\r' || c == '\n'

/-- `buildDirectPeerCanonicalRequest`: the recipient is the sixth line. -/
def buildDirectPeerCanonicalRequest (primitives : SignaturePrimitives) (request : SignedRequest)
    (recipientId : String) : Except String String :=
  if isValidRecipientId recipientId = false then
    .error "recipientId must be a non-empty single-line value"
  else .ok (buildCanonicalRequest primitives request ++ "\n" ++ recipientId)

lemma eq_newline_of_toUpper {c : Char} (h : c.toUpper = '\n') : c = '\n' := by
  unfold Char.toUpper at h
  split_ifs at h with hlower
  · have hval := congrArg Char.val h
    simp only at hval
    have hnat := congrArg UInt32.toNat hval
    have hge : 97 ≤ c.val.toNat := hlower.1
    have hle : c.val.toNat ≤ 122 := hlower.2
    have hcode : c.toNat = c.val.toNat := rfl
    rw [UInt32.toNat_add] at hnat
    simp at hnat
    omega
  · exact h

lemma firstLine_inj {a b : List Char} (ha : '\n' ∉ a) (hb : '\n' ∉ b) {s t : List Char}
    (h : a ++ '\n' :: s = b ++ '\n' :: t) : a = b ∧ s = t := by
  induction a generalizing b with
  | nil =>
    cases b with
    | nil => exact ⟨rfl, (List.cons.inj h).2⟩
    | cons c b => exact absurd ((List.cons.inj h).1 ▸ List.mem_cons_self) hb
  | cons c a ih =>
    cases b with
    | nil => exact absurd ((List.cons.inj h).1 ▸ List.mem_cons_self) ha
    | cons d b =>
      obtain ⟨hhead, htail⟩ := List.cons.inj h
      have hrest := ih (fun hmem => ha (List.mem_cons_of_mem _ hmem))
        (fun hmem => hb (List.mem_cons_of_mem _ hmem)) htail
      exact ⟨by rw [hhead, hrest.1], hrest.2⟩

lemma newline_notMem_of_fresh {timestamp : String} {timeWindowS now : ℤ}
    (h : isFreshTimestamp timestamp timeWindowS now = true) : '\n' ∉ timestamp.toList := by
  unfold isFreshTimestamp at h
  rw [Bool.and_eq_true, Bool.and_eq_true, List.all_eq_true] at h
  intro hmem
  exact absurd (h.1.2 _ hmem) (by decide)

lemma timestamp_eq_of_canonical_eq {primitives : SignaturePrimitives} {request other : SignedRequest}
    {now now' : ℤ} (hfresh : isFreshTimestamp request.timestamp defaultTimeWindowS now = true)
    (hfresh' : isFreshTimestamp other.timestamp defaultTimeWindowS now' = true)
    (h : buildCanonicalRequest primitives request = buildCanonicalRequest primitives other) :
    request.timestamp = other.timestamp := by
  have hupper : ∀ r : SignedRequest, '\n' ∉ r.method.toList.map Char.toUpper := by
    intro r hmem
    obtain ⟨c, hc, hupper⟩ := List.mem_map.mp hmem
    exact r.method_single_line (eq_newline_of_toUpper hupper ▸ hc)
  have hchars := String.ofList_injective h
  unfold canonicalHead at hchars
  simp only [List.append_assoc, List.cons_append] at hchars
  obtain ⟨-, hpath⟩ := firstLine_inj (hupper request) (hupper other) hchars
  obtain ⟨-, hstamp⟩ := firstLine_inj request.path_single_line other.path_single_line hpath
  obtain ⟨hsame, -⟩ := firstLine_inj (newline_notMem_of_fresh hfresh)
    (newline_notMem_of_fresh hfresh') hstamp
  exact String.toList_injective hsame

/-! ### Verification -/

def decodeStrictBase64 (primitives : SignaturePrimitives) (encoded : String) :
    Option (List UInt8) :=
  if encoded.toList.isEmpty then none
  else
    let decoded := primitives.base64Decode encoded
    if primitives.base64Encode decoded = encoded then some decoded else none

/-- `verifySignature(options)` at the clock reading `now`. -/
def verifySignature (primitives : SignaturePrimitives) (request : SignedRequest)
    (publicKey : String) (now : ℤ) : Bool :=
  if isFreshTimestamp request.timestamp defaultTimeWindowS now = false then false
  else
    let chars := request.signature.toList
    let sigVersion := String.ofList (chars.takeWhile (· != ':'))
    if chars.contains ':' = false ∨ sigVersion.toList.isEmpty then false
    else if ["v1", "v2"].contains sigVersion = false then false
    else
      match decodeStrictBase64 primitives (sliceFrom (sigVersion.length + 1) request.signature) with
      | none => false
      | some signatureBytes =>
        primitives.verifies publicKey (buildCanonicalRequest primitives request) signatureBytes

/-- The reasons of `verifyDirectPeerSignature`. -/
inductive DirectInvalidReason
  | incompleteMaterial
  | malformedRecipient
  | invalidTimestamp
  | unsupportedVersion
  | invalidSignature
  | recipientMismatch
deriving DecidableEq, Repr

/-- `DirectPeerSignatureVerification`. -/
inductive DirectVerification
  | absent
  | invalid (reason : DirectInvalidReason)
  | valid
deriving DecidableEq, Repr

/-- `verifyDirectPeerSignature(options)` at the clock reading `now`. -/
def verifyDirectPeerSignature (primitives : SignaturePrimitives) (request : SignedRequest)
    (expectedRecipientId publicKey : String) (now : ℤ) : DirectVerification :=
  let recipientId := request.recipient.filter fun text => text != ""
  let signature := request.directSignature.filter fun text => text != ""
  match recipientId, signature with
  | none, none => .absent
  | none, some _ => .invalid .incompleteMaterial
  | some _, none => .invalid .incompleteMaterial
  | some recipientId, some signature =>
    if isValidRecipientId recipientId = false then .invalid .malformedRecipient
    else if isFreshTimestamp request.timestamp defaultTimeWindowS now = false then
      .invalid .invalidTimestamp
    else if hasPrefix "v3:" signature = false then .invalid .unsupportedVersion
    else
      match decodeStrictBase64 primitives (sliceFrom 3 signature),
          buildDirectPeerCanonicalRequest primitives request recipientId with
      | some signatureBytes, .ok canonical =>
        if primitives.verifies publicKey canonical signatureBytes = false then
          .invalid .invalidSignature
        else if recipientId ≠ expectedRecipientId then .invalid .recipientMismatch
        else .valid
      | _, _ => .invalid .invalidSignature

/-- `verifyDirectPeerRequestSignature`: the version a valid request is signed under, or the reason
of its refusal; `directNow` and `legacyNow` are the clock readings of the two checks. -/
def verifyDirectPeerRequestSignature (primitives : SignaturePrimitives) (request : SignedRequest)
    (publicKey expectedRecipientId : String) (highestObservedVersion : Option ℕ)
    (directNow legacyNow : ℤ) : Except String ℕ :=
  let hasDirectMaterial := request.recipient.isSome || request.directSignature.isSome
  let direct := verifyDirectPeerSignature primitives request expectedRecipientId publicKey directNow
  if hasDirectMaterial = true ∧ direct = .absent then .error "invalid_direct_signature"
  else
    match direct with
    | .invalid reason =>
      .error (if reason = .recipientMismatch then "recipient_mismatch"
        else "invalid_direct_signature")
    | direct =>
      if verifySignature primitives request publicKey legacyNow = false then
        .error "invalid_signature"
      else if direct = .absent ∧
          directPeerSignatureVersionNumber ≤ highestObservedVersion.getD 0 then
        .error "signature_downgrade"
      else .ok (if direct = .valid then 3 else 2)

lemma fresh_of_verifySignature {primitives : SignaturePrimitives} {request : SignedRequest}
    {publicKey : String} {now : ℤ} (h : verifySignature primitives request publicKey now = true) :
    isFreshTimestamp request.timestamp defaultTimeWindowS now = true := by
  by_contra hstale
  unfold verifySignature at h
  rw [if_pos (Bool.eq_false_of_not_eq_true hstale)] at h
  exact absurd h (by simp)

lemma verifySignature_of_verified {primitives : SignaturePrimitives} {request : SignedRequest}
    {publicKey expectedRecipientId : String} {highest : Option ℕ} {directNow legacyNow : ℤ}
    {version : ℕ} (h : verifyDirectPeerRequestSignature primitives request publicKey
      expectedRecipientId highest directNow legacyNow = .ok version) :
    verifySignature primitives request publicKey legacyNow = true := by
  by_contra hinvalid
  have hfalse := Bool.eq_false_of_not_eq_true hinvalid
  unfold verifyDirectPeerRequestSignature at h
  dsimp only at h
  split_ifs at h with habsent
  split at h
  · cases h
  · cases h

end Codemem

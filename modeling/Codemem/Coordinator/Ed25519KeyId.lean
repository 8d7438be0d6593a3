import Codemem.Sync.SignedRequest

/-!
# Canonical ids of Ed25519 keys

The parser of SSH public keys in `coordinator-ed25519-key-id.ts`, with the decoder that the
revocation ledger uses (`coordinator-ed25519-key-id-compat.ts`), and the one of `sync-auth.ts` that
the verifier of signatures uses.  Both skip the text of the key type inside the wire bytes and
ignore what follows the key.
-/

namespace Codemem

/-- The 32 bytes of an Ed25519 public key. -/
structure RawEd25519Key where
  bytes : List UInt8
  length_eq : bytes.length = 32
deriving DecidableEq

/-- `SshEd25519Parse`: the canonical blob of a key is determined by its raw bytes. -/
inductive SshEd25519Parse
  | ed25519 (rawKey : RawEd25519Key)
  | malformedEd25519
  | other
deriving DecidableEq

/-- `[keyType, keyData] = publicKey.trim().split(/\s+/)`. -/
def sshKeyFields (publicKey : String) : String × Option String :=
  let chars := (trim publicKey).toList
  let keyType := chars.takeWhile fun c => !isTrimSpace c
  let rest := (chars.dropWhile fun c => !isTrimSpace c).dropWhile isTrimSpace
  (String.ofList keyType,
    if rest.isEmpty then none else some (String.ofList (rest.takeWhile fun c => !isTrimSpace c)))

/-- `wire.readUInt32BE(offset)`, where the wire has four bytes there. -/
def readUInt32BE (wire : List UInt8) (offset : ℕ) : ℕ :=
  ((wire.drop offset).take 4).foldl (fun value byte => 256 * value + byte.toNat) 0

/-- `bytes` as a raw key, if there are 32 of them. -/
def rawEd25519Key (bytes : List UInt8) : Option RawEd25519Key :=
  if h : bytes.length = 32 then some ⟨bytes, h⟩ else none

def readRawKey (wire : List UInt8) : Option RawEd25519Key :=
  if wire.length < 4 then none
  else
    let typeEnd := 4 + readUInt32BE wire 0
    if wire.length < typeEnd + 4 then none
    else
      let keyLength := readUInt32BE wire typeEnd
      let keyStart := typeEnd + 4
      if keyLength ≠ 32 ∨ wire.length < keyStart + keyLength then none
      else rawEd25519Key ((wire.drop keyStart).take keyLength)

def parseSshEd25519PublicKeyWithDecoder (decode : String → Option (List UInt8))
    (publicKey : String) : SshEd25519Parse :=
  let fields := sshKeyFields publicKey
  if fields.1 ≠ "ssh-ed25519" then .other
  else
    match fields.2 with
    | none => .malformedEd25519
    | some keyData =>
      match (decode keyData).bind readRawKey with
      | none => .malformedEd25519
      | some rawKey => .ed25519 rawKey

/-- `parseSshEd25519PublicKeyForRevocation(publicKey)`: decodes with `Buffer.from`, which accepts
every text. -/
def parseSshEd25519PublicKeyForRevocation (primitives : SignaturePrimitives)
    (publicKey : String) : SshEd25519Parse :=
  parseSshEd25519PublicKeyWithDecoder (fun encoded => some (primitives.base64Decode encoded))
    publicKey

def canonicalBlob (rawKey : RawEd25519Key) : List UInt8 :=
  [0, 0, 0, 11] ++ "ssh-ed25519".toUTF8.toList ++ [0, 0, 0, 32] ++ rawKey.bytes

def hashEd25519KeyId (primitives : SignaturePrimitives) : SshEd25519Parse → Option String
  | .ed25519 rawKey => some (primitives.sha256Hex (canonicalBlob rawKey))
  | .malformedEd25519 => none
  | .other => none

def ed25519KeyIdForRevocation (primitives : SignaturePrimitives) (publicKey : String) :
    Option String :=
  hashEd25519KeyId primitives (parseSshEd25519PublicKeyForRevocation primitives publicKey)

/-- The raw bytes that `sshEd25519ToPublicKey(sshPub)` wraps, unless it throws. -/
def sshEd25519ToPublicKey (primitives : SignaturePrimitives) (sshPub : String) :
    Option RawEd25519Key :=
  let fields := sshKeyFields sshPub
  match fields.2 with
  | none => none
  | some keyData =>
    if fields.1 ≠ "ssh-ed25519" then none
    else
      let wireFormat := primitives.base64Decode keyData
      if wireFormat.length < 4 then none
      else
        let typeEnd := 4 + readUInt32BE wireFormat 0
        if wireFormat.length < typeEnd + 4 then none
        else
          let keyLen := readUInt32BE wireFormat typeEnd
          let keyStart := typeEnd + 4
          if wireFormat.length < keyStart + keyLen then none
          else rawEd25519Key ((wireFormat.drop keyStart).take keyLen)

/-- The two parsers agree: the verifier extracts a raw key exactly when the revocation ledger does,
and it is the same one. -/
theorem sshEd25519ToPublicKey_eq_some_iff {primitives : SignaturePrimitives} {publicKey : String}
    {rawKey : RawEd25519Key} : sshEd25519ToPublicKey primitives publicKey = some rawKey ↔
      parseSshEd25519PublicKeyForRevocation primitives publicKey = .ed25519 rawKey := by
  unfold sshEd25519ToPublicKey parseSshEd25519PublicKeyForRevocation
    parseSshEd25519PublicKeyWithDecoder
  dsimp only
  by_cases htype : (sshKeyFields publicKey).1 = "ssh-ed25519"
  · rcases hdata : (sshKeyFields publicKey).2 with _ | keyData
    · simp [htype]
    · simp only [htype, ne_eq, not_true_eq_false, if_false, Option.bind_some]
      unfold readRawKey
      dsimp only
      split_ifs with hshort htypeEnd hkeyEnd hkey hkey
      · simp
      · simp
      · simp
      · simp at hkey
        omega
      · -- a key of another length is refused by both
        have hlen : readUInt32BE (primitives.base64Decode keyData)
            (4 + readUInt32BE (primitives.base64Decode keyData) 0) ≠ 32 := by
          omega
        unfold rawEd25519Key
        rw [dif_neg]
        · simp
        · rw [List.length_take, List.length_drop]
          omega
      · rcases rawEd25519Key _ with _ | key
        · simp
        · simp
  · rcases hdata : (sshKeyFields publicKey).2 with _ | keyData
    · simp [htype]
    · simp [htype]

end Codemem

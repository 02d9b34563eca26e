import TrustChain.Ta.Messages
import TrustChain.Ta.OwnSignatures

namespace TrustChain
namespace Ta

open Library Tee

/-!
# Room for a signature

Four numbers have to fit together before the signature of a client can be
verified: the sizes of keys that `public_key_pem_to_obj` admits, the 512 bytes
of the field `signature` of a message, the terminator of the text in it, and the
256 bytes of `sig_bytes`.  They do not: the shortest signature already fills the
field up to its last byte, and a longer one leaves `sig_bytes` as well.
-/

/-- `TEE_SIGNATURE_SIZE_BYTES`. -/
def teeSignatureSizeBytes : Nat := 256

/-- The sizes that `public_key_pem_to_obj` admits. -/
def AdmittedSize (key : RsaPublicKey) : Prop :=
  2048 ≤ bitLength key.modulus ∧ bitLength key.modulus ≤ 4096

instance (key : RsaPublicKey) : Decidable (AdmittedSize key) :=
  inferInstanceAs (Decidable (_ ∧ _))

/-- How many bytes the modulus has, and every signature under the key with it. -/
def modulusBytes (key : RsaPublicKey) : Nat := (bitLength key.modulus + 7) / 8

/-- `verify_signature`, up to its call of `TEE_AsymmetricVerifyDigest`. -/
def verifySignatureCall (primitives : Primitives) (outcomes : VerifyOutcomes)
    (data sigkey signature : CString) : TeeResult DigestVerification := do
  let keyObj ← publicKeyPemToObj primitives outcomes.pem sigkey
  verifyDigestCall primitives outcomes data.bytes keyObj signature

/-- The rest of `verify_signature` is that call. -/
theorem verifySignature_eq (primitives : Primitives) (outcomes : VerifyOutcomes)
    (data sigkey signature : CString) :
    verifySignature primitives outcomes data sigkey signature =
      (verifySignatureCall primitives outcomes data sigkey signature).bind
        (DigestVerification.run primitives outcomes) := by
  unfold verifySignature verifySignatureCall
  cases publicKeyPemToObj primitives outcomes.pem sigkey with
  | error code => rfl
  | ok keyObj => exact verifySignatureCommon_eq primitives outcomes data.bytes keyObj signature

/-- The text is read as an RSA key of an admitted size. -/
def ReadsKey (primitives : Primitives) (keyStr : CString) (key : RsaPublicKey) : Prop :=
  primitives.pkParsePublicKey keyStr.bytes = some (.rsa key) ∧ AdmittedSize key

/-- What it comes to that a signature is verified: a key of an admitted size is read
from the text of the key, and the primitive accepts the decoded signature for the
digest of the data. -/
structure VerifiesUnder (primitives : Primitives) (data sigkey signature : CString)
    (key : RsaPublicKey) (sigBytes : List UInt8) : Prop where
  reads : ReadsKey primitives sigkey key
  decoded : hexStringToBytes signature.bytes = .ok sigBytes
  accepted : primitives.rsaVerify key (primitives.sha256 data.bytes).toList sigBytes = true

theorem readsKey_of_loaded {primitives : Primitives} {outcomes : PemOutcomes}
    {keyStr : CString} {key : RsaPublicKey}
    (loaded : publicKeyPemToObj primitives outcomes keyStr = .ok key) :
    ReadsKey primitives keyStr key := by
  unfold publicKeyPemToObj at loaded
  cases parsed : primitives.pkParsePublicKey keyStr.bytes with
  | none =>
      rw [parsed] at loaded
      cases loaded
  | some context =>
      rw [parsed] at loaded
      cases context with
      | notRsa => cases loaded
      | rsa found =>
          dsimp only at loaded
          by_cases outside : bitLength found.modulus < 2048 ∨ 4096 < bitLength found.modulus
          · rw [if_pos outside] at loaded
            cases loaded
          rw [if_neg outside] at loaded
          have admitted : AdmittedSize found := by
            unfold AdmittedSize
            omega
          rcases exists_of_bind_eq_ok loaded with ⟨_, _, rest⟩
          -- The three failures of the export in between give an error.
          split_ifs at rest
          any_goals
            rcases exists_of_bind_eq_ok rest with ⟨_, impossible, _⟩
            cases impossible
          rcases exists_of_bind_eq_ok rest with ⟨_, _, last⟩
          cases last
          exact ⟨parsed, admitted⟩

theorem verifyDigestCall_eq_ok {primitives : Primitives} {outcomes : VerifyOutcomes}
    {data : List UInt8} {keyObj : RsaPublicKey} {signature : CString} {call : DigestVerification}
    (called : verifyDigestCall primitives outcomes data keyObj signature = .ok call) :
    call.key = keyObj ∧ call.digest = (primitives.sha256 data).toList ∧
      hexStringToBytes signature.bytes = .ok call.signature := by
  rcases exists_of_bind_eq_ok called with ⟨digest, hashed, rest⟩
  rcases exists_of_bind_eq_ok rest with ⟨sigBytes, decoded, rest⟩
  rcases exists_of_bind_eq_ok rest with ⟨_, _, rest⟩
  rcases exists_of_bind_eq_ok rest with ⟨_, _, last⟩
  cases last
  rw [(computeSha256Hash_eq_ok_iff.mp hashed).2]
  exact ⟨rfl, rfl, decoded⟩

theorem rsaVerify_of_run {primitives : Primitives} {outcomes : VerifyOutcomes}
    {call : DigestVerification} (verified : call.run primitives outcomes = .ok ()) :
    primitives.rsaVerify call.key call.digest call.signature = true := by
  rcases exists_of_bind_eq_ok verified with ⟨_, _, rest⟩
  by_contra refused
  rw [if_neg refused] at rest
  cases rest

theorem exists_verifiesUnder {primitives : Primitives} {outcomes : VerifyOutcomes}
    {data sigkey signature : CString}
    (verified : verifySignature primitives outcomes data sigkey signature = .ok ()) :
    ∃ key sigBytes, VerifiesUnder primitives data sigkey signature key sigBytes := by
  rw [verifySignature_eq] at verified
  rcases exists_of_bind_eq_ok verified with ⟨call, called, ran⟩
  rcases exists_of_bind_eq_ok called with ⟨key, loaded, handed⟩
  rcases verifyDigestCall_eq_ok handed with ⟨sameKey, sameDigest, decoded⟩
  have accepted := rsaVerify_of_run ran
  rw [sameKey, sameDigest] at accepted
  exact ⟨key, call.signature, readsKey_of_loaded loaded, decoded, accepted⟩

/-- The field holds the text of this signature with its terminator, the text is
decoded within `sig_bytes`, and the primitive is handed the signature, whatever
data is to be verified under a text that is read as the key. -/
structure Presents (primitives : Primitives) (key : RsaPublicKey) (signature : List UInt8)
    (field : List UInt8) (text : CString) : Prop where
  held : HoldsText field text
  decoded : hexStringToBytes text.bytes = .ok signature
  inside : ∀ sigBytes sigBytesLen, Region.SameFrom teeSignatureSizeBytes sigBytes
    (hexStringToBytesAt sigBytes 0 sigBytesLen text.bytes).memory
  handed : ∀ outcomes data sigkey, outcomes.Reaches →
    publicKeyPemToObj primitives outcomes.pem sigkey = .ok key →
    verifySignatureCall primitives outcomes data sigkey text =
      .ok ⟨key, (primitives.sha256 data.bytes).toList, signature⟩

/-- The field `signature` of an `access_control_message`. -/
def acSignatureField (memory : List UInt8) : List UInt8 :=
  (memory.drop offsetAcSignature).take maxSignatureLength

/-- The field `signature` of a `commit_message`. -/
def cmSignatureField (memory : List UInt8) : List UInt8 :=
  (memory.drop offsetCmSignature).take maxSignatureLength

/-- Some `access_control_message` presents the signature. -/
def PresentedByAccess (primitives : Primitives) (key : RsaPublicKey) (signature : List UInt8) :
    Prop :=
  ∃ memory, memory.length = sizeofAccessControlMessage ∧
    Presents primitives key signature (acSignatureField memory)
      (accessControlMessageAt memory).signature

/-- Some `commit_message` presents the signature. -/
def PresentedByCommit (primitives : Primitives) (key : RsaPublicKey) (signature : List UInt8) :
    Prop :=
  ∃ memory, memory.length = sizeofCommitMessage ∧
    Presents primitives key signature (cmSignatureField memory) (commitMessageAt memory).signature

/-! ## The lengths -/

/-- A text is twice as long as what it decodes to. -/
theorem length_of_hexStringToBytes {text bytes : List UInt8}
    (decoded : hexStringToBytes text = .ok bytes) : text.length = 2 * bytes.length := by
  unfold hexStringToBytes at decoded
  by_cases even : text.length % 2 = 0
  · rw [if_neg (not_not_intro even)] at decoded
    have length := (decoded_of_hexPairs decoded).length
    omega
  · rw [if_pos even] at decoded
    cases decoded

/-- A field of 512 bytes has no room for the text of 256 bytes and a terminator. -/
theorem not_holdsText_of_long {field signature : List UInt8} {text : CString}
    (size : field.length ≤ maxSignatureLength) (long : 256 ≤ signature.length)
    (decoded : hexStringToBytes text.bytes = .ok signature) : ¬ HoldsText field text := by
  intro held
  have bound := held.length_le
  have length := length_of_hexStringToBytes decoded
  rw [List.length_append, List.length_singleton, length] at bound
  have limit : maxSignatureLength = 512 := rfl
  omega

theorem le_modulusBytes {key : RsaPublicKey} (admitted : AdmittedSize key) :
    256 ≤ modulusBytes key := by
  have shortest := admitted.1
  unfold modulusBytes
  omega

/-- `sig_bytes` has room for the signatures of the shortest admitted keys only. -/
theorem sigBytes_room_iff {key : RsaPublicKey} {signature : List UInt8} {text : CString}
    (admitted : AdmittedSize key) (whole : signature.length = modulusBytes key)
    (decoded : hexStringToBytes text.bytes = .ok signature) :
    (∀ sigBytes sigBytesLen, Region.SameFrom teeSignatureSizeBytes sigBytes
        (hexStringToBytesAt sigBytes 0 sigBytesLen text.bytes).memory) ↔
      bitLength key.modulus = 2048 := by
  have stored : ∀ sigBytes sigBytesLen,
      (hexStringToBytesAt sigBytes 0 sigBytesLen text.bytes).memory =
        sigBytes.write 0 signature := by
    intro sigBytes sigBytesLen
    rw [hexStringToBytesAt_eq, decoded]
  have room := Region.sameFrom_write_iff teeSignatureSizeBytes signature
  simp only [stored, forall_const, room]
  rw [whole]
  have shortest := admitted.1
  unfold modulusBytes teeSignatureSizeBytes
  omega

/-- The field of a message never holds the text of a signature of 256 bytes or more. -/
theorem not_presents_of_long {primitives : Primitives} {key : RsaPublicKey}
    {signature : List UInt8} (memory : List UInt8) (offset : Nat) {text : CString}
    (long : 256 ≤ signature.length) :
    ¬ Presents primitives key signature ((memory.drop offset).take maxSignatureLength) text := by
  intro presents
  apply not_holdsText_of_long _ long presents.decoded presents.held
  rw [List.length_take]
  exact Nat.min_le_left _ _

/-- No message can present a signature under an admitted key. -/
theorem no_signature_can_be_presented (primitives : Primitives) (key : RsaPublicKey)
    (signature : List UInt8) (admitted : AdmittedSize key)
    (whole : signature.length = modulusBytes key) :
    ¬ PresentedByAccess primitives key signature ∧
      ¬ PresentedByCommit primitives key signature := by
  have long : 256 ≤ signature.length := by
    rw [whole]
    exact le_modulusBytes admitted
  constructor
  · intro presented
    rcases presented with ⟨memory, _, presents⟩
    exact not_presents_of_long memory offsetAcSignature long presents
  · intro presented
    rcases presented with ⟨memory, _, presents⟩
    exact not_presents_of_long memory offsetCmSignature long presents

namespace Sample

/-- A modulus of 2048 bits and one of 4096. -/
def shortestKey : RsaPublicKey := keyPair.publicKey

def longestKey : RsaPublicKey := ⟨2 ^ 4096 - 1, 3⟩

end Sample

theorem longest_signature_not_presented :
    ¬ PresentedByAccess Sample.primitives Sample.longestKey (List.replicate 512 1) ∧
      ¬ PresentedByCommit Sample.primitives Sample.longestKey (List.replicate 512 1) := by
  apply no_signature_can_be_presented
  · exact (by decide +kernel : AdmittedSize Sample.longestKey)
  · rw [List.length_replicate]
    decide +kernel

/-- A key of the size that the TEE itself uses. -/
theorem shortest_signature_not_presented :
    AdmittedSize Sample.shortestKey ∧ modulusBytes Sample.shortestKey = 256 ∧
      ¬ (PresentedByAccess Sample.primitives Sample.shortestKey (List.replicate 256 1) ∧
        PresentedByCommit Sample.primitives Sample.shortestKey (List.replicate 256 1)) := by
  refine ⟨by decide +kernel, by decide +kernel, ?_⟩
  intro presented
  rcases presented.1 with ⟨memory, _, presents⟩
  exact not_presents_of_long memory offsetAcSignature (by rw [List.length_replicate]) presents

end Ta
end TrustChain

import TrustChain.Ta.HexMemory

namespace TrustChain
namespace Ta

open Library Tee

/-!
# Signatures of the TEE, made and verified

`tee_sign_data` and `tee_sign_hash` write a signature as hexadecimal text, and
`tee_verify_signature` reads it back.  On the way the digest becomes text and
bytes again on one side, and the signature on the other.  What is compared in
the end are the arguments of the two calls `TEE_AsymmetricSignDigest` and
`TEE_AsymmetricVerifyDigest`, so the functions are also given up to these calls.
-/

/-! ## Up to the call of the primitive -/

/-- What `TEE_AsymmetricVerifyDigest` is called with, and the key of its operation. -/
structure DigestVerification where
  key : RsaPublicKey
  digest : List UInt8
  signature : List UInt8
  deriving DecidableEq

/-- `verify_signature_common`, up to its call of `TEE_AsymmetricVerifyDigest`. -/
def verifyDigestCall (primitives : Primitives) (outcomes : VerifyOutcomes) (data : List UInt8)
    (keyObj : RsaPublicKey) (signature : CString) : TeeResult DigestVerification := do
  let dataHash ← computeSha256Hash primitives outcomes.hash data
  let sigBytes ← hexStringToBytes signature.bytes
  outcomes.allocateOperation
  outcomes.setOperationKey
  return ⟨keyObj, dataHash.toList, sigBytes⟩

/-- That call and the rest of `verify_signature_common`. -/
def DigestVerification.run (primitives : Primitives) (outcomes : VerifyOutcomes)
    (call : DigestVerification) : TeeResult Unit := do
  outcomes.verifyDigest
  if primitives.rsaVerify call.key call.digest call.signature then return ()
  else throw .signatureInvalid

theorem verifySignatureCommon_eq (primitives : Primitives) (outcomes : VerifyOutcomes)
    (data : List UInt8) (keyObj : RsaPublicKey) (signature : CString) :
    verifySignatureCommon primitives outcomes data keyObj signature =
      (verifyDigestCall primitives outcomes data keyObj signature).bind
        (DigestVerification.run primitives outcomes) := by
  unfold verifySignatureCommon verifyDigestCall
  cases computeSha256Hash primitives outcomes.hash data with
  | error code => rfl
  | ok dataHash =>
      cases hexStringToBytes signature.bytes with
      | error code => rfl
      | ok sigBytes =>
          cases outcomes.allocateOperation with
          | error code => rfl
          | ok allocated =>
              cases outcomes.setOperationKey with
              | error code => rfl
              | ok keyed => rfl

/-- With a signature that decodes, the primitive is handed the digest of the
data and the decoded bytes. -/
theorem verifyDigestCall_of_decoded {primitives : Primitives} {outcomes : VerifyOutcomes}
    {signature : CString} {sigBytes : List UInt8} (reaches : outcomes.Reaches)
    (decoded : hexStringToBytes signature.bytes = .ok sigBytes) (data : List UInt8)
    (keyObj : RsaPublicKey) :
    verifyDigestCall primitives outcomes data keyObj signature =
      .ok ⟨keyObj, (primitives.sha256 data).toList, sigBytes⟩ := by
  rcases reaches with ⟨⟨allocatedHash, digested⟩, allocated, keyed⟩
  unfold verifyDigestCall computeSha256Hash
  rw [allocatedHash, digested, decoded, allocated, keyed]
  rfl

/-- `tee_verify_signature`, up to the call of `TEE_AsymmetricVerifyDigest`. -/
def teeVerifyDigestCall (primitives : Primitives) (outcomes : OwnVerifyOutcomes)
    (data : List UInt8) (signature : CString) (store : KeyStore) : TeeResult DigestVerification := do
  let keyPair ← (loadOrGenerateKeyPair outcomes.load store).1
  outcomes.allocateTransientObject
  outcomes.copyObjectAttributes
  verifyDigestCall primitives outcomes.verify data keyPair.publicKey signature

theorem teeVerifySignature_eq (primitives : Primitives) (outcomes : OwnVerifyOutcomes)
    (data : List UInt8) (signature : CString) (store : KeyStore) :
    (teeVerifySignature primitives outcomes data signature store).1 =
      (teeVerifyDigestCall primitives outcomes data signature store).bind
        (DigestVerification.run primitives outcomes.verify) := by
  unfold teeVerifySignature teeVerifyDigestCall
  cases loadOrGenerateKeyPair outcomes.load store with
  | mk loaded after =>
      cases loaded with
      | error code => rfl
      | ok keyPair =>
          cases outcomes.allocateTransientObject with
          | error code => rfl
          | ok allocated =>
              cases outcomes.copyObjectAttributes with
              | error code => rfl
              | ok copied =>
                  exact verifySignatureCommon_eq primitives outcomes.verify data keyPair.publicKey
                    signature

/-- The calls of `tee_verify_signature` succeed, and it opens this key pair. -/
structure OwnVerifyOutcomes.SucceedsWith (outcomes : OwnVerifyOutcomes) (store : KeyStore)
    (keyPair : RsaKeyPair) : Prop where
  loaded : (loadOrGenerateKeyPair outcomes.load store).1 = .ok keyPair
  allocated : outcomes.allocateTransientObject = .ok ()
  copied : outcomes.copyObjectAttributes = .ok ()
  reaches : outcomes.verify.Reaches
  verified : outcomes.verify.verifyDigest = .ok ()

theorem OwnVerifyOutcomes.SucceedsWith.call {outcomes : OwnVerifyOutcomes} {store : KeyStore}
    {keyPair : RsaKeyPair} (succeeds : outcomes.SucceedsWith store keyPair) {primitives : Primitives}
    {signature : CString} {sigBytes : List UInt8}
    (decoded : hexStringToBytes signature.bytes = .ok sigBytes) (data : List UInt8) :
    teeVerifyDigestCall primitives outcomes data signature store =
      .ok ⟨keyPair.publicKey, (primitives.sha256 data).toList, sigBytes⟩ := by
  unfold teeVerifyDigestCall
  rw [succeeds.loaded, succeeds.allocated, succeeds.copied]
  exact verifyDigestCall_of_decoded succeeds.reaches decoded data keyPair.publicKey

/-- What `TEE_AsymmetricSignDigest` is called with in `tee_sign_hash`: the key
pair of its operation and the digest. -/
def signDigestCall (outcomes : SignOutcomes) (hashString : CString) (store : KeyStore) :
    TeeResult (RsaKeyPair × List UInt8) := do
  let hashBytes ← hexStringToBytes hashString.bytes
  let keyPair ← (loadOrGenerateKeyPair outcomes.load store).1
  outcomes.allocateOperation
  outcomes.setOperationKey
  return (keyPair, hashBytes)

/-- That call and the rest of `tee_sign_hash`. -/
def runSignDigest (primitives : Primitives) (outcomes : SignOutcomes)
    (call : RsaKeyPair × List UInt8) : TeeResult CString := do
  outcomes.signDigest
  return bytesToHexString (primitives.rsaSign call.1 call.2).toList

theorem teeSignHash_eq (primitives : Primitives) (outcomes : SignOutcomes) (hashString : CString)
    (store : KeyStore) :
    (teeSignHash primitives outcomes hashString store).1 =
      (signDigestCall outcomes hashString store).bind (runSignDigest primitives outcomes) := by
  unfold teeSignHash signDigestCall
  cases hexStringToBytes hashString.bytes with
  | error code => rfl
  | ok hashBytes =>
      cases loadOrGenerateKeyPair outcomes.load store with
      | mk loaded after =>
          cases loaded with
          | error code => rfl
          | ok keyPair =>
              unfold signDigest
              cases outcomes.allocateOperation with
              | error code => rfl
              | ok allocated =>
                  cases outcomes.setOperationKey with
                  | error code => rfl
                  | ok keyed => rfl

/-- A success of `tee_sign_hash` writes the text of what was signed in that call. -/
theorem signDigestCall_of_signed {primitives : Primitives} {outcomes : SignOutcomes}
    {hashString signature : CString} {store after : KeyStore}
    (signed : teeSignHash primitives outcomes hashString store = (.ok signature, after)) :
    ∃ keyPair digest, signDigestCall outcomes hashString store = .ok (keyPair, digest) ∧
      (loadOrGenerateKeyPair outcomes.load store).1 = .ok keyPair ∧
      hexStringToBytes hashString.bytes = .ok digest ∧
      signature = bytesToHexString (primitives.rsaSign keyPair digest).toList := by
  rcases teeSignHash_eq_ok_iff.mp signed with ⟨digest, keyPair, decoded, loaded, text⟩
  rcases signDigest_eq_ok_iff.mp text with ⟨⟨allocated, keyed, _⟩, isText⟩
  refine ⟨keyPair, digest, ?_, by rw [loaded], decoded, isText⟩
  unfold signDigestCall
  rw [decoded, loaded, allocated, keyed]
  rfl

/-! ## Signing in memory -/

/-- `hash_data`, with its output in memory. -/
def hashDataAt (primitives : Primitives) (outcomes : HashOutcomes) (data : List UInt8) (hash : Nat)
    (memory : Region) : TeeResult Region := do
  let hashBuffer ← computeSha256Hash primitives outcomes data
  return bytesToHexStringAt memory hash hashBuffer.toList

/-- `tee_sign_data`, with its output in memory.  The digest is written into a
local buffer of 65 bytes that starts as zeros. -/
def teeSignDataAt (primitives : Primitives) (hashOutcomes : HashOutcomes)
    (signOutcomes : SignOutcomes) (data : List UInt8) (signature : Nat) (memory : Region)
    (store : KeyStore) : TeeResult Region × KeyStore :=
  match hashDataAt primitives hashOutcomes (signedBytes data) 0 fun _ => 0 with
  | .error code => (.error code, store)
  | .ok hashString =>
      teeSignHashAt primitives signOutcomes (hashString.readString 0 65) signature memory store

/-- The digest in memory is its text. -/
theorem readString_hashDataAt {primitives : Primitives} {outcomes : HashOutcomes}
    {data : List UInt8} {hash : Nat} {memory hashed : Region}
    (isHashed : hashDataAt primitives outcomes data hash memory = .ok hashed) :
    hashed.readString hash 65 = hashText primitives data := by
  unfold hashDataAt at isHashed
  cases digest : computeSha256Hash primitives outcomes data with
  | error code =>
      rw [digest] at isHashed
      cases isHashed
  | ok hashBuffer =>
      rw [digest] at isHashed
      cases isHashed
      have nonempty : hashBuffer.toList ≠ [] := by
        intro none
        have length := hashBuffer.toList_length
        rw [none] at length
        cases length
      have isText : bytesToHexString hashBuffer.toList = hashText primitives data := by
        have text : hashData primitives outcomes data =
            .ok (bytesToHexString hashBuffer.toList) := by
          unfold hashData
          rw [digest]
          rfl
        exact (hashData_eq_ok_iff.mp text).2
      rw [bytesToHexStringAt_eq_strcpy memory hash nonempty, Region.readString_strcpy, isText]
      apply CString.take_eq_self
      rw [length_hashText]
      decide

/-- The two ways in which the TEE signs data: at once, or a hash that
`hash_data` has left in a buffer.  `memory` and `written` are the memory in front
of the call that writes the signature, and behind it. -/
inductive SignsData (primitives : Primitives) (hashOutcomes : HashOutcomes)
    (signOutcomes : SignOutcomes) (data : CString) (signature : Nat) (store after : KeyStore) :
    Region → Region → Prop
  | signData {memory written : Region} (behind : List UInt8)
      (signed : teeSignDataAt primitives hashOutcomes signOutcomes (data.bytes ++ 0 :: behind)
        signature memory store = (.ok written, after)) :
      SignsData primitives hashOutcomes signOutcomes data signature store after memory written
  | signHash {memory hashed written : Region} (hash : Nat)
      (isHashed : hashDataAt primitives hashOutcomes data.bytes hash memory = .ok hashed)
      (signed : teeSignHashAt primitives signOutcomes (hashed.readString hash 65) signature hashed
        store = (.ok written, after)) :
      SignsData primitives hashOutcomes signOutcomes data signature store after hashed written

/-- Either way the hash text of the data is signed, and the signature is copied
into the buffer. -/
theorem SignsData.signed {primitives : Primitives} {hashOutcomes : HashOutcomes}
    {signOutcomes : SignOutcomes} {data : CString} {signature : Nat} {store after : KeyStore}
    {memory written : Region}
    (signs : SignsData primitives hashOutcomes signOutcomes data signature store after memory
      written) :
    ∃ text, teeSignHash primitives signOutcomes (hashText primitives data.bytes) store =
        (.ok text, after) ∧ written = memory.strcpy signature text := by
  have written_of_text : ∀ memory : Region,
      teeSignHashAt primitives signOutcomes (hashText primitives data.bytes) signature memory
        store = (.ok written, after) →
      ∃ text, teeSignHash primitives signOutcomes (hashText primitives data.bytes) store =
        (.ok text, after) ∧ written = memory.strcpy signature text := by
    intro memory inMemory
    rw [teeSignHashAt_eq] at inMemory
    cases text : teeSignHash primitives signOutcomes (hashText primitives data.bytes) store with
    | mk result stored =>
        rw [text] at inMemory
        cases result with
        | error code => cases (Prod.mk.inj inMemory).1
        | ok signatureText =>
            cases inMemory
            exact ⟨signatureText, rfl, rfl⟩
  cases signs with
  | signData behind signed =>
      apply written_of_text
      have bytes : signedBytes (data.bytes ++ 0 :: behind) = data.bytes :=
        congrArg CString.bytes (CString.ofMemory_terminated data behind)
      rw [teeSignDataAt, bytes] at signed
      cases digest : hashDataAt primitives hashOutcomes data.bytes 0 fun _ => 0 with
      | error code =>
          rw [digest] at signed
          cases (Prod.mk.inj signed).1
      | ok hashString =>
          rw [digest] at signed
          rw [← readString_hashDataAt digest]
          exact signed
  | signHash hash isHashed signed =>
      apply written_of_text
      rw [← readString_hashDataAt isHashed]
      exact signed

/-- Data can be signed if no call of the environment fails. -/
theorem exists_signsData (primitives : Primitives) {hashOutcomes : HashOutcomes}
    {signOutcomes : SignOutcomes} (hashSucceeds : hashOutcomes.Succeeds)
    (signSucceeds : signOutcomes.Succeeds) (data : CString) (signature : Nat) (store : KeyStore)
    (memory : Region) :
    ∃ written after, SignsData primitives hashOutcomes signOutcomes data signature store after
      memory written := by
  have isHashed : hashDataAt primitives hashOutcomes data.bytes 0 (fun _ => 0) =
      .ok (bytesToHexStringAt (fun _ => 0) 0 (primitives.sha256 data.bytes).toList) := by
    unfold hashDataAt computeSha256Hash
    rw [hashSucceeds.1, hashSucceeds.2]
    rfl
  rcases (teeSignHash_hashText_ok_iff primitives signOutcomes data.bytes store).mpr signSucceeds
    with ⟨text, signed⟩
  refine ⟨memory.strcpy signature text,
    (teeSignHash primitives signOutcomes (hashText primitives data.bytes) store).2,
    .signData [] ?_⟩
  have bytes : signedBytes (data.bytes ++ [0]) = data.bytes :=
    congrArg CString.bytes (CString.ofMemory_terminated data [])
  rw [teeSignDataAt, bytes, isHashed]
  simp only []
  rw [readString_hashDataAt isHashed, teeSignHashAt_eq, signed]
  rfl

/-! ## A signature of the TEE verifies -/

/-- Under the public half of this pair, the primitive accepts what it signed
with the pair, and nothing else. -/
def AcceptsOwn (primitives : Primitives) (keyPair : RsaKeyPair) : Prop :=
  ∀ digest signature, primitives.rsaVerify keyPair.publicKey digest signature = true ↔
    signature = (primitives.rsaSign keyPair digest).toList

/-- A signature of the TEE fits into 513 bytes and verifies: the primitive is
handed the digest that was signed and the bytes of the signature, and for any
other data the digest of that data.  The two calls are those in which
`tee_sign_hash` and `tee_verify_signature` end. -/
theorem tee_signature_verifies {primitives : Primitives} {hashOutcomes : HashOutcomes}
    {signOutcomes : SignOutcomes} {data : CString} {signature size : Nat} {store after : KeyStore}
    {memory written : Region} {keyPair : RsaKeyPair} {outcomes : OwnVerifyOutcomes}
    {later : KeyStore} (room : 513 ≤ size) (accepts : AcceptsOwn primitives keyPair)
    (signs : SignsData primitives hashOutcomes signOutcomes data signature store after memory
      written)
    (signedWith : (loadOrGenerateKeyPair signOutcomes.load store).1 = .ok keyPair)
    (succeeds : outcomes.SucceedsWith later keyPair) :
    (∀ index, index < signature ∨ signature + size ≤ index → written index = memory index) ∧
      teeSignHash primitives signOutcomes (hashText primitives data.bytes) store =
        (.ok (written.readString signature size), after) ∧
      (teeSignHash primitives signOutcomes (hashText primitives data.bytes) store).1 =
        (signDigestCall signOutcomes (hashText primitives data.bytes) store).bind
          (runSignDigest primitives signOutcomes) ∧
      (∀ other, (teeVerifySignature primitives outcomes other (written.readString signature size)
          later).1 =
        (teeVerifyDigestCall primitives outcomes other (written.readString signature size)
          later).bind (DigestVerification.run primitives outcomes.verify)) ∧
      ∃ digest, signDigestCall signOutcomes (hashText primitives data.bytes) store =
          .ok (keyPair, digest) ∧
        teeVerifyDigestCall primitives outcomes data.bytes (written.readString signature size)
            later =
          .ok ⟨keyPair.publicKey, digest, (primitives.rsaSign keyPair digest).toList⟩ ∧
        (teeVerifySignature primitives outcomes data.bytes (written.readString signature size)
          later).1 = .ok () ∧
        ∀ other, teeVerifyDigestCall primitives outcomes other
            (written.readString signature size) later =
          .ok ⟨keyPair.publicKey, (primitives.sha256 other).toList,
            (primitives.rsaSign keyPair digest).toList⟩ := by
  rcases signs.signed with ⟨text, signed, isWritten⟩
  have length : text.length = 512 := length_of_teeSignHash signed
  rcases signDigestCall_of_signed signed with ⟨loadedPair, digest, call, loaded, decoded, isText⟩
  cases loaded.symm.trans signedWith
  rw [hashText, hexStringToBytes_bytesToHexString] at decoded
  cases decoded
  have read : written.readString signature size = text := by
    rw [isWritten, Region.readString_strcpy]
    exact CString.take_eq_self (by omega)
  have decoded : hexStringToBytes (written.readString signature size).bytes =
      .ok (primitives.rsaSign keyPair (primitives.sha256 data.bytes).toList).toList := by
    rw [read, isText, hexStringToBytes_bytesToHexString]
  have handed : ∀ other, teeVerifyDigestCall primitives outcomes other
      (written.readString signature size) later = _ := succeeds.call decoded
  refine ⟨?_, by rw [read, signed], teeSignHash_eq primitives signOutcomes _ store,
    fun other => teeVerifySignature_eq primitives outcomes other _ later, _, call,
    handed data.bytes, ?_, handed⟩
  · intro index outside
    rw [isWritten, Region.strcpy]
    apply Region.write_outside
    rw [List.length_append, List.length_singleton]
    change index < signature ∨ signature + (text.length + 1) ≤ index
    omega
  · have accepted := (accepts (primitives.sha256 data.bytes).toList _).mpr rfl
    rw [teeVerifySignature_eq, handed data.bytes]
    simp only [Except.bind, DigestVerification.run, succeeds.verified, bind, accepted, if_pos, pure,
      Except.pure]

namespace Sample

/-- The primitive that verifies accepts the one signature there is for a digest. -/
def verifying : Primitives :=
  { primitives with
    rsaVerify := fun _ digest signature => signature == (primitives.rsaSign keyPair digest).toList }

def ownVerification : OwnVerifyOutcomes := ⟨.smooth keyPair, .ok (), .ok (), .smooth⟩

theorem verifying_acceptsOwn : AcceptsOwn verifying keyPair := by
  intro digest signature
  simp only [verifying, beq_iff_eq]

end Sample

theorem founder_signature_verifies :
    ∃ written after, SignsData Sample.verifying .smooth (.smooth Sample.keyPair) Sample.founder 0
        (some Sample.keyPair) after (fun _ => 0) written ∧
      (teeVerifySignature Sample.verifying Sample.ownVerification Sample.founder.bytes
        (written.readString 0 513) (some Sample.keyPair)).1 = .ok () := by
  have succeeds : Sample.ownVerification.SucceedsWith (some Sample.keyPair) Sample.keyPair :=
    ⟨rfl, rfl, rfl, ⟨⟨rfl, rfl⟩, rfl, rfl⟩, rfl⟩
  have signing : (SignOutcomes.smooth Sample.keyPair).Succeeds :=
    ⟨Or.inl ⟨Sample.keyPair, rfl⟩, rfl, rfl, rfl⟩
  have hashing : HashOutcomes.smooth.Succeeds := ⟨rfl, rfl⟩
  rcases exists_signsData Sample.verifying hashing signing Sample.founder 0 (some Sample.keyPair)
    (fun _ => 0) with ⟨written, after, signs⟩
  rcases tee_signature_verifies (Nat.le_refl 513) Sample.verifying_acceptsOwn signs rfl succeeds with
    ⟨_, _, _, _, digest, _, _, verified, _⟩
  exact ⟨written, after, signs, verified⟩

end Ta
end TrustChain

import TrustChain.Ta.Utils

namespace TrustChain
namespace Ta

open Library Tee

/-!
# `tee_key_manager/tee_key_manager.c`

The key pair of the TEE is the object stored under `tee_key_pair_uuid`.  Each
function is given that object and returns it as it is afterwards; only
`load_or_generate_key_pair` writes it.  Whether opening it succeeds, and with
which key pair, is an outcome: nothing here assumes that the storage answers
truthfully.
-/

/-- The object under `tee_key_pair_uuid`, if there is one. -/
abbrev KeyStore := Option RsaKeyPair

/-- `load_or_generate_key_pair`.  Any failure to open leads to generating a new
pair, and `TEE_DATA_FLAG_OVERWRITE` makes the creation replace what is stored. -/
def loadOrGenerateKeyPair (outcomes : LoadOutcomes) (store : KeyStore) :
    TeeResult RsaKeyPair × KeyStore :=
  match outcomes.openPersistentObject with
  | .ok keyPair => (.ok keyPair, store)
  | .error _ =>
      match outcomes.allocateTransientObject with
      | .error code => (.error code, store)
      | .ok () =>
          match outcomes.generateKey with
          | .error code => (.error code, store)
          | .ok keyPair =>
              match outcomes.createPersistentObject with
              | .error code => (.error code, store)
              | .ok () => (.ok keyPair, some keyPair)

/-- The signing operation of `tee_sign_hash`, once a key pair is at hand. -/
def signDigest (primitives : Primitives) (outcomes : SignOutcomes) (keyPair : RsaKeyPair)
    (hashBytes : List UInt8) : TeeResult CString := do
  outcomes.allocateOperation
  outcomes.setOperationKey
  outcomes.signDigest
  return bytesToHexString (primitives.rsaSign keyPair hashBytes).toList

/-- `tee_sign_hash`. -/
def teeSignHash (primitives : Primitives) (outcomes : SignOutcomes) (hashString : CString)
    (store : KeyStore) : TeeResult CString × KeyStore :=
  match hexStringToBytes hashString.bytes with
  | .error code => (.error code, store)
  | .ok hashBytes =>
      match loadOrGenerateKeyPair outcomes.load store with
      | (.error code, store) => (.error code, store)
      | (.ok keyPair, store) => (signDigest primitives outcomes keyPair hashBytes, store)

/-- The bytes that `tee_sign_data` hands to the hash: `strlen(data)` of them. -/
def signedBytes (data : List UInt8) : List UInt8 :=
  (CString.ofMemory data).bytes

/-- `tee_sign_data`. -/
def teeSignData (primitives : Primitives) (hashOutcomes : HashOutcomes)
    (signOutcomes : SignOutcomes) (data : List UInt8) (store : KeyStore) :
    TeeResult CString × KeyStore :=
  match hashData primitives hashOutcomes (signedBytes data) with
  | .error code => (.error code, store)
  | .ok hashString => teeSignHash primitives signOutcomes hashString store

/-- The calls inside `tee_verify_signature` that are not in the functions it calls. -/
structure OwnVerifyOutcomes where
  load : LoadOutcomes
  allocateTransientObject : TeeResult Unit
  copyObjectAttributes : TeeResult Unit
  verify : VerifyOutcomes
  deriving DecidableEq

/-- `tee_verify_signature`. -/
def teeVerifySignature (primitives : Primitives) (outcomes : OwnVerifyOutcomes)
    (data : List UInt8) (signature : CString) (store : KeyStore) : TeeResult Unit × KeyStore :=
  match loadOrGenerateKeyPair outcomes.load store with
  | (.error code, store) => (.error code, store)
  | (.ok keyPair, store) =>
      (do
        outcomes.allocateTransientObject
        outcomes.copyObjectAttributes
        verifySignatureCommon primitives outcomes.verify data keyPair.publicKey signature, store)

/-- The decryption of `tee_decrypt_data`, once a key pair is at hand. -/
def decryptBytes (primitives : Primitives) (outcomes : DecryptOutcomes) (keyPair : RsaKeyPair)
    (encryptedBytes : List UInt8) : TeeResult CString := do
  outcomes.allocateOperation
  outcomes.setOperationKey
  outcomes.asymmetricDecrypt
  let decryptedBytes ← primitives.rsaDecrypt keyPair encryptedBytes
  return bytesToHexString decryptedBytes

/-- `tee_decrypt_data`; the length of the resulting text is `*decrypted_len`. -/
def teeDecryptData (primitives : Primitives) (outcomes : DecryptOutcomes)
    (encryptedData : CString) (store : KeyStore) : TeeResult CString × KeyStore :=
  match hexStringToBytes encryptedData.bytes with
  | .error code => (.error code, store)
  | .ok encryptedBytes =>
      match loadOrGenerateKeyPair outcomes.load store with
      | (.error code, store) => (.error code, store)
      | (.ok keyPair, store) => (decryptBytes primitives outcomes keyPair encryptedBytes, store)

/-! ## What loading does -/

/-- Loading opens what is stored, stores a new pair, or fails and stores nothing. -/
theorem loadOrGenerateKeyPair_cases (outcomes : LoadOutcomes) (store : KeyStore) :
    (∃ keyPair, outcomes.openPersistentObject = .ok keyPair ∧
        loadOrGenerateKeyPair outcomes store = (.ok keyPair, store)) ∨
      (∃ keyPair, outcomes.Stores keyPair ∧
        loadOrGenerateKeyPair outcomes store = (.ok keyPair, some keyPair)) ∨
      (∃ code, ¬ outcomes.Succeeds ∧ (∀ keyPair, ¬ outcomes.Stores keyPair) ∧
        loadOrGenerateKeyPair outcomes store = (.error code, store)) := by
  unfold loadOrGenerateKeyPair LoadOutcomes.Stores LoadOutcomes.Succeeds
  cases opened : outcomes.openPersistentObject with
  | ok keyPair => exact Or.inl ⟨keyPair, rfl, rfl⟩
  | error reason =>
      apply Or.inr
      cases allocated : outcomes.allocateTransientObject with
      | error code => exact Or.inr ⟨code, by simp, by simp, rfl⟩
      | ok allocation =>
          cases generated : outcomes.generateKey with
          | error code => exact Or.inr ⟨code, by simp, by simp, rfl⟩
          | ok keyPair =>
              cases created : outcomes.createPersistentObject with
              | error code => exact Or.inr ⟨code, by simp, by simp, rfl⟩
              | ok creation => exact Or.inl ⟨keyPair, ⟨⟨reason, rfl⟩, rfl, rfl, rfl⟩, rfl⟩

/-! ## When signing a block hash succeeds -/

/-- The three calls after loading. -/
theorem signDigest_eq_ok_iff {primitives : Primitives} {outcomes : SignOutcomes}
    {keyPair : RsaKeyPair} {hashBytes : List UInt8} {signature : CString} :
    signDigest primitives outcomes keyPair hashBytes = .ok signature ↔
      (outcomes.allocateOperation = .ok () ∧ outcomes.setOperationKey = .ok () ∧
        outcomes.signDigest = .ok ()) ∧
      signature = bytesToHexString (primitives.rsaSign keyPair hashBytes).toList := by
  unfold signDigest
  cases outcomes.allocateOperation with
  | error code => simp [bind, Except.bind]
  | ok allocated =>
      cases outcomes.setOperationKey with
      | error code => simp [bind, Except.bind]
      | ok keyed =>
          cases outcomes.signDigest with
          | error code => simp [bind, Except.bind]
          | ok signed =>
              simp only [bind, Except.bind, pure, Except.pure, Except.ok.injEq, true_and]
              exact eq_comm

/-- What a success of `tee_sign_hash` is made of. -/
theorem teeSignHash_eq_ok_iff {primitives : Primitives} {outcomes : SignOutcomes}
    {hashString signature : CString} {store after : KeyStore} :
    teeSignHash primitives outcomes hashString store = (.ok signature, after) ↔
      ∃ hashBytes keyPair, hexStringToBytes hashString.bytes = .ok hashBytes ∧
        loadOrGenerateKeyPair outcomes.load store = (.ok keyPair, after) ∧
        signDigest primitives outcomes keyPair hashBytes = .ok signature := by
  unfold teeSignHash
  cases hexStringToBytes hashString.bytes with
  | error code => simp
  | ok hashBytes =>
      cases loadOrGenerateKeyPair outcomes.load store with
      | mk loaded stored =>
          cases loaded with
          | error code => simp
          | ok keyPair =>
              constructor
              · intro signed
                have parts := Prod.mk.inj signed
                exact ⟨hashBytes, keyPair, rfl, by rw [parts.2], parts.1⟩
              · rintro ⟨_, _, decoded, loaded, signed⟩
                cases decoded
                cases loaded
                exact congrArg (·, after) signed

/-- The text of a digest always decodes, so signing it fails only when one of
the calls does. -/
theorem teeSignHash_hashText_ok_iff (primitives : Primitives) (outcomes : SignOutcomes)
    (data : List UInt8) (store : KeyStore) :
    (∃ signature, (teeSignHash primitives outcomes (hashText primitives data) store).1 =
      .ok signature) ↔ outcomes.Succeeds := by
  unfold teeSignHash hashText SignOutcomes.Succeeds
  rw [hexStringToBytes_bytesToHexString]
  rcases loadOrGenerateKeyPair_cases outcomes.load store with
    ⟨keyPair, opened, loaded⟩ | ⟨keyPair, stores, loaded⟩ | ⟨code, failed, _, loaded⟩
  · have succeeds : outcomes.load.Succeeds := Or.inl ⟨keyPair, opened⟩
    simp only [loaded, signDigest_eq_ok_iff, succeeds, true_and, exists_and_left, exists_eq,
      and_true]
  · have succeeds : outcomes.load.Succeeds :=
      Or.inr ⟨stores.2.1, ⟨keyPair, stores.2.2.1⟩, stores.2.2.2⟩
    simp only [loaded, signDigest_eq_ok_iff, succeeds, true_and, exists_and_left, exists_eq,
      and_true]
  · simp only [loaded, failed, false_and, reduceCtorEq, exists_false]

/-- A signature that `tee_sign_hash` hands out is the text of 256 bytes. -/
theorem length_of_teeSignHash {primitives : Primitives} {outcomes : SignOutcomes}
    {hashString signature : CString} {store after : KeyStore}
    (signed : teeSignHash primitives outcomes hashString store = (.ok signature, after)) :
    signature.length = 512 := by
  rcases teeSignHash_eq_ok_iff.mp signed with ⟨hashBytes, keyPair, _, _, digest⟩
  rw [(signDigest_eq_ok_iff.mp digest).2, length_bytesToHexString, List.Vector.toList_length]

/-- Whether signing succeeds does not depend on what is signed. -/
theorem teeSignHash_hashText_alike (primitives : Primitives) (outcomes : SignOutcomes)
    (data other : List UInt8) (store : KeyStore) :
    (∃ code after, teeSignHash primitives outcomes (hashText primitives data) store =
        (.error code, after) ∧
      teeSignHash primitives outcomes (hashText primitives other) store = (.error code, after)) ∨
    ∃ first second after, teeSignHash primitives outcomes (hashText primitives data) store =
        (.ok first, after) ∧
      teeSignHash primitives outcomes (hashText primitives other) store = (.ok second, after) := by
  unfold teeSignHash hashText signDigest
  rw [hexStringToBytes_bytesToHexString, hexStringToBytes_bytesToHexString]
  rcases loadOrGenerateKeyPair outcomes.load store with ⟨code | keyPair, after⟩
  · exact Or.inl ⟨code, after, rfl, rfl⟩
  · cases outcomes.allocateOperation with
    | error code => exact Or.inl ⟨code, after, rfl, rfl⟩
    | ok allocated =>
        cases outcomes.setOperationKey with
        | error code => exact Or.inl ⟨code, after, rfl, rfl⟩
        | ok keySet =>
            cases outcomes.signDigest with
            | error code => exact Or.inl ⟨code, after, rfl, rfl⟩
            | ok signed => exact Or.inr ⟨_, _, after, rfl, rfl⟩

theorem teeSignData_alike (primitives : Primitives) (hashOutcomes : HashOutcomes)
    (signOutcomes : SignOutcomes) (data other : List UInt8) (store : KeyStore) :
    (∃ code after, teeSignData primitives hashOutcomes signOutcomes data store =
        (.error code, after) ∧
      teeSignData primitives hashOutcomes signOutcomes other store = (.error code, after)) ∨
    ∃ first second after, teeSignData primitives hashOutcomes signOutcomes data store =
        (.ok first, after) ∧
      teeSignData primitives hashOutcomes signOutcomes other store = (.ok second, after) := by
  unfold teeSignData hashData computeSha256Hash
  cases hashOutcomes.allocateOperation with
  | error code => exact Or.inl ⟨code, store, rfl, rfl⟩
  | ok allocated =>
      cases hashOutcomes.digestDoFinal with
      | error code => exact Or.inl ⟨code, store, rfl, rfl⟩
      | ok digested =>
          exact teeSignHash_hashText_alike primitives signOutcomes (signedBytes data)
            (signedBytes other) store

/-! ## The stored key pair

No answer depends on what is stored, since the key pair that a call works with
is one of its outcomes.
-/

/-- Two answers that agree, each with its own state behind it. -/
theorem exists_common_answer {Answer State : Type} {first second : Answer × State}
    (same : first.1 = second.1) :
    ∃ answer after afterOther, first = (answer, after) ∧ second = (answer, afterOther) :=
  ⟨first.1, first.2, second.2, rfl, Prod.ext same.symm rfl⟩

theorem loadOrGenerateKeyPair_fst (outcomes : LoadOutcomes) (store other : KeyStore) :
    (loadOrGenerateKeyPair outcomes store).1 = (loadOrGenerateKeyPair outcomes other).1 := by
  unfold loadOrGenerateKeyPair
  cases outcomes.openPersistentObject with
  | ok keyPair => rfl
  | error reason =>
      cases outcomes.allocateTransientObject with
      | error code => rfl
      | ok allocated =>
          cases outcomes.generateKey with
          | error code => rfl
          | ok keyPair =>
              cases outcomes.createPersistentObject with
              | error code => rfl
              | ok created => rfl

theorem teeSignHash_fst (primitives : Primitives) (outcomes : SignOutcomes) (hashString : CString)
    (store other : KeyStore) :
    (teeSignHash primitives outcomes hashString store).1 =
      (teeSignHash primitives outcomes hashString other).1 := by
  unfold teeSignHash
  cases hexStringToBytes hashString.bytes with
  | error code => rfl
  | ok hashBytes =>
      rcases exists_common_answer (loadOrGenerateKeyPair_fst outcomes.load store other) with
        ⟨loaded, after, afterOther, one, two⟩
      rw [one, two]
      cases loaded <;> rfl

theorem teeSignData_fst (primitives : Primitives) (hashOutcomes : HashOutcomes)
    (signOutcomes : SignOutcomes) (data : List UInt8) (store other : KeyStore) :
    (teeSignData primitives hashOutcomes signOutcomes data store).1 =
      (teeSignData primitives hashOutcomes signOutcomes data other).1 := by
  unfold teeSignData
  cases hashData primitives hashOutcomes (signedBytes data) with
  | error code => rfl
  | ok hashString => exact teeSignHash_fst primitives signOutcomes hashString store other

theorem teeDecryptData_fst (primitives : Primitives) (outcomes : DecryptOutcomes)
    (encryptedData : CString) (store other : KeyStore) :
    (teeDecryptData primitives outcomes encryptedData store).1 =
      (teeDecryptData primitives outcomes encryptedData other).1 := by
  unfold teeDecryptData
  cases hexStringToBytes encryptedData.bytes with
  | error code => rfl
  | ok encryptedBytes =>
      rcases exists_common_answer (loadOrGenerateKeyPair_fst outcomes.load store other) with
        ⟨loaded, after, afterOther, one, two⟩
      rw [one, two]
      cases loaded <;> rfl

end Ta
end TrustChain

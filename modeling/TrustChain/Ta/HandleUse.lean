import TrustChain.Library.Machine
import TrustChain.Ta.KeyReturn
import TrustChain.Ta.SignatureFields
import TrustChain.Tee.Handles

namespace TrustChain
namespace Ta

open Library Tee

/-!
# The handles that a call leaves behind

The functions of `utils.c` and `tee_key_manager.c` once more, now with the
handles that they open and close.  What they return is what the functions
without handles return; here it is followed which handles are open at each exit.

Decoding a text that is too long for its array leaves the array, and from there
on nothing is known of the handles either.
-/

/-! ## `utils/utils.c` -/

/-- `compute_sha256_hash`. -/
def computeSha256HashTracked (primitives : Primitives) (outcomes : HashOutcomes)
    (data : List UInt8) : TeeTracked (TeeResult (Bytes 32)) := do
  let (allocated, hashOp) ← allocateOperation outcomes.allocateOperation
  match allocated with
  | .error code => return .error code
  | .ok () =>
      let res := outcomes.digestDoFinal.map fun _ => primitives.sha256 data
      freeOperation hashOp
      return res

/-- The bytes that decoding stores fit into an array of this size. -/
def FitsInto (capacity : Nat) (hexString : CString) : Prop :=
  (storedBytes hexString.bytes).length ≤ capacity

instance (capacity : Nat) (hexString : CString) : Decidable (FitsInto capacity hexString) :=
  inferInstanceAs (Decidable (_ ≤ _))

/-- `hex_string_to_bytes` into an array of this size. -/
def hexStringToBytesInto (capacity : Nat) (hexString : CString) :
    TeeTracked (TeeResult (List UInt8)) := do
  within (decide (FitsInto capacity hexString))
  return hexStringToBytes hexString.bytes

/-- `verify_signature_common`, with the key and the handle `key_obj` of it. -/
def verifySignatureCommonTracked (primitives : Primitives) (outcomes : VerifyOutcomes)
    (data : List UInt8) (key : RsaPublicKey) (keyObj : Option Handle) (signature : CString) :
    TeeTracked (TeeResult Unit) := do
  if keyObj = none then return .error .badParameters
  else
    match ← computeSha256HashTracked primitives outcomes.hash data with
    | .error code => return .error code
    | .ok dataHash =>
        match ← hexStringToBytesInto teeSignatureSizeBytes signature with
        | .error code => return .error code
        | .ok sigBytes =>
            let (allocated, op) ← allocateOperation outcomes.allocateOperation
            let res : TeeResult Unit := do
              allocated
              outcomes.setOperationKey
              outcomes.verifyDigest
              if primitives.rsaVerify key dataHash.toList sigBytes then return ()
              else throw .signatureInvalid
            freeOperation op
            return res

/-- `public_key_pem_to_obj` from `mbedtls_rsa_export` up to the second
`mbedtls_mpi_write_binary`. -/
def exportKey (outcomes : PemOutcomes) : TeeResult Unit :=
  if outcomes.rsaExport = false then .error .badFormat
  else if outcomes.mallocModulus = false ∨ outcomes.mallocExponent = false then .error .outOfMemory
  else if outcomes.writeModulus = false ∨ outcomes.writeExponent = false then .error .generic
  else .ok ()

/-- `public_key_pem_to_obj`: its result, and `*key_obj`.  A failure between the
allocation and `TEE_PopulateTransientObject` leaves the object as it is. -/
def publicKeyPemToObjTracked (primitives : Primitives) (outcomes : PemOutcomes)
    (keyStr : CString) : TeeTracked (TeeResult RsaPublicKey × Option Handle) :=
  match primitives.pkParsePublicKey keyStr.bytes with
  | none => return (.error .badFormat, none)
  | some .notRsa => return (.error .badParameters, none)
  | some (.rsa key) =>
      if bitLength key.modulus < 2048 ∨ 4096 < bitLength key.modulus then
        return (.error .badParameters, none)
      else do
        let (allocated, keyObj) ← allocateTransientObject outcomes.allocateTransientObject
        match allocated with
        | .error code => return (.error code, keyObj)
        | .ok () =>
            match exportKey outcomes with
            | .error code => return (.error code, keyObj)
            | .ok () =>
                match outcomes.populateTransientObject with
                | .error code =>
                    freeTransientObject keyObj
                    return (.error code, none)
                | .ok () => return (.ok key, keyObj)

/-- `verify_signature`.  On an error of `public_key_pem_to_obj` it returns, and
the handle in `key_obj` is lost. -/
def verifySignatureTracked (primitives : Primitives) (outcomes : VerifyOutcomes)
    (data sigkey signature : CString) : TeeTracked (TeeResult Unit) := do
  let (loaded, keyObj) ← publicKeyPemToObjTracked primitives outcomes.pem sigkey
  match loaded with
  | .error code => return .error code
  | .ok key =>
      let res ← verifySignatureCommonTracked primitives outcomes data.bytes key keyObj signature
      closeObject keyObj
      return res

/-! ## `tee_key_manager/tee_key_manager.c` -/

/-- `load_or_generate_key_pair`: its result, and `*key_pair`. -/
def loadOrGenerateKeyPairTracked (outcomes : LoadOutcomes) :
    TeeTracked (TeeResult RsaKeyPair × Option Handle) := do
  let (loaded, keyPair) ← openPersistentObject outcomes.openPersistentObject
  match loaded with
  | .ok pair => return (.ok pair, keyPair)
  | .error _ =>
      let (allocated, rsaKeypair) ← allocateTransientObject outcomes.allocateTransientObject
      match allocated with
      | .error code => return (.error code, keyPair)
      | .ok () =>
          match outcomes.generateKey with
          | .error code =>
              freeTransientObject rsaKeypair
              return (.error code, keyPair)
          | .ok pair =>
              let (created, keyPair) ← createPersistentObject outcomes.createPersistentObject
              match created with
              | .error code =>
                  freeTransientObject rsaKeypair
                  return (.error code, keyPair)
              | .ok () =>
                  freeTransientObject rsaKeypair
                  return (.ok pair, keyPair)

/-- The part that `tee_sign_hash` and `tee_decrypt_data` share: the key pair is
loaded, an operation is allocated and used, and both are given up at `cleanup`. -/
def withKeyPairTracked (outcomes : LoadOutcomes) (allocating : TeeResult Unit)
    (operate : RsaKeyPair → TeeResult CString) : TeeTracked (TeeResult CString) := do
  let (loaded, keyPair) ← loadOrGenerateKeyPairTracked outcomes
  match loaded with
  | .error code =>
      freeOperation none
      closeObject keyPair
      return .error code
  | .ok pair =>
      let (allocated, op) ← allocateOperation allocating
      let res := allocated.bind fun _ => operate pair
      freeOperation op
      closeObject keyPair
      return res

/-- `sizeof(hash_bytes)` of `tee_sign_hash`. -/
def sizeofHashBytes : Nat := 32

/-- `tee_sign_hash`. -/
def teeSignHashTracked (primitives : Primitives) (outcomes : SignOutcomes)
    (hashString : CString) : TeeTracked (TeeResult CString) := do
  match ← hexStringToBytesInto sizeofHashBytes hashString with
  | .error code => return .error code
  | .ok hashBytes =>
      withKeyPairTracked outcomes.load outcomes.allocateOperation fun keyPair => do
        outcomes.setOperationKey
        outcomes.signDigest
        return bytesToHexString (primitives.rsaSign keyPair hashBytes).toList

/-- `tee_verify_signature`. -/
def teeVerifySignatureTracked (primitives : Primitives) (outcomes : OwnVerifyOutcomes)
    (data : List UInt8) (signature : CString) : TeeTracked (TeeResult Unit) := do
  let (loaded, keyPair) ← loadOrGenerateKeyPairTracked outcomes.load
  match loaded with
  | .error code => return .error code
  | .ok pair =>
      let (allocated, publicKey) ← allocateTransientObject outcomes.allocateTransientObject
      let copied := allocated.bind fun _ => outcomes.copyObjectAttributes
      let res ← match copied with
        | .error code => pure (.error code)
        | .ok () =>
            verifySignatureCommonTracked primitives outcomes.verify data pair.publicKey publicKey
              signature
      freeTransientObject publicKey
      closeObject keyPair
      return res

/-- `tee_decrypt_data`. -/
def teeDecryptDataTracked (primitives : Primitives) (outcomes : DecryptOutcomes)
    (encryptedData : CString) : TeeTracked (TeeResult CString) := do
  match ← hexStringToBytesInto sizeofEncryptedBytes encryptedData with
  | .error code => return .error code
  | .ok encryptedBytes =>
      withKeyPairTracked outcomes.load outcomes.allocateOperation fun keyPair => do
        outcomes.setOperationKey
        outcomes.asymmetricDecrypt
        let decryptedBytes ← primitives.rsaDecrypt keyPair encryptedBytes
        return bytesToHexString decryptedBytes

/-! ## Verifying under a handle -/

section Verifying

variable (primitives : Primitives) (before : OpenHandles HandleKind)

theorem computeSha256HashTracked_keeps (outcomes : HashOutcomes) (data : List UInt8) :
    Keeps (computeSha256HashTracked primitives outcomes data)
      (computeSha256Hash primitives outcomes data) := by
  intro before
  unfold computeSha256HashTracked computeSha256Hash
  cases outcomes.allocateOperation with
  | error code =>
      apply (allocateOperation_spec _).bind
      rintro ⟨allocated, hashOp⟩ live acquired
      rcases acquired.of_error with ⟨rfl, rfl, rfl⟩
      exact .pure ⟨rfl, rfl⟩
  | ok value =>
      apply (allocateOperation_spec _).bind
      rintro ⟨allocated, hashOp⟩ live acquired
      rcases acquired.of_ok with ⟨number, rfl, rfl, holds⟩
      apply (freeOperation_spec holds).bind
      rintro _ left rfl
      apply Triple.pure
      cases outcomes.digestDoFinal <;> exact ⟨rfl, rfl⟩

theorem hexStringToBytesInto_keeps {capacity : Nat} {hexString : CString}
    (fits : FitsInto capacity hexString) :
    Keeps (hexStringToBytesInto capacity hexString) (hexStringToBytes hexString.bytes) := by
  intro before
  unfold hexStringToBytesInto
  rw [decide_eq_true fits]
  exact within_true.bind (.pure ⟨rfl, rfl⟩)

theorem hexStringToBytesInto_faults {capacity : Nat} {hexString : CString}
    (long : ¬ FitsInto capacity hexString) (before : OpenHandles HandleKind) :
    Faults before (hexStringToBytesInto capacity hexString) .outOfBounds := by
  unfold hexStringToBytesInto
  rw [decide_eq_false long]
  exact within_false.bind

/-- The signature is decoded only behind a hash. -/
theorem verifySignatureCommonTracked_keeps {outcomes : VerifyOutcomes} {signature : CString}
    (fits : outcomes.hash.Succeeds → FitsInto teeSignatureSizeBytes signature)
    (data : List UInt8) (key : RsaPublicKey) (keyObj : Handle) :
    Keeps (verifySignatureCommonTracked primitives outcomes data key (some keyObj) signature)
      (verifySignatureCommon primitives outcomes data key signature) := by
  intro before
  unfold verifySignatureCommonTracked verifySignatureCommon
  rw [if_neg (Option.some_ne_none keyObj)]
  apply (computeSha256HashTracked_keeps primitives outcomes.hash data).bind
  cases hashed : computeSha256Hash primitives outcomes.hash data with
  | error code => exact .pure ⟨rfl, rfl⟩
  | ok dataHash =>
      have inside := fits (computeSha256Hash_eq_ok_iff.mp hashed).1
      apply (hexStringToBytesInto_keeps inside).bind
      cases hexStringToBytes signature.bytes with
      | error code => exact .pure ⟨rfl, rfl⟩
      | ok sigBytes =>
          apply (allocateOperation_spec outcomes.allocateOperation).bind
          rintro ⟨allocated, op⟩ live acquired
          cases acquired.result
          apply (freeOperation_spec acquired.holds).bind
          rintro _ left rfl
          exact .pure ⟨rfl, rfl⟩

theorem verifySignatureCommonTracked_faults {outcomes : VerifyOutcomes} {signature : CString}
    (hashed : outcomes.hash.Succeeds) (long : ¬ FitsInto teeSignatureSizeBytes signature)
    (data : List UInt8) (key : RsaPublicKey) (keyObj : Handle) (before : OpenHandles HandleKind) :
    Faults before
      (verifySignatureCommonTracked primitives outcomes data key (some keyObj) signature)
      .outOfBounds := by
  unfold verifySignatureCommonTracked
  rw [if_neg (Option.some_ne_none keyObj)]
  apply (computeSha256HashTracked_keeps primitives outcomes.hash data).bind_faults
  rw [computeSha256Hash_eq_ok_iff.mpr ⟨hashed, rfl⟩]
  exact (hexStringToBytesInto_faults long before).bind

/-! ## The public key of a client -/

/-- The calls between the allocation of the key object and the one that fills it. -/
structure Exports (outcomes : PemOutcomes) : Prop where
  rsaExport : outcomes.rsaExport = true
  mallocModulus : outcomes.mallocModulus = true
  mallocExponent : outcomes.mallocExponent = true
  writeModulus : outcomes.writeModulus = true
  writeExponent : outcomes.writeExponent = true

/-- The key object is allocated, and the key is not brought into it. -/
def Abandons (outcomes : PemOutcomes) (keyStr : CString) : Prop :=
  (∃ key, ReadsKey primitives keyStr key) ∧ outcomes.allocateTransientObject = .ok () ∧
    ¬ Exports outcomes

/-- The key object is allocated and filled. -/
def Fills (outcomes : PemOutcomes) (keyStr : CString) : Prop :=
  (∃ key, ReadsKey primitives keyStr key) ∧ outcomes.allocateTransientObject = .ok () ∧
    Exports outcomes ∧ outcomes.populateTransientObject = .ok ()

variable {primitives} {outcomes : PemOutcomes} {keyStr : CString} {key : RsaPublicKey}

theorem exportKey_eq_ok_iff : exportKey outcomes = .ok () ↔ Exports outcomes := by
  unfold exportKey
  constructor
  · intro exported
    split_ifs at exported with notExported notAllocated notWritten
    rw [not_or, Bool.not_eq_false, Bool.not_eq_false] at notAllocated notWritten
    rw [Bool.not_eq_false] at notExported
    exact ⟨notExported, notAllocated.1, notAllocated.2, notWritten.1, notWritten.2⟩
  · rintro ⟨exported, modulus, exponent, modulusWritten, exponentWritten⟩
    simp [exported, modulus, exponent, modulusWritten, exponentWritten]

/-- With a key at hand three steps are left. -/
theorem publicKeyPemToObj_of_reads (outcomes : PemOutcomes)
    (reads : ReadsKey primitives keyStr key) :
    publicKeyPemToObj primitives outcomes keyStr = (do
      outcomes.allocateTransientObject
      exportKey outcomes
      outcomes.populateTransientObject
      return key) := by
  have admitted : ¬ (bitLength key.modulus < 2048 ∨ 4096 < bitLength key.modulus) := by
    have size := reads.2
    unfold AdmittedSize at size
    omega
  simp only [publicKeyPemToObj, reads.1, if_neg admitted, exportKey]
  split_ifs <;> rfl

/-- What the function does with the handles once it has a key. -/
theorem publicKeyPemToObjTracked_of_reads (outcomes : PemOutcomes)
    (reads : ReadsKey primitives keyStr key) :
    publicKeyPemToObjTracked primitives outcomes keyStr = (do
      let (allocated, keyObj) ← allocateTransientObject outcomes.allocateTransientObject
      match allocated with
      | .error code => return (.error code, keyObj)
      | .ok () =>
          match exportKey outcomes with
          | .error code => return (.error code, keyObj)
          | .ok () =>
              match outcomes.populateTransientObject with
              | .error code =>
                  freeTransientObject keyObj
                  return (.error code, none)
              | .ok () => return (.ok key, keyObj)) := by
  have admitted : ¬ (bitLength key.modulus < 2048 ∨ 4096 < bitLength key.modulus) := by
    have size := reads.2
    unfold AdmittedSize at size
    omega
  simp only [publicKeyPemToObjTracked, reads.1, if_neg admitted]

/-- How `public_key_pem_to_obj` ends: what it returns, and whether a key object
is open behind it. -/
inductive PemExit (primitives : Primitives) (outcomes : PemOutcomes) (keyStr : CString) : Prop
  | filled (key : RsaPublicKey) (fills : Fills primitives outcomes keyStr)
      (result : publicKeyPemToObj primitives outcomes keyStr = .ok key)
      (opens : Opens (publicKeyPemToObjTracked primitives outcomes keyStr) (.ok key)
        .transientObject)
  | abandoned (code : TeeError) (abandons : Abandons primitives outcomes keyStr)
      (result : publicKeyPemToObj primitives outcomes keyStr = .error code)
      (opens : Opens (publicKeyPemToObjTracked primitives outcomes keyStr) (.error code)
        .transientObject)
  | refused (code : TeeError) (notFilled : ¬ Fills primitives outcomes keyStr)
      (notAbandoned : ¬ Abandons primitives outcomes keyStr)
      (result : publicKeyPemToObj primitives outcomes keyStr = .error code)
      (keeps : Keeps (publicKeyPemToObjTracked primitives outcomes keyStr) (.error code, none))

theorem not_fills_of_abandons (abandons : Abandons primitives outcomes keyStr) :
    ¬ Fills primitives outcomes keyStr :=
  fun fills => abandons.2.2 fills.2.2.1

/-- A text that is no key is refused before anything is allocated. -/
theorem pemExit_of_no_key (noKey : ∀ key, ¬ ReadsKey primitives keyStr key) (code : TeeError)
    (result : publicKeyPemToObj primitives outcomes keyStr = .error code)
    (same : publicKeyPemToObjTracked primitives outcomes keyStr = pure (.error code, none)) :
    PemExit primitives outcomes keyStr := by
  apply PemExit.refused code _ _ result
  · rw [same]
    exact .pure _
  · rintro ⟨⟨key, reads⟩, _⟩
    exact noKey key reads
  · rintro ⟨⟨key, reads⟩, _⟩
    exact noKey key reads

/-- With a key at hand the object is filled, left as it is, freed, or never there. -/
theorem pemExit_of_reads (reads : ReadsKey primitives keyStr key) :
    PemExit primitives outcomes keyStr := by
  have result := publicKeyPemToObj_of_reads outcomes reads
  have tracked := publicKeyPemToObjTracked_of_reads outcomes reads
  cases allocated : outcomes.allocateTransientObject with
  | error code =>
      rw [allocated] at result tracked
      have notAllocated : outcomes.allocateTransientObject ≠ .ok () := by
        rw [allocated]
        simp
      apply PemExit.refused code (fun fills => notAllocated fills.2.1)
        (fun abandons => notAllocated abandons.2.1) result
      intro before
      rw [tracked]
      apply (allocateTransientObject_spec (.error code)).bind
      rintro ⟨failed, handle⟩ live acquired
      rcases acquired.of_error with ⟨rfl, rfl, rfl⟩
      exact .pure ⟨rfl, rfl⟩
  | ok value =>
      cases exported : exportKey outcomes with
      | error code =>
          rw [allocated, exported] at result tracked
          have notExported : ¬ Exports outcomes := by
            rw [← exportKey_eq_ok_iff, exported]
            simp
          apply PemExit.abandoned code ⟨⟨key, reads⟩, allocated, notExported⟩ result
          rw [tracked]
          exact .of_acquire fun number => .pure _
      | ok value =>
          have exports := exportKey_eq_ok_iff.mp exported
          cases populated : outcomes.populateTransientObject with
          | error code =>
              rw [allocated, exported, populated] at result tracked
              have notFilled : ¬ Fills primitives outcomes keyStr := by
                rintro ⟨_, _, _, filled⟩
                rw [populated] at filled
                cases filled
              apply PemExit.refused code notFilled (fun abandons => abandons.2.2 exports) result
              intro before
              rw [tracked]
              apply (allocateTransientObject_spec (.ok value)).bind
              rintro ⟨done, handle⟩ live acquired
              rcases acquired.of_ok with ⟨number, rfl, rfl, holds⟩
              apply (freeTransientObject_spec holds).bind
              rintro _ left rfl
              exact .pure ⟨rfl, rfl⟩
          | ok value =>
              rw [allocated, exported, populated] at result tracked
              apply PemExit.filled key ⟨⟨key, reads⟩, allocated, exports, populated⟩ result
              rw [tracked]
              exact .of_acquire fun number => .pure _

/-- Each text leads to one of the exits. -/
theorem publicKeyPemToObj_exit (primitives : Primitives) (outcomes : PemOutcomes)
    (keyStr : CString) : PemExit primitives outcomes keyStr := by
  cases parsed : primitives.pkParsePublicKey keyStr.bytes with
  | none =>
      have noKey : ∀ key, ¬ ReadsKey primitives keyStr key := by
        rintro key ⟨read, _⟩
        rw [parsed] at read
        cases read
      apply pemExit_of_no_key noKey .badFormat
      · simp only [publicKeyPemToObj, parsed]
      · simp only [publicKeyPemToObjTracked, parsed]
  | some context =>
      cases context with
      | notRsa =>
          have noKey : ∀ key, ¬ ReadsKey primitives keyStr key := by
            rintro key ⟨read, _⟩
            rw [parsed] at read
            cases read
          apply pemExit_of_no_key noKey .badParameters
          · simp only [publicKeyPemToObj, parsed]
          · simp only [publicKeyPemToObjTracked, parsed]
      | rsa key =>
          by_cases admitted : AdmittedSize key
          · exact pemExit_of_reads ⟨parsed, admitted⟩
          · have noKey : ∀ key, ¬ ReadsKey primitives keyStr key := by
              rintro other ⟨read, size⟩
              rw [parsed] at read
              cases read
              exact admitted size
            have outside : bitLength key.modulus < 2048 ∨ 4096 < bitLength key.modulus := by
              unfold AdmittedSize at admitted
              omega
            apply pemExit_of_no_key noKey .badParameters
            · simp only [publicKeyPemToObj, parsed, if_pos outside]
            · simp only [publicKeyPemToObjTracked, parsed, if_pos outside]

/-! ## `verify_signature` -/

/-- The decoding of the signature is reached, and leaves `sig_bytes`. -/
def VerifyOverruns (primitives : Primitives) (outcomes : VerifyOutcomes)
    (sigkey signature : CString) : Prop :=
  Fills primitives outcomes.pem sigkey ∧ outcomes.hash.Succeeds ∧
    ¬ FitsInto teeSignatureSizeBytes signature

section Verify

variable {verifying : VerifyOutcomes} {sigkey signature : CString}

/-- A key object that was filled is closed at the end. -/
theorem verifySignatureTracked_of_opens (opens : Opens
      (publicKeyPemToObjTracked primitives verifying.pem sigkey) (.ok key) .transientObject)
    (fits : verifying.hash.Succeeds → FitsInto teeSignatureSizeBytes signature) (data : CString) :
    Keeps (verifySignatureTracked primitives verifying data sigkey signature)
      (verifySignatureCommon primitives verifying data.bytes key signature) := by
  intro before
  unfold verifySignatureTracked
  apply (opens before).bind
  rintro _ live ⟨number, rfl, holds⟩
  apply (verifySignatureCommonTracked_keeps primitives fits data.bytes key number).bind
  apply (closeObject_spec (by simp) holds).bind
  rintro _ left rfl
  exact .pure ⟨rfl, rfl⟩

/-- So nothing stays open, unless a key object was given up. -/
theorem verifySignatureTracked_keeps
    (notAbandoned : ¬ Abandons primitives verifying.pem sigkey)
    (inside : ¬ VerifyOverruns primitives verifying sigkey signature) (data : CString) :
    Keeps (verifySignatureTracked primitives verifying data sigkey signature)
      (verifySignature primitives verifying data sigkey signature) := by
  unfold verifySignature
  cases publicKeyPemToObj_exit primitives verifying.pem sigkey with
  | filled key fills result opens =>
      rw [result]
      apply verifySignatureTracked_of_opens opens
      intro hashed
      by_contra long
      exact inside ⟨fills, hashed, long⟩
  | abandoned code abandons result opens => exact absurd abandons notAbandoned
  | refused code notFilled notAbandoned result keeps =>
      rw [result]
      intro before
      unfold verifySignatureTracked
      exact keeps.bind (.pure ⟨rfl, rfl⟩)

/-- A key object that was given up is still open at the end. -/
theorem verifySignatureTracked_strands (abandons : Abandons primitives verifying.pem sigkey)
    (data signature : CString) :
    Strands (verifySignatureTracked primitives verifying data sigkey signature)
      (verifySignature primitives verifying data sigkey signature) .transientObject := by
  unfold verifySignature
  cases publicKeyPemToObj_exit primitives verifying.pem sigkey with
  | filled key fills result opens => exact absurd fills (not_fills_of_abandons abandons)
  | abandoned code abandons result opens =>
      rw [result]
      intro before
      unfold verifySignatureTracked
      apply (opens before).bind
      rintro _ live ⟨number, rfl, holds⟩
      exact .pure ⟨rfl, number, holds⟩
  | refused code notFilled notAbandoned result keeps => exact absurd abandons notAbandoned

theorem verifySignatureTracked_faults
    (overruns : VerifyOverruns primitives verifying sigkey signature) (data : CString)
    (before : OpenHandles HandleKind) :
    Faults before (verifySignatureTracked primitives verifying data sigkey signature)
      .outOfBounds := by
  rcases overruns with ⟨fills, hashed, long⟩
  cases publicKeyPemToObj_exit primitives verifying.pem sigkey with
  | filled key fills result opens =>
      unfold verifySignatureTracked
      apply (opens before).bind_faults
      rintro _ live ⟨number, rfl, holds⟩
      exact (verifySignatureCommonTracked_faults primitives hashed long data.bytes key number
        live).bind
  | abandoned code abandons result opens => exact absurd fills (not_fills_of_abandons abandons)
  | refused code notFilled notAbandoned result keeps => exact absurd fills notFilled

end Verify
end Verifying

/-! ## The key pair of the TEE -/

section KeyPair

variable {before live opened : OpenHandles HandleKind}

/-- The label `cleanup` behind an operation. -/
theorem cleanup_operation {Result : Type} {op keyPair : Option Handle}
    (object : Holds .persistentObject before keyPair live)
    (operation : Holds .operation live op opened) (res : Result) :
    Triple opened (do freeOperation op; closeObject keyPair; return res)
      fun returned after => returned = res ∧ after = before := by
  apply (freeOperation_spec operation).bind
  rintro _ still rfl
  apply (closeObject_spec (by simp) object).bind
  rintro _ left rfl
  exact .pure ⟨rfl, rfl⟩

/-- The label `cleanup` behind the copy of the public key. -/
theorem cleanup_object {Result : Type} {publicKey keyPair : Option Handle}
    (object : Holds .persistentObject before keyPair live)
    (copy : Holds .transientObject live publicKey opened) (res : Result) :
    Triple opened (do freeTransientObject publicKey; closeObject keyPair; return res)
      fun returned after => returned = res ∧ after = before := by
  apply (freeTransientObject_spec copy).bind
  rintro _ still rfl
  apply (closeObject_spec (by simp) object).bind
  rintro _ left rfl
  exact .pure ⟨rfl, rfl⟩

/-- Loading acts like one call that opens a handle, with the temporary object
gone at each exit. -/
theorem loadOrGenerateKeyPairTracked_spec (outcomes : LoadOutcomes) (store : KeyStore) :
    Triple before (loadOrGenerateKeyPairTracked outcomes)
      (Acquired .persistentObject (loadOrGenerateKeyPair outcomes store).1 before) := by
  unfold loadOrGenerateKeyPairTracked loadOrGenerateKeyPair
  cases outcomes.openPersistentObject with
  | ok pair =>
      apply (openPersistentObject_spec _).bind
      rintro ⟨loaded, keyPair⟩ live acquired
      rcases acquired.of_ok with ⟨number, rfl, rfl, holds⟩
      exact .pure acquired
  | error reason =>
      apply (openPersistentObject_spec _).bind
      rintro ⟨loaded, keyPair⟩ live acquired
      rcases acquired.of_error with ⟨rfl, rfl, rfl⟩
      cases outcomes.allocateTransientObject with
      | error code =>
          apply (allocateTransientObject_spec _).bind
          rintro ⟨allocated, rsaKeypair⟩ live acquired
          rcases acquired.of_error with ⟨rfl, rfl, rfl⟩
          exact .pure ⟨rfl, by simp, rfl⟩
      | ok value =>
          apply (allocateTransientObject_spec _).bind
          rintro ⟨allocated, rsaKeypair⟩ withObject acquired
          rcases acquired.of_ok with ⟨object, rfl, rfl, objectHeld⟩
          cases outcomes.generateKey with
          | error code =>
              apply (freeTransientObject_spec objectHeld).bind
              rintro _ left rfl
              exact .pure ⟨rfl, by simp, rfl⟩
          | ok pair =>
              cases outcomes.createPersistentObject with
              | error code =>
                  apply (createPersistentObject_spec _).bind
                  rintro ⟨created, keyPair⟩ live acquired
                  rcases acquired.of_error with ⟨rfl, rfl, rfl⟩
                  apply (freeTransientObject_spec objectHeld).bind
                  rintro _ left rfl
                  exact .pure ⟨rfl, by simp, rfl⟩
              | ok value =>
                  apply (createPersistentObject_spec _).bind
                  rintro ⟨created, keyPair⟩ live acquired
                  rcases acquired.of_ok with ⟨number, rfl, rfl, holds⟩
                  apply (freeTransientObject_below objectHeld holds).bind
                  intro _ left heldAlone
                  exact .pure ⟨rfl, by simp, heldAlone⟩

/-- Whatever is done with the key pair, both handles are closed behind it. -/
theorem withKeyPairTracked_keeps (outcomes : LoadOutcomes) (allocating : TeeResult Unit)
    (operate : RsaKeyPair → TeeResult CString) (store : KeyStore) :
    Keeps (withKeyPairTracked outcomes allocating operate)
      ((loadOrGenerateKeyPair outcomes store).1.bind fun pair =>
        allocating.bind fun _ => operate pair) := by
  intro before
  unfold withKeyPairTracked
  apply (loadOrGenerateKeyPairTracked_spec outcomes store).bind
  rintro ⟨loaded, keyPair⟩ live acquired
  have result : loaded = (loadOrGenerateKeyPair outcomes store).1 := acquired.result
  rw [← result]
  cases loaded with
  | error code =>
      have noOperation : Holds HandleKind.operation live none live := rfl
      exact cleanup_operation acquired.holds noOperation _
  | ok pair =>
      apply (allocateOperation_spec allocating).bind
      rintro ⟨allocated, op⟩ withOperation operation
      cases operation.result
      exact cleanup_operation acquired.holds operation.holds _

section Texts

variable (primitives : Primitives) (store : KeyStore)

/-- A text that fits is decoded, and its bytes are worked on with the key pair. -/
theorem decoded_keeps {capacity : Nat} {text : CString} (fits : FitsInto capacity text)
    (load : LoadOutcomes) (allocating : TeeResult Unit)
    (operate : List UInt8 → RsaKeyPair → TeeResult CString) :
    Keeps (do
        match ← hexStringToBytesInto capacity text with
        | .error code => return .error code
        | .ok bytes => withKeyPairTracked load allocating (operate bytes))
      ((hexStringToBytes text.bytes).bind fun bytes =>
        (loadOrGenerateKeyPair load store).1.bind fun pair =>
          allocating.bind fun _ => operate bytes pair) := by
  intro before
  apply (hexStringToBytesInto_keeps fits).bind
  cases hexStringToBytes text.bytes with
  | error code => exact .pure ⟨rfl, rfl⟩
  | ok bytes => exact withKeyPairTracked_keeps load allocating (operate bytes) store before

theorem teeSignHashTracked_keeps (outcomes : SignOutcomes) {hashString : CString}
    (fits : FitsInto sizeofHashBytes hashString) :
    Keeps (teeSignHashTracked primitives outcomes hashString)
      (teeSignHash primitives outcomes hashString store).1 := by
  intro before
  apply (decoded_keeps store fits outcomes.load outcomes.allocateOperation _ before).mono
  rintro _ after ⟨rfl, same⟩
  refine ⟨?_, same⟩
  unfold teeSignHash
  cases hexStringToBytes hashString.bytes with
  | error code => rfl
  | ok hashBytes =>
      rcases loadOrGenerateKeyPair outcomes.load store with ⟨code | pair, stored⟩
      · rfl
      · rfl

theorem teeDecryptDataTracked_keeps (outcomes : DecryptOutcomes) {encryptedData : CString}
    (fits : FitsInto sizeofEncryptedBytes encryptedData) :
    Keeps (teeDecryptDataTracked primitives outcomes encryptedData)
      (teeDecryptData primitives outcomes encryptedData store).1 := by
  intro before
  apply (decoded_keeps store fits outcomes.load outcomes.allocateOperation _ before).mono
  rintro _ after ⟨rfl, same⟩
  refine ⟨?_, same⟩
  unfold teeDecryptData
  cases hexStringToBytes encryptedData.bytes with
  | error code => rfl
  | ok encryptedBytes =>
      rcases loadOrGenerateKeyPair outcomes.load store with ⟨code | pair, stored⟩
      · rfl
      · rfl

theorem teeSignHashTracked_faults (outcomes : SignOutcomes) {hashString : CString}
    (long : ¬ FitsInto sizeofHashBytes hashString) :
    Faults before (teeSignHashTracked primitives outcomes hashString) .outOfBounds :=
  (hexStringToBytesInto_faults long before).bind

theorem teeDecryptDataTracked_faults (outcomes : DecryptOutcomes) {encryptedData : CString}
    (long : ¬ FitsInto sizeofEncryptedBytes encryptedData) :
    Faults before (teeDecryptDataTracked primitives outcomes encryptedData) .outOfBounds :=
  (hexStringToBytesInto_faults long before).bind

/-- The decoding of the signature is reached, and leaves `sig_bytes`. -/
def OwnVerifyOverruns (outcomes : OwnVerifyOutcomes) (signature : CString) : Prop :=
  outcomes.load.Succeeds ∧ outcomes.allocateTransientObject = .ok () ∧
    outcomes.copyObjectAttributes = .ok () ∧ outcomes.verify.hash.Succeeds ∧
    ¬ FitsInto teeSignatureSizeBytes signature

theorem load_succeeds_of_ok {outcomes : LoadOutcomes} {pair : RsaKeyPair}
    (loaded : (loadOrGenerateKeyPair outcomes store).1 = .ok pair) : outcomes.Succeeds := by
  rcases loadOrGenerateKeyPair_cases outcomes store with
    ⟨found, opened, _⟩ | ⟨made, stores, _⟩ | ⟨code, _, _, failed⟩
  · exact Or.inl ⟨found, opened⟩
  · exact Or.inr ⟨stores.2.1, ⟨made, stores.2.2.1⟩, stores.2.2.2⟩
  · rw [failed] at loaded
    cases loaded

theorem exists_pair_of_succeeds {outcomes : LoadOutcomes} (succeeds : outcomes.Succeeds) :
    ∃ pair, (loadOrGenerateKeyPair outcomes store).1 = .ok pair := by
  rcases loadOrGenerateKeyPair_cases outcomes store with
    ⟨pair, _, loaded⟩ | ⟨pair, _, loaded⟩ | ⟨code, fails, _, _⟩
  · exact ⟨pair, by rw [loaded]⟩
  · exact ⟨pair, by rw [loaded]⟩
  · exact absurd succeeds fails

theorem teeVerifySignatureTracked_keeps {outcomes : OwnVerifyOutcomes} {signature : CString}
    (inside : ¬ OwnVerifyOverruns outcomes signature) (data : List UInt8) :
    Keeps (teeVerifySignatureTracked primitives outcomes data signature)
      (teeVerifySignature primitives outcomes data signature store).1 := by
  intro before
  unfold teeVerifySignatureTracked teeVerifySignature
  apply (loadOrGenerateKeyPairTracked_spec outcomes.load store).bind
  rintro ⟨loaded, keyPair⟩ live acquired
  have result : (loadOrGenerateKeyPair outcomes.load store).1 = loaded := acquired.result.symm
  cases loading : loadOrGenerateKeyPair outcomes.load store with
  | mk first stored =>
      rw [loading] at result
      cases result
      cases first with
      | error code =>
          rw [loading] at acquired
          rcases acquired.of_error with ⟨_, _, rfl⟩
          exact .pure ⟨rfl, rfl⟩
      | ok pair =>
          have succeeds := load_succeeds_of_ok store (congrArg Prod.fst loading)
          cases allocated : outcomes.allocateTransientObject with
          | error code =>
              apply (allocateTransientObject_spec _).bind
              rintro ⟨result, publicKey⟩ withObject object
              rcases object.of_error with ⟨rfl, rfl, rfl⟩
              apply (Keeps.pure (Except.error code : TeeResult Unit)).bind
              exact cleanup_object acquired.holds object.holds _
          | ok value =>
              apply (allocateTransientObject_spec _).bind
              rintro ⟨result, publicKey⟩ withObject object
              rcases object.of_ok with ⟨number, rfl, rfl, holds⟩
              cases copied : outcomes.copyObjectAttributes with
              | error code =>
                  apply (Keeps.pure (Except.error code : TeeResult Unit)).bind
                  exact cleanup_object acquired.holds holds _
              | ok value =>
                  have fits : outcomes.verify.hash.Succeeds →
                      FitsInto teeSignatureSizeBytes signature := by
                    intro hashed
                    by_contra long
                    exact inside ⟨succeeds, allocated, copied, hashed, long⟩
                  apply (verifySignatureCommonTracked_keeps primitives fits data pair.publicKey
                    number).bind
                  exact cleanup_object acquired.holds holds _

theorem teeVerifySignatureTracked_faults {outcomes : OwnVerifyOutcomes} {signature : CString}
    (overruns : OwnVerifyOverruns outcomes signature) (data : List UInt8) :
    Faults before (teeVerifySignatureTracked primitives outcomes data signature) .outOfBounds := by
  rcases overruns with ⟨succeeds, allocated, copied, hashed, long⟩
  rcases exists_pair_of_succeeds none succeeds with ⟨pair, loading⟩
  unfold teeVerifySignatureTracked
  apply (loadOrGenerateKeyPairTracked_spec outcomes.load none).bind_faults
  rintro ⟨loaded, keyPair⟩ live acquired
  rw [loading] at acquired
  rcases acquired.of_ok with ⟨keyPairNumber, rfl, rfl, _⟩
  rw [allocated, copied]
  apply (allocateTransientObject_spec _).bind_faults
  rintro ⟨result, publicKey⟩ withObject object
  rcases object.of_ok with ⟨number, rfl, rfl, _⟩
  exact (verifySignatureCommonTracked_faults primitives hashed long data pair.publicKey number
    withObject).bind

end Texts
end KeyPair

/-! ## Sequences of calls -/

/-- A call, with what its calls of the TEE and of mbedTLS will answer. -/
inductive HandleCall
  | verifySignature (outcomes : VerifyOutcomes) (data sigkey signature : CString)
  | teeSignHash (outcomes : SignOutcomes) (hashString : CString)
  | teeVerifySignature (outcomes : OwnVerifyOutcomes) (data : List UInt8) (signature : CString)
  | teeDecryptData (outcomes : DecryptOutcomes) (encryptedData : CString)
  deriving DecidableEq

/-- What a call returns; a text comes with `TEE_SUCCESS`. -/
inductive HandleAnswer
  | result (result : TeeResult Unit)
  | text (text : TeeResult CString)
  deriving DecidableEq

/-- The functions without handles. -/
def handleAnswer (primitives : Primitives) (store : KeyStore) : HandleCall → HandleAnswer
  | .verifySignature outcomes data sigkey signature =>
      .result (verifySignature primitives outcomes data sigkey signature)
  | .teeSignHash outcomes hashString =>
      .text (teeSignHash primitives outcomes hashString store).1
  | .teeVerifySignature outcomes data signature =>
      .result (teeVerifySignature primitives outcomes data signature store).1
  | .teeDecryptData outcomes encryptedData =>
      .text (teeDecryptData primitives outcomes encryptedData store).1

def handleCallTracked (primitives : Primitives) : HandleCall → TeeTracked HandleAnswer
  | .verifySignature outcomes data sigkey signature =>
      .result <$> verifySignatureTracked primitives outcomes data sigkey signature
  | .teeSignHash outcomes hashString =>
      .text <$> teeSignHashTracked primitives outcomes hashString
  | .teeVerifySignature outcomes data signature =>
      .result <$> teeVerifySignatureTracked primitives outcomes data signature
  | .teeDecryptData outcomes encryptedData =>
      .text <$> teeDecryptDataTracked primitives outcomes encryptedData

/-- No key object is given up, and what is decoded fits into its array. -/
def HandleCall.Tidy (primitives : Primitives) : HandleCall → Prop
  | .verifySignature outcomes _ sigkey signature =>
      ¬ Abandons primitives outcomes.pem sigkey ∧
        ¬ VerifyOverruns primitives outcomes sigkey signature
  | .teeSignHash _ hashString => FitsInto sizeofHashBytes hashString
  | .teeVerifySignature outcomes _ signature => ¬ OwnVerifyOverruns outcomes signature
  | .teeDecryptData _ encryptedData => FitsInto sizeofEncryptedBytes encryptedData

section Calls

variable (primitives : Primitives)

/-- How a call ends for the handles, from any of them on. -/
theorem handleCall_exit (store : KeyStore) (call : HandleCall) :
    CallExit (handleCallTracked primitives) (HandleCall.Tidy primitives)
      (handleAnswer primitives store call) call := by
  cases call with
  | verifySignature outcomes data sigkey signature =>
      by_cases abandons : Abandons primitives outcomes.pem sigkey
      · have stranded := verifySignatureTracked_strands abandons data signature
        exact .strands (fun tidy => tidy.1 abandons) _ (stranded.map HandleAnswer.result)
      by_cases overruns : VerifyOverruns primitives outcomes sigkey signature
      · apply CallExit.faults (fun tidy => tidy.2 overruns)
        intro before
        exact (verifySignatureTracked_faults overruns data before).map HandleAnswer.result
      · have kept := verifySignatureTracked_keeps abandons overruns data
        exact .keeps ⟨abandons, overruns⟩ (kept.map HandleAnswer.result)
  | teeSignHash outcomes hashString =>
      by_cases fits : FitsInto sizeofHashBytes hashString
      · have kept := teeSignHashTracked_keeps primitives store outcomes fits
        exact .keeps fits (kept.map HandleAnswer.text)
      · refine .faults fits ?_
        intro before
        exact (teeSignHashTracked_faults primitives outcomes fits).map HandleAnswer.text
  | teeVerifySignature outcomes data signature =>
      by_cases overruns : OwnVerifyOverruns outcomes signature
      · apply CallExit.faults (fun tidy => tidy overruns)
        intro before
        exact (teeVerifySignatureTracked_faults primitives overruns data).map HandleAnswer.result
      · have kept := teeVerifySignatureTracked_keeps primitives store overruns data
        exact .keeps overruns (kept.map HandleAnswer.result)
  | teeDecryptData outcomes encryptedData =>
      by_cases fits : FitsInto sizeofEncryptedBytes encryptedData
      · have kept := teeDecryptDataTracked_keeps primitives store outcomes fits
        exact .keeps fits (kept.map HandleAnswer.text)
      · refine .faults fits ?_
        intro before
        exact (teeDecryptDataTracked_faults primitives outcomes fits).map HandleAnswer.text

variable (table : HandleTable HandleKind)

/-- The calls of a sequence, with the handles that are open at its start. -/
def handleMachine :
    Machine (Except Fault (HandleTable HandleKind)) HandleCall (Except Fault HandleAnswer) :=
  trackedMachine (handleCallTracked primitives) table

/-- A call that goes through answers as if there were no handles. -/
theorem handleMachine_answer (store : KeyStore) {call : HandleCall} {answered : HandleAnswer}
    {reached : HandleTable HandleKind}
    (goesThrough : (handleMachine primitives table).answer (.ok reached) call = .ok answered) :
    answered = handleAnswer primitives store call :=
  trackedMachine_answer (handleCall_exit primitives store call) goesThrough

/-- The open handles in a sequence of calls, from any table on: each call leaves
open what was open exactly if each is tidy, and no handle is closed twice. -/
theorem handles_kept_iff (calls : List HandleCall) :
    ((handleMachine primitives table).EveryStep
        (fun state call => SameOpen state ((handleMachine primitives table).next state call))
          calls ↔
      ∀ call ∈ calls, call.Tidy primitives) ∧
      ClosesOpen ((handleMachine primitives table).run calls) :=
  ⟨everyStep_sameOpen_iff (handleCall_exit primitives none) calls,
    closesOpen_run (handleCall_exit primitives none) calls⟩

end Calls

namespace Sample

/-- The number that some bytes write, the highest one first. -/
def bigEndian (bytes : List UInt8) : Nat :=
  bytes.foldl (fun number byte => 256 * number + byte.toNat) 0

/-- A modulus of 2055 bits without a zero byte. -/
def derModulus : List UInt8 := List.replicate 257 127

/-- The DER encoding of the two numbers of an RSA key, the exponent being 3. -/
def derKey : CString where
  bytes := [48, 130, 1, 8, 2, 130, 1, 1] ++ derModulus ++ [2, 1, 3]
  noNul := by decide +kernel

def derPublicKey : RsaPublicKey := ⟨bigEndian derModulus, 3⟩

/-- A parser that reads this text as the key, and no other text. -/
def readingDerKey : Primitives :=
  { primitives with
    pkParsePublicKey := fun input =>
      if input = derKey.bytes then some (.rsa derPublicKey) else none }

/-- `verify_signature` under this key, with no memory left for its modulus. -/
def withoutMemory : VerifyOutcomes :=
  { VerifyOutcomes.smooth with pem := { PemOutcomes.smooth with mallocModulus := false } }

def strandingCall : HandleCall :=
  .verifySignature withoutMemory (.ofMemory (ascii "data")) derKey (.ofMemory (ascii "00"))

theorem admittedSize_derPublicKey : AdmittedSize derPublicKey := by decide +kernel

theorem derKey_read : ReadsKey readingDerKey derKey derPublicKey := by
  refine ⟨?_, admittedSize_derPublicKey⟩
  simp only [readingDerKey, if_true]

end Sample

/-- One request with a good key, and an allocation that fails, leave a key object open. -/
theorem key_object_left_open :
    ¬ (handleMachine Sample.readingDerKey (.empty HandleKind)).EveryStep
      (fun state call => SameOpen state
        ((handleMachine Sample.readingDerKey (.empty HandleKind)).next state call))
      [Sample.strandingCall] := by
  have abandons : Abandons Sample.readingDerKey Sample.withoutMemory.pem Sample.derKey :=
    ⟨⟨_, Sample.derKey_read⟩, rfl, fun exports => Bool.false_ne_true exports.mallocModulus⟩
  intro every
  have tidy := (everyStep_sameOpen_iff (handleCall_exit Sample.readingDerKey none) _).mp every
  exact (tidy Sample.strandingCall List.mem_cons_self).1 abandons

end Ta
end TrustChain

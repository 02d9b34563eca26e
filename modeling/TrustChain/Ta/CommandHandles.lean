import TrustChain.Library.HandleRuns
import TrustChain.Ta.Effects
import TrustChain.Ta.HandleUse

namespace TrustChain
namespace Ta

open Library Tee

/-!
# The handles of whole commands

The commands once more, on top of the functions of `utils.c` and
`tee_key_manager.c` that open and close handles.  The object in secure storage
outlives every handle to it, so what becomes of it is taken from the functions
without handles.  No handle is kept from one command to the next on purpose.
-/

/-! ## `hash_data`, signing and decrypting -/

/-- `hash_data`. -/
def hashDataTracked (primitives : Primitives) (outcomes : HashOutcomes) (data : List UInt8) :
    TeeTracked (TeeResult CString) := do
  match ← computeSha256HashTracked primitives outcomes data with
  | .error code => return .error code
  | .ok hashBuffer => return .ok (bytesToHexString hashBuffer.toList)

/-- `tee_sign_hash`, with what it leaves in secure storage. -/
def signHashTracked (primitives : Primitives) (outcomes : SignOutcomes) (hashString : CString)
    (store : KeyStore) : TeeTracked (TeeResult CString × KeyStore) := do
  let res ← teeSignHashTracked primitives outcomes hashString
  return (res, (teeSignHash primitives outcomes hashString store).2)

/-- `tee_decrypt_data`, with what it leaves in secure storage. -/
def decryptDataTracked (primitives : Primitives) (outcomes : DecryptOutcomes)
    (encryptedData : CString) (store : KeyStore) : TeeTracked (TeeResult CString × KeyStore) := do
  let res ← teeDecryptDataTracked primitives outcomes encryptedData
  return (res, (teeDecryptData primitives outcomes encryptedData store).2)

/-- `tee_sign_data`. -/
def teeSignDataTracked (primitives : Primitives) (hashOutcomes : HashOutcomes)
    (signOutcomes : SignOutcomes) (data : List UInt8) (store : KeyStore) :
    TeeTracked (TeeResult CString × KeyStore) := do
  match ← hashDataTracked primitives hashOutcomes (signedBytes data) with
  | .error code => return (.error code, store)
  | .ok hashString => signHashTracked primitives signOutcomes hashString store

/-- The condition that three handlers share, with the hash and the signature. -/
def hashAndSignTracked (primitives : Primitives) (outcomes : CallOutcomes) (dataBuffer : CString)
    (store : KeyStore) : TeeTracked (TeeResult (CString × CString) × KeyStore) := do
  match ← hashDataTracked primitives outcomes.hash dataBuffer.bytes with
  | .error code => return (.error code, store)
  | .ok hash =>
      match ← signHashTracked primitives outcomes.sign hash store with
      | (.error code, store) => return (.error code, store)
      | (.ok teeSig, store) => return (.ok (hash, teeSig), store)

/-! ## The commands -/

/-- `init_repo`. -/
def initRepoTracked (primitives : Primitives) (outcomes : CallOutcomes) (paramTypes : UInt32)
    (adminKey : CString) (state : TaState) : TeeTracked (TeeResult Output × TaState) :=
  let repId := state.repoNum
  if paramTypes ≠ teeParamTypes memrefInput valueOutput memrefOutput paramNone then
    return (.error .badParameters, state)
  else if maxRepoId ≤ repId.toNat then return (.error .outOfMemory, state)
  else if outcomes.mallocRepo = false then
    return (.error .outOfMemory, state.setSlot repId.toNat none)
  else
    let zeroed : KeyList := ⟨[], 0⟩
    let repo : RepoMetadata :=
      { blockHeight := 0
        latestHash := zeroHash
        founderKey := adminKey
        adminKeys := if outcomes.mallocAdminKeys then some zeroed else none
        writerKeys := if outcomes.mallocWriterKeys then some zeroed else none }
    let published := state.setSlot repId.toNat (some repo)
    match repo.adminKeys, repo.writerKeys with
    | some adminKeys, some writerKeys =>
        match addKeyToSet outcomes.node (some (initKeyList adminKeys)) adminKey with
        | .error code => return (.error code, cleanupRepoResources published repId)
        | .ok withFounder => do
            let repo :=
              { repo with adminKeys := withFounder, writerKeys := some (initKeyList writerKeys) }
            let block := genesisBlock repo.latestHash adminKey outcomes.time
            match ← hashAndSignTracked primitives outcomes (accessDataBuffer block)
                state.keyStore with
            | (.error code, store) =>
                return (.error code, cleanupRepoResources (published.setKeyStore store) repId)
            | (.ok (genesisHash, teeSig), store) =>
                return (.ok (.genesis repId (block.withTeeSig teeSig)),
                  { (published.setSlot repId.toNat
                      (some { repo with latestHash := genesisHash })).setKeyStore store with
                    repoNum := state.repoNum + 1 })
    | _, _ => return (.error .outOfMemory, cleanupRepoResources published repId)

/-- What `access_control` asks for before it verifies the signature. -/
def accessControlGuards (paramTypes : UInt32) (msg : AccessControlMessage) (state : TaState) :
    TeeResult RepoMetadata :=
  if paramTypes ≠ teeParamTypes memrefInput memrefOutput paramNone paramNone then
    .error .badParameters
  else if msg.op ≠ opAdd ∧ msg.op ≠ opDelete then .error .badParameters
  else
    match validateAndGetRepo state msg.repId with
    | .error code => .error code
    | .ok repo =>
        if keyExistsInSet repo.adminKeys msg.sigkey = false then .error .accessDenied else .ok repo

/-- `access_control` from the construction of the block to the end. -/
def appendAccessBlockTracked (primitives : Primitives) (outcomes : CallOutcomes)
    (msg : AccessControlMessage) (repo : RepoMetadata) (state : TaState) :
    TeeTracked (TeeResult Output × TaState) := do
  let block := nextAccessBlock repo msg outcomes.time
  match ← hashAndSignTracked primitives outcomes (accessDataBuffer block) state.keyStore with
  | (.error code, store) => return (.error code, state.setKeyStore store)
  | (.ok (blockHash, teeSig), store) =>
      return (.ok (.accessBlock (block.withTeeSig teeSig)),
        (state.setKeyStore store).setSlot msg.repId.toNat
          (some { repo with latestHash := blockHash, blockHeight := repo.blockHeight + 1 }))

/-- `access_control`. -/
def accessControlTracked (primitives : Primitives) (outcomes : CallOutcomes) (paramTypes : UInt32)
    (msg : AccessControlMessage) (state : TaState) : TeeTracked (TeeResult Output × TaState) :=
  match accessControlGuards paramTypes msg state with
  | .error code => return (.error code, state)
  | .ok repo => do
      match ← verifySignatureTracked primitives outcomes.verify (accessControlText msg) msg.sigkey
          msg.signature with
      | .error _ => return (.error .security, state)
      | .ok () =>
          match updateKeySets outcomes.node repo msg.op msg.role msg.pubkey with
          | (.error code, repo) => return (.error code, state.setSlot msg.repId.toNat (some repo))
          | (.ok (), repo) =>
              appendAccessBlockTracked primitives outcomes msg repo
                (state.setSlot msg.repId.toNat (some repo))

/-- `get_latest_hash`. -/
def getLatestHashTracked (primitives : Primitives) (outcomes : CallOutcomes) (paramTypes : UInt32)
    (repId nonce : UInt32) (state : TaState) : TeeTracked (TeeResult Output × TaState) :=
  if paramTypes ≠ teeParamTypes valueInput valueInput memrefOutput memrefOutput then
    return (.error .badParameters, state)
  else
    match validateAndGetRepo state repId with
    | .error code => return (.error code, state)
    | .ok repo => do
        match ← teeSignDataTracked primitives outcomes.hash outcomes.sign
            (latestHashMsg nonce repo.latestHash) state.keyStore with
        | (.error code, store) => return (.error code, state.setKeyStore store)
        | (.ok signature, store) =>
            return (.ok (.latestHash nonce repo.latestHash signature), state.setKeyStore store)

/-- What `commit` asks for before it verifies the signature. -/
def commitGuards (paramTypes : UInt32) (msg : CommitMessage) (state : TaState) :
    TeeResult RepoMetadata :=
  if paramTypes ≠ teeParamTypes memrefInput memrefInout memrefOutput paramNone then
    .error .badParameters
  else if msg.op ≠ opPush ∧ msg.op ≠ opPr then .error .badParameters
  else
    match validateAndGetRepo state msg.repId with
    | .error code => .error code
    | .ok repo =>
        if keyExistsInSet repo.adminKeys msg.sigkey = false ∧
            keyExistsInSet repo.writerKeys msg.sigkey = false then .error .accessDenied
        else .ok repo

/-- `commit` behind the verification. -/
def appendContributionTracked (primitives : Primitives) (outcomes : CallOutcomes)
    (msg : CommitMessage) (encryptedKey : CString) (repo : RepoMetadata) (state : TaState) :
    TeeTracked (TeeResult Output × TaState) := do
  let block := nextContributionBlock repo msg outcomes.time
  match ← hashAndSignTracked primitives outcomes (contributionDataBuffer block) state.keyStore with
  | (.error code, store) => return (.error code, state.setKeyStore store)
  | (.ok (blockHash, teeSig), store) =>
      match ← decryptDataTracked primitives outcomes.decrypt encryptedKey store with
      | (.error code, store) => return (.error code, state.setKeyStore store)
      | (.ok decryptedKey, store) =>
          return (.ok (.contribution (block.withTeeSig teeSig) decryptedKey),
            (state.setKeyStore store).setSlot msg.repId.toNat
              (some { repo with latestHash := blockHash, blockHeight := repo.blockHeight + 1 }))

/-- `commit`. -/
def commitTracked (primitives : Primitives) (outcomes : CallOutcomes) (paramTypes : UInt32)
    (msg : CommitMessage) (encryptedKey : CString) (state : TaState) :
    TeeTracked (TeeResult Output × TaState) :=
  match commitGuards paramTypes msg state with
  | .error code => return (.error code, state)
  | .ok repo => do
      match ← verifySignatureTracked primitives outcomes.verify (commitText msg) msg.sigkey
          msg.signature with
      | .error _ => return (.error .security, state)
      | .ok () => appendContributionTracked primitives outcomes msg encryptedKey repo state

/-- `get_tee_public_key`. -/
def getTeePublicKeyTracked (primitives : Primitives) (outcomes : CallOutcomes)
    (paramTypes : UInt32) (pemBufferNull : Bool) (pemBufSize : Nat) :
    TeeTracked (TeeResult Output) :=
  if paramTypes ≠ teeParamTypes memrefOutput valueOutput paramNone paramNone then
    return .error .badParameters
  else if pemBufferNull = true ∨ pemBufSize = 0 then return .error .badParameters
  else do
    let (loaded, keyObj) ← openPersistentObject outcomes.openPublicKey
    match loaded with
    | .error code => return .error code
    | .ok keyPair =>
        match publicKeyObjToPem primitives outcomes.exportPem keyPair.publicKey 0 with
        | (.error code, _) =>
            closeObject keyObj
            return .error code
        | (.ok pem, pemLen) =>
            closeObject keyObj
            return .ok (.publicKey pem (UInt32.ofNat pemLen))

/-- `TA_InvokeCommandEntryPoint`. -/
def taInvokeCommandTracked (primitives : Primitives) (state : TaState) (call : Call) :
    TeeTracked (TeeResult Output × TaState) :=
  if call.cmdId = cmdInitRepo then
    initRepoTracked primitives call.outcomes call.paramTypes call.params.adminKey state
  else if call.cmdId = cmdAccessControl then
    accessControlTracked primitives call.outcomes call.paramTypes call.params.acMsg state
  else if call.cmdId = cmdGetLatestHash then
    getLatestHashTracked primitives call.outcomes call.paramTypes call.params.repId
      call.params.nonce state
  else if call.cmdId = cmdCommit then
    commitTracked primitives call.outcomes call.paramTypes call.params.cmMsg
      call.params.encryptedKey state
  else if call.cmdId = cmdGetTeePubkey then do
    let answer ← getTeePublicKeyTracked primitives call.outcomes call.paramTypes
      call.params.pemBufferNull call.params.pemBufSize
    return (answer, state)
  else return (.error .badParameters, state)

/-! ## Hashing and signing keep what is open -/

section Keeping

variable (primitives : Primitives) (store : KeyStore)

theorem hashDataTracked_keeps (outcomes : HashOutcomes) (data : List UInt8) :
    Keeps (hashDataTracked primitives outcomes data) (hashData primitives outcomes data) := by
  intro before
  unfold hashDataTracked hashData
  apply (computeSha256HashTracked_keeps primitives outcomes data).bind
  cases computeSha256Hash primitives outcomes data with
  | error code => exact .pure ⟨rfl, rfl⟩
  | ok hashBuffer => exact .pure ⟨rfl, rfl⟩

theorem fitsInto_bytesToHexString {capacity : Nat} {bytes : List UInt8}
    (fits : bytes.length ≤ capacity) : FitsInto capacity (bytesToHexString bytes) := by
  have decoded := hexStringToBytes_bytesToHexString bytes
  unfold FitsInto storedBytes
  unfold hexStringToBytes at decoded
  split_ifs with even
  · rw [if_neg (not_not.mpr even)] at decoded
    rw [(decoded_of_hexPairs decoded).stored]
    exact fits
  · exact Nat.zero_le capacity

/-- The text of a hash is decoded into 32 bytes. -/
theorem fitsInto_of_hashData {outcomes : HashOutcomes} {data : List UInt8} {hash : CString}
    (hashed : hashData primitives outcomes data = .ok hash) : FitsInto sizeofHashBytes hash := by
  rw [(hashData_eq_ok_iff.mp hashed).2]
  apply fitsInto_bytesToHexString
  rw [List.Vector.toList_length]
  exact Nat.le_refl 32

theorem signHashTracked_keeps (outcomes : SignOutcomes) {hashString : CString}
    (fits : FitsInto sizeofHashBytes hashString) :
    Keeps (signHashTracked primitives outcomes hashString store)
      (teeSignHash primitives outcomes hashString store) := by
  intro before
  exact (teeSignHashTracked_keeps primitives store outcomes fits).bind (.pure ⟨rfl, rfl⟩)

theorem decryptDataTracked_keeps (outcomes : DecryptOutcomes) {encryptedData : CString}
    (fits : FitsInto sizeofEncryptedBytes encryptedData) :
    Keeps (decryptDataTracked primitives outcomes encryptedData store)
      (teeDecryptData primitives outcomes encryptedData store) := by
  intro before
  exact (teeDecryptDataTracked_keeps primitives store outcomes fits).bind (.pure ⟨rfl, rfl⟩)

theorem teeSignDataTracked_keeps (hashOutcomes : HashOutcomes) (signOutcomes : SignOutcomes)
    (data : List UInt8) :
    Keeps (teeSignDataTracked primitives hashOutcomes signOutcomes data store)
      (teeSignData primitives hashOutcomes signOutcomes data store) := by
  intro before
  unfold teeSignDataTracked teeSignData
  apply (hashDataTracked_keeps primitives hashOutcomes (signedBytes data)).bind
  cases hashed : hashData primitives hashOutcomes (signedBytes data) with
  | error code => exact .pure ⟨rfl, rfl⟩
  | ok hashString =>
      exact signHashTracked_keeps primitives store signOutcomes
        (fitsInto_of_hashData primitives hashed) before

theorem hashAndSignTracked_keeps (outcomes : CallOutcomes) (dataBuffer : CString) :
    Keeps (hashAndSignTracked primitives outcomes dataBuffer store)
      (hashAndSign primitives outcomes.sign
        (hashData primitives outcomes.hash dataBuffer.bytes) store) := by
  intro before
  unfold hashAndSignTracked hashAndSign
  apply (hashDataTracked_keeps primitives outcomes.hash dataBuffer.bytes).bind
  cases hashed : hashData primitives outcomes.hash dataBuffer.bytes with
  | error code => exact .pure ⟨rfl, rfl⟩
  | ok hash =>
      have fits := fitsInto_of_hashData primitives hashed
      dsimp only
      apply (signHashTracked_keeps primitives store outcomes.sign fits).bind
      rcases teeSignHash primitives outcomes.sign hash store with ⟨code | teeSig, stored⟩
      · exact .pure ⟨rfl, rfl⟩
      · exact .pure ⟨rfl, rfl⟩

end Keeping

/-! ## The commands that keep what is open -/

section Commands

variable (primitives : Primitives) (outcomes : CallOutcomes) (state : TaState)

theorem initRepoTracked_keeps (paramTypes : UInt32) (adminKey : CString) :
    Keeps (initRepoTracked primitives outcomes paramTypes adminKey state)
      (initRepo primitives outcomes paramTypes adminKey state) := by
  unfold initRepoTracked initRepo
  dsimp only
  by_cases types : paramTypes ≠ teeParamTypes memrefInput valueOutput memrefOutput paramNone
  · rw [if_pos types, if_pos types]
    exact .pure _
  by_cases full : maxRepoId ≤ state.repoNum.toNat
  · rw [if_neg types, if_neg types, if_pos full, if_pos full]
    exact .pure _
  by_cases mallocRepo : outcomes.mallocRepo = false
  · rw [if_neg types, if_neg types, if_neg full, if_neg full, if_pos mallocRepo, if_pos mallocRepo]
    exact .pure _
  rw [if_neg types, if_neg types, if_neg full, if_neg full, if_neg mallocRepo, if_neg mallocRepo]
  cases outcomes.mallocAdminKeys with
  | false => exact .pure _
  | true =>
      cases outcomes.mallocWriterKeys with
      | false => exact .pure _
      | true =>
          simp only [if_true]
          cases addKeyToSet outcomes.node (some (initKeyList ⟨[], 0⟩)) adminKey with
          | error code => exact .pure _
          | ok withFounder =>
              intro before
              apply (hashAndSignTracked_keeps primitives state.keyStore outcomes _).bind
              simp only [calculateAccessBlockHash]
              rcases hashAndSign primitives outcomes.sign _ state.keyStore with
                ⟨code | ⟨genesisHash, teeSig⟩, stored⟩
              · exact .pure ⟨rfl, rfl⟩
              · exact .pure ⟨rfl, rfl⟩

theorem appendAccessBlockTracked_keeps (msg : AccessControlMessage) (repo : RepoMetadata) :
    Keeps (appendAccessBlockTracked primitives outcomes msg repo state)
      (appendAccessBlock primitives outcomes msg repo state) := by
  intro before
  unfold appendAccessBlockTracked appendAccessBlock
  apply (hashAndSignTracked_keeps primitives state.keyStore outcomes _).bind
  simp only [calculateAccessBlockHash]
  rcases hashAndSign primitives outcomes.sign _ state.keyStore with
    ⟨code | ⟨blockHash, teeSig⟩, stored⟩
  · exact .pure ⟨rfl, rfl⟩
  · exact .pure ⟨rfl, rfl⟩

theorem getLatestHashTracked_keeps (paramTypes repId nonce : UInt32) :
    Keeps (getLatestHashTracked primitives outcomes paramTypes repId nonce state)
      (getLatestHash primitives outcomes paramTypes repId nonce state) := by
  unfold getLatestHashTracked getLatestHash
  split_ifs with types
  · exact .pure _
  cases validateAndGetRepo state repId with
  | error code => exact .pure _
  | ok repo =>
      intro before
      dsimp only
      apply (teeSignDataTracked_keeps primitives state.keyStore outcomes.hash outcomes.sign _).bind
      rcases teeSignData primitives outcomes.hash outcomes.sign _ state.keyStore with
        ⟨code | signature, stored⟩
      · exact .pure ⟨rfl, rfl⟩
      · exact .pure ⟨rfl, rfl⟩

/-- The persistent object is closed at both exits behind its opening. -/
theorem getTeePublicKeyTracked_keeps (paramTypes : UInt32) (pemBufferNull : Bool)
    (pemBufSize : Nat) :
    Keeps (getTeePublicKeyTracked primitives outcomes paramTypes pemBufferNull pemBufSize)
      (getTeePublicKey primitives outcomes paramTypes pemBufferNull pemBufSize) := by
  unfold getTeePublicKeyTracked getTeePublicKey
  split_ifs with types noBuffer
  · exact .pure _
  · exact .pure _
  intro before
  cases outcomes.openPublicKey with
  | error code =>
      apply (openPersistentObject_spec _).bind
      rintro ⟨loaded, keyObj⟩ live acquired
      rcases acquired.of_error with ⟨rfl, rfl, rfl⟩
      exact .pure ⟨rfl, rfl⟩
  | ok keyPair =>
      apply (openPersistentObject_spec _).bind
      rintro ⟨loaded, keyObj⟩ live acquired
      rcases acquired.of_ok with ⟨number, rfl, rfl, holds⟩
      dsimp only
      rcases publicKeyObjToPem primitives outcomes.exportPem keyPair.publicKey 0 with
        ⟨code | pem, pemLen⟩
      · apply (closeObject_spec (by simp) holds).bind
        rintro _ left rfl
        exact .pure ⟨rfl, rfl⟩
      · apply (closeObject_spec (by simp) holds).bind
        rintro _ left rfl
        exact .pure ⟨rfl, rfl⟩

end Commands

/-! ## The commands that verify a signature -/

/-- The key object is allocated, and the key is not brought into it. -/
def abandonsKey (primitives : Primitives) (outcomes : PemOutcomes) (keyStr : CString) : Bool :=
  match primitives.pkParsePublicKey keyStr.bytes with
  | some (.rsa key) =>
      decide (AdmittedSize key) && outcomes.allocateTransientObject.isOk &&
        !(exportKey outcomes).isOk
  | _ => false

/-- The command gives up a key object that it has allocated. -/
def losesKeyObject (primitives : Primitives) (state : TaState) (call : Call) : Bool :=
  if call.cmdId = cmdAccessControl then
    (accessControlGuards call.paramTypes call.params.acMsg state).isOk &&
      abandonsKey primitives call.outcomes.verify.pem call.params.acMsg.sigkey
  else if call.cmdId = cmdCommit then
    (commitGuards call.paramTypes call.params.cmMsg state).isOk &&
      abandonsKey primitives call.outcomes.verify.pem call.params.cmMsg.sigkey
  else false

/-- The command decodes a text into an array that is too short for it: a signature
behind a good key, or the key that comes with a commit behind all the rest. -/
def DecodingOverruns (primitives : Primitives) (state : TaState) (call : Call) : Prop :=
  (call.cmdId = cmdAccessControl ∧
    (accessControlGuards call.paramTypes call.params.acMsg state).isOk = true ∧
    VerifyOverruns primitives call.outcomes.verify call.params.acMsg.sigkey
      call.params.acMsg.signature) ∨
  (call.cmdId = cmdCommit ∧ (commitGuards call.paramTypes call.params.cmMsg state).isOk = true ∧
    (VerifyOverruns primitives call.outcomes.verify call.params.cmMsg.sigkey
        call.params.cmMsg.signature ∨
      (verifySignature primitives call.outcomes.verify (commitText call.params.cmMsg)
          call.params.cmMsg.sigkey call.params.cmMsg.signature = .ok () ∧
        call.Seals ∧ ¬ FitsInto sizeofEncryptedBytes call.params.encryptedKey)))

section Verified

variable {primitives : Primitives}

theorem isOk_eq_true_iff {Value : Type} {result : TeeResult Value} :
    result.isOk = true ↔ ∃ value, result = .ok value := by
  cases result with
  | error code => simp [Except.isOk, Except.toBool]
  | ok value => simp [Except.isOk, Except.toBool]

theorem abandonsKey_iff {outcomes : PemOutcomes} {keyStr : CString} :
    abandonsKey primitives outcomes keyStr = true ↔ Abandons primitives outcomes keyStr := by
  have exports : (exportKey outcomes).isOk = true ↔ Exports outcomes := by
    rw [← exportKey_eq_ok_iff, isOk_eq_true_iff]
    exact ⟨fun ⟨value, exported⟩ => exported, fun exported => ⟨(), exported⟩⟩
  have allocated : outcomes.allocateTransientObject.isOk = true ↔
      outcomes.allocateTransientObject = .ok () := by
    rw [isOk_eq_true_iff]
    exact ⟨fun ⟨value, same⟩ => same, fun same => ⟨(), same⟩⟩
  unfold abandonsKey Abandons ReadsKey
  cases primitives.pkParsePublicKey keyStr.bytes with
  | none => simp
  | some context =>
      cases context with
      | notRsa => simp
      | rsa key =>
          simp only [Bool.and_eq_true, decide_eq_true_eq, allocated, Bool.not_eq_true',
            ← Bool.not_eq_true, exports, Option.some.injEq, PkContext.rsa.injEq, and_assoc]
          constructor
          · rintro ⟨admitted, isAllocated, notExported⟩
            exact ⟨⟨key, rfl, admitted⟩, isAllocated, notExported⟩
          · rintro ⟨⟨_, rfl, admitted⟩, isAllocated, notExported⟩
            exact ⟨admitted, isAllocated, notExported⟩

/-- Behind a key object that was given up nothing is verified. -/
theorem verifySignature_of_abandons {outcomes : VerifyOutcomes} {sigkey : CString}
    (abandons : Abandons primitives outcomes.pem sigkey) (data signature : CString) :
    ∃ code, verifySignature primitives outcomes data sigkey signature = .error code := by
  unfold verifySignature
  cases publicKeyPemToObj_exit primitives outcomes.pem sigkey with
  | filled key fills result opens => exact absurd fills (not_fills_of_abandons abandons)
  | abandoned code abandons result opens =>
      rw [result]
      exact ⟨code, rfl⟩
  | refused code notFilled notAbandoned result keeps => exact absurd abandons notAbandoned

/-- What the two commands do once the signature is verified, and before that. -/
theorem verified_exit {Result Inner : Type} {outcomes : VerifyOutcomes}
    {data sigkey signature : CString} {next : TeeResult Unit → TeeTracked (Result × Inner)}
    {refusal verified : Result × Inner} (overruns : Prop)
    (refused : ∀ code, next (.error code) = pure refusal)
    (keeps : ¬ overruns → Keeps (next (.ok ())) verified)
    (faults : overruns → ∀ before, Faults before (next (.ok ())) .outOfBounds) :
    StepExit (verifySignatureTracked primitives outcomes data sigkey signature >>= next)
      .transientObject (Abandons primitives outcomes.pem sigkey)
      (VerifyOverruns primitives outcomes sigkey signature ∨
        (verifySignature primitives outcomes data sigkey signature = .ok () ∧ overruns))
      (match verifySignature primitives outcomes data sigkey signature with
        | .error _ => refusal
        | .ok () => verified) := by
  by_cases abandons : Abandons primitives outcomes.pem sigkey
  · rcases verifySignature_of_abandons abandons data signature with ⟨code, fails⟩
    have strands := verifySignatureTracked_strands abandons data signature
    rw [fails] at strands ⊢
    apply StepExit.strands abandons
    · rintro (long | ⟨impossible, _⟩)
      · exact not_fills_of_abandons abandons long.1
      · cases impossible
    · intro before
      apply (strands before).bind
      rintro _ live ⟨rfl, handle, holds⟩
      rw [refused]
      exact .pure ⟨rfl, handle, holds⟩
  by_cases long : VerifyOverruns primitives outcomes sigkey signature
  · exact .faults (Or.inl long) fun before => (verifySignatureTracked_faults long data before).bind
  have verifies := verifySignatureTracked_keeps abandons long data
  cases result : verifySignature primitives outcomes data sigkey signature with
  | error code =>
      rw [result] at verifies
      apply StepExit.keeps abandons
      · rintro (impossible | ⟨impossible, _⟩)
        · exact long impossible
        · cases impossible
      · intro before
        apply verifies.bind
        rw [refused]
        exact .pure ⟨rfl, rfl⟩
  | ok value =>
      rw [result] at verifies
      by_cases leaves : overruns
      · apply StepExit.faults (Or.inr ⟨rfl, leaves⟩)
        intro before
        exact verifies.bind_faults (faults leaves before)
      · apply StepExit.keeps abandons
        · rintro (impossible | ⟨_, impossible⟩)
          · exact long impossible
          · exact leaves impossible
        · intro before
          exact verifies.bind (keeps leaves before)

end Verified

section Verifying

variable (primitives : Primitives) (outcomes : CallOutcomes) (state : TaState)

theorem accessControl_eq_guards (paramTypes : UInt32) (msg : AccessControlMessage) :
    accessControl primitives outcomes paramTypes msg state =
      match accessControlGuards paramTypes msg state with
      | .error code => (.error code, state)
      | .ok repo =>
          match verifySignature primitives outcomes.verify (accessControlText msg) msg.sigkey
              msg.signature with
          | .error _ => (.error .security, state)
          | .ok () =>
              match updateKeySets outcomes.node repo msg.op msg.role msg.pubkey with
              | (.error code, repo) => (.error code, state.setSlot msg.repId.toNat (some repo))
              | (.ok (), repo) =>
                  appendAccessBlock primitives outcomes msg repo
                    (state.setSlot msg.repId.toNat (some repo)) := by
  unfold accessControl accessControlChecks accessControlGuards
  split_ifs with types op
  · rfl
  · rfl
  cases validateAndGetRepo state msg.repId with
  | error code => rfl
  | ok repo =>
      dsimp only
      split_ifs with isAdmin
      · rfl
      · cases verifySignature primitives outcomes.verify (accessControlText msg) msg.sigkey
          msg.signature <;> rfl

theorem accessControlTracked_exit (paramTypes : UInt32) (msg : AccessControlMessage) :
    StepExit (accessControlTracked primitives outcomes paramTypes msg state) .transientObject
      ((accessControlGuards paramTypes msg state).isOk = true ∧
        Abandons primitives outcomes.verify.pem msg.sigkey)
      ((accessControlGuards paramTypes msg state).isOk = true ∧
        VerifyOverruns primitives outcomes.verify msg.sigkey msg.signature)
      (accessControl primitives outcomes paramTypes msg state) := by
  rw [accessControl_eq_guards]
  unfold accessControlTracked
  cases accessControlGuards paramTypes msg state with
  | error code =>
      have fails : ¬ (Except.error code : TeeResult RepoMetadata).isOk = true := Bool.false_ne_true
      exact .keeps (fun lost => fails lost.1) (fun overruns => fails overruns.1) (.pure _)
  | ok repo =>
      have succeeds : (Except.ok repo : TeeResult RepoMetadata).isOk = true := rfl
      refine StepExit.congr (verified_exit False (fun _ => rfl) (fun _ => ?_) False.elim)
        (and_iff_right succeeds) ?_
      · rcases updateKeySets outcomes.node repo msg.op msg.role msg.pubkey with ⟨code | done, edited⟩
        · exact .pure _
        · exact appendAccessBlockTracked_keeps primitives outcomes _ msg edited
      · rw [and_false, or_false]
        exact and_iff_right succeeds

/-- `commit` behind the verification, without handles. -/
def appendContribution (msg : CommitMessage) (encryptedKey : CString) (repo : RepoMetadata) :
    TeeResult Output × TaState :=
  let block := nextContributionBlock repo msg outcomes.time
  match hashAndSign primitives outcomes.sign
      (calculateContributionBlockHash primitives outcomes.hash block) state.keyStore with
  | (.error code, store) => (.error code, state.setKeyStore store)
  | (.ok (blockHash, teeSig), store) =>
      match teeDecryptData primitives outcomes.decrypt encryptedKey store with
      | (.error code, store) => (.error code, state.setKeyStore store)
      | (.ok decryptedKey, store) =>
          (.ok (.contribution (block.withTeeSig teeSig) decryptedKey),
            (state.setKeyStore store).setSlot msg.repId.toNat
              (some { repo with latestHash := blockHash, blockHeight := repo.blockHeight + 1 }))

theorem commit_eq_guards (paramTypes : UInt32) (msg : CommitMessage) (encryptedKey : CString) :
    commit primitives outcomes paramTypes msg encryptedKey state =
      match commitGuards paramTypes msg state with
      | .error code => (.error code, state)
      | .ok repo =>
          match verifySignature primitives outcomes.verify (commitText msg) msg.sigkey
              msg.signature with
          | .error _ => (.error .security, state)
          | .ok () => appendContribution primitives outcomes state msg encryptedKey repo := by
  unfold commit commitChecks commitGuards
  split_ifs with types op
  · rfl
  · rfl
  cases validateAndGetRepo state msg.repId with
  | error code => rfl
  | ok repo =>
      dsimp only
      split_ifs with isMember
      · rfl
      · cases verifySignature primitives outcomes.verify (commitText msg) msg.sigkey
          msg.signature <;> rfl

/-- The text of the key is decoded only behind a signed block. -/
theorem appendContributionTracked_keeps {encryptedKey : CString}
    (inside : ¬ ((outcomes.hash.Succeeds ∧ outcomes.sign.Succeeds) ∧
      ¬ FitsInto sizeofEncryptedBytes encryptedKey)) (msg : CommitMessage) (repo : RepoMetadata) :
    Keeps (appendContributionTracked primitives outcomes msg encryptedKey repo state)
      (appendContribution primitives outcomes state msg encryptedKey repo) := by
  intro before
  unfold appendContributionTracked appendContribution
  apply (hashAndSignTracked_keeps primitives state.keyStore outcomes _).bind
  simp only [calculateContributionBlockHash]
  rcases hashAndSign_cases primitives outcomes
      (contributionDataBuffer (nextContributionBlock repo msg outcomes.time)) state.keyStore with
    ⟨teeSig, store, signed, sealed⟩ | ⟨_, code, store, sealed⟩
  · have fits : FitsInto sizeofEncryptedBytes encryptedKey := by
      by_contra long
      exact inside ⟨⟨signed.hashed, signed.signs⟩, long⟩
    simp only [sealed]
    apply (decryptDataTracked_keeps primitives store outcomes.decrypt fits).bind
    rcases teeDecryptData primitives outcomes.decrypt encryptedKey store with ⟨code | text, stored⟩
    · exact .pure ⟨rfl, rfl⟩
    · exact .pure ⟨rfl, rfl⟩
  · simp only [sealed]
    exact .pure ⟨rfl, rfl⟩

theorem appendContributionTracked_faults {encryptedKey : CString}
    (seals : outcomes.hash.Succeeds ∧ outcomes.sign.Succeeds)
    (long : ¬ FitsInto sizeofEncryptedBytes encryptedKey) (msg : CommitMessage)
    (repo : RepoMetadata) (before : OpenHandles HandleKind) :
    Faults before (appendContributionTracked primitives outcomes msg encryptedKey repo state)
      .outOfBounds := by
  unfold appendContributionTracked
  apply (hashAndSignTracked_keeps primitives state.keyStore outcomes _).bind_faults
  rcases hashAndSign_cases primitives outcomes
      (contributionDataBuffer (nextContributionBlock repo msg outcomes.time)) state.keyStore with
    ⟨teeSig, store, _, sealed⟩ | ⟨unsealed, _⟩
  · simp only [sealed]
    exact ((teeDecryptDataTracked_faults primitives outcomes.decrypt long).bind).bind
  · exact absurd seals unsealed

theorem commitTracked_exit (paramTypes : UInt32) (msg : CommitMessage) (encryptedKey : CString) :
    StepExit (commitTracked primitives outcomes paramTypes msg encryptedKey state) .transientObject
      ((commitGuards paramTypes msg state).isOk = true ∧
        Abandons primitives outcomes.verify.pem msg.sigkey)
      ((commitGuards paramTypes msg state).isOk = true ∧
        (VerifyOverruns primitives outcomes.verify msg.sigkey msg.signature ∨
          (verifySignature primitives outcomes.verify (commitText msg) msg.sigkey msg.signature =
              .ok () ∧
            (outcomes.hash.Succeeds ∧ outcomes.sign.Succeeds) ∧
            ¬ FitsInto sizeofEncryptedBytes encryptedKey)))
      (commit primitives outcomes paramTypes msg encryptedKey state) := by
  rw [commit_eq_guards]
  unfold commitTracked
  cases commitGuards paramTypes msg state with
  | error code =>
      have fails : ¬ (Except.error code : TeeResult RepoMetadata).isOk = true := Bool.false_ne_true
      exact .keeps (fun lost => fails lost.1) (fun overruns => fails overruns.1) (.pure _)
  | ok repo =>
      have succeeds : (Except.ok repo : TeeResult RepoMetadata).isOk = true := rfl
      refine StepExit.congr (verified_exit ((outcomes.hash.Succeeds ∧ outcomes.sign.Succeeds) ∧
        ¬ FitsInto sizeofEncryptedBytes encryptedKey) (fun _ => rfl) ?_ ?_)
        (and_iff_right succeeds) (and_iff_right succeeds)
      · intro inside
        exact appendContributionTracked_keeps primitives outcomes state inside msg repo
      · rintro ⟨seals, long⟩ before
        exact appendContributionTracked_faults primitives outcomes state seals long msg repo before

end Verifying

/-! ## Runs -/

section Runs

variable (primitives : Primitives) (state : TaState) (call : Call)

/-- How each command ends for the handles. -/
theorem taInvokeCommandTracked_exit :
    StepExit (taInvokeCommandTracked primitives state call) .transientObject
      (losesKeyObject primitives state call = true) (DecodingOverruns primitives state call)
      (taInvokeCommandEntryPoint primitives state call) := by
  unfold taInvokeCommandTracked taInvokeCommandEntryPoint
  by_cases isAccess : call.cmdId = cmdAccessControl
  · have notInit : call.cmdId ≠ cmdInitRepo := by
      rw [isAccess]
      decide
    have notCommit : call.cmdId ≠ cmdCommit := by
      rw [isAccess]
      decide
    rw [if_neg notInit, if_pos isAccess, if_neg notInit, if_pos isAccess]
    apply (accessControlTracked_exit primitives call.outcomes state call.paramTypes
      call.params.acMsg).congr
    · rw [losesKeyObject, if_pos isAccess, Bool.and_eq_true, abandonsKey_iff]
    · rw [DecodingOverruns, and_iff_right isAccess, or_iff_left]
      exact fun impossible => notCommit impossible.1
  by_cases isCommit : call.cmdId = cmdCommit
  · have notInit : call.cmdId ≠ cmdInitRepo := by
      rw [isCommit]
      decide
    have notRead : call.cmdId ≠ cmdGetLatestHash := by
      rw [isCommit]
      decide
    rw [if_neg notInit, if_neg isAccess, if_neg notRead, if_pos isCommit, if_neg notInit,
      if_neg isAccess, if_neg notRead, if_pos isCommit]
    apply (commitTracked_exit primitives call.outcomes state call.paramTypes call.params.cmMsg
      call.params.encryptedKey).congr
    · rw [losesKeyObject, if_neg isAccess, if_pos isCommit, Bool.and_eq_true, abandonsKey_iff]
    · rw [DecodingOverruns, or_iff_right (fun impossible => isAccess impossible.1),
        and_iff_right isCommit]
      rfl
  have notLost : ¬ losesKeyObject primitives state call = true := by
    rw [losesKeyObject, if_neg isAccess, if_neg isCommit]
    exact Bool.false_ne_true
  have inside : ¬ DecodingOverruns primitives state call := by
    rintro (⟨impossible, _⟩ | ⟨impossible, _⟩)
    · exact isAccess impossible
    · exact isCommit impossible
  apply StepExit.keeps notLost inside
  rw [if_neg isAccess, if_neg isAccess, if_neg isCommit, if_neg isCommit]
  split_ifs with isInit isRead isKey
  · exact initRepoTracked_keeps primitives call.outcomes state call.paramTypes
      call.params.adminKey
  · exact getLatestHashTracked_keeps primitives call.outcomes state call.paramTypes
      call.params.repId call.params.nonce
  · intro before
    exact (getTeePublicKeyTracked_keeps primitives call.outcomes call.paramTypes
      call.params.pemBufferNull call.params.pemBufSize).bind (.pure ⟨rfl, rfl⟩)
  · exact .pure _

variable (store : KeyStore) (table : HandleTable HandleKind)

/-- The application together with its handles. -/
def handleApplication : Machine (Except Fault (HandleTable HandleKind × TaState)) Call
    (Except Fault (TeeResult Output)) :=
  handleSystem (taInvokeCommandTracked primitives) table (initialState store)

/-- Unless a decoding leaves its array, a run of commands goes the way it goes
without handles, and of all that it opens it leaves behind one key object for each
command that gave one up: no operation, no persistent object, and nothing closed
that was not open. -/
theorem command_handles (calls : List Call) :
    ((∀ event ∈ (trustedApplication primitives store).log calls,
        ¬ DecodingOverruns primitives event.before event.input) ∧
      ((handleApplication primitives store table).log calls).map Machine.Event.output =
        ((trustedApplication primitives store).log calls).map (fun event => .ok event.output) ∧
      ∃ left, (handleApplication primitives store table).run calls =
          .ok (left, (trustedApplication primitives store).run calls) ∧
        LeavesBehind .transientObject
          (((trustedApplication primitives store).log calls).countP fun event =>
            losesKeyObject primitives event.before event.input) table.live left.live) ∨
    ((handleApplication primitives store table).run calls = .error .outOfBounds ∧
      ∃ event ∈ (trustedApplication primitives store).log calls,
        DecodingOverruns primitives event.before event.input) := by
  have exits := taInvokeCommandTracked_exit primitives
  rcases goesThrough_or_outOfBounds (trustedApplication primitives store) table exits calls with
    through | fault
  · exact Or.inl ⟨through.inside, through.answers, through.reached⟩
  · exact Or.inr fault

end Runs

/-! A founder whose key is good, and a request of the founder for which there is no
memory left. -/

def Sample.derCreation : Call := .requestInit (outcomes 0) derKey

def Sample.derAddition : Call :=
  .requestAccess { outcomes 1 with verify := withoutMemory }
    ⟨0, opAdd, roleWriter, newcomer, derKey, .empty⟩

example : ((trustedApplication Sample.readingDerKey (some Sample.keyPair)).log
    [Sample.derCreation, Sample.derAddition, Sample.derAddition]).countP
      (fun event => losesKeyObject Sample.readingDerKey event.before event.input) = 2 := by
  decide +kernel

end Ta
end TrustChain

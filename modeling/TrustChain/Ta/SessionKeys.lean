import TrustChain.Ta.CheckedInput
import TrustChain.Ta.KeyIdentity
import TrustChain.Ta.Sessions

namespace TrustChain
namespace Ta

open Library Tee

/-!
# One key pair for all sessions

Repositories end with their session, the key pair of the TEE does not.  With a
storage that opens what is stored whenever something is stored, the first key
pair that any session stores is the one with which all sessions sign and decrypt
from then on, however they are opened and closed.
-/

/-! ## Loading, signing and decrypting with a storage that works -/

/-- Opening succeeds exactly if something is stored, and returns it. -/
def OpensTruly (opened : TeeResult RsaKeyPair) (store : KeyStore) : Prop :=
  opened.toOption = store

instance (opened : TeeResult RsaKeyPair) (store : KeyStore) :
    Decidable (OpensTruly opened store) :=
  inferInstanceAs (Decidable (_ = _))

/-- During a command, the storage is opened truly each time. -/
structure Call.StorageWorks (call : Call) (store : KeyStore) : Prop where
  signs : OpensTruly call.outcomes.sign.load.openPersistentObject store
  decrypts : OpensTruly call.outcomes.decrypt.load.openPersistentObject
    (loadOrGenerateKeyPair call.outcomes.sign.load store).2

instance (call : Call) (store : KeyStore) : Decidable (call.StorageWorks store) :=
  decidable_of_iff (OpensTruly call.outcomes.sign.load.openPersistentObject store ∧
      OpensTruly call.outcomes.decrypt.load.openPersistentObject
        (loadOrGenerateKeyPair call.outcomes.sign.load store).2)
    ⟨fun both => ⟨both.1, both.2⟩, fun works => ⟨works.signs, works.decrypts⟩⟩

/-- What a successful command hands out was made with this key pair; a public
key is never handed out. -/
def MadeWith (primitives : Primitives) (keyPair : RsaKeyPair) (call : Call) : Output → Prop
  | .genesis _ block | .accessBlock block =>
      SignatureOf primitives keyPair (hashText primitives (accessDataBuffer block).bytes)
        block.base.teeSig
  | .latestHash nonce hash signature =>
      SignatureOf primitives keyPair
        (hashText primitives (signedBytes (latestHashMsg nonce hash))) signature
  | .contribution block text =>
      SignatureOf primitives keyPair (hashText primitives (contributionDataBuffer block).bytes)
          block.base.teeSig ∧
        ∃ encrypted plain, hexStringToBytes call.params.encryptedKey.bytes = .ok encrypted ∧
          primitives.rsaDecrypt keyPair encrypted = .ok plain ∧ text = bytesToHexString plain
  | .publicKey _ _ => False

section Loading

variable {primitives : Primitives} {store : KeyStore}

/-- Loading from a storage that works keeps what is stored, and the key pair
that is loaded is stored afterwards. -/
theorem loadOrGenerateKeyPair_kept {outcomes : LoadOutcomes}
    (works : OpensTruly outcomes.openPersistentObject store) :
    Kept store (loadOrGenerateKeyPair outcomes store).2 ∧
      ∀ keyPair, (loadOrGenerateKeyPair outcomes store).1 = .ok keyPair →
        (loadOrGenerateKeyPair outcomes store).2 = some keyPair := by
  rcases loadOrGenerateKeyPair_cases outcomes store with
    ⟨opened, isOpen, loaded⟩ | ⟨generated, stores, loaded⟩ | ⟨code, _, _, loaded⟩
  · rw [loaded]
    refine ⟨fun _ stored => stored, ?_⟩
    intro keyPair same
    cases same
    exact works.symm.trans (congrArg Except.toOption isOpen)
  · rw [loaded]
    constructor
    · intro keyPair stored
      rcases stores.1 with ⟨code, failed⟩
      have empty := works.symm.trans (congrArg Except.toOption failed)
      cases stored.symm.trans empty
    · intro keyPair same
      cases same
      rfl
  · rw [loaded]
    refine ⟨fun _ stored => stored, ?_⟩
    intro keyPair impossible
    cases impossible

theorem teeSignHash_kept (primitives : Primitives) {outcomes : SignOutcomes}
    (works : OpensTruly outcomes.load.openPersistentObject store) (hashString : CString) :
    Kept store (teeSignHash primitives outcomes hashString store).2 := by
  have loading := loadOrGenerateKeyPair_kept works
  unfold teeSignHash
  cases hexStringToBytes hashString.bytes with
  | error code => exact fun _ stored => stored
  | ok hashBytes =>
      generalize loadOrGenerateKeyPair outcomes.load store = result at loading ⊢
      rcases result with ⟨loaded, after⟩
      cases loaded with
      | error code => exact loading.1
      | ok keyPair => exact loading.1

/-- A signature is made with the key pair that is stored afterwards. -/
theorem signatureOf_teeSignHash {outcomes : SignOutcomes}
    (works : OpensTruly outcomes.load.openPersistentObject store) {hashString signature : CString}
    {after : KeyStore}
    (signed : teeSignHash primitives outcomes hashString store = (.ok signature, after)) :
    (loadOrGenerateKeyPair outcomes.load store).2 = after ∧
      ∃ keyPair, after = some keyPair ∧ SignatureOf primitives keyPair hashString signature := by
  rcases teeSignHash_eq_ok_iff.mp signed with ⟨hashBytes, keyPair, decoded, loaded, digest⟩
  have stored := (loadOrGenerateKeyPair_kept works).2 keyPair (congrArg Prod.fst loaded)
  rw [loaded] at stored ⊢
  exact ⟨rfl, keyPair, stored, hashBytes, decoded, (signDigest_eq_ok_iff.mp digest).2⟩

theorem hashAndSign_kept (primitives : Primitives) {outcomes : SignOutcomes}
    (works : OpensTruly outcomes.load.openPersistentObject store)
    (calculated : TeeResult CString) :
    Kept store (hashAndSign primitives outcomes calculated store).2 := by
  unfold hashAndSign
  cases calculated with
  | error code => exact fun _ stored => stored
  | ok hash =>
      have kept := teeSignHash_kept primitives works hash
      dsimp only
      generalize teeSignHash primitives outcomes hash store = result at kept ⊢
      rcases result with ⟨signed, after⟩
      cases signed with
      | error code => exact kept
      | ok teeSig => exact kept

theorem teeDecryptData_kept (primitives : Primitives) {outcomes : DecryptOutcomes}
    (works : OpensTruly outcomes.load.openPersistentObject store) (encryptedData : CString) :
    Kept store (teeDecryptData primitives outcomes encryptedData store).2 := by
  have loading := loadOrGenerateKeyPair_kept works
  unfold teeDecryptData
  cases hexStringToBytes encryptedData.bytes with
  | error code => exact fun _ stored => stored
  | ok encryptedBytes =>
      generalize loadOrGenerateKeyPair outcomes.load store = result at loading ⊢
      rcases result with ⟨loaded, after⟩
      cases loaded with
      | error code => exact loading.1
      | ok keyPair => exact loading.1

theorem decryptBytes_eq_ok {outcomes : DecryptOutcomes} {keyPair : RsaKeyPair}
    {encrypted : List UInt8} {text : CString}
    (decrypted : decryptBytes primitives outcomes keyPair encrypted = .ok text) :
    ∃ plain, primitives.rsaDecrypt keyPair encrypted = .ok plain ∧
      text = bytesToHexString plain := by
  unfold decryptBytes at decrypted
  cases allocated : outcomes.allocateOperation with
  | error code =>
      rw [allocated] at decrypted
      cases decrypted
  | ok done =>
      cases keyed : outcomes.setOperationKey with
      | error code =>
          rw [allocated, keyed] at decrypted
          cases decrypted
      | ok done =>
          cases decrypts : outcomes.asymmetricDecrypt with
          | error code =>
              rw [allocated, keyed, decrypts] at decrypted
              cases decrypted
          | ok done =>
              rw [allocated, keyed, decrypts] at decrypted
              cases result : primitives.rsaDecrypt keyPair encrypted with
              | error code =>
                  rw [result] at decrypted
                  cases decrypted
              | ok plain =>
                  rw [result] at decrypted
                  cases decrypted
                  exact ⟨plain, rfl, rfl⟩

/-- A text is decrypted with the key pair that is stored afterwards. -/
theorem decrypted_teeDecryptData {outcomes : DecryptOutcomes}
    (works : OpensTruly outcomes.load.openPersistentObject store) {encryptedData text : CString}
    {after : KeyStore}
    (decrypted : teeDecryptData primitives outcomes encryptedData store = (.ok text, after)) :
    ∃ keyPair encrypted plain, after = some keyPair ∧
      hexStringToBytes encryptedData.bytes = .ok encrypted ∧
      primitives.rsaDecrypt keyPair encrypted = .ok plain ∧ text = bytesToHexString plain := by
  have loading := loadOrGenerateKeyPair_kept works
  unfold teeDecryptData at decrypted
  cases decoded : hexStringToBytes encryptedData.bytes with
  | error code =>
      rw [decoded] at decrypted
      cases decrypted
  | ok encrypted =>
      rw [decoded] at decrypted
      dsimp only at decrypted
      generalize loadOrGenerateKeyPair outcomes.load store = result at loading decrypted
      rcases result with ⟨loaded, stored⟩
      cases loaded with
      | error code => cases decrypted
      | ok keyPair =>
          rcases Prod.mk.inj decrypted with ⟨isText, rfl⟩
          rcases decryptBytes_eq_ok isText with ⟨plain, isPlain, same⟩
          exact ⟨keyPair, encrypted, plain, loading.2 keyPair rfl, rfl, isPlain, same⟩

end Loading

/-! ## One command -/

/-- A command keeps the stored key pair, and hands out nothing but what was made
with the one that is stored afterwards. -/
structure Identified (primitives : Primitives) (call : Call) (store : KeyStore)
    (reply : TeeResult Output × TaState) : Prop where
  kept : Kept store reply.2.keyStore
  made : ∀ output, reply.1 = .ok output →
    ∃ keyPair, reply.2.keyStore = some keyPair ∧ MadeWith primitives keyPair call output

section Commands

variable {primitives : Primitives} {call : Call} {store : KeyStore} {after : TaState}

theorem Identified.of_error (kept : Kept store after.keyStore) (code : TeeError) :
    Identified primitives call store (.error code, after) where
  kept := kept
  made := by
    intro output impossible
    cases impossible

theorem Identified.refused (same : after.keyStore = store) (code : TeeError) :
    Identified primitives call store (.error code, after) := by
  apply Identified.of_error
  rw [same]
  exact fun _ stored => stored

theorem Identified.of_ok {output : Output} {keyPair : RsaKeyPair}
    (kept : Kept store after.keyStore) (stored : after.keyStore = some keyPair)
    (made : MadeWith primitives keyPair call output) :
    Identified primitives call store (.ok output, after) where
  kept := kept
  made := by
    intro other same
    cases same
    exact ⟨keyPair, stored, made⟩

variable (primitives) (state : TaState) (works : call.StorageWorks state.keyStore)

include works

theorem initRepo_identified :
    Identified primitives call state.keyStore
      (initRepo primitives call.outcomes call.paramTypes call.params.adminKey state) := by
  unfold initRepo
  simp only [cleanupRepoResources_eq]
  by_cases types : call.paramTypes ≠ teeParamTypes memrefInput valueOutput memrefOutput paramNone
  · rw [if_pos types]
    exact .refused (by rfl) _
  · rw [if_neg types]
    by_cases full : maxRepoId ≤ state.repoNum.toNat
    · rw [if_pos full]
      exact .refused (by rfl) _
    · rw [if_neg full]
      by_cases failed : call.outcomes.mallocRepo = false
      · rw [if_pos failed]
        exact .refused (by rfl) _
      · rw [if_neg failed]
        cases call.outcomes.mallocAdminKeys with
        | false =>
            simp only [Bool.false_eq_true, if_false]
            exact .refused (by rfl) _
        | true =>
            cases call.outcomes.mallocWriterKeys with
            | false =>
                simp only [Bool.false_eq_true, if_false, if_true]
                exact .refused (by rfl) _
            | true =>
                simp only [if_true]
                cases addKeyToSet call.outcomes.node (some (initKeyList ⟨[], 0⟩))
                    call.params.adminKey with
                | error code =>
                    dsimp only
                    exact .refused (by rfl) _
                | ok withFounder =>
                    have kept := hashAndSign_kept primitives works.signs
                      (calculateAccessBlockHash primitives call.outcomes.hash
                        (genesisBlock zeroHash call.params.adminKey call.outcomes.time))
                    cases sealed : hashAndSign primitives call.outcomes.sign
                        (calculateAccessBlockHash primitives call.outcomes.hash
                          (genesisBlock zeroHash call.params.adminKey call.outcomes.time))
                        state.keyStore with
                    | mk answer stored =>
                        rw [sealed] at kept
                        dsimp only
                        cases answer with
                        | error code => exact .of_error kept _
                        | ok pair =>
                            rcases hashAndSign_eq_ok sealed with ⟨hashed, signed⟩
                            rcases signatureOf_teeSignHash works.signs signed with
                              ⟨_, keyPair, same, made⟩
                            rw [(hashData_eq_ok_iff.mp hashed).2] at made
                            exact .of_ok kept same made

theorem accessControl_identified :
    Identified primitives call state.keyStore
      (accessControl primitives call.outcomes call.paramTypes call.params.acMsg state) := by
  unfold accessControl
  cases accessControlChecks primitives call.outcomes call.paramTypes call.params.acMsg state with
  | error code => exact .refused (by rfl) _
  | ok repo =>
      cases updated : updateKeySets call.outcomes.node repo call.params.acMsg.op
          call.params.acMsg.role call.params.acMsg.pubkey with
      | mk answer edited =>
          simp only [updated]
          cases answer with
          | error code => exact .refused (by rfl) _
          | ok done =>
              simp only [appendAccessBlock, TaState.keyStore_setSlot]
              have kept := hashAndSign_kept primitives works.signs
                (calculateAccessBlockHash primitives call.outcomes.hash
                  (nextAccessBlock edited call.params.acMsg call.outcomes.time))
              cases sealed : hashAndSign primitives call.outcomes.sign
                  (calculateAccessBlockHash primitives call.outcomes.hash
                    (nextAccessBlock edited call.params.acMsg call.outcomes.time))
                  state.keyStore with
              | mk answer stored =>
                  rw [sealed] at kept
                  cases answer with
                  | error code => exact .of_error kept _
                  | ok pair =>
                      rcases hashAndSign_eq_ok sealed with ⟨hashed, signed⟩
                      rcases signatureOf_teeSignHash works.signs signed with ⟨_, keyPair, same, made⟩
                      rw [(hashData_eq_ok_iff.mp hashed).2] at made
                      exact .of_ok kept same made

theorem getLatestHash_identified :
    Identified primitives call state.keyStore
      (getLatestHash primitives call.outcomes call.paramTypes call.params.repId call.params.nonce
        state) := by
  unfold getLatestHash
  by_cases types : call.paramTypes ≠ teeParamTypes valueInput valueInput memrefOutput memrefOutput
  · rw [if_pos types]
    exact .refused (by rfl) _
  · rw [if_neg types]
    cases validateAndGetRepo state call.params.repId with
    | error code => exact .refused (by rfl) _
    | ok repo =>
        simp only [teeSignData]
        cases hashed : hashData primitives call.outcomes.hash
            (signedBytes (latestHashMsg call.params.nonce repo.latestHash)) with
        | error code => exact .refused (by rfl) _
        | ok hashString =>
            have kept := teeSignHash_kept primitives works.signs hashString
            cases signing : teeSignHash primitives call.outcomes.sign hashString
                state.keyStore with
            | mk answer stored =>
                rw [signing] at kept
                cases answer with
                | error code =>
                    simp only [signing]
                    exact .of_error kept _
                | ok signature =>
                    simp only [signing]
                    rcases signatureOf_teeSignHash works.signs signing with
                      ⟨_, keyPair, same, made⟩
                    rw [(hashData_eq_ok_iff.mp hashed).2] at made
                    exact .of_ok kept same made

/-- The block is signed first and the key decrypted then, with the key pair that
signing has left in the storage. -/
theorem commit_identified :
    Identified primitives call state.keyStore
      (commit primitives call.outcomes call.paramTypes call.params.cmMsg call.params.encryptedKey
        state) := by
  unfold commit
  cases commitChecks primitives call.outcomes call.paramTypes call.params.cmMsg state with
  | error code => exact .refused (by rfl) _
  | ok repo =>
      have kept := hashAndSign_kept primitives works.signs
        (calculateContributionBlockHash primitives call.outcomes.hash
          (nextContributionBlock repo call.params.cmMsg call.outcomes.time))
      cases sealed : hashAndSign primitives call.outcomes.sign
          (calculateContributionBlockHash primitives call.outcomes.hash
            (nextContributionBlock repo call.params.cmMsg call.outcomes.time)) state.keyStore with
      | mk answer stored =>
          rw [sealed] at kept
          simp only [sealed]
          cases answer with
          | error code => exact .of_error kept _
          | ok pair =>
              rcases hashAndSign_eq_ok sealed with ⟨hashed, signed⟩
              rcases signatureOf_teeSignHash works.signs signed with
                ⟨loaded, keyPair, same, made⟩
              rw [(hashData_eq_ok_iff.mp hashed).2] at made
              have opens := works.decrypts
              rw [loaded] at opens
              have still := teeDecryptData_kept primitives opens
                call.params.encryptedKey
              cases decrypted : teeDecryptData primitives call.outcomes.decrypt
                  call.params.encryptedKey stored with
              | mk answer later =>
                  rw [decrypted] at still
                  have keptLater : Kept state.keyStore later :=
                    fun other isStored => still other (kept other isStored)
                  simp only [decrypted]
                  cases answer with
                  | error code => exact .of_error keptLater _
                  | ok text =>
                      rcases decrypted_teeDecryptData opens decrypted with
                        ⟨used, encrypted, plain, isUsed, decoded, isPlain, isText⟩
                      have equal : some keyPair = some used := (still keyPair same).symm.trans isUsed
                      cases equal
                      exact .of_ok keptLater isUsed ⟨made, encrypted, plain, decoded, isPlain, isText⟩

theorem invoke_identified :
    Identified primitives call state.keyStore
      (taInvokeCommandEntryPoint primitives state call) := by
  unfold taInvokeCommandEntryPoint
  by_cases isInit : call.cmdId = cmdInitRepo
  · rw [if_pos isInit]
    exact initRepo_identified primitives state works
  rw [if_neg isInit]
  by_cases isAccess : call.cmdId = cmdAccessControl
  · rw [if_pos isAccess]
    exact accessControl_identified primitives state works
  rw [if_neg isAccess]
  by_cases isLatestHash : call.cmdId = cmdGetLatestHash
  · rw [if_pos isLatestHash]
    exact getLatestHash_identified primitives state works
  rw [if_neg isLatestHash]
  by_cases isCommit : call.cmdId = cmdCommit
  · rw [if_pos isCommit]
    exact commit_identified primitives state works
  rw [if_neg isCommit]
  by_cases isKey : call.cmdId = cmdGetTeePubkey
  · rw [if_pos isKey]
    rcases getTeePublicKey_refused primitives call.outcomes call.paramTypes
      call.params.pemBufferNull call.params.pemBufSize with ⟨code, refused⟩
    rw [refused]
    exact .refused (by rfl) code
  · rw [if_neg isKey]
    exact .refused (by rfl) _

end Commands

/-! ## All sessions -/

/-- The storage works during the command, if the request is one. -/
def StorageWorksDuring (hosted : Hosted Nat TaState KeyStore) : SessionRequest → Prop
  | .giving _ call => call.StorageWorks hosted.store
  | .opening _ _ | .closing _ => True

instance (hosted : Hosted Nat TaState KeyStore) (request : SessionRequest) :
    Decidable (StorageWorksDuring hosted request) :=
  match request with
  | .giving _ call => inferInstanceAs (Decidable (call.StorageWorks hosted.store))
  | .opening _ _ => .isTrue trivial
  | .closing _ => .isTrue trivial

section Sessions

variable (primitives : Primitives) (store : KeyStore)

/-- A request keeps the stored key pair, and what it hands out was made with the
one that is stored afterwards. -/
theorem session_step_identified {hosted : Hosted Nat TaState KeyStore} {request : SessionRequest}
    (works : StorageWorksDuring hosted request) :
    Kept hosted.store ((sessions primitives store).next hosted request).store ∧
      ∀ session call output, request = .giving session call →
        (sessions primitives store).answer hosted request = .answered (.ok output) →
        ∃ keyPair, ((sessions primitives store).next hosted request).store = some keyPair ∧
          MadeWith primitives keyPair call output := by
  cases request with
  | opening session paramTypes =>
      constructor
      · change Kept _ ((sessionHosting primitives store).step hosted _).2.store
        simp only [Hosting.step]
        cases hosted.instances session with
        | some state => exact fun _ stored => stored
        | none => cases (sessionHosting primitives store).opens paramTypes <;>
            exact fun _ stored => stored
      · intro other call output impossible
        cases impossible
  | closing session =>
      constructor
      · change Kept _ ((sessionHosting primitives store).step hosted _).2.store
        simp only [Hosting.step]
        cases hosted.instances session with
        | some state => exact fun _ stored => stored
        | none => exact fun _ stored => stored
      · intro other call output impossible
        cases impossible
  | giving session call =>
      change Kept _ ((sessionHosting primitives store).step hosted _).2.store ∧
        ∀ other given output, _ →
          ((sessionHosting primitives store).step hosted _).1 = _ → ∃ keyPair,
            ((sessionHosting primitives store).step hosted _).2.store = some keyPair ∧ _
      simp only [Hosting.step]
      cases hosted.instances session with
      | none =>
          refine ⟨fun _ stored => stored, ?_⟩
          intro other given output same impossible
          cases impossible
      | some state =>
          have identified := invoke_identified primitives (state.setKeyStore hosted.store) works
          refine ⟨identified.kept, ?_⟩
          intro other given output same answered
          cases same
          exact identified.made output (HostReply.answered.inj answered)

section Runs

variable {requests : List SessionRequest}
  (works : (sessions primitives store).EveryStep StorageWorksDuring requests)

include works

theorem run_keeps_store :
    (sessions primitives store).Lasts (fun before after => Kept before.store after.store)
      requests := by
  rw [Machine.lasts_iff_everyStep _ (fun _ _ stored => stored)
    (fun _ _ _ first second keyPair stored => second keyPair (first keyPair stored))]
  intro earlier request inside
  exact (session_step_identified primitives store (works earlier request inside)).1

/-- What a command of the run has handed out was made with the key pair that is
stored at the end. -/
theorem run_made_with {earlier : List SessionRequest} {session : Nat} {call : Call}
    {output : Output} (inside : earlier ++ [.giving session call] <+: requests)
    (answered : (sessions primitives store).answer ((sessions primitives store).run earlier)
      (.giving session call) = .answered (.ok output)) :
    ∃ keyPair, ((sessions primitives store).run requests).store = some keyPair ∧
      MadeWith primitives keyPair call output := by
  have step := session_step_identified primitives store
    (works earlier (.giving session call) inside)
  rcases step.2 session call output rfl answered with ⟨keyPair, stored, made⟩
  have kept := run_keeps_store primitives store works (earlier ++ [.giving session call]) requests
    inside List.prefix_rfl
  rw [Machine.run_snoc] at kept
  exact ⟨keyPair, kept keyPair stored, made⟩

/-- If the storage opens what is stored whenever something is stored, all
sessions sign and decrypt with one key pair, that of the storage as it was at
the start, if it held one; it is still there at the end, and its public key is
never handed out. -/
theorem sessions_one_key :
    Kept store ((sessions primitives store).run requests).store ∧
      ∀ event ∈ (sessions primitives store).log requests, ∀ session call output,
        event.input = .giving session call → event.output = .answered (.ok output) →
        ∃ keyPair, ((sessions primitives store).run requests).store = some keyPair ∧
          MadeWith primitives keyPair call output := by
  constructor
  · exact run_keeps_store primitives store works [] requests List.nil_prefix List.prefix_rfl
  · intro event member session call output given answered
    rcases (sessions primitives store).mem_log member with ⟨earlier, request, inside, rfl⟩
    change request = _ at given
    subst given
    exact run_made_with primitives store works inside answered

end Runs

end Sessions

/-! The first session finds no key pair and generates one; the second opens it,
and so does the first when it is opened again and founds a repository anew. -/

namespace Sample

def firstCreation : Call :=
  .requestInit
    { outcomes 0 with
      sign := { (outcomes 0).sign with
        load := { (outcomes 0).sign.load with openPersistentObject := .error .itemNotFound } } }
    founder

def twoSessions : List SessionRequest :=
  [.opening 0 0, .giving 0 firstCreation, .opening 1 0, .giving 1 creation, .closing 0,
    .opening 0 0, .giving 0 addition, .giving 0 creation]

end Sample

theorem two_sessions_one_key :
    (∀ event ∈ (sessions Sample.primitives none).log Sample.twoSessions,
        StorageWorksDuring event.before event.input) ∧
      ((sessions Sample.primitives none).run Sample.twoSessions).store = some Sample.keyPair ∧
      ∀ event ∈ (sessions Sample.primitives none).log Sample.twoSessions,
        ∀ session call output, event.input = .giving session call →
          event.output = .answered (.ok output) →
          MadeWith Sample.primitives Sample.keyPair call output := by
  have works : ∀ event ∈ (sessions Sample.primitives none).log Sample.twoSessions,
      StorageWorksDuring event.before event.input := by decide +kernel
  have stored : ((sessions Sample.primitives none).run Sample.twoSessions).store =
      some Sample.keyPair := by decide +kernel
  refine ⟨works, stored, ?_⟩
  intro event member session call output given answered
  have everyStep := (sessions Sample.primitives none).everyStep_of_log works
  rcases (sessions_one_key Sample.primitives none everyStep).2 event member session call output
    given answered with ⟨keyPair, isStored, made⟩
  have same : Sample.keyPair = keyPair := Option.some.inj (stored.symm.trans isStored)
  rw [same]
  exact made

end Ta
end TrustChain

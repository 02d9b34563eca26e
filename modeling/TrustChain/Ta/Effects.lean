import TrustChain.Ta.Requests

namespace TrustChain
namespace Ta

open Library Tee

/-!
# What one command can do

The handlers are taken apart here, and nowhere else.  `Effect` lists what a
command may leave behind: nothing, a new repository, edited key lists after an
exit that came too late, or an appended block.  Invariants and histories are
then proved by cases on it, without looking at the handlers again.
-/

/-- The repository as a successful `init_repo` stores it. -/
def newRepository (adminKey genesisHash : CString) : RepoMetadata where
  blockHeight := 0
  latestHash := genesisHash
  founderKey := adminKey
  adminKeys := some ⟨[adminKey], 1⟩
  writerKeys := some ⟨[], 0⟩

/-- The repository with a block of this hash appended. -/
def RepoMetadata.append (repo : RepoMetadata) (blockHash : CString) : RepoMetadata :=
  { repo with latestHash := blockHash, blockHeight := repo.blockHeight + 1 }

namespace Call

/-! The blocks that a command builds, before they are signed. -/

def genesis (call : Call) : AccessBlock :=
  genesisBlock zeroHash call.params.adminKey call.outcomes.time

def access (call : Call) (repo : RepoMetadata) : AccessBlock :=
  nextAccessBlock repo call.params.acMsg call.outcomes.time

def contribution (call : Call) (repo : RepoMetadata) : ContributionBlock :=
  nextContributionBlock repo call.params.cmMsg call.outcomes.time

/-- The slots that the two updating commands name. -/
def accessRepo (call : Call) : Nat := call.params.acMsg.repId.toNat

def commitRepo (call : Call) : Nat := call.params.cmMsg.repId.toNat

/-- The request is an `access_control` that passes every check on this repository. -/
def AccessAccepted (primitives : Primitives) (state : TaState) (call : Call)
    (repo : RepoMetadata) : Prop :=
  call.cmdId = cmdAccessControl ∧
    AccessControlAccepted primitives call.outcomes call.paramTypes call.params.acMsg state repo

/-- The request is a `commit` that passes every check on this repository. -/
def CommitAccepted (primitives : Primitives) (state : TaState) (call : Call)
    (repo : RepoMetadata) : Prop :=
  call.cmdId = cmdCommit ∧
    Ta.CommitAccepted primitives call.outcomes call.paramTypes call.params.cmMsg state repo

section Accepted

variable {primitives : Primitives} {state : TaState} {call : Call} {repo : RepoMetadata}

theorem AccessAccepted.slot (accepted : call.AccessAccepted primitives state repo) :
    state.slot call.accessRepo = some repo :=
  accepted.2.found

theorem AccessAccepted.inside (accepted : call.AccessAccepted primitives state repo) :
    call.accessRepo < maxRepoId :=
  TaState.inside_of_slot accepted.slot

theorem CommitAccepted.slot (accepted : call.CommitAccepted primitives state repo) :
    state.slot call.commitRepo = some repo :=
  accepted.2.found

theorem CommitAccepted.inside (accepted : call.CommitAccepted primitives state repo) :
    call.commitRepo < maxRepoId :=
  TaState.inside_of_slot accepted.slot

end Accepted

/-- What the nested branches of `access_control` answer for this request. -/
def updateKeys (call : Call) (repo : RepoMetadata) : TeeResult Unit × RepoMetadata :=
  updateKeySets call.outcomes.node repo call.params.acMsg.op call.params.acMsg.role
    call.params.acMsg.pubkey

/-- Hashing and signing a block go through. -/
def Seals (call : Call) : Prop :=
  call.outcomes.hash.Succeeds ∧ call.outcomes.sign.Succeeds

/-- An `init_repo` request that gets as far as the key of the founder. -/
structure OpensRepo (state : TaState) (call : Call) : Prop where
  isCommand : call.cmdId = cmdInitRepo
  types : call.paramTypes = teeParamTypes memrefInput valueOutput memrefOutput paramNone
  room : state.repoNum.toNat < maxRepoId
  mallocRepo : call.outcomes.mallocRepo = true

/-- An `init_repo` request that nothing stops. -/
structure Creates (state : TaState) (call : Call) : Prop extends call.OpensRepo state where
  mallocAdminKeys : call.outcomes.mallocAdminKeys = true
  mallocWriterKeys : call.outcomes.mallocWriterKeys = true
  node : call.outcomes.node.Succeeds
  seals : call.Seals

/-- A `get_latest_hash` request for this repository. -/
structure AsksHash (state : TaState) (call : Call) (repo : RepoMetadata) : Prop where
  isCommand : call.cmdId = cmdGetLatestHash
  types : call.paramTypes = teeParamTypes valueInput valueInput memrefOutput memrefOutput
  found : state.slot call.params.repId.toNat = some repo

/-- The key that comes with a commit can be decrypted. -/
def Decrypts (primitives : Primitives) (call : Call) : Prop :=
  ∃ text, (teeDecryptData primitives call.outcomes.decrypt call.params.encryptedKey none).1 =
    .ok text

/-- The strings that the command reads are terminated within their arrays. -/
structure StringsFit (call : Call) : Prop where
  init : call.cmdId = cmdInitRepo → call.params.adminKey.length < maxKeyLength
  access : call.cmdId = cmdAccessControl →
    call.params.acMsg.pubkey.length < maxKeyLength ∧
      call.params.acMsg.sigkey.length < maxKeyLength ∧
      call.params.acMsg.signature.length < maxSignatureLength
  commit : call.cmdId = cmdCommit →
    call.params.cmMsg.commitHash.length < maxHashLength ∧
      call.params.cmMsg.sigkey.length < maxKeyLength ∧
      call.params.cmMsg.signature.length < maxSignatureLength

instance (call : Call) : Decidable call.StringsFit :=
  decidable_of_iff
    ((call.cmdId = cmdInitRepo → call.params.adminKey.length < maxKeyLength) ∧
      (call.cmdId = cmdAccessControl →
        call.params.acMsg.pubkey.length < maxKeyLength ∧
          call.params.acMsg.sigkey.length < maxKeyLength ∧
          call.params.acMsg.signature.length < maxSignatureLength) ∧
      (call.cmdId = cmdCommit →
        call.params.cmMsg.commitHash.length < maxHashLength ∧
          call.params.cmMsg.sigkey.length < maxKeyLength ∧
          call.params.cmMsg.signature.length < maxSignatureLength))
    ⟨fun fits => ⟨fits.1, fits.2.1, fits.2.2⟩, fun fits => ⟨fits.init, fits.access, fits.commit⟩⟩

end Call

/-- What a command can leave behind, with the reply it gives.  `interrupted` is
an `access_control` that fails after its checks: the repository it stores is
the one that the update of the key lists returned. -/
inductive Effect (primitives : Primitives) (state : TaState) (call : Call) :
    TeeResult Output → TaState → Prop
  | refused (code : TeeError) (store : KeyStore)
      (notAccess : ∀ repo, ¬ call.AccessAccepted primitives state repo) :
      Effect primitives state call (.error code) (state.setKeyStore store)
  | hashRead (repo : RepoMetadata) (signature : CString) (store : KeyStore)
      (isCommand : call.cmdId = cmdGetLatestHash)
      (found : state.slot call.params.repId.toNat = some repo)
      (signed : teeSignData primitives call.outcomes.hash call.outcomes.sign
        (latestHashMsg call.params.nonce repo.latestHash) state.keyStore = (.ok signature, store)) :
      Effect primitives state call (.ok (.latestHash call.params.nonce repo.latestHash signature))
        (state.setKeyStore store)
  | keyRead (pem : List UInt8) (pemLen : UInt32) (isCommand : call.cmdId = cmdGetTeePubkey) :
      Effect primitives state call (.ok (.publicKey pem pemLen)) state
  | created (teeSig : CString) (store : KeyStore) (isCommand : call.cmdId = cmdInitRepo)
      (inside : state.repoNum.toNat < maxRepoId)
      (signed : Signed primitives call.outcomes (accessDataBuffer call.genesis) state.keyStore
        teeSig store) :
      Effect primitives state call (.ok (.genesis state.repoNum (call.genesis.withTeeSig teeSig)))
        { (state.setSlot state.repoNum.toNat (some (newRepository call.params.adminKey
            ((Block.access call.genesis).hash primitives)))).setKeyStore store with
          repoNum := state.repoNum + 1 }
  | interrupted (repo edited : RepoMetadata) (reply : TeeResult Unit) (code : TeeError)
      (store : KeyStore) (accepted : call.AccessAccepted primitives state repo)
      (updated : call.updateKeys repo = (reply, edited)) (fails : reply = .ok () → ¬ call.Seals) :
      Effect primitives state call (.error code)
        ((state.setSlot call.accessRepo (some edited)).setKeyStore store)
  | accessAppended (repo edited : RepoMetadata) (teeSig : CString) (store : KeyStore)
      (accepted : call.AccessAccepted primitives state repo)
      (updated : call.updateKeys repo = (.ok (), edited))
      (signed : Signed primitives call.outcomes (accessDataBuffer (call.access edited))
        state.keyStore teeSig store) :
      Effect primitives state call (.ok (.accessBlock ((call.access edited).withTeeSig teeSig)))
        ((state.setSlot call.accessRepo
          (some (edited.append ((Block.access (call.access edited)).hash primitives)))).setKeyStore
          store)
  | contributionAppended (repo : RepoMetadata) (teeSig encryptedKey : CString)
      (signedStore store : KeyStore) (accepted : call.CommitAccepted primitives state repo)
      (signed : Signed primitives call.outcomes (contributionDataBuffer (call.contribution repo))
        state.keyStore teeSig signedStore) :
      Effect primitives state call
        (.ok (.contribution ((call.contribution repo).withTeeSig teeSig) encryptedKey))
        ((state.setSlot call.commitRepo
          (some (repo.append
            ((Block.contribution (call.contribution repo)).hash primitives)))).setKeyStore store)

section Handlers

variable (primitives : Primitives) (state : TaState) (call : Call)

theorem Call.not_accessAccepted {command : UInt32} (isCommand : call.cmdId = command)
    (other : command ≠ cmdAccessControl) (repo : RepoMetadata) :
    ¬ call.AccessAccepted primitives state repo :=
  fun accepted => other (isCommand.symm.trans accepted.1)

theorem Effect.unchanged (notAccess : ∀ repo, ¬ call.AccessAccepted primitives state repo)
    (code : TeeError) : Effect primitives state call (.error code) state :=
  .refused code state.keyStore notAccess

/-! ### Both ways through each handler -/

/-- `init_repo` stores a new repository, or leaves nothing in its slot. -/
theorem initRepo_cases (isCommand : call.cmdId = cmdInitRepo) :
    (call.Creates state ∧ ∃ teeSig store,
      Signed primitives call.outcomes (accessDataBuffer call.genesis) state.keyStore teeSig store ∧
      initRepo primitives call.outcomes call.paramTypes call.params.adminKey state =
        (.ok (.genesis state.repoNum (call.genesis.withTeeSig teeSig)),
          { (state.setSlot state.repoNum.toNat (some (newRepository call.params.adminKey
              ((Block.access call.genesis).hash primitives)))).setKeyStore store with
            repoNum := state.repoNum + 1 })) ∨
    (¬ call.Creates state ∧ ∃ code after store,
      (after = state ∨ after = state.setSlot state.repoNum.toNat none) ∧
      initRepo primitives call.outcomes call.paramTypes call.params.adminKey state =
        (.error code, after.setKeyStore store)) := by
  have genesisOf : genesisBlock zeroHash call.params.adminKey call.outcomes.time = call.genesis :=
    rfl
  unfold initRepo
  by_cases types : call.paramTypes = teeParamTypes memrefInput valueOutput memrefOutput paramNone
  · rw [if_neg (not_not.mpr types)]
    by_cases full : maxRepoId ≤ state.repoNum.toNat
    · rw [if_pos full]
      refine Or.inr ⟨fun creates => ?_, _, state, state.keyStore, Or.inl rfl, rfl⟩
      exact absurd creates.room (by omega)
    · rw [if_neg full]
      simp only [cleanupRepoResources_eq, TaState.setSlot_setSlot]
      cases mallocRepo : call.outcomes.mallocRepo with
      | false =>
          refine Or.inr ⟨fun creates => ?_, _, _, state.keyStore, Or.inr rfl, rfl⟩
          rw [creates.mallocRepo] at mallocRepo
          cases mallocRepo
      | true =>
          simp only [Bool.true_eq_false, if_false]
          cases mallocAdminKeys : call.outcomes.mallocAdminKeys with
          | false =>
              refine Or.inr ⟨fun creates => ?_, _, _, state.keyStore, Or.inr rfl, rfl⟩
              rw [creates.mallocAdminKeys] at mallocAdminKeys
              cases mallocAdminKeys
          | true =>
              cases mallocWriterKeys : call.outcomes.mallocWriterKeys with
              | false =>
                  refine Or.inr ⟨fun creates => ?_, _, _, state.keyStore, Or.inr rfl, rfl⟩
                  rw [creates.mallocWriterKeys] at mallocWriterKeys
                  cases mallocWriterKeys
              | true =>
                  simp only [if_true, initKeyList]
                  by_cases node : call.outcomes.node.Succeeds
                  · rw [addKeyToSet_ok node]
                    simp only [Option.map_some, calculateAccessBlockHash, genesisOf]
                    rcases hashAndSign_cases primitives call.outcomes
                        (accessDataBuffer call.genesis) state.keyStore with
                      ⟨teeSig, store, signed, sealed⟩ | ⟨unsealed, code, store, sealed⟩
                    · simp only [sealed]
                      exact Or.inl ⟨⟨⟨isCommand, types, by omega, mallocRepo⟩, mallocAdminKeys,
                        mallocWriterKeys, node, signed.hashed, signed.signs⟩, teeSig, store, signed,
                        rfl⟩
                    · simp only [sealed, TaState.setSlot_setKeyStore, TaState.setSlot_setSlot]
                      exact Or.inr ⟨fun creates => unsealed creates.seals, code, _, store,
                        Or.inr rfl, rfl⟩
                  · rw [addKeyToSet_error node]
                    exact Or.inr ⟨fun creates => node creates.node, _, _, state.keyStore,
                      Or.inr rfl, rfl⟩
  · rw [if_pos types]
    exact Or.inr ⟨fun creates => types creates.types, _, state, state.keyStore, Or.inl rfl, rfl⟩

/-- `access_control` is refused by its checks, fails after its edit, or appends a block. -/
theorem accessControl_cases (isCommand : call.cmdId = cmdAccessControl) :
    ((∀ repo, ¬ call.AccessAccepted primitives state repo) ∧ ∃ code,
      accessControl primitives call.outcomes call.paramTypes call.params.acMsg state =
        (.error code, state)) ∨
    (∃ repo edited reply code store, call.AccessAccepted primitives state repo ∧
      call.updateKeys repo = (reply, edited) ∧ (reply = .ok () → ¬ call.Seals) ∧
      accessControl primitives call.outcomes call.paramTypes call.params.acMsg state =
        (.error code, (state.setSlot call.accessRepo (some edited)).setKeyStore store)) ∨
    (∃ repo edited teeSig store, call.AccessAccepted primitives state repo ∧
      call.updateKeys repo = (.ok (), edited) ∧
      Signed primitives call.outcomes (accessDataBuffer (call.access edited)) state.keyStore teeSig
        store ∧
      accessControl primitives call.outcomes call.paramTypes call.params.acMsg state =
        (.ok (.accessBlock ((call.access edited).withTeeSig teeSig)),
          (state.setSlot call.accessRepo (some (edited.append
            ((Block.access (call.access edited)).hash primitives)))).setKeyStore store)) := by
  unfold accessControl
  cases checked : accessControlChecks primitives call.outcomes call.paramTypes call.params.acMsg
      state with
  | error code =>
      refine Or.inl ⟨fun repo accepted => ?_, code, rfl⟩
      rw [accessControlChecks_eq_ok_iff.mpr accepted.2] at checked
      cases checked
  | ok repo =>
      have accepted : call.AccessAccepted primitives state repo :=
        ⟨isCommand, accessControlChecks_eq_ok_iff.mp checked⟩
      have updated : call.updateKeys repo = updateKeySets call.outcomes.node repo
        call.params.acMsg.op call.params.acMsg.role call.params.acMsg.pubkey := rfl
      apply Or.inr
      simp only [← updated]
      cases result : call.updateKeys repo with
      | mk answer edited =>
          cases answer with
          | error code =>
              refine Or.inl ⟨repo, edited, _, code, state.keyStore, accepted, result, ?_, rfl⟩
              intro impossible
              cases impossible
          | ok done =>
              have blockOf : nextAccessBlock edited call.params.acMsg call.outcomes.time =
                call.access edited := rfl
              simp only [appendAccessBlock, blockOf, calculateAccessBlockHash,
                TaState.keyStore_setSlot]
              rcases hashAndSign_cases primitives call.outcomes
                  (accessDataBuffer (call.access edited)) state.keyStore with
                ⟨teeSig, store, signed, sealed⟩ | ⟨unsealed, code, store, sealed⟩
              · simp only [sealed, TaState.setSlot_setKeyStore, TaState.setSlot_setSlot]
                exact Or.inr ⟨repo, edited, teeSig, store, accepted, result, signed, rfl⟩
              · simp only [sealed]
                exact Or.inl ⟨repo, edited, _, code, store, accepted, result, fun _ => unsealed,
                  rfl⟩

theorem getLatestHash_cases (isCommand : call.cmdId = cmdGetLatestHash) :
    (∃ repo signature store, call.AsksHash state repo ∧ call.Seals ∧
      teeSignData primitives call.outcomes.hash call.outcomes.sign
        (latestHashMsg call.params.nonce repo.latestHash) state.keyStore = (.ok signature, store) ∧
      getLatestHash primitives call.outcomes call.paramTypes call.params.repId call.params.nonce
        state = (.ok (.latestHash call.params.nonce repo.latestHash signature),
          state.setKeyStore store)) ∨
    ((∀ repo, call.AsksHash state repo → ¬ call.Seals) ∧ ∃ code store,
      getLatestHash primitives call.outcomes call.paramTypes call.params.repId call.params.nonce
        state = (.error code, state.setKeyStore store)) := by
  unfold getLatestHash
  by_cases types : call.paramTypes = teeParamTypes valueInput valueInput memrefOutput memrefOutput
  · rw [if_neg (not_not.mpr types)]
    cases found : state.slot call.params.repId.toNat with
    | none =>
        rw [validateAndGetRepo_none found]
        refine Or.inr ⟨fun repo asks => ?_, _, state.keyStore, rfl⟩
        rw [asks.found] at found
        cases found
    | some repo =>
        rw [validateAndGetRepo_some found]
        have asks : call.AsksHash state repo := ⟨isCommand, types, found⟩
        have signs := teeSignData_ok_iff primitives call.outcomes.hash call.outcomes.sign
          (latestHashMsg call.params.nonce repo.latestHash) state.keyStore
        cases signing : teeSignData primitives call.outcomes.hash call.outcomes.sign
            (latestHashMsg call.params.nonce repo.latestHash) state.keyStore with
        | mk answer store =>
            rw [signing] at signs
            simp only [signing]
            cases answer with
            | error code =>
                refine Or.inr ⟨fun _ _ seals => ?_, code, store, rfl⟩
                rcases signs.mpr seals with ⟨signature, impossible⟩
                cases impossible
            | ok signature =>
                exact Or.inl ⟨repo, signature, store, asks, signs.mp ⟨signature, rfl⟩, signing, rfl⟩
  · rw [if_pos types]
    exact Or.inr ⟨fun repo asks => absurd asks.types types, _, state.keyStore, rfl⟩

theorem commit_cases (isCommand : call.cmdId = cmdCommit) :
    (∃ repo teeSig text signedStore store, call.CommitAccepted primitives state repo ∧
      Signed primitives call.outcomes (contributionDataBuffer (call.contribution repo))
        state.keyStore teeSig signedStore ∧
      (teeDecryptData primitives call.outcomes.decrypt call.params.encryptedKey none).1 =
        .ok text ∧
      commit primitives call.outcomes call.paramTypes call.params.cmMsg call.params.encryptedKey
        state = (.ok (.contribution ((call.contribution repo).withTeeSig teeSig) text),
          (state.setSlot call.commitRepo (some (repo.append
            ((Block.contribution (call.contribution repo)).hash primitives)))).setKeyStore store)) ∨
    ((∀ repo, call.CommitAccepted primitives state repo → call.Seals →
        ¬ call.Decrypts primitives) ∧ ∃ code store,
      commit primitives call.outcomes call.paramTypes call.params.cmMsg call.params.encryptedKey
        state = (.error code, state.setKeyStore store)) := by
  unfold commit
  cases checked : commitChecks primitives call.outcomes call.paramTypes call.params.cmMsg
      state with
  | error code =>
      refine Or.inr ⟨fun repo accepted => ?_, code, state.keyStore, rfl⟩
      rw [commitChecks_eq_ok_iff.mpr accepted.2] at checked
      cases checked
  | ok repo =>
      have accepted : call.CommitAccepted primitives state repo :=
        ⟨isCommand, commitChecks_eq_ok_iff.mp checked⟩
      have blockOf : nextContributionBlock repo call.params.cmMsg call.outcomes.time =
        call.contribution repo := rfl
      simp only [blockOf, calculateContributionBlockHash]
      rcases hashAndSign_cases primitives call.outcomes
          (contributionDataBuffer (call.contribution repo)) state.keyStore with
        ⟨teeSig, signedStore, signed, sealed⟩ | ⟨unsealed, code, store, sealed⟩
      · simp only [sealed]
        have decryption := teeDecryptData_fst primitives call.outcomes.decrypt
          call.params.encryptedKey none signedStore
        cases decrypted : teeDecryptData primitives call.outcomes.decrypt
            call.params.encryptedKey signedStore with
        | mk answer store =>
            rw [decrypted] at decryption
            cases answer with
            | error code =>
                refine Or.inr ⟨fun _ _ _ decrypts => ?_, code, store, rfl⟩
                rcases decrypts with ⟨text, known⟩
                rw [decryption] at known
                cases known
            | ok text =>
                simp only [TaState.setSlot_setKeyStore]
                exact Or.inl ⟨repo, teeSig, text, signedStore, store, accepted, signed, decryption,
                  rfl⟩
      · simp only [sealed]
        exact Or.inr ⟨fun _ _ seals => absurd seals unsealed, code, store, rfl⟩

/-! ### The effect of each handler -/

/-- Nothing was in the slot, so a failing `init_repo` restores the table. -/
theorem initRepo_effect (isCommand : call.cmdId = cmdInitRepo)
    (free : state.slot state.repoNum.toNat = none) :
    Effect primitives state call
      (initRepo primitives call.outcomes call.paramTypes call.params.adminKey state).1
      (initRepo primitives call.outcomes call.paramTypes call.params.adminKey state).2 := by
  have restored : state.setSlot state.repoNum.toNat none = state := by
    rw [← free]
    exact state.setSlot_slot state.repoNum.toNat
  rcases initRepo_cases primitives state call isCommand with
    ⟨creates, teeSig, store, signed, reply⟩ | ⟨_, code, after, store, kept, reply⟩
  · rw [reply]
    exact .created teeSig store isCommand creates.room signed
  · rw [restored, or_self] at kept
    rw [reply, kept]
    exact .refused code store (call.not_accessAccepted primitives state isCommand (by decide))

theorem accessControl_effect (isCommand : call.cmdId = cmdAccessControl) :
    Effect primitives state call
      (accessControl primitives call.outcomes call.paramTypes call.params.acMsg state).1
      (accessControl primitives call.outcomes call.paramTypes call.params.acMsg state).2 := by
  rcases accessControl_cases primitives state call isCommand with
    ⟨refused, code, reply⟩ | ⟨repo, edited, answer, code, store, accepted, updated, fails, reply⟩ |
      ⟨repo, edited, teeSig, store, accepted, updated, signed, reply⟩
  · rw [reply]
    exact .unchanged primitives state call refused code
  · rw [reply]
    exact .interrupted repo edited answer code store accepted updated fails
  · rw [reply]
    exact .accessAppended repo edited teeSig store accepted updated signed

theorem getLatestHash_effect (isCommand : call.cmdId = cmdGetLatestHash) :
    Effect primitives state call
      (getLatestHash primitives call.outcomes call.paramTypes call.params.repId call.params.nonce
        state).1
      (getLatestHash primitives call.outcomes call.paramTypes call.params.repId call.params.nonce
        state).2 := by
  rcases getLatestHash_cases primitives state call isCommand with
    ⟨repo, signature, store, asks, _, signed, reply⟩ | ⟨_, code, store, reply⟩
  · rw [reply]
    exact .hashRead repo signature store isCommand asks.found signed
  · rw [reply]
    exact .refused code store (call.not_accessAccepted primitives state isCommand (by decide))

theorem commit_effect (isCommand : call.cmdId = cmdCommit) :
    Effect primitives state call
      (commit primitives call.outcomes call.paramTypes call.params.cmMsg call.params.encryptedKey
        state).1
      (commit primitives call.outcomes call.paramTypes call.params.cmMsg call.params.encryptedKey
        state).2 := by
  rcases commit_cases primitives state call isCommand with
    ⟨repo, teeSig, text, signedStore, store, accepted, signed, _, reply⟩ | ⟨_, code, store, reply⟩
  · rw [reply]
    exact .contributionAppended repo teeSig text signedStore store accepted signed
  · rw [reply]
    exact .refused code store (call.not_accessAccepted primitives state isCommand (by decide))

theorem getTeePublicKey_effect (isCommand : call.cmdId = cmdGetTeePubkey) :
    Effect primitives state call
      (getTeePublicKey primitives call.outcomes call.paramTypes call.params.pemBufferNull
        call.params.pemBufSize) state := by
  cases answer : getTeePublicKey primitives call.outcomes call.paramTypes
      call.params.pemBufferNull call.params.pemBufSize with
  | error code =>
      exact .unchanged primitives state call
        (call.not_accessAccepted primitives state isCommand (by decide)) code
  | ok output =>
      have isKey : ∃ pem pemLen, output = .publicKey pem pemLen := by
        unfold getTeePublicKey at answer
        split at answer
        · cases answer
        · split at answer
          · cases answer
          · split at answer
            · cases answer
            · split at answer
              · cases answer
              · cases answer
                exact ⟨_, _, rfl⟩
      rcases isKey with ⟨pem, pemLen, rfl⟩
      exact .keyRead pem pemLen isCommand

/-- Every command, in a state whose next slot is free, leaves one of the effects. -/
theorem step_effect (free : state.slot state.repoNum.toNat = none) :
    Effect primitives state call
      (taInvokeCommandEntryPoint primitives state call).1
      (taInvokeCommandEntryPoint primitives state call).2 := by
  unfold taInvokeCommandEntryPoint
  by_cases isInit : call.cmdId = cmdInitRepo
  · rw [if_pos isInit]
    exact initRepo_effect primitives state call isInit free
  · rw [if_neg isInit]
    by_cases isAccess : call.cmdId = cmdAccessControl
    · rw [if_pos isAccess]
      exact accessControl_effect primitives state call isAccess
    · rw [if_neg isAccess]
      by_cases isRead : call.cmdId = cmdGetLatestHash
      · rw [if_pos isRead]
        exact getLatestHash_effect primitives state call isRead
      · rw [if_neg isRead]
        by_cases isCommit : call.cmdId = cmdCommit
        · rw [if_pos isCommit]
          exact commit_effect primitives state call isCommit
        · rw [if_neg isCommit]
          by_cases isKey : call.cmdId = cmdGetTeePubkey
          · rw [if_pos isKey]
            exact getTeePublicKey_effect primitives state call isKey
          · rw [if_neg isKey]
            exact .unchanged primitives state call (fun repo accepted => isAccess accepted.1) _

end Handlers

/-- A successful answer, as its test says. -/
theorem exists_output_of_isOk {answer : TeeResult Output} (succeeds : answer.isOk = true) :
    ∃ output, answer = .ok output := by
  cases answer with
  | error code => cases succeeds
  | ok output => exact ⟨output, rfl⟩

end Ta
end TrustChain

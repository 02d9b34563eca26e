import TrustChain.Library.Instances
import TrustChain.Ta.Answers

namespace TrustChain
namespace Ta

open Library Tee

/-!
# Sessions of the trusted application

The entry points around `TA_InvokeCommandEntryPoint`.  `TA_FLAGS` does not ask
for a single instance, so each session gets an instance of its own, with
`repo_num` and `repositories` as they are initialised, and closing the session
ends it.  The instances have the secure storage in common, and of an instance
that has ended only what it put there is left: the comment in
`TA_DestroyEntryPoint` speaks of repositories that are kept and restored, but no
function stores them.

Commands of different sessions are taken one after another.
-/

/-! ## The entry points -/

/-- `TA_CreateEntryPoint`; it only writes to the log, and so do the void
functions `TA_CloseSessionEntryPoint` and `TA_DestroyEntryPoint`. -/
def taCreateEntryPoint : TeeResult Unit := .ok ()

def taOpenSessionEntryPoint (paramTypes : UInt32) : TeeResult Unit :=
  if paramTypes ≠ teeParamTypes paramNone paramNone paramNone paramNone then
    .error .badParameters
  else .ok ()

/-- What is called to open a session. -/
def openSession (paramTypes : UInt32) : TeeResult Unit := do
  taCreateEntryPoint
  taOpenSessionEntryPoint paramTypes

/-- The application as something to open sessions of. -/
def sessionHosting (primitives : Primitives) (store : KeyStore) :
    Hosting TaState KeyStore UInt32 TeeError Call (TeeResult Output) where
  machine := trustedApplication primitives store
  store := TaState.keyStore
  withStore := fun store state => state.setKeyStore store
  opens := openSession
  withStore_withStore := fun _ _ _ => rfl

abbrev SessionRequest := HostRequest Nat UInt32 Call

abbrev SessionReply := HostReply TeeError (TeeResult Output)

/-- All sessions, with a storage that may hold a key pair already. -/
def sessions (primitives : Primitives) (store : KeyStore) :
    Machine (Hosted Nat TaState KeyStore) SessionRequest SessionReply :=
  (sessionHosting primitives store).host Nat store

/-- The commands given to a session since it was last opened, if it is open. -/
def commandsSince (primitives : Primitives) (store : KeyStore) (session : Nat)
    (requests : List SessionRequest) : Option (List Call) :=
  (sessionHosting primitives store).given session requests

/-! ## Answers do not depend on the storage -/

/-- The same answer, and the same repositories behind it. -/
structure SameButStore (reply other : TeeResult Output × TaState) : Prop where
  answer : reply.1 = other.1
  state : ∀ store, reply.2.setKeyStore store = other.2.setKeyStore store

section Handlers

variable (primitives : Primitives) (outcomes : CallOutcomes) (paramTypes : UInt32)
  (state : TaState) (store : KeyStore)

theorem initRepo_setKeyStore (adminKey : CString) :
    SameButStore (initRepo primitives outcomes paramTypes adminKey (state.setKeyStore store))
      (initRepo primitives outcomes paramTypes adminKey state) := by
  rcases state with ⟨repoNum, repositories, keyStore⟩
  unfold initRepo
  simp only [cleanupRepoResources_eq, TaState.setKeyStore]
  by_cases types : paramTypes ≠ teeParamTypes memrefInput valueOutput memrefOutput paramNone
  · rw [if_pos types, if_pos types]
    exact ⟨rfl, fun _ => rfl⟩
  · rw [if_neg types, if_neg types]
    by_cases full : maxRepoId ≤ repoNum.toNat
    · simp only [full, reduceIte]
      exact ⟨rfl, fun _ => rfl⟩
    · simp only [full, reduceIte]
      by_cases failed : outcomes.mallocRepo = false
      · rw [if_pos failed, if_pos failed]
        exact ⟨rfl, fun _ => rfl⟩
      · rw [if_neg failed, if_neg failed]
        cases outcomes.mallocAdminKeys with
        | false => exact ⟨rfl, fun _ => rfl⟩
        | true =>
            cases outcomes.mallocWriterKeys with
            | false => exact ⟨rfl, fun _ => rfl⟩
            | true =>
                simp only [if_true]
                cases addKeyToSet outcomes.node (some (initKeyList ⟨[], 0⟩)) adminKey with
                | error code => exact ⟨rfl, fun _ => rfl⟩
                | ok withFounder =>
                    rcases exists_common_answer (hashAndSign_fst primitives outcomes.sign
                        (calculateAccessBlockHash primitives outcomes.hash
                          (genesisBlock zeroHash adminKey outcomes.time))
                        keyStore store) with ⟨signed, after, afterOther, one, two⟩
                    simp only [one, two]
                    cases signed with
                    | error code => exact ⟨rfl, fun _ => rfl⟩
                    | ok pair => exact ⟨rfl, fun _ => rfl⟩

theorem accessControl_setKeyStore (msg : AccessControlMessage) :
    SameButStore (accessControl primitives outcomes paramTypes msg (state.setKeyStore store))
      (accessControl primitives outcomes paramTypes msg state) := by
  have checks : accessControlChecks primitives outcomes paramTypes msg
      (state.setKeyStore store) = accessControlChecks primitives outcomes paramTypes msg state :=
    rfl
  unfold accessControl
  rw [checks]
  cases accessControlChecks primitives outcomes paramTypes msg state with
  | error code => exact ⟨rfl, fun _ => rfl⟩
  | ok repo =>
      cases result : updateKeySets outcomes.node repo msg.op msg.role msg.pubkey with
      | mk answer edited =>
          cases answer with
          | error code =>
              simp only [result]
              exact ⟨rfl, fun _ => rfl⟩
          | ok done =>
              rcases exists_common_answer (hashAndSign_fst primitives outcomes.sign
                  (calculateAccessBlockHash primitives outcomes.hash
                    (nextAccessBlock edited msg outcomes.time)) state.keyStore store) with
                ⟨signed, after, afterOther, one, two⟩
              simp only [result, appendAccessBlock, TaState.keyStore_setSlot]
              simp only [TaState.setKeyStore, one, two]
              cases signed with
              | error code => exact ⟨rfl, fun _ => rfl⟩
              | ok pair => exact ⟨rfl, fun _ => rfl⟩

theorem getLatestHash_setKeyStore (repId nonce : UInt32) :
    SameButStore
      (getLatestHash primitives outcomes paramTypes repId nonce (state.setKeyStore store))
      (getLatestHash primitives outcomes paramTypes repId nonce state) := by
  unfold getLatestHash
  rw [validateAndGetRepo_congr (state.slot_setKeyStore store repId.toNat)]
  by_cases types : paramTypes ≠ teeParamTypes valueInput valueInput memrefOutput memrefOutput
  · rw [if_pos types, if_pos types]
    exact ⟨rfl, fun _ => rfl⟩
  · rw [if_neg types, if_neg types]
    cases validateAndGetRepo state repId with
    | error code => exact ⟨rfl, fun _ => rfl⟩
    | ok repo =>
        rcases exists_common_answer (teeSignData_fst primitives outcomes.hash outcomes.sign
            (latestHashMsg nonce repo.latestHash) state.keyStore store) with
          ⟨signed, after, afterOther, one, two⟩
        simp only [TaState.setKeyStore, one, two]
        cases signed with
        | error code => exact ⟨rfl, fun _ => rfl⟩
        | ok signature => exact ⟨rfl, fun _ => rfl⟩

theorem commit_setKeyStore (msg : CommitMessage) (encryptedKey : CString) :
    SameButStore
      (commit primitives outcomes paramTypes msg encryptedKey (state.setKeyStore store))
      (commit primitives outcomes paramTypes msg encryptedKey state) := by
  have checks : commitChecks primitives outcomes paramTypes msg (state.setKeyStore store) =
      commitChecks primitives outcomes paramTypes msg state := rfl
  unfold commit
  rw [checks]
  cases commitChecks primitives outcomes paramTypes msg state with
  | error code => exact ⟨rfl, fun _ => rfl⟩
  | ok repo =>
      rcases exists_common_answer (hashAndSign_fst primitives outcomes.sign
          (calculateContributionBlockHash primitives outcomes.hash
            (nextContributionBlock repo msg outcomes.time)) state.keyStore store) with
        ⟨signed, after, afterOther, one, two⟩
      simp only [TaState.setKeyStore, one, two]
      cases signed with
      | error code => exact ⟨rfl, fun _ => rfl⟩
      | ok pair =>
          rcases exists_common_answer (teeDecryptData_fst primitives outcomes.decrypt encryptedKey
              after afterOther) with ⟨decrypted, later, laterOther, first, second⟩
          simp only [first, second]
          cases decrypted with
          | error code => exact ⟨rfl, fun _ => rfl⟩
          | ok text => exact ⟨rfl, fun _ => rfl⟩

end Handlers

theorem invoke_setKeyStore (primitives : Primitives) (state : TaState) (store : KeyStore)
    (call : Call) :
    SameButStore (taInvokeCommandEntryPoint primitives (state.setKeyStore store) call)
      (taInvokeCommandEntryPoint primitives state call) := by
  unfold taInvokeCommandEntryPoint
  by_cases isInit : call.cmdId = cmdInitRepo
  · rw [if_pos isInit, if_pos isInit]
    apply initRepo_setKeyStore
  rw [if_neg isInit, if_neg isInit]
  by_cases isAccess : call.cmdId = cmdAccessControl
  · rw [if_pos isAccess, if_pos isAccess]
    apply accessControl_setKeyStore
  rw [if_neg isAccess, if_neg isAccess]
  by_cases isLatestHash : call.cmdId = cmdGetLatestHash
  · rw [if_pos isLatestHash, if_pos isLatestHash]
    apply getLatestHash_setKeyStore
  rw [if_neg isLatestHash, if_neg isLatestHash]
  by_cases isCommit : call.cmdId = cmdCommit
  · rw [if_pos isCommit, if_pos isCommit]
    apply commit_setKeyStore
  rw [if_neg isCommit, if_neg isCommit]
  by_cases isKey : call.cmdId = cmdGetTeePubkey
  · rw [if_pos isKey, if_pos isKey]
    exact ⟨rfl, fun _ => rfl⟩
  · rw [if_neg isKey, if_neg isKey]
    exact ⟨rfl, fun _ => rfl⟩

theorem sessionHosting_separate (primitives : Primitives) (store : KeyStore) :
    (sessionHosting primitives store).Separate where
  answer := fun state store call => (invoke_setKeyStore primitives state store call).answer
  next := fun state store call => (invoke_setKeyStore primitives state store call).state

/-! ## Each session is an application of its own -/

/-- The global variables. -/
def TaState.globals (state : TaState) : UInt32 × (Fin maxRepoId → Option RepoMetadata) :=
  (state.repoNum, state.repositories)

theorem session_answer (primitives : Primitives) (store : KeyStore) (session : Nat)
    (requests : List SessionRequest) (call : Call) :
    (sessions primitives store).answer ((sessions primitives store).run requests)
        (.giving session call) =
      (commandsSince primitives store session requests).elim .notCalled (fun calls =>
        .answered ((trustedApplication primitives store).answer
          ((trustedApplication primitives store).run calls) call)) :=
  Hosting.answer_given (sessionHosting_separate primitives store) store session call requests

/-- However sessions are opened, used and closed in between, a session has the
repositories of an application that has been given nothing but the commands of
this session since its last opening, and answers as that application does.
Opened again, it has no repository. -/
theorem sessions_separate (primitives : Primitives) (store : KeyStore) (session : Nat)
    (requests : List SessionRequest) :
    (((sessions primitives store).run requests).instances session).map TaState.globals =
        (commandsSince primitives store session requests).map (fun calls =>
          ((trustedApplication primitives store).run calls).globals) ∧
      ∀ call, (sessions primitives store).answer ((sessions primitives store).run requests)
          (.giving session call) =
        (commandsSince primitives store session requests).elim .notCalled (fun calls =>
          .answered ((trustedApplication primitives store).answer
            ((trustedApplication primitives store).run calls) call)) := by
  constructor
  · have follows := Hosting.follows_given (sessionHosting_separate primitives store) store session
      requests
    change Hosting.Follows _ (((sessions primitives store).run requests).instances session)
      (commandsSince primitives store session requests) at follows
    generalize ((sessions primitives store).run requests).instances session = state at follows ⊢
    generalize commandsSince primitives store session requests = calls at follows ⊢
    cases follows with
    | unopened => rfl
    | opened alike =>
        have same := congrArg TaState.globals (alike none)
        exact congrArg some same
  · exact session_answer primitives store session requests

/-- The repository that a session has founded is gone when it is opened again. -/
example :
    let requests := [.opening 0 0, .giving 0 Sample.creation, .closing 0, .opening 0 0]
    (sessions Sample.primitives (some Sample.keyPair)).answer
        ((sessions Sample.primitives (some Sample.keyPair)).run requests)
        (.giving 0 (.requestLatestHash (Sample.outcomes 0) 0 0)) =
      .answered (.error .itemNotFound) := by
  rfl

end Ta
end TrustChain

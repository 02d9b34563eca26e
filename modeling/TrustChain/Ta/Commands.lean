import TrustChain.Library.Machine
import TrustChain.Library.Region
import TrustChain.Ta.Block
import TrustChain.Ta.KeyList
import TrustChain.Ta.KeyManager

namespace TrustChain
namespace Ta

open Library Tee

/-!
# `trust_chain_ta.c`

The global variables are a state; a command reads its parameters, consults the
environment and leaves a result and the next state.  An early `return` leaves
the state as it is at that point, so every exit of the source is visible here
with whatever has been changed before it.

A handler casts the untyped parameters to what it expects.  `Params` holds what
each handler finds under its own cast; strings are read up to their terminator,
and no bound is put on their lengths.

A hash is a text of 64 characters here, also in the arrays `genesis_hash`,
`block_hash` and `latest_hash`, which have 64 bytes and no room for its
terminator.  What becomes of the terminator, and what `strcpy` takes along from
behind these arrays, is left to `MetadataLayout`.
-/

/-! ## State -/

structure RepoMetadata where
  blockHeight : UInt32
  latestHash : CString
  founderKey : CString
  adminKeys : KeyListPtr
  writerKeys : KeyListPtr
  deriving DecidableEq

/-- `repo_num` and `repositories`, with the object in secure storage. -/
structure TaState where
  repoNum : UInt32
  repositories : Fin maxRepoId → Option RepoMetadata
  keyStore : KeyStore

namespace TaState

/-- A slot of the table; there is none from `MAX_REPO_ID` on. -/
def slot (state : TaState) (repId : Nat) : Option RepoMetadata :=
  if inside : repId < maxRepoId then state.repositories ⟨repId, inside⟩ else none

def setSlot (state : TaState) (repId : Nat) (value : Option RepoMetadata) : TaState :=
  { state with
    repositories := fun index => if index.val = repId then value else state.repositories index }

def setKeyStore (state : TaState) (store : KeyStore) : TaState :=
  { state with keyStore := store }

@[simp] theorem repoNum_setSlot (state : TaState) (repId : Nat) (value : Option RepoMetadata) :
    (state.setSlot repId value).repoNum = state.repoNum := rfl

@[simp] theorem keyStore_setSlot (state : TaState) (repId : Nat) (value : Option RepoMetadata) :
    (state.setSlot repId value).keyStore = state.keyStore := rfl

@[simp] theorem repoNum_setKeyStore (state : TaState) (store : KeyStore) :
    (state.setKeyStore store).repoNum = state.repoNum := rfl

@[simp] theorem slot_setKeyStore (state : TaState) (store : KeyStore) (repId : Nat) :
    (state.setKeyStore store).slot repId = state.slot repId := rfl

theorem setSlot_setKeyStore (state : TaState) (store : KeyStore) (repId : Nat)
    (value : Option RepoMetadata) :
    (state.setKeyStore store).setSlot repId value = (state.setSlot repId value).setKeyStore store :=
  rfl

theorem slot_setSlot_self (state : TaState) {repId : Nat} (inside : repId < maxRepoId)
    (value : Option RepoMetadata) : (state.setSlot repId value).slot repId = value := by
  simp [slot, setSlot, inside]

theorem slot_setSlot_of_ne (state : TaState) {repId other : Nat} (different : other ≠ repId)
    (value : Option RepoMetadata) : (state.setSlot repId value).slot other = state.slot other := by
  simp [slot, setSlot, different]

theorem setSlot_setSlot (state : TaState) (repId : Nat) (first second : Option RepoMetadata) :
    (state.setSlot repId first).setSlot repId second = state.setSlot repId second := by
  simp only [setSlot, TaState.mk.injEq, true_and, and_true]
  funext index
  by_cases same : index.val = repId
  · rw [if_pos same, if_pos same]
  · rw [if_neg same, if_neg same, if_neg same]

/-- Storing what a slot already holds changes nothing. -/
theorem setSlot_slot (state : TaState) (repId : Nat) :
    state.setSlot repId (state.slot repId) = state := by
  cases state with
  | mk repoNum repositories keyStore =>
      simp only [setSlot, slot, TaState.mk.injEq, true_and, and_true]
      funext index
      by_cases same : index.val = repId
      · subst same
        rw [if_pos rfl, dif_pos index.isLt]
      · rw [if_neg same]

theorem inside_of_slot {state : TaState} {repId : Nat} {repo : RepoMetadata}
    (found : state.slot repId = some repo) : repId < maxRepoId := by
  unfold slot at found
  by_cases inside : repId < maxRepoId
  · exact inside
  · rw [dif_neg inside] at found
    cases found

end TaState

/-! ## Commands and their parameters -/

def cmdInitRepo : UInt32 := 0
def cmdAccessControl : UInt32 := 2
def cmdGetLatestHash : UInt32 := 3
def cmdCommit : UInt32 := 4
def cmdGetTeePubkey : UInt32 := 5

def paramNone : UInt32 := 0
def valueInput : UInt32 := 1
def valueOutput : UInt32 := 2
def memrefInput : UInt32 := 5
def memrefOutput : UInt32 := 6
def memrefInout : UInt32 := 7

/-- `TEE_PARAM_TYPES`. -/
def teeParamTypes (t0 t1 t2 t3 : UInt32) : UInt32 :=
  t0 ||| (t1 <<< 4) ||| (t2 <<< 8) ||| (t3 <<< 12)

structure AccessControlMessage where
  repId : UInt32
  op : UInt32
  role : UInt32
  pubkey : CString
  sigkey : CString
  signature : CString
  deriving DecidableEq, Inhabited

structure CommitMessage where
  repId : UInt32
  op : UInt32
  commitHash : CString
  sigkey : CString
  signature : CString
  deriving DecidableEq, Inhabited

/-- The parameters as the handlers read them: `adminKey`, `acMsg` and `cmMsg`
are `params[0].memref` under three casts, `encryptedKey` is `params[1].memref`,
and the numbers are `value.a` or `memref.size`. -/
structure Params where
  adminKey : CString
  acMsg : AccessControlMessage
  cmMsg : CommitMessage
  repId : UInt32
  nonce : UInt32
  encryptedKey : CString
  pemBufferNull : Bool
  pemBufSize : Nat
  deriving DecidableEq, Inhabited

/-- Every answer of the environment during one command. -/
structure CallOutcomes where
  mallocRepo : Bool
  mallocAdminKeys : Bool
  mallocWriterKeys : Bool
  node : NodeOutcomes
  time : TeeTime
  verify : VerifyOutcomes
  hash : HashOutcomes
  sign : SignOutcomes
  decrypt : DecryptOutcomes
  openPublicKey : TeeResult RsaKeyPair
  exportPem : ExportOutcomes
  deriving DecidableEq

structure Call where
  cmdId : UInt32
  paramTypes : UInt32
  params : Params
  outcomes : CallOutcomes
  deriving DecidableEq

def CallOutcomes.smooth (pair : RsaKeyPair) (time : TeeTime) : CallOutcomes where
  mallocRepo := true
  mallocAdminKeys := true
  mallocWriterKeys := true
  node := .smooth
  time := time
  verify := .smooth
  hash := .smooth
  sign := .smooth pair
  decrypt := .smooth pair
  openPublicKey := .ok pair
  exportPem := .smooth

/-! The commands as a client invokes them. -/

def Call.requestInit (outcomes : CallOutcomes) (adminKey : CString) : Call where
  cmdId := cmdInitRepo
  paramTypes := teeParamTypes memrefInput valueOutput memrefOutput paramNone
  params := { (default : Params) with adminKey := adminKey }
  outcomes := outcomes

def Call.requestAccess (outcomes : CallOutcomes) (msg : AccessControlMessage) : Call where
  cmdId := cmdAccessControl
  paramTypes := teeParamTypes memrefInput memrefOutput paramNone paramNone
  params := { (default : Params) with acMsg := msg }
  outcomes := outcomes

def Call.requestLatestHash (outcomes : CallOutcomes) (repId nonce : UInt32) : Call where
  cmdId := cmdGetLatestHash
  paramTypes := teeParamTypes valueInput valueInput memrefOutput memrefOutput
  params := { (default : Params) with repId := repId, nonce := nonce }
  outcomes := outcomes

def Call.requestCommit (outcomes : CallOutcomes) (msg : CommitMessage) (encryptedKey : CString) :
    Call where
  cmdId := cmdCommit
  paramTypes := teeParamTypes memrefInput memrefInout memrefOutput paramNone
  params := { (default : Params) with cmMsg := msg, encryptedKey := encryptedKey }
  outcomes := outcomes

/-- What a successful command leaves in its output parameters. -/
inductive Output
  | genesis (repId : UInt32) (block : AccessBlock)
  | accessBlock (block : AccessBlock)
  | latestHash (nonce : UInt32) (latestHash : CString) (signature : CString)
  | contribution (block : ContributionBlock) (encryptedKey : CString)
  | publicKey (pem : List UInt8) (pemLen : UInt32)
  deriving DecidableEq

/-! ## Shared parts of the handlers -/

def validateAndGetRepo (state : TaState) (repId : UInt32) : TeeResult RepoMetadata :=
  if maxRepoId ≤ repId.toNat then .error .itemNotFound
  else
    match state.slot repId.toNat with
    | none => .error .itemNotFound
    | some repo => .ok repo

theorem validateAndGetRepo_none {state : TaState} {repId : UInt32}
    (missing : state.slot repId.toNat = none) :
    validateAndGetRepo state repId = .error .itemNotFound := by
  rw [validateAndGetRepo, missing, ite_self]

theorem validateAndGetRepo_some {state : TaState} {repId : UInt32} {repo : RepoMetadata}
    (found : state.slot repId.toNat = some repo) : validateAndGetRepo state repId = .ok repo := by
  have inside := TaState.inside_of_slot found
  rw [validateAndGetRepo, if_neg (Nat.not_le.mpr inside), found]

theorem validateAndGetRepo_congr {state other : TaState} {repId : UInt32}
    (same : other.slot repId.toNat = state.slot repId.toNat) :
    validateAndGetRepo other repId = validateAndGetRepo state repId := by
  rw [validateAndGetRepo, validateAndGetRepo, same]

def cleanupRepoResources (state : TaState) (repId : UInt32) : TaState :=
  if maxRepoId ≤ repId.toNat ∨ state.slot repId.toNat = none then state
  else state.setSlot repId.toNat none

/-- Where the function returns early, the slot is empty already. -/
theorem cleanupRepoResources_eq (state : TaState) (repId : UInt32) :
    cleanupRepoResources state repId = state.setSlot repId.toNat none := by
  unfold cleanupRepoResources
  by_cases early : maxRepoId ≤ repId.toNat ∨ state.slot repId.toNat = none
  · have missing : state.slot repId.toNat = none := by
      rcases early with outside | missing
      · rw [TaState.slot, dif_neg (Nat.not_lt.mpr outside)]
      · exact missing
    rw [if_pos early, ← missing, state.setSlot_slot]
  · rw [if_neg early]

/-- The condition `(res = calculate_…_block_hash(…)) != TEE_SUCCESS || (res =
tee_sign_hash(…)) != TEE_SUCCESS` of three handlers, with the hash and the
signature when neither fails.  The hash is that of the 64 bytes of its array. -/
def hashAndSign (primitives : Primitives) (outcomes : SignOutcomes)
    (calculated : TeeResult CString) (store : KeyStore) :
    TeeResult (CString × CString) × KeyStore :=
  match calculated with
  | .error code => (.error code, store)
  | .ok hash =>
      match teeSignHash primitives outcomes hash store with
      | (.error code, store) => (.error code, store)
      | (.ok teeSig, store) => (.ok (hash, teeSig), store)

def AccessBlock.withTeeSig (block : AccessBlock) (teeSig : CString) : AccessBlock :=
  { block with base := { block.base with teeSig := teeSig } }

def ContributionBlock.withTeeSig (block : ContributionBlock) (teeSig : CString) :
    ContributionBlock :=
  { block with base := { block.base with teeSig := teeSig } }

/-! ## `init_repo` -/

/-- The literal that `latest_hash` starts with. -/
def zeroHash : CString := ⟨List.replicate 64 48, by decide⟩

theorem length_zeroHash : zeroHash.length = maxHashLength := by decide

def genesisBlock (latestHash adminKey : CString) (time : TeeTime) : AccessBlock :=
  initAccessBlock 1 latestHash opAdd roleAdmin adminKey adminKey .empty time

def initRepo (primitives : Primitives) (outcomes : CallOutcomes) (paramTypes : UInt32)
    (adminKey : CString) (state : TaState) : TeeResult Output × TaState :=
  let repId := state.repoNum
  if paramTypes ≠ teeParamTypes memrefInput valueOutput memrefOutput paramNone then
    (.error .badParameters, state)
  else if maxRepoId ≤ repId.toNat then (.error .outOfMemory, state)
  else if outcomes.mallocRepo = false then (.error .outOfMemory, state.setSlot repId.toNat none)
  else
    let zeroed : KeyList := ⟨[], 0⟩
    let repo : RepoMetadata :=
      { blockHeight := 0
        latestHash := zeroHash
        founderKey := adminKey
        adminKeys := if outcomes.mallocAdminKeys then some zeroed else none
        writerKeys := if outcomes.mallocWriterKeys then some zeroed else none }
    let published := state.setSlot repId.toNat (some repo)
    match repo.adminKeys, repo.writerKeys with
    | some adminKeys, some writerKeys =>
        match addKeyToSet outcomes.node (some (initKeyList adminKeys)) adminKey with
        | .error code => (.error code, cleanupRepoResources published repId)
        | .ok withFounder =>
            let repo :=
              { repo with adminKeys := withFounder, writerKeys := some (initKeyList writerKeys) }
            let block := genesisBlock repo.latestHash adminKey outcomes.time
            match hashAndSign primitives outcomes.sign
                (calculateAccessBlockHash primitives outcomes.hash block) state.keyStore with
            | (.error code, store) =>
                (.error code, cleanupRepoResources (published.setKeyStore store) repId)
            | (.ok (genesisHash, teeSig), store) =>
                (.ok (.genesis repId (block.withTeeSig teeSig)),
                  { (published.setSlot repId.toNat
                      (some { repo with latestHash := genesisHash })).setKeyStore store with
                    repoNum := state.repoNum + 1 })
    | _, _ => (.error .outOfMemory, cleanupRepoResources published repId)

/-! ## `access_control` -/

/-- `data_to_verify`, by `"%u:%u:%u:%s"`. -/
def accessControlText (msg : AccessControlMessage) : CString :=
  (joinColon [decimal msg.repId.toNat, decimal msg.op.toNat, decimal msg.role.toNat,
    msg.pubkey]).snprintf 1024

/-- Everything in front of the first change. -/
def accessControlChecks (primitives : Primitives) (outcomes : CallOutcomes) (paramTypes : UInt32)
    (msg : AccessControlMessage) (state : TaState) : TeeResult RepoMetadata :=
  if paramTypes ≠ teeParamTypes memrefInput memrefOutput paramNone paramNone then
    .error .badParameters
  else if msg.op ≠ opAdd ∧ msg.op ≠ opDelete then .error .badParameters
  else
    match validateAndGetRepo state msg.repId with
    | .error code => .error code
    | .ok repo =>
        if keyExistsInSet repo.adminKeys msg.sigkey = false then .error .accessDenied
        else
          match verifySignature primitives outcomes.verify (accessControlText msg) msg.sigkey
              msg.signature with
          | .error _ => .error .security
          | .ok () => .ok repo

/-- The nested branches on operation and role.  The repository is returned with
every exit, since some of them follow a change of a list. -/
def updateKeySets (outcomes : NodeOutcomes) (repo : RepoMetadata) (op role : UInt32)
    (pubkey : CString) : TeeResult Unit × RepoMetadata :=
  if op = opAdd then
    if role = roleAdmin then
      if keyExistsInSet repo.adminKeys pubkey then (.error .badParameters, repo)
      else
        -- A writer who becomes an admin loses the writer entry first.
        match findAndRemoveKey repo.writerKeys pubkey with
        | .error code => (.error code, repo)
        | .ok (writerKeys, _wasWriter) =>
            let repo := { repo with writerKeys := writerKeys }
            match addKeyToSet outcomes repo.adminKeys pubkey with
            | .error code => (.error code, repo)
            | .ok adminKeys => (.ok (), { repo with adminKeys := adminKeys })
    else if role = roleWriter then
      if keyExistsInSet repo.writerKeys pubkey then (.error .badParameters, repo)
      else if keyExistsInSet repo.adminKeys pubkey then (.error .badParameters, repo)
      else
        match addKeyToSet outcomes repo.writerKeys pubkey with
        | .error code => (.error code, repo)
        | .ok writerKeys => (.ok (), { repo with writerKeys := writerKeys })
    else (.ok (), repo)
  else if op = opDelete then
    if role = roleAdmin then
      match findAndRemoveKey repo.adminKeys pubkey with
      | .error code => (.error code, repo)
      | .ok (adminKeys, wasFound) =>
          if wasFound = false then (.error .badParameters, { repo with adminKeys := adminKeys })
          else (.ok (), { repo with adminKeys := adminKeys })
    else if role = roleWriter then
      match findAndRemoveKey repo.writerKeys pubkey with
      | .error code => (.error code, repo)
      | .ok (writerKeys, wasFound) =>
          if wasFound = false then (.error .badParameters, { repo with writerKeys := writerKeys })
          else (.ok (), { repo with writerKeys := writerKeys })
    else (.ok (), repo)
  else (.ok (), repo)

def nextAccessBlock (repo : RepoMetadata) (msg : AccessControlMessage) (time : TeeTime) :
    AccessBlock :=
  initAccessBlock (repo.blockHeight + 1) repo.latestHash msg.op msg.role msg.pubkey msg.sigkey
    msg.signature time

/-- From the construction of the block to the end. -/
def appendAccessBlock (primitives : Primitives) (outcomes : CallOutcomes)
    (msg : AccessControlMessage) (repo : RepoMetadata) (state : TaState) :
    TeeResult Output × TaState :=
  let block := nextAccessBlock repo msg outcomes.time
  match hashAndSign primitives outcomes.sign
      (calculateAccessBlockHash primitives outcomes.hash block) state.keyStore with
  | (.error code, store) => (.error code, state.setKeyStore store)
  | (.ok (blockHash, teeSig), store) =>
      (.ok (.accessBlock (block.withTeeSig teeSig)),
        (state.setKeyStore store).setSlot msg.repId.toNat
          (some { repo with latestHash := blockHash, blockHeight := repo.blockHeight + 1 }))

def accessControl (primitives : Primitives) (outcomes : CallOutcomes) (paramTypes : UInt32)
    (msg : AccessControlMessage) (state : TaState) : TeeResult Output × TaState :=
  match accessControlChecks primitives outcomes paramTypes msg state with
  | .error code => (.error code, state)
  | .ok repo =>
      match updateKeySets outcomes.node repo msg.op msg.role msg.pubkey with
      | (.error code, repo) => (.error code, state.setSlot msg.repId.toNat (some repo))
      | (.ok (), repo) =>
          appendAccessBlock primitives outcomes msg repo (state.setSlot msg.repId.toNat (some repo))

/-! ## `get_latest_hash` -/

/-- `struct latesthash_msg` after `strcpy` has put the hash and its terminator
behind the nonce. -/
def latestHashMsg (nonce : UInt32) (latestHash : CString) : List UInt8 :=
  littleEndian nonce ++ latestHash.bytes ++ [0]

def getLatestHash (primitives : Primitives) (outcomes : CallOutcomes) (paramTypes : UInt32)
    (repId nonce : UInt32) (state : TaState) : TeeResult Output × TaState :=
  if paramTypes ≠ teeParamTypes valueInput valueInput memrefOutput memrefOutput then
    (.error .badParameters, state)
  else
    match validateAndGetRepo state repId with
    | .error code => (.error code, state)
    | .ok repo =>
        match teeSignData primitives outcomes.hash outcomes.sign
            (latestHashMsg nonce repo.latestHash) state.keyStore with
        | (.error code, store) => (.error code, state.setKeyStore store)
        | (.ok signature, store) =>
            (.ok (.latestHash nonce repo.latestHash signature), state.setKeyStore store)

/-! ## `commit` -/

/-- `data_to_verify`, by `"%u:%u:%s"`. -/
def commitText (msg : CommitMessage) : CString :=
  (joinColon [decimal msg.repId.toNat, decimal msg.op.toNat, msg.commitHash]).snprintf 1024

def commitChecks (primitives : Primitives) (outcomes : CallOutcomes) (paramTypes : UInt32)
    (msg : CommitMessage) (state : TaState) : TeeResult RepoMetadata :=
  if paramTypes ≠ teeParamTypes memrefInput memrefInout memrefOutput paramNone then
    .error .badParameters
  else if msg.op ≠ opPush ∧ msg.op ≠ opPr then .error .badParameters
  else
    match validateAndGetRepo state msg.repId with
    | .error code => .error code
    | .ok repo =>
        if keyExistsInSet repo.adminKeys msg.sigkey = false ∧
            keyExistsInSet repo.writerKeys msg.sigkey = false then .error .accessDenied
        else
          match verifySignature primitives outcomes.verify (commitText msg) msg.sigkey
              msg.signature with
          | .error _ => .error .security
          | .ok () => .ok repo

def nextContributionBlock (repo : RepoMetadata) (msg : CommitMessage) (time : TeeTime) :
    ContributionBlock :=
  initContributionBlock (repo.blockHeight + 1) repo.latestHash msg.op msg.commitHash msg.sigkey
    msg.signature time

def commit (primitives : Primitives) (outcomes : CallOutcomes) (paramTypes : UInt32)
    (msg : CommitMessage) (encryptedKey : CString) (state : TaState) :
    TeeResult Output × TaState :=
  match commitChecks primitives outcomes paramTypes msg state with
  | .error code => (.error code, state)
  | .ok repo =>
      let block := nextContributionBlock repo msg outcomes.time
      match hashAndSign primitives outcomes.sign
          (calculateContributionBlockHash primitives outcomes.hash block) state.keyStore with
      | (.error code, store) => (.error code, state.setKeyStore store)
      | (.ok (blockHash, teeSig), store) =>
          match teeDecryptData primitives outcomes.decrypt encryptedKey store with
          | (.error code, store) => (.error code, state.setKeyStore store)
          | (.ok decryptedKey, store) =>
              (.ok (.contribution (block.withTeeSig teeSig) decryptedKey),
                (state.setKeyStore store).setSlot msg.repId.toNat
                  (some { repo with
                    latestHash := blockHash, blockHeight := repo.blockHeight + 1 }))

/-! ## `get_tee_public_key` -/

/-- The length variable is zero when its address is passed on. -/
def getTeePublicKey (primitives : Primitives) (outcomes : CallOutcomes) (paramTypes : UInt32)
    (pemBufferNull : Bool) (pemBufSize : Nat) : TeeResult Output :=
  if paramTypes ≠ teeParamTypes memrefOutput valueOutput paramNone paramNone then
    .error .badParameters
  else if pemBufferNull = true ∨ pemBufSize = 0 then .error .badParameters
  else
    match outcomes.openPublicKey with
    | .error code => .error code
    | .ok keyPair =>
        match publicKeyObjToPem primitives outcomes.exportPem keyPair.publicKey 0 with
        | (.error code, _) => .error code
        | (.ok pem, pemLen) => .ok (.publicKey pem (UInt32.ofNat pemLen))

/-! ## The entry point -/

def taInvokeCommandEntryPoint (primitives : Primitives) (state : TaState) (call : Call) :
    TeeResult Output × TaState :=
  if call.cmdId = cmdInitRepo then
    initRepo primitives call.outcomes call.paramTypes call.params.adminKey state
  else if call.cmdId = cmdAccessControl then
    accessControl primitives call.outcomes call.paramTypes call.params.acMsg state
  else if call.cmdId = cmdGetLatestHash then
    getLatestHash primitives call.outcomes call.paramTypes call.params.repId call.params.nonce state
  else if call.cmdId = cmdCommit then
    commit primitives call.outcomes call.paramTypes call.params.cmMsg call.params.encryptedKey state
  else if call.cmdId = cmdGetTeePubkey then
    (getTeePublicKey primitives call.outcomes call.paramTypes call.params.pemBufferNull
      call.params.pemBufSize, state)
  else (.error .badParameters, state)

/-- The application after loading: no repository, and whatever the secure
storage has kept. -/
def initialState (store : KeyStore) : TaState where
  repoNum := 0
  repositories := fun _ => none
  keyStore := store

/-- The trusted application as a machine that answers one command at a time. -/
def trustedApplication (primitives : Primitives) (store : KeyStore) :
    Machine TaState Call (TeeResult Output) where
  start := initialState store
  step := taInvokeCommandEntryPoint primitives

/-! Two clients and a TEE, for runs on concrete requests. -/

namespace Sample

def founder : CString := ⟨[97], by decide⟩

def newcomer : CString := ⟨[98], by decide⟩

/-- Keys that differ in their last character only, the 257th. -/
def longKey (last : UInt8) : CString := .ofMemory (List.replicate 256 97 ++ [last])

def keyPair : RsaKeyPair := ⟨2 ^ 2048 - 1, 3, 3⟩

/-- A digest that is the same for all data. -/
def primitives : Primitives := .accepting fun _ => List.Vector.replicate 32 1

/-- Every hash of these runs, and the signature over it. -/
def hash : CString := hashText primitives []

def signature : CString := bytesToHexString (primitives.rsaSign keyPair (List.replicate 32 1)).toList

def outcomes (seconds : UInt32) : CallOutcomes := .smooth keyPair ⟨seconds, 0⟩

def application : Machine TaState Call (TeeResult Output) :=
  trustedApplication primitives (some keyPair)

def creation : Call := .requestInit (outcomes 0) founder

/-- A request of the founder about one key in the first repository. -/
def access (op role : UInt32) (pubkey : CString) : AccessControlMessage :=
  ⟨0, op, role, pubkey, founder, .empty⟩

/-- The founder makes the newcomer a writer. -/
def addition : Call := .requestAccess (outcomes 1) (access opAdd roleWriter newcomer)

end Sample

end Ta
end TrustChain

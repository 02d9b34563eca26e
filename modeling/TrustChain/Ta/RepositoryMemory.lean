import TrustChain.Ta.Authority
import TrustChain.Ta.KeyListHeaps
import TrustChain.Ta.MetadataLayout

namespace TrustChain
namespace Ta

open Library Tee

/-!
# `trust_chain_ta.c` in memory

The handlers once more, with everything that they allocate on a heap: the table
holds pointers to `struct repo_metadata`, which holds pointers to its two lists.
Each access through a pointer is made where the source makes it.  A read or a
free of what is not allocated, NULL included, is a fault and gives `none`, and so
is a `strcpy` that leaves the fields of the structure.  Nothing else that the
application allocates outlives a command.

What a command does besides, from the parameter checks to the signature, is
taken over from `Commands`.  Of the stack there are `block_hash` and
`decrypted_key`, because `commit` may copy more than the first of them.
-/

/-! ## State -/

section State

variable {Address : Type}

/-- `struct repo_metadata`. -/
structure RepoCell (Address : Type) where
  fields : RepoFields
  adminKeys : Option Address
  writerKeys : Option Address

/-- The structure as `TEE_MALLOC_FILL_ZERO` leaves it. -/
def RepoCell.zeroed : RepoCell Address := ⟨.zeroed, none, none⟩

/-- The addresses that the allocator names during one command. -/
structure Places (Address : Type) where
  repo : Option Address
  adminKeys : Option Address
  writerKeys : Option Address
  node : NodePlaces Address

/-- The global variables with the memory behind them, and the object in secure
storage. -/
structure TaMemory (Address : Type) where
  repoNum : UInt32
  repositories : Fin maxRepoId → Option Address
  repos : Heap Address (RepoCell Address)
  heaps : KeyListHeaps Address
  keyStore : KeyStore

namespace TaMemory

variable (memory : TaMemory Address)

/-- An entry of `repositories`; there is none from `MAX_REPO_ID` on. -/
def pointer (repId : Nat) : Option Address :=
  if inside : repId < maxRepoId then memory.repositories ⟨repId, inside⟩ else none

def setPointer (repId : Nat) (value : Option Address) : TaMemory Address :=
  { memory with
    repositories := fun index => if index.val = repId then value else memory.repositories index }

def setHeaps (heaps : KeyListHeaps Address) : TaMemory Address :=
  { memory with heaps := heaps }

def setRepos (repos : Heap Address (RepoCell Address)) : TaMemory Address :=
  { memory with repos := repos }

def setKeyStore (store : KeyStore) : TaMemory Address :=
  { memory with keyStore := store }

/-- An assignment to fields of the structure behind a pointer. -/
def updateRepo [DecidableEq Address] (repo : Address)
    (assign : RepoCell Address → RepoCell Address) : Option (TaMemory Address) := do
  let cell ← memory.repos repo
  return memory.setRepos (memory.repos.store repo (assign cell))

/-- Stores into the fields that are no pointers. -/
def updateFields [DecidableEq Address] (repo : Address)
    (assign : RepoFields → Option RepoFields) : Option (TaMemory Address) := do
  let cell ← memory.repos repo
  let fields ← assign cell.fields
  memory.updateRepo repo fun cell => { cell with fields := fields }

end TaMemory
end State

section Handlers

variable {Address : Type} [DecidableEq Address] [Fintype Address]
variable (memory : TaMemory Address) (places : Places Address)

/-- `validate_and_get_repo`. -/
def validateAndGetRepoAt (repId : UInt32) : TeeResult Address :=
  if maxRepoId ≤ repId.toNat then .error .itemNotFound
  else
    match memory.pointer repId.toNat with
    | none => .error .itemNotFound
    | some repo => .ok repo

/-- `cleanup_repo_resources`. -/
def cleanupRepoResourcesAt (repId : UInt32) : Option (TaMemory Address) :=
  if maxRepoId ≤ repId.toNat then some memory
  else
    match memory.pointer repId.toNat with
    | none => some memory
    | some repo => do
        let cell ← memory.repos repo
        let heaps ← memory.heaps.cleanUp cell.adminKeys
        let heaps ← heaps.cleanUp cell.writerKeys
        let repos ← memory.repos.free repo
        return ((memory.setHeaps heaps).setRepos repos).setPointer repId.toNat none

/-! ## `init_repo` -/

/-- The allocation of the repository and of its lists.  The structure is in the
table from its allocation on. -/
def allocateRepoAt (repId : UInt32) (adminKey : CString) :
    Option (TeeResult Address × TaMemory Address) :=
  match memory.repos.malloc places.repo .zeroed with
  | none => some (.error .outOfMemory, memory.setPointer repId.toNat none)
  | some (repo, repos) => do
      let memory := (memory.setRepos repos).setPointer repId.toNat (some repo)
      let memory ← memory.updateFields repo fun fields => fields.fill adminKey
      let (adminKeys, heaps) := memory.heaps.mallocKeyList places.adminKeys
      let memory ← (memory.setHeaps heaps).updateRepo repo fun cell =>
        { cell with adminKeys := adminKeys }
      let (writerKeys, heaps) := memory.heaps.mallocKeyList places.writerKeys
      let memory ← (memory.setHeaps heaps).updateRepo repo fun cell =>
        { cell with writerKeys := writerKeys }
      if adminKeys = none ∨ writerKeys = none then
        let memory ← cleanupRepoResourcesAt memory repId
        return (.error .outOfMemory, memory)
      else return (.ok repo, memory)

/-- The lists become empty lists, and the founder is put into the first one. -/
def addFounderAt (repId : UInt32) (repo : Address) (adminKey : CString) :
    Option (TeeResult Unit × TaMemory Address) := do
  let cell ← memory.repos repo
  let (_, heaps) ← memory.heaps.initKeyList cell.adminKeys
  let (_, heaps) ← heaps.initKeyList cell.writerKeys
  let (res, heaps) ← heaps.addKeyToSet cell.adminKeys places.node adminKey
  match res with
  | .error code => do
      let memory ← cleanupRepoResourcesAt (memory.setHeaps heaps) repId
      return (.error code, memory)
  | .ok () => return (.ok (), memory.setHeaps heaps)

/-- From the genesis block to the end. -/
def sealGenesisAt (primitives : Primitives) (outcomes : CallOutcomes) (repId : UInt32)
    (repo : Address) (adminKey : CString) : Option (TeeResult Output × TaMemory Address) := do
  let cell ← memory.repos repo
  let block := genesisBlock cell.fields.latestHash adminKey outcomes.time
  match hashAndSign primitives outcomes.sign
      (calculateAccessBlockHash primitives outcomes.hash block) memory.keyStore with
  | (.error code, store) => do
      let memory ← cleanupRepoResourcesAt (memory.setKeyStore store) repId
      return (.error code, memory)
  | (.ok (genesisHash, teeSig), store) => do
      let memory ← (memory.setKeyStore store).updateFields repo fun fields =>
        fields.strcpy offsetRmLatestHash genesisHash
      return (.ok (.genesis repId (block.withTeeSig teeSig)),
        { memory with repoNum := memory.repoNum + 1 })

/-- `init_repo`. -/
def initRepoAt (primitives : Primitives) (outcomes : CallOutcomes) (paramTypes : UInt32)
    (adminKey : CString) : Option (TeeResult Output × TaMemory Address) :=
  let repId := memory.repoNum
  if paramTypes ≠ teeParamTypes memrefInput valueOutput memrefOutput paramNone then
    some (.error .badParameters, memory)
  else if maxRepoId ≤ repId.toNat then some (.error .outOfMemory, memory)
  else do
    let (allocated, memory) ← allocateRepoAt memory places repId adminKey
    match allocated with
    | .error code => return (.error code, memory)
    | .ok repo =>
        let (added, memory) ← addFounderAt memory places repId repo adminKey
        match added with
        | .error code => return (.error code, memory)
        | .ok () => sealGenesisAt memory primitives outcomes repId repo adminKey

/-! ## `access_control` -/

/-- Everything in front of the first change. -/
def accessControlChecksAt (primitives : Primitives) (outcomes : CallOutcomes) (paramTypes : UInt32)
    (msg : AccessControlMessage) : Option (TeeResult Address) :=
  if paramTypes ≠ teeParamTypes memrefInput memrefOutput paramNone paramNone then
    some (.error .badParameters)
  else if msg.op ≠ opAdd ∧ msg.op ≠ opDelete then some (.error .badParameters)
  else
    match validateAndGetRepoAt memory msg.repId with
    | .error code => some (.error code)
    | .ok repo => do
        let cell ← memory.repos repo
        let isAdmin ← memory.heaps.keyExistsInSet cell.adminKeys msg.sigkey
        if isAdmin = false then return .error .accessDenied
        else
          match verifySignature primitives outcomes.verify (accessControlText msg) msg.sigkey
              msg.signature with
          | .error _ => return .error .security
          | .ok () => return .ok repo

/-- The nested branches on operation and role. -/
def updateKeySetsAt (repo : Address) (op role : UInt32) (pubkey : CString) :
    Option (TeeResult Unit × TaMemory Address) := do
  let cell ← memory.repos repo
  if op = opAdd then
    if role = roleAdmin then
      let isAdmin ← memory.heaps.keyExistsInSet cell.adminKeys pubkey
      if isAdmin then return (.error .badParameters, memory)
      else
        let (res, heaps) ← memory.heaps.findAndRemoveKey cell.writerKeys pubkey
        match res with
        | .error code => return (.error code, memory.setHeaps heaps)
        | .ok _wasWriter =>
            let (res, heaps) ← heaps.addKeyToSet cell.adminKeys places.node pubkey
            return (res, memory.setHeaps heaps)
    else if role = roleWriter then
      let isWriter ← memory.heaps.keyExistsInSet cell.writerKeys pubkey
      if isWriter then return (.error .badParameters, memory)
      else
        let isAdmin ← memory.heaps.keyExistsInSet cell.adminKeys pubkey
        if isAdmin then return (.error .badParameters, memory)
        else
          let (res, heaps) ← memory.heaps.addKeyToSet cell.writerKeys places.node pubkey
          return (res, memory.setHeaps heaps)
    else return (.ok (), memory)
  else if op = opDelete then
    if role = roleAdmin then
      let (res, heaps) ← memory.heaps.findAndRemoveKey cell.adminKeys pubkey
      match res with
      | .error code => return (.error code, memory.setHeaps heaps)
      | .ok wasFound =>
          if wasFound = false then return (.error .badParameters, memory.setHeaps heaps)
          else return (.ok (), memory.setHeaps heaps)
    else if role = roleWriter then
      let (res, heaps) ← memory.heaps.findAndRemoveKey cell.writerKeys pubkey
      match res with
      | .error code => return (.error code, memory.setHeaps heaps)
      | .ok wasFound =>
          if wasFound = false then return (.error .badParameters, memory.setHeaps heaps)
          else return (.ok (), memory.setHeaps heaps)
    else return (.ok (), memory)
  else return (.ok (), memory)

/-- The end of the two handlers that append a block: what is found at the new
hash is stored and the height goes up. -/
def advanceAt (repo : Address) (found : CString) : Option (TaMemory Address) :=
  memory.updateFields repo fun fields => fields.advance found

/-- From the construction of the block to the end. -/
def appendAccessBlockAt (primitives : Primitives) (outcomes : CallOutcomes)
    (msg : AccessControlMessage) (repo : Address) :
    Option (TeeResult Output × TaMemory Address) := do
  let cell ← memory.repos repo
  let block := initAccessBlock (cell.fields.blockHeight + 1) cell.fields.latestHash msg.op msg.role
    msg.pubkey msg.sigkey msg.signature outcomes.time
  match hashAndSign primitives outcomes.sign
      (calculateAccessBlockHash primitives outcomes.hash block) memory.keyStore with
  | (.error code, store) => return (.error code, memory.setKeyStore store)
  | (.ok (blockHash, teeSig), store) => do
      let memory ← advanceAt (memory.setKeyStore store) repo blockHash
      return (.ok (.accessBlock (block.withTeeSig teeSig)), memory)

/-- `access_control`. -/
def accessControlAt (primitives : Primitives) (outcomes : CallOutcomes) (paramTypes : UInt32)
    (msg : AccessControlMessage) : Option (TeeResult Output × TaMemory Address) := do
  match ← accessControlChecksAt memory primitives outcomes paramTypes msg with
  | .error code => return (.error code, memory)
  | .ok repo =>
      let (updated, memory) ← updateKeySetsAt memory places repo msg.op msg.role msg.pubkey
      match updated with
      | .error code => return (.error code, memory)
      | .ok () => appendAccessBlockAt memory primitives outcomes msg repo

/-! ## `get_latest_hash` -/

/-- `get_latest_hash`; it copies the hash with everything that follows. -/
def getLatestHashAt (primitives : Primitives) (outcomes : CallOutcomes) (paramTypes : UInt32)
    (repId nonce : UInt32) : Option (TeeResult Output × TaMemory Address) :=
  if paramTypes ≠ teeParamTypes valueInput valueInput memrefOutput memrefOutput then
    some (.error .badParameters, memory)
  else
    match validateAndGetRepoAt memory repId with
    | .error code => some (.error code, memory)
    | .ok repo => do
        let cell ← memory.repos repo
        match teeSignData primitives outcomes.hash outcomes.sign
            (latestHashMsg nonce cell.fields.latestText) memory.keyStore with
        | (.error code, store) => return (.error code, memory.setKeyStore store)
        | (.ok signature, store) =>
            return (.ok (.latestHash nonce cell.fields.latestText signature),
              memory.setKeyStore store)

/-! ## `commit` -/

/-- Everything up to the verified signature. -/
def commitChecksAt (primitives : Primitives) (outcomes : CallOutcomes) (paramTypes : UInt32)
    (msg : CommitMessage) : Option (TeeResult Address) :=
  if paramTypes ≠ teeParamTypes memrefInput memrefInout memrefOutput paramNone then
    some (.error .badParameters)
  else if msg.op ≠ opPush ∧ msg.op ≠ opPr then some (.error .badParameters)
  else
    match validateAndGetRepoAt memory msg.repId with
    | .error code => some (.error code)
    | .ok repo => do
        let cell ← memory.repos repo
        let isAdmin ← memory.heaps.keyExistsInSet cell.adminKeys msg.sigkey
        let isMember ← if isAdmin then some true
          else memory.heaps.keyExistsInSet cell.writerKeys msg.sigkey
        if isMember = false then return .error .accessDenied
        else
          match verifySignature primitives outcomes.verify (commitText msg) msg.sigkey
              msg.signature with
          | .error _ => return .error .security
          | .ok () => return .ok repo

/-- `commit`, with so many bytes between the two arrays on its stack. -/
def commitOnHeap (primitives : Primitives) (gap : Nat) (stack : Region) (outcomes : CallOutcomes)
    (paramTypes : UInt32) (msg : CommitMessage) (encryptedKey : CString) :
    Option (TeeResult Output × TaMemory Address) := do
  match ← commitChecksAt memory primitives outcomes paramTypes msg with
  | .error code => return (.error code, memory)
  | .ok repo =>
      let cell ← memory.repos repo
      let block := initContributionBlock (cell.fields.blockHeight + 1) cell.fields.latestHash
        msg.op msg.commitHash msg.sigkey msg.signature outcomes.time
      match hashAndSign primitives outcomes.sign
          (calculateContributionBlockHash primitives outcomes.hash block) memory.keyStore with
      | (.error code, store) => return (.error code, memory.setKeyStore store)
      | (.ok (blockHash, teeSig), store) =>
          match teeDecryptData primitives outcomes.decrypt encryptedKey store with
          | (.error code, store) => return (.error code, memory.setKeyStore store)
          | (.ok decryptedKey, store) => do
              let found := foundBlockHash gap stack blockHash decryptedKey
              let memory ← advanceAt (memory.setKeyStore store) repo found
              return (.ok (.contribution (block.withTeeSig teeSig) decryptedKey), memory)

/-! ## The entry point -/

/-- A command, with the addresses that the allocator will name and what is on the
stack before. -/
structure PlacedCall (Address : Type) where
  call : Call
  places : Places Address
  stack : Region

/-- `TA_InvokeCommandEntryPoint`. -/
def taInvokeCommandEntryPointAt (primitives : Primitives) (gap : Nat)
    (placed : PlacedCall Address) : Option (TeeResult Output × TaMemory Address) :=
  let call := placed.call
  if call.cmdId = cmdInitRepo then
    initRepoAt memory placed.places primitives call.outcomes call.paramTypes call.params.adminKey
  else if call.cmdId = cmdAccessControl then
    accessControlAt memory placed.places primitives call.outcomes call.paramTypes call.params.acMsg
  else if call.cmdId = cmdGetLatestHash then
    getLatestHashAt memory primitives call.outcomes call.paramTypes call.params.repId
      call.params.nonce
  else if call.cmdId = cmdCommit then
    commitOnHeap memory primitives gap placed.stack call.outcomes call.paramTypes
      call.params.cmMsg call.params.encryptedKey
  else if call.cmdId = cmdGetTeePubkey then
    some (getTeePublicKey primitives call.outcomes call.paramTypes call.params.pemBufferNull
      call.params.pemBufSize, memory)
  else some (.error .badParameters, memory)

end Handlers

section Runs

variable (Address : Type) [DecidableEq Address] [Fintype Address]

end Runs

end Ta
end TrustChain

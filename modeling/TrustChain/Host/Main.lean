import TrustChain.Host.Client

namespace TrustChain
namespace Host

open Library Tee

/-!
# `host/main.c`

The four request handlers of the HTTP service, from the parsed path to the
answer.  A handler either answers by itself or hands an operation to the trusted
application and makes its answer from what comes back.  The constants and the
message structure are declared a second time in this file of the source, and so
they are here.
-/

def maxKeyLength : Nat := 512
def maxSignatureLength : Nat := 512

def opAdd : UInt32 := 0
def opDelete : UInt32 := 1
def opPush : UInt32 := 2

def roleAdmin : UInt32 := 0
def roleWriter : UInt32 := 1

/-! `struct access_control_message`. -/

def offsetRepId : Nat := 0
def offsetOp : Nat := offsetRepId + 4
def offsetRole : Nat := offsetOp + 4
def offsetPubkey : Nat := offsetRole + 4
def offsetSigkey : Nat := offsetPubkey + maxKeyLength
def offsetSignature : Nat := offsetSigkey + maxKeyLength
def sizeofAccessControlMessage : Nat := offsetSignature + maxSignatureLength

/-- `struct access_block` ends with padding, since its timestamp is a `uint64_t`. -/
def sizeofAccessBlock : Nat := 2136

/-- The locals that a handler does not initialise. -/
structure Locals where
  acMsg : Region
  genesisBlock : Region
  outputBuffer : Region
  hashOutput : Region

/-! ## Answers -/

/-- What `send_json_response` is called with. -/
structure Reply where
  status : Nat
  json : CString
  deriving DecidableEq

/-- How far a handler gets: `reply` is what it does with the result of the
command, which is the operation unless the command failed. -/
inductive Handled
  | replied (reply : Reply)
  | invoked (invocation : Invocation) (reply : Option TeecOperation → Reply)

def invalidJson : Reply := ⟨400, .literal "\x7b\"error\":\"Invalid JSON\"\x7d"⟩

/-- The answer of the two handlers that return nothing of the result. -/
def statusOnly (error : String) : Option TeecOperation → Reply
  | none => ⟨500, .literal error⟩
  | some _ => ⟨200, .literal "\x7b\"status\":\"success\"\x7d"⟩

/-- A string and its terminator as an input reference. -/
def stringRef (text : CString) : Ta.TeeParam :=
  .memref (text.bytes ++ [0]) (text.length + 1)

/-- A local buffer as an output reference. -/
def bufferRef (buffer : Region) (size : Nat) : Ta.TeeParam :=
  .memref (buffer.read 0 size) size

/-- A buffer arrives with all its bytes. -/
theorem memory_share_bufferRef (behind : List UInt8) (buffer : Region) (size : Nat) :
    (share behind (bufferRef buffer size)).memory = buffer.read 0 size ++ behind := by
  rw [bufferRef, share, List.take_of_length_le (Nat.le_of_eq (buffer.length_read 0 size))]
  rfl

section Handlers

variable (jsonLoads : CString → Option Json) (locals : Locals)

/-! ## `handle_init_repo` -/

/-- The body of the answer, printed from the memory of `genesis_block`.  Its
timestamp is printed as one 64-bit number. -/
def initRepoResponse (repoId : UInt32) (genesisBlock : List UInt8) : CString :=
  (.literal "\x7b\"status\":\"success\",\"repository_id\":" ++ decimal repoId.toNat ++
    .literal ",\"genesis_block\":\x7b\"block_height\":" ++
      decimal (Ta.uint32At genesisBlock 0).toNat ++
    .literal ",\"parent_hash\":\"" ++ Ta.stringAt genesisBlock 4 ++
    .literal "\",\"op\":" ++ decimal (Ta.uint32At genesisBlock 68).toNat ++
    .literal ",\"sigkey\":\"" ++ Ta.stringAt genesisBlock 72 ++
    .literal "\",\"signature\":\"" ++ Ta.stringAt genesisBlock 584 ++
    .literal "\",\"trust_timestamp\":" ++
      decimal ((Ta.uint32At genesisBlock 1096).toNat +
        2 ^ 32 * (Ta.uint32At genesisBlock 1100).toNat) ++
    .literal ",\"tee_sig\":\"" ++ Ta.stringAt genesisBlock 1104 ++
    .literal "\",\"role\":" ++ decimal (Ta.uint32At genesisBlock 1616).toNat ++
    .literal ",\"pubkey\":\"" ++ Ta.stringAt genesisBlock 1620 ++
    .literal "\"\x7d\x7d").snprintf 2048

def initRepoInvocation (adminKey : CString) : Invocation where
  cmdId := Ta.cmdInitRepo
  operation :=
    { paramTypes := teecParamTypes teecMemrefTempInput teecValueOutput teecMemrefTempOutput teecNone
      params := ![stringRef adminKey, .value 0 0,
        bufferRef locals.genesisBlock sizeofAccessBlock, .none] }

def handleInitRepo (body : CString) : Handled :=
  match jsonLoads body with
  | none => .replied invalidJson
  | some root =>
      let adminKeyJson := jsonObjectGet root "admin_key"
      if jsonIsString adminKeyJson = false then
        .replied ⟨400, .literal "\x7b\"error\":\"Missing required field: admin_key\"\x7d"⟩
      else
        .invoked (initRepoInvocation locals (jsonStringValue adminKeyJson)) fun
          | none => ⟨500, .literal "\x7b\"error\":\"Failed to initialize repository\"\x7d"⟩
          | some op => ⟨200, initRepoResponse (op.params 1).valueA (op.params 2).memory⟩

/-! ## `handle_commit` -/

def commitInvocation (repoId : UInt32) (pubkey branch : CString) : Invocation where
  cmdId := Ta.cmdCommit
  operation :=
    { paramTypes := teecParamTypes teecValueInput teecValueInput teecMemrefTempInput
        teecMemrefTempInput
      params := ![.value repoId opPush, .value 0 0, stringRef pubkey, stringRef branch] }

def handleCommit (body : CString) : Handled :=
  match jsonLoads body with
  | none => .replied invalidJson
  | some root =>
      let repoIdJson := jsonObjectGet root "repo_id"
      let pubkeyJson := jsonObjectGet root "pubkey"
      let branchJson := jsonObjectGet root "branch"
      if jsonIsInteger repoIdJson = false ∨ jsonIsString pubkeyJson = false ∨
          jsonIsString branchJson = false then
        .replied ⟨400,
          .literal "\x7b\"error\":\"Missing required fields: repo_id, pubkey, branch\"\x7d"⟩
      else
        .invoked
          (commitInvocation (narrow (jsonIntegerValue repoIdJson)) (jsonStringValue pubkeyJson)
            (jsonStringValue branchJson))
          (statusOnly "\x7b\"error\":\"Failed to commit\"\x7d")

/-! ## `handle_access_control` -/

/-- The members that the handler asks for. -/
structure AccessRequest where
  repoId : Int64
  operation : CString
  role : CString
  publicKey : CString
  signatureKey : CString
  signature : CString
  deriving DecidableEq

/-- The members with the types that the handler requires. -/
def AccessRequest.Complete (root : Json) : Prop :=
  jsonIsInteger (jsonObjectGet root "repo_id") = true ∧
    jsonIsString (jsonObjectGet root "operation") = true ∧
    jsonIsString (jsonObjectGet root "role") = true ∧
    jsonIsString (jsonObjectGet root "public_key") = true ∧
    jsonIsString (jsonObjectGet root "signature_key") = true ∧
    jsonIsString (jsonObjectGet root "signature") = true

instance (root : Json) : Decidable (AccessRequest.Complete root) :=
  inferInstanceAs (Decidable (_ ∧ _))

def AccessRequest.ofJson (root : Json) : AccessRequest where
  repoId := jsonIntegerValue (jsonObjectGet root "repo_id")
  operation := jsonStringValue (jsonObjectGet root "operation")
  role := jsonStringValue (jsonObjectGet root "role")
  publicKey := jsonStringValue (jsonObjectGet root "public_key")
  signatureKey := jsonStringValue (jsonObjectGet root "signature_key")
  signature := jsonStringValue (jsonObjectGet root "signature")

def operationCode (operation : CString) : UInt32 :=
  if operation = .literal "ADD" then opAdd else opDelete

def roleCode (role : CString) : UInt32 :=
  if role = .literal "ADMIN" then roleAdmin else roleWriter

/-- `ac_msg`, assignment by assignment.  The terminator is written to the end of
`pubkey` after each of the three copies. -/
def accessControlMessage (stack : Region) (request : AccessRequest) : Region :=
  let msg := stack.writeUInt32 offsetRepId (narrow request.repoId)
  let msg := msg.writeUInt32 offsetOp (operationCode request.operation)
  let msg := msg.writeUInt32 offsetRole (roleCode request.role)
  let msg := msg.strncpy offsetPubkey request.publicKey (maxKeyLength - 1)
  let msg := msg.write (offsetPubkey + (maxKeyLength - 1)) [0]
  let msg := msg.strncpy offsetSigkey request.signatureKey (maxKeyLength - 1)
  let msg := msg.write (offsetPubkey + (maxKeyLength - 1)) [0]
  let msg := msg.strncpy offsetSignature request.signature (maxSignatureLength - 1)
  msg.write (offsetPubkey + (maxSignatureLength - 1)) [0]

def accessControlInvocation (request : AccessRequest) : Invocation where
  cmdId := Ta.cmdAccessControl
  operation :=
    { paramTypes := teecParamTypes teecMemrefTempInput teecMemrefTempOutput teecNone teecNone
      params := ![bufferRef (accessControlMessage locals.acMsg request) sizeofAccessControlMessage,
        bufferRef locals.outputBuffer 256, .none, .none] }

def handleAccessControl (body : CString) : Handled :=
  match jsonLoads body with
  | none => .replied invalidJson
  | some root =>
      if ¬ AccessRequest.Complete root then
        .replied ⟨400, .literal "\x7b\"error\":\"Missing required fields\"\x7d"⟩
      else
        .invoked (accessControlInvocation locals (.ofJson root))
          (statusOnly "\x7b\"error\":\"Failed to perform access control\"\x7d")

/-! ## `handle_get_latest_hash` -/

def latestHashInvocation (repoId : UInt32) : Invocation where
  cmdId := Ta.cmdGetLatestHash
  operation :=
    { paramTypes := teecParamTypes teecValueInput teecMemrefTempOutput teecNone teecNone
      params := ![.value repoId 0, bufferRef locals.hashOutput 256, .none, .none] }

def handleGetLatestHash (repoId : UInt32) : Handled :=
  .invoked (latestHashInvocation locals repoId) fun
    | none => ⟨500, .literal "\x7b\"error\":\"Failed to get latest hash\"\x7d"⟩
    | some op =>
        ⟨200, (.literal "\x7b\"status\":\"success\",\"latest_hash\":\"" ++
          Ta.stringAt (op.params 1).memory 0 ++ .literal "\"\x7d").snprintf 512⟩

/-! ## A request and its answer -/

/-- A request by the handler that it is dispatched to. -/
inductive Request
  | initRepo (body : CString)
  | commit (body : CString)
  | accessControl (body : CString)
  | latestHash (repoId : UInt32)

def handle : Request → Handled
  | .initRepo body => handleInitRepo jsonLoads locals body
  | .commit body => handleCommit jsonLoads body
  | .accessControl body => handleAccessControl jsonLoads locals body
  | .latestHash repoId => handleGetLatestHash locals repoId

end Handlers

/-- The memory that neither side chooses: behind the shared memory, and in the
block of the handler in the trusted application. -/
structure SecureMemory where
  behind : Fin 4 → List UInt8
  stack : Region

/-- A handler together with the trusted application that it talks to. -/
def respond (primitives : Primitives) (outcomes : Ta.CallOutcomes) (memory : SecureMemory)
    (state : Ta.TaState) : Handled → Reply × Ta.TaState
  | .replied reply => (reply, state)
  | .invoked invocation reply =>
      match Ta.taInvokeCommandEntryPoint primitives state
          (invocation.call memory.behind outcomes) with
      | (.error _, after) => (reply none, after)
      | (.ok output, after) =>
          (reply (some (invocation.returned memory.behind memory.stack output)), after)

end Host
end TrustChain

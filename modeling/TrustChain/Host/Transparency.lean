import TrustChain.Host.Translation
import TrustChain.Ta.ReturnedBlock

namespace TrustChain
namespace Host

open Library Tee

/-!
# What the service lets through

A handler is transparent for a request if the operation that it builds passes
the parameter check of the trusted application, gives it enough memory, and
brings its answer back.  Only `handle_init_repo` builds such an operation.  Two
of the others build parameters of other types, so that these requests always
fail; the third one leaves 256 bytes for a block of 2132.
-/

/-- The well-formed commands that a request can stand for: the key of a founder
fits its array.  A body for `/commit` has no form that the handler and its callers
agree on, so any contribution is taken. -/
def StandsFor (jsonLoads : CString → Option Json) : Request → Ta.Call → Prop
  | .initRepo body, call =>
      ∃ root outcomes, jsonLoads body = some root ∧
        jsonIsString (jsonObjectGet root "admin_key") = true ∧
        (jsonStringValue (jsonObjectGet root "admin_key")).length < maxKeyLength ∧
        call = .requestInit outcomes (jsonStringValue (jsonObjectGet root "admin_key"))
  | .commit _, call => ∃ outcomes msg encryptedKey, call = .requestCommit outcomes msg encryptedKey
  | .accessControl body, call =>
      ∃ root outcomes msg, jsonLoads body = some root ∧ AccessRequest.Complete root ∧
        (msg.repId.toNat : Int) = (AccessRequest.ofJson root).repoId.toInt ∧
        MeansOperation (AccessRequest.ofJson root).operation msg.op ∧
        MeansRole (AccessRequest.ofJson root).role msg.role ∧
        msg.pubkey = (AccessRequest.ofJson root).publicKey ∧
        msg.sigkey = (AccessRequest.ofJson root).signatureKey ∧
        msg.signature = (AccessRequest.ofJson root).signature ∧
        call = .requestAccess outcomes msg
  | .latestHash repoId, call => ∃ outcomes nonce, call = .requestLatestHash outcomes repoId nonce

/-- The answer of the service carries what the trusted application has answered:
of a new repository the number and the bytes of the block, of a hash the text, and
of a change that it has been made. -/
def Brings (stack : Region) (reply : Reply) : Ta.Output → Prop
  | .genesis repId block => ∃ rest, reply.json =
      initRepoResponse repId ((Ta.Block.access block).returnedBytes stack ++ rest)
  | .latestHash _ hash _ => reply.json =
      (.literal "\x7b\"status\":\"success\",\"latest_hash\":\"" ++ hash ++
        .literal "\"\x7d").snprintf 512
  | .accessBlock _ => reply.json = .literal "\x7b\"status\":\"success\"\x7d"
  | .contribution _ _ => reply.json = .literal "\x7b\"status\":\"success\"\x7d"
  | .publicKey _ _ => False

/-- An operation with which the trusted application does what it would do for
the well-formed command, and from which the service makes an answer that carries
the output. -/
structure Passes (primitives : Primitives) (memory : SecureMemory) (state : Ta.TaState)
    (call : Ta.Call) (output : Ta.Output) (invocation : Invocation)
    (reply : Option TeecOperation → Reply) : Prop where
  cmdId : invocation.cmdId = call.cmdId
  paramTypes : invocation.operation.paramTypes = Ta.expectedParamTypes call.cmdId
  memrefs : ∀ index, Ta.memrefNeed call.params output index ≤
    (invocation.operation.params index).size
  answer : Ta.taInvokeCommandEntryPoint primitives state
      (invocation.call memory.behind call.outcomes) =
    Ta.taInvokeCommandEntryPoint primitives state call
  brought : Brings memory.stack
    (respond primitives call.outcomes memory state (.invoked invocation reply)).1 output
  status : (respond primitives call.outcomes memory state (.invoked invocation reply)).1.status = 200

/-- The handler hands the request over, and the operation passes. -/
def Transparent (jsonLoads : CString → Option Json) (locals : Locals) (primitives : Primitives)
    (memory : SecureMemory) (state : Ta.TaState) (request : Request) (call : Ta.Call)
    (output : Ta.Output) : Prop :=
  ∃ invocation reply, handle jsonLoads locals request = .invoked invocation reply ∧
    Passes primitives memory state call output invocation reply

section Requests

variable (jsonLoads : CString → Option Json) (locals : Locals) (primitives : Primitives)
  (memory : SecureMemory) (state : Ta.TaState)

/-! ## The handlers whose operations are refused -/

theorem respond_of_paramTypes (outcomes : Ta.CallOutcomes) (invocation : Invocation)
    (reply : Option TeecOperation → Reply)
    (other : invocation.operation.paramTypes ≠ Ta.expectedParamTypes invocation.cmdId) :
    respond primitives outcomes memory state (.invoked invocation reply) = (reply none, state) := by
  have refused := Ta.refused_of_paramTypes primitives state
    (invocation.call memory.behind outcomes) other
  simp only [respond, refused]

theorem respond_of_ok (outcomes : Ta.CallOutcomes) (invocation : Invocation)
    (reply : Option TeecOperation → Reply) {output : Ta.Output}
    (answered : (Ta.taInvokeCommandEntryPoint primitives state
      (invocation.call memory.behind outcomes)).1 = .ok output) :
    (respond primitives outcomes memory state (.invoked invocation reply)).1 =
      reply (some (invocation.returned memory.behind memory.stack output)) := by
  cases result : Ta.taInvokeCommandEntryPoint primitives state
      (invocation.call memory.behind outcomes) with
  | mk answer after =>
      rw [result] at answered
      have succeeds : answer = .ok output := answered
      simp only [respond, result, succeeds]

theorem latestHash_paramTypes (repoId : UInt32) :
    (latestHashInvocation locals repoId).operation.paramTypes ≠
      Ta.expectedParamTypes Ta.cmdGetLatestHash :=
  (by decide : teecParamTypes teecValueInput teecMemrefTempOutput teecNone teecNone ≠
    Ta.expectedParamTypes Ta.cmdGetLatestHash)

theorem commit_paramTypes (repoId : UInt32) (pubkey branch : CString) :
    (commitInvocation repoId pubkey branch).operation.paramTypes ≠
      Ta.expectedParamTypes Ta.cmdCommit :=
  (by decide : teecParamTypes teecValueInput teecValueInput teecMemrefTempInput teecMemrefTempInput ≠
    Ta.expectedParamTypes Ta.cmdCommit)

/-- The latest hash is never shown. -/
theorem respond_latestHash (outcomes : Ta.CallOutcomes) (repoId : UInt32) :
    respond primitives outcomes memory state (handle jsonLoads locals (.latestHash repoId)) =
      (⟨500, .literal "\x7b\"error\":\"Failed to get latest hash\"\x7d"⟩, state) :=
  respond_of_paramTypes primitives memory state outcomes (latestHashInvocation locals repoId) _
    (latestHash_paramTypes locals repoId)

theorem handleCommit_cases (body : CString) :
    (∃ reply, handleCommit jsonLoads body = .replied reply ∧ reply.status = 400) ∨
      ∃ repoId pubkey branch, handleCommit jsonLoads body =
        .invoked (commitInvocation repoId pubkey branch)
          (statusOnly "\x7b\"error\":\"Failed to commit\"\x7d") := by
  unfold handleCommit
  cases jsonLoads body with
  | none => exact Or.inl ⟨invalidJson, rfl, rfl⟩
  | some root =>
      by_cases incomplete : jsonIsInteger (jsonObjectGet root "repo_id") = false ∨
          jsonIsString (jsonObjectGet root "pubkey") = false ∨
          jsonIsString (jsonObjectGet root "branch") = false
      · exact Or.inl ⟨_, if_pos incomplete, rfl⟩
      · exact Or.inr ⟨_, _, _, if_neg incomplete⟩

/-- No contribution is ever accepted. -/
theorem respond_commit (outcomes : Ta.CallOutcomes) (body : CString) :
    ∃ reply, respond primitives outcomes memory state (handle jsonLoads locals (.commit body)) =
      (reply, state) ∧ (reply.status = 400 ∨ reply.status = 500) := by
  rw [handle]
  rcases handleCommit_cases jsonLoads body with
    ⟨reply, replied, status⟩ | ⟨repoId, pubkey, branch, invoked⟩
  · rw [replied]
    exact ⟨reply, rfl, Or.inl status⟩
  · rw [invoked, respond_of_paramTypes primitives memory state outcomes _ _
      (commit_paramTypes repoId pubkey branch)]
    exact ⟨_, rfl, Or.inr rfl⟩

/-! ## The handler whose buffer is too small -/

/-- The block does not fit the reference that it is copied to. -/
theorem accessBlock_does_not_fit (request : AccessRequest) (params : Ta.Params)
    (block : Ta.AccessBlock) :
    ((accessControlInvocation locals request).operation.params 1).size <
      Ta.memrefNeed params (.accessBlock block) 1 :=
  (by decide : 256 < Ta.sizeofAccessBlock)

/-! ## The handler that works -/

theorem received_adminKey (adminKey : CString) (behind : Fin 4 → List UInt8)
    (outcomes : Ta.CallOutcomes) :
    ((initRepoInvocation locals adminKey).call behind outcomes).params.adminKey = adminKey := by
  have whole : (adminKey.bytes ++ [0]).length ≤ adminKey.length + 1 :=
    Nat.le_of_eq List.length_append
  have shared : (share (behind 0) (stringRef adminKey)).memory =
      adminKey.bytes ++ 0 :: behind 0 := by
    rw [stringRef, share, List.take_of_length_le whole]
    exact List.append_assoc adminKey.bytes [0] (behind 0)
  have read : ((initRepoInvocation locals adminKey).call behind outcomes).params.adminKey =
      CString.ofMemory (share (behind 0) (stringRef adminKey)).memory := rfl
  rw [read, shared, CString.ofMemory_terminated]

/-- The trusted application cannot tell the operation from the command. -/
theorem answer_initRepo (adminKey : CString) (outcomes : Ta.CallOutcomes) :
    Ta.taInvokeCommandEntryPoint primitives state
        ((initRepoInvocation locals adminKey).call memory.behind outcomes) =
      Ta.taInvokeCommandEntryPoint primitives state (.requestInit outcomes adminKey) := by
  rw [Ta.invoke_initRepo primitives state rfl, Ta.invoke_initRepo primitives state rfl,
    received_adminKey]
  rfl

theorem initRepo_fits (adminKey : CString) (repId : UInt32) (block : Ta.AccessBlock)
    (outcomes : Ta.CallOutcomes) (index : Fin 4) :
    Ta.memrefNeed (Ta.Call.requestInit outcomes adminKey).params (.genesis repId block) index ≤
      ((initRepoInvocation locals adminKey).operation.params index).size := by
  match index with
  | 0 => exact Nat.le_refl (adminKey.length + 1)
  | 1 => exact Nat.zero_le 0
  | 2 => exact (by decide : Ta.sizeofAccessBlock ≤ sizeofAccessBlock)
  | 3 => exact Nat.zero_le 0

/-- What comes back in the buffer of the handler starts with the block. -/
theorem exists_returned_memory (adminKey : CString) (behind : Fin 4 → List UInt8)
    (stack : Region) (repId : UInt32) (block : Ta.AccessBlock) :
    ∃ rest, (((initRepoInvocation locals adminKey).returned behind stack
        (.genesis repId block)).params 2).memory =
      (Ta.Block.access block).returnedBytes stack ++ rest := by
  have size : ((Ta.Block.access block).returnedBytes stack).length = Ta.sizeofAccessBlock :=
    Region.length_read _ _ _
  have inside : ((Ta.Block.access block).returnedBytes stack).length ≤ sizeofAccessBlock := by
    rw [size]
    decide
  have stored : ∃ more, ((initRepoInvocation locals adminKey).returned behind stack
      (.genesis repId block)).params 2 = .memref
        (((Ta.Block.access block).returnedBytes stack ++ more).take sizeofAccessBlock ++
          (locals.genesisBlock.read 0 sizeofAccessBlock).drop sizeofAccessBlock)
        sizeofAccessBlock := ⟨_, rfl⟩
  rcases stored with ⟨more, stored⟩
  rw [stored]
  refine ⟨more.take (sizeofAccessBlock - ((Ta.Block.access block).returnedBytes stack).length) ++
    (locals.genesisBlock.read 0 sizeofAccessBlock).drop sizeofAccessBlock, ?_⟩
  rw [Ta.TeeParam.memory, List.take_append, List.take_of_length_le inside, List.append_assoc]

end Requests

/-- The service answers a creation with the block that comes back. -/
theorem respond_initRepo {jsonLoads : CString → Option Json} (locals : Locals)
    {primitives : Primitives} {store : Ta.KeyStore} (memory : SecureMemory) {calls : List Ta.Call}
    {body : CString} {root : Json} (loaded : jsonLoads body = some root)
    (isString : jsonIsString (jsonObjectGet root "admin_key") = true)
    {outcomes : Ta.CallOutcomes} {repId : UInt32} {block : Ta.AccessBlock}
    (created : (Ta.trustedApplication primitives store).answer
      ((Ta.trustedApplication primitives store).run calls)
      (.requestInit outcomes (jsonStringValue (jsonObjectGet root "admin_key"))) =
        .ok (.genesis repId block)) :
    ∃ rest, (respond primitives outcomes memory ((Ta.trustedApplication primitives store).run calls)
        (handle jsonLoads locals (.initRepo body))).1 =
      ⟨200, initRepoResponse repId
        ((Ta.Block.access block).returnedBytes memory.stack ++ rest)⟩ := by
  have answer := answer_initRepo locals primitives memory
    ((Ta.trustedApplication primitives store).run calls)
    (jsonStringValue (jsonObjectGet root "admin_key")) outcomes
  have isRequest : ¬ jsonIsString (jsonObjectGet root "admin_key") = false := by
    rw [isString]
    exact Bool.noConfusion
  rcases exists_returned_memory locals (jsonStringValue (jsonObjectGet root "admin_key"))
    memory.behind memory.stack repId block with ⟨rest, returned⟩
  refine ⟨rest, ?_⟩
  rw [handle, handleInitRepo, loaded]
  dsimp only
  rw [if_neg isRequest, respond_of_ok primitives memory _ outcomes _ _
    ((congrArg Prod.fst answer).trans created), ← returned]
  rfl

section Runs

variable (jsonLoads : CString → Option Json) (locals : Locals) (primitives : Primitives)
  (store : Ta.KeyStore) (memory : SecureMemory)

/-- Of the requests that stand for a command which would succeed, the service is
transparent for those to create a repository, and for no others. -/
theorem transparent_iff_init_repo (calls : List Ta.Call) (request : Request) (call : Ta.Call)
    (output : Ta.Output) (stands : StandsFor jsonLoads request call)
    (succeeds : (Ta.trustedApplication primitives store).answer
      ((Ta.trustedApplication primitives store).run calls) call = .ok output) :
    Transparent jsonLoads locals primitives memory
        ((Ta.trustedApplication primitives store).run calls) request call output ↔
      ∃ body, request = .initRepo body := by
  have kind := Ta.run_output_command primitives store succeeds
  constructor
  · rintro ⟨invocation, reply, handled, passes⟩
    have status := passes.status
    rw [← handled] at status
    cases request with
    | initRepo body => exact ⟨body, rfl⟩
    | commit body =>
        rcases respond_commit jsonLoads locals primitives memory
            ((Ta.trustedApplication primitives store).run calls) call.outcomes body with
          ⟨answer, same, isFailure⟩
        rw [same] at status
        change answer.status = 200 at status
        omega
    | latestHash repId =>
        rw [respond_latestHash] at status
        cases status
    | accessControl body =>
        rcases stands with ⟨root, outcomes, msg, parsed, complete, _, _, _, _, _, _, rfl⟩
        rw [handle, invoked_of_complete jsonLoads locals parsed complete] at handled
        cases handled
        rcases Ta.Output.exists_accessBlock kind with ⟨block, rfl⟩
        have fits := passes.memrefs 1
        have tooSmall := accessBlock_does_not_fit locals (.ofJson root)
          (Ta.Call.requestAccess outcomes msg).params block
        exact absurd fits (Nat.not_le_of_lt tooSmall)
  · rintro ⟨body, rfl⟩
    rcases stands with ⟨root, outcomes, parsed, isString, _, rfl⟩
    rcases Ta.Output.exists_genesis kind with ⟨repId, block, rfl⟩
    have handled : ∃ reply, handle jsonLoads locals (.initRepo body) =
        .invoked (initRepoInvocation locals (jsonStringValue (jsonObjectGet root "admin_key")))
          reply := by
      rw [handle, handleInitRepo, parsed]
      exact ⟨_, if_neg (by rw [isString]; exact Bool.noConfusion)⟩
    rcases handled with ⟨reply, handled⟩
    have answer := answer_initRepo locals primitives memory
      ((Ta.trustedApplication primitives store).run calls)
      (jsonStringValue (jsonObjectGet root "admin_key")) outcomes
    rcases respond_initRepo locals memory parsed isString succeeds with ⟨rest, answered⟩
    rw [handled] at answered
    refine ⟨_, reply, handled, rfl, ?_, ?_, answer, ?_, congrArg Reply.status answered⟩
    · exact (by decide : teecParamTypes teecMemrefTempInput teecValueOutput teecMemrefTempOutput
        teecNone = Ta.expectedParamTypes Ta.cmdInitRepo)
    · exact initRepo_fits locals _ repId block outcomes
    · change Brings memory.stack (respond primitives outcomes memory _ (.invoked _ reply)).1 _
      rw [answered]
      exact ⟨rest, rfl⟩

end Runs

/-! A service in front of the application that has one repository. -/

def Sample.secureMemory : SecureMemory := ⟨fun _ => [], fun _ => 0⟩

def Sample.foundingBody : CString := .literal "\x7b\"admin_key\": \"a\"\x7d"

/-- A parser that knows this body. -/
def Sample.foundingLoads (body : CString) : Option Json :=
  if body = foundingBody then some ⟨[(.literal "admin_key", .string Ta.Sample.founder)]⟩ else none

def Sample.latestHashCall : Ta.Call := .requestLatestHash (Ta.Sample.outcomes 1) 0 12345

theorem latest_hash_not_shown :
    ∃ call output, StandsFor Sample.foundingLoads (.latestHash 0) call ∧
      Ta.Sample.application.answer (Ta.Sample.application.run [Ta.Sample.creation]) call =
        .ok output ∧
      ¬ Transparent Sample.foundingLoads Sample.locals Ta.Sample.primitives Sample.secureMemory
        (Ta.Sample.application.run [Ta.Sample.creation]) (.latestHash 0) call output := by
  have succeeds : (Ta.Sample.application.answer (Ta.Sample.application.run [Ta.Sample.creation])
      Sample.latestHashCall).isOk = true := by
    decide +kernel
  rcases Ta.exists_output_of_isOk succeeds with ⟨output, answered⟩
  refine ⟨Sample.latestHashCall, output, ⟨_, _, rfl⟩, answered, ?_⟩
  rintro ⟨invocation, reply, handled, passes⟩
  have status := passes.status
  rw [← handled, respond_latestHash] at status
  cases status

theorem second_founding_transparent :
    ∃ output, Transparent Sample.foundingLoads Sample.locals Ta.Sample.primitives
      Sample.secureMemory (Ta.Sample.application.run [Ta.Sample.creation])
      (.initRepo Sample.foundingBody) Ta.Sample.creation output := by
  have succeeds : (Ta.Sample.application.answer (Ta.Sample.application.run [Ta.Sample.creation])
      Ta.Sample.creation).isOk = true := by
    decide +kernel
  rcases Ta.exists_output_of_isOk succeeds with ⟨output, answered⟩
  have stands : StandsFor Sample.foundingLoads (.initRepo Sample.foundingBody)
      Ta.Sample.creation :=
    ⟨⟨[(.literal "admin_key", .string Ta.Sample.founder)]⟩, Ta.Sample.outcomes 0, if_pos rfl,
      by decide, by decide, rfl⟩
  exact ⟨output, (transparent_iff_init_repo Sample.foundingLoads Sample.locals
    Ta.Sample.primitives (some Ta.Sample.keyPair) Sample.secureMemory [Ta.Sample.creation]
    (.initRepo Sample.foundingBody) Ta.Sample.creation output stands answered).mpr ⟨_, rfl⟩⟩

end Host
end TrustChain

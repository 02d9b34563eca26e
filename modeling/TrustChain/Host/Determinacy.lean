import TrustChain.Host.ServiceEffects
import TrustChain.Ta.StackBytes

namespace TrustChain
namespace Host

open Library Tee

/-!
# What does not depend on memory that nobody has written

Both programs use memory that they have not initialised: the arrays of
`handle_http_request`, the message and the buffers of the handlers, the block of
the trusted application, and whatever lies behind the memory that is shared.
Some of it is handed over or handed back.  As long as a request has its two
words, and its texts end inside the fields that they are copied into, nothing
that is said or stored depends on any of it.
-/

/-! ## One request -/

/-- The texts of the request end inside the fields that they are copied into. -/
def Request.TextsEnd (jsonLoads : CString → Option Json) : Request → Prop
  | .initRepo body => ∀ root, jsonLoads body = some root →
      (jsonStringValue (jsonObjectGet root "admin_key")).length < Ta.maxKeyLength
  | .accessControl body => ∀ root, jsonLoads body = some root →
      (AccessRequest.ofJson root).signatureKey.length < maxKeyLength - 1 ∧
        (AccessRequest.ofJson root).signature.length < maxSignatureLength - 1
  | .commit _ | .latestHash _ => True

section Messages

variable (stack : Region) (request : AccessRequest) (behind : List UInt8)

/-- A text that ends in its field is found, whatever follows the message. -/
theorem stringAt_sentMessage {offset size : Nat} {text : CString}
    (inside : offset + size ≤ sizeofAccessControlMessage)
    (holds : HoldsText ((accessControlMessage stack request).read offset size) text) :
    Ta.stringAt (sentMessage stack request ++ behind) offset = text := by
  have parts : sizeofAccessControlMessage - offset =
      size + (sizeofAccessControlMessage - offset - size) := by omega
  have start : offset ≤ (sentMessage stack request).length := by
    rw [length_sentMessage]
    omega
  rw [Ta.stringAt, List.drop_append_of_le_length start, sentMessage,
    Region.drop_read _ _ (by omega), parts, Region.read_add, List.append_assoc]
  rw [Nat.zero_add]
  exact holds.ofMemory _

/-- A bounded copy holds a text that is shorter than its bound. -/
theorem holdsText_of_copied {field : List UInt8} {text : CString} {count : Nat} {last : UInt8}
    (copied : field = strncpyBytes text count ++ [last]) (ends : text.length < count) :
    HoldsText field text := by
  rw [copied]
  exact (holdsText_strncpyBytes_iff text count last).mpr (Or.inl ends)

end Messages

section Received

variable (locals : Locals) (request : AccessRequest) (behind : Fin 4 → List UInt8)
  (outcomes : Ta.CallOutcomes)

/-- The message that the trusted application reads. -/
def AccessRequest.received (request : AccessRequest) : Ta.AccessControlMessage where
  repId := narrow request.repoId
  op := operationCode request.operation
  role := roleCode request.role
  pubkey := request.publicKey.take (maxKeyLength - 1)
  sigkey := request.signatureKey
  signature := request.signature

theorem received_acMsg_eq (keyEnds : request.signatureKey.length < maxKeyLength - 1)
    (signatureEnds : request.signature.length < maxSignatureLength - 1) :
    ((accessControlInvocation locals request).call behind outcomes).params.acMsg =
      request.received := by
  have repId : ((accessControlInvocation locals request).call behind outcomes).params.acMsg.repId =
      narrow request.repoId := received_repId request behind outcomes
  have op := received_op locals request behind outcomes
  have role := received_role locals request behind outcomes
  have pubkey := received_pubkey locals request behind outcomes
  have sigkey : Ta.stringAt (sentMessage locals.acMsg request ++ behind 0) offsetSigkey =
      request.signatureKey :=
    stringAt_sentMessage _ _ _ (by decide)
      (holdsText_of_copied (read_sigkey locals.acMsg request) keyEnds)
  have signature : Ta.stringAt (sentMessage locals.acMsg request ++ behind 0) offsetSignature =
      request.signature :=
    stringAt_sentMessage _ _ _ (by decide)
      (holdsText_of_copied (read_signature locals.acMsg request) signatureEnds)
  rw [received_acMsg] at repId op role pubkey ⊢
  simp only [Ta.accessControlMessageAt, AccessRequest.received, Ta.AccessControlMessage.mk.injEq]
  exact ⟨repId, op, role, pubkey, sigkey, signature⟩

end Received

/-! ## The block that is shown -/

/-- All four bytes of the role are written before the block is handed back. -/
theorem returnedRole_congr (block : Ta.AccessBlock) (first second : Region) :
    ShownBlock.returnedRole block first = ShownBlock.returnedRole block second := by
  have same : (block.sealedAt first).read Ta.offsetRole 4 =
      (block.sealedAt second).read Ta.offsetRole 4 := by
    apply Region.read_congr
    intro index low high
    apply (Ta.Block.access block).overwrites_sealed.determined first second
    simp only [Ta.Block.written, Finset.coe_union, Finset.coe_Ico]
    exact Or.inl (Or.inl (Or.inr ⟨low, high⟩))
  rw [ShownBlock.returnedRole_eq, ShownBlock.returnedRole_eq, Region.readUInt32,
    Region.readUInt32, same]

/-- A genesis block is printed alike, whatever was in its memory before and
whatever follows it. -/
theorem initRepoResponse_congr {block : Ta.AccessBlock}
    (lengths : ShownBlock.GenesisLengths block) (repId : UInt32) (first second : Region)
    (rest otherRest : List UInt8) :
    initRepoResponse repId ((Ta.Block.access block).returnedBytes first ++ rest) =
      initRepoResponse repId ((Ta.Block.access block).returnedBytes second ++ otherRest) := by
  rw [initRepoResponse_eq, initRepoResponse_eq, ShownBlock.ofMemory_returned lengths,
    ShownBlock.ofMemory_returned lengths, returnedRole_congr block first second]

/-! ## Request and answer -/

section Requests

variable {jsonLoads : CString → Option Json} {first second : Locals} {request : Request}
variable {invocation other : Invocation} {reply otherReply : Option TeecOperation → Reply}

/-- Whatever its locals hold, a handler does the same but for what it hands over. -/
theorem handle_congr (jsonLoads : CString → Option Json) (first second : Locals)
    (request : Request) :
    (∃ answer, handle jsonLoads first request = .replied answer ∧
        handle jsonLoads second request = .replied answer) ∨
      ∃ invocation other reply, handle jsonLoads first request = .invoked invocation reply ∧
        handle jsonLoads second request = .invoked other reply := by
  cases request with
  | initRepo body =>
      simp only [handle, handleInitRepo]
      cases jsonLoads body with
      | none => exact Or.inl ⟨_, rfl, rfl⟩
      | some root =>
          dsimp only
          split_ifs
          · exact Or.inl ⟨_, rfl, rfl⟩
          · exact Or.inr ⟨_, _, _, rfl, rfl⟩
  | commit body =>
      simp only [handle]
      cases handleCommit jsonLoads body with
      | replied answer => exact Or.inl ⟨answer, rfl, rfl⟩
      | invoked invocation reply => exact Or.inr ⟨invocation, invocation, reply, rfl, rfl⟩
  | accessControl body =>
      simp only [handle, handleAccessControl]
      cases jsonLoads body with
      | none => exact Or.inl ⟨_, rfl, rfl⟩
      | some root =>
          dsimp only
          split_ifs
          · exact Or.inr ⟨_, _, _, rfl, rfl⟩
          · exact Or.inl ⟨_, rfl, rfl⟩
  | latestHash repoId => exact Or.inr ⟨_, _, _, rfl, rfl⟩

/-- The trusted application answers both operations alike. -/
theorem answer_congr (primitives : Primitives) (state : Ta.TaState) (outcomes : Ta.CallOutcomes)
    (memory otherMemory : SecureMemory) (ends : request.TextsEnd jsonLoads)
    (handsOver : HandsOver jsonLoads first request invocation reply)
    (otherHandsOver : HandsOver jsonLoads second request other otherReply) :
    Ta.taInvokeCommandEntryPoint primitives state (invocation.call memory.behind outcomes) =
      Ta.taInvokeCommandEntryPoint primitives state (other.call otherMemory.behind outcomes) := by
  cases handsOver with
  | founding body root adminKey _ parsed isKey _ _ =>
      cases otherHandsOver with
      | founding _ otherRoot otherKey _ otherParsed otherIsKey _ _ =>
          cases Option.some.inj (parsed.symm.trans otherParsed)
          cases JsonValue.string.inj (Option.some.inj (isKey.symm.trans otherIsKey))
          rw [answer_initRepo first primitives memory, answer_initRepo second primitives otherMemory]
  | committing body repoId pubkey branch =>
      cases otherHandsOver with
      | committing _ otherId otherKey otherBranch =>
          rw [Ta.refused_of_paramTypes primitives state _ (commit_paramTypes repoId pubkey branch),
            Ta.refused_of_paramTypes primitives state _
              (commit_paramTypes otherId otherKey otherBranch)]
  | updating body root parsed complete =>
      cases otherHandsOver with
      | updating _ otherRoot otherParsed _ =>
          cases Option.some.inj (parsed.symm.trans otherParsed)
          rcases ends root parsed with ⟨keyEnds, signatureEnds⟩
          rw [Ta.invoke_accessControl primitives state rfl,
            Ta.invoke_accessControl primitives state rfl,
            received_acMsg_eq first _ memory.behind outcomes keyEnds signatureEnds,
            received_acMsg_eq second _ otherMemory.behind outcomes keyEnds signatureEnds]
          rfl
  | querying repoId _ _ =>
      cases otherHandsOver with
      | querying _ _ _ =>
          rw [Ta.refused_of_paramTypes primitives state _ (latestHash_paramTypes first repoId),
            Ta.refused_of_paramTypes primitives state _ (latestHash_paramTypes second repoId)]

theorem HandsOver.cmdId (handsOver : HandsOver jsonLoads first request invocation reply) :
    invocation.cmdId = commandOf request := by
  cases handsOver with
  | founding _ _ _ _ _ _ _ _ => rfl
  | committing _ _ _ _ => rfl
  | updating _ _ _ _ => rfl
  | querying _ _ _ => rfl

/-- The lengths of a block that was just created for a key of this length. -/
theorem genesisLengths_of_signed {primitives : Primitives} {call : Ta.Call}
    {store after : Ta.KeyStore} {teeSig : CString}
    (signed : Ta.Signed primitives call.outcomes (Ta.accessDataBuffer call.genesis) store teeSig
      after)
    (ends : call.params.adminKey.length < Ta.maxKeyLength) :
    ShownBlock.GenesisLengths (call.genesis.withTeeSig teeSig) where
  parentHash := Ta.length_zeroHash
  op := rfl
  sigkey := ends
  signature := (by decide : (0 : Nat) < Ta.maxSignatureLength)
  teeSig := Ta.length_of_teeSignHash signed.signed
  pubkey := ends

/-- Two handlers return nothing of the result but whether there is one. -/
theorem replyTo_statusOnly (error : String) (invocation other : Invocation)
    (memory otherMemory : SecureMemory) (answer : TeeResult Ta.Output) :
    replyTo invocation (statusOnly error) memory answer =
      replyTo other (statusOnly error) otherMemory answer := by
  cases answer with
  | error code => rfl
  | ok output => rfl

/-- What is answered to the client is the same. -/
theorem replyTo_congr (primitives : Primitives) (state : Ta.TaState) (outcomes : Ta.CallOutcomes)
    (memory otherMemory : SecureMemory) (ends : request.TextsEnd jsonLoads)
    (handsOver : HandsOver jsonLoads first request invocation reply)
    (otherHandsOver : HandsOver jsonLoads second request other reply) :
    replyTo invocation reply memory (Ta.taInvokeCommandEntryPoint primitives state
        (invocation.call memory.behind outcomes)).1 =
      replyTo other reply otherMemory (Ta.taInvokeCommandEntryPoint primitives state
        (invocation.call memory.behind outcomes)).1 := by
  cases handsOver with
  | founding body root adminKey _ parsed isKey _ success =>
      cases otherHandsOver with
      | founding _ otherRoot otherKey _ otherParsed otherIsKey _ _ =>
          cases Option.some.inj (parsed.symm.trans otherParsed)
          cases JsonValue.string.inj (Option.some.inj (isKey.symm.trans otherIsKey))
          have keyEnds := ends root parsed
          rw [isKey] at keyEnds
          have received := received_adminKey first adminKey memory.behind outcomes
          rw [Ta.invoke_initRepo primitives state rfl]
          rcases Ta.initRepo_cases primitives state
              ((initRepoInvocation first adminKey).call memory.behind outcomes) rfl with
            ⟨_, teeSig, store, signed, created⟩ | ⟨_, code, after, store, _, refused⟩
          · rw [created]
            have block := genesisLengths_of_signed signed (by rw [received]; exact keyEnds)
            rcases exists_returned_memory first adminKey memory.behind memory.stack state.repoNum
              _ with ⟨rest, brought⟩
            rcases exists_returned_memory second adminKey otherMemory.behind otherMemory.stack
              state.repoNum _ with ⟨otherRest, otherBrought⟩
            simp only [replyTo, success]
            rw [brought, otherBrought]
            exact congrArg (Reply.mk 200) (initRepoResponse_congr block state.repoNum _ _ _ _)
          · rw [refused]
            rfl
  | committing body repoId pubkey branch =>
      cases otherHandsOver with
      | committing _ otherId otherKey otherBranch => exact replyTo_statusOnly _ _ _ _ _ _
  | updating body root parsed complete =>
      cases otherHandsOver with
      | updating _ otherRoot otherParsed _ => exact replyTo_statusOnly _ _ _ _ _ _
  | querying repoId _ _ =>
      rw [Ta.refused_of_paramTypes primitives state _ (latestHash_paramTypes first repoId)]
      rfl

end Requests

/-! ## What is received -/

section Receiving

variable (overflow : IntOverflow) (jsonLoads : CString → Option Json)

/-- A request with a method and a path, whose texts end inside their fields. -/
structure Received.Determined (received : Received) : Prop where
  words : ∃ method path, scanTwo isSpace received.request.bytes = (some method, some path)
  texts : ∀ request, Dispatches overflow received request → request.TextsEnd jsonLoads

variable {overflow} {jsonLoads}

/-- With both words there, nothing is left of what the arrays held. -/
theorem handleClient_of_words {received : Received} {method path : List UInt8}
    (scanned : scanTwo isSpace received.request.bytes = (some method, some path))
    (stale : RequestLocals) :
    handleClient overflow stale received =
      if overruns sizeofMethod (some method) ∨ overruns sizeofPath (some path) then .undefined
      else dispatch overflow (.ofMemory method) (.ofMemory path) (bodyOf received.request) := by
  simp only [handleClient, handleHttpRequest, scanned, held, Option.map_some, Option.getD_some]

theorem Received.Determined.handleClient_congr {received : Received}
    (determined : received.Determined overflow jsonLoads) (first second : RequestLocals) :
    handleClient overflow first received = handleClient overflow second received := by
  rcases determined.words with ⟨method, path, scanned⟩
  rw [handleClient_of_words scanned, handleClient_of_words scanned]

end Receiving

/-! ## Two services side by side -/

section Services

variable {Address : Type} [DecidableEq Address]
variable (overflow : IntOverflow) (jsonLoads : CString → Option Json)

/-- The same answers of the environment, with other contents of the memory that
nobody has written. -/
def StepOutcomes.withMemory (outcomes : StepOutcomes Address) (requestLocals : RequestLocals)
    (locals : Locals) (memory : SecureMemory) : StepOutcomes Address :=
  { outcomes with requestLocals := requestLocals, locals := locals, memory := memory }

/-- The same step, but for what that memory holds. -/
inductive Action.Alike : Action Address → Action Address → Prop
  | step (turn : Turn) (outcomes : StepOutcomes Address) (requestLocals : RequestLocals)
      (locals : Locals) (memory : SecureMemory)
      (determined : ∀ received, outcomes.received = some received →
        received.Determined overflow jsonLoads) :
      Alike ⟨turn, outcomes⟩
        ⟨turn, outcomes.withMemory requestLocals locals memory⟩

/-- Two threads that are at the same place; what they hand over may differ where
nobody has written. -/
inductive ThreadAt.Alike : Option (ThreadAt Address) → Option (ThreadAt Address) → Prop
  | same (thread : Option (ThreadAt Address))
      (notAsking : ∀ socketDesc descriptor invocation reply,
        thread ≠ some (.asking socketDesc descriptor invocation reply)) : Alike thread thread
  | asking (socketDesc : Address) (descriptor : Descriptor) (request : Request)
      (first second : Locals) (invocation other : Invocation)
      (reply : Option TeecOperation → Reply) (ends : request.TextsEnd jsonLoads)
      (handsOver : HandsOver jsonLoads first request invocation reply)
      (otherHandsOver : HandsOver jsonLoads second request other reply) :
      Alike (some (.asking socketDesc descriptor invocation reply))
        (some (.asking socketDesc descriptor other reply))

/-- The same service with other threads. -/
def Service.withThreads (service : Service Address)
    (threads : Nat → Option (ThreadAt Address)) : Service Address :=
  { service with threads := threads }

/-- Two services that differ in their threads only, and there only as threads do. -/
inductive Service.Alike : Service Address → Service Address → Prop
  | threads (service : Service Address) (threads : Nat → Option (ThreadAt Address))
      (alike : ∀ number, ThreadAt.Alike jsonLoads (service.threads number) (threads number)) :
      Alike service (service.withThreads threads)

/-- Two events that look the same from outside: of a command, its number and its
answer. -/
inductive ServiceEvent.LooksLike : ServiceEvent → ServiceEvent → Prop
  | same (event : ServiceEvent) : LooksLike event event
  | invoked (connection : Nat) (call other : Ta.Call) (answer : TeeResult Ta.Output)
      (cmdId : other.cmdId = call.cmdId) :
      LooksLike (.invoked connection call answer) (.invoked connection other answer)

/-- What two steps do that look the same. -/
structure StepsAlike (first second : Option ServiceEvent × Service Address) : Prop where
  event : Option.Rel ServiceEvent.LooksLike first.1 second.1
  service : Service.Alike jsonLoads first.2 second.2

variable {jsonLoads}

theorem looksLike_refl (event : Option ServiceEvent) :
    Option.Rel ServiceEvent.LooksLike event event := by
  cases event with
  | none => exact .none
  | some event => exact .some (.same event)

omit [DecidableEq Address] in
/-- The same event, and the same service but for the threads. -/
theorem stepsAlike_of_same (event : Option ServiceEvent) (service : Service Address)
    {threads : Nat → Option (ThreadAt Address)}
    (alike : ∀ number, ThreadAt.Alike jsonLoads (service.threads number) (threads number)) :
    StepsAlike jsonLoads (event, service) (event, service.withThreads threads) :=
  ⟨looksLike_refl event, .threads service threads alike⟩

omit [DecidableEq Address] in
/-- One thread of each service goes on. -/
theorem alike_update {first second : Nat → Option (ThreadAt Address)}
    (alike : ∀ number, ThreadAt.Alike jsonLoads (first number) (second number)) (number : Nat)
    {thread other : Option (ThreadAt Address)} (goesOn : ThreadAt.Alike jsonLoads thread other) :
    ∀ index, ThreadAt.Alike jsonLoads (Function.update first number thread index)
      (Function.update second number other index) := by
  intro index
  by_cases here : index = number
  · rw [here, Function.update_self, Function.update_self]
    exact goesOn
  · rw [Function.update_of_ne here, Function.update_of_ne here]
    exact alike index

/-! ### One step -/

section Fields

variable (service : Service Address) (threads : Nat → Option (ThreadAt Address))

omit [DecidableEq Address]

theorem StepOutcomes.received_withMemory (outcomes : StepOutcomes Address)
    (requestLocals : RequestLocals) (locals : Locals) (memory : SecureMemory) :
    (outcomes.withMemory requestLocals locals memory).received = outcomes.received := rfl

theorem Service.threads_withThreads : (service.withThreads threads).threads = threads := rfl

theorem Service.main_withThreads : (service.withThreads threads).main = service.main := rfl

theorem Service.sockets_withThreads :
    (service.withThreads threads).sockets = service.sockets := rfl

theorem Service.blocks_withThreads : (service.withThreads threads).blocks = service.blocks := rfl

theorem Service.fault_withThreads : (service.withThreads threads).fault = service.fault := rfl

theorem Service.session_withThreads :
    (service.withThreads threads).session = service.session := rfl

theorem Service.tee_withThreads : (service.withThreads threads).tee = service.tee := rfl

theorem Service.connectionAt_withThreads (descriptor : Descriptor) :
    (service.withThreads threads).connectionAt descriptor = service.connectionAt descriptor := rfl

theorem Service.connectionsAccepted_withThreads :
    (service.withThreads threads).connectionsAccepted = service.connectionsAccepted := rfl

end Fields

section Steps

variable (service : Service Address) {threads : Nat → Option (ThreadAt Address)}
variable (alike : ∀ number, ThreadAt.Alike jsonLoads (service.threads number) (threads number))
variable (outcomes : StepOutcomes Address) (requestLocals : RequestLocals) (locals : Locals)
variable (memory : SecureMemory)

include alike

omit [DecidableEq Address] in
theorem close_alike (descriptor : Descriptor) {first second : Service Address → Service Address}
    (next : ∀ sockets, Service.Alike jsonLoads (first (service.setSockets sockets))
      (second ((service.withThreads threads).setSockets sockets))) :
    StepsAlike jsonLoads (service.close descriptor first)
      ((service.withThreads threads).close descriptor second) := by
  unfold Service.close
  simp only [Service.sockets_withThreads]
  cases service.sockets.free descriptor with
  | none => exact stepsAlike_of_same none (service.fails .descriptor).2 alike
  | some sockets => exact ⟨looksLike_refl _, next sockets⟩

/-- `main` looks at nothing that is not initialised. -/
theorem stepMain_alike :
    StepsAlike jsonLoads (service.stepMain outcomes)
      ((service.withThreads threads).stepMain
        (outcomes.withMemory requestLocals locals memory)) := by
  change StepsAlike jsonLoads _ ((service.withThreads threads).stepMain outcomes)
  unfold Service.stepMain
  rw [Service.main_withThreads]
  cases service.main with
  | start =>
      dsimp only
      split_ifs
      · exact stepsAlike_of_same none { service.setMain .contextMade with context := true } alike
      · exact stepsAlike_of_same none (service.setMain (.exited 1)) alike
  | contextMade =>
      dsimp only
      split_ifs
      · exact stepsAlike_of_same none { service.setMain .connected with session := true } alike
      · exact stepsAlike_of_same none { service.setMain (.exited 1) with context := false } alike
  | connected =>
      simp only [Service.makeSocket, Service.sockets_withThreads]
      cases service.sockets.malloc outcomes.descriptor .listener with
      | none => exact stepsAlike_of_same none (service.setMain (.exited 1)) alike
      | some made =>
          exact stepsAlike_of_same none
            ((service.setSockets made.2).setMain (.socketMade made.1)) alike
  | socketMade listenSocket =>
      dsimp only
      split_ifs
      · exact stepsAlike_of_same none (service.setMain (.accepting listenSocket)) alike
      · exact stepsAlike_of_same none (service.setMain (.exited 1)) alike
  | accepting listenSocket =>
      simp only [Service.accept, Service.sockets_withThreads]
      cases service.sockets listenSocket with
      | none =>
          dsimp only
          exact stepsAlike_of_same none (service.fails .descriptor).2 alike
      | some socket =>
          cases socket with
          | connection number =>
              dsimp only
              exact stepsAlike_of_same none (service.fails .descriptor).2 alike
          | listener =>
              simp only [Service.connectionsAccepted_withThreads]
              cases service.sockets.malloc outcomes.descriptor
                  (.connection service.connectionsAccepted) with
              | none => exact stepsAlike_of_same none (service.setMain .leaving) alike
              | some made =>
                  exact stepsAlike_of_same (some (.accepted service.connectionsAccepted))
                    { (service.setSockets made.2).setMain (.accepted listenSocket made.1) with
                      connectionsAccepted := service.connectionsAccepted + 1 } alike
  | accepted listenSocket connectionSocket =>
      simp only [Service.storeSocket, Service.blocks_withThreads]
      cases service.blocks.malloc outcomes.block connectionSocket with
      | none =>
          exact stepsAlike_of_same none
            (service.setMain (.givingUp listenSocket connectionSocket)) alike
      | some made =>
          exact stepsAlike_of_same none ((service.setBlocks made.2).setMain
            (.stored listenSocket connectionSocket made.1)) alike
  | stored listenSocket connectionSocket newSocket =>
      simp only [Service.createThread, Service.blocks_withThreads]
      split_ifs
      · refine ⟨.none, .threads _ _ ?_⟩
        exact alike_update alike service.threadsCreated (.same _ (by simp))
      · cases service.blocks.free newSocket with
        | none => exact stepsAlike_of_same none (service.fails .memory).2 alike
        | some blocks =>
            exact stepsAlike_of_same none ((service.setBlocks blocks).setMain
              (.givingUp listenSocket connectionSocket)) alike
  | givingUp listenSocket connectionSocket =>
      dsimp only
      exact close_alike service alike connectionSocket fun sockets =>
        .threads ((service.setSockets sockets).setMain (.accepting listenSocket)) threads alike
  | leaving =>
      dsimp only
      exact stepsAlike_of_same none { service.setMain .sessionClosed with session := false } alike
  | sessionClosed =>
      dsimp only
      exact stepsAlike_of_same none { service.setMain (.exited 0) with context := false } alike
  | exited code =>
      dsimp only
      exact stepsAlike_of_same none service alike

omit [DecidableEq Address] in
/-- The thread is at another place, and at the same in both services. -/
theorem proceeds_alike (event : Option ServiceEvent) (number : Nat)
    {thread other : Option (ThreadAt Address)} (goesOn : ThreadAt.Alike jsonLoads thread other) :
    StepsAlike jsonLoads (event, service.setThread number thread)
      (event, (service.withThreads threads).setThread number other) :=
  ⟨looksLike_refl event, .threads (service.setThread number thread) _
    (alike_update alike number goesOn)⟩

omit alike [DecidableEq Address] in
/-- A request leads both threads to the same place. -/
theorem afterRequest_alike {received : Received} (determined : received.Determined overflow jsonLoads)
    (socketDesc : Address) (descriptor : Descriptor) :
    (Service.afterRequest overflow jsonLoads outcomes socketDesc descriptor received = none ∧
      Service.afterRequest overflow jsonLoads
        (outcomes.withMemory requestLocals locals memory)
        socketDesc descriptor received = none) ∨
    ∃ thread other,
      Service.afterRequest overflow jsonLoads outcomes socketDesc descriptor received =
        some thread ∧
      Service.afterRequest overflow jsonLoads
        (outcomes.withMemory requestLocals locals memory)
        socketDesc descriptor received = some other ∧
      ThreadAt.Alike jsonLoads (some thread) (some other) := by
  have parsed := determined.handleClient_congr outcomes.requestLocals requestLocals
  simp only [Service.afterRequest, StepOutcomes.withMemory]
  rw [← parsed]
  cases outcome : handleClient overflow outcomes.requestLocals received with
  | undefined => exact Or.inl ⟨rfl, rfl⟩
  | written response =>
      exact Or.inr ⟨_, _, rfl, rfl, .same _ (by simp)⟩
  | replied reply =>
      exact Or.inr ⟨_, _, rfl, rfl, .same _ (by simp)⟩
  | dispatched request =>
      rcases handle_congr jsonLoads outcomes.locals locals request with
        ⟨answer, handled, otherHandled⟩ | ⟨invocation, other, reply, handled, otherHandled⟩
      · simp only [handled, otherHandled]
        exact Or.inr ⟨_, _, rfl, rfl, .same _ (by simp)⟩
      · simp only [handled, otherHandled]
        exact Or.inr ⟨_, _, rfl, rfl, .asking socketDesc descriptor request _ _ _ _ reply
          (determined.texts request ⟨_, outcome⟩) (handsOver_of_invoked handled)
          (handsOver_of_invoked otherHandled)⟩

omit [DecidableEq Address] in
theorem receive_alike (number : Nat) (socketDesc : Address) (descriptor : Descriptor)
    (determined : ∀ received, outcomes.received = some received →
      received.Determined overflow jsonLoads) :
    StepsAlike jsonLoads
      (service.receive overflow jsonLoads number socketDesc descriptor outcomes)
      ((service.withThreads threads).receive overflow jsonLoads number socketDesc descriptor
        (outcomes.withMemory requestLocals locals memory)) := by
  unfold Service.receive
  rw [Service.sockets_withThreads, StepOutcomes.received_withMemory]
  cases service.sockets descriptor with
  | none => exact stepsAlike_of_same none (service.fails .descriptor).2 alike
  | some socket =>
      cases socket with
      | listener => exact stepsAlike_of_same none (service.fails .descriptor).2 alike
      | connection connection =>
          cases came : outcomes.received with
          | none =>
              dsimp only
              exact proceeds_alike service alike _ number (.same _ (by simp))
          | some received =>
              dsimp only
              rcases afterRequest_alike overflow outcomes requestLocals locals memory
                  (determined received came) socketDesc descriptor with
                ⟨fails, otherFails⟩ | ⟨thread, other, leads, otherLeads, goesOn⟩
              · simp only [fails, otherFails]
                exact stepsAlike_of_same none (service.fails .request).2 alike
              · simp only [leads, otherLeads]
                exact proceeds_alike service alike _ number goesOn

omit [DecidableEq Address] in
theorem invoke_alike (primitives : Primitives) (number : Nat) (socketDesc : Address)
    (descriptor : Descriptor) {request : Request} {first second : Locals}
    {invocation other : Invocation} {reply : Option TeecOperation → Reply}
    (ends : request.TextsEnd jsonLoads)
    (handsOver : HandsOver jsonLoads first request invocation reply)
    (otherHandsOver : HandsOver jsonLoads second request other reply) :
    StepsAlike jsonLoads
      (service.invoke primitives number socketDesc descriptor invocation reply outcomes)
      ((service.withThreads threads).invoke primitives number socketDesc descriptor other reply
        (outcomes.withMemory requestLocals locals memory)) := by
  have answers := answer_congr primitives service.tee outcomes.command outcomes.memory memory ends
    handsOver otherHandsOver
  have replies := replyTo_congr primitives service.tee outcomes.command outcomes.memory memory ends
    handsOver otherHandsOver
  have commands := otherHandsOver.cmdId.trans handsOver.cmdId.symm
  simp only [Service.invoke, respond_invoked, Service.session_withThreads,
    Service.tee_withThreads, Service.connectionAt_withThreads, StepOutcomes.withMemory]
  split_ifs
  · exact stepsAlike_of_same none (service.fails .session).2 alike
  · exact proceeds_alike service alike _ number (.same _ (by simp))
  · rw [answers] at replies ⊢
    rw [replies]
    refine ⟨.some (.invoked _ _ _ _ commands), ?_⟩
    exact .threads _ _ (alike_update alike number (.same _ (by simp)))

theorem stepThread_alike (primitives : Primitives) (number : Nat)
    (determined : ∀ received, outcomes.received = some received →
      received.Determined overflow jsonLoads) :
    StepsAlike jsonLoads (service.stepThread overflow jsonLoads primitives number outcomes)
      ((service.withThreads threads).stepThread overflow jsonLoads primitives number
        (outcomes.withMemory requestLocals locals memory)) := by
  have here := alike number
  unfold Service.stepThread
  rw [Service.threads_withThreads]
  generalize service.threads number = thread at here ⊢
  generalize threads number = other at here ⊢
  cases here with
  | asking socketDesc descriptor request first second invocation other reply ends handsOver
      otherHandsOver =>
      exact invoke_alike service alike outcomes requestLocals locals memory primitives number
        socketDesc descriptor ends handsOver otherHandsOver
  | same thread notAsking =>
      cases thread with
      | none => exact stepsAlike_of_same none service alike
      | some thread =>
          cases thread with
          | started socketDesc =>
              dsimp only
              rw [Service.blocks_withThreads]
              cases service.blocks socketDesc with
              | none => exact stepsAlike_of_same none (service.fails .memory).2 alike
              | some descriptor =>
                  exact proceeds_alike service alike none number (.same _ (by simp))
          | connected socketDesc descriptor =>
              exact receive_alike overflow service alike outcomes requestLocals locals memory number
                socketDesc descriptor determined
          | asking socketDesc descriptor invocation reply =>
              exact absurd rfl (notAsking socketDesc descriptor invocation reply)
          | writing socketDesc descriptor response =>
              simp only [Service.write, Service.sockets_withThreads]
              cases service.sockets descriptor with
              | none => exact stepsAlike_of_same none (service.fails .descriptor).2 alike
              | some socket =>
                  cases socket with
                  | listener => exact stepsAlike_of_same none (service.fails .descriptor).2 alike
                  | connection connection =>
                      exact proceeds_alike service alike _ number (.same _ (by simp))
          | closing socketDesc descriptor =>
              apply close_alike service alike descriptor
              intro sockets
              exact (proceeds_alike (service.setSockets sockets) alike none number
                (.same _ (by simp))).service
          | freeing socketDesc =>
              dsimp only
              rw [Service.blocks_withThreads]
              cases service.blocks.free socketDesc with
              | none => exact stepsAlike_of_same none (service.fails .memory).2 alike
              | some blocks =>
                  exact proceeds_alike (service.setBlocks blocks) alike none number
                    (.same _ (by simp))

end Steps

theorem step_alike (primitives : Primitives) {first second : Service Address}
    {action other : Action Address} (services : Service.Alike jsonLoads first second)
    (actions : Action.Alike overflow jsonLoads action other) :
    StepsAlike jsonLoads (first.step overflow jsonLoads primitives action)
      (second.step overflow jsonLoads primitives other) := by
  cases services with
  | threads threads alike =>
      cases actions with
      | step turn outcomes requestLocals locals memory determined =>
          unfold Service.step
          rw [Service.fault_withThreads, Service.main_withThreads]
          cases first.fault with
          | some fault => exact stepsAlike_of_same none first alike
          | none =>
              cases turn with
              | main =>
                  have next := stepMain_alike first alike outcomes requestLocals locals memory
                  cases first.main with
                  | exited code => exact stepsAlike_of_same none first alike
                  | _ => exact next
              | thread number =>
                  have next := stepThread_alike overflow first alike outcomes requestLocals locals
                    memory primitives number determined
                  cases first.main with
                  | exited code => exact stepsAlike_of_same none first alike
                  | _ => exact next

/-! ### Runs -/

variable (jsonLoads) (primitives : Primitives) (store : Ta.KeyStore)

theorem httpService_respects :
    (httpService Address overflow jsonLoads primitives store).Respects (Service.Alike jsonLoads)
      (Action.Alike overflow jsonLoads) (Option.Rel ServiceEvent.LooksLike) where
  atStart := .threads (initialService Address store) _ fun _ => .same none (by simp)
  step := fun _ _ _ _ services actions =>
    let next := step_alike overflow primitives services actions
    ⟨next.event, next.service⟩

/-- However the threads are interleaved, as long as each request has its two
words and its texts end inside the fields that they are copied into, nothing that
happens on a connection, nothing that the trusted application answers, and
nothing that it stores depends on memory that nobody has written. -/
theorem service_determined {actions others : List (Action Address)}
    (alike : List.Forall₂ (Action.Alike overflow jsonLoads) actions others) :
    List.Forall₂ (Option.Rel ServiceEvent.LooksLike)
        (((httpService Address overflow jsonLoads primitives store).log actions).map
          Machine.Event.output)
        (((httpService Address overflow jsonLoads primitives store).log others).map
          Machine.Event.output) ∧
      ((httpService Address overflow jsonLoads primitives store).run others).tee =
        ((httpService Address overflow jsonLoads primitives store).run actions).tee := by
  rcases (httpService_respects overflow jsonLoads primitives store).run _ alike with
    ⟨events, services⟩
  refine ⟨events, ?_⟩
  generalize (httpService Address overflow jsonLoads primitives store).run actions = first
    at services ⊢
  generalize (httpService Address overflow jsonLoads primitives store).run others = second
    at services ⊢
  cases services with
  | threads threads _ => rfl

end Services

/-! The two clients of the sample service, with other rubbish in all that memory. -/

namespace Sample

def scribble (action : Action Unit) : Action Unit where
  turn := action.turn
  outcomes := action.outcomes.withMemory ⟨.literal "GET", .literal "/"⟩
    ⟨fun _ => 255, fun _ => 255, fun _ => 255, fun _ => 255⟩ ⟨fun _ => [255], fun _ => 255⟩

/-- A request to one of the two paths, by its words and its texts. -/
theorem determined_of_path {received : Received} {path : CString} {make : CString → Request}
    (scanned : scanTwo isSpace received.request.bytes = (some methodPost.bytes, some path.bytes))
    (fits : overruns sizeofPath (some path.bytes) = false)
    (dispatches : ∀ body, dispatch (.throughLong 64) methodPost path body =
      .dispatched (make body))
    (texts : (make (bodyOf received.request)).TextsEnd serviceLoads) :
    received.Determined (.throughLong 64) serviceLoads := by
  refine ⟨⟨_, _, scanned⟩, ?_⟩
  rintro request ⟨stale, dispatched⟩
  have inside : ¬ (overruns sizeofMethod (some methodPost.bytes) = true ∨
      overruns sizeofPath (some path.bytes) = true) := by
    rw [fits]
    decide
  rw [handleClient_of_words scanned, if_neg inside, CString.ofMemory_bytes, CString.ofMemory_bytes,
    dispatches] at dispatched
  cases dispatched
  exact texts

theorem determined_foundingReceived :
    foundingReceived.Determined (.throughLong 64) serviceLoads := by
  apply determined_of_path (by decide +kernel : scanTwo isSpace foundingReceived.request.bytes =
    (some methodPost.bytes, some pathInitRepo.bytes)) (by decide +kernel) fun body => rfl
  intro root parsed
  have short : (serviceLoads (bodyOf foundingReceived.request)).all (fun root =>
      decide ((jsonStringValue (jsonObjectGet root "admin_key")).length < Ta.maxKeyLength)) =
        true := by
    decide +kernel
  rw [parsed] at short
  exact of_decide_eq_true short

theorem determined_writerReceived :
    writerReceived.Determined (.throughLong 64) serviceLoads := by
  apply determined_of_path (by decide +kernel : scanTwo isSpace writerReceived.request.bytes =
    (some methodPost.bytes, some pathAccessControl.bytes)) (by decide +kernel) fun body => rfl
  intro root parsed
  have short : (serviceLoads (bodyOf writerReceived.request)).all (fun root =>
      decide ((AccessRequest.ofJson root).signatureKey.length < maxKeyLength - 1 ∧
        (AccessRequest.ofJson root).signature.length < maxSignatureLength - 1)) = true := by
    decide +kernel
  rw [parsed] at short
  exact of_decide_eq_true short

theorem alike_scribble : List.Forall₂ (Action.Alike (.throughLong 64) serviceLoads) serviceActions
    (serviceActions.map scribble) := by
  rw [List.forall₂_map_right_iff, List.forall₂_same]
  intro action member
  have came : action.outcomes.received = some foundingReceived ∨
      action.outcomes.received = some writerReceived := by
    simp only [serviceActions, List.mem_append, List.mem_replicate] at member
    rcases member with (⟨_, rfl⟩ | ⟨_, rfl⟩ | ⟨_, rfl⟩) | ⟨_, rfl⟩ | ⟨_, rfl⟩
    · exact Or.inl rfl
    · exact Or.inl rfl
    · exact Or.inl rfl
    · exact Or.inr rfl
    · exact Or.inr rfl
  refine .step action.turn action.outcomes _ _ _ ?_
  intro received isReceived
  rcases came with founding | writer
  · cases Option.some.inj (founding.symm.trans isReceived)
    exact determined_foundingReceived
  · cases Option.some.inj (writer.symm.trans isReceived)
    exact determined_writerReceived

end Sample

theorem scribbled_service_same :
    List.Forall₂ (Option.Rel ServiceEvent.LooksLike)
        ((Sample.service.log Sample.serviceActions).map Machine.Event.output)
        ((Sample.service.log (Sample.serviceActions.map Sample.scribble)).map
          Machine.Event.output) ∧
      (Sample.service.run (Sample.serviceActions.map Sample.scribble)).tee =
        (Sample.service.run Sample.serviceActions).tee :=
  service_determined (.throughLong 64) Sample.serviceLoads Ta.Sample.primitives
    (some Ta.Sample.keyPair) Sample.alike_scribble

end Host
end TrustChain

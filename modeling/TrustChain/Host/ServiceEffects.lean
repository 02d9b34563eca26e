import TrustChain.Host.ServiceRuns
import TrustChain.Host.Transparency

namespace TrustChain
namespace Host

open Library Tee

/-!
# What the service does to the trusted application

Every command of a run was built by the handler of a request that came in before
on the same connection.  Two of the four handlers build a command that is always
refused, and one of the others never names the role of a writer.  What follows
for the repositories, and for the answers that clients get, holds in every run
as `Service` describes it; what over-long strings do to the memory of the trusted
application, and a block of 2132 bytes to what lies behind a buffer of 256, is not
described there.
-/

/-! ## What a request asks for -/

section Requests

variable (overflow : IntOverflow) (jsonLoads : CString → Option Json) (locals : Locals)

/-- The request that `handle_client` makes of what it has received, whatever its
arrays held before. -/
def Dispatches (received : Received) (request : Request) : Prop :=
  ∃ stale, handleClient overflow stale received = .dispatched request

/-- What each handler hands over, and what it does with the result. -/
inductive HandsOver : Request → Invocation → (Option TeecOperation → Reply) → Prop
  | founding (body : CString) (root : Json) (adminKey : CString)
      (reply : Option TeecOperation → Reply) (parsed : jsonLoads body = some root)
      (isKey : jsonObjectGet root "admin_key" = some (.string adminKey))
      (failure : (reply none).status = 500)
      (success : ∀ op, reply (some op) =
        ⟨200, initRepoResponse (op.params 1).valueA (op.params 2).memory⟩) :
      HandsOver (.initRepo body) (initRepoInvocation locals adminKey) reply
  | committing (body : CString) (repoId : UInt32) (pubkey branch : CString) :
      HandsOver (.commit body) (commitInvocation repoId pubkey branch)
        (statusOnly "\x7b\"error\":\"Failed to commit\"\x7d")
  | updating (body : CString) (root : Json) (parsed : jsonLoads body = some root)
      (complete : AccessRequest.Complete root) :
      HandsOver (.accessControl body) (accessControlInvocation locals (.ofJson root))
        (statusOnly "\x7b\"error\":\"Failed to perform access control\"\x7d")
  | querying (repoId : UInt32) (reply : Option TeecOperation → Reply)
      (failure : (reply none).status = 500) :
      HandsOver (.latestHash repoId) (latestHashInvocation locals repoId) reply

variable {jsonLoads} {locals} {request : Request} {invocation : Invocation}
variable {reply : Option TeecOperation → Reply}

theorem exists_string_of_isString {value : Option JsonValue} (isString : jsonIsString value = true) :
    value = some (.string (jsonStringValue value)) := by
  cases value with
  | none => cases isString
  | some value =>
      cases value with
      | string text => rfl
      | integer value => cases isString
      | other => cases isString

theorem handsOver_of_invoked (invoked : handle jsonLoads locals request = .invoked invocation reply) :
    HandsOver jsonLoads locals request invocation reply := by
  cases request with
  | initRepo body =>
      rw [handle, handleInitRepo] at invoked
      cases loaded : jsonLoads body with
      | none =>
          rw [loaded] at invoked
          cases invoked
      | some root =>
          rw [loaded] at invoked
          dsimp only at invoked
          split_ifs at invoked with isNone
          cases invoked
          exact .founding body root _ _ loaded
            (exists_string_of_isString (Bool.of_not_eq_false isNone)) rfl fun _ => rfl
  | commit body =>
      rcases handleCommit_cases jsonLoads body with
        ⟨answer, replied, _⟩ | ⟨repoId, pubkey, branch, handed⟩
      · rw [handle, replied] at invoked
        cases invoked
      · rw [handle, handed] at invoked
        cases invoked
        exact .committing body repoId pubkey branch
  | accessControl body =>
      rw [handle, handleAccessControl] at invoked
      cases loaded : jsonLoads body with
      | none =>
          rw [loaded] at invoked
          cases invoked
      | some root =>
          rw [loaded] at invoked
          dsimp only at invoked
          split_ifs at invoked with complete
          cases invoked
          exact .updating body root loaded complete
  | latestHash repoId =>
      cases invoked
      exact .querying repoId _ rfl

/-- A handler answers by itself only to refuse the request. -/
theorem status_of_replied {answer : Reply}
    (replied : handle jsonLoads locals request = .replied answer) : 400 ≤ answer.status := by
  cases request with
  | initRepo body =>
      rw [handle, handleInitRepo] at replied
      cases loaded : jsonLoads body with
      | none =>
          rw [loaded] at replied
          cases replied
          exact Nat.le_refl 400
      | some root =>
          rw [loaded] at replied
          dsimp only at replied
          split_ifs at replied
          cases replied
          exact Nat.le_refl 400
  | commit body =>
      rcases handleCommit_cases jsonLoads body with
        ⟨other, refused, status⟩ | ⟨repoId, pubkey, branch, handed⟩
      · rw [handle, refused] at replied
        cases replied
        exact Nat.le_of_eq status.symm
      · rw [handle, handed] at replied
        cases replied
  | accessControl body =>
      by_cases rejected : Rejected jsonLoads body
      · rcases replied_of_rejected jsonLoads locals rejected with ⟨other, refused, status⟩
        rw [handle, refused] at replied
        cases replied
        exact Nat.le_of_eq status.symm
      · simp only [Rejected, not_forall, not_not] at rejected
        rcases rejected with ⟨root, parsed, complete⟩
        rw [handle, invoked_of_complete jsonLoads locals parsed complete] at replied
        cases replied
  | latestHash repoId => cases replied

variable {overflow} {stale : RequestLocals} {received : Received}

/-- In front of the handlers a request is answered only if it is a preflight or
nothing that the service offers. -/
theorem dispatch_cases (method path body : CString) :
    (dispatch overflow method path body = .written preflightResponse) ∨
      (∃ answer, dispatch overflow method path body = .replied answer ∧ 400 ≤ answer.status) ∨
      dispatch overflow method path body = .undefined ∨
      ∃ request, dispatch overflow method path body = .dispatched request := by
  unfold dispatch
  split_ifs
  · exact Or.inl rfl
  · exact Or.inr (Or.inr (Or.inr ⟨_, rfl⟩))
  · exact Or.inr (Or.inr (Or.inr ⟨_, rfl⟩))
  · exact Or.inr (Or.inr (Or.inr ⟨_, rfl⟩))
  · exact Or.inr (Or.inl ⟨endpointNotFound, rfl, by decide⟩)
  · cases atoi overflow (path.bytes.drop 13) with
    | none => exact Or.inr (Or.inr (Or.inl rfl))
    | some repoId => exact Or.inr (Or.inr (Or.inr ⟨_, rfl⟩))
  · exact Or.inr (Or.inl ⟨endpointNotFound, rfl, by decide⟩)
  · exact Or.inr (Or.inl ⟨methodNotAllowed, rfl, by decide⟩)

theorem handleClient_cases (stale : RequestLocals) (received : Received) :
    (handleClient overflow stale received = .written preflightResponse) ∨
      (∃ answer, handleClient overflow stale received = .replied answer ∧ 400 ≤ answer.status) ∨
      handleClient overflow stale received = .undefined ∨
      ∃ request, handleClient overflow stale received = .dispatched request := by
  unfold handleClient handleHttpRequest
  dsimp only
  split_ifs
  · exact Or.inr (Or.inr (Or.inl rfl))
  · exact dispatch_cases _ _ _

/-- What is answered without a command is refused. -/
theorem status_of_handled_replied {answer : Reply}
    (handled : (handleClient overflow stale received).handled jsonLoads locals =
      some (.replied answer)) : 400 ≤ answer.status := by
  rcases handleClient_cases stale received with
    outcome | ⟨other, outcome, status⟩ | outcome | ⟨request, outcome⟩
  · rw [outcome] at handled
    cases handled
  · rw [outcome] at handled
    cases handled
    exact status
  · rw [outcome] at handled
    cases handled
  · rw [outcome] at handled
    exact status_of_replied (Option.some.inj handled)

theorem dispatches_of_invoked
    (handled : (handleClient overflow stale received).handled jsonLoads locals =
      some (.invoked invocation reply)) :
    ∃ request, Dispatches overflow received request ∧
      HandsOver jsonLoads locals request invocation reply := by
  rcases handleClient_cases stale received with
    outcome | ⟨other, outcome, _⟩ | outcome | ⟨request, outcome⟩
  · rw [outcome] at handled
    cases handled
  · rw [outcome] at handled
    cases handled
  · rw [outcome] at handled
    cases handled
  · refine ⟨request, ⟨stale, outcome⟩, ?_⟩
    rw [outcome] at handled
    exact handsOver_of_invoked (Option.some.inj handled)

end Requests

/-! ## What the trusted application is asked for -/

section Commands

variable {jsonLoads : CString → Option Json} {locals : Locals} {request : Request}
variable {invocation : Invocation} {reply : Option TeecOperation → Reply}

/-- The command that the handlers make of a request, with the number narrowed, the
operation and the role in the codes of the host, and the key cut: it need not be
what the client has asked for. -/
inductive TurnsInto (jsonLoads : CString → Option Json) : Request → Ta.Call → Prop
  | founding (body : CString) (root : Json) (call : Ta.Call) (parsed : jsonLoads body = some root)
      (isKey : jsonObjectGet root "admin_key" = some (.string call.params.adminKey))
      (isCommand : call.cmdId = Ta.cmdInitRepo) : TurnsInto jsonLoads (.initRepo body) call
  | updating (body : CString) (root : Json) (call : Ta.Call) (parsed : jsonLoads body = some root)
      (complete : AccessRequest.Complete root) (isCommand : call.cmdId = Ta.cmdAccessControl)
      (repId : call.params.acMsg.repId = narrow (AccessRequest.ofJson root).repoId)
      (op : call.params.acMsg.op = operationCode (AccessRequest.ofJson root).operation)
      (role : call.params.acMsg.role = roleCode (AccessRequest.ofJson root).role)
      (pubkey : call.params.acMsg.pubkey =
        (AccessRequest.ofJson root).publicKey.take (maxKeyLength - 1)) :
      TurnsInto jsonLoads (.accessControl body) call
  | inVain (request : Request) (call : Ta.Call)
      (other : call.paramTypes ≠ Ta.expectedParamTypes call.cmdId) : TurnsInto jsonLoads request call

theorem received_repId (request : AccessRequest) (behind : Fin 4 → List UInt8)
    (outcomes : Ta.CallOutcomes) :
    ((accessControlInvocation locals request).call behind outcomes).params.acMsg.repId =
      narrow request.repoId := by
  have sent : Ta.uint32At (sentMessage locals.acMsg request) Ta.offsetAcRepId =
      narrow request.repoId := by
    rw [uint32At_sentMessage locals.acMsg request (by decide)]
    exact (congrArg ofLittleEndian (read_repId locals.acMsg request)).trans
      (ofLittleEndian_littleEndian _)
  rw [received_acMsg, ← sent]
  apply uint32At_append
  rw [length_sentMessage]
  decide

theorem HandsOver.turnsInto (handsOver : HandsOver jsonLoads locals request invocation reply)
    (behind : Fin 4 → List UInt8) (outcomes : Ta.CallOutcomes) :
    TurnsInto jsonLoads request (invocation.call behind outcomes) := by
  cases handsOver with
  | founding body root adminKey _ parsed isKey =>
      refine .founding body root _ parsed ?_ rfl
      rw [received_adminKey, isKey]
  | committing body repoId pubkey branch =>
      exact .inVain _ _ (commit_paramTypes repoId pubkey branch)
  | updating body root parsed complete =>
      exact .updating body root _ parsed complete rfl (received_repId _ behind outcomes)
        (received_op locals _ behind outcomes) (received_role locals _ behind outcomes)
        (received_pubkey locals _ behind outcomes)
  | querying repoId => exact .inVain _ _ (latestHash_paramTypes locals repoId)

/-- The host has no code for the role of a writer. -/
theorem roleCode_ne_roleWriter (role : CString) : roleCode role ≠ Ta.roleWriter := by
  unfold roleCode
  split_ifs <;> decide

/-- Nor does any other request ask for it and get as far as the lists. -/
theorem TurnsInto.role_ne_roleWriter {call : Ta.Call} (asks : TurnsInto jsonLoads request call)
    {primitives : Primitives} {state : Ta.TaState} {repo : Ta.RepoMetadata}
    (accepted : call.AccessAccepted primitives state repo) :
    call.params.acMsg.role ≠ Ta.roleWriter := by
  cases asks with
  | founding body root call parsed isKey isCommand =>
      exact absurd (isCommand.symm.trans accepted.1) (by decide)
  | updating body root call parsed complete isCommand repId op role pubkey =>
      rw [role]
      exact roleCode_ne_roleWriter _
  | inVain request call other =>
      refine absurd ?_ other
      rw [accepted.1]
      exact accepted.2.types

end Commands

/-! ## Which request it was -/

section Origins

variable {overflow : IntOverflow} {jsonLoads : CString → Option Json} {connection : Nat}
variable {events : List ServiceEvent} {stage : Stage}

/-- A connection that is waited for has been accepted, and that is all. -/
theorem waiting_origin
    (path : Path (Proceeds overflow jsonLoads connection) .absent events .waiting) :
    events = [.accepted connection] := by
  cases path with
  | snoc path proceeds =>
      cases proceeds with
      | accepted =>
          cases path with
          | start => rfl
          | snoc path proceeds => cases proceeds

/-- A connection at which a command is due has brought the request for it. -/
theorem asking_origin {invocation : Invocation} {reply : Option TeecOperation → Reply}
    (path : Path (Proceeds overflow jsonLoads connection) .absent events
      (.asking invocation reply)) :
    ∃ received request locals, events = [.accepted connection, .received connection received] ∧
      Dispatches overflow received request ∧
      HandsOver jsonLoads locals request invocation reply := by
  cases path with
  | snoc path proceeds =>
      cases proceeds with
      | asked stale locals received _ _ outcome =>
          rcases dispatches_of_invoked outcome with ⟨request, dispatches, handsOver⟩
          rw [waiting_origin path]
          exact ⟨received, request, locals, rfl, dispatches, handsOver⟩

/-- Nothing but its closing comes after the end of a connection. -/
theorem after_finished
    (path : Path (Proceeds overflow jsonLoads connection) .finished events stage) :
    (events = [] ∧ stage = .finished) ∨ (events = [.closed connection] ∧ stage = .closed) := by
  induction path with
  | start => exact Or.inl ⟨rfl, rfl⟩
  | snoc path proceeds ih =>
      rcases ih with ⟨rfl, rfl⟩ | ⟨rfl, rfl⟩
      · cases proceeds with
        | closed => exact Or.inr ⟨rfl, rfl⟩
      · cases proceeds

theorem invoked_origin
    (path : Path (Proceeds overflow jsonLoads connection) .absent events stage)
    {call : Ta.Call} {answer : TeeResult Ta.Output}
    (member : ServiceEvent.invoked connection call answer ∈ events) :
    ∃ received request, ServiceEvent.received connection received ∈ events ∧
      Dispatches overflow received request ∧ TurnsInto jsonLoads request call := by
  rcases path.exists_step member with ⟨before, after, middle, next, rfl, reaches, proceeds, _⟩
  cases proceeds with
  | invoked invocation reply outcomes memory _ =>
      rcases asking_origin reaches with ⟨received, request, locals, rfl, dispatches, handsOver⟩
      exact ⟨received, request, by simp, dispatches, handsOver.turnsInto memory.behind outcomes⟩

end Origins

section Runs

variable {Address : Type} [DecidableEq Address] (overflow : IntOverflow)
variable (jsonLoads : CString → Option Json) (primitives : Primitives) (store : Ta.KeyStore)

/-- A request came in that is turned into this command. -/
def AskedFor (events : List ServiceEvent) (call : Ta.Call) : Prop :=
  ∃ connection received request, ServiceEvent.received connection received ∈ events ∧
    Dispatches overflow received request ∧ TurnsInto jsonLoads request call

variable (actions : List (Action Address))

theorem mem_conversation {event : ServiceEvent}
    (member : event ∈ (httpService Address overflow jsonLoads primitives store).emitted actions) :
    event ∈ (httpService Address overflow jsonLoads primitives store).conversation
      ServiceEvent.connection actions event.connection :=
  List.mem_filter.mpr ⟨member, decide_eq_true rfl⟩

/-- Every command of a run was made of a request. -/
theorem askedFor_of_call {call : Ta.Call} {answer : TeeResult Ta.Output}
    (member : (call, answer) ∈
      (httpService Address overflow jsonLoads primitives store).calls ServiceEvent.call actions) :
    AskedFor overflow jsonLoads
      ((httpService Address overflow jsonLoads primitives store).emitted actions) call := by
  rcases (httpService_interleaves Address overflow jsonLoads primitives store).run actions with
    ⟨stages, _, paths⟩
  rcases List.mem_filterMap.mp member with ⟨event, emitted, isCall⟩
  cases event with
  | invoked connection given result =>
      cases isCall
      rcases invoked_origin (paths connection)
          (mem_conversation overflow jsonLoads primitives store actions emitted) with
        ⟨received, request, brought, dispatches, asks⟩
      exact ⟨connection, received, request, (List.mem_filter.mp brought).1, dispatches, asks⟩
  | _ => cases isCall

/-! ## The repositories -/

/-- Somebody asked for a repository with this founder. -/
def FoundingRequested (events : List ServiceEvent) (founder : CString) : Prop :=
  ∃ connection received body root, ServiceEvent.received connection received ∈ events ∧
    Dispatches overflow received (.initRepo body) ∧ jsonLoads body = some root ∧
    jsonObjectGet root "admin_key" = some (.string founder)

/-- Somebody asked for the key to be added to the repository, in whatever role but
that of an admin, and this is the command that was made of it. -/
def GrantRequested (events : List ServiceEvent) (call : Ta.Call) (repId : Nat) (key : CString) :
    Prop :=
  ∃ connection received body root, ServiceEvent.received connection received ∈ events ∧
    Dispatches overflow received (.accessControl body) ∧
    TurnsInto jsonLoads (.accessControl body) call ∧ jsonLoads body = some root ∧
    (narrow (AccessRequest.ofJson root).repoId).toNat = repId ∧
    (AccessRequest.ofJson root).operation = .literal "ADD" ∧
    (AccessRequest.ofJson root).role ≠ .literal "ADMIN" ∧
    (AccessRequest.ofJson root).publicKey.take (maxKeyLength - 1) = key

variable {overflow} {jsonLoads} {primitives}

/-- What succeeds is the command of one of two handlers. -/
theorem TurnsInto.isCommand_of_ok {request : Request} {call : Ta.Call}
    (asks : TurnsInto jsonLoads request call) {state : Ta.TaState} {output : Ta.Output}
    (answered : (Ta.taInvokeCommandEntryPoint primitives state call).1 = .ok output) :
    call.cmdId = Ta.cmdInitRepo ∨ call.cmdId = Ta.cmdAccessControl := by
  cases asks with
  | founding body root call parsed isKey isCommand => exact Or.inl isCommand
  | updating body root call parsed complete isCommand => exact Or.inr isCommand
  | inVain request call other =>
      rw [Ta.refused_of_paramTypes primitives state call other] at answered
      cases answered

theorem AskedFor.founding {events : List ServiceEvent} {call : Ta.Call}
    (asked : AskedFor overflow jsonLoads events call) (isCommand : call.cmdId = Ta.cmdInitRepo)
    (types : call.paramTypes = Ta.expectedParamTypes Ta.cmdInitRepo) :
    FoundingRequested overflow jsonLoads events call.params.adminKey := by
  rcases asked with ⟨connection, received, request, brought, dispatches, asks⟩
  cases asks with
  | founding body root call parsed isKey _ =>
      exact ⟨connection, received, body, root, brought, dispatches, parsed, isKey⟩
  | updating body root call parsed complete other =>
      exact absurd (other.symm.trans isCommand) (by decide)
  | inVain request call other =>
      rw [isCommand] at other
      exact absurd types other

/-- A request that brings in an admin asked for another role. -/
theorem AskedFor.granting {events : List ServiceEvent} {call : Ta.Call}
    (asked : AskedFor overflow jsonLoads events call) {state : Ta.TaState} {repId : Nat}
    {key : CString} (brings : Ta.BringsIn primitives state call .admins repId key) :
    GrantRequested overflow jsonLoads events call repId key := by
  rcases asked with ⟨connection, received, request, brought, dispatches, asks⟩
  rcases brings with ⟨repo, accepted, named, isAdd, isAdmin, isKey⟩
  cases asks with
  | founding body root call parsed isKey isCommand =>
      exact absurd (isCommand.symm.trans accepted.1) (by decide)
  | updating body root call parsed complete isCommand repId op role pubkey =>
      refine ⟨connection, received, body, root, brought, dispatches,
        .updating body root call parsed complete isCommand repId op role pubkey, parsed, ?_, ?_, ?_,
        ?_⟩
      · rw [← repId]
        exact named
      · rw [op] at isAdd
        by_contra other
        rw [operationCode, if_neg other] at isAdd
        exact absurd isAdd (by decide)
      · intro same
        rw [role, roleCode, if_pos same] at isAdmin
        exact absurd isAdmin (by decide)
      · rw [← pubkey]
        exact isKey
  | inVain request call other =>
      refine absurd ?_ other
      rw [accepted.1]
      exact accepted.2.types

variable (overflow) (jsonLoads) (primitives)

theorem askedFor_of_split {earlier later : List Ta.Call} {call : Ta.Call}
    (split : ((httpService Address overflow jsonLoads primitives store).calls ServiceEvent.call
      actions).map Prod.fst = earlier ++ call :: later) :
    AskedFor overflow jsonLoads
      ((httpService Address overflow jsonLoads primitives store).emitted actions) call := by
  have member : call ∈ ((httpService Address overflow jsonLoads primitives store).calls
      ServiceEvent.call actions).map Prod.fst := by
    rw [split]
    exact List.mem_append_right _ List.mem_cons_self
  rcases List.mem_map.mp member with ⟨⟨same, answer⟩, isCall, rfl⟩
  exact askedFor_of_call overflow jsonLoads primitives store actions isCall

/-- However the threads are interleaved, as long as the strings of all commands fit
their arrays: no repository ever has a writer; the founder of a repository is the
key of a request to create one; and everybody else who is an admin was brought in
by a request that asked for another role, and that an admin of that moment had
signed as an addition of an admin. -/
theorem service_members {repId : Nat} {repo : Ta.RepoMetadata}
    (fits : ∀ call ∈ ((httpService Address overflow jsonLoads primitives store).calls
      ServiceEvent.call actions).map Prod.fst, call.StringsFit)
    (found : ((httpService Address overflow jsonLoads primitives store).run actions).tee.slot repId =
      some repo) :
    Ta.keysOf repo.writerKeys = [] ∧
      FoundingRequested overflow jsonLoads
        ((httpService Address overflow jsonLoads primitives store).emitted actions)
        repo.founderKey ∧
      ∀ key ∈ Ta.keysOf repo.adminKeys, key = repo.founderKey ∨
        ∃ earlier call later,
          ((httpService Address overflow jsonLoads primitives store).calls ServiceEvent.call
            actions).map Prod.fst = earlier ++ call :: later ∧
          Ta.AddedByAdmin primitives ((Ta.trustedApplication primitives store).run earlier) call
            .admins repId key ∧
          GrantRequested overflow jsonLoads
            ((httpService Address overflow jsonLoads primitives store).emitted actions) call repId
            key := by
  have reached := ((httpService_drives Address overflow jsonLoads primitives store).run actions).1
  rw [← reached] at found
  have founders := Ta.run_createdBy_iff primitives store found
  refine ⟨?_, ?_, ?_⟩
  · apply List.eq_nil_iff_forall_not_mem.mpr
    intro key member
    have listed : Ta.Listed .writers repId key ((Ta.trustedApplication primitives store).run _) :=
      ⟨repo, found, member⟩
    rcases Ta.listed_origin primitives store listed with
      ⟨impossible, _⟩ | ⟨earlier, call, later, split, _, accepted, _, _, isWriter, _⟩
    · cases impossible
    · rcases askedFor_of_split overflow jsonLoads primitives store actions split with
        ⟨_, _, request, _, _, asks⟩
      exact asks.role_ne_roleWriter accepted isWriter
  · rcases (founders repo.founderKey).mpr rfl with ⟨event, member, created, block, output, _, isKey⟩
    rcases (Ta.trustedApplication primitives store).mem_log member with
      ⟨earlier, call, ⟨later, split⟩, rfl⟩
    have split := split.symm.trans (List.append_assoc earlier [call] later)
    have asked := askedFor_of_split overflow jsonLoads primitives store actions split
    have isCommand := (Ta.run_output_command primitives store output).symm
    rw [← isKey]
    apply asked.founding isCommand
    by_contra other
    rw [← show call.cmdId = Ta.cmdInitRepo from isCommand] at other
    have refused := Ta.refused_of_paramTypes primitives
      ((Ta.trustedApplication primitives store).run earlier) call other
    have answer : (Ta.taInvokeCommandEntryPoint primitives
      ((Ta.trustedApplication primitives store).run earlier) call).1 = .ok (.genesis created block) :=
        output
    rw [refused] at answer
    cases answer
  · intro key member
    have listed : Ta.Listed .admins repId key ((Ta.trustedApplication primitives store).run _) :=
      ⟨repo, found, member⟩
    rcases Ta.listed_origin primitives store listed with
      ⟨_, created⟩ | ⟨earlier, call, later, split, brings⟩
    · exact Or.inl ((founders key).mp created)
    · have isFit : call.StringsFit := by
        apply fits
        rw [split]
        exact List.mem_append_right _ List.mem_cons_self
      exact Or.inr ⟨earlier, call, later, split, brings.addedByAdmin isFit,
        (askedFor_of_split overflow jsonLoads primitives store actions split).granting brings⟩

end Runs

/-! Two clients, one after the other: the founder creates a repository, and then
asks for the newcomer to become a writer. -/

namespace Sample

/-- A request with this body. -/
def postBytes (path : String) (body : CString) : List UInt8 :=
  (CString.literal "POST /" ++ .literal path ++ .literal " HTTP/1.1\r\n\r\n" ++ body).bytes

def foundingReceived : Received where
  bytes := postBytes "init-repo" foundingBody
  nonempty := by decide +kernel
  fits := by decide +kernel

def writerReceived : Received where
  bytes := postBytes "access-control" writerBody
  nonempty := by decide +kernel
  fits := by decide +kernel

/-- A parser that knows both bodies. -/
def serviceLoads (body : CString) : Option Json :=
  if body = writerBody then some writerRoot else foundingLoads body

def stepOutcomes (descriptor : Descriptor) (received : Received) (seconds : UInt32) :
    StepOutcomes Unit where
  contextMade := true
  sessionOpened := true
  descriptor := some descriptor
  bound := true
  listening := true
  block := some ()
  threadCreated := true
  received := some received
  requestLocals := clean
  locals := locals
  delivered := true
  command := Ta.Sample.outcomes seconds
  memory := secureMemory

/-- Four steps until `main` waits for a connection, then three of `main` and six of
the thread for each of the two. -/
def serviceActions : List (Action Unit) :=
  List.replicate 4 ⟨.main, stepOutcomes 0 foundingReceived 0⟩ ++
    (List.replicate 3 ⟨.main, stepOutcomes 1 foundingReceived 0⟩ ++
      List.replicate 6 ⟨.thread 0, stepOutcomes 1 foundingReceived 0⟩) ++
    (List.replicate 3 ⟨.main, stepOutcomes 1 writerReceived 1⟩ ++
      List.replicate 6 ⟨.thread 1, stepOutcomes 1 writerReceived 1⟩)

def service : Machine (Service Unit) (Action Unit) (Option ServiceEvent) :=
  httpService Unit (.throughLong 64) serviceLoads Ta.Sample.primitives (some Ta.Sample.keyPair)

end Sample

theorem writer_request_served :
    ∃ repo, (Sample.service.run Sample.serviceActions).tee.slot 0 = some repo ∧
      Ta.keysOf repo.writerKeys = [] ∧
      Ta.keysOf repo.adminKeys = [Ta.Sample.newcomer, Ta.Sample.founder] ∧
      ∃ call, GrantRequested (.throughLong 64) Sample.serviceLoads
        (Sample.service.emitted Sample.serviceActions) call 0 Ta.Sample.newcomer := by
  have reached : ((Sample.service.run Sample.serviceActions).tee.slot 0).map
      (fun repo => (Ta.keysOf repo.adminKeys, repo.founderKey)) =
        some ([Ta.Sample.newcomer, Ta.Sample.founder], Ta.Sample.founder) := by
    decide +kernel
  rcases Option.map_eq_some_iff.mp reached with ⟨repo, found, keys⟩
  rcases Prod.mk.inj keys with ⟨admins, founder⟩
  have fits : ∀ call ∈ (Sample.service.calls ServiceEvent.call Sample.serviceActions).map Prod.fst,
      call.StringsFit := by
    decide +kernel
  have members := service_members (.throughLong 64) Sample.serviceLoads Ta.Sample.primitives
    (some Ta.Sample.keyPair) Sample.serviceActions fits found
  refine ⟨repo, found, members.1, admins, ?_⟩
  rcases members.2.2 Ta.Sample.newcomer (by rw [admins]; exact List.mem_cons_self) with
    isFounder | ⟨_, call, _, _, _, granted⟩
  · rw [founder] at isFounder
    exact absurd isFounder (by decide)
  · exact ⟨call, granted⟩

/-! ## The answers -/

section Answers

variable {overflow : IntOverflow} {jsonLoads : CString → Option Json} {primitives : Primitives}
variable (store : Ta.KeyStore)

/-- What happens on a connection between its request and the answer.  Status 200
is given to a preflight, and otherwise only if the request was turned into a
command to create a repository or to change its lists and the trusted application
has answered this command with a block. -/
inductive Exchange (overflow : IntOverflow) (jsonLoads : CString → Option Json)
    (connection : Nat) (received : Received) : List ServiceEvent → CString → Prop
  | preflight : Exchange overflow jsonLoads connection received [] preflightResponse
  | refused (reply : Reply) (status : 400 ≤ reply.status) :
      Exchange overflow jsonLoads connection received [] (sendJsonResponse reply)
  | undelivered (request : Request) (reply : Reply)
      (dispatches : Dispatches overflow received request) (status : reply.status = 500) :
      Exchange overflow jsonLoads connection received [.undelivered connection]
        (sendJsonResponse reply)
  | failed (request : Request) (call : Ta.Call) (code : TeeError) (reply : Reply)
      (dispatches : Dispatches overflow received request) (asks : TurnsInto jsonLoads request call)
      (status : reply.status = 500) :
      Exchange overflow jsonLoads connection received [.invoked connection call (.error code)]
        (sendJsonResponse reply)
  | founded (body : CString) (call : Ta.Call) (repId : UInt32) (block : Ta.AccessBlock)
      (genesisBlock : List UInt8) (dispatches : Dispatches overflow received (.initRepo body))
      (asks : TurnsInto jsonLoads (.initRepo body) call) :
      Exchange overflow jsonLoads connection received
        [.invoked connection call (.ok (.genesis repId block))]
        (sendJsonResponse ⟨200, initRepoResponse repId genesisBlock⟩)
  | updated (body : CString) (call : Ta.Call) (block : Ta.AccessBlock)
      (dispatches : Dispatches overflow received (.accessControl body))
      (asks : TurnsInto jsonLoads (.accessControl body) call) :
      Exchange overflow jsonLoads connection received
        [.invoked connection call (.ok (.accessBlock block))]
        (sendJsonResponse ⟨200, .literal "\x7b\"status\":\"success\"\x7d"⟩)

theorem HandsOver.status_none {locals : Locals} {request : Request} {invocation : Invocation}
    {reply : Option TeecOperation → Reply}
    (handsOver : HandsOver jsonLoads locals request invocation reply) :
    (reply none).status = 500 := by
  cases handsOver with
  | founding body root adminKey reply parsed isKey failure => exact failure
  | committing body repoId pubkey branch => rfl
  | updating body root parsed complete => rfl
  | querying repoId reply failure => exact failure

/-- What is answered after a command. -/
theorem HandsOver.exchange {locals : Locals} {request : Request} {invocation : Invocation}
    {reply : Option TeecOperation → Reply} {connection : Nat} {received : Received}
    {outcomes : Ta.CallOutcomes} {memory : SecureMemory} {answer : TeeResult Ta.Output}
    (handsOver : HandsOver jsonLoads locals request invocation reply)
    (dispatches : Dispatches overflow received request) {earlier : List Ta.Call}
    (answered : (Ta.trustedApplication primitives store).answer
      ((Ta.trustedApplication primitives store).run earlier)
      (invocation.call memory.behind outcomes) = answer) :
    Exchange overflow jsonLoads connection received
      [.invoked connection (invocation.call memory.behind outcomes) answer]
      (sendJsonResponse (replyTo invocation reply memory answer)) := by
  have asks := handsOver.turnsInto memory.behind outcomes
  cases answer with
  | error code => exact .failed request _ code _ dispatches asks handsOver.status_none
  | ok output =>
      have kind := Ta.run_output_command primitives store answered
      have served : (Ta.taInvokeCommandEntryPoint primitives
        ((Ta.trustedApplication primitives store).run earlier)
        (invocation.call memory.behind outcomes)).1 = .ok output := answered
      cases handsOver with
      | founding body root adminKey reply parsed isKey failure success =>
          rcases Ta.Output.exists_genesis kind with ⟨repId, block, rfl⟩
          rw [replyTo, success]
          exact .founded body _ repId block _ dispatches asks
      | updating body root parsed complete =>
          rcases Ta.Output.exists_accessBlock kind with ⟨block, rfl⟩
          exact .updated body _ block dispatches asks
      | committing body repoId pubkey branch =>
          rcases asks.isCommand_of_ok served with impossible | impossible
          · exact absurd impossible (by decide : Ta.cmdCommit ≠ Ta.cmdInitRepo)
          · exact absurd impossible (by decide : Ta.cmdCommit ≠ Ta.cmdAccessControl)
      | querying repoId reply failure =>
          rcases asks.isCommand_of_ok served with impossible | impossible
          · exact absurd impossible (by decide : Ta.cmdGetLatestHash ≠ Ta.cmdInitRepo)
          · exact absurd impossible (by decide : Ta.cmdGetLatestHash ≠ Ta.cmdAccessControl)

variable {Address : Type} [DecidableEq Address]
variable (overflow) (jsonLoads) (primitives) (actions : List (Action Address))

/-- Every answer of a run is given in one of the exchanges, and its connection has
seen nothing else. -/
theorem service_answers {connection : Nat} {response : CString}
    (answered : ServiceEvent.answered connection response ∈
      (httpService Address overflow jsonLoads primitives store).emitted actions) :
    ∃ received between rest,
      (httpService Address overflow jsonLoads primitives store).conversation
          ServiceEvent.connection actions connection =
        .accepted connection :: .received connection received ::
          (between ++ .answered connection response :: rest) ∧
      Exchange overflow jsonLoads connection received between response ∧
      (rest = [] ∨ rest = [.closed connection]) := by
  rcases (httpService_interleaves Address overflow jsonLoads primitives store).run actions with
    ⟨stages, _, paths⟩
  have inside : ServiceEvent.answered connection response ∈
      (httpService Address overflow jsonLoads primitives store).conversation
        ServiceEvent.connection actions connection :=
    mem_conversation overflow jsonLoads primitives store actions answered
  have wasGiven : ∀ call answer, ServiceEvent.invoked connection call answer ∈
      (httpService Address overflow jsonLoads primitives store).conversation
        ServiceEvent.connection actions connection →
      ∃ earlier, (Ta.trustedApplication primitives store).answer
        ((Ta.trustedApplication primitives store).run earlier) call = answer := by
    intro call answer member
    have isCall := List.mem_filterMap.mpr
      ⟨_, (List.mem_filter.mp member).1, (rfl : ServiceEvent.call (.invoked connection call answer) =
        some (call, answer))⟩
    rcases (httpService_drives Address overflow jsonLoads primitives store).mem_calls isCall with
      ⟨earlier, _, _, given⟩
    exact ⟨earlier, given⟩
  rcases (paths connection).exists_step inside with
    ⟨before, after, middle, next, split, reaches, proceeds, leads⟩
  rw [split] at wasGiven ⊢
  cases proceeds with
  | answered _ =>
      have rest : after = [] ∨ after = [.closed connection] := by
        rcases after_finished leads with ⟨nothing, _⟩ | ⟨closed, _⟩
        · exact Or.inl nothing
        · exact Or.inr closed
      cases reaches with
      | snoc path proceeds =>
          cases proceeds with
          | written stale received _ outcome =>
              rw [waiting_origin path]
              refine ⟨received, [], after, rfl, ?_, rest⟩
              rcases handleClient_cases stale received with
                same | ⟨_, same, _⟩ | same | ⟨_, same⟩ <;> rw [same] at outcome <;> cases outcome
              exact .preflight
          | replied stale locals received reply outcome =>
              rw [waiting_origin path]
              exact ⟨received, [], after, rfl, .refused reply (status_of_handled_replied outcome),
                rest⟩
          | undelivered invocation reply =>
              rcases asking_origin path with ⟨received, request, locals, same, dispatches, handsOver⟩
              rw [same]
              exact ⟨received, _, after, rfl,
                .undelivered request _ dispatches handsOver.status_none, rest⟩
          | invoked invocation reply outcomes memory answer =>
              rcases asking_origin path with ⟨received, request, locals, same, dispatches, handsOver⟩
              rcases wasGiven (invocation.call memory.behind outcomes) answer (by simp) with
                ⟨earlier, given⟩
              rw [same]
              exact ⟨received, _, after, rfl, handsOver.exchange store dispatches given, rest⟩

end Answers

theorem writer_request_answered :
    ∃ response received between rest,
      Sample.service.conversation ServiceEvent.connection Sample.serviceActions 1 =
        .accepted 1 :: .received 1 received :: (between ++ .answered 1 response :: rest) ∧
      Exchange (.throughLong 64) Sample.serviceLoads 1 received between response := by
  have answers : ((Sample.service.emitted Sample.serviceActions).filter
      ServiceEvent.isAnswered).map ServiceEvent.connection = [0, 1] := by
    decide +kernel
  have second : 1 ∈ ((Sample.service.emitted Sample.serviceActions).filter
      ServiceEvent.isAnswered).map ServiceEvent.connection := by
    rw [answers]
    decide
  rcases List.mem_map.mp second with ⟨event, member, isSecond⟩
  rcases List.mem_filter.mp member with ⟨emitted, isAnswered⟩
  cases event with
  | answered connection response =>
      cases isSecond
      rcases service_answers (.throughLong 64) Sample.serviceLoads Ta.Sample.primitives
        (some Ta.Sample.keyPair) Sample.serviceActions emitted with
        ⟨received, between, rest, conversation, exchange, _⟩
      exact ⟨response, received, between, rest, conversation, exchange⟩
  | _ => cases isAnswered

end Host
end TrustChain

import TrustChain.Host.Main
import TrustChain.Ta.Resending

namespace TrustChain
namespace Host

open Library Tee

/-!
# The access-control message

The two programs agree on the layout of the message and on the codes of the
operations, but not on the codes of the roles: the host writes 0 and 1 where the
trusted application expects 1 and 2.  The copies are bounded, and only the first
of the three fields is terminated after its copy.
-/

/-! ## A message that says what the request says -/

/-- The text names the operation under the constants of the trusted application. -/
def MeansOperation (operation : CString) (code : UInt32) : Prop :=
  (operation = .literal "ADD" ∧ code = Ta.opAdd) ∨
    (operation = .literal "DELETE" ∧ code = Ta.opDelete)

/-- The text names the role under the constants of the trusted application. -/
def MeansRole (role : CString) (code : UInt32) : Prop :=
  (role = .literal "ADMIN" ∧ code = Ta.roleAdmin) ∨
    (role = .literal "WRITER" ∧ code = Ta.roleWriter)

/-- A field of the message as the trusted application lays it out. -/
def field (message : List UInt8) (offset size : Nat) : List UInt8 :=
  (message.drop offset).take size

def RightRepId (request : AccessRequest) (message : List UInt8) : Prop :=
  ((Ta.uint32At message Ta.offsetAcRepId).toNat : Int) = request.repoId.toInt

def RightOp (request : AccessRequest) (message : List UInt8) : Prop :=
  MeansOperation request.operation (Ta.uint32At message Ta.offsetAcOp)

def RightRole (request : AccessRequest) (message : List UInt8) : Prop :=
  MeansRole request.role (Ta.uint32At message Ta.offsetAcRole)

def RightPubkey (request : AccessRequest) (message : List UInt8) : Prop :=
  HoldsText (field message Ta.offsetAcPubkey Ta.maxKeyLength) request.publicKey

def RightSigkey (request : AccessRequest) (message : List UInt8) : Prop :=
  HoldsText (field message Ta.offsetAcSigkey Ta.maxKeyLength) request.signatureKey

def RightSignature (request : AccessRequest) (message : List UInt8) : Prop :=
  HoldsText (field message Ta.offsetAcSignature Ta.maxSignatureLength) request.signature

structure FaithfulMessage (request : AccessRequest) (message : List UInt8) : Prop where
  repId : RightRepId request message
  op : RightOp request message
  role : RightRole request message
  pubkey : RightPubkey request message
  sigkey : RightSigkey request message
  signature : RightSignature request message

/-- Whenever a message is sent, it says what the request says. -/
def FaithfulTranslation (jsonLoads : CString → Option Json) (locals : Locals) (body : CString) :
    Prop :=
  ∀ invocation reply, handleAccessControl jsonLoads locals body = .invoked invocation reply →
    ∃ root, jsonLoads body = some root ∧
      FaithfulMessage (.ofJson root) (invocation.operation.params 0).memory

/-! ## The fields as they are laid out -/

section Layout

variable (stack : Region) (request : AccessRequest)

theorem read_repId : (accessControlMessage stack request).read offsetRepId 4 =
    littleEndian (narrow request.repoId) := by
  simp (disch := decide) only [accessControlMessage, Region.read_write_apart,
    Region.read_strncpy_apart, Region.read_writeUInt32_apart, Region.read_writeUInt32_self]

theorem read_op : (accessControlMessage stack request).read offsetOp 4 =
    littleEndian (operationCode request.operation) := by
  simp (disch := decide) only [accessControlMessage, Region.read_write_apart,
    Region.read_strncpy_apart, Region.read_writeUInt32_apart, Region.read_writeUInt32_self]

theorem read_role : (accessControlMessage stack request).read offsetRole 4 =
    littleEndian (roleCode request.role) := by
  simp (disch := decide) only [accessControlMessage, Region.read_write_apart,
    Region.read_strncpy_apart, Region.read_writeUInt32_self]

theorem read_pubkey : (accessControlMessage stack request).read offsetPubkey maxKeyLength =
    strncpyBytes request.publicKey (maxKeyLength - 1) ++ [0] := by
  have copied : (accessControlMessage stack request).read offsetPubkey (maxKeyLength - 1) =
      strncpyBytes request.publicKey (maxKeyLength - 1) := by
    simp (disch := decide) only [accessControlMessage, Region.read_write_apart,
      Region.read_strncpy_apart, Region.read_strncpy_self]
  have last : (accessControlMessage stack request).read (offsetPubkey + (maxKeyLength - 1)) 1 =
      [0] := Region.read_write_self _ (offsetPubkey + (maxKeyLength - 1)) [0]
  exact Region.read_snoc copied last

theorem read_sigkey : (accessControlMessage stack request).read offsetSigkey maxKeyLength =
    strncpyBytes request.signatureKey (maxKeyLength - 1) ++
      [stack (offsetSigkey + (maxKeyLength - 1))] := by
  have copied : (accessControlMessage stack request).read offsetSigkey (maxKeyLength - 1) =
      strncpyBytes request.signatureKey (maxKeyLength - 1) := by
    simp (disch := decide) only [accessControlMessage, Region.read_write_apart,
      Region.read_strncpy_apart, Region.read_strncpy_self]
  have last : (accessControlMessage stack request).read (offsetSigkey + (maxKeyLength - 1)) 1 =
      stack.read (offsetSigkey + (maxKeyLength - 1)) 1 := by
    simp (disch := decide) only [accessControlMessage, Region.read_write_apart,
      Region.read_strncpy_apart, Region.read_writeUInt32_apart]
  exact Region.read_snoc copied last

theorem read_signature :
    (accessControlMessage stack request).read offsetSignature maxSignatureLength =
      strncpyBytes request.signature (maxSignatureLength - 1) ++
        [stack (offsetSignature + (maxSignatureLength - 1))] := by
  have copied : (accessControlMessage stack request).read offsetSignature
      (maxSignatureLength - 1) = strncpyBytes request.signature (maxSignatureLength - 1) := by
    simp (disch := decide) only [accessControlMessage, Region.read_write_apart,
      Region.read_strncpy_self]
  have last : (accessControlMessage stack request).read
      (offsetSignature + (maxSignatureLength - 1)) 1 =
        stack.read (offsetSignature + (maxSignatureLength - 1)) 1 := by
    simp (disch := decide) only [accessControlMessage, Region.read_write_apart,
      Region.read_strncpy_apart, Region.read_writeUInt32_apart]
  exact Region.read_snoc copied last

/-- The message as it is sent. -/
def sentMessage : List UInt8 :=
  (accessControlMessage stack request).read 0 sizeofAccessControlMessage

theorem field_sentMessage {offset size : Nat} (inside : offset + size ≤ sizeofAccessControlMessage) :
    field (sentMessage stack request) offset size =
      (accessControlMessage stack request).read offset size := by
  rw [field, sentMessage, Region.drop_read _ _ (by omega), Region.take_read _ _ (by omega),
    Nat.zero_add]

theorem uint32At_sentMessage {offset : Nat} (inside : offset + 4 ≤ sizeofAccessControlMessage) :
    Ta.uint32At (sentMessage stack request) offset =
      ofLittleEndian ((accessControlMessage stack request).read offset 4) :=
  congrArg ofLittleEndian (field_sentMessage stack request inside)

/-- A text whose last byte is not copied arrives if it is short enough, or if that
byte happens to be zero. -/
theorem holdsText_field_iff {offset size : Nat} {text : CString} {last : UInt8}
    (inside : offset + (size + 1) ≤ sizeofAccessControlMessage)
    (copied : (accessControlMessage stack request).read offset (size + 1) =
      strncpyBytes text size ++ [last]) :
    HoldsText (field (sentMessage stack request) offset (size + 1)) text ↔
      text.length < size ∨ (text.length = size ∧ last = 0) := by
  rw [field_sentMessage stack request inside, copied]
  exact holdsText_strncpyBytes_iff text size last

/-! ## Which fields come out right -/

theorem rightRepId_iff : RightRepId request (sentMessage stack request) ↔
    0 ≤ request.repoId.toInt ∧ request.repoId.toInt < 2 ^ 32 := by
  have repId : Ta.uint32At (sentMessage stack request) Ta.offsetAcRepId =
      narrow request.repoId := by
    rw [uint32At_sentMessage stack request (by decide)]
    exact (congrArg ofLittleEndian (read_repId stack request)).trans (ofLittleEndian_littleEndian _)
  rw [RightRepId, repId]
  exact toNat_narrow_eq_toInt_iff request.repoId

theorem uint32At_op : Ta.uint32At (sentMessage stack request) Ta.offsetAcOp =
    operationCode request.operation := by
  rw [uint32At_sentMessage stack request (by decide)]
  exact (congrArg ofLittleEndian (read_op stack request)).trans (ofLittleEndian_littleEndian _)

theorem uint32At_role : Ta.uint32At (sentMessage stack request) Ta.offsetAcRole =
    roleCode request.role := by
  rw [uint32At_sentMessage stack request (by decide)]
  exact (congrArg ofLittleEndian (read_role stack request)).trans (ofLittleEndian_littleEndian _)

/-- The codes of the operations agree, and a text that is neither is sent as a
deletion. -/
theorem rightOp_iff : RightOp request (sentMessage stack request) ↔
    request.operation = .literal "ADD" ∨ request.operation = .literal "DELETE" := by
  rw [RightOp, uint32At_op, MeansOperation]
  constructor
  · rintro (⟨isAdd, _⟩ | ⟨isDelete, _⟩)
    · exact Or.inl isAdd
    · exact Or.inr isDelete
  · rintro (isAdd | isDelete)
    · exact Or.inl ⟨isAdd, if_pos isAdd⟩
    · refine Or.inr ⟨isDelete, if_neg ?_⟩
      rw [isDelete]
      decide

/-- The codes of the roles do not: `ADMIN` is sent as no role at all, and
everything else as the role of an admin. -/
theorem not_rightRole : ¬ RightRole request (sentMessage stack request) := by
  rw [RightRole, uint32At_role, MeansRole]
  rintro (⟨isAdmin, code⟩ | ⟨isWriter, code⟩)
  · rw [roleCode, if_pos isAdmin] at code
    exact absurd code (by decide)
  · have notAdmin : request.role ≠ .literal "ADMIN" := by
      rw [isWriter]
      decide
    rw [roleCode, if_neg notAdmin] at code
    exact absurd code (by decide)

theorem rightPubkey_iff : RightPubkey request (sentMessage stack request) ↔
    request.publicKey.length < maxKeyLength := by
  have holds : RightPubkey request (sentMessage stack request) ↔
      request.publicKey.length < maxKeyLength - 1 ∨
        (request.publicKey.length = maxKeyLength - 1 ∧ (0 : UInt8) = 0) :=
    holdsText_field_iff stack request (by decide) (read_pubkey stack request)
  rw [holds, maxKeyLength]
  constructor
  · rintro (shorter | ⟨equal, _⟩)
    · omega
    · omega
  · intro fits
    rcases Nat.lt_or_eq_of_le (Nat.le_of_lt_succ fits) with shorter | equal
    · exact Or.inl shorter
    · exact Or.inr ⟨equal, rfl⟩

/-- Nothing is written to the last byte of the field. -/
theorem rightSigkey_iff : RightSigkey request (sentMessage stack request) ↔
    request.signatureKey.length < maxKeyLength - 1 ∨
      (request.signatureKey.length = maxKeyLength - 1 ∧
        stack (offsetSigkey + (maxKeyLength - 1)) = 0) :=
  holdsText_field_iff stack request (by decide) (read_sigkey stack request)

theorem rightSignature_iff : RightSignature request (sentMessage stack request) ↔
    request.signature.length < maxSignatureLength - 1 ∨
      (request.signature.length = maxSignatureLength - 1 ∧
        stack (offsetSignature + (maxSignatureLength - 1)) = 0) :=
  holdsText_field_iff stack request (by decide) (read_signature stack request)

end Layout

/-! ## What the trusted application reads -/

section Received

variable (locals : Locals) (request : AccessRequest) (behind : Fin 4 → List UInt8)
  (outcomes : Ta.CallOutcomes)

theorem received_acMsg : ((accessControlInvocation locals request).call behind outcomes).params.acMsg =
    Ta.accessControlMessageAt (sentMessage locals.acMsg request ++ behind 0) :=
  congrArg Ta.accessControlMessageAt (memory_share_bufferRef (behind 0) _ _)

theorem uint32At_append {message : List UInt8} {offset : Nat} (inside : offset + 4 ≤ message.length)
    (more : List UInt8) : Ta.uint32At (message ++ more) offset = Ta.uint32At message offset := by
  have enough : 4 ≤ (message.drop offset).length := by
    rw [List.length_drop]
    omega
  rw [Ta.uint32At, Ta.uint32At, List.drop_append_of_le_length (by omega),
    List.take_append_of_le_length enough]

theorem length_sentMessage (stack : Region) :
    (sentMessage stack request).length = sizeofAccessControlMessage :=
  Region.length_read _ 0 sizeofAccessControlMessage

theorem received_op : ((accessControlInvocation locals request).call behind outcomes).params.acMsg.op =
    operationCode request.operation := by
  rw [received_acMsg, ← uint32At_op locals.acMsg request]
  apply uint32At_append
  rw [length_sentMessage]
  decide

theorem received_role :
    ((accessControlInvocation locals request).call behind outcomes).params.acMsg.role =
      roleCode request.role := by
  rw [received_acMsg, ← uint32At_role locals.acMsg request]
  apply uint32At_append
  rw [length_sentMessage]
  decide

/-- The key that is granted or revoked is terminated, but may be cut. -/
theorem received_pubkey :
    ((accessControlInvocation locals request).call behind outcomes).params.acMsg.pubkey =
      request.publicKey.take (maxKeyLength - 1) := by
  have split : (sentMessage locals.acMsg request ++ behind 0).drop Ta.offsetAcPubkey =
      (strncpyBytes request.publicKey (maxKeyLength - 1) ++ [0]) ++
        ((accessControlMessage locals.acMsg request).read offsetSigkey
          (sizeofAccessControlMessage - offsetSigkey) ++ behind 0) := by
    rw [List.drop_append_of_le_length (by rw [length_sentMessage]; decide), sentMessage,
      Region.drop_read _ _ (by decide), ← read_pubkey, ← List.append_assoc]
    exact congrArg (· ++ behind 0) (Region.read_add _ offsetPubkey maxKeyLength
      (sizeofAccessControlMessage - offsetSigkey))
  rw [received_acMsg]
  change CString.ofMemory _ = _
  rw [split]
  exact (holdsText_strncpyBytes_take request.publicKey (maxKeyLength - 1)).ofMemory _

end Received

/-! ## Bodies and messages -/

section Bodies

variable (jsonLoads : CString → Option Json) (locals : Locals) {body : CString}

/-- Not JSON, or without a member of the type that the handler asks for. -/
def Rejected (jsonLoads : CString → Option Json) (body : CString) : Prop :=
  ∀ root, jsonLoads body = some root → ¬ AccessRequest.Complete root

/-- The only status that the handler itself answers with is 400. -/
theorem replied_of_rejected (rejected : Rejected jsonLoads body) :
    ∃ reply, handleAccessControl jsonLoads locals body = .replied reply ∧ reply.status = 400 := by
  unfold handleAccessControl
  cases parsed : jsonLoads body with
  | none => exact ⟨invalidJson, rfl, rfl⟩
  | some root => exact ⟨_, if_pos (rejected root parsed), rfl⟩

theorem invoked_of_complete {root : Json} (parsed : jsonLoads body = some root)
    (complete : AccessRequest.Complete root) :
    handleAccessControl jsonLoads locals body =
      .invoked (accessControlInvocation locals (.ofJson root))
        (statusOnly "\x7b\"error\":\"Failed to perform access control\"\x7d") := by
  unfold handleAccessControl
  rw [parsed]
  exact if_neg (not_not.mpr complete)

/-- For which requests each field of the message is right. -/
structure RightWhen (stack : Region) (request : AccessRequest) (message : List UInt8) : Prop where
  repId : RightRepId request message ↔ 0 ≤ request.repoId.toInt ∧ request.repoId.toInt < 2 ^ 32
  op : RightOp request message ↔
    request.operation = .literal "ADD" ∨ request.operation = .literal "DELETE"
  role : ¬ RightRole request message
  pubkey : RightPubkey request message ↔ request.publicKey.length < maxKeyLength
  sigkey : RightSigkey request message ↔
    request.signatureKey.length < maxKeyLength - 1 ∨
      (request.signatureKey.length = maxKeyLength - 1 ∧
        stack (offsetSigkey + (maxKeyLength - 1)) = 0)
  signature : RightSignature request message ↔
    request.signature.length < maxSignatureLength - 1 ∨
      (request.signature.length = maxSignatureLength - 1 ∧
        stack (offsetSignature + (maxSignatureLength - 1)) = 0)

theorem rightWhen_sentMessage (stack : Region) (request : AccessRequest) :
    RightWhen stack request (sentMessage stack request) where
  repId := rightRepId_iff stack request
  op := rightOp_iff stack request
  role := not_rightRole stack request
  pubkey := rightPubkey_iff stack request
  sigkey := rightSigkey_iff stack request
  signature := rightSignature_iff stack request

/-- Every success of a request to add a writer adds an admin instead. -/
theorem writer_becomes_admin (primitives : Primitives) (store : Ta.KeyStore)
    (calls : List Ta.Call) (request : AccessRequest) (behind : Fin 4 → List UInt8)
    (outcomes : Ta.CallOutcomes) (output : Ta.Output) (isAdd : request.operation = .literal "ADD")
    (isWriter : request.role = .literal "WRITER") (call : Ta.Call)
    (isCall : call = (accessControlInvocation locals request).call behind outcomes)
    (answered : (Ta.trustedApplication primitives store).answer
      ((Ta.trustedApplication primitives store).run calls) call = .ok output) :
    Ta.Listed .admins call.accessRepo (request.publicKey.take (maxKeyLength - 1))
        ((Ta.trustedApplication primitives store).run (calls ++ [call])) ∧
      ¬ Ta.Listed .writers call.accessRepo (request.publicKey.take (maxKeyLength - 1))
        ((Ta.trustedApplication primitives store).run (calls ++ [call])) := by
  have isCommand : call.cmdId = Ta.cmdAccessControl := by
    rw [isCall]
    rfl
  have op : call.params.acMsg.op = Ta.opAdd := by
    rw [isCall, received_op, operationCode, if_pos isAdd]
    rfl
  have role : call.params.acMsg.role = Ta.MemberList.role .admins := by
    have notAdmin : request.role ≠ .literal "ADMIN" := by
      rw [isWriter]
      decide
    rw [isCall, received_role, roleCode, if_neg notAdmin]
    rfl
  have pubkey : call.params.acMsg.pubkey = request.publicKey.take (maxKeyLength - 1) := by
    rw [isCall]
    exact received_pubkey locals request behind outcomes
  have added := (Ta.added_of_ok primitives store isCommand answered role op).2
  rw [pubkey] at added
  exact ⟨added, Ta.not_listed_in_both primitives store added⟩

/-- A message is sent exactly for the bodies that are not rejected, and none of
these messages says what its body says: the role is never right, and each other
field is right under a condition of its own.  Whoever asks for a writer to be
added and succeeds has added an admin. -/
theorem translation_faithful_iff_rejected (body : CString) :
    (FaithfulTranslation jsonLoads locals body ↔ Rejected jsonLoads body) ∧
    ∀ root, jsonLoads body = some root → AccessRequest.Complete root →
      (∃ reply, handleAccessControl jsonLoads locals body =
        .invoked (accessControlInvocation locals (.ofJson root)) reply) ∧
      RightWhen locals.acMsg (.ofJson root)
        ((accessControlInvocation locals (.ofJson root)).operation.params 0).memory ∧
      ∀ primitives store calls behind outcomes output call,
        (AccessRequest.ofJson root).operation = .literal "ADD" →
        (AccessRequest.ofJson root).role = .literal "WRITER" →
        call = (accessControlInvocation locals (.ofJson root)).call behind outcomes →
        (Ta.trustedApplication primitives store).answer
          ((Ta.trustedApplication primitives store).run calls) call = .ok output →
        Ta.Listed .admins call.accessRepo
            ((AccessRequest.ofJson root).publicKey.take (maxKeyLength - 1))
            ((Ta.trustedApplication primitives store).run (calls ++ [call])) ∧
          ¬ Ta.Listed .writers call.accessRepo
            ((AccessRequest.ofJson root).publicKey.take (maxKeyLength - 1))
            ((Ta.trustedApplication primitives store).run (calls ++ [call])) := by
  constructor
  · constructor
    · intro faithful root parsed complete
      rcases faithful _ _ (invoked_of_complete jsonLoads locals parsed complete) with
        ⟨found, again, message⟩
      have same : some root = some found := parsed.symm.trans again
      cases same
      exact not_rightRole locals.acMsg (.ofJson root) message.role
    · intro rejected invocation reply invoked
      rcases replied_of_rejected jsonLoads locals rejected with ⟨answer, replied, _⟩
      rw [replied] at invoked
      cases invoked
  · intro root parsed complete
    refine ⟨⟨_, invoked_of_complete jsonLoads locals parsed complete⟩,
      rightWhen_sentMessage locals.acMsg (.ofJson root), ?_⟩
    intro primitives store calls behind outcomes output call isAdd isWriter isCall answered
    exact writer_becomes_admin locals primitives store calls _ behind outcomes output isAdd isWriter
      call isCall answered

end Bodies

/-! The founder asks for the newcomer to become a writer. -/

def Sample.locals : Locals := ⟨fun _ => 0, fun _ => 0, fun _ => 0, fun _ => 0⟩

def Sample.writerBody : CString :=
  .literal "\x7b \"repo_id\": 0, \"operation\": \"ADD\", \"role\": \"WRITER\", " ++
    .literal "\"public_key\": \"b\", \"signature_key\": \"a\", \"signature\": \"\" \x7d"

def Sample.writerRoot : Json :=
  ⟨[(.literal "repo_id", .integer 0), (.literal "operation", .string (.literal "ADD")),
    (.literal "role", .string (.literal "WRITER")),
    (.literal "public_key", .string (.literal "b")),
    (.literal "signature_key", .string (.literal "a")), (.literal "signature", .string .empty)]⟩

/-- A parser that knows this body. -/
def Sample.jsonLoads (body : CString) : Option Json :=
  if body = writerBody then some writerRoot else none

/-- The command that the trusted application receives. -/
def Sample.writerCall : Ta.Call :=
  (accessControlInvocation locals (.ofJson writerRoot)).call (fun _ => []) (Ta.Sample.outcomes 1)

theorem writer_request_grants_admin :
    ¬ FaithfulTranslation Sample.jsonLoads Sample.locals Sample.writerBody ∧
      ((Ta.Sample.application.run [Ta.Sample.creation, Sample.writerCall]).slot 0).map
          (fun repo => (Ta.keysOf repo.adminKeys, Ta.keysOf repo.writerKeys)) =
        some ([Ta.Sample.newcomer, Ta.Sample.founder], []) := by
  constructor
  · intro faithful
    have parsed : Sample.jsonLoads Sample.writerBody = some Sample.writerRoot := if_pos rfl
    rcases faithful _ _ (invoked_of_complete Sample.jsonLoads Sample.locals parsed (by decide)) with
      ⟨root, again, message⟩
    have same : some Sample.writerRoot = some root := parsed.symm.trans again
    cases same
    exact not_rightRole Sample.locals.acMsg (.ofJson Sample.writerRoot) message.role
  · decide +kernel

/-- The fields of this message but for the role, and what it does. -/
theorem writer_request_translated :
    RightWhen Sample.locals.acMsg (.ofJson Sample.writerRoot)
        ((accessControlInvocation Sample.locals (.ofJson Sample.writerRoot)).operation.params
          0).memory ∧
      Ta.Listed .admins Sample.writerCall.accessRepo
        ((AccessRequest.ofJson Sample.writerRoot).publicKey.take (maxKeyLength - 1))
        (Ta.Sample.application.run ([Ta.Sample.creation] ++ [Sample.writerCall])) := by
  have parsed : Sample.jsonLoads Sample.writerBody = some Sample.writerRoot := if_pos rfl
  have sent := (translation_faithful_iff_rejected Sample.jsonLoads Sample.locals
    Sample.writerBody).2 Sample.writerRoot parsed (by decide)
  have succeeds : (Ta.Sample.application.answer (Ta.Sample.application.run [Ta.Sample.creation])
      Sample.writerCall).isOk = true := by
    decide +kernel
  rcases Ta.exists_output_of_isOk succeeds with ⟨output, answered⟩
  exact ⟨sent.2.1, (sent.2.2 Ta.Sample.primitives (some Ta.Sample.keyPair) [Ta.Sample.creation]
    (fun _ => []) (Ta.Sample.outcomes 1) output Sample.writerCall (by decide) (by decide) rfl
    answered).1⟩

end Host
end TrustChain

import TrustChain.Ta.Commitment
import TrustChain.Ta.LatestHash
import TrustChain.Ta.OwnSignatures
import TrustChain.Ta.SessionKeys

namespace TrustChain
namespace Ta

open Library Tee

/-!
# What the key of the TEE is good for

The blocks are kept by somebody else, and so is the host: it may open sessions
as it likes, leave out and repeat requests, and show whatever blocks it likes.
Somebody who knows the public key of the TEE can hash each block that is shown,
compare it with the parent of the next one, and verify the signatures.

A block is meant here with the values that its fields had when it was hashed.  The
bytes that are handed out show other values in some of them, the role of every
genesis block among these, and a block that is read back from its bytes does not
pass as it stands.  A latest hash is the text of its 64 bytes; one that goes on
behind them, as `MetadataLayout` has it, does not occur.

What passes this audit has the serialized strings of the history that some
repository of some session had at some moment; and if the newest hash comes with
the signature over a nonce that nobody had used before, that moment is not
before the nonce was chosen.  The audit does not tell blocks apart that are
serialized alike, and it says nothing about which session it was: nothing that
is signed tells one from another.
-/

/-! ## The audit -/

/-- `verify_signature_common` accepts the signature, if no call inside it fails. -/
def Verifies (primitives : Primitives) (key : RsaPublicKey) (data : List UInt8)
    (signature : CString) : Prop :=
  verifySignatureCommon primitives .smooth data key signature = .ok ()

instance (primitives : Primitives) (key : RsaPublicKey) (data : List UInt8)
    (signature : CString) : Decidable (Verifies primitives key data signature) :=
  inferInstanceAs (Decidable (_ = _))

/-- Blocks, oldest first, that quote one another from the all-zero hash on, each
with a signature that verifies. -/
structure Accepts (primitives : Primitives) (key : RsaPublicKey) (blocks : List Block) : Prop where
  linked : (blockFormat primitives).Linked blocks.reverse
  verified : ∀ block ∈ blocks,
    Verifies primitives key block.dataBuffer.bytes block.base.teeSig

theorem verifies_iff {primitives : Primitives} {key : RsaPublicKey} {data : List UInt8}
    {signature : CString} :
    Verifies primitives key data signature ↔
      ∃ sigBytes, hexStringToBytes signature.bytes = .ok sigBytes ∧
        primitives.rsaVerify key (primitives.sha256 data).toList sigBytes = true := by
  have hashed : computeSha256Hash primitives VerifyOutcomes.smooth.hash data =
      .ok (primitives.sha256 data) :=
    computeSha256Hash_eq_ok_iff.mpr ⟨⟨rfl, rfl⟩, rfl⟩
  unfold Verifies verifySignatureCommon
  rw [hashed]
  cases hexStringToBytes signature.bytes with
  | error code =>
      constructor
      · intro impossible
        cases impossible
      · rintro ⟨sigBytes, impossible, _⟩
        cases impossible
  | ok decoded =>
      cases accepted : primitives.rsaVerify key (primitives.sha256 data).toList decoded with
      | true =>
          refine iff_of_true ?_ ⟨decoded, rfl, accepted⟩
          simp only [bind, Except.bind, VerifyOutcomes.smooth, accepted, if_true]
          rfl
      | false =>
          constructor
          · intro verified
            simp only [bind, Except.bind, VerifyOutcomes.smooth, accepted, Bool.false_eq_true,
              if_false] at verified
            cases verified
          · rintro ⟨sigBytes, same, verified⟩
            cases same
            rw [accepted] at verified
            cases verified

/-- What the TEE has signed verifies. -/
theorem SignatureOf.verifies {primitives : Primitives} {keyPair : RsaKeyPair} {data : List UInt8}
    {signature : CString} (made : SignatureOf primitives keyPair (hashText primitives data) signature)
    (accepts : AcceptsOwn primitives keyPair) :
    Verifies primitives keyPair.publicKey data signature := by
  rcases made with ⟨digest, decoded, rfl⟩
  rw [hashText, hexStringToBytes_bytesToHexString] at decoded
  cases decoded
  exact verifies_iff.mpr ⟨_, hexStringToBytes_bytesToHexString _, (accepts _ _).mpr rfl⟩

/-! ## What is signed -/

/-- The bytes whose digest is signed in an output. -/
def Output.signedData : Output → Option (List UInt8)
  | genesis _ block => some (Block.access block).dataBuffer.bytes
  | accessBlock block => some (Block.access block).dataBuffer.bytes
  | contribution block _ => some (Block.contribution block).dataBuffer.bytes
  | latestHash nonce hash _ => some (signedBytes (latestHashMsg nonce hash))
  | publicKey _ _ => none

def signedInReply : SessionReply → Option (List UInt8)
  | .answered (.ok output) => output.signedData
  | _ => none

/-- All that sessions have signed in a run and handed out. -/
def signedIn (primitives : Primitives) (store : KeyStore) (requests : List SessionRequest) :
    List (List UInt8) :=
  ((sessions primitives store).log requests).filterMap fun event => signedInReply event.output

/-- A block is for some repository. -/
theorem blockFor_or_latestHash (call : Call) {output : Output} {data : List UInt8}
    (signed : output.signedData = some data) :
    (∃ block repId, blockFor repId call (.ok output) = some block ∧
        block.dataBuffer.bytes = data) ∨
      ∃ nonce hash signature, output = .latestHash nonce hash signature ∧
        signedBytes (latestHashMsg nonce hash) = data := by
  cases output with
  | genesis repId block =>
      exact Or.inl ⟨_, repId.toNat, blockFor_genesis rfl call block, Option.some.inj signed⟩
  | accessBlock block =>
      exact Or.inl ⟨_, call.accessRepo, blockFor_accessBlock call block, Option.some.inj signed⟩
  | contribution block encryptedKey =>
      exact Or.inl ⟨_, call.commitRepo, blockFor_contribution call block encryptedKey,
        Option.some.inj signed⟩
  | latestHash nonce hash signature =>
      exact Or.inr ⟨nonce, hash, signature, rfl, Option.some.inj signed⟩
  | publicKey pem pemLen => cases signed

theorem signedData_of_blockFor {repId : Nat} {call : Call} {answer : TeeResult Output}
    {block : Block} (built : blockFor repId call answer = some block) :
    ∃ output, answer = .ok output ∧ output.signedData = some block.dataBuffer.bytes := by
  cases answer with
  | error code => cases built
  | ok output =>
      refine ⟨output, rfl, ?_⟩
      cases output with
      | genesis created block =>
          simp only [blockFor, Option.ite_none_right_eq_some, Option.some.injEq] at built
          rw [← built.2]
          rfl
      | accessBlock block =>
          simp only [blockFor, Option.ite_none_right_eq_some, Option.some.injEq] at built
          rw [← built.2]
          rfl
      | contribution block encryptedKey =>
          simp only [blockFor, Option.ite_none_right_eq_some, Option.some.injEq] at built
          rw [← built.2]
          rfl
      | latestHash nonce hash signature => cases built
      | publicKey pem pemLen => cases built

/-! ## A block is never mistaken for a latest hash -/

/-- Eight fields at least, the parent among them. -/
theorem length_dataBuffer_ge {block : Block} (parent : block.base.parentHash.length = 64) :
    71 ≤ block.dataBuffer.bytes.length := by
  have whole : (block.base.parentHash.take 64).length = 64 := by
    rw [CString.length_take, parent]
    rfl
  change 71 ≤ block.dataBuffer.length
  rw [block.dataBuffer_eq]
  cases block with
  | access block =>
      simp only [baseFields, Block.ownFields, List.cons_append, List.nil_append,
        length_joinColon_cons]
      omega
  | contribution block =>
      simp only [baseFields, Block.ownFields, List.cons_append, List.nil_append,
        length_joinColon_cons]
      omega

theorem length_signedBytes_le (nonce : UInt32) {hash : CString} (length : hash.length = 64) :
    (signedBytes (latestHashMsg nonce hash)).length ≤ 69 := by
  have bound := (List.takeWhile_prefix (l := latestHashMsg nonce hash) (· ≠ 0)).length_le
  have total : (latestHashMsg nonce hash).length = 69 := by
    change (littleEndian nonce ++ hash.bytes ++ [0]).length = 69
    rw [List.length_append, List.length_append, show hash.bytes.length = 64 from length]
    rfl
  rw [total] at bound
  exact bound

theorem block_ne_latestHash {block : Block} (parent : block.base.parentHash.length = 64)
    {nonce : UInt32} {hash : CString} (length : hash.length = 64) :
    block.dataBuffer.bytes ≠ signedBytes (latestHashMsg nonce hash) := by
  intro same
  have long := length_dataBuffer_ge parent
  have short := length_signedBytes_le nonce length
  rw [same] at long
  omega

theorem length_head (primitives : Primitives) (blocks : List Block) :
    ((blockFormat primitives).head blocks).length = 64 := by
  cases blocks with
  | nil => exact length_zeroHash
  | cons newest older => exact length_hashText primitives _

/-! ## Where a signature comes from -/

section Sessions

variable {primitives : Primitives} {store : KeyStore} {requests : List SessionRequest}

/-- Only a command is answered with an output. -/
theorem giving_of_answered {hosted : Hosted Nat TaState KeyStore} {request : SessionRequest}
    {answer : TeeResult Output}
    (answered : (sessions primitives store).answer hosted request = .answered answer) :
    ∃ session call, request = .giving session call := by
  change ((sessionHosting primitives store).step hosted request).1 = _ at answered
  cases request with
  | opening session paramTypes =>
      simp only [Hosting.step] at answered
      split at answered
      · cases answered
      · split at answered
        · cases answered
        · cases answered
  | closing session =>
      simp only [Hosting.step] at answered
      split at answered
      · cases answered
      · cases answered
  | giving session call => exact ⟨session, call, rfl⟩

theorem exists_output_of_signed {reply : SessionReply} {data : List UInt8}
    (signed : signedInReply reply = some data) :
    ∃ output, reply = .answered (.ok output) ∧ output.signedData = some data := by
  cases reply with
  | answered answer =>
      cases answer with
      | error code => cases signed
      | ok output => exact ⟨output, rfl, signed⟩
  | opened result => cases signed
  | closed => cases signed
  | notCalled => cases signed

/-- A session that is open answers as the application does that has got its
commands only. -/
theorem answer_of_commands {earlier : List SessionRequest} {session : Nat} {calls : List Call}
    (given : commandsSince primitives store session earlier = some calls) (call : Call) :
    (sessions primitives store).answer ((sessions primitives store).run earlier)
        (.giving session call) =
      .answered ((trustedApplication primitives store).answer
        ((trustedApplication primitives store).run calls) call) := by
  rw [session_answer, given]
  rfl

/-- What is signed was handed out by a command of some session, which answered
it as the application does that has got the commands of this session only. -/
theorem command_of_signed {data : List UInt8} (signed : data ∈ signedIn primitives store requests) :
    ∃ earlier session calls call output, earlier ++ [.giving session call] <+: requests ∧
      commandsSince primitives store session earlier = some calls ∧
      (trustedApplication primitives store).answer
        ((trustedApplication primitives store).run calls) call = .ok output ∧
      output.signedData = some data := by
  rcases List.mem_filterMap.mp signed with ⟨event, member, isSigned⟩
  rcases (sessions primitives store).mem_log member with ⟨earlier, request, inside, rfl⟩
  rcases exists_output_of_signed isSigned with ⟨output, answered, isData⟩
  change (sessions primitives store).answer ((sessions primitives store).run earlier) request =
    .answered (.ok output) at answered
  rcases giving_of_answered answered with ⟨session, call, rfl⟩
  cases given : commandsSince primitives store session earlier with
  | none =>
      rw [session_answer, given] at answered
      cases answered
  | some calls =>
      rw [answer_of_commands given] at answered
      exact ⟨earlier, session, calls, call, output, inside, given, HostReply.answered.inj answered,
        isData⟩

/-- All blocks of a session have been signed in the run. -/
theorem signed_of_block {earlier : List SessionRequest} (inside : earlier <+: requests)
    {session : Nat} {calls : List Call}
    (given : commandsSince primitives store session earlier = some calls) {repId : Nat}
    {block : Block}
    (member : block ∈ blocksOf repId ((trustedApplication primitives store).log calls)) :
    block.dataBuffer.bytes ∈ signedIn primitives store requests := by
  rcases List.mem_filterMap.mp member with ⟨event, inLog, built⟩
  rcases signedData_of_blockFor built with ⟨output, answered, isSigned⟩
  rcases Hosting.step_of_log_given (sessionHosting_separate primitives store) store given inLog with
    ⟨before, within, replied⟩
  change (sessions primitives store).answer ((sessions primitives store).run before)
    (.giving session event.input) = .answered event.output at replied
  rcases within.trans inside with ⟨later, rfl⟩
  apply List.mem_filterMap.mpr
  rw [List.append_assoc, List.singleton_append]
  refine ⟨_, (sessions primitives store).event_mem_log before (.giving session event.input) later,
    ?_⟩
  change signedInReply ((sessions primitives store).answer
    ((sessions primitives store).run before) (.giving session event.input)) = _
  rw [replied, answered]
  exact isSigned

end Sessions

/-! ## The audit is complete -/

/-- The signature in a block that is handed out. -/
theorem MadeWith.signatureOf {primitives : Primitives} {keyPair : RsaKeyPair} {call : Call}
    {output : Output} (made : MadeWith primitives keyPair call output) {repId : Nat} {block : Block}
    (built : blockFor repId call (.ok output) = some block) :
    SignatureOf primitives keyPair (hashText primitives block.dataBuffer.bytes)
      block.base.teeSig := by
  cases output with
  | genesis created genesis =>
      simp only [blockFor, Option.ite_none_right_eq_some, Option.some.injEq] at built
      rw [← built.2]
      exact made
  | accessBlock access =>
      simp only [blockFor, Option.ite_none_right_eq_some, Option.some.injEq] at built
      rw [← built.2]
      exact made
  | contribution contribution encryptedKey =>
      simp only [blockFor, Option.ite_none_right_eq_some, Option.some.injEq] at built
      rw [← built.2]
      exact made.1
  | latestHash nonce hash signature => cases built
  | publicKey pem pemLen => cases built

theorem ChainOf.nonempty {primitives : Primitives} {repId : Nat} {log : List TaEvent}
    {repo : RepoMetadata} (chain : ChainOf primitives repId log repo) : blocksOf repId log ≠ [] := by
  intro none
  have length := chain.length
  rw [none] at length
  cases length

section Complete

variable {primitives : Primitives} {store : KeyStore} {requests : List SessionRequest}

/-- Whoever knows all blocks of a repository, as they were hashed, can show them: in
a run with a storage that works, they pass the audit with the public half of the
stored key pair, and the newest one has the latest hash that the repository
records; and the signatures over latest hashes pass as well. -/
theorem history_passes_audit
    (works : (sessions primitives store).EveryStep StorageWorksDuring requests)
    (own : ∀ keyPair, ((sessions primitives store).run requests).store = some keyPair →
      AcceptsOwn primitives keyPair)
    {session : Nat} {calls : List Call}
    (given : commandsSince primitives store session requests = some calls) {repId : Nat}
    {repo : RepoMetadata}
    (found : ((trustedApplication primitives store).run calls).slot repId = some repo) :
    ∃ keyPair, ((sessions primitives store).run requests).store = some keyPair ∧
      Accepts primitives keyPair.publicKey
        (blocksOf repId ((trustedApplication primitives store).log calls)) ∧
      (blockFormat primitives).head
        (blocksOf repId ((trustedApplication primitives store).log calls)).reverse =
          repo.latestHash ∧
      ∀ event ∈ (sessions primitives store).log requests, ∀ nonce hash signature,
        event.output = .answered (.ok (.latestHash nonce hash signature)) →
        Verifies primitives keyPair.publicKey (signedBytes (latestHashMsg nonce hash))
          signature := by
  have chain := run_chainOf primitives store found
  have signedWith : ∀ block ∈ blocksOf repId ((trustedApplication primitives store).log calls),
      ∃ keyPair, ((sessions primitives store).run requests).store = some keyPair ∧
        SignatureOf primitives keyPair (hashText primitives block.dataBuffer.bytes)
          block.base.teeSig := by
    intro block member
    rcases List.mem_filterMap.mp member with ⟨event, inLog, built⟩
    rcases signedData_of_blockFor built with ⟨output, answered, _⟩
    rcases Hosting.step_of_log_given (sessionHosting_separate primitives store) store given inLog
      with ⟨earlier, inside, replied⟩
    rw [blockOf, answered] at built
    rw [answered] at replied
    rcases run_made_with primitives store works inside replied with ⟨keyPair, stored, made⟩
    exact ⟨keyPair, stored, made.signatureOf built⟩
  rcases List.exists_cons_of_ne_nil chain.nonempty with ⟨first, rest, blocks⟩
  rcases signedWith first (by rw [blocks]; exact List.mem_cons_self) with ⟨keyPair, stored, _⟩
  have verifies : ∀ {data signature},
      (∃ other, ((sessions primitives store).run requests).store = some other ∧
        SignatureOf primitives other (hashText primitives data) signature) →
      Verifies primitives keyPair.publicKey data signature := by
    rintro data signature ⟨other, isStored, made⟩
    have same : keyPair = other := Option.some.inj (stored.symm.trans isStored)
    subst same
    exact made.verifies (own keyPair stored)
  refine ⟨keyPair, stored, ⟨chain.linked, fun block member => verifies (signedWith block member)⟩,
    chain.head.symm, ?_⟩
  intro event member nonce hash signature answered
  rcases (sessions primitives store).mem_log member with ⟨earlier, request, inside, rfl⟩
  rcases giving_of_answered answered with ⟨other, call, rfl⟩
  rcases run_made_with primitives store works inside answered with ⟨used, isStored, made⟩
  exact verifies ⟨used, isStored, made⟩

end Complete

/-! A repository is founded, gets a writer and is asked for its latest hash.  The
digest tells texts apart by their lengths, and a signature verifies if it is the
right one. -/

namespace Sample

def repeated (digest : List UInt8) : Bytes 256 :=
  List.Vector.ofFn fun index => digest.getD (index.val % 32) 0

def auditing : Primitives :=
  { Primitives.accepting fun data =>
      List.Vector.replicate 32 (UInt8.ofNat (data.length % 255)) with
    rsaSign := fun _ digest => repeated digest
    rsaVerify := fun _ digest signature => decide (signature = (repeated digest).toList) }

theorem auditing_acceptsOwn (pair : RsaKeyPair) : AcceptsOwn auditing pair := by
  unfold AcceptsOwn auditing
  simp only [decide_eq_true_eq, implies_true]

/-- No byte of it is zero. -/
def nonce : UInt32 := 16843009

/-- The founder makes the newcomer a writer, and signs it. -/
def signedAddition : Call :=
  .requestAccess (outcomes 1)
    { access opAdd roleWriter newcomer with
      signature := bytesToHexString (repeated (auditing.sha256
        (accessControlText (access opAdd roleWriter newcomer)).bytes).toList).toList }

def founding : List SessionRequest := [.opening 0 0, .giving 0 creation, .giving 0 signedAddition]

def audited : List SessionRequest :=
  founding ++ [.giving 0 (.requestLatestHash (outcomes 1) 0 nonce)]

/-- The commands of the session. -/
def auditedCalls : List Call :=
  [creation, signedAddition, .requestLatestHash (outcomes 1) 0 nonce]

/-- The blocks of its repository.  Elaboration is not to compute them. -/
@[irreducible]
def auditedBlocks : List Block :=
  blocksOf 0 ((trustedApplication auditing (some keyPair)).log auditedCalls)

theorem found_audited :
    (((trustedApplication auditing (some keyPair)).run auditedCalls).slot 0).isSome := by
  decide +kernel

theorem length_auditedBlocks : auditedBlocks.length = 2 := by decide +kernel

end Sample

theorem founding_passes_audit :
    Sample.auditedBlocks.length = 2 ∧
      ∃ pair : RsaKeyPair, Accepts Sample.auditing pair.publicKey Sample.auditedBlocks := by
  have works : ∀ event ∈ (sessions Sample.auditing (some Sample.keyPair)).log Sample.audited,
      StorageWorksDuring event.before event.input := by decide +kernel
  have given : commandsSince Sample.auditing (some Sample.keyPair) 0 Sample.audited =
      some Sample.auditedCalls := rfl
  rcases Option.isSome_iff_exists.mp Sample.found_audited with ⟨repo, found⟩
  rcases history_passes_audit ((sessions _ _).everyStep_of_log works)
    (fun pair _ => Sample.auditing_acceptsOwn pair) given found with ⟨pair, _, accepts, _⟩
  refine ⟨Sample.length_auditedBlocks, pair, ?_⟩
  unfold Sample.auditedBlocks
  exact accepts

/-! ## The audit is sound -/

/-- Nobody has forged this signature: if it verifies, the TEE has signed that
digest. -/
def Unforged (primitives : Primitives) (key : RsaPublicKey) (signed : List (List UInt8))
    (data : List UInt8) (signature : CString) : Prop :=
  Verifies primitives key data signature →
    ∃ other ∈ signed, primitives.sha256 other = primitives.sha256 data

/-- These are the serialized blocks that some repository of some session has
when the requests have been answered. -/
def HistoryAt (primitives : Primitives) (store : KeyStore) (requests : List SessionRequest)
    (texts : List CString) : Prop :=
  ∃ session calls repId, commandsSince primitives store session requests = some calls ∧
    texts = (blocksOf repId ((trustedApplication primitives store).log calls)).map
      Block.dataBuffer

/-- The strings that an audit has to do with: those that are signed, and those
that are shown. -/
def auditedStrings (signed : List (List UInt8)) (blocks : List Block) : Set (List UInt8) :=
  {data | data ∈ signed ∨ ∃ block ∈ blocks, block.dataBuffer.bytes = data}

/-- A latest hash is handed out with this nonce. -/
def AnswersNonce (nonce : UInt32) : SessionReply → Prop
  | .answered (.ok (.latestHash other _ _)) => other = nonce
  | _ => False

instance (nonce : UInt32) (reply : SessionReply) : Decidable (AnswersNonce nonce reply) :=
  match reply with
  | .answered (.ok (.latestHash other _ _)) => inferInstanceAs (Decidable (other = nonce))
  | .answered (.ok (.genesis _ _)) => .isFalse not_false
  | .answered (.ok (.accessBlock _)) => .isFalse not_false
  | .answered (.ok (.contribution _ _)) => .isFalse not_false
  | .answered (.ok (.publicKey _ _)) => .isFalse not_false
  | .answered (.error _) => .isFalse not_false
  | .opened _ => .isFalse not_false
  | .closed => .isFalse not_false
  | .notCalled => .isFalse not_false

section Sound

variable {primitives : Primitives} {store : KeyStore} {requests : List SessionRequest}
  {blocks : List Block}

/-- Blocks that end in the latest hash of a repository are its whole history. -/
theorem history_of_head {earlier : List SessionRequest} (inside : earlier <+: requests)
    {session : Nat} {calls : List Call}
    (given : commandsSince primitives store session earlier = some calls) {repId : Nat}
    {repo : RepoMetadata}
    (found : ((trustedApplication primitives store).run calls).slot repId = some repo)
    (linked : (blockFormat primitives).Linked blocks.reverse)
    (head : (blockFormat primitives).head blocks.reverse = repo.latestHash)
    (digest : CommittingDigest primitives.sha256
      (auditedStrings (signedIn primitives store requests) blocks)) :
    HistoryAt primitives store earlier (blocks.map Block.dataBuffer) := by
  have chain := run_chainOf primitives store found
  have separates := digest.separates
    (fun block member => Or.inr ⟨block, List.mem_reverse.mp member, rfl⟩)
    (fun block member => Or.inl (signed_of_block inside given (List.mem_reverse.mp member)))
    linked chain.linked
  have texts := ChainFormat.texts_eq_of_head_eq separates linked chain.linked
    (head.trans chain.head)
  rw [List.map_reverse, List.map_reverse] at texts
  exact ⟨session, calls, repId, given, List.reverse_injective texts⟩

theorem commandsSince_giving {earlier : List SessionRequest} {session : Nat} {calls : List Call}
    (given : commandsSince primitives store session earlier = some calls) (call : Call) :
    commandsSince primitives store session (earlier ++ [.giving session call]) =
      some (calls ++ [call]) := by
  unfold commandsSince at given ⊢
  rw [Hosting.given_snoc, given]
  exact if_pos rfl

/-- A block that is handed out is the newest of its repository. -/
theorem repository_of_block {calls : List Call} {call : Call} {output : Output} {repId : Nat}
    {block : Block}
    (answered : (trustedApplication primitives store).answer
      ((trustedApplication primitives store).run calls) call = .ok output)
    (built : blockFor repId call (.ok output) = some block) :
    ∃ repo, ((trustedApplication primitives store).run (calls ++ [call])).slot repId = some repo ∧
      repo.latestHash = block.hash primitives ∧
      block ∈ blocksOf repId ((trustedApplication primitives store).log (calls ++ [call])) := by
  rw [← answered] at built
  rcases (run_slotStep primitives store calls call repId).built built with
    ⟨repo, _, found, latest, _, _⟩
  refine ⟨repo, by rw [Machine.run_snoc]; exact found, latest, ?_⟩
  rw [Machine.log_snoc]
  apply List.mem_filterMap.mpr
  exact ⟨_, List.mem_append_right _ (List.mem_singleton.mpr rfl), built⟩

/-- A latest hash that is handed out is that of a repository. -/
theorem repository_of_latestHash {calls : List Call} {call : Call} {nonce : UInt32}
    {hash signature : CString}
    (answered : (trustedApplication primitives store).answer
      ((trustedApplication primitives store).run calls) call =
        .ok (.latestHash nonce hash signature)) :
    ∃ repId repo, ((trustedApplication primitives store).run calls).slot repId = some repo ∧
      hash = repo.latestHash := by
  have effect := run_effect primitives store calls call
  change (taInvokeCommandEntryPoint primitives _ call).1 = _ at answered
  generalize (trustedApplication primitives store).run calls = state at effect answered ⊢
  change Effect primitives state call (taInvokeCommandEntryPoint primitives state call).1
    (taInvokeCommandEntryPoint primitives state call).2 at effect
  rw [answered] at effect
  generalize (taInvokeCommandEntryPoint primitives state call).2 = after at effect
  cases effect with
  | hashRead repo signature store isCommand found signed => exact ⟨_, repo, found, rfl⟩

/-- The audit accepts nothing but histories: as long as no signature among the
blocks is forged, and the digest separates the strings at hand, what it accepts
is serialized like the blocks of some repository at some moment of the run. -/
theorem accepted_blocks_are_history {key : RsaPublicKey} (nonempty : blocks ≠ [])
    (accepts : Accepts primitives key blocks)
    (unforged : ∀ block ∈ blocks, Unforged primitives key (signedIn primitives store requests)
      block.dataBuffer.bytes block.base.teeSig)
    (digest : CommittingDigest primitives.sha256
      (auditedStrings (signedIn primitives store requests) blocks)) :
    ∃ earlier, earlier <+: requests ∧
      HistoryAt primitives store earlier (blocks.map Block.dataBuffer) := by
  rcases List.eq_nil_or_concat' blocks with none | ⟨older, newest, split⟩
  · exact absurd none nonempty
  · have member : newest ∈ blocks := by
      rw [split]
      exact List.mem_append_right older (List.mem_singleton.mpr rfl)
    have head : (blockFormat primitives).head blocks.reverse = newest.hash primitives := by
      rw [split, ChainFormat.head_reverse_snoc]
      rfl
    have parent := length_parentHash accepts.linked (List.mem_reverse.mpr member)
    rcases unforged newest member (accepts.verified newest member) with ⟨data, signed, same⟩
    have isData : data = newest.dataBuffer.bytes :=
      digest.injective (Or.inl signed) (Or.inr ⟨newest, member, rfl⟩) same
    rcases command_of_signed signed with
      ⟨earlier, session, calls, call, output, inside, given, answered, isSigned⟩
    rcases blockFor_or_latestHash call isSigned with
      ⟨block, repId, built, text⟩ | ⟨nonce, hash, signature, rfl, text⟩
    · rcases repository_of_block answered built with ⟨repo, found, latest, _⟩
      refine ⟨_, inside, history_of_head inside (commandsSince_giving given call) found
        accepts.linked ?_ digest⟩
      rw [head, latest]
      exact congrArg (hashText primitives) (isData.symm.trans text.symm)
    · rcases repository_of_latestHash answered with ⟨repId, repo, found, rfl⟩
      have length := length_head primitives
        (blocksOf repId ((trustedApplication primitives store).log calls)).reverse
      rw [← (run_chainOf primitives store found).head] at length
      exact absurd (isData.symm.trans text.symm) (block_ne_latestHash parent length)

theorem Sample.signed_of_auditedBlocks {block : Block} (member : block ∈ auditedBlocks) :
    block.dataBuffer.bytes ∈ signedIn auditing (some keyPair) audited := by
  have signed : ∀ block ∈ auditedBlocks, block.dataBuffer.bytes ∈
      signedIn auditing (some keyPair) audited := by decide +kernel
  exact signed block member

/-- What is signed for the nonce. -/
def Sample.message : List UInt8 :=
  signedBytes (latestHashMsg nonce ((blockFormat auditing).head auditedBlocks.reverse))

theorem linked_of_found {calls : List Call} {repId : Nat}
    (found : (((trustedApplication primitives store).run calls).slot repId).isSome)
    (areBlocks : blocks = blocksOf repId ((trustedApplication primitives store).log calls)) :
    (blockFormat primitives).Linked blocks.reverse := by
  rcases Option.isSome_iff_exists.mp found with ⟨repo, isRepo⟩
  rw [areBlocks]
  exact (run_chainOf primitives store isRepo).linked

theorem Sample.linked_auditedBlocks : (blockFormat auditing).Linked auditedBlocks.reverse :=
  linked_of_found found_audited (by unfold auditedBlocks; rfl)

theorem Sample.digest_of_audited {strings : Set (List UInt8)}
    (inRun : ∀ data ∈ strings, data ∈ signedIn auditing (some keyPair) audited) :
    CommittingDigest auditing.sha256 strings := by
  have distinct : ((signedIn auditing (some keyPair) audited).map auditing.sha256).Nodup := by
    decide +kernel
  have nonzero : ∀ data ∈ signedIn auditing (some keyPair) audited,
      auditing.sha256 data ≠ List.Vector.replicate 32 0 := by decide +kernel
  exact .of_list distinct nonzero inRun

/-- The two blocks of the founding, shown by themselves. -/
theorem founding_is_history :
    Sample.auditedBlocks.length = 2 ∧ ∃ earlier, earlier <+: Sample.audited ∧
      HistoryAt Sample.auditing (some Sample.keyPair) earlier
        (Sample.auditedBlocks.map Block.dataBuffer) := by
  have verified : ∀ block ∈ Sample.auditedBlocks, Verifies Sample.auditing
      Sample.keyPair.publicKey block.dataBuffer.bytes block.base.teeSig := by decide +kernel
  refine ⟨Sample.length_auditedBlocks, ?_⟩
  apply accepted_blocks_are_history (by decide +kernel) ⟨Sample.linked_auditedBlocks, verified⟩
  · intro block member _
    exact ⟨_, Sample.signed_of_auditedBlocks member, rfl⟩
  · apply Sample.digest_of_audited
    rintro data (inRun | ⟨block, member, rfl⟩)
    · exact inRun
    · exact Sample.signed_of_auditedBlocks member

/-- The audit of somebody who has chosen a nonce: when the newest hash is shown
with a signature over it and this nonce, which no zero byte cuts short and which
no session had been asked with before, the blocks are serialized like those that a
repository had at a moment after that. -/
theorem fresh_blocks_are_current {before : List SessionRequest} (inRun : before <+: requests)
    {key : RsaPublicKey} {nonce : UInt32} {signature : CString} (free : ZeroFree nonce)
    (unused : ∀ event ∈ (sessions primitives store).log before,
      ¬ AnswersNonce nonce event.output)
    (linked : (blockFormat primitives).Linked blocks.reverse)
    (verified : Verifies primitives key
      (signedBytes (latestHashMsg nonce ((blockFormat primitives).head blocks.reverse))) signature)
    (unforged : Unforged primitives key (signedIn primitives store requests)
      (signedBytes (latestHashMsg nonce ((blockFormat primitives).head blocks.reverse))) signature)
    (digest : CommittingDigest primitives.sha256
      (auditedStrings
        (signedBytes (latestHashMsg nonce ((blockFormat primitives).head blocks.reverse)) ::
          signedIn primitives store requests) blocks)) :
    ∃ earlier, before <+: earlier ∧ earlier <+: requests ∧
      HistoryAt primitives store earlier (blocks.map Block.dataBuffer) := by
  rcases unforged verified with ⟨data, signed, same⟩
  have isData := digest.injective (Or.inl (List.mem_cons_of_mem _ signed))
    (Or.inl List.mem_cons_self) same
  have headLength := length_head primitives blocks.reverse
  rcases command_of_signed signed with
    ⟨earlier, session, calls, call, output, inside, given, answered, isSigned⟩
  rcases blockFor_or_latestHash call isSigned with
    ⟨block, repId, built, text⟩ | ⟨other, hash, otherSignature, rfl, text⟩
  · rcases repository_of_block answered built with ⟨repo, found, _, member⟩
    have parent := length_parentHash (run_chainOf primitives store found).linked
      (List.mem_reverse.mpr member)
    exact absurd (text.trans isData) (block_ne_latestHash parent headLength)
  · rcases (signedBytes_bind_iff nonce other _ hash).mpr (Or.inl free)
      (isData.symm.trans text.symm) with ⟨rfl, head⟩
    rcases repository_of_latestHash answered with ⟨repId, repo, found, isHead⟩
    -- Had the nonce been answered before, that would be an event of `before`.
    have later : before <+: earlier := by
      apply (sessions primitives store).prefix_of_new_event inRun inside unused
      have reply := (answer_of_commands given call).trans (congrArg HostReply.answered answered)
      change AnswersNonce nonce ((sessions primitives store).answer _ _)
      rw [reply]
      rfl
    have within : earlier <+: requests := (List.prefix_append _ _).trans inside
    refine ⟨earlier, later, within, history_of_head within given found linked
      (head.trans isHead) (digest.mono ?_)⟩
    rintro data (isSigned | shown)
    · exact Or.inl (List.mem_cons_of_mem _ isSigned)
    · exact Or.inr shown

/-- The same blocks, shown after the founding with the answer to a new nonce. -/
theorem founding_is_current :
    Sample.auditedBlocks.length = 2 ∧ ∃ earlier, Sample.founding <+: earlier ∧ earlier <+: Sample.audited ∧
      HistoryAt Sample.auditing (some Sample.keyPair) earlier
        (Sample.auditedBlocks.map Block.dataBuffer) := by
  have unused : ∀ event ∈ (sessions Sample.auditing (some Sample.keyPair)).log Sample.founding,
      ¬ AnswersNonce Sample.nonce event.output := by decide +kernel
  have verified : Verifies Sample.auditing Sample.keyPair.publicKey Sample.message
      (bytesToHexString (Sample.repeated (Sample.auditing.sha256 Sample.message).toList).toList) := by
    decide +kernel
  have signed : Sample.message ∈
      signedIn Sample.auditing (some Sample.keyPair) Sample.audited := by decide +kernel
  refine ⟨Sample.length_auditedBlocks, ?_⟩
  apply fresh_blocks_are_current (List.prefix_append _ _) (by decide) unused
    Sample.linked_auditedBlocks verified
  · intro _
    exact ⟨_, signed, rfl⟩
  · apply Sample.digest_of_audited
    rintro data (inRun | ⟨block, member, rfl⟩)
    · rcases List.mem_cons.mp inRun with rfl | isSigned
      · exact signed
      · exact isSigned
    · exact Sample.signed_of_auditedBlocks member

end Sound

end Ta
end TrustChain

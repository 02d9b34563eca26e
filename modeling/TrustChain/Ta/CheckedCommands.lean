import TrustChain.Library.CheckedMemory
import TrustChain.Ta.Answers
import TrustChain.Ta.Messages

namespace TrustChain
namespace Ta

open Library Tee

/-!
# The handlers on memory with checked indices

Each memory reference is the list of its bytes, and the handlers of
`trust_chain_ta.c` are written down once more, in the order of the source, with
a check at every access to a reference.  A log line with a `%s` is such an
access as well, since the log is on (`CFG_TEE_TA_LOG_LEVEL` is 4).  Local arrays
are no references; texts of any length are copied into them as before.  Of the
fields of a repository, the founder's key is written with a check, since what is
longer leaves the memory that was allocated; and the hash is read up to its
terminator, wherever that is: `get_latest_hash` is given what `strcpy` finds at
`latest_hash` of each repository.

Where all accesses lie inside, a handler does what the handler without checks
does on the fields that it finds.
-/

/-- A command with the memory behind its parameters.  A reference that a client
hands over has an address. -/
structure MemoryCall where
  cmdId : UInt32
  paramTypes : UInt32
  memory : Fin 4 → List UInt8
  valueA : Fin 4 → UInt32
  outcomes : CallOutcomes

/-- The same command for handlers that read on to the next terminator, wherever
it is. -/
def MemoryCall.toCall (call : MemoryCall) : Call where
  cmdId := call.cmdId
  paramTypes := call.paramTypes
  params :=
    { adminKey := stringAt (call.memory 0) 0
      acMsg := accessControlMessageAt (call.memory 0)
      cmMsg := commitMessageAt (call.memory 0)
      repId := call.valueA 0
      nonce := call.valueA 1
      encryptedKey := stringAt (call.memory 1) 0
      pemBufferNull := false
      pemBufSize := (call.memory 0).length }
  outcomes := call.outcomes

/-! ## Accesses -/

def checkedUint32 (memory : List UInt8) (offset : Nat) : Option UInt32 :=
  (checkedBytes memory offset 4).map ofLittleEndian

theorem checkedUint32_guards (memory : List UInt8) (offset : Nat) :
    Guards (checkedUint32 memory offset) (offset + 4 ≤ memory.length) (uint32At memory offset) :=
  (checkedBytes_guards memory offset 4).map ofLittleEndian

def checkedStringAt (memory : List UInt8) (offset : Nat) : Option CString :=
  checkedString (memory.drop offset)

theorem checkedStringAt_guards (memory : List UInt8) (offset : Nat) :
    Guards (checkedStringAt memory offset) (0 ∈ memory.drop offset) (stringAt memory offset) :=
  checkedString_guards (memory.drop offset)

/-- `key_exists_in_set`. -/
def checkedKeyExistsInSet (key : List UInt8) (list : KeyListPtr) : Option Bool :=
  checkedAny (fun current => checkedStrcmp current.bytes key) (keysOf list)

theorem checkedKeyExistsInSet_of_terminated {key : List UInt8} (terminated : 0 ∈ key)
    (list : KeyListPtr) :
    checkedKeyExistsInSet key list = some (keyExistsInSet list (.ofMemory key)) := by
  rw [checkedKeyExistsInSet,
    checkedAny_eq (fun current => checkedStrcmp_of_terminated current terminated)]
  apply congrArg some
  rw [Bool.eq_iff_iff, keyExistsInSet_iff, List.any_eq_true]
  simp only [decide_eq_true_eq, exists_eq_right]

/-- The signature is looked at after the key has been loaded and the data hashed. -/
structure ReadsSignature (primitives : Primitives) (outcomes : VerifyOutcomes)
    (sigkey : CString) : Prop where
  loads : ∃ keyObj, publicKeyPemToObj primitives outcomes.pem sigkey = .ok keyObj
  hashes : outcomes.hash.Succeeds

/-- `verify_signature`, with the key and the signature in a reference. -/
def checkedVerifySignature (primitives : Primitives) (outcomes : VerifyOutcomes) (data : CString)
    (sigkey signature : List UInt8) : Option (TeeResult Unit) :=
  (checkedString sigkey).bind fun keyStr =>
    match publicKeyPemToObj primitives outcomes.pem keyStr with
    | .error code => some (.error code)
    | .ok keyObj =>
        match computeSha256Hash primitives outcomes.hash data.bytes with
        | .error code => some (.error code)
        | .ok _ =>
            (checkedString signature).map
              (verifySignatureCommon primitives outcomes data.bytes keyObj)

theorem checkedVerifySignature_guards (primitives : Primitives) (outcomes : VerifyOutcomes)
    (data : CString) (sigkey signature : List UInt8) :
    Guards (checkedVerifySignature primitives outcomes data sigkey signature)
      (0 ∈ sigkey ∧
        (ReadsSignature primitives outcomes (.ofMemory sigkey) → 0 ∈ signature))
      (verifySignature primitives outcomes data (.ofMemory sigkey) (.ofMemory signature)) := by
  refine (checkedString_guards sigkey).bind fun _ => ?_
  unfold verifySignature
  cases loaded : publicKeyPemToObj primitives outcomes.pem (.ofMemory sigkey) with
  | error code =>
      refine (Guards.pure _).congr (iff_of_true trivial ?_)
      rintro ⟨⟨keyObj, loads⟩, _⟩
      rw [loaded] at loads
      cases loads
  | ok keyObj =>
      cases hashed : computeSha256Hash primitives outcomes.hash data.bytes with
      | error code =>
          have refused : verifySignatureCommon primitives outcomes data.bytes keyObj
              (.ofMemory signature) = .error code := by
            unfold verifySignatureCommon
            rw [hashed]
            rfl
          simp only
          change Guards _ _ (verifySignatureCommon primitives outcomes data.bytes keyObj
            (.ofMemory signature))
          rw [refused]
          refine (Guards.pure _).congr (iff_of_true trivial fun reads => ?_)
          rw [computeSha256Hash_eq_ok_iff.mpr ⟨reads.hashes, rfl⟩] at hashed
          cases hashed
      | ok digest =>
          have reads : ReadsSignature primitives outcomes (.ofMemory sigkey) :=
            ⟨⟨keyObj, loaded⟩, (computeSha256Hash_eq_ok_iff.mp hashed).1⟩
          simp only
          exact ((checkedString_guards signature).map _).congr
            ⟨fun terminated _ => terminated, fun needed => needed reads⟩

/-- A verification that succeeds has looked at the signature. -/
theorem readsSignature_of_verified {primitives : Primitives} {outcomes : VerifyOutcomes}
    {data sigkey signature : CString}
    (verified : verifySignature primitives outcomes data sigkey signature = .ok ()) :
    ReadsSignature primitives outcomes sigkey := by
  unfold verifySignature at verified
  cases loaded : publicKeyPemToObj primitives outcomes.pem sigkey with
  | error code =>
      rw [loaded] at verified
      cases verified
  | ok keyObj =>
      rw [loaded] at verified
      change verifySignatureCommon primitives outcomes data.bytes keyObj signature = .ok ()
        at verified
      unfold verifySignatureCommon at verified
      cases hashed : computeSha256Hash primitives outcomes.hash data.bytes with
      | error code =>
          rw [hashed] at verified
          cases verified
      | ok digest => exact ⟨⟨keyObj, loaded⟩, (computeSha256Hash_eq_ok_iff.mp hashed).1⟩

/-! ## The checks of the two updating handlers -/

/-- What `access_control` and `commit` put into the same sequence of checks on
their messages. -/
structure MessageLayout where
  paramTypes : UInt32
  firstOp : UInt32
  secondOp : UInt32
  offsetRepId : Nat
  offsetOp : Nat
  offsetSigkey : Nat
  offsetSignature : Nat
  sets : RepoMetadata → List KeyListPtr
  text : List UInt8 → CString
  checkedText : List UInt8 → Option CString
  repIdFirst : offsetRepId ≤ offsetOp
  textFirst : ∀ memory, 0 ∈ memory.drop offsetSigkey → checkedText memory = some (text memory)

namespace MessageLayout

variable (layout : MessageLayout) (primitives : Primitives) (outcomes : CallOutcomes)
  (paramTypes : UInt32) (memory : List UInt8) (state : TaState)

def op : UInt32 := uint32At memory layout.offsetOp

def sigkey : CString := stringAt memory layout.offsetSigkey

/-- The key of the message is in one of the sets. -/
def knows (repo : RepoMetadata) : Bool :=
  (layout.sets repo).any (keyExistsInSet · (layout.sigkey memory))

/-- How `access_control` and `commit` answer a verification. -/
def verdict (repo : RepoMetadata) : TeeResult Unit → TeeResult RepoMetadata
  | .error _ => .error .security
  | .ok () => .ok repo

/-- The checks from the look-up of the key on. -/
def keyChecks (repo : RepoMetadata) : TeeResult RepoMetadata :=
  if layout.knows memory repo = false then .error .accessDenied
  else
    verdict repo (verifySignature primitives outcomes.verify (layout.text memory)
      (layout.sigkey memory) (stringAt memory layout.offsetSignature))

/-- The checks on a message that is read without bounds. -/
def checks : TeeResult RepoMetadata :=
  if paramTypes ≠ layout.paramTypes then .error .badParameters
  else if layout.op memory ≠ layout.firstOp ∧ layout.op memory ≠ layout.secondOp then
    .error .badParameters
  else
    match validateAndGetRepo state (uint32At memory layout.offsetRepId) with
    | .error code => .error code
    | .ok repo => layout.keyChecks primitives outcomes memory repo

/-- `keyChecks` with checked indices. -/
def checkedKeyChecks (repo : RepoMetadata) : Option (TeeResult RepoMetadata) :=
  let sigkey := memory.drop layout.offsetSigkey
  (checkedAny (checkedKeyExistsInSet sigkey) (layout.sets repo)).bind fun known =>
    if known = false then
      -- The refusal is logged with the key.
      (checkedString sigkey).map fun _ => .error .accessDenied
    else
      (layout.checkedText memory).bind fun text =>
        (checkedVerifySignature primitives outcomes.verify text sigkey
          (memory.drop layout.offsetSignature)).map (verdict repo)

/-- `checks` with checked indices. -/
def checkedChecks : Option (TeeResult RepoMetadata) :=
  if paramTypes ≠ layout.paramTypes then some (.error .badParameters)
  else
    (checkedUint32 memory layout.offsetOp).bind fun op =>
      if op ≠ layout.firstOp ∧ op ≠ layout.secondOp then some (.error .badParameters)
      else
        (checkedUint32 memory layout.offsetRepId).bind fun repId =>
          match validateAndGetRepo state repId with
          | .error code => some (.error code)
          | .ok repo => layout.checkedKeyChecks primitives outcomes memory repo

/-- A message for this repository, as far as its numbers go. -/
structure Finds (repo : RepoMetadata) : Prop where
  types : paramTypes = layout.paramTypes
  op : layout.op memory = layout.firstOp ∨ layout.op memory = layout.secondOp
  found : state.slot (uint32At memory layout.offsetRepId).toNat = some repo

/-- The key, and the signature where it is looked at, end inside the reference. -/
def KeyInside (repo : RepoMetadata) : Prop :=
  0 ∈ memory.drop layout.offsetSigkey ∧
    (layout.knows memory repo = true →
      ReadsSignature primitives outcomes.verify (layout.sigkey memory) →
      0 ∈ memory.drop layout.offsetSignature)

/-- What the checks get to see lies inside the reference. -/
def Inside : Prop :=
  (paramTypes = layout.paramTypes → layout.offsetOp + 4 ≤ memory.length) ∧
    ∀ repo, layout.Finds paramTypes memory state repo →
      layout.KeyInside primitives outcomes memory repo

/-- The look-up may stop before the end of the key, but both branches behind it
read the key to its end. -/
theorem checkedKeyChecks_guards (repo : RepoMetadata) :
    Guards (layout.checkedKeyChecks primitives outcomes memory repo)
      (layout.KeyInside primitives outcomes memory repo)
      (layout.keyChecks primitives outcomes memory repo) := by
  have key := checkedString_guards (memory.drop layout.offsetSigkey)
  unfold checkedKeyChecks
  apply Guards.bind_of_later
  · intro terminated
    exact checkedAny_eq (checkedKeyExistsInSet_of_terminated terminated) (layout.sets repo)
  · intro unterminated known
    cases known with
    | false =>
        rw [if_pos rfl, key.of_outside unterminated]
        rfl
    | true =>
        rw [if_neg Bool.true_eq_false.mp]
        cases layout.checkedText memory with
        | none => rfl
        | some text =>
            rw [Option.bind_some, (checkedVerifySignature_guards _ _ _ _ _).of_outside]
            · rfl
            · exact fun both => unterminated both.1
  · intro terminated
    change Guards (if layout.knows memory repo = false then _ else _) _ _
    unfold keyChecks
    cases known : layout.knows memory repo with
    | false =>
        rw [if_pos rfl, if_pos rfl]
        refine (key.map _).congr (iff_of_true terminated fun impossible => ?_)
        cases impossible
    | true =>
        rw [if_neg Bool.true_eq_false.mp, if_neg Bool.true_eq_false.mp,
          layout.textFirst memory terminated, Option.bind_some]
        refine ((checkedVerifySignature_guards _ _ _ _ _).map _).congr ?_
        exact ⟨fun both _ => both.2, fun needed => ⟨terminated, needed rfl⟩⟩

theorem checkedChecks_guards :
    Guards (layout.checkedChecks primitives outcomes paramTypes memory state)
      (layout.Inside primitives outcomes paramTypes memory state)
      (layout.checks primitives outcomes paramTypes memory state) := by
  unfold checkedChecks checks
  by_cases types : paramTypes = layout.paramTypes
  · rw [if_neg (not_not.mpr types), if_neg (not_not.mpr types)]
    have conditions : layout.Inside primitives outcomes paramTypes memory state ↔
        layout.offsetOp + 4 ≤ memory.length ∧ ∀ repo,
          layout.Finds paramTypes memory state repo →
            layout.KeyInside primitives outcomes memory repo := by
      rw [Inside, imp_iff_right types]
    refine ((checkedUint32_guards memory layout.offsetOp).bind fun hasOp => ?_).congr
      conditions.symm
    change Guards (if layout.op memory ≠ layout.firstOp ∧ layout.op memory ≠ layout.secondOp
      then _ else _) _ _
    by_cases other : layout.op memory ≠ layout.firstOp ∧ layout.op memory ≠ layout.secondOp
    · rw [if_pos other, if_pos other]
      refine (Guards.pure _).congr (iff_of_true trivial fun repo finds => ?_)
      rcases finds.op with isFirst | isSecond
      · exact absurd isFirst other.1
      · exact absurd isSecond other.2
    · rw [if_neg other, if_neg other]
      have hasRepId : layout.offsetRepId + 4 ≤ memory.length := by
        have order := layout.repIdFirst
        omega
      rw [(checkedUint32_guards memory layout.offsetRepId).of_inside hasRepId, Option.bind_some]
      cases found : state.slot (uint32At memory layout.offsetRepId).toNat with
      | none =>
          rw [validateAndGetRepo_none found]
          refine (Guards.pure _).congr (iff_of_true trivial fun repo finds => ?_)
          rw [finds.found] at found
          cases found
      | some repo =>
          rw [validateAndGetRepo_some found]
          have finds : layout.Finds paramTypes memory state repo := ⟨types, by tauto, found⟩
          refine (layout.checkedKeyChecks_guards primitives outcomes memory repo).congr ?_
          constructor
          · intro inside stored again
            have equal : some repo = some stored := found.symm.trans again.found
            cases equal
            exact inside
          · intro inside
            exact inside repo finds
  · rw [if_pos types, if_pos types]
    exact (Guards.pure _).congr (iff_of_true trivial ⟨fun same => absurd same types,
      fun repo finds => absurd finds.types types⟩)

end MessageLayout

/-! ## The two messages -/

theorem checkedUint32_of_later {memory : List UInt8} {first second : Nat} (order : first + 4 ≤ second)
    (terminated : 0 ∈ memory.drop second) :
    checkedUint32 memory first = some (uint32At memory first) := by
  apply (checkedUint32_guards memory first).of_inside
  have below := List.length_pos_of_mem terminated
  rw [List.length_drop] at below
  omega

theorem checkedStringAt_of_later {memory : List UInt8} {first second : Nat} (order : first ≤ second)
    (terminated : 0 ∈ memory.drop second) :
    checkedStringAt memory first = some (stringAt memory first) := by
  apply (checkedStringAt_guards memory first).of_inside
  exact List.drop_subset_drop_left memory order terminated

/-- `data_to_verify` of `access_control`. -/
def checkedAccessControlText (memory : List UInt8) : Option CString :=
  (checkedUint32 memory offsetAcRepId).bind fun repId =>
    (checkedUint32 memory offsetAcOp).bind fun op =>
      (checkedUint32 memory offsetAcRole).bind fun role =>
        (checkedStringAt memory offsetAcPubkey).map fun pubkey =>
          accessControlText ⟨repId, op, role, pubkey, .empty, .empty⟩

/-- `data_to_verify` of `commit`. -/
def checkedCommitText (memory : List UInt8) : Option CString :=
  (checkedUint32 memory offsetCmRepId).bind fun repId =>
    (checkedUint32 memory offsetCmOp).bind fun op =>
      (checkedStringAt memory offsetCmCommitHash).map fun commitHash =>
        commitText ⟨repId, op, commitHash, .empty, .empty⟩

theorem checkedAccessControlText_of_sigkey (memory : List UInt8)
    (terminated : 0 ∈ memory.drop offsetAcSigkey) :
    checkedAccessControlText memory =
      some (accessControlText (accessControlMessageAt memory)) := by
  rw [checkedAccessControlText,
    checkedUint32_of_later (by decide : offsetAcRepId + 4 ≤ offsetAcSigkey) terminated,
    checkedUint32_of_later (by decide : offsetAcOp + 4 ≤ offsetAcSigkey) terminated,
    checkedUint32_of_later (by decide : offsetAcRole + 4 ≤ offsetAcSigkey) terminated,
    checkedStringAt_of_later (by decide : offsetAcPubkey ≤ offsetAcSigkey) terminated]
  rfl

theorem checkedCommitText_of_sigkey (memory : List UInt8)
    (terminated : 0 ∈ memory.drop offsetCmSigkey) :
    checkedCommitText memory = some (commitText (commitMessageAt memory)) := by
  rw [checkedCommitText,
    checkedUint32_of_later (by decide : offsetCmRepId + 4 ≤ offsetCmSigkey) terminated,
    checkedUint32_of_later (by decide : offsetCmOp + 4 ≤ offsetCmSigkey) terminated,
    checkedStringAt_of_later (by decide : offsetCmCommitHash ≤ offsetCmSigkey) terminated]
  rfl

def accessControlLayout : MessageLayout where
  paramTypes := teeParamTypes memrefInput memrefOutput paramNone paramNone
  firstOp := opAdd
  secondOp := opDelete
  offsetRepId := offsetAcRepId
  offsetOp := offsetAcOp
  offsetSigkey := offsetAcSigkey
  offsetSignature := offsetAcSignature
  sets := fun repo => [repo.adminKeys]
  text := fun memory => accessControlText (accessControlMessageAt memory)
  checkedText := checkedAccessControlText
  repIdFirst := by decide
  textFirst := checkedAccessControlText_of_sigkey

def commitLayout : MessageLayout where
  paramTypes := teeParamTypes memrefInput memrefInout memrefOutput paramNone
  firstOp := opPush
  secondOp := opPr
  offsetRepId := offsetCmRepId
  offsetOp := offsetCmOp
  offsetSigkey := offsetCmSigkey
  offsetSignature := offsetCmSignature
  sets := fun repo => [repo.adminKeys, repo.writerKeys]
  text := fun memory => commitText (commitMessageAt memory)
  checkedText := checkedCommitText
  repIdFirst := by decide
  textFirst := checkedCommitText_of_sigkey

/-- The fields of `ac_msg` that are read after the checks. -/
def checkedAccessControlMessage (memory : List UInt8) : Option AccessControlMessage :=
  (checkedUint32 memory offsetAcRepId).bind fun repId =>
    (checkedUint32 memory offsetAcOp).bind fun op =>
      (checkedUint32 memory offsetAcRole).bind fun role =>
        (checkedStringAt memory offsetAcPubkey).bind fun pubkey =>
          (checkedStringAt memory offsetAcSigkey).bind fun sigkey =>
            (checkedStringAt memory offsetAcSignature).map fun signature =>
              ⟨repId, op, role, pubkey, sigkey, signature⟩

/-- The fields of `cm_msg` that are read after the checks. -/
def checkedCommitMessage (memory : List UInt8) : Option CommitMessage :=
  (checkedUint32 memory offsetCmRepId).bind fun repId =>
    (checkedUint32 memory offsetCmOp).bind fun op =>
      (checkedStringAt memory offsetCmCommitHash).bind fun commitHash =>
        (checkedStringAt memory offsetCmSigkey).bind fun sigkey =>
          (checkedStringAt memory offsetCmSignature).map fun signature =>
            ⟨repId, op, commitHash, sigkey, signature⟩

/-- The signature is the last field, so where it ends everything else is inside. -/
theorem checkedAccessControlMessage_of_signature {memory : List UInt8}
    (terminated : 0 ∈ memory.drop offsetAcSignature) :
    checkedAccessControlMessage memory = some (accessControlMessageAt memory) := by
  rw [checkedAccessControlMessage,
    checkedUint32_of_later (by decide : offsetAcRepId + 4 ≤ offsetAcSignature) terminated,
    checkedUint32_of_later (by decide : offsetAcOp + 4 ≤ offsetAcSignature) terminated,
    checkedUint32_of_later (by decide : offsetAcRole + 4 ≤ offsetAcSignature) terminated,
    checkedStringAt_of_later (by decide : offsetAcPubkey ≤ offsetAcSignature) terminated,
    checkedStringAt_of_later (by decide : offsetAcSigkey ≤ offsetAcSignature) terminated,
    checkedStringAt_of_later (by decide : offsetAcSignature ≤ offsetAcSignature) terminated]
  rfl

theorem checkedCommitMessage_of_signature {memory : List UInt8}
    (terminated : 0 ∈ memory.drop offsetCmSignature) :
    checkedCommitMessage memory = some (commitMessageAt memory) := by
  rw [checkedCommitMessage,
    checkedUint32_of_later (by decide : offsetCmRepId + 4 ≤ offsetCmSignature) terminated,
    checkedUint32_of_later (by decide : offsetCmOp + 4 ≤ offsetCmSignature) terminated,
    checkedStringAt_of_later (by decide : offsetCmCommitHash ≤ offsetCmSignature) terminated,
    checkedStringAt_of_later (by decide : offsetCmSigkey ≤ offsetCmSignature) terminated,
    checkedStringAt_of_later (by decide : offsetCmSignature ≤ offsetCmSignature) terminated]
  rfl

section Layouts

variable (primitives : Primitives) (outcomes : CallOutcomes) (paramTypes : UInt32)
  (memory : List UInt8) (state : TaState)

theorem accessControlLayout_checks :
    accessControlLayout.checks primitives outcomes paramTypes memory state =
      accessControlChecks primitives outcomes paramTypes (accessControlMessageAt memory) state := by
  have known : ∀ repo, accessControlLayout.knows memory repo =
      keyExistsInSet repo.adminKeys (accessControlMessageAt memory).sigkey :=
    fun repo => Bool.or_false _
  unfold MessageLayout.checks MessageLayout.keyChecks MessageLayout.verdict accessControlChecks
  simp only [known]
  rfl

theorem commitLayout_checks :
    commitLayout.checks primitives outcomes paramTypes memory state =
      commitChecks primitives outcomes paramTypes (commitMessageAt memory) state := by
  have known : ∀ repo, commitLayout.knows memory repo = false ↔
      keyExistsInSet repo.adminKeys (commitMessageAt memory).sigkey = false ∧
        keyExistsInSet repo.writerKeys (commitMessageAt memory).sigkey = false := by
    intro repo
    change (keyExistsInSet repo.adminKeys _ || (keyExistsInSet repo.writerKeys _ || false)) = _ ↔ _
    rw [Bool.or_false, Bool.or_eq_false_iff]
    rfl
  unfold MessageLayout.checks MessageLayout.keyChecks MessageLayout.verdict commitChecks
  simp only [known]
  rfl

end Layouts

/-- Whoever passes the checks has shown a signature, which ends inside the
reference if the checks stay inside it. -/
theorem MessageLayout.Inside.signature {layout : MessageLayout} {primitives : Primitives}
    {outcomes : CallOutcomes} {paramTypes : UInt32} {memory : List UInt8} {state : TaState}
    {repo : RepoMetadata} (inside : layout.Inside primitives outcomes paramTypes memory state)
    (passed : layout.checks primitives outcomes paramTypes memory state = .ok repo) :
    0 ∈ memory.drop layout.offsetSignature := by
  unfold MessageLayout.checks at passed
  split at passed
  · cases passed
  · rename_i types
    split at passed
    · cases passed
    · rename_i op
      cases found : state.slot (uint32At memory layout.offsetRepId).toNat with
      | none =>
          rw [validateAndGetRepo_none found] at passed
          cases passed
      | some stored =>
          have finds : layout.Finds paramTypes memory state stored :=
            ⟨not_not.mp types, by tauto, found⟩
          simp only [validateAndGetRepo_some found, MessageLayout.keyChecks] at passed
          split at passed
          · cases passed
          · rename_i known
            apply (inside.2 stored finds).2 (Bool.not_eq_false _ ▸ known)
            cases verified : verifySignature primitives outcomes.verify (layout.text memory)
                (layout.sigkey memory) (stringAt memory layout.offsetSignature) with
            | error code =>
                rw [verified] at passed
                cases passed
            | ok done => exact readsSignature_of_verified verified

/-! ## Replies -/

/-- How many bytes a handler copies into each memory reference. -/
def Output.copied : Output → Fin 4 → Nat
  | genesis _ _ => ![0, 0, sizeofAccessBlock, 0]
  | accessBlock _ => ![0, sizeofAccessBlock, 0, 0]
  | latestHash nonce hash signature =>
      ![0, 0, (latestHashMsg nonce hash).length, signature.length + 1]
  | contribution _ decryptedKey => ![0, decryptedKey.length + 1, sizeofContributionBlock, 0]
  | publicKey pem _ => ![pem.length, 0, 0, 0]

/-- Every reference is at least as large as what is copied into it. -/
def Output.Fits (memory : Fin 4 → List UInt8) (output : Output) : Prop :=
  ∀ index, output.copied index ≤ (memory index).length

instance (memory : Fin 4 → List UInt8) (output : Output) : Decidable (output.Fits memory) :=
  inferInstanceAs (Decidable (∀ _, _))

/-- A reply whose output, if it has one, fits. -/
def ReplyFits (memory : Fin 4 → List UInt8) (reply : TeeResult Output × TaState) : Prop :=
  ∀ output, reply.1 = .ok output → output.Fits memory

/-- The copies into the references at the end of a handler. -/
def checkedReply (memory : Fin 4 → List UInt8) (reply : TeeResult Output × TaState) :
    Option (TeeResult Output × TaState) :=
  match reply.1 with
  | .error _ => some reply
  | .ok output => if output.Fits memory then some reply else none

theorem replyFits_error (memory : Fin 4 → List UInt8) (code : TeeError) (after : TaState) :
    ReplyFits memory (.error code, after) := by
  intro output impossible
  cases impossible

theorem checkedReply_guards (memory : Fin 4 → List UInt8) (reply : TeeResult Output × TaState) :
    Guards (checkedReply memory reply) (ReplyFits memory reply) reply := by
  rcases reply with ⟨answer, after⟩
  cases answer with
  | error code =>
      exact (Guards.pure _).congr (iff_of_true trivial (replyFits_error memory code after))
  | ok output =>
      have conditions : ReplyFits memory (.ok output, after) ↔ output.Fits memory := by
        constructor
        · intro fits
          exact fits output rfl
        · intro fits other same
          cases same
          exact fits
      refine Guards.congr ?_ conditions.symm
      exact ⟨fun fits => if_pos fits, fun outside => if_neg outside⟩

/-! ## `get_latest_hash` and the texts that it finds -/

/-- `get_latest_hash`, where these texts are found at `latest_hash`. -/
def getLatestHashReading (primitives : Primitives) (texts : Nat → CString)
    (outcomes : CallOutcomes) (paramTypes repId nonce : UInt32) (state : TaState) :
    TeeResult Output × TaState :=
  if paramTypes ≠ teeParamTypes valueInput valueInput memrefOutput memrefOutput then
    (.error .badParameters, state)
  else
    match validateAndGetRepo state repId with
    | .error code => (.error code, state)
    | .ok _ =>
        match teeSignData primitives outcomes.hash outcomes.sign
            (latestHashMsg nonce (texts repId.toNat)) state.keyStore with
        | (.error code, store) => (.error code, state.setKeyStore store)
        | (.ok signature, store) =>
            (.ok (.latestHash nonce (texts repId.toNat) signature), state.setKeyStore store)

/-- `TA_InvokeCommandEntryPoint`, where these texts are found. -/
def invokeReading (primitives : Primitives) (texts : Nat → CString) (state : TaState)
    (call : Call) : TeeResult Output × TaState :=
  if call.cmdId = cmdGetLatestHash then
    getLatestHashReading primitives texts call.outcomes call.paramTypes call.params.repId
      call.params.nonce state
  else taInvokeCommandEntryPoint primitives state call

/-- Whatever text is found, the command fails as it does without, or it succeeds
as it does without and hands out the text. -/
inductive ReadsAs (primitives : Primitives) (texts : Nat → CString) (state : TaState)
    (call : Call) : TeeResult Output × TaState → TeeResult Output × TaState → Prop
  | same (reply : TeeResult Output × TaState)
      (noText : ∀ output, reply.1 = .ok output → call.cmdId ≠ cmdGetLatestHash) :
      ReadsAs primitives texts state call reply reply
  | hashRead (repo : RepoMetadata) (signature signed : CString) (store : KeyStore)
      (asks : call.AsksHash state repo) (length : signature.length = 512) :
      ReadsAs primitives texts state call
        (.ok (.latestHash call.params.nonce (texts call.params.repId.toNat) signature),
          state.setKeyStore store)
        (.ok (.latestHash call.params.nonce repo.latestHash signed), state.setKeyStore store)

theorem invokeReading_readsAs (primitives : Primitives) (texts : Nat → CString) (state : TaState)
    (call : Call) :
    ReadsAs primitives texts state call (invokeReading primitives texts state call)
      (taInvokeCommandEntryPoint primitives state call) := by
  unfold invokeReading
  by_cases isCommand : call.cmdId = cmdGetLatestHash
  · rw [if_pos isCommand, invoke_getLatestHash primitives state isCommand]
    unfold getLatestHashReading getLatestHash
    by_cases types : call.paramTypes = teeParamTypes valueInput valueInput memrefOutput memrefOutput
    · rw [if_neg (not_not.mpr types), if_neg (not_not.mpr types)]
      cases found : state.slot call.params.repId.toNat with
      | none =>
          simp only [validateAndGetRepo_none found]
          exact .same _ fun _ impossible => by cases impossible
      | some repo =>
          simp only [validateAndGetRepo_some found]
          rcases teeSignData_alike primitives call.outcomes.hash call.outcomes.sign
              (latestHashMsg call.params.nonce (texts call.params.repId.toNat))
              (latestHashMsg call.params.nonce repo.latestHash) state.keyStore with
            ⟨code, store, failed, alike⟩ | ⟨signature, signed, store, withText, withHash⟩
          · simp only [failed, alike]
            exact .same _ fun _ impossible => by cases impossible
          · simp only [withText, withHash]
            exact .hashRead repo signature signed store ⟨isCommand, types, found⟩
              (length_of_teeSignData withText)
    · rw [if_pos types, if_pos types]
      exact .same _ fun _ impossible => by cases impossible
  · rw [if_neg isCommand]
    exact .same _ fun _ _ => isCommand

/-! ## The handlers -/

section Handlers

variable (primitives : Primitives) (texts : Nat → CString) (state : TaState) (call : MemoryCall)

/-- `init_repo`.  The key of the founder is first read after the new slot has been
allocated, by the `strcpy` to `founder_key`. -/
def checkedInitRepo : Option (TeeResult Output × TaState) :=
  if call.paramTypes ≠ teeParamTypes memrefInput valueOutput memrefOutput paramNone then
    some (.error .badParameters, state)
  else if maxRepoId ≤ state.repoNum.toNat then some (.error .outOfMemory, state)
  else if call.outcomes.mallocRepo = false then
    some (.error .outOfMemory, state.setSlot state.repoNum.toNat none)
  else
    (checkedStrcpy (call.memory 0) maxKeyLength).bind fun adminKey =>
      checkedReply call.memory
        (initRepo primitives call.outcomes call.paramTypes adminKey state)

/-- `access_control` from the update of the key lists on. -/
def updateAndAppend (outcomes : CallOutcomes) (msg : AccessControlMessage) (repo : RepoMetadata) :
    TeeResult Output × TaState :=
  match updateKeySets outcomes.node repo msg.op msg.role msg.pubkey with
  | (.error code, repo) => (.error code, state.setSlot msg.repId.toNat (some repo))
  | (.ok (), repo) =>
      appendAccessBlock primitives outcomes msg repo (state.setSlot msg.repId.toNat (some repo))

/-- `access_control`. -/
def checkedAccessControl : Option (TeeResult Output × TaState) :=
  (accessControlLayout.checkedChecks primitives call.outcomes call.paramTypes (call.memory 0)
    state).bind fun checked =>
      match checked with
      | .error code => some (.error code, state)
      | .ok repo =>
          (checkedAccessControlMessage (call.memory 0)).bind fun msg =>
            checkedReply call.memory (updateAndAppend primitives state call.outcomes msg repo)

/-- `get_latest_hash`.  The message is written in front of the signing. -/
def checkedGetLatestHash : Option (TeeResult Output × TaState) :=
  if call.paramTypes ≠ teeParamTypes valueInput valueInput memrefOutput memrefOutput then
    some (.error .badParameters, state)
  else
    match validateAndGetRepo state (call.valueA 0) with
    | .error code => some (.error code, state)
    | .ok _ =>
        (checkedStore (call.memory 2)
          (latestHashMsg (call.valueA 1) (texts (call.valueA 0).toNat)).length).bind fun _ =>
            checkedReply call.memory
              (getLatestHashReading primitives texts call.outcomes call.paramTypes (call.valueA 0)
                (call.valueA 1) state)

/-- `commit`.  The key to be decrypted is read after the block has been signed. -/
def checkedCommit : Option (TeeResult Output × TaState) :=
  (commitLayout.checkedChecks primitives call.outcomes call.paramTypes (call.memory 0)
    state).bind fun checked =>
      match checked with
      | .error code => some (.error code, state)
      | .ok repo =>
          (checkedCommitMessage (call.memory 0)).bind fun msg =>
            match hashAndSign primitives call.outcomes.sign
                (calculateContributionBlockHash primitives call.outcomes.hash
                  (nextContributionBlock repo msg call.outcomes.time)) state.keyStore with
            | (.error code, store) => some (.error code, state.setKeyStore store)
            | (.ok _, _) =>
                (checkedStringAt (call.memory 1) 0).bind fun encryptedKey =>
                  checkedReply call.memory
                    (commit primitives call.outcomes call.paramTypes msg encryptedKey state)

/-- `get_tee_public_key`. -/
def checkedGetTeePublicKey : Option (TeeResult Output × TaState) :=
  checkedReply call.memory
    (getTeePublicKey primitives call.outcomes call.paramTypes false (call.memory 0).length, state)

/-- `TA_InvokeCommandEntryPoint`. -/
def checkedInvokeCommand : Option (TeeResult Output × TaState) :=
  if call.cmdId = cmdInitRepo then checkedInitRepo primitives state call
  else if call.cmdId = cmdAccessControl then checkedAccessControl primitives state call
  else if call.cmdId = cmdGetLatestHash then checkedGetLatestHash primitives texts state call
  else if call.cmdId = cmdCommit then checkedCommit primitives state call
  else if call.cmdId = cmdGetTeePubkey then checkedGetTeePublicKey primitives state call
  else some (.error .badParameters, state)

/-- What the handlers get to see of the references lies inside them, and so does
the message of `get_latest_hash`, which is written in front of the signing; and
the founder's key has room in its field. -/
structure ReadsInside : Prop where
  adminKey : call.toCall.OpensRepo state → 0 ∈ fieldOf (call.memory 0) 0 maxKeyLength
  access : call.cmdId = cmdAccessControl →
    accessControlLayout.Inside primitives call.outcomes call.paramTypes (call.memory 0) state
  latestHash : ∀ repo, call.toCall.AsksHash state repo →
    (latestHashMsg (call.valueA 1) (texts (call.valueA 0).toNat)).length ≤ (call.memory 2).length
  commit : call.cmdId = cmdCommit →
    commitLayout.Inside primitives call.outcomes call.paramTypes (call.memory 0) state
  encryptedKey : ∀ repo, call.toCall.CommitAccepted primitives state repo → call.toCall.Seals →
    0 ∈ call.memory 1

/-- An exit with an error code touches no reference. -/
theorem refused_guards {reads : Prop} (memory : Fin 4 → List UInt8) (code : TeeError)
    (after : TaState) (nothing : reads) :
    Guards (some ((.error code, after) : TeeResult Output × TaState))
      (reads ∧ ReplyFits memory (.error code, after)) (.error code, after) :=
  (Guards.pure _).congr (iff_of_true trivial ⟨nothing, replyFits_error memory code after⟩)

theorem checkedInitRepo_guards (isCommand : call.cmdId = cmdInitRepo) :
    Guards (checkedInitRepo primitives state call)
      ((call.toCall.OpensRepo state → 0 ∈ fieldOf (call.memory 0) 0 maxKeyLength) ∧
        ReplyFits call.memory (initRepo primitives call.outcomes call.paramTypes
          call.toCall.params.adminKey state))
      (initRepo primitives call.outcomes call.paramTypes call.toCall.params.adminKey state) := by
  unfold checkedInitRepo
  by_cases types : call.paramTypes = teeParamTypes memrefInput valueOutput memrefOutput paramNone
  · by_cases full : maxRepoId ≤ state.repoNum.toNat
    · have reply : initRepo primitives call.outcomes call.paramTypes call.toCall.params.adminKey
          state = (.error .outOfMemory, state) := by
        rw [initRepo, if_neg (not_not.mpr types), if_pos full]
      rw [if_neg (not_not.mpr types), if_pos full, reply]
      apply refused_guards
      intro opens
      exact absurd opens.room (by omega)
    · cases allocated : call.outcomes.mallocRepo with
      | false =>
          have reply : initRepo primitives call.outcomes call.paramTypes
              call.toCall.params.adminKey state =
                (.error .outOfMemory, state.setSlot state.repoNum.toNat none) := by
            rw [initRepo, if_neg (not_not.mpr types), if_neg full, if_pos allocated]
          rw [if_neg (not_not.mpr types), if_neg full, if_pos rfl, reply]
          apply refused_guards
          intro opens
          have isTrue : call.outcomes.mallocRepo = true := opens.mallocRepo
          rw [allocated] at isTrue
          cases isTrue
      | true =>
          have opens : call.toCall.OpensRepo state := ⟨isCommand, types, by omega, allocated⟩
          rw [if_neg (not_not.mpr types), if_neg full, if_neg Bool.true_eq_false.mp]
          refine ((checkedStrcpy_guards (call.memory 0) maxKeyLength).bind
            fun _ => checkedReply_guards call.memory _).congr ?_
          exact and_congr_left fun _ => (imp_iff_right opens).symm
  · have reply : initRepo primitives call.outcomes call.paramTypes call.toCall.params.adminKey
        state = (.error .badParameters, state) := by
      rw [initRepo, if_pos types]
    rw [if_pos types, reply]
    apply refused_guards
    intro opens
    exact absurd opens.types types

/-- `access_control` behind its checks. -/
def finishAccessControl (outcomes : CallOutcomes) (msg : AccessControlMessage) :
    TeeResult RepoMetadata → TeeResult Output × TaState
  | .error code => (.error code, state)
  | .ok repo => updateAndAppend primitives state outcomes msg repo

theorem accessControl_eq (outcomes : CallOutcomes) (paramTypes : UInt32)
    (msg : AccessControlMessage) :
    accessControl primitives outcomes paramTypes msg state =
      finishAccessControl primitives state outcomes msg
        (accessControlChecks primitives outcomes paramTypes msg state) := by
  unfold accessControl finishAccessControl
  cases accessControlChecks primitives outcomes paramTypes msg state <;> rfl

theorem checkedAccessControl_guards :
    Guards (checkedAccessControl primitives state call)
      (accessControlLayout.Inside primitives call.outcomes call.paramTypes (call.memory 0) state ∧
        ReplyFits call.memory (accessControl primitives call.outcomes call.paramTypes
          call.toCall.params.acMsg state))
      (accessControl primitives call.outcomes call.paramTypes call.toCall.params.acMsg state) := by
  have checks : accessControlChecks primitives call.outcomes call.paramTypes
      call.toCall.params.acMsg state = accessControlLayout.checks primitives call.outcomes
        call.paramTypes (call.memory 0) state :=
    (accessControlLayout_checks _ _ _ _ _).symm
  rw [accessControl_eq, checks]
  refine (accessControlLayout.checkedChecks_guards primitives call.outcomes call.paramTypes
    (call.memory 0) state).bind fun inside => ?_
  cases checked : accessControlLayout.checks primitives call.outcomes call.paramTypes
      (call.memory 0) state with
  | error code =>
      exact (Guards.pure _).congr (iff_of_true trivial (replyFits_error call.memory code state))
  | ok repo =>
      simp only [checkedAccessControlMessage_of_signature (inside.signature checked),
        Option.bind_some]
      exact checkedReply_guards call.memory _

theorem checkedGetLatestHash_guards (isCommand : call.cmdId = cmdGetLatestHash) :
    Guards (checkedGetLatestHash primitives texts state call)
      ((∀ repo, call.toCall.AsksHash state repo →
          (latestHashMsg (call.valueA 1) (texts (call.valueA 0).toNat)).length ≤
            (call.memory 2).length) ∧
        ReplyFits call.memory (getLatestHashReading primitives texts call.outcomes call.paramTypes
          (call.valueA 0) (call.valueA 1) state))
      (getLatestHashReading primitives texts call.outcomes call.paramTypes (call.valueA 0)
        (call.valueA 1) state) := by
  unfold checkedGetLatestHash
  by_cases types : call.paramTypes = teeParamTypes valueInput valueInput memrefOutput memrefOutput
  · cases found : state.slot (call.valueA 0).toNat with
    | none =>
        have reply : getLatestHashReading primitives texts call.outcomes call.paramTypes
            (call.valueA 0) (call.valueA 1) state = (.error .itemNotFound, state) := by
          rw [getLatestHashReading, if_neg (not_not.mpr types), validateAndGetRepo_none found]
        rw [if_neg (not_not.mpr types), reply, validateAndGetRepo_none found]
        apply refused_guards
        intro repo asks
        have stored : state.slot (call.valueA 0).toNat = some repo := asks.found
        rw [found] at stored
        cases stored
    | some repo =>
        have asks : call.toCall.AsksHash state repo := ⟨isCommand, types, found⟩
        rw [if_neg (not_not.mpr types), validateAndGetRepo_some found]
        refine ((checkedStore_guards _ _).bind
          fun _ => checkedReply_guards call.memory _).congr ?_
        refine and_congr_left fun _ => ⟨fun room stored again => ?_, fun room => room repo asks⟩
        have equal : some repo = some stored := asks.found.symm.trans again.found
        cases equal
        exact room
  · have reply : getLatestHashReading primitives texts call.outcomes call.paramTypes
        (call.valueA 0) (call.valueA 1) state = (.error .badParameters, state) := by
      rw [getLatestHashReading, if_pos types]
    rw [if_pos types, reply]
    apply refused_guards
    intro repo asks
    exact absurd asks.types types

theorem checkedCommit_guards (isCommand : call.cmdId = cmdCommit) :
    Guards (checkedCommit primitives state call)
      (commitLayout.Inside primitives call.outcomes call.paramTypes (call.memory 0) state ∧
        (∀ repo, call.toCall.CommitAccepted primitives state repo → call.toCall.Seals →
          0 ∈ call.memory 1) ∧
        ReplyFits call.memory (commit primitives call.outcomes call.paramTypes
          call.toCall.params.cmMsg call.toCall.params.encryptedKey state))
      (commit primitives call.outcomes call.paramTypes call.toCall.params.cmMsg
        call.toCall.params.encryptedKey state) := by
  have checks : commitChecks primitives call.outcomes call.paramTypes
      call.toCall.params.cmMsg state = commitLayout.checks primitives call.outcomes
        call.paramTypes (call.memory 0) state :=
    (commitLayout_checks _ _ _ _ _).symm
  refine (commitLayout.checkedChecks_guards primitives call.outcomes call.paramTypes
    (call.memory 0) state).bind fun inside => ?_
  cases checked : commitLayout.checks primitives call.outcomes call.paramTypes
      (call.memory 0) state with
  | error code =>
      have reply : commit primitives call.outcomes call.paramTypes call.toCall.params.cmMsg
          call.toCall.params.encryptedKey state = (.error code, state) := by
        rw [commit, checks, checked]
      rw [reply]
      apply refused_guards
      intro repo accepted
      have passed : commitChecks primitives call.outcomes call.paramTypes
          call.toCall.params.cmMsg state = .ok repo := commitChecks_eq_ok_iff.mpr accepted.2
      rw [checks, checked] at passed
      cases passed
  | ok repo =>
      have accepted : call.toCall.CommitAccepted primitives state repo :=
        ⟨isCommand, commitChecks_eq_ok_iff.mp (checks.trans checked)⟩
      simp only [checkedCommitMessage_of_signature (inside.signature checked), Option.bind_some]
      rcases hashAndSign_cases primitives call.outcomes
          (contributionDataBuffer (nextContributionBlock repo call.toCall.params.cmMsg
            call.outcomes.time)) state.keyStore with
        ⟨teeSig, signedStore, signed, sealed⟩ | ⟨unsealed, code, store, sealed⟩
      · have seals : call.toCall.Seals := ⟨signed.hashed, signed.signs⟩
        have signing : hashAndSign primitives call.outcomes.sign
            (calculateContributionBlockHash primitives call.outcomes.hash
              (nextContributionBlock repo (commitMessageAt (call.memory 0)) call.outcomes.time))
            state.keyStore = _ := sealed
        simp only [signing]
        refine ((checkedStringAt_guards (call.memory 1) 0).bind
          fun _ => checkedReply_guards call.memory _).congr ?_
        apply and_congr_left
        intro fits
        exact ⟨fun terminated _ _ _ => terminated, fun needed => needed repo accepted seals⟩
      · have signing : hashAndSign primitives call.outcomes.sign
            (calculateContributionBlockHash primitives call.outcomes.hash
              (nextContributionBlock repo (commitMessageAt (call.memory 0)) call.outcomes.time))
            state.keyStore = _ := sealed
        have reply : commit primitives call.outcomes call.paramTypes call.toCall.params.cmMsg
            call.toCall.params.encryptedKey state = (.error code, state.setKeyStore store) := by
          rw [commit, checks, checked]
          simp only [calculateContributionBlockHash, sealed]
        rw [reply]
        simp only [signing]
        apply refused_guards
        intro stored again seals
        exact absurd seals unsealed

/-- What `ReadsInside` asks of one command, if no other is meant. -/
theorem readsInside_of_command {command : UInt32} (isCommand : call.cmdId = command)
    (adminKey : command = cmdInitRepo → call.toCall.OpensRepo state →
      0 ∈ fieldOf (call.memory 0) 0 maxKeyLength)
    (access : command = cmdAccessControl → accessControlLayout.Inside primitives call.outcomes
      call.paramTypes (call.memory 0) state)
    (latestHash : command = cmdGetLatestHash → ∀ repo, call.toCall.AsksHash state repo →
      (latestHashMsg (call.valueA 1) (texts (call.valueA 0).toNat)).length ≤
        (call.memory 2).length)
    (commit : command = cmdCommit → commitLayout.Inside primitives call.outcomes
      call.paramTypes (call.memory 0) state)
    (encryptedKey : command = cmdCommit → ∀ repo, call.toCall.CommitAccepted primitives state repo →
      call.toCall.Seals → 0 ∈ call.memory 1) :
    ReadsInside primitives texts state call where
  adminKey := fun opens => adminKey (isCommand.symm.trans opens.isCommand) opens
  access := fun isAccess => access (isCommand.symm.trans isAccess)
  latestHash := fun repo asks => latestHash (isCommand.symm.trans asks.isCommand) repo asks
  commit := fun isCommit => commit (isCommand.symm.trans isCommit)
  encryptedKey := fun repo accepted =>
    encryptedKey (isCommand.symm.trans accepted.1) repo accepted

/-- A command with checked indices answers as the command without checks, unless
it leaves a reference; then it stops. -/
theorem checkedInvokeCommand_guards :
    Guards (checkedInvokeCommand primitives texts state call)
      (ReadsInside primitives texts state call ∧
        ReplyFits call.memory (invokeReading primitives texts state call.toCall))
      (invokeReading primitives texts state call.toCall) := by
  have noText : ∀ command, call.cmdId = command → command ≠ cmdGetLatestHash →
      invokeReading primitives texts state call.toCall =
        taInvokeCommandEntryPoint primitives state call.toCall := by
    intro command isCommand different
    apply if_neg
    rw [← isCommand] at different
    exact different
  unfold checkedInvokeCommand
  by_cases isInit : call.cmdId = cmdInitRepo
  · rw [if_pos isInit, noText cmdInitRepo isInit (by decide), invoke_initRepo primitives state isInit]
    refine (checkedInitRepo_guards primitives state call isInit).congr (and_congr_left fun _ => ?_)
    refine ⟨fun adminKey => ?_, ReadsInside.adminKey⟩
    apply readsInside_of_command primitives texts state call isInit (fun _ => adminKey)
    all_goals exact fun impossible => absurd impossible (by decide)
  rw [if_neg isInit]
  by_cases isAccess : call.cmdId = cmdAccessControl
  · rw [if_pos isAccess, noText cmdAccessControl isAccess (by decide),
      invoke_accessControl primitives state isAccess]
    refine (checkedAccessControl_guards primitives state call).congr (and_congr_left fun _ => ?_)
    refine ⟨fun access => ?_, fun reads => reads.access isAccess⟩
    apply readsInside_of_command primitives texts state call isAccess
    case access => exact fun _ => access
    all_goals exact fun impossible => absurd impossible (by decide)
  rw [if_neg isAccess]
  by_cases isLatestHash : call.cmdId = cmdGetLatestHash
  · have reading : invokeReading primitives texts state call.toCall =
        getLatestHashReading primitives texts call.outcomes call.paramTypes (call.valueA 0)
          (call.valueA 1) state := if_pos isLatestHash
    rw [if_pos isLatestHash, reading]
    refine (checkedGetLatestHash_guards primitives texts state call isLatestHash).congr
      (and_congr_left fun _ => ?_)
    refine ⟨fun latestHash => ?_, ReadsInside.latestHash⟩
    apply readsInside_of_command primitives texts state call isLatestHash
    case latestHash => exact fun _ => latestHash
    all_goals exact fun impossible => absurd impossible (by decide)
  rw [if_neg isLatestHash]
  by_cases isCommit : call.cmdId = cmdCommit
  · rw [if_pos isCommit, noText cmdCommit isCommit (by decide),
      invoke_commit primitives state isCommit]
    refine (checkedCommit_guards primitives state call isCommit).congr ?_
    rw [← and_assoc]
    refine and_congr_left fun _ => ⟨fun both => ?_,
      fun reads => ⟨reads.commit isCommit, reads.encryptedKey⟩⟩
    apply readsInside_of_command primitives texts state call isCommit
    case commit => exact fun _ => both.1
    case encryptedKey => exact fun _ => both.2
    all_goals exact fun impossible => absurd impossible (by decide)
  have nothing : ReadsInside primitives texts state call :=
    { adminKey := fun opens => absurd opens.isCommand isInit
      access := fun same => absurd same isAccess
      latestHash := fun repo asks => absurd asks.isCommand isLatestHash
      commit := fun same => absurd same isCommit
      encryptedKey := fun repo accepted => absurd accepted.1 isCommit }
  have reply : invokeReading primitives texts state call.toCall =
      if call.cmdId = cmdGetTeePubkey then
        (getTeePublicKey primitives call.outcomes call.paramTypes false (call.memory 0).length, state)
      else (.error .badParameters, state) := by
    rw [noText call.cmdId rfl isLatestHash]
    unfold taInvokeCommandEntryPoint
    exact (if_neg isInit).trans ((if_neg isAccess).trans ((if_neg isLatestHash).trans
      (if_neg isCommit)))
  rw [if_neg isCommit, reply, and_iff_right nothing]
  by_cases isKey : call.cmdId = cmdGetTeePubkey
  · rw [if_pos isKey, if_pos isKey]
    exact checkedReply_guards call.memory _
  · rw [if_neg isKey, if_neg isKey]
    exact (Guards.pure _).congr
      (iff_of_true trivial (replyFits_error call.memory .badParameters state))

end Handlers

end Ta
end TrustChain

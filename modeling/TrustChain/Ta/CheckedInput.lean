import TrustChain.Ta.Authority
import TrustChain.Ta.CheckedCommands
import TrustChain.Ta.Metadata
import TrustChain.Ta.PemExport
import TrustChain.Ta.SignatureFields

namespace TrustChain
namespace Ta

open Library Tee

/-!
# Memory of a client that is used without a check

A request ought to be refused, with nothing changed, or to be well formed: its
references are as large as what they are cast to and what is copied into them,
every string ends in its own field, and what is verified, compared and stored
for a field is what the field holds.  The handlers look at no size and at no
terminator, except for the size that `get_tee_public_key` is given.

So this is met by requests that are refused for another reason, after nothing
but bytes inside their references has been touched, and by those that hand over
no text.  It is met by no request with a text in it that is granted: a signature
that verifies has no room for its terminator in its field, and a founder's key
does not last in the structure that it is stored to.
-/

/-! ## Well formed requests -/

/-- The message of `access_control` fills its reference, and its strings end in
their fields; what the handler takes for a field is then what the field holds. -/
structure AccessControlWellFormed (memory : List UInt8) : Prop where
  size : sizeofAccessControlMessage ≤ memory.length
  pubkey : HoldsText (fieldOf memory offsetAcPubkey maxKeyLength)
    (accessControlMessageAt memory).pubkey
  sigkey : HoldsText (fieldOf memory offsetAcSigkey maxKeyLength)
    (accessControlMessageAt memory).sigkey
  signature : HoldsText (fieldOf memory offsetAcSignature maxSignatureLength)
    (accessControlMessageAt memory).signature

/-- The same for the message of `commit`, and for the key that comes with it. -/
structure CommitWellFormed (memory encryptedKey : List UInt8) : Prop where
  size : sizeofCommitMessage ≤ memory.length
  commitHash : HoldsText (fieldOf memory offsetCmCommitHash maxHashLength)
    (commitMessageAt memory).commitHash
  sigkey : HoldsText (fieldOf memory offsetCmSigkey maxKeyLength) (commitMessageAt memory).sigkey
  signature : HoldsText (fieldOf memory offsetCmSignature maxSignatureLength)
    (commitMessageAt memory).signature
  encryptedKey : HoldsText encryptedKey (stringAt encryptedKey 0)

/-- The inputs of a command are what its handler takes them for. -/
structure MemoryCall.WellFormed (call : MemoryCall) : Prop where
  adminKey : call.cmdId = cmdInitRepo →
    HoldsText (fieldOf (call.memory 0) 0 maxKeyLength) (stringAt (call.memory 0) 0)
  access : call.cmdId = cmdAccessControl → AccessControlWellFormed (call.memory 0)
  commit : call.cmdId = cmdCommit → CommitWellFormed (call.memory 0) (call.memory 1)

/-! ## What is left behind -/

/-- What `strcpy` finds at `latest_hash` of each repository. -/
def latestTexts (metadata : Nat → Region) (repId : Nat) : CString :=
  (metadata repId).readString offsetRmLatestHash taStackSize

/-- The field from which a key comes into the lists. -/
def MemoryCall.keyField (call : MemoryCall) : List UInt8 :=
  if call.cmdId = cmdInitRepo then fieldOf (call.memory 0) 0 maxKeyLength
  else fieldOf (call.memory 0) offsetAcPubkey maxKeyLength

/-- The texts of the block that is handed out are what the fields of the message
hold. -/
def Output.HoldsFields (memory : Fin 4 → List UInt8) : Output → Prop
  | .genesis _ block =>
      HoldsText (fieldOf (memory 0) 0 maxKeyLength) block.pubkey ∧
        HoldsText (fieldOf (memory 0) 0 maxKeyLength) block.base.sigkey
  | .accessBlock block =>
      HoldsText (fieldOf (memory 0) offsetAcPubkey maxKeyLength) block.pubkey ∧
        HoldsText (fieldOf (memory 0) offsetAcSigkey maxKeyLength) block.base.sigkey ∧
        HoldsText (fieldOf (memory 0) offsetAcSignature maxSignatureLength) block.base.signature
  | .contribution block _ =>
      HoldsText (fieldOf (memory 0) offsetCmCommitHash maxHashLength) block.commitHash ∧
        HoldsText (fieldOf (memory 0) offsetCmSigkey maxKeyLength) block.base.sigkey ∧
        HoldsText (fieldOf (memory 0) offsetCmSignature maxSignatureLength) block.base.signature
  | .latestHash _ _ _ => True
  | .publicKey _ _ => True

section Property

variable (primitives : Primitives) (gap : Nat) (stack : Region) (metadata : Nat → Region)
variable (state : TaState) (call : MemoryCall)

/-- What the request has left behind is what its fields hold: the texts of the
block, the founder's key in the structure, and each new member of a list. -/
structure StoresFields (output : Output) (after : TaState) : Prop where
  block : output.HoldsFields call.memory
  founderKey : ∀ repId block, output = .genesis repId block →
    HoldsText call.keyField ((storeMetadata primitives gap stack repId.toNat
      (metadata repId.toNat) ⟨state, call.toCall, .ok output, after⟩).readString
        offsetRmFounderKey maxKeyLength)
  members : ∀ list repId key, Listed list repId key after → ¬ Listed list repId key state →
    HoldsText call.keyField key

/-- No index of the command fails; and it is refused without a change of any
repository, or its inputs are well formed, its outputs have room, and what it
leaves behind is what its fields hold. -/
def CheckedBeforeUse : Prop :=
  ∃ answer after,
    checkedInvokeCommand primitives (latestTexts metadata) state call = some (answer, after) ∧
    (((∃ code, answer = .error code) ∧ SameRepositories state after) ∨
      (call.WellFormed ∧ ∀ output, answer = .ok output →
        output.Fits call.memory ∧
          StoresFields primitives gap stack metadata state call output after))

end Property

/-! ## Requests that are granted -/

/-- The lists can be changed as requested, or no list belongs to the role. -/
def Call.Updates (call : Call) (repo : RepoMetadata) : Prop :=
  (Edits (keysOf repo.adminKeys) (keysOf repo.writerKeys) call.params.acMsg.op
      call.params.acMsg.role call.params.acMsg.pubkey ∧
    (call.params.acMsg.op = opAdd → call.outcomes.node.Succeeds)) ∨
  (call.params.acMsg.role ≠ roleAdmin ∧ call.params.acMsg.role ≠ roleWriter)

theorem updateKeySets_otherRole (outcomes : NodeOutcomes) (repo : RepoMetadata) (op : UInt32)
    {role : UInt32} (pubkey : CString) (notAdmin : role ≠ roleAdmin) (notWriter : role ≠ roleWriter) :
    updateKeySets outcomes repo op role pubkey = (.ok (), repo) := by
  unfold updateKeySets
  rw [if_neg notAdmin, if_neg notWriter, if_neg notAdmin, if_neg notWriter, ite_self, ite_self]

theorem updates_iff {primitives : Primitives} {state : TaState} {call : Call} {repo : RepoMetadata}
    (table : TableInvariant state) (accepted : call.AccessAccepted primitives state repo) :
    (∃ edited, call.updateKeys repo = (.ok (), edited)) ↔ call.Updates repo := by
  by_cases other : call.params.acMsg.role ≠ roleAdmin ∧ call.params.acMsg.role ≠ roleWriter
  · exact iff_of_true ⟨repo, updateKeySets_otherRole _ _ _ _ other.1 other.2⟩ (Or.inr other)
  · rw [Call.Updates, or_iff_left other]
    cases result : call.updateKeys repo with
    | mk answer edited =>
        rcases table.keyUpdate accepted result with ⟨admins, writers, invariant, update⟩
        rw [invariant.adminKeys, invariant.writerKeys]
        cases update with
        | addAdmin isOp isRole new allocated =>
            exact iff_of_true ⟨_, rfl⟩ ⟨.addAdmin isOp isRole new, fun _ => allocated⟩
        | addAdminLate isOp isRole new failed =>
            refine iff_of_false ?_ (fun both => failed (both.2 isOp))
            rintro ⟨_, impossible⟩
            cases impossible
        | addWriter isOp isRole notWriter notAdmin allocated =>
            exact iff_of_true ⟨_, rfl⟩
              ⟨.addWriter isOp isRole notWriter notAdmin, fun _ => allocated⟩
        | deleteAdmin isOp isRole present =>
            exact iff_of_true ⟨_, rfl⟩ ⟨.deleteAdmin isOp isRole present,
              fun isAdd => absurd (isAdd.symm.trans isOp) opAdd_ne_opDelete⟩
        | deleteWriter isOp isRole present =>
            exact iff_of_true ⟨_, rfl⟩ ⟨.deleteWriter isOp isRole present,
              fun isAdd => absurd (isAdd.symm.trans isOp) opAdd_ne_opDelete⟩
        | otherRole notAdmin notWriter => exact absurd ⟨notAdmin, notWriter⟩ other
        | refused code reason =>
            refine iff_of_false ?_ ?_
            · rintro ⟨_, impossible⟩
              cases impossible
            · rintro ⟨edits, allocated⟩
              rcases reason with none | ⟨isOp, _, failed⟩
              · exact none edits
              · exact failed (allocated isOp)

/-- The requests that are answered with an output. -/
inductive Granted (primitives : Primitives) (state : TaState) (call : Call) : Prop
  | created (creates : call.Creates state)
  | hashRead (repo : RepoMetadata) (asks : call.AsksHash state repo) (seals : call.Seals)
  | accessAppended (repo : RepoMetadata) (accepted : call.AccessAccepted primitives state repo)
      (updates : call.Updates repo) (seals : call.Seals)
  | contributionAppended (repo : RepoMetadata)
      (accepted : call.CommitAccepted primitives state repo) (seals : call.Seals)
      (decrypts : call.Decrypts primitives)

theorem publicKeyObjToPem_refused (primitives : Primitives) (outcomes : ExportOutcomes)
    (keyObj : RsaPublicKey) : ∃ code, (publicKeyObjToPem primitives outcomes keyObj 0).1 =
      .error code := by
  unfold publicKeyObjToPem
  cases outcomes.getModulus with
  | error code => exact ⟨code, rfl⟩
  | ok modulus =>
      cases outcomes.getExponent with
      | error code => exact ⟨code, rfl⟩
      | ok exponent =>
          dsimp only
          split
          · exact ⟨_, rfl⟩
          · split
            · exact ⟨_, rfl⟩
            · rw [if_pos (estimatedLen_pos _)]
              exact ⟨_, rfl⟩

/-- The length that `get_tee_public_key` passes on is zero, so no key fits. -/
theorem getTeePublicKey_refused (primitives : Primitives) (outcomes : CallOutcomes)
    (paramTypes : UInt32) (pemBufferNull : Bool) (pemBufSize : Nat) :
    ∃ code, getTeePublicKey primitives outcomes paramTypes pemBufferNull pemBufSize =
      .error code := by
  unfold getTeePublicKey
  split
  · exact ⟨_, rfl⟩
  · split
    · exact ⟨_, rfl⟩
    · cases outcomes.openPublicKey with
      | error code => exact ⟨code, rfl⟩
      | ok keyPair =>
          rcases publicKeyObjToPem_refused primitives outcomes.exportPem keyPair.publicKey with
            ⟨code, refused⟩
          cases exported : publicKeyObjToPem primitives outcomes.exportPem keyPair.publicKey 0 with
          | mk answer pemLen =>
              rw [exported] at refused
              cases refused
              exact ⟨code, by simp only [exported]⟩

section Requests

variable {primitives : Primitives} {state : TaState} {call : Call}

theorem granted_iff (table : TableInvariant state) :
    (∃ output, (taInvokeCommandEntryPoint primitives state call).1 = .ok output) ↔
      Granted primitives state call := by
  constructor
  · intro succeeds
    by_cases isInit : call.cmdId = cmdInitRepo
    · exact .created ((initRepo_ok_iff primitives state call isInit).mp succeeds)
    by_cases isAccess : call.cmdId = cmdAccessControl
    · rcases (accessControl_ok_iff primitives state call isAccess).mp succeeds with
        ⟨repo, edited, accepted, _, updated, seals⟩
      exact .accessAppended repo accepted ((updates_iff table accepted).mp ⟨edited, updated⟩) seals
    by_cases isLatestHash : call.cmdId = cmdGetLatestHash
    · rcases (getLatestHash_ok_iff primitives state call isLatestHash).mp succeeds with
        ⟨⟨repo, asks⟩, seals⟩
      exact .hashRead repo asks seals
    by_cases isCommit : call.cmdId = cmdCommit
    · rcases (commit_ok_iff primitives state call isCommit).mp succeeds with
        ⟨repo, accepted, _, seals, decrypts⟩
      exact .contributionAppended repo accepted seals decrypts
    rcases succeeds with ⟨output, answered⟩
    unfold taInvokeCommandEntryPoint at answered
    rw [if_neg isInit, if_neg isAccess, if_neg isLatestHash, if_neg isCommit] at answered
    by_cases isKey : call.cmdId = cmdGetTeePubkey
    · rcases getTeePublicKey_refused primitives call.outcomes call.paramTypes
        call.params.pemBufferNull call.params.pemBufSize with ⟨code, refused⟩
      rw [if_pos isKey, refused] at answered
      cases answered
    · rw [if_neg isKey] at answered
      cases answered
  · intro granted
    cases granted with
    | created creates => exact (initRepo_ok_iff primitives state call creates.isCommand).mpr creates
    | hashRead repo asks seals =>
        exact (getLatestHash_ok_iff primitives state call asks.isCommand).mpr ⟨⟨repo, asks⟩, seals⟩
    | accessAppended repo accepted updates seals =>
        rcases (updates_iff table accepted).mpr updates with ⟨edited, updated⟩
        exact (accessControl_ok_iff primitives state call accepted.1).mpr
          ⟨repo, edited, accepted, rfl, updated, seals⟩
    | contributionAppended repo accepted seals decrypts =>
        exact (commit_ok_iff primitives state call accepted.1).mpr
          ⟨repo, accepted, rfl, seals, decrypts⟩

/-- A request is refused with nothing changed when it is neither granted nor
interrupted. -/
theorem refused_unchanged_iff (table : TableInvariant state) :
    ((∃ code, (taInvokeCommandEntryPoint primitives state call).1 = .error code) ∧
        SameRepositories state (taInvokeCommandEntryPoint primitives state call).2) ↔
      ¬ Granted primitives state call ∧ ¬ Interrupts primitives state call := by
  have atomic := (step_effect primitives state call table.free).errorAtomic_iff table
  rw [← granted_iff table, ← atomic, ErrorAtomic]
  cases (taInvokeCommandEntryPoint primitives state call).1 with
  | error code =>
      have fails : ∃ reason, (Except.error code : TeeResult Output) = .error reason := ⟨code, rfl⟩
      rw [and_iff_right fails, and_iff_right (not_exists_ok code), imp_iff_right fails]
  | ok output =>
      refine iff_of_false ?_ (fun both => both.1 ⟨output, rfl⟩)
      rintro ⟨⟨code, impossible⟩, _⟩
      cases impossible

/-! ## What is copied out -/

variable {output : Output}

theorem output_of_created (table : TableInvariant state) (isCommand : call.cmdId = cmdInitRepo)
    (answered : (taInvokeCommandEntryPoint primitives state call).1 = .ok output) :
    ∃ teeSig, output = .genesis state.repoNum (call.genesis.withTeeSig teeSig) := by
  have effect := step_effect primitives state call table.free
  rw [answered] at effect
  generalize (taInvokeCommandEntryPoint primitives state call).2 = after at effect
  cases effect with
  | hashRead repo signature store isHash found signed =>
      exact absurd (isHash.symm.trans isCommand) (by decide)
  | keyRead pem pemLen isKey => exact absurd (isKey.symm.trans isCommand) (by decide)
  | created teeSig store isInit inside signed => exact ⟨teeSig, rfl⟩
  | accessAppended repo edited teeSig store accepted updated signed =>
      exact absurd (accepted.1.symm.trans isCommand) (by decide)
  | contributionAppended repo teeSig encryptedKey signedStore store accepted signed =>
      exact absurd (accepted.1.symm.trans isCommand) (by decide)

end Requests

theorem fits_iff {memory : Fin 4 → List UInt8} {output : Output} {first second third fourth : Nat}
    (copied : output.copied = ![first, second, third, fourth]) :
    output.Fits memory ↔ first ≤ (memory 0).length ∧ second ≤ (memory 1).length ∧
      third ≤ (memory 2).length ∧ fourth ≤ (memory 3).length := by
  rw [Output.Fits, copied]
  constructor
  · intro fits
    exact ⟨fits 0, fits 1, fits 2, fits 3⟩
  · rintro ⟨zero, one, two, three⟩ index
    match index with
    | 0 => exact zero
    | 1 => exact one
    | 2 => exact two
    | 3 => exact three

/-! ## The texts of requests that are granted -/

section Texts

variable {primitives : Primitives}

variable {state : TaState} {call : MemoryCall} {repo : RepoMetadata}

/-- The founder's key does not last in the structure. -/
theorem founderKey_of_genesis (gap : Nat) (stack memory : Region) (before after : TaState)
    (given : Call) (repId : UInt32) (block : AccessBlock) :
    (storeMetadata primitives gap stack repId.toNat memory
      ⟨before, given, .ok (.genesis repId block), after⟩).readString offsetRmFounderKey
        maxKeyLength = .empty := by
  have built : blockOf repId.toNat ⟨before, given, .ok (.genesis repId block), after⟩ =
      some (.access block) := blockFor_genesis rfl given block
  have reads := metadataReads_of_block primitives gap stack built memory
  apply reads.founderKey_eq
  exact (length_foundBlockHash_iff gap stack _ (length_hashText primitives _)).mpr fun _ => rfl

theorem holdsText_empty_iff (field : List UInt8) :
    HoldsText field .empty ↔ field.head? = some 0 := by
  cases field with
  | nil => exact ⟨fun held => absurd held.length_le (by decide), fun held => by cases held⟩
  | cons byte rest =>
      rw [List.head?_cons, Option.some.injEq]
      constructor
      · intro held
        exact (List.cons_prefix_cons.mp held).1.symm
      · rintro rfl
        exact List.prefix_append [0] rest

theorem head_keyField (isInit : call.cmdId = cmdInitRepo) :
    call.keyField.head? = (call.memory 0).head? := by
  rw [MemoryCall.keyField, if_pos isInit]
  cases call.memory 0 with
  | nil => rfl
  | cons byte rest => rfl

end Texts

/-! ## Requests that meet the property -/

section Served

variable (primitives : Primitives) (texts : Nat → CString) (state : TaState) (call : MemoryCall)

/-- A request that is neither granted nor interrupted, and whose reads lie inside
its references; one for a hash, with room for it and for the signature; or one for
a repository of a founder with an empty key, with room for the block. -/
inductive ServedSafely : Prop
  | refused (reads : ReadsInside primitives texts state call)
      (notGranted : ¬ Granted primitives state call.toCall)
      (notInterrupted : ¬ Interrupts primitives state call.toCall)
  | hashRead (repo : RepoMetadata) (asks : call.toCall.AsksHash state repo)
      (seals : call.toCall.Seals)
      (message : (latestHashMsg (call.valueA 1) (texts (call.valueA 0).toNat)).length ≤
        (call.memory 2).length)
      (signature : 512 + 1 ≤ (call.memory 3).length)
  | created (creates : call.toCall.Creates state) (isEmpty : (call.memory 0).head? = some 0)
      (room : sizeofAccessBlock ≤ (call.memory 2).length)

variable {primitives texts state call}

theorem reading_granted_iff (table : TableInvariant state) (call : Call) :
    (∃ output, (invokeReading primitives texts state call).1 = .ok output) ↔
      Granted primitives state call := by
  rw [← granted_iff table]
  have readsAs := invokeReading_readsAs primitives texts state call
  generalize invokeReading primitives texts state call = reading at readsAs ⊢
  generalize taInvokeCommandEntryPoint primitives state call = reply at readsAs ⊢
  cases readsAs with
  | same reply noText => exact Iff.rfl
  | hashRead repo signature signed store asks length =>
      exact iff_of_true ⟨_, rfl⟩ ⟨_, rfl⟩

theorem reading_refused_iff (table : TableInvariant state) (call : Call) :
    ((∃ code, (invokeReading primitives texts state call).1 = .error code) ∧
        SameRepositories state (invokeReading primitives texts state call).2) ↔
      ¬ Granted primitives state call ∧ ¬ Interrupts primitives state call := by
  rw [← refused_unchanged_iff table]
  have readsAs := invokeReading_readsAs primitives texts state call
  generalize invokeReading primitives texts state call = reading at readsAs ⊢
  generalize taInvokeCommandEntryPoint primitives state call = reply at readsAs ⊢
  cases readsAs with
  | same reply noText => exact Iff.rfl
  | hashRead repo signature signed store asks length =>
      refine iff_of_false ?_ ?_ <;>
        · rintro ⟨⟨code, impossible⟩, _⟩
          cases impossible

theorem invokeReading_of_init {call : Call} (isCommand : call.cmdId = cmdInitRepo) :
    invokeReading primitives texts state call = taInvokeCommandEntryPoint primitives state call := by
  apply if_neg
  rw [isCommand]
  decide

theorem signature_of_reading {call : Call} (isCommand : call.cmdId = cmdGetLatestHash)
    {output : Output} (answered : (invokeReading primitives texts state call).1 = .ok output) :
    ∃ signature store, signature.length = 512 ∧ invokeReading primitives texts state call =
      (.ok (.latestHash call.params.nonce (texts call.params.repId.toNat) signature),
        state.setKeyStore store) := by
  have readsAs := invokeReading_readsAs primitives texts state call
  generalize invokeReading primitives texts state call = reading at readsAs answered ⊢
  generalize taInvokeCommandEntryPoint primitives state call = reply at readsAs
  cases readsAs with
  | same reply noText => exact absurd isCommand (noText output answered)
  | hashRead repo signature signed store asks length => exact ⟨signature, store, length, rfl⟩

/-- What is left behind of an empty key is empty. -/
theorem storesFields_of_empty (table : TableInvariant state) (gap : Nat) (stack : Region)
    (metadata : Nat → Region) (isCommand : call.cmdId = cmdInitRepo)
    (isEmpty : (call.memory 0).head? = some 0) {output : Output}
    (answered : (taInvokeCommandEntryPoint primitives state call.toCall).1 = .ok output) :
    StoresFields primitives gap stack metadata state call output
      (taInvokeCommandEntryPoint primitives state call.toCall).2 := by
  have holdsEmpty : HoldsText call.keyField .empty := by
    rw [holdsText_empty_iff, head_keyField isCommand, isEmpty]
  have field : call.keyField = fieldOf (call.memory 0) 0 maxKeyLength := if_pos isCommand
  have adminKey : call.toCall.params.adminKey = .empty := by
    change CString.ofMemory (call.memory 0) = .empty
    have found := ((holdsText_empty_iff (call.memory 0)).mpr isEmpty).ofMemory []
    rwa [List.append_nil] at found
  have step := (step_effect primitives state call.toCall table.free).slotStep table.free
  rw [answered] at step
  rcases output_of_created table isCommand answered with ⟨teeSig, rfl⟩
  refine ⟨⟨?_, ?_⟩, ?_, ?_⟩
  · rw [← field]
    change HoldsText call.keyField call.toCall.params.adminKey
    rw [adminKey]
    exact holdsEmpty
  · rw [← field]
    change HoldsText call.keyField call.toCall.params.adminKey
    rw [adminKey]
    exact holdsEmpty
  · intro repId block same
    cases same
    rw [founderKey_of_genesis]
    exact holdsEmpty
  · rintro list repId key ⟨new, found, member⟩ outside
    rcases (step repId).listed_cases
        (taInvokeCommandEntryPoint primitives state call.toCall).2 table outside found member with
      ⟨_, event, isEvent, _, _, _, _, isFounder⟩ | ⟨repo, accepted, _⟩
    · rw [List.mem_singleton.mp isEvent] at isFounder
      rw [← isFounder, adminKey]
      exact holdsEmpty
    · exact absurd (accepted.1.symm.trans isCommand) (by decide)

section Kinds

variable (gap : Nat) (stack : Region) (metadata : Nat → Region)

theorem checked_of_refused (table : TableInvariant state)
    (reads : ReadsInside primitives (latestTexts metadata) state call)
    (notGranted : ¬ Granted primitives state call.toCall)
    (notInterrupted : ¬ Interrupts primitives state call.toCall) :
    CheckedBeforeUse primitives gap stack metadata state call := by
  have guards := checkedInvokeCommand_guards primitives (latestTexts metadata) state call
  have refused :
      (∃ code, (invokeReading primitives (latestTexts metadata) state call.toCall).1 =
        .error code) ∧
      SameRepositories state
        (invokeReading primitives (latestTexts metadata) state call.toCall).2 :=
    (reading_refused_iff table call.toCall).mpr ⟨notGranted, notInterrupted⟩
  refine ⟨_, _, guards.of_inside ⟨reads, fun output answered => ?_⟩, Or.inl refused⟩
  rcases refused.1 with ⟨code, failed⟩
  rw [failed] at answered
  cases answered

theorem checked_of_hashRead (table : TableInvariant state) {repo : RepoMetadata}
    (asks : call.toCall.AsksHash state repo) (seals : call.toCall.Seals)
    (message : (latestHashMsg (call.valueA 1) (latestTexts metadata (call.valueA 0).toNat)).length ≤
      (call.memory 2).length)
    (signatureRoom : 512 + 1 ≤ (call.memory 3).length) :
    CheckedBeforeUse primitives gap stack metadata state call := by
  have guards := checkedInvokeCommand_guards primitives (latestTexts metadata) state call
  have isCommand : call.cmdId = cmdGetLatestHash := asks.isCommand
  rcases (reading_granted_iff table call.toCall).mpr (.hashRead repo asks seals) with
    ⟨output, answered⟩
  rcases signature_of_reading asks.isCommand answered with ⟨signature, store, length, reply⟩
  rw [reply] at guards
  have reads : ReadsInside primitives (latestTexts metadata) state call := by
    apply readsInside_of_command primitives (latestTexts metadata) state call isCommand
    case latestHash => exact fun _ _ _ => message
    all_goals exact fun impossible => absurd impossible (by decide)
  have fits : Output.Fits call.memory (.latestHash (call.valueA 1)
      (latestTexts metadata (call.valueA 0).toNat) signature) := by
    rw [fits_iff rfl, length]
    exact ⟨Nat.zero_le _, Nat.zero_le _, message, signatureRoom⟩
  have wellFormed : call.WellFormed := by
    constructor <;> exact fun other => absurd (isCommand.symm.trans other) (by decide)
  refine ⟨_, _, guards.of_inside ⟨reads, fun output same => ?_⟩,
    Or.inr ⟨wellFormed, fun output same => ⟨?_, ?_⟩⟩⟩
  · cases same
    exact fits
  · cases same
    exact fits
  · cases same
    exact
      { block := trivial
        founderKey := fun _ _ impossible => by cases impossible
        members := fun _ _ _ listed outside => absurd listed outside }

theorem checked_of_created (table : TableInvariant state) (creates : call.toCall.Creates state)
    (isEmpty : (call.memory 0).head? = some 0)
    (room : sizeofAccessBlock ≤ (call.memory 2).length) :
    CheckedBeforeUse primitives gap stack metadata state call := by
  have guards := checkedInvokeCommand_guards primitives (latestTexts metadata) state call
  have isCommand : call.cmdId = cmdInitRepo := creates.isCommand
  rcases (granted_iff table).mpr (.created creates) with ⟨output, answered⟩
  rw [invokeReading_of_init isCommand] at guards
  have terminated : 0 ∈ fieldOf (call.memory 0) 0 maxKeyLength := by
    have field := head_keyField isCommand
    rw [MemoryCall.keyField, if_pos isCommand, isEmpty] at field
    exact List.mem_of_mem_head? field
  have reads : ReadsInside primitives (latestTexts metadata) state call := by
    apply readsInside_of_command primitives (latestTexts metadata) state call isCommand
      (fun _ _ => terminated)
    all_goals exact fun impossible => absurd impossible (by decide)
  have fits : output.Fits call.memory := by
    rcases output_of_created table isCommand answered with ⟨teeSig, rfl⟩
    rw [fits_iff rfl]
    exact ⟨Nat.zero_le _, Nat.zero_le _, room, Nat.zero_le _⟩
  have only : ∀ other, (taInvokeCommandEntryPoint primitives state call.toCall).1 = .ok other →
      other = output := by
    intro other same
    exact Except.ok.inj (same.symm.trans answered)
  have wellFormed : call.WellFormed := by
    refine ⟨fun _ => ?_, fun other => absurd (isCommand.symm.trans other) (by decide),
      fun other => absurd (isCommand.symm.trans other) (by decide)⟩
    exact (holdsText_fieldOf_iff _ _ _).mpr terminated
  refine ⟨_, _, guards.of_inside ⟨reads, fun other same => only other same ▸ fits⟩,
    Or.inr ⟨wellFormed, fun other same => ⟨only other same ▸ fits, ?_⟩⟩⟩
  rw [only other same]
  exact storesFields_of_empty table gap stack metadata isCommand isEmpty answered

theorem ServedSafely.checked (table : TableInvariant state)
    (served : ServedSafely primitives (latestTexts metadata) state call) :
    CheckedBeforeUse primitives gap stack metadata state call := by
  cases served with
  | refused reads notGranted notInterrupted =>
      exact checked_of_refused gap stack metadata table reads notGranted notInterrupted
  | hashRead repo asks seals message signatureRoom =>
      exact checked_of_hashRead gap stack metadata table asks seals message signatureRoom
  | created creates isEmpty room =>
      exact checked_of_created gap stack metadata table creates isEmpty room

end Kinds

end Served

namespace Sample

end Sample

end Ta
end TrustChain

import TrustChain.Library.Region
import TrustChain.Ta.History

namespace TrustChain
namespace Ta

open Library Tee

/-!
# Blocks in memory

`block.h` lays a block out as bytes, with `tee_sig` directly in front of `role`
or `commit_hash`.  A signature fills all 512 bytes of `tee_sig`, so the
terminator behind it goes into the next field, after the block was hashed.

The functions of `block.c` and `tee_sign_hash` are given here once more, as the
writes and reads that they make in the memory of the block.  `stack` is what
that memory holds before.
-/

/-! ## Layout -/

def offsetBlockHeight : Nat := 0
def offsetParentHash : Nat := offsetBlockHeight + 4
def offsetOp : Nat := offsetParentHash + maxHashLength
def offsetSigkey : Nat := offsetOp + 4
def offsetSignature : Nat := offsetSigkey + maxKeyLength
def offsetSeconds : Nat := offsetSignature + maxSignatureLength
def offsetMillis : Nat := offsetSeconds + 4
def offsetTeeSig : Nat := offsetMillis + 4
def sizeofBaseBlock : Nat := offsetTeeSig + maxSignatureLength

def offsetRole : Nat := sizeofBaseBlock
def offsetPubkey : Nat := offsetRole + 4
def sizeofAccessBlock : Nat := offsetPubkey + maxKeyLength

def offsetCommitHash : Nat := sizeofBaseBlock
def sizeofContributionBlock : Nat := offsetCommitHash + maxHashLength

/-! ## Filling in and hashing -/

/-- `init_base_block`, assignment by assignment. -/
def initBaseBlockAt (base : Region) (blockHeight : UInt32) (parentHash : CString) (op : UInt32)
    (sigkey signature : CString) (time : TeeTime) : Region :=
  let base := base.writeUInt32 offsetBlockHeight blockHeight
  let base := base.strcpy offsetParentHash parentHash
  let base := base.writeUInt32 offsetOp op
  let base := base.strcpy offsetSigkey sigkey
  let base := base.strcpy offsetSignature signature
  let base := base.writeUInt32 offsetSeconds time.seconds
  let base := base.writeUInt32 offsetMillis time.millis
  base.strcpy offsetTeeSig .empty

/-- `init_access_block`. -/
def initAccessBlockAt (block : Region) (blockHeight : UInt32) (parentHash : CString)
    (op role : UInt32) (pubkey sigkey signature : CString) (time : TeeTime) : Region :=
  let block := initBaseBlockAt block blockHeight parentHash op sigkey signature time
  let block := block.writeUInt32 offsetRole role
  block.strcpy offsetPubkey pubkey

/-- `init_contribution_block`. -/
def initContributionBlockAt (block : Region) (blockHeight : UInt32) (parentHash : CString)
    (op : UInt32) (commitHash sigkey signature : CString) (time : TeeTime) : Region :=
  let block := initBaseBlockAt block blockHeight parentHash op sigkey signature time
  block.strcpy offsetCommitHash commitHash

/-- The fields that both formats start with, as `snprintf` finds them. -/
def baseFieldsAt (base : Region) : List CString :=
  [decimal (base.readUInt32 offsetBlockHeight).toNat, base.readString offsetParentHash 64,
    decimal (base.readUInt32 offsetOp).toNat, base.readString offsetSigkey 256,
    base.readString offsetSignature 256, decimal (base.readUInt32 offsetSeconds).toNat,
    decimal (base.readUInt32 offsetMillis).toNat]

/-- `data_buffer` of `calculate_access_block_hash`. -/
def accessDataBufferAt (block : Region) : CString :=
  (joinColon (baseFieldsAt block ++
    [decimal (block.readUInt32 offsetRole).toNat, block.readString offsetPubkey 256])).snprintf 1024

/-- `data_buffer` of `calculate_contribution_block_hash`. -/
def contributionDataBufferAt (block : Region) : CString :=
  (joinColon (baseFieldsAt block ++ [block.readString offsetCommitHash 64])).snprintf 1024

namespace Block

/-- The size of the structure. -/
def sizeof : Block → Nat
  | access _ => sizeofAccessBlock
  | contribution _ => sizeofContributionBlock

theorem sizeofBaseBlock_lt_sizeof (block : Block) : sizeofBaseBlock < block.sizeof := by
  cases block with
  | access block => exact (by decide : sizeofBaseBlock < sizeofAccessBlock)
  | contribution block => exact (by decide : sizeofBaseBlock < sizeofContributionBlock)

/-- The block as its handler fills it in. -/
def initAt (stack : Region) : Block → Region
  | access block =>
      initAccessBlockAt stack block.base.blockHeight block.base.parentHash block.base.op block.role
        block.pubkey block.base.sigkey block.base.signature block.base.trustTimestamp
  | contribution block =>
      initContributionBlockAt stack block.base.blockHeight block.base.parentHash block.base.op
        block.commitHash block.base.sigkey block.base.signature block.base.trustTimestamp

def dataBufferAt (memory : Region) : Block → CString
  | access _ => accessDataBufferAt memory
  | contribution _ => contributionDataBufferAt memory

/-- The hash function of the block's kind, on what the memory holds. -/
def calculateHashAt (primitives : Primitives) (outcomes : HashOutcomes) (memory : Region)
    (block : Block) : TeeResult CString :=
  hashData primitives outcomes (block.dataBufferAt memory).bytes

end Block

theorem baseFieldsAt_initBaseBlockAt (stack : Region) (base : BaseBlock) :
    baseFieldsAt (initBaseBlockAt stack base.blockHeight base.parentHash base.op base.sigkey
      base.signature base.trustTimestamp) = baseFields base := by
  simp (disch := decide) only [baseFieldsAt, baseFields, initBaseBlockAt,
    Region.readUInt32_writeUInt32_behind, Region.readUInt32_strcpy_behind,
    Region.readString_writeUInt32_behind, Region.readString_strcpy_behind,
    Region.readUInt32_writeUInt32, Region.readString_strcpy]

/-- The base part is not touched by what is written behind it. -/
theorem baseFieldsAt_congr {first second : Region}
    (same : ∀ index, index < offsetTeeSig → first index = second index) :
    baseFieldsAt first = baseFieldsAt second := by
  have window : ∀ offset count, offset + count ≤ offsetTeeSig →
      first.read offset count = second.read offset count := fun offset count inside =>
    Region.read_congr fun _ _ high => same _ (Nat.lt_of_lt_of_le high inside)
  simp (disch := decide) only [baseFieldsAt, Region.readUInt32, Region.readString, window]

theorem baseFieldsAt_behind (memory : Region) {offset : Nat} (bytes : List UInt8)
    (behind : offsetTeeSig ≤ offset) :
    baseFieldsAt (memory.write offset bytes) = baseFieldsAt memory :=
  baseFieldsAt_congr fun _ low =>
    memory.write_outside (Or.inl (Nat.lt_of_lt_of_le low behind))

/-- What is hashed is the serialized string of the block, whatever was in the
memory before and however long its strings are: each field is read in front of
the place where the next one is written. -/
theorem Block.dataBufferAt_initAt (stack : Region) (block : Block) :
    block.dataBufferAt (block.initAt stack) = block.dataBuffer := by
  cases block with
  | access block =>
      have base : baseFieldsAt ((Block.access block).initAt stack) = baseFields block.base := by
        rw [Block.initAt, initAccessBlockAt, Region.strcpy, baseFieldsAt_behind _ _ (by decide),
          Region.writeUInt32, baseFieldsAt_behind _ _ (by decide)]
        exact baseFieldsAt_initBaseBlockAt stack block.base
      rw [Block.dataBufferAt, accessDataBufferAt, base, Block.initAt, initAccessBlockAt,
        Region.readUInt32_strcpy_behind _ _ (by decide), Region.readUInt32_writeUInt32,
        Region.readString_strcpy]
      rfl
  | contribution block =>
      have base : baseFieldsAt ((Block.contribution block).initAt stack) =
          baseFields block.base := by
        rw [Block.initAt, initContributionBlockAt, Region.strcpy,
          baseFieldsAt_behind _ _ (by decide)]
        exact baseFieldsAt_initBaseBlockAt stack block.base
      rw [Block.dataBufferAt, contributionDataBufferAt, base, Block.initAt,
        initContributionBlockAt, Region.readString_strcpy]
      rfl

/-! ## Signing into the block -/

/-- The loop of `bytes_to_hex_string`: each round writes two characters and a
terminator behind them. -/
def bytesToHexStringAt (memory : Region) (hexString : Nat) : List UInt8 → Region
  | [] => memory
  | byte :: rest =>
      bytesToHexStringAt (memory.write hexString (hexByte byte ++ [0])) (hexString + 2) rest

/-- All terminators but the last are overwritten by the next round. -/
theorem bytesToHexStringAt_eq_strcpy (memory : Region) (hexString : Nat) {bytes : List UInt8}
    (nonempty : bytes ≠ []) :
    bytesToHexStringAt memory hexString bytes =
      memory.strcpy hexString (bytesToHexString bytes) := by
  induction bytes generalizing memory hexString with
  | nil => exact absurd rfl nonempty
  | cons byte rest ih =>
      have text : (bytesToHexString (byte :: rest)).bytes ++ [0] =
          hexByte byte ++ ((bytesToHexString rest).bytes ++ [0]) := by
        rw [← List.append_assoc]
        rfl
      cases rest with
      | nil => rfl
      | cons next tail =>
          rw [bytesToHexStringAt, ih _ _ (by simp), Region.strcpy, Region.strcpy, text,
            memory.write_append, memory.write_append, length_hexByte,
            Region.write_write_of_length_le _ _ (by simp)]

/-- `tee_sign_hash` once a key pair is at hand, with its output in memory. -/
def signDigestAt (primitives : Primitives) (outcomes : SignOutcomes) (keyPair : RsaKeyPair)
    (hashBytes : List UInt8) (signature : Nat) (memory : Region) : TeeResult Region := do
  outcomes.allocateOperation
  outcomes.setOperationKey
  outcomes.signDigest
  return bytesToHexStringAt memory signature (primitives.rsaSign keyPair hashBytes).toList

/-- `tee_sign_hash`, with its output in memory. -/
def teeSignHashAt (primitives : Primitives) (outcomes : SignOutcomes) (hashString : CString)
    (signature : Nat) (memory : Region) (store : KeyStore) : TeeResult Region × KeyStore :=
  match hexStringToBytes hashString.bytes with
  | .error code => (.error code, store)
  | .ok hashBytes =>
      match loadOrGenerateKeyPair outcomes.load store with
      | (.error code, store) => (.error code, store)
      | (.ok keyPair, store) =>
          (signDigestAt primitives outcomes keyPair hashBytes signature memory, store)

theorem signDigestAt_eq (primitives : Primitives) (outcomes : SignOutcomes) (keyPair : RsaKeyPair)
    (hashBytes : List UInt8) (signature : Nat) (memory : Region) :
    signDigestAt primitives outcomes keyPair hashBytes signature memory =
      (signDigest primitives outcomes keyPair hashBytes).map (memory.strcpy signature) := by
  have nonempty : (primitives.rsaSign keyPair hashBytes).toList ≠ [] := by
    intro none
    have length := (primitives.rsaSign keyPair hashBytes).toList_length
    rw [none] at length
    cases length
  unfold signDigestAt signDigest
  rw [bytesToHexStringAt_eq_strcpy memory signature nonempty]
  cases outcomes.allocateOperation with
  | error code => rfl
  | ok allocated =>
      cases outcomes.setOperationKey with
      | error code => rfl
      | ok keyed =>
          cases outcomes.signDigest with
          | error code => rfl
          | ok signed => rfl

/-- The text that `tee_sign_hash` produces is what it leaves in memory. -/
theorem teeSignHashAt_eq (primitives : Primitives) (outcomes : SignOutcomes)
    (hashString : CString) (signature : Nat) (memory : Region) (store : KeyStore) :
    teeSignHashAt primitives outcomes hashString signature memory store =
      ((teeSignHash primitives outcomes hashString store).1.map (memory.strcpy signature),
        (teeSignHash primitives outcomes hashString store).2) := by
  unfold teeSignHashAt teeSignHash
  cases hexStringToBytes hashString.bytes with
  | error code => rfl
  | ok hashBytes =>
      cases loadOrGenerateKeyPair outcomes.load store with
      | mk loaded after =>
          cases loaded with
          | error code => rfl
          | ok keyPair => exact congrArg (·, after) (signDigestAt_eq primitives outcomes keyPair _ _ _)

/-! ## The block that is handed back -/

/-- The memory of a block when its hash is computed and when it is returned,
with the hash. -/
structure Sealing where
  hashed : Region
  returned : Region
  hash : CString

/-- What the three handlers do to a block: fill it in, hash it, and sign the
hash into its `tee_sig`. -/
def sealAt (primitives : Primitives) (outcomes : CallOutcomes) (block : Block) (stack : Region)
    (store : KeyStore) : TeeResult Sealing × KeyStore :=
  let hashed := block.initAt stack
  match block.calculateHashAt primitives outcomes.hash hashed with
  | .error code => (.error code, store)
  | .ok hash =>
      match teeSignHashAt primitives outcomes.sign hash offsetTeeSig hashed store with
      | (.error code, store) => (.error code, store)
      | (.ok returned, store) => (.ok ⟨hashed, returned, hash⟩, store)

/-- A block that was built is sealed in memory as it is on the level of strings. -/
theorem sealAt_of_signed {primitives : Primitives} {outcomes : CallOutcomes} {block : Block}
    {store after : KeyStore} {teeSig : CString}
    (signed : Signed primitives outcomes block.dataBuffer store teeSig after) (stack : Region) :
    sealAt primitives outcomes block stack store =
      (.ok ⟨block.initAt stack, (block.initAt stack).strcpy offsetTeeSig teeSig,
        block.hash primitives⟩, after) := by
  have hashed : block.calculateHashAt primitives outcomes.hash (block.initAt stack) =
      .ok (block.hash primitives) := by
    rw [Block.calculateHashAt, block.dataBufferAt_initAt]
    exact hashData_eq_ok_iff.mpr ⟨signed.hashed, rfl⟩
  have text : teeSignHash primitives outcomes.sign (block.hash primitives) store =
      (.ok teeSig, after) := signed.signed
  simp only [sealAt, hashed, teeSignHashAt_eq, text, Except.map]

/-- All bytes outside `tee_sig` are as they were hashed, and hashing the block
again gives the latest hash. -/
structure ReturnedAsHashed (primitives : Primitives) (block : Block) (sealing : Sealing)
    (latestHash : CString) : Prop where
  bytes : ∀ offset, offset < block.sizeof → offset < offsetTeeSig ∨ sizeofBaseBlock ≤ offset →
    sealing.returned offset = sealing.hashed offset
  rehashed : block.calculateHashAt primitives .smooth sealing.returned = .ok latestHash

/-- Nothing that is hashed lies in `tee_sig` or behind the block. -/
theorem Block.dataBufferAt_congr {first second : Region} (block : Block)
    (same : ∀ offset, offset < block.sizeof → offset < offsetTeeSig ∨ sizeofBaseBlock ≤ offset →
      first offset = second offset) :
    block.dataBufferAt first = block.dataBufferAt second := by
  have inFront : offsetTeeSig < block.sizeof :=
    Nat.lt_trans (by decide : offsetTeeSig < sizeofBaseBlock) block.sizeofBaseBlock_lt_sizeof
  have base : baseFieldsAt first = baseFieldsAt second :=
    baseFieldsAt_congr fun index low => same index (Nat.lt_trans low inFront) (Or.inl low)
  have window : ∀ offset count, sizeofBaseBlock ≤ offset → offset + count ≤ block.sizeof →
      first.read offset count = second.read offset count := fun offset count low inside =>
    Region.read_congr fun index above high =>
      same index (Nat.lt_of_lt_of_le high inside) (Or.inr (Nat.le_trans low above))
  cases block with
  | access block =>
      simp only [Block.sizeof] at window
      simp (disch := decide) only [Block.dataBufferAt, accessDataBufferAt, base,
        Region.readUInt32, Region.readString, window]
  | contribution block =>
      simp only [Block.sizeof] at window
      simp (disch := decide) only [Block.dataBufferAt, contributionDataBufferAt, base,
        Region.readString, window]

/-- The field behind `tee_sig` starts with a zero byte already. -/
def Block.ZeroBehindTeeSig : Block → Prop
  | access block => block.role.toNat % 256 = 0
  | contribution block => block.commitHash = .empty

theorem Block.initAt_behind_eq_zero_iff (stack : Region) (block : Block) :
    block.initAt stack sizeofBaseBlock = 0 ↔ block.ZeroBehindTeeSig := by
  cases block with
  | access block =>
      have first : (Block.access block).initAt stack offsetRole =
          UInt8.ofNat (block.role.toNat % 256) := by
        rw [Block.initAt, initAccessBlockAt, Region.strcpy,
          Region.write_outside _ (Or.inl (by decide))]
        exact Region.write_inside _ offsetRole 0 (Nat.succ_pos 3)
      rw [show sizeofBaseBlock = offsetRole from rfl, first, ← UInt8.toNat_inj, toNat_ofNat_mod]
      rfl
  | contribution block => exact Region.strcpy_first_eq_zero_iff _ offsetCommitHash block.commitHash

/-- The terminator of the signature is the only byte that signing writes
outside `tee_sig`. -/
theorem strcpy_teeSig_outside (hashed : Region) {teeSig : CString}
    (length : teeSig.length = maxSignatureLength) (offset : Nat)
    (outside : offset < offsetTeeSig ∨ sizeofBaseBlock ≤ offset) :
    hashed.strcpy offsetTeeSig teeSig offset =
      if offset = sizeofBaseBlock then 0 else hashed offset := by
  have written : (teeSig.bytes ++ [0]).length = maxSignatureLength + 1 := by
    rw [List.length_append, List.length_singleton]
    exact congrArg (· + 1) length
  by_cases terminator : offset = sizeofBaseBlock
  · have atEnd : sizeofBaseBlock = offsetTeeSig + teeSig.length := by
      rw [length]
      rfl
    rw [if_pos terminator, terminator, atEnd]
    exact Region.strcpy_terminator hashed offsetTeeSig teeSig
  · rw [if_neg terminator]
    apply Region.write_outside
    rw [written, show offsetTeeSig + (maxSignatureLength + 1) = sizeofBaseBlock + 1 from rfl]
    omega

/-- Signing leaves the rest of the block alone exactly when the terminator
falls on a byte that is zero anyway. -/
theorem returnedAsHashed_iff (primitives : Primitives) (block : Block) (stack : Region)
    {teeSig : CString} (length : teeSig.length = maxSignatureLength) :
    ReturnedAsHashed primitives block
        ⟨block.initAt stack, (block.initAt stack).strcpy offsetTeeSig teeSig,
          block.hash primitives⟩ (block.hash primitives) ↔
      block.ZeroBehindTeeSig := by
  rw [← block.initAt_behind_eq_zero_iff stack]
  constructor
  · intro returned
    have kept : (block.initAt stack).strcpy offsetTeeSig teeSig sizeofBaseBlock =
        block.initAt stack sizeofBaseBlock :=
      returned.bytes sizeofBaseBlock block.sizeofBaseBlock_lt_sizeof (Or.inr (Nat.le_refl _))
    rw [strcpy_teeSig_outside _ length _ (Or.inr (Nat.le_refl _)), if_pos rfl] at kept
    exact kept.symm
  · intro zero
    have bytes : ∀ offset, offset < block.sizeof →
        offset < offsetTeeSig ∨ sizeofBaseBlock ≤ offset →
        (block.initAt stack).strcpy offsetTeeSig teeSig offset = block.initAt stack offset := by
      intro offset _ outside
      rw [strcpy_teeSig_outside _ length _ outside]
      by_cases terminator : offset = sizeofBaseBlock
      · rw [if_pos terminator, terminator, zero]
      · rw [if_neg terminator]
    refine ⟨bytes, ?_⟩
    rw [Block.calculateHashAt, block.dataBufferAt_congr bytes, block.dataBufferAt_initAt]
    exact hashData_eq_ok_iff.mpr ⟨⟨rfl, rfl⟩, rfl⟩

/-- A command whose block has a zero byte there: a role that is a multiple of
256, or an empty commit hash.  The role of a genesis block is 1. -/
def Call.ZeroBehindTeeSig (call : Call) : Prop :=
  (call.cmdId = cmdAccessControl ∧ call.params.acMsg.role.toNat % 256 = 0) ∨
    (call.cmdId = cmdCommit ∧ call.params.cmMsg.commitHash = .empty)

/-! ## Every block of a run -/

/-- The block of a reply and the stored head, next to what happened in memory. -/
structure BuiltInMemory (primitives : Primitives) (state : TaState) (call : Call) (block : Block)
    (stack : Region) (latestHash : CString) (sealing : Sealing) : Prop where
  sealed : (sealAt primitives call.outcomes block stack state.keyStore).1 = .ok sealing
  teeSig : sealing.returned.readString offsetTeeSig maxSignatureLength = block.base.teeSig
  head : latestHash = sealing.hash

/-- The byte behind `tee_sig` comes from the request, if it is not the role of
a genesis block. -/
theorem BuiltBy.zeroBehindTeeSig_iff {primitives : Primitives} {state : TaState} {call : Call}
    {block : Block} (built : BuiltBy primitives state call block) :
    block.ZeroBehindTeeSig ↔ call.ZeroBehindTeeSig := by
  cases built with
  | genesis teeSig isCommand =>
      refine iff_of_false (by decide : ¬ roleAdmin.toNat % 256 = 0) ?_
      rintro (⟨isAccess, _⟩ | ⟨isCommit, _⟩)
      · exact absurd (isCommand.symm.trans isAccess) (by decide)
      · exact absurd (isCommand.symm.trans isCommit) (by decide)
  | access repo edited teeSig accepted updated =>
      refine ⟨fun zero => Or.inl ⟨accepted.1, zero⟩, ?_⟩
      rintro (⟨_, zero⟩ | ⟨isCommit, _⟩)
      · exact zero
      · exact absurd (accepted.1.symm.trans isCommit) (by decide)
  | contribution repo teeSig accepted =>
      refine ⟨fun zero => Or.inr ⟨accepted.1, zero⟩, ?_⟩
      rintro (⟨isAccess, _⟩ | ⟨_, zero⟩)
      · exact absurd (accepted.1.symm.trans isAccess) (by decide)
      · exact zero

/-- In every run, a block is handed back as it was hashed exactly when the
field behind `tee_sig` starts with a zero byte, which the request decides. -/
theorem block_returned_as_hashed_iff (primitives : Primitives) (store : KeyStore)
    (calls : List Call) (call : Call) (repId : Nat) (block : Block) (stack : Region)
    (built : blockFor repId call ((trustedApplication primitives store).answer
      ((trustedApplication primitives store).run calls) call) = some block) :
    ∃ repo sealing,
      ((trustedApplication primitives store).next
        ((trustedApplication primitives store).run calls) call).slot repId = some repo ∧
      BuiltInMemory primitives ((trustedApplication primitives store).run calls) call block stack
        repo.latestHash sealing ∧
      (ReturnedAsHashed primitives block sealing repo.latestHash ↔ call.ZeroBehindTeeSig) := by
  rcases (run_slotStep primitives store calls call repId).built built with
    ⟨repo, after, stored, head, signed, builtBy⟩
  have length : block.base.teeSig.length = maxSignatureLength :=
    length_of_teeSignHash signed.signed
  refine ⟨repo, _, stored, ⟨congrArg Prod.fst (sealAt_of_signed signed stack), ?_, head⟩, ?_⟩
  · rw [Region.readString_strcpy, CString.take_eq_self (Nat.le_of_eq length)]
  · rw [head, ← builtBy.zeroBehindTeeSig_iff]
    exact returnedAsHashed_iff primitives block stack length

/-- A request whose role is neither admin nor writer, but a multiple of 256. -/
def Sample.noRole : Call := .requestAccess (outcomes 1) (access opAdd 0 newcomer)

theorem role_zero_returned_as_hashed :
    ∃ block repo sealing,
      (Sample.application.next (Sample.application.run [Sample.creation]) Sample.noRole).slot 0 =
        some repo ∧
      BuiltInMemory Sample.primitives (Sample.application.run [Sample.creation]) Sample.noRole block
        (fun _ => 0) repo.latestHash sealing ∧
      ReturnedAsHashed Sample.primitives block sealing repo.latestHash := by
  have builds : (blockFor 0 Sample.noRole (Sample.application.answer
      (Sample.application.run [Sample.creation]) Sample.noRole)).isSome := by
    decide +kernel
  rcases Option.isSome_iff_exists.mp builds with ⟨block, built⟩
  rcases block_returned_as_hashed_iff Sample.primitives (some Sample.keyPair) [Sample.creation]
    Sample.noRole 0 block (fun _ => 0) built with ⟨repo, sealing, found, inMemory, asHashed⟩
  exact ⟨block, repo, sealing, found, inMemory, asHashed.mpr (Or.inl ⟨rfl, rfl⟩)⟩

/-- The role of a genesis block is 1 when it is hashed and 0 when it is returned,
and the string to be hashed is another one. -/
theorem genesis_not_returned_as_hashed :
    ∃ block sealing,
      blockFor 0 Sample.creation (Sample.application.answer Sample.application.start
        Sample.creation) = some block ∧
      (sealAt Sample.primitives Sample.creation.outcomes block (fun _ => 0)
        Sample.application.start.keyStore).1 = .ok sealing ∧
      sealing.hashed offsetRole = 1 ∧ sealing.returned offsetRole = 0 ∧
      block.dataBufferAt sealing.returned ≠ block.dataBufferAt sealing.hashed ∧
      ∀ latestHash, ¬ ReturnedAsHashed Sample.primitives block sealing latestHash := by
  have built : blockFor 0 Sample.creation (Sample.application.answer Sample.application.start
      Sample.creation) = some (.access (Sample.creation.genesis.withTeeSig Sample.signature)) := by
    decide +kernel
  have roles : ∃ sealing, (sealAt Sample.primitives Sample.creation.outcomes
      (.access (Sample.creation.genesis.withTeeSig Sample.signature)) (fun _ => 0)
      Sample.application.start.keyStore).1 = .ok sealing ∧
      sealing.hashed offsetRole = 1 ∧ sealing.returned offsetRole = 0 ∧
      accessDataBufferAt sealing.returned ≠ accessDataBufferAt sealing.hashed :=
    ⟨_, rfl, by decide +kernel⟩
  rcases roles with ⟨sealing, sealed, before, after, different⟩
  refine ⟨_, sealing, built, sealed, before, after, different, ?_⟩
  intro latestHash asHashed
  have kept : sealing.returned offsetRole = sealing.hashed offsetRole :=
    asHashed.bytes offsetRole (by decide) (Or.inr (by decide))
  rw [before, after] at kept
  exact absurd kept (by decide)

end Ta
end TrustChain

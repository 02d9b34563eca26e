import TrustChain.Library.Overwriting
import TrustChain.Ta.Messages
import TrustChain.Ta.Commitment

namespace TrustChain
namespace Ta

open Library Tee

/-!
# What a block shows of the stack

The handlers declare a block as a local variable, fill in its strings with
`strcpy`, and copy the whole structure into the memory of the client.  Nothing
writes to the bytes between the terminator of a string and the next field, so
the client gets them as they were on the stack of the trusted application.
-/

/-! ## The bytes that are written -/

/-- The bytes of an object at this offset. -/
abbrev bytesAt (offset size : Nat) : Finset Nat := Finset.Ico offset (offset + size)

/-- The bytes that a string takes with its terminator. -/
abbrev textBytes (offset : Nat) (text : CString) : Finset Nat := bytesAt offset (text.length + 1)

/-- What `init_base_block` and `tee_sign_hash` write. -/
def BaseBlock.written (base : BaseBlock) : Finset Nat :=
  bytesAt offsetBlockHeight 4 ∪ textBytes offsetParentHash base.parentHash ∪ bytesAt offsetOp 4 ∪
    textBytes offsetSigkey base.sigkey ∪ textBytes offsetSignature base.signature ∪
    bytesAt offsetSeconds 4 ∪ bytesAt offsetMillis 4 ∪ textBytes offsetTeeSig .empty

/-- What is written to a block, its signature included. -/
def Block.written : Block → Finset Nat
  | access block =>
      block.base.written ∪ bytesAt offsetRole 4 ∪ textBytes offsetPubkey block.pubkey ∪
        textBytes offsetTeeSig block.base.teeSig
  | contribution block =>
      block.base.written ∪ textBytes offsetCommitHash block.commitHash ∪
        textBytes offsetTeeSig block.base.teeSig

/-- The bytes of the structure that nothing writes to. -/
def Block.leftBytes (block : Block) : Finset Nat :=
  Finset.range block.sizeof \ block.written

theorem overwrites_uint32 (offset : Nat) (n : UInt32) :
    Overwrites (fun region : Region => region.writeUInt32 offset n) ↑(bytesAt offset 4) := by
  rw [bytesAt, Finset.coe_Ico]
  exact Region.overwrites_writeUInt32 offset n

theorem overwrites_text (offset : Nat) (text : CString) :
    Overwrites (fun region : Region => region.strcpy offset text) ↑(textBytes offset text) := by
  rw [textBytes, bytesAt, Finset.coe_Ico]
  exact Region.overwrites_strcpy offset text

theorem overwrites_initBaseBlockAt (base : BaseBlock) :
    Overwrites (fun stack => initBaseBlockAt stack base.blockHeight base.parentHash base.op
      base.sigkey base.signature base.trustTimestamp) ↑base.written := by
  simp only [BaseBlock.written, Finset.coe_union]
  exact (((((((overwrites_uint32 offsetBlockHeight base.blockHeight).andThen
    (overwrites_text offsetParentHash base.parentHash)).andThen
    (overwrites_uint32 offsetOp base.op)).andThen
    (overwrites_text offsetSigkey base.sigkey)).andThen
    (overwrites_text offsetSignature base.signature)).andThen
    (overwrites_uint32 offsetSeconds base.trustTimestamp.seconds)).andThen
    (overwrites_uint32 offsetMillis base.trustTimestamp.millis)).andThen
    (overwrites_text offsetTeeSig .empty)

/-- A block that is filled in and signed. -/
theorem Block.overwrites_sealed (block : Block) :
    Overwrites (fun stack => (block.initAt stack).strcpy offsetTeeSig block.base.teeSig)
      ↑block.written := by
  cases block with
  | access block =>
      simp only [Block.written, Finset.coe_union]
      exact (((overwrites_initBaseBlockAt block.base).andThen
        (overwrites_uint32 offsetRole block.role)).andThen
        (overwrites_text offsetPubkey block.pubkey)).andThen
        (overwrites_text offsetTeeSig block.base.teeSig)
  | contribution block =>
      simp only [Block.written, Finset.coe_union]
      exact ((overwrites_initBaseBlockAt block.base).andThen
        (overwrites_text offsetCommitHash block.commitHash)).andThen
        (overwrites_text offsetTeeSig block.base.teeSig)

/-- A client tells two stacks apart exactly by the bytes that nothing writes to. -/
theorem Block.returnedBytes_eq_iff (block : Block) (first second : Region) :
    block.returnedBytes first = block.returnedBytes second ↔
      Set.EqOn first second ↑block.leftBytes := by
  have window : Region.cells 0 block.sizeof = ↑(Finset.range block.sizeof) := by
    rw [Region.cells, Nat.zero_add, Finset.range_eq_Ico, Finset.coe_Ico]
  rw [Block.returnedBytes, Block.returnedBytes, Region.read_eq_read_iff,
    block.overwrites_sealed.eqOn_iff, Block.leftBytes, Finset.coe_sdiff, window]

/-! ## Their number -/

/-- The bytes of a field behind the terminator of its text. -/
abbrev behindText (offset size : Nat) (text : CString) : Finset Nat :=
  Finset.Ico (offset + (text.length + 1)) (offset + size)

/-- The bytes behind the terminator in the last field. -/
def Block.behindOwnText : Block → Finset Nat
  | access block => behindText offsetPubkey maxKeyLength block.pubkey
  | contribution block => behindText offsetCommitHash maxHashLength block.commitHash

/-- The texts of a request that end inside their fields; a signature may fill
its field, since the terminator then falls on the timestamp. -/
structure Block.TextsFit (block : Block) : Prop where
  sigkey : block.base.sigkey.length < maxKeyLength
  signature : block.base.signature.length ≤ maxSignatureLength

/-- The room behind the text of the last field. -/
def Block.spareOfOwnText : Block → Nat
  | access block => maxKeyLength - (block.pubkey.length + 1)
  | contribution block => maxHashLength - (block.commitHash.length + 1)

/-- The room behind the three texts of a request. -/
def Block.spare (block : Block) : Nat :=
  (maxKeyLength - (block.base.sigkey.length + 1)) +
    (maxSignatureLength - (block.base.signature.length + 1)) + block.spareOfOwnText

theorem Block.leftBytes_eq {block : Block} (fits : block.TextsFit)
    (parentHash : block.base.parentHash.length = maxHashLength)
    (teeSig : block.base.teeSig.length = maxSignatureLength) :
    block.leftBytes =
      (behindText offsetSigkey maxKeyLength block.base.sigkey ∪
        behindText offsetSignature maxSignatureLength block.base.signature) ∪
      block.behindOwnText := by
  have keyFits := fits.sigkey
  have signatureFits := fits.signature
  have nothing : CString.empty.length = 0 := rfl
  ext offset
  cases block with
  | access block =>
      simp only [Block.base, maxKeyLength, maxSignatureLength, maxHashLength] at *
      simp only [Block.leftBytes, Block.written, BaseBlock.written, Block.behindOwnText,
        Block.sizeof, Finset.mem_sdiff, Finset.mem_union, Finset.mem_Ico, Finset.mem_range,
        sizeofAccessBlock, offsetPubkey, offsetRole, sizeofBaseBlock, offsetTeeSig, offsetMillis,
        offsetSeconds, offsetSignature, offsetSigkey, offsetOp, offsetParentHash,
        offsetBlockHeight, maxKeyLength, maxSignatureLength, maxHashLength]
      omega
  | contribution block =>
      simp only [Block.base, maxKeyLength, maxSignatureLength, maxHashLength] at *
      simp only [Block.leftBytes, Block.written, BaseBlock.written, Block.behindOwnText,
        Block.sizeof, Finset.mem_sdiff, Finset.mem_union, Finset.mem_Ico, Finset.mem_range,
        sizeofContributionBlock, offsetCommitHash, sizeofBaseBlock, offsetTeeSig, offsetMillis,
        offsetSeconds, offsetSignature, offsetSigkey, offsetOp, offsetParentHash,
        offsetBlockHeight, maxKeyLength, maxSignatureLength, maxHashLength]
      omega

theorem card_behindText (offset size : Nat) (text : CString) :
    (behindText offset size text).card = size - (text.length + 1) := by
  rw [Nat.card_Ico, Nat.add_sub_add_left]

theorem Block.card_behindOwnText (block : Block) :
    block.behindOwnText.card = block.spareOfOwnText := by
  cases block with
  | access block => exact card_behindText offsetPubkey maxKeyLength block.pubkey
  | contribution block => exact card_behindText offsetCommitHash maxHashLength block.commitHash

/-- Fields that lie one behind the other have no byte in common. -/
theorem disjoint_behindText {offset size other otherSize : Nat} (apart : offset + size ≤ other)
    (text otherText : CString) :
    Disjoint (behindText offset size text) (behindText other otherSize otherText) := by
  rw [Finset.disjoint_left]
  intro index inside inOther
  have high := (Finset.mem_Ico.mp inside).2
  have low := (Finset.mem_Ico.mp inOther).1
  omega

theorem Block.disjoint_behindOwnText (block : Block) {offset size : Nat}
    (apart : offset + size ≤ sizeofBaseBlock) (text : CString) :
    Disjoint (behindText offset size text) block.behindOwnText := by
  cases block with
  | access block =>
      exact disjoint_behindText (Nat.le_trans apart (by decide)) text block.pubkey
  | contribution block => exact disjoint_behindText apart text block.commitHash

theorem Block.card_leftBytes {block : Block} (fits : block.TextsFit)
    (parentHash : block.base.parentHash.length = maxHashLength)
    (teeSig : block.base.teeSig.length = maxSignatureLength) :
    block.leftBytes.card = block.spare := by
  have inBase : Disjoint (behindText offsetSigkey maxKeyLength block.base.sigkey)
      (behindText offsetSignature maxSignatureLength block.base.signature) :=
    disjoint_behindText (by decide) _ _
  have behindBase : Disjoint
      (behindText offsetSigkey maxKeyLength block.base.sigkey ∪
        behindText offsetSignature maxSignatureLength block.base.signature)
      block.behindOwnText :=
    Finset.disjoint_union_left.mpr
      ⟨block.disjoint_behindOwnText (by decide) _, block.disjoint_behindOwnText (by decide) _⟩
  rw [Block.leftBytes_eq fits parentHash teeSig, Finset.card_union_of_disjoint behindBase,
    Finset.card_union_of_disjoint inBase, card_behindText, card_behindText,
    block.card_behindOwnText, Block.spare]

/-! ## Every block of a run -/

/-- What a client that gets this block sees of the stack.  Neither the hash nor
the signature depends on it. -/
structure ShowsStack (primitives : Primitives) (event : TaEvent) (block : Block) : Prop where
  sealed : ∀ stack, ∃ sealing,
    (sealAt primitives event.input.outcomes block stack event.before.keyStore).1 = .ok sealing ∧
      sealing.hash = block.hash primitives ∧
      sealing.returned.readString offsetTeeSig maxSignatureLength = block.base.teeSig ∧
      sealing.returned.read 0 block.sizeof = block.returnedBytes stack
  shown : ∀ first second, block.returnedBytes first = block.returnedBytes second ↔
    Set.EqOn first second ↑block.leftBytes
  count : block.TextsFit → block.leftBytes.card = block.spare

theorem length_parentHash_of_event {primitives : Primitives} {store : KeyStore}
    {calls : List Call} {repId : Nat} {event : TaEvent}
    (member : event ∈ (trustedApplication primitives store).log calls) {block : Block}
    (built : blockOf repId event = some block) :
    block.base.parentHash.length = maxHashLength := by
  have inBlocks : block ∈ blocksOf repId ((trustedApplication primitives store).log calls) :=
    List.mem_filterMap.mpr ⟨event, member, built⟩
  have chain := run_slotChain primitives store calls repId
  cases slot : ((trustedApplication primitives store).run calls).slot repId with
  | none =>
      rw [slot] at chain
      rw [chain.1] at inBlocks
      cases inBlocks
  | some repo =>
      rw [slot] at chain
      exact length_parentHash (ChainOf.linked chain) (List.mem_reverse.mpr inBlocks)

/-- In each run, every block that is handed out shows what the stack held behind
the texts of its last request, this and nothing else. -/
theorem blocks_show_stack (primitives : Primitives) (store : KeyStore) (calls : List Call)
    (repId : Nat) :
    ∀ event ∈ (trustedApplication primitives store).log calls, ∀ block,
      blockOf repId event = some block → ShowsStack primitives event block := by
  intro event member block built
  rcases (trustedApplication primitives store).mem_log member with ⟨earlier, call, _, rfl⟩
  rcases (run_slotStep primitives store earlier call repId).built built with
    ⟨repo, after, found, _, signed, _⟩
  have teeSig : block.base.teeSig.length = maxSignatureLength :=
    length_of_teeSignHash signed.signed
  have parentHash := length_parentHash_of_event member built
  refine ⟨?_, block.returnedBytes_eq_iff, fun fits => Block.card_leftBytes fits parentHash teeSig⟩
  intro stack
  refine ⟨_, congrArg Prod.fst (sealAt_of_signed signed stack), rfl, ?_, rfl⟩
  rw [Region.readString_strcpy, CString.take_eq_self (Nat.le_of_eq teeSig)]

/-- The genesis block of the sample repository, whose key has one character,
shows 1531 bytes. -/
theorem founding_shows_stack :
    ∃ block, blockFor 0 Sample.creation (Sample.application.answer Sample.application.start
        Sample.creation) = some block ∧
      block.leftBytes.card = 1531 := by
  have built : blockFor 0 Sample.creation (Sample.application.answer Sample.application.start
      Sample.creation) = some (.access (Sample.creation.genesis.withTeeSig Sample.signature)) := by
    decide +kernel
  have shows := blocks_show_stack Sample.primitives (some Sample.keyPair) [Sample.creation] 0
    _ (List.mem_singleton.mpr rfl) _ built
  exact ⟨_, built, shows.count ⟨by decide +kernel, by decide +kernel⟩⟩

end Ta
end TrustChain

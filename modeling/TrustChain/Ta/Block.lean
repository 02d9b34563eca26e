import TrustChain.Ta.Utils

namespace TrustChain
namespace Ta

open Library Tee

/-!
# `block/block.c` and the constants of `trust_chain_ta.h`

The fields of a block are separate strings here, as large as what is copied
into them; their layout in memory is the subject of `BlockMemory`.  Both kinds
of block are hashed over a text: the fields in a fixed order, separated by `:`,
each string cut at a precision, the whole cut at 1024 bytes.
-/

def opAdd : UInt32 := 0
def opDelete : UInt32 := 1
def opPush : UInt32 := 2
def opPr : UInt32 := 3

def roleAdmin : UInt32 := 1
def roleWriter : UInt32 := 2

theorem opAdd_ne_opDelete : opAdd ≠ opDelete := by decide

theorem roleAdmin_ne_roleWriter : roleAdmin ≠ roleWriter := by decide

def maxRepoId : Nat := 1000
def maxKeyLength : Nat := 512
def maxHashLength : Nat := 64
def maxSignatureLength : Nat := 512

/-- `struct base_block`. -/
structure BaseBlock where
  blockHeight : UInt32
  parentHash : CString
  op : UInt32
  sigkey : CString
  signature : CString
  trustTimestamp : TeeTime
  teeSig : CString
  deriving DecidableEq

/-- `struct access_block`. -/
structure AccessBlock where
  base : BaseBlock
  role : UInt32
  pubkey : CString
  deriving DecidableEq

/-- `struct contribution_block`. -/
structure ContributionBlock where
  base : BaseBlock
  commitHash : CString
  deriving DecidableEq

/-- `init_base_block`; the time is what `get_trust_time` reads. -/
def initBaseBlock (blockHeight : UInt32) (parentHash : CString) (op : UInt32)
    (sigkey signature : CString) (time : TeeTime) : BaseBlock where
  blockHeight := blockHeight
  parentHash := parentHash
  op := op
  sigkey := sigkey
  signature := signature
  trustTimestamp := time
  teeSig := .empty

/-- `init_access_block`. -/
def initAccessBlock (blockHeight : UInt32) (parentHash : CString) (op role : UInt32)
    (pubkey sigkey signature : CString) (time : TeeTime) : AccessBlock where
  base := initBaseBlock blockHeight parentHash op sigkey signature time
  role := role
  pubkey := pubkey

/-- `init_contribution_block`. -/
def initContributionBlock (blockHeight : UInt32) (parentHash : CString) (op : UInt32)
    (commitHash sigkey signature : CString) (time : TeeTime) : ContributionBlock where
  base := initBaseBlock blockHeight parentHash op sigkey signature time
  commitHash := commitHash

/-! ## The hashed text -/

/-- The fields that both formats start with:
`"%u:%.64s:%u:%.256s:%.256s:%u:%u"`. -/
def baseFields (base : BaseBlock) : List CString :=
  [decimal base.blockHeight.toNat, base.parentHash.take 64, decimal base.op.toNat,
    base.sigkey.take 256, base.signature.take 256,
    decimal base.trustTimestamp.seconds.toNat, decimal base.trustTimestamp.millis.toNat]

/-- `data_buffer` of `calculate_access_block_hash`, with `":%u:%.256s"` at the end. -/
def accessDataBuffer (block : AccessBlock) : CString :=
  (joinColon (baseFields block.base ++ [decimal block.role.toNat, block.pubkey.take 256])).snprintf
    1024

/-- `data_buffer` of `calculate_contribution_block_hash`, with `":%.64s"` at the end. -/
def contributionDataBuffer (block : ContributionBlock) : CString :=
  (joinColon (baseFields block.base ++ [block.commitHash.take 64])).snprintf 1024

/-- `calculate_access_block_hash`. -/
def calculateAccessBlockHash (primitives : Primitives) (outcomes : HashOutcomes)
    (block : AccessBlock) : TeeResult CString :=
  hashData primitives outcomes (accessDataBuffer block).bytes

/-- `calculate_contribution_block_hash`. -/
def calculateContributionBlockHash (primitives : Primitives) (outcomes : HashOutcomes)
    (block : ContributionBlock) : TeeResult CString :=
  hashData primitives outcomes (contributionDataBuffer block).bytes

/-! ## Blocks of either kind -/

inductive Block
  | access (block : AccessBlock)
  | contribution (block : ContributionBlock)
  deriving DecidableEq

namespace Block

def base : Block → BaseBlock
  | access block => block.base
  | contribution block => block.base

/-- The block as it is when its hash is computed: signing fills in `tee_sig`. -/
def unsigned : Block → Block
  | access block => access { block with base := { block.base with teeSig := .empty } }
  | contribution block => contribution { block with base := { block.base with teeSig := .empty } }

/-- The serialized string. -/
def dataBuffer : Block → CString
  | access block => accessDataBuffer block
  | contribution block => contributionDataBuffer block

/-- The hash function of the block's kind. -/
def calculateHash (primitives : Primitives) (outcomes : HashOutcomes) :
    Block → TeeResult CString
  | access block => calculateAccessBlockHash primitives outcomes block
  | contribution block => calculateContributionBlockHash primitives outcomes block

/-- The hash a block has whenever it can be computed. -/
def hash (primitives : Primitives) (block : Block) : CString :=
  hashText primitives block.dataBuffer.bytes

theorem calculateHash_eq (primitives : Primitives) (outcomes : HashOutcomes) (block : Block) :
    block.calculateHash primitives outcomes =
      hashData primitives outcomes block.dataBuffer.bytes := by
  cases block <;> rfl

theorem dataBuffer_unsigned (block : Block) : block.unsigned.dataBuffer = block.dataBuffer := by
  cases block <;> rfl

theorem hash_unsigned (primitives : Primitives) (block : Block) :
    block.unsigned.hash primitives = block.hash primitives := by
  rw [hash, hash, dataBuffer_unsigned]

theorem calculateHash_eq_ok_iff {primitives : Primitives} {outcomes : HashOutcomes}
    {block : Block} {hash : CString} :
    block.calculateHash primitives outcomes = .ok hash ↔
      outcomes.Succeeds ∧ hash = block.hash primitives := by
  rw [calculateHash_eq]
  exact hashData_eq_ok_iff

end Block

end Ta
end TrustChain

import TrustChain.Ta.Messages

namespace TrustChain
namespace Ta

open Library Tee

/-!
# Reading a block that was handed back

A client finds the structure that was copied out at the start of its buffer, and
reads the fields as integers and as C strings.  A string that ends inside its
field is found whatever lies behind, and a parent hash, which fills its field,
ends in front of an operation whose first byte is zero.
-/

/-! ## Fields of a structure at the start of a buffer -/

section Fields

variable (region : Region) {size offset : Nat} (behind : List UInt8)

theorem drop_read_append (inside : offset ≤ size) :
    (region.read 0 size ++ behind).drop offset = region.read offset (size - offset) ++ behind := by
  have start : offset ≤ (region.read 0 size).length := by rwa [Region.length_read]
  rw [List.drop_append_of_le_length start, region.drop_read 0 inside, Nat.zero_add]

theorem uint32At_read_append (inside : offset + 4 ≤ size) :
    uint32At (region.read 0 size ++ behind) offset = region.readUInt32 offset := by
  have field : 4 ≤ (region.read offset (size - offset)).length := by
    rw [Region.length_read]
    omega
  rw [uint32At, drop_read_append region behind (by omega), List.take_append_of_le_length field,
    region.take_read offset (by omega), Region.readUInt32]

theorem stringAt_read_append {count : Nat} (inside : offset + count ≤ size) {text : CString}
    (found : region.readString offset count = text) (ends : text.length < count) :
    stringAt (region.read 0 size ++ behind) offset = text := by
  have split : region.read offset (size - offset) =
      region.read offset count ++ region.read (offset + count) (size - offset - count) := by
    rw [← region.read_add]
    congr 1
    omega
  have shorter : (CString.ofMemory (region.read offset count)).length <
      (region.read offset count).length := by
    rw [Region.length_read]
    change (region.readString offset count).length < count
    rw [found]
    exact ends
  rw [stringAt, drop_read_append region behind (by omega), split, List.append_assoc,
    CString.ofMemory_append shorter]
  exact found

end Fields

/-! ## The fields of an access block -/

section AccessBlock

variable (stack : Region) (block : AccessBlock)

/-- The memory of an access block when it is handed back. -/
def AccessBlock.sealedAt : Region :=
  ((Block.access block).initAt stack).strcpy offsetTeeSig block.base.teeSig

theorem AccessBlock.returnedBytes_eq :
    (Block.access block).returnedBytes stack =
      (block.sealedAt stack).read 0 sizeofAccessBlock := rfl

theorem AccessBlock.readUInt32_sealedAt :
    (block.sealedAt stack).readUInt32 offsetBlockHeight = block.base.blockHeight ∧
      (block.sealedAt stack).readUInt32 offsetOp = block.base.op ∧
      (block.sealedAt stack).readUInt32 offsetSeconds = block.base.trustTimestamp.seconds ∧
      (block.sealedAt stack).readUInt32 offsetMillis = block.base.trustTimestamp.millis := by
  simp (disch := decide) only [AccessBlock.sealedAt, Block.initAt, initAccessBlockAt,
    initBaseBlockAt, Region.readUInt32_strcpy_behind, Region.readUInt32_writeUInt32_behind,
    Region.readUInt32_writeUInt32, and_self]

theorem AccessBlock.readString_sealedAt (sigkey : block.base.sigkey.length < maxKeyLength)
    (signature : block.base.signature.length < maxSignatureLength)
    (teeSig : block.base.teeSig.length = maxSignatureLength) :
    (block.sealedAt stack).readString offsetSigkey maxKeyLength = block.base.sigkey ∧
      (block.sealedAt stack).readString offsetSignature maxSignatureLength =
        block.base.signature ∧
      (block.sealedAt stack).readString offsetTeeSig (maxSignatureLength + 1) =
        block.base.teeSig := by
  refine ⟨?_, ?_, ?_⟩
  · simp (disch := decide) only [AccessBlock.sealedAt, Block.initAt, initAccessBlockAt,
      initBaseBlockAt, Region.readString_strcpy_behind, Region.readString_writeUInt32_behind,
      Region.readString_strcpy]
    exact CString.take_eq_self (Nat.le_of_lt sigkey)
  · simp (disch := decide) only [AccessBlock.sealedAt, Block.initAt, initAccessBlockAt,
      initBaseBlockAt, Region.readString_strcpy_behind, Region.readString_writeUInt32_behind,
      Region.readString_strcpy]
    exact CString.take_eq_self (Nat.le_of_lt signature)
  · rw [AccessBlock.sealedAt, Region.readString_strcpy]
    exact CString.take_eq_self (by omega)

theorem AccessBlock.readString_pubkey_sealedAt (pubkey : block.pubkey.length < maxKeyLength)
    (teeSig : block.base.teeSig.length = maxSignatureLength) :
    (block.sealedAt stack).readString offsetPubkey maxKeyLength = block.pubkey := by
  have written : (block.base.teeSig.bytes ++ [0]).length = maxSignatureLength + 1 := by
    rw [List.length_append, List.length_singleton]
    exact congrArg (· + 1) teeSig
  have inFront : offsetTeeSig + (maxSignatureLength + 1) ≤ offsetPubkey := by decide
  rw [Region.readString, AccessBlock.sealedAt, Region.strcpy,
    Region.read_write_apart _ (Or.inr (by rw [written]; exact inFront)), Block.initAt,
    initAccessBlockAt]
  change (Region.strcpy _ offsetPubkey block.pubkey).readString offsetPubkey maxKeyLength = _
  rw [Region.readString_strcpy]
  exact CString.take_eq_self (Nat.le_of_lt pubkey)

/-- A parent hash that fills its field is found if the operation behind it has a
zero as its first byte. -/
theorem AccessBlock.readString_parentHash_sealedAt
    (parentHash : block.base.parentHash.length = maxHashLength)
    (op : block.base.op.toNat % 256 = 0) :
    (block.sealedAt stack).readString offsetParentHash (maxHashLength + 1) =
      block.base.parentHash := by
  have hash : (block.sealedAt stack).read offsetParentHash maxHashLength =
      block.base.parentHash.bytes := by
    have whole : maxHashLength ≤ block.base.parentHash.bytes.length := Nat.le_of_eq parentHash.symm
    have nothing : maxHashLength - (block.base.parentHash.bytes ++ [0]).length = 0 := by
      rw [List.length_append]
      omega
    simp (disch := decide) only [AccessBlock.sealedAt, Block.initAt, initAccessBlockAt,
      initBaseBlockAt, Region.strcpy, Region.writeUInt32, Region.read_write_behind]
    rw [Region.read_write, nothing, Region.read, List.append_nil,
      List.take_append_of_le_length whole]
    exact List.take_of_length_le (Nat.le_of_eq parentHash)
  have behind : (block.sealedAt stack).read (offsetParentHash + maxHashLength) 1 = [0] := by
    have low : (littleEndian block.base.op).take 1 = [0] := by
      rw [littleEndian, op]
      rfl
    simp (disch := decide) only [AccessBlock.sealedAt, Block.initAt, initAccessBlockAt,
      initBaseBlockAt, Region.strcpy, Region.writeUInt32, Region.read_write_behind]
    rw [show offsetParentHash + maxHashLength = offsetOp from rfl, Region.read_write, low]
    rfl
  rw [Region.readString, Region.read_snoc hash behind]
  exact CString.ofMemory_terminated block.base.parentHash []

end AccessBlock

end Ta
end TrustChain

import TrustChain.Ta.HexMemory

namespace TrustChain
namespace Ta

open Library Tee

/-!
# `struct repo_metadata` as bytes

The hash of the last block and the founder's key are neighbours: `latest_hash`
has 64 bytes, and a hash has 64 characters.  So the terminator of each hash that
is stored goes into the first byte of `founder_key`.

The arrays from which the hash is copied are as short as the field.  Behind
`genesis_hash`, and behind `block_hash` in `access_control`, nothing is written
before the copy is made, and the terminator is still there.  In `commit` the next
array is `decrypted_key`.  If it lies right behind `block_hash`, a key that was
decrypted in between stands in place of the terminator, and is copied with the
hash.

Elsewhere in this development a hash is the text of the 64 bytes of its array or
field, which is all that the format `%.64s` of the next block takes of it.
-/

/-! ## Layout -/

def offsetRmBlockHeight : Nat := 0
def offsetRmLatestHash : Nat := offsetRmBlockHeight + 4
def offsetRmFounderKey : Nat := offsetRmLatestHash + maxHashLength

/-- The end of the three fields; the pointers to the key lists lie behind. -/
def endRmFields : Nat := offsetRmFounderKey + maxKeyLength

/-! ## The arrays of `commit` -/

/-- `block_hash`, where the part of the stack frame that matters here begins. -/
def offsetBlockHash : Nat := 0

/-- `decrypted_key`, with so many bytes between it and the end of `block_hash`. -/
def offsetDecryptedKey (gap : Nat) : Nat := offsetBlockHash + maxHashLength + gap

/-- `TA_STACK_SIZE`; no string on the stack is longer. -/
def taStackSize : Nat := 2 * 1024

/-- The two arrays when `commit` stores the hash.  Texts come with their
terminators, except that an empty key leaves its array alone. -/
def commitArrays (gap : Nat) (stack : Region) (blockHash decryptedKey : CString) : Region :=
  let stack := stack.strcpy offsetBlockHash blockHash
  if decryptedKey = .empty then stack else stack.strcpy (offsetDecryptedKey gap) decryptedKey

/-- What `strcpy` finds at `block_hash`. -/
def foundBlockHash (gap : Nat) (stack : Region) (blockHash decryptedKey : CString) : CString :=
  (commitArrays gap stack blockHash decryptedKey).readString offsetBlockHash taStackSize

/-- The arrays are what `hash_data` and `tee_decrypt_data` leave in them. -/
theorem commitArrays_eq (gap : Nat) (stack : Region) {digest : List UInt8} (nonempty : digest ≠ [])
    (plaintext : List UInt8) :
    bytesToHexStringAt (bytesToHexStringAt stack offsetBlockHash digest) (offsetDecryptedKey gap)
        plaintext =
      commitArrays gap stack (bytesToHexString digest) (bytesToHexString plaintext) := by
  rw [commitArrays, bytesToHexStringAt_eq_strcpy stack offsetBlockHash nonempty]
  cases plaintext with
  | nil => exact (if_pos rfl).symm
  | cons byte rest =>
      have different : bytesToHexString (byte :: rest) ≠ .empty := by
        intro same
        have length := congrArg CString.length same
        rw [length_bytesToHexString] at length
        cases length
      rw [if_neg different, bytesToHexStringAt_eq_strcpy _ _ (List.cons_ne_nil byte rest)]

/-- A text behind the terminator of a string does not change it. -/
theorem readString_strcpy_behind_terminator (region : Region) {offset other limit : Nat}
    {text : CString} (apart : offset + (text.length + 1) ≤ other) (long : text.length < limit)
    (next : CString) :
    ((region.strcpy offset text).strcpy other next).readString offset limit = text := by
  have written : ((region.strcpy offset text).strcpy other next).read offset (text.length + 1) =
      text.bytes ++ [0] := by
    have length : (text.bytes ++ [0]).length = text.length + 1 := by
      rw [List.length_append, List.length_singleton]
      rfl
    rw [Region.strcpy, Region.read_write_behind _ _ apart, Region.strcpy, ← length,
      Region.read_write_self]
  have split : limit = text.length + 1 + (limit - (text.length + 1)) :=
    (Nat.add_sub_cancel' long).symm
  rw [Region.readString, split, Region.read_add, written, List.append_assoc]
  exact CString.ofMemory_terminated text _

section Found

variable (gap : Nat) (stack : Region) {blockHash : CString} (decryptedKey : CString)

/-- The key is found with the hash if nothing lies between the two arrays. -/
def keyBehind : CString := if gap = 0 then decryptedKey else .empty

theorem foundBlockHash_eq (length : blockHash.length = maxHashLength) :
    foundBlockHash gap stack blockHash decryptedKey =
      (blockHash ++ keyBehind gap decryptedKey).take taStackSize := by
  have alone : (blockHash ++ CString.empty).take taStackSize = blockHash := by
    rw [CString.append_empty]
    apply CString.take_eq_self
    rw [length]
    decide
  unfold foundBlockHash commitArrays keyBehind
  by_cases isEmpty : decryptedKey = .empty
  · rw [if_pos isEmpty, isEmpty, ite_self, Region.readString_strcpy,
      CString.append_empty]
  · rw [if_neg isEmpty]
    by_cases adjacent : gap = 0
    · have next : offsetDecryptedKey gap = offsetBlockHash + blockHash.length := by
        rw [adjacent, length]
        rfl
      rw [if_pos adjacent, next, Region.strcpy_strcpy, Region.readString_strcpy]
    · have behind : offsetBlockHash + (blockHash.length + 1) ≤ offsetDecryptedKey gap := by
        rw [length, offsetDecryptedKey]
        omega
      have shorter : blockHash.length < taStackSize := by
        rw [length]
        decide
      rw [if_neg adjacent, alone,
        readString_strcpy_behind_terminator _ behind shorter decryptedKey]

theorem take_foundBlockHash (length : blockHash.length = maxHashLength) :
    (foundBlockHash gap stack blockHash decryptedKey).take maxHashLength = blockHash := by
  rw [foundBlockHash_eq gap stack decryptedKey length]
  apply CString.ext
  have inside : min maxHashLength taStackSize = blockHash.bytes.length := by
    change _ = blockHash.length
    rw [length]
    rfl
  rw [CString.bytes_take, CString.bytes_take, CString.bytes_append, List.take_take, inside,
    List.take_left]

/-- The hash is found by itself, unless a key follows it. -/
theorem length_foundBlockHash_iff (length : blockHash.length = maxHashLength) :
    (foundBlockHash gap stack blockHash decryptedKey).length = maxHashLength ↔
      (gap = 0 → decryptedKey = .empty) := by
  have whole : (foundBlockHash gap stack blockHash decryptedKey).length =
      min taStackSize (maxHashLength + (keyBehind gap decryptedKey).length) := by
    rw [foundBlockHash_eq gap stack decryptedKey length, CString.length_take,
      CString.length_append, length]
  have isEmpty : (keyBehind gap decryptedKey).length = 0 ↔ (gap = 0 → decryptedKey = .empty) := by
    unfold keyBehind
    by_cases adjacent : gap = 0
    · rw [if_pos adjacent, imp_iff_right adjacent, CString.ext_iff]
      exact List.length_eq_zero_iff
    · rw [if_neg adjacent]
      exact iff_of_true rfl fun same => absurd same adjacent
  rw [whole, ← isEmpty]
  have room : taStackSize = 2048 := rfl
  have size : maxHashLength = 64 := rfl
  omega

end Found

/-! ## Stores -/

/-- `init_repo` up to the genesis block, on memory that is zero. -/
def fillMetadata (repo : Region) (adminKey : CString) : Region :=
  let repo := repo.writeUInt32 offsetRmBlockHeight 0
  let repo := repo.strcpy offsetRmLatestHash zeroHash
  repo.strcpy offsetRmFounderKey adminKey

/-- The same on memory that `TEE_Malloc` has filled with zeros. -/
def initMetadata (memory : Region) (adminKey : CString) : Region :=
  fillMetadata (memory.write 0 (List.replicate endRmFields 0)) adminKey

/-- `init_repo` after the genesis block. -/
def storeGenesisHash (repo : Region) (genesisHash : CString) : Region :=
  repo.strcpy offsetRmLatestHash genesisHash

/-- The end of `access_control` and of `commit`; the text is what is found at
`block_hash`. -/
def storeBlockHash (repo : Region) (found : CString) : Region :=
  let repo := repo.strcpy offsetRmLatestHash found
  repo.writeUInt32 offsetRmBlockHeight (repo.readUInt32 offsetRmBlockHeight + 1)

/-! ## The genesis block in between -/

/-- While the first hash and the founder's key stand there, the hash runs into
the key. -/
theorem readString_fillMetadata (repo : Region) (adminKey : CString) :
    (fillMetadata repo adminKey).readString offsetRmLatestHash
        (maxHashLength + adminKey.length) = zeroHash ++ adminKey := by
  have behind : offsetRmFounderKey = offsetRmLatestHash + zeroHash.length := by decide
  rw [fillMetadata, behind, Region.strcpy_strcpy, Region.readString_strcpy]
  apply CString.take_eq_self
  rw [CString.length_append, length_zeroHash]

/-- The parent hash of the genesis block is copied with the founder's key behind
it, and the stores that follow cover what went too far. -/
theorem initAccessBlockAt_overrun (stack : Region) (height op role : UInt32)
    (pubkey sigkey signature : CString) (time : TeeTime) :
    initAccessBlockAt stack height (zeroHash ++ sigkey) op role pubkey sigkey signature time =
      initAccessBlockAt stack height zeroHash op role pubkey sigkey signature time := by
  have covered : ∀ region : Region,
      ((region.strcpy offsetParentHash (zeroHash ++ sigkey)).writeUInt32 offsetOp op).strcpy
          offsetSigkey sigkey =
        ((region.strcpy offsetParentHash zeroHash).writeUInt32 offsetOp op).strcpy offsetSigkey
          sigkey := by
    intro region
    have behind : offsetOp = offsetParentHash + zeroHash.length := by decide
    have next : offsetSigkey = offsetOp + (littleEndian op).length := rfl
    rw [← Region.strcpy_strcpy, ← behind, next]
    simp only [Region.strcpy, Region.writeUInt32]
    rw [← Region.write_append, Region.write_write_of_length_le, Region.write_append]
    exact (Nat.le_add_left _ _).trans_eq List.length_append.symm
  unfold initAccessBlockAt initBaseBlockAt
  simp only [covered]

/-! ## What is read -/

/-- The text stands in the field, and runs into the next one if it is longer. -/
structure MetadataReads (memory : Region) (text : CString) : Prop where
  latestHash : ∀ limit, memory.readString offsetRmLatestHash limit = text.take limit
  terminator : memory (offsetRmLatestHash + text.length) = 0

theorem metadataReads_strcpy (memory : Region) (text : CString) :
    MetadataReads (memory.strcpy offsetRmLatestHash text) text where
  latestHash := fun limit => memory.readString_strcpy offsetRmLatestHash limit text
  terminator := memory.strcpy_terminator offsetRmLatestHash text

theorem MetadataReads.writeUInt32 {memory : Region} {text : CString}
    (reads : MetadataReads memory text) (height : UInt32) :
    MetadataReads (memory.writeUInt32 offsetRmBlockHeight height) text where
  latestHash := by
    intro limit
    have apart : offsetRmLatestHash + limit ≤ offsetRmBlockHeight ∨
        offsetRmBlockHeight + 4 ≤ offsetRmLatestHash := Or.inr (Nat.le_refl _)
    rw [← reads.latestHash limit, Region.readString, Region.readString,
      memory.read_writeUInt32_apart height apart]
  terminator := by
    have behind : offsetRmBlockHeight + 4 ≤ offsetRmLatestHash + text.length :=
      Nat.le_add_right offsetRmLatestHash text.length
    rw [← reads.terminator]
    exact memory.write_outside (Or.inr behind)

theorem metadataReads_storeBlockHash (memory : Region) (found : CString) :
    MetadataReads (storeBlockHash memory found) found :=
  (metadataReads_strcpy memory found).writeUInt32 _

/-! ## What the handlers read again -/

/-- The height that is read. -/
def heightIn (memory : Region) : UInt32 := memory.readUInt32 offsetRmBlockHeight

/-- The hash that is read with `%.64s`. -/
def hashIn (memory : Region) : CString := memory.readString offsetRmLatestHash maxHashLength

theorem MetadataReads.hashIn_eq {memory : Region} {text : CString}
    (reads : MetadataReads memory text) : hashIn memory = text.take maxHashLength :=
  reads.latestHash maxHashLength

theorem heightIn_fillMetadata (repo : Region) (adminKey : CString) :
    heightIn (fillMetadata repo adminKey) = 0 := by
  simp (disch := decide) only [heightIn, fillMetadata, Region.readUInt32_strcpy_behind,
    Region.readUInt32_writeUInt32]

theorem hashIn_fillMetadata (repo : Region) (adminKey : CString) :
    hashIn (fillMetadata repo adminKey) = zeroHash := by
  simp (disch := decide) only [hashIn, fillMetadata, Region.readString_strcpy_behind,
    Region.readString_strcpy]
  exact CString.take_eq_self (Nat.le_of_eq length_zeroHash)

theorem heightIn_storeGenesisHash (repo : Region) (genesisHash : CString) :
    heightIn (storeGenesisHash repo genesisHash) = heightIn repo := by
  simp (disch := decide) only [heightIn, storeGenesisHash, Region.readUInt32_strcpy_behind]

theorem heightIn_storeBlockHash (repo : Region) (found : CString) :
    heightIn (storeBlockHash repo found) = heightIn repo + 1 := by
  simp (disch := decide) only [heightIn, storeBlockHash, Region.readUInt32_writeUInt32,
    Region.readUInt32_strcpy_behind]

/-! ## The fields as a whole -/

/-- The three fields.  Some string ends in the last two, so that what is read of
`latest_hash` is inside. -/
structure RepoFields where
  bytes : Region
  terminated : ∃ index < maxHashLength + maxKeyLength, bytes (offsetRmLatestHash + index) = 0

namespace RepoFields

variable (fields : RepoFields)

def blockHeight : UInt32 := heightIn fields.bytes

/-- The hash as `%.64s` reads it. -/
def latestHash : CString := hashIn fields.bytes

/-- The hash as `strcpy` reads it. -/
def latestText : CString :=
  fields.bytes.readString offsetRmLatestHash (maxHashLength + maxKeyLength)

/-- The fields as `TEE_MALLOC_FILL_ZERO` leaves them. -/
def zeroed : RepoFields where
  bytes := fun _ => 0
  terminated := ⟨0, Nat.zero_lt_of_lt (by decide : 0 < maxHashLength + maxKeyLength), rfl⟩

def setBlockHeight (height : UInt32) : RepoFields where
  bytes := fields.bytes.writeUInt32 offsetRmBlockHeight height
  terminated := by
    rcases fields.terminated with ⟨index, inside, zero⟩
    have behind : offsetRmBlockHeight + 4 ≤ offsetRmLatestHash + index :=
      Nat.le_add_right offsetRmLatestHash index
    exact ⟨index, inside, (fields.bytes.write_outside (Or.inr behind)).trans zero⟩

/-- `strcpy` to one of the two texts.  What would be written behind the fields is
a fault. -/
def strcpy (offset : Nat) (text : CString) : Option RepoFields :=
  if inside : offsetRmLatestHash ≤ offset ∧ offset + (text.length + 1) ≤ endRmFields then
    some
      { bytes := fields.bytes.strcpy offset text
        terminated := by
          have place : offsetRmLatestHash + (offset - offsetRmLatestHash + text.length) =
              offset + text.length := by
            rw [← Nat.add_assoc, Nat.add_sub_cancel' inside.1]
          refine ⟨offset - offsetRmLatestHash + text.length, ?_, ?_⟩
          · have last : endRmFields = offsetRmLatestHash + (maxHashLength + maxKeyLength) := rfl
            omega
          · rw [place]
            exact fields.bytes.strcpy_terminator offset text }
  else none

variable {offset : Nat} {text : CString}

theorem strcpy_eq (first : offsetRmLatestHash ≤ offset)
    (inside : offset + (text.length + 1) ≤ endRmFields) :
    ∃ written, fields.strcpy offset text = some written ∧
      written.bytes = fields.bytes.strcpy offset text := by
  unfold strcpy
  rw [dif_pos ⟨first, inside⟩]
  exact ⟨_, rfl, rfl⟩

variable {fields}

/-- What `strcpy` reads of the hash ends inside the fields. -/
theorem length_latestText : fields.latestText.length < maxHashLength + maxKeyLength := by
  rcases fields.terminated with ⟨index, inside, zero⟩
  exact Region.length_readString_lt inside zero

variable (fields)

/-- `init_repo` up to the genesis block. -/
def fill (adminKey : CString) : Option RepoFields := do
  let fields ← (fields.setBlockHeight 0).strcpy offsetRmLatestHash zeroHash
  fields.strcpy offsetRmFounderKey adminKey

/-- The end of `access_control` and of `commit`. -/
def advance (found : CString) : Option RepoFields := do
  let fields ← fields.strcpy offsetRmLatestHash found
  return fields.setBlockHeight (fields.blockHeight + 1)

theorem fill_eq {adminKey : CString} (short : adminKey.length < maxKeyLength) :
    ∃ filled, fields.fill adminKey = some filled ∧ filled.blockHeight = 0 ∧
      filled.latestHash = zeroHash := by
  have hashInside : offsetRmLatestHash + (zeroHash.length + 1) ≤ endRmFields := by decide
  have keyInside : offsetRmFounderKey + (adminKey.length + 1) ≤ endRmFields :=
    Nat.add_le_add_left short offsetRmFounderKey
  have behind : offsetRmLatestHash ≤ offsetRmFounderKey :=
    Nat.le_add_right offsetRmLatestHash maxHashLength
  rcases (fields.setBlockHeight 0).strcpy_eq (Nat.le_refl _) hashInside with
    ⟨withHash, hashStored, hashBytes⟩
  rcases withHash.strcpy_eq behind keyInside with ⟨filled, keyStored, keyBytes⟩
  have bytes : filled.bytes = fillMetadata fields.bytes adminKey := by
    rw [keyBytes, hashBytes]
    rfl
  refine ⟨filled, ?_, ?_, ?_⟩
  · simp only [fill, hashStored, keyStored, Option.bind_eq_bind, Option.bind_some]
  · rw [blockHeight, bytes, heightIn_fillMetadata]
  · rw [latestHash, bytes, hashIn_fillMetadata]

theorem strcpy_genesisHash {genesisHash : CString} (length : genesisHash.length = maxHashLength) :
    ∃ sealed, fields.strcpy offsetRmLatestHash genesisHash = some sealed ∧
      sealed.blockHeight = fields.blockHeight ∧ sealed.latestHash = genesisHash := by
  have inside : offsetRmLatestHash + (genesisHash.length + 1) ≤ endRmFields := by
    rw [length]
    decide
  rcases fields.strcpy_eq (Nat.le_refl _) inside with ⟨sealed, stored, bytes⟩
  refine ⟨sealed, stored, ?_, ?_⟩
  · rw [blockHeight, bytes]
    exact heightIn_storeGenesisHash fields.bytes genesisHash
  · rw [latestHash, bytes, (metadataReads_strcpy _ _).hashIn_eq]
    exact CString.take_eq_self (Nat.le_of_eq length)

end RepoFields

end Ta
end TrustChain

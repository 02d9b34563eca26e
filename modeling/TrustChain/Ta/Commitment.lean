import Mathlib.Data.Set.Function
import TrustChain.Ta.Serialization

namespace TrustChain
namespace Ta

open Library Tee

/-!
# The latest hash commits to the history

No digest separates all strings that a block can be serialized to, since there
are more of them than digests.  What is assumed is that the digest separates
the strings which occur in the two chains at hand, and that none of these has
the digest whose text `init_repo` starts from.
-/

/-- The strings that were hashed for a repository. -/
def serializedStrings (repId : Nat) (log : List TaEvent) : Set (List UInt8) :=
  {data | ∃ block ∈ blocksOf repId log, block.dataBuffer.bytes = data}

/-- SHA-256 is injective on these strings and yields 32 zero bytes for none. -/
structure CommittingDigest (sha256 : List UInt8 → Bytes 32) (strings : Set (List UInt8)) :
    Prop where
  injective : Set.InjOn sha256 strings
  nonzero : ∀ data ∈ strings, sha256 data ≠ List.Vector.replicate 32 0

theorem CommittingDigest.mono {sha256 : List UInt8 → Bytes 32} {strings fewer : Set (List UInt8)}
    (digest : CommittingDigest sha256 strings) (subset : fewer ⊆ strings) :
    CommittingDigest sha256 fewer where
  injective := digest.injective.mono subset
  nonzero := fun data member => digest.nonzero data (subset member)

/-- A list without two equal digests. -/
theorem CommittingDigest.of_list {sha256 : List UInt8 → Bytes 32} {strings : Set (List UInt8)}
    {list : List (List UInt8)} (distinct : (list.map sha256).Nodup)
    (nonzero : ∀ data ∈ list, sha256 data ≠ List.Vector.replicate 32 0)
    (listed : ∀ data ∈ strings, data ∈ list) : CommittingDigest sha256 strings where
  injective := fun one inOne other inOther same =>
    List.inj_on_of_nodup_map distinct (listed one inOne) (listed other inOther) same
  nonzero := fun data member => nonzero data (listed data member)

theorem zeroHash_eq : zeroHash = bytesToHexString (List.Vector.replicate 32 (0 : UInt8)).toList := by
  decide

theorem sha256_eq_of_hashText_eq {primitives : Primitives} {first second : List UInt8}
    (same : hashText primitives first = hashText primitives second) :
    primitives.sha256 first = primitives.sha256 second :=
  List.Vector.toList_injective (bytesToHexString_injective same)

/-- A hash of the chain is a text of 32 bytes, and so is the reserved one. -/
theorem hashText_ne_zeroHash {primitives : Primitives} {data : List UInt8}
    (nonzero : primitives.sha256 data ≠ List.Vector.replicate 32 0) :
    hashText primitives data ≠ zeroHash := by
  intro same
  rw [zeroHash_eq] at same
  exact nonzero (List.Vector.toList_injective (bytesToHexString_injective same))

/-- Every block of a chain quotes 64 characters. -/
theorem length_parentHash {primitives : Primitives} {blocks : List Block}
    (linked : (blockFormat primitives).Linked blocks) {block : Block} (member : block ∈ blocks) :
    block.base.parentHash.length = 64 := by
  rcases linked.parent_cases member with isGenesis | ⟨older, quotes⟩
  · exact (congrArg CString.length isGenesis).trans length_zeroHash
  · exact (congrArg CString.length quotes).trans (length_hashText primitives _)

/-- A digest that commits to the strings of two chains separates their blocks. -/
theorem CommittingDigest.separates {primitives : Primitives} {strings : Set (List UInt8)}
    (digest : CommittingDigest primitives.sha256 strings) {left right : List Block}
    (leftStrings : ∀ block ∈ left, block.dataBuffer.bytes ∈ strings)
    (rightStrings : ∀ block ∈ right, block.dataBuffer.bytes ∈ strings)
    (leftLinked : (blockFormat primitives).Linked left)
    (rightLinked : (blockFormat primitives).Linked right) :
    (blockFormat primitives).Separates left right where
  parent_of_text := fun first inLeft second inRight same =>
    (Block.heading_of_dataBuffer (length_parentHash leftLinked inLeft)
      (length_parentHash rightLinked inRight) same).2.1
  digest_inj := fun first inLeft second inRight same => by
    apply CString.ext
    exact digest.injective (leftStrings first inLeft) (rightStrings second inRight)
      (sha256_eq_of_hashText_eq same)
  left_ne_genesis := fun block member =>
    hashText_ne_zeroHash (digest.nonzero _ (leftStrings block member))
  right_ne_genesis := fun block member =>
    hashText_ne_zeroHash (digest.nonzero _ (rightStrings block member))

/-- No hash names two of the blocks, and no two of them quote the same hash. -/
def DistinctHashes (primitives : Primitives) (blocks : List Block) : Prop :=
  (blocks.map (Block.hash primitives)).Nodup ∧ (blocks.map fun block => block.base.parentHash).Nodup

section Runs

variable (primitives : Primitives) (store : KeyStore)

theorem run_chainOf {calls : List Call} {repId : Nat} {repo : RepoMetadata}
    (found : ((trustedApplication primitives store).run calls).slot repId = some repo) :
    ChainOf primitives repId ((trustedApplication primitives store).log calls) repo := by
  have chain := run_slotChain primitives store calls repId
  rw [found] at chain
  exact chain

/-- Within one chain, hashes and parents are all different. -/
theorem distinctHashes_of_run {calls : List Call} {repId : Nat} {repo : RepoMetadata}
    (found : ((trustedApplication primitives store).run calls).slot repId = some repo)
    {strings : Set (List UInt8)} (digest : CommittingDigest primitives.sha256 strings)
    (included : serializedStrings repId ((trustedApplication primitives store).log calls) ⊆ strings) :
    DistinctHashes primitives (blocksOf repId ((trustedApplication primitives store).log calls)) := by
  have chain := run_chainOf primitives store found
  have inside : ∀ block ∈ (blocksOf repId ((trustedApplication primitives store).log calls)).reverse,
      block.dataBuffer.bytes ∈ strings :=
    fun block member => included ⟨block, List.mem_reverse.mp member, rfl⟩
  have separates := digest.separates inside inside chain.linked chain.linked
  have names := ChainFormat.names_nodup separates chain.linked
  have parents := ChainFormat.parents_nodup separates chain.linked
  rw [List.map_reverse, List.nodup_reverse] at names parents
  exact ⟨names, parents⟩

end Runs

/-- Two repositories, of two runs or of one, that show the same latest hash
have gone through the same serialized blocks, from the first to the last. -/
theorem latest_hash_commits_to_history (primitives : Primitives)
    (firstStore secondStore : KeyStore) (firstCalls secondCalls : List Call)
    (firstId secondId : Nat) (firstRepo secondRepo : RepoMetadata)
    (digest : CommittingDigest primitives.sha256
      (serializedStrings firstId ((trustedApplication primitives firstStore).log firstCalls) ∪
        serializedStrings secondId ((trustedApplication primitives secondStore).log secondCalls)))
    (firstFound : ((trustedApplication primitives firstStore).run firstCalls).slot firstId =
      some firstRepo)
    (secondFound : ((trustedApplication primitives secondStore).run secondCalls).slot secondId =
      some secondRepo)
    (same : firstRepo.latestHash = secondRepo.latestHash) :
    (blocksOf firstId ((trustedApplication primitives firstStore).log firstCalls)).map
        Block.dataBuffer =
      (blocksOf secondId ((trustedApplication primitives secondStore).log secondCalls)).map
        Block.dataBuffer ∧
    DistinctHashes primitives
      (blocksOf firstId ((trustedApplication primitives firstStore).log firstCalls)) ∧
    DistinctHashes primitives
      (blocksOf secondId ((trustedApplication primitives secondStore).log secondCalls)) := by
  have first := run_chainOf primitives firstStore firstFound
  have second := run_chainOf primitives secondStore secondFound
  refine ⟨?_, distinctHashes_of_run primitives firstStore firstFound digest
    Set.subset_union_left, distinctHashes_of_run primitives secondStore secondFound digest
    Set.subset_union_right⟩
  have separates := digest.separates
    (fun block member => Or.inl ⟨block, List.mem_reverse.mp member, rfl⟩)
    (fun block member => Or.inr ⟨block, List.mem_reverse.mp member, rfl⟩)
    first.linked second.linked
  have heads := first.head.symm.trans (same.trans second.head)
  have texts := ChainFormat.texts_eq_of_head_eq separates first.linked second.linked heads
  rw [List.map_reverse, List.map_reverse] at texts
  exact List.reverse_injective texts

/-- The block of an addition of the newcomer behind the genesis block of the founder. -/
def Sample.additionText : CString :=
  .literal "1:42cb67ff537f4c7947c10e8c37b5ead384a140dfdebf69802e0b1f247f5e6334:0:a::1:0:2:b"

/-- SHA-256 on the texts of two genesis blocks and of the addition. -/
def Sample.sha256 (data : List UInt8) : Bytes 32 :=
  if data = (accessDataBuffer (genesisBlock zeroHash founder ⟨0, 0⟩)).bytes then
    ⟨[66, 203, 103, 255, 83, 127, 76, 121, 71, 193, 14, 140, 55, 181, 234, 211, 132, 161, 64, 223,
      222, 191, 105, 128, 46, 11, 31, 36, 127, 94, 99, 52], by decide⟩
  else if data = (accessDataBuffer (genesisBlock zeroHash newcomer ⟨7, 0⟩)).bytes then
    ⟨[199, 2, 233, 146, 40, 143, 64, 33, 228, 94, 60, 175, 142, 18, 53, 68, 164, 43, 149, 12, 42,
      239, 199, 250, 80, 247, 137, 194, 175, 242, 215, 237], by decide⟩
  else if data = additionText.bytes then
    ⟨[112, 23, 42, 227, 6, 190, 170, 146, 63, 240, 185, 252, 209, 22, 230, 240, 6, 89, 121, 106,
      222, 140, 198, 191, 120, 24, 48, 92, 152, 4, 58, 107], by decide⟩
  else List.Vector.replicate 32 1

/-- The founder makes the newcomer a writer of this repository. -/
def Sample.additionTo (repId : UInt32) : Call :=
  .requestAccess (outcomes 1) { access opAdd roleWriter newcomer with repId := repId }

/-- The founder alone, and the founder after somebody else. -/
def Sample.alone : List Call := [.requestInit (outcomes 0) founder, additionTo 0]

def Sample.afterNewcomer : List Call :=
  [.requestInit (outcomes 7) newcomer, .requestInit (outcomes 0) founder, additionTo 1]

def Sample.committing (calls : List Call) : List TaEvent :=
  (trustedApplication (.accepting Sample.sha256) none).log calls

/-- What is hashed for the founder's repository. -/
def Sample.historyTexts : List (List UInt8) :=
  [(accessDataBuffer (genesisBlock zeroHash founder ⟨0, 0⟩)).bytes, additionText.bytes]

/-- The digest commits to these two texts. -/
theorem Sample.digest_of_history {strings : Set (List UInt8)}
    (listed : ∀ data ∈ strings, data ∈ historyTexts) : CommittingDigest Sample.sha256 strings :=
  .of_list (by decide +kernel) (by decide +kernel) listed

theorem mem_of_mem_serializedStrings {repId : Nat} {log : List TaEvent} {texts : List (List UInt8)}
    (blocks : (blocksOf repId log).map (fun block => block.dataBuffer.bytes) = texts)
    {data : List UInt8} (member : data ∈ serializedStrings repId log) : data ∈ texts := by
  rcases member with ⟨block, inside, rfl⟩
  rw [← blocks]
  exact List.mem_map.mpr ⟨block, inside, rfl⟩

/-- The founder's repository, the first of one run and the second of another. -/
theorem same_founder_same_history :
    (blocksOf 0 (Sample.committing Sample.alone)).length = 2 ∧
    (blocksOf 0 (Sample.committing Sample.alone)).map Block.dataBuffer =
      (blocksOf 1 (Sample.committing Sample.afterNewcomer)).map Block.dataBuffer := by
  have first : (blocksOf 0 (Sample.committing Sample.alone)).map
      (fun block => block.dataBuffer.bytes) = Sample.historyTexts := by decide +kernel
  have second : (blocksOf 1 (Sample.committing Sample.afterNewcomer)).map
      (fun block => block.dataBuffer.bytes) = Sample.historyTexts := by decide +kernel
  have heads :
      (((trustedApplication (.accepting Sample.sha256) none).run Sample.alone).slot 0).map
          RepoMetadata.latestHash =
        some (hashText (.accepting Sample.sha256) Sample.additionText.bytes) ∧
      (((trustedApplication (.accepting Sample.sha256) none).run Sample.afterNewcomer).slot 1).map
          RepoMetadata.latestHash =
        some (hashText (.accepting Sample.sha256) Sample.additionText.bytes) := by
    decide +kernel
  rcases Option.map_eq_some_iff.mp heads.1 with ⟨firstRepo, firstFound, firstHash⟩
  rcases Option.map_eq_some_iff.mp heads.2 with ⟨secondRepo, secondFound, secondHash⟩
  have digest : CommittingDigest Sample.sha256
      (serializedStrings 0 (Sample.committing Sample.alone) ∪
        serializedStrings 1 (Sample.committing Sample.afterNewcomer)) :=
    Sample.digest_of_history fun data member => Or.elim member
      (mem_of_mem_serializedStrings first) (mem_of_mem_serializedStrings second)
  have length := congrArg List.length first
  rw [List.length_map] at length
  exact ⟨length, (latest_hash_commits_to_history (.accepting Sample.sha256) none none Sample.alone
    Sample.afterNewcomer 0 1 firstRepo secondRepo digest firstFound secondFound
    (firstHash.trans secondHash.symm)).1⟩

end Ta
end TrustChain

import TrustChain.Ta.Commitment
import TrustChain.Ta.Table

namespace TrustChain
namespace Ta

open Library Tee

/-!
# Blocks of different repositories

The text of a block does not say which repository it is for.  Two repositories
that are created for one key within one reading of the clock have the same
genesis text, and whatever is then done to both of them in the same way keeps
them alike.  But this is the only way in which they can share a block: its
parents tie each block to everything that came before it, down to the key and
the time of the creation.
-/

/-- No block of one repository is written out like a block of another. -/
def BlocksBelong (log : List TaEvent) : Prop :=
  ∀ first second, first ≠ second → ∀ one ∈ blocksOf first log, ∀ other ∈ blocksOf second log,
    one.dataBuffer ≠ other.dataBuffer

/-- Two readings of a clock that does not go backwards. -/
def NotAfter (earlier later : TeeTime) : Prop :=
  earlier.seconds < later.seconds ∨
    (earlier.seconds = later.seconds ∧ earlier.millis ≤ later.millis)

/-- The times that the commands of a run read are in order. -/
def ClockNeverBack (calls : List Call) : Prop :=
  calls.Pairwise fun earlier later => NotAfter earlier.outcomes.time later.outcomes.time

/-- An `init_repo` of the run created the repository for this key, at this time. -/
def CreatedAt (log : List TaEvent) (repId : Nat) (founder : CString) (time : TeeTime) : Prop :=
  ∃ event ∈ log, createdId event = some repId ∧ event.input.params.adminKey = founder ∧
    event.input.outcomes.time = time

/-! ## Genesis blocks -/

/-- The part of a genesis text from the key on. -/
private def genesisTail (founder : CString) (time : TeeTime) : List CString :=
  [founder.take 256, .empty, decimal time.seconds.toNat, decimal time.millis.toNat,
    decimal roleAdmin.toNat, founder.take 256]

private theorem genesisTail_eq_of_dataBuffer {founder other : CString} {time otherTime : TeeTime}
    (same : accessDataBuffer (genesisBlock zeroHash founder time) =
      accessDataBuffer (genesisBlock zeroHash other otherTime)) :
    joinColon (genesisTail founder time) = joinColon (genesisTail other otherTime) := by
  have texts : (Block.access (genesisBlock zeroHash founder time)).dataBuffer =
      (Block.access (genesisBlock zeroHash other otherTime)).dataBuffer := same
  have parent : ∀ founder time,
      (Block.access (genesisBlock zeroHash founder time)).base.parentHash.length = 64 :=
    fun _ _ => length_zeroHash
  exact (Block.heading_of_dataBuffer (parent founder time) (parent other otherTime) texts).2.2.2

/-- The key is printed twice, with the times in between. -/
private theorem bytes_genesisTail (founder : CString) (time : TeeTime) :
    (joinColon (genesisTail founder time)).bytes =
      (founder.take 256).bytes ++ 58 :: 58 :: (((decimal time.seconds.toNat).bytes ++ 58 ::
        ((decimal time.millis.toNat).bytes ++ 58 :: ((decimal roleAdmin.toNat).bytes ++ [58]))) ++
          (founder.take 256).bytes) := by
  simp [genesisTail, joinColon]

private theorem times_never_doubled (time : TeeTime) :
    NeverDoubled 58 (58 :: ((decimal time.seconds.toNat).bytes ++ 58 ::
      ((decimal time.millis.toNat).bytes ++ 58 :: ((decimal roleAdmin.toNat).bytes ++ [58])))) := by
  apply NeverDoubled.field (decimal_ne_nil _) (decimal_colonFree _)
  apply NeverDoubled.field (decimal_ne_nil _) (decimal_colonFree _)
  apply NeverDoubled.field (decimal_ne_nil _) (decimal_colonFree _)
  exact List.isChain_singleton 58

/-- A genesis text gives back the printed part of the key and the time, even if
the key contains separators. -/
theorem genesis_dataBuffer_eq_iff {founder other : CString} {time otherTime : TeeTime} :
    accessDataBuffer (genesisBlock zeroHash founder time) =
        accessDataBuffer (genesisBlock zeroHash other otherTime) ↔
      founder.take 256 = other.take 256 ∧ time = otherTime := by
  constructor
  · intro same
    have tails := genesisTail_eq_of_dataBuffer same
    have bytes := congrArg CString.bytes tails
    rw [bytes_genesisTail, bytes_genesisTail] at bytes
    have founders : founder.take 256 = other.take 256 := CString.ext
      (frame_eq_of_framed (times_never_doubled time) (times_never_doubled otherTime) bytes)
    rcases joinColon_inj_of_length (congrArg CString.length founders) tails with ⟨_, afterKey⟩
    rcases joinColon_inj_of_length rfl afterKey with ⟨_, afterSignature⟩
    rcases joinColon_inj_of_free (decimal_colonFree _) (decimal_colonFree _) afterSignature with
      ⟨seconds, afterSeconds⟩
    rcases joinColon_inj_of_free (decimal_colonFree _) (decimal_colonFree _) afterSeconds with
      ⟨millis, _⟩
    refine ⟨founders, ?_⟩
    calc
      time = ⟨time.seconds, time.millis⟩ := rfl
      _ = ⟨otherTime.seconds, otherTime.millis⟩ := by
          rw [decimal_uint32_injective seconds, decimal_uint32_injective millis]
      _ = otherTime := rfl
  · rintro ⟨founders, rfl⟩
    simp only [accessDataBuffer, genesisBlock, initAccessBlock, initBaseBlock, baseFields, founders]

/-- The first block of a repository is the genesis block of its creation. -/
theorem SlotStep.first_block {primitives : Primitives} {state after : TaState} {call : Call}
    {repId : Nat} {answer : TeeResult Output} {slot : Option RepoMetadata} {log : List TaEvent}
    {block : Block} (step : SlotStep primitives state call repId answer slot)
    (chain : SlotChain primitives repId log (state.slot repId)) (first : blocksOf repId log = [])
    (inReply : blockFor repId call answer = some block) :
    createdId ⟨state, call, answer, after⟩ = some repId ∧
      block.dataBuffer =
        accessDataBuffer (genesisBlock zeroHash call.params.adminKey call.outcomes.time) := by
  have notFirst : ∀ repo, state.slot repId ≠ some repo := by
    intro repo found
    rw [found] at chain
    have length := ChainOf.length chain
    rw [first] at length
    exact Nat.succ_ne_zero _ length.symm
  rcases step.block_cases inReply with
    ⟨teeSig, store, isCommand, here, _, _, rfl, _, rfl⟩ |
    ⟨repo, edited, teeSig, store, rfl, accepted, _⟩ | ⟨repo, teeSig, store, rfl, accepted, _⟩
  · exact ⟨(createdId_genesis isCommand _ _).trans (congrArg some here.symm), rfl⟩
  · exact absurd accepted.slot (notFirst repo)
  · exact absurd accepted.slot (notFirst repo)

section Runs

variable (primitives : Primitives) (store : KeyStore)

/-- Whether the repository exists or not, its blocks are linked. -/
theorem run_linked (calls : List Call) (repId : Nat) :
    (blockFormat primitives).Linked
      (blocksOf repId ((trustedApplication primitives store).log calls)).reverse := by
  have chain := run_slotChain primitives store calls repId
  cases slot : ((trustedApplication primitives store).run calls).slot repId with
  | none =>
      rw [slot] at chain
      rw [chain.1]
      trivial
  | some repo =>
      rw [slot] at chain
      exact ChainOf.linked chain

theorem run_first_block {calls : List Call} {repId : Nat} {first : Block} {rest : List Block}
    (blocks : blocksOf repId ((trustedApplication primitives store).log calls) = first :: rest) :
    ∃ founder time, CreatedAt ((trustedApplication primitives store).log calls) repId founder time ∧
      first.dataBuffer = accessDataBuffer (genesisBlock zeroHash founder time) := by
  induction calls using List.reverseRecOn generalizing rest with
  | nil => cases blocks
  | append_singleton calls call ih =>
      rw [(trustedApplication primitives store).log_snoc] at blocks ⊢
      unfold Machine.event at blocks ⊢
      have step := run_slotStep primitives store calls call repId
      have chain := run_slotChain primitives store calls repId
      have older : ∀ (event : TaEvent) others,
          blocksOf repId ((trustedApplication primitives store).log calls) = first :: others →
          ∃ founder time, CreatedAt ((trustedApplication primitives store).log calls ++ [event])
              repId founder time ∧
            first.dataBuffer = accessDataBuffer (genesisBlock zeroHash founder time) := by
        intro event others already
        rcases ih already with ⟨founder, time, ⟨creation, member, isCreation⟩, text⟩
        exact ⟨founder, time, ⟨creation, List.mem_append_left _ member, isCreation⟩, text⟩
      cases built : blockFor repId call ((trustedApplication primitives store).answer
          ((trustedApplication primitives store).run calls) call) with
      | none =>
          rw [blocksOf_snoc_none built] at blocks
          exact older _ rest blocks
      | some block =>
          rw [blocksOf_snoc_some built] at blocks
          cases before : blocksOf repId ((trustedApplication primitives store).log calls) with
          | cons genesis others =>
              rw [before] at blocks
              have same : genesis = first := (List.cons.inj blocks).1
              exact older _ others (by rw [before, same])
          | nil =>
              rw [before] at blocks
              have same : block = first := (List.cons.inj blocks).1
              rcases step.first_block chain before built with ⟨isCreation, text⟩
              exact ⟨_, _, ⟨_, List.mem_append_right _ List.mem_cons_self, isCreation, rfl, rfl⟩,
                same ▸ text⟩

/-- Two blocks of two repositories are written out alike only if everything in
front of them is, down to the key and the time that the repositories were
created with. -/
theorem shared_block_means_shared_history (calls : List Call) (firstId secondId : Nat)
    (digest : CommittingDigest primitives.sha256
      (serializedStrings firstId ((trustedApplication primitives store).log calls) ∪
        serializedStrings secondId ((trustedApplication primitives store).log calls)))
    (firstEarlier firstLater secondEarlier secondLater : List Block) (one other : Block)
    (firstBlocks : blocksOf firstId ((trustedApplication primitives store).log calls) =
      firstEarlier ++ one :: firstLater)
    (secondBlocks : blocksOf secondId ((trustedApplication primitives store).log calls) =
      secondEarlier ++ other :: secondLater)
    (same : one.dataBuffer = other.dataBuffer) :
    firstEarlier.map Block.dataBuffer = secondEarlier.map Block.dataBuffer ∧
    ∃ firstFounder secondFounder time,
      CreatedAt ((trustedApplication primitives store).log calls) firstId firstFounder time ∧
      CreatedAt ((trustedApplication primitives store).log calls) secondId secondFounder time ∧
      firstFounder.take 256 = secondFounder.take 256 := by
  have firstLinked := run_linked primitives store calls firstId
  have secondLinked := run_linked primitives store calls secondId
  have separates := digest.separates
    (fun block member => Or.inl ⟨block, List.mem_reverse.mp member, rfl⟩)
    (fun block member => Or.inr ⟨block, List.mem_reverse.mp member, rfl⟩)
    firstLinked secondLinked
  have split : ∀ (earlier later : List Block) (block : Block),
      (earlier ++ block :: later).reverse = later.reverse ++ block :: earlier.reverse := by
    intro earlier later block
    rw [List.reverse_append, List.reverse_cons, List.append_assoc, List.singleton_append]
  rw [firstBlocks, split] at firstLinked
  rw [secondBlocks, split] at secondLinked
  rw [firstBlocks, secondBlocks, split, split] at separates
  have older := ChainFormat.older_texts_eq_of_text_eq
    (separates.mono (List.subset_append_right _ _) (List.subset_append_right _ _))
    firstLinked.of_append secondLinked.of_append same
  rw [List.map_reverse, List.map_reverse] at older
  have histories : firstEarlier.map Block.dataBuffer = secondEarlier.map Block.dataBuffer :=
    List.reverse_injective older
  refine ⟨histories, ?_⟩
  have texts : (firstEarlier ++ [one]).map Block.dataBuffer =
      (secondEarlier ++ [other]).map Block.dataBuffer := by
    rw [List.map_append, List.map_append, histories, List.map_singleton, List.map_singleton, same]
  rcases List.exists_cons_of_ne_nil (List.append_ne_nil_of_right_ne_nil firstEarlier
    (List.cons_ne_nil one [])) with ⟨first, firstRest, firstIs⟩
  rcases List.exists_cons_of_ne_nil (List.append_ne_nil_of_right_ne_nil secondEarlier
    (List.cons_ne_nil other [])) with ⟨second, secondRest, secondIs⟩
  rw [firstIs, secondIs, List.map_cons, List.map_cons, List.cons.injEq] at texts
  rw [List.append_cons, firstIs, List.cons_append] at firstBlocks
  rw [List.append_cons, secondIs, List.cons_append] at secondBlocks
  rcases run_first_block primitives store firstBlocks with ⟨firstFounder, time, firstAt, firstText⟩
  rcases run_first_block primitives store secondBlocks with
    ⟨secondFounder, secondTime, secondAt, secondText⟩
  rcases genesis_dataBuffer_eq_iff.mp (firstText.symm.trans (texts.1.trans secondText)) with
    ⟨founders, rfl⟩
  exact ⟨firstFounder, secondFounder, time, firstAt, secondAt, founders⟩

end Runs

/-! ## Two repositories of one key and one moment -/

/-- The founder creates two repositories before the clock moves on. -/
def Sample.twins : List Call := [creation, creation]

theorem twins_share_block :
    ClockNeverBack Sample.twins ∧ ¬ BlocksBelong (Sample.application.log Sample.twins) := by
  constructor
  · exact List.pairwise_pair.mpr (Or.inr ⟨rfl, UInt32.le_refl _⟩)
  · intro belong
    have texts : ∀ repId, repId = 0 ∨ repId = 1 →
        (blocksOf repId (Sample.application.log Sample.twins)).map Block.dataBuffer =
          [accessDataBuffer (genesisBlock zeroHash Sample.founder ⟨0, 0⟩)] := by
      rintro repId (rfl | rfl) <;> decide +kernel
    rcases List.map_eq_singleton_iff.mp (texts 0 (Or.inl rfl)) with ⟨one, first, oneText⟩
    rcases List.map_eq_singleton_iff.mp (texts 1 (Or.inr rfl)) with ⟨other, second, otherText⟩
    exact belong 0 1 Nat.zero_ne_one one (first ▸ List.mem_singleton_self one) other
      (second ▸ List.mem_singleton_self other) (oneText.trans otherText.symm)

/-- Each of the two is given the same writer. -/
def Sample.grownTwins : List Call :=
  [.requestInit (outcomes 0) founder, .requestInit (outcomes 0) founder, additionTo 0, additionTo 1]

/-- The second block, which they share as well, goes back to one history, one
founder and one time. -/
theorem twins_share_creation :
    ∃ genesis other addition otherAddition,
      blocksOf 0 (Sample.committing Sample.grownTwins) = [genesis, addition] ∧
      blocksOf 1 (Sample.committing Sample.grownTwins) = [other, otherAddition] ∧
      genesis.dataBuffer = other.dataBuffer ∧
      ∃ firstFounder secondFounder time,
        CreatedAt (Sample.committing Sample.grownTwins) 0 firstFounder time ∧
        CreatedAt (Sample.committing Sample.grownTwins) 1 secondFounder time ∧
        firstFounder.take 256 = secondFounder.take 256 := by
  have first : (blocksOf 0 (Sample.committing Sample.grownTwins)).map
      (fun block => block.dataBuffer.bytes) = Sample.historyTexts := by decide +kernel
  have second : (blocksOf 1 (Sample.committing Sample.grownTwins)).map
      (fun block => block.dataBuffer.bytes) = Sample.historyTexts := by decide +kernel
  have digest : CommittingDigest Sample.sha256
      (serializedStrings 0 (Sample.committing Sample.grownTwins) ∪
        serializedStrings 1 (Sample.committing Sample.grownTwins)) :=
    Sample.digest_of_history fun data member => Or.elim member
      (mem_of_mem_serializedStrings first) (mem_of_mem_serializedStrings second)
  rcases List.map_eq_cons_iff.mp first with ⟨genesis, rest, firstBlocks, _, restText⟩
  rcases List.map_eq_singleton_iff.mp restText with ⟨addition, rfl, additionText⟩
  rcases List.map_eq_cons_iff.mp second with ⟨other, otherRest, secondBlocks, _, otherRestText⟩
  rcases List.map_eq_singleton_iff.mp otherRestText with ⟨otherAddition, rfl, otherText⟩
  have shared := shared_block_means_shared_history (.accepting Sample.sha256) none
    Sample.grownTwins 0 1 digest [genesis] [] [other] [] addition otherAddition firstBlocks
    secondBlocks (CString.ext (additionText.trans otherText.symm))
  exact ⟨genesis, other, addition, otherAddition, firstBlocks, secondBlocks,
    List.singleton_inj.mp shared.1, shared.2⟩

end Ta
end TrustChain

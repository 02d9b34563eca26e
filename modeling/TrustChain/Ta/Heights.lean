import TrustChain.Ta.Answers
import TrustChain.Ta.History

namespace TrustChain
namespace Ta

open Library Tee

/-!
# The heights in a chain

`init_repo` writes 1 into the genesis block and 0 into the table, and the other
handlers write one more than the table says.  The first update therefore gets
the height of the genesis block again.  After that the heights go up by one,
modulo 2^32.
-/

/-- The height that is written into a block with this many blocks before it. -/
def heightAt (position : Nat) : UInt32 := UInt32.ofNat (max position 1)

theorem heightAt_succ (position : Nat) :
    heightAt (position + 1) = UInt32.ofNat position + 1 := by
  rw [heightAt, Nat.max_eq_left (Nat.le_add_left 1 position), UInt32.ofNat_add]
  rfl

theorem toNat_heightAt {position : Nat} (small : position < 2 ^ 32) :
    (heightAt position).toNat = max position 1 := by
  rw [heightAt, UInt32.toNat_ofNat']
  exact Nat.mod_eq_of_lt (by omega)

/-- The block that a command hands out has the height of its position. -/
theorem SlotStep.height {primitives : Primitives} {state : TaState} {call : Call} {repId : Nat}
    {answer : TeeResult Output} {slot : Option RepoMetadata} {log : List TaEvent} {block : Block}
    (step : SlotStep primitives state call repId answer slot) (table : TableInvariant state)
    (chain : SlotChain primitives repId log (state.slot repId))
    (inReply : blockFor repId call answer = some block) :
    block.base.blockHeight = heightAt (blocksOf repId log).length := by
  rcases step.block_cases inReply with
    ⟨teeSig, store, _, _, free, _, _, _, rfl⟩ |
    ⟨repo, edited, teeSig, store, rfl, accepted, updated, _, _, rfl⟩ |
    ⟨repo, teeSig, store, rfl, accepted, _, _, rfl⟩
  · rw [free] at chain
    rw [show blocksOf repId log = [] from chain.1]
    rfl
  · rcases table.keyUpdate accepted updated with ⟨_, _, _, update⟩
    rw [accepted.slot] at chain
    change edited.blockHeight + 1 = _
    rw [update.head.1, ChainOf.height chain, ChainOf.length chain, heightAt_succ]
  · rw [accepted.slot] at chain
    change repo.blockHeight + 1 = _
    rw [ChainOf.height chain, ChainOf.length chain, heightAt_succ]

/-- Successive heights differ by one, and no height occurs twice. -/
structure NumbersChain (blocks : List Block) : Prop where
  successive : ∀ earlier older newer later, blocks = earlier ++ older :: newer :: later →
    newer.base.blockHeight.toNat = older.base.blockHeight.toNat + 1
  distinct : (blocks.map fun block => block.base.blockHeight).Nodup

/-- Which commands are updates can be told in advance. -/
theorem isUpdateFor_answer_iff (primitives : Primitives) (state : TaState) (call : Call)
    (repId : Nat) :
    isUpdateFor repId call (taInvokeCommandEntryPoint primitives state call).1 = true ↔
      call.Appends primitives state repId := by
  have split : ∀ answer, isUpdateFor repId call answer = true ↔ (∃ output, answer = .ok output) ∧
      ((call.cmdId = cmdAccessControl ∧ call.accessRepo = repId) ∨
        (call.cmdId = cmdCommit ∧ call.commitRepo = repId)) := by
    intro answer
    cases answer with
    | error code => simp [isUpdateFor]
    | ok output => simp [isUpdateFor]
  rw [split]
  constructor
  · rintro ⟨succeeds, ⟨isAccess, rfl⟩ | ⟨isCommit, rfl⟩⟩
    · exact Or.inl ((accessControl_ok_iff primitives state call isAccess).mp succeeds)
    · exact Or.inr ((commit_ok_iff primitives state call isCommit).mp succeeds)
  · rintro (⟨repo, edited, accepted, rfl, rest⟩ | ⟨repo, accepted, rfl, rest⟩)
    · exact ⟨(accessControl_ok_iff primitives state call accepted.1).mpr
        ⟨repo, edited, accepted, rfl, rest⟩, Or.inl ⟨accepted.1, rfl⟩⟩
    · exact ⟨(commit_ok_iff primitives state call accepted.1).mpr ⟨repo, accepted, rfl, rest⟩,
        Or.inr ⟨accepted.1, rfl⟩⟩

section Runs

variable (primitives : Primitives) (store : KeyStore)

theorem run_heights (calls : List Call) (repId : Nat) :
    (blocksOf repId ((trustedApplication primitives store).log calls)).map
        (fun block => block.base.blockHeight) =
      (List.range (blocksOf repId
        ((trustedApplication primitives store).log calls)).length).map heightAt := by
  induction calls using List.reverseRecOn with
  | nil => rfl
  | append_singleton calls call ih =>
      rw [(trustedApplication primitives store).log_snoc]
      unfold Machine.event
      have step := run_slotStep primitives store calls call repId
      have chain := run_slotChain primitives store calls repId
      cases built : blockFor repId call ((trustedApplication primitives store).answer
          ((trustedApplication primitives store).run calls) call) with
      | none =>
          rw [blocksOf_snoc_none built]
          exact ih
      | some block =>
          have height := step.height (run_tableInvariant primitives store calls) chain built
          rw [blocksOf_snoc_some built, List.length_append, List.length_singleton, List.range_succ,
            List.map_append, List.map_append, ih, List.map_singleton, List.map_singleton, height]

/-- A block has the height of its position in the chain. -/
theorem run_height_of_split {calls : List Call} {repId : Nat} {earlier later : List Block}
    {block : Block} (blocks : blocksOf repId ((trustedApplication primitives store).log calls) =
      earlier ++ block :: later) : block.base.blockHeight = heightAt earlier.length := by
  have heights := run_heights primitives store calls repId
  rw [blocks] at heights
  have here := congrArg (fun list => list[earlier.length]?) heights
  simpa using here

theorem run_updates_eq_zero_iff (calls : List Call) (repId : Nat) :
    updatesOf repId ((trustedApplication primitives store).log calls) = 0 ↔
      (trustedApplication primitives store).EveryStep
        (fun state call => ¬ call.Appends primitives state repId) calls := by
  induction calls using List.reverseRecOn with
  | nil => exact iff_of_true rfl ((trustedApplication primitives store).everyStep_nil)
  | append_singleton calls call ih =>
      rw [(trustedApplication primitives store).everyStep_snoc, ← ih,
        (trustedApplication primitives store).log_snoc, ← isUpdateFor_answer_iff]
      unfold Machine.event
      cases update : isUpdateFor repId call ((trustedApplication primitives store).answer
          ((trustedApplication primitives store).run calls) call) with
      | true =>
          rw [updatesOf_snoc_true update]
          exact iff_of_false (Nat.succ_ne_zero _) fun both => both.2 update
      | false =>
          rw [updatesOf_snoc_false update]
          refine (and_iff_left ?_).symm
          exact fun impossible => absurd (update.symm.trans impossible) Bool.false_ne_true

/-- There is at most the genesis block as long as there is no update. -/
theorem run_blocks_le_one_iff (calls : List Call) (repId : Nat) :
    (blocksOf repId ((trustedApplication primitives store).log calls)).length ≤ 1 ↔
      updatesOf repId ((trustedApplication primitives store).log calls) = 0 := by
  have chain := run_slotChain primitives store calls repId
  cases slot : ((trustedApplication primitives store).run calls).slot repId with
  | none =>
      rw [slot] at chain
      rw [chain.1]
      exact iff_of_true (Nat.zero_le 1) chain.2
  | some repo =>
      rw [slot] at chain
      rw [ChainOf.length chain]
      omega

/-- The heights number the chain of a repository exactly as long as no update
of it goes through.  From the second block on, each is one higher than the one
before; the second has the height of the first. -/
theorem heights_number_chain_iff (calls : List Call) (repId : Nat)
    (few : (blocksOf repId ((trustedApplication primitives store).log calls)).length < 2 ^ 32) :
    (NumbersChain (blocksOf repId ((trustedApplication primitives store).log calls)) ↔
      ∀ earlier call, earlier ++ [call] <+: calls →
        ¬ call.Appends primitives ((trustedApplication primitives store).run earlier) repId) ∧
    ∀ earlier older newer later,
      blocksOf repId ((trustedApplication primitives store).log calls) =
        earlier ++ older :: newer :: later →
      (newer.base.blockHeight.toNat = older.base.blockHeight.toNat + 1 ↔ earlier ≠ []) := by
  have pairs : ∀ earlier older newer later,
      blocksOf repId ((trustedApplication primitives store).log calls) =
        earlier ++ older :: newer :: later →
      (newer.base.blockHeight.toNat = older.base.blockHeight.toNat + 1 ↔ earlier ≠ []) := by
    intro earlier older newer later blocks
    have again : blocksOf repId ((trustedApplication primitives store).log calls) =
        (earlier ++ [older]) ++ newer :: later := by
      rw [blocks, List.append_assoc, List.singleton_append]
    have inside : earlier.length + 1 < 2 ^ 32 := by
      rw [blocks, List.length_append, List.length_cons, List.length_cons] at few
      omega
    rw [run_height_of_split primitives store blocks, run_height_of_split primitives store again,
      List.length_append, List.length_singleton, toNat_heightAt inside,
      toNat_heightAt (by omega), ← List.length_pos_iff]
    omega
  refine ⟨?_, pairs⟩
  refine Iff.trans ?_ ((run_blocks_le_one_iff primitives store calls repId).trans
    (run_updates_eq_zero_iff primitives store calls repId))
  constructor
  · intro numbers
    by_contra long
    cases blocks : blocksOf repId ((trustedApplication primitives store).log calls) with
    | nil =>
        rw [blocks] at long
        exact long (Nat.zero_le 1)
    | cons genesis rest =>
        cases rest with
        | nil =>
            rw [blocks] at long
            exact long (Nat.le_refl 1)
        | cons second later =>
            have next := numbers.successive [] genesis second later blocks
            exact (pairs [] genesis second later blocks).mp next rfl
  · intro short
    constructor
    · intro earlier older newer later blocks
      rw [blocks, List.length_append, List.length_cons, List.length_cons] at short
      omega
    · cases blocks : blocksOf repId ((trustedApplication primitives store).log calls) with
      | nil => exact List.nodup_nil
      | cons genesis rest =>
          rw [blocks, List.length_cons] at short
          rw [List.eq_nil_of_length_eq_zero (by omega : rest.length = 0)]
          exact List.nodup_singleton _

end Runs

/-- A repository with its genesis block only. -/
theorem creation_numbers_chain : NumbersChain (blocksOf 0 (Sample.application.log [Sample.creation])) := by
  have few : (blocksOf 0 (Sample.application.log [Sample.creation])).length < 2 ^ 32 := by
    decide +kernel
  have numbers := (heights_number_chain_iff Sample.primitives (some Sample.keyPair)
    [Sample.creation] 0 few).1
  apply numbers.mpr
  intro earlier call inside
  have first : earlier = [] ∧ call = Sample.creation := by
    rcases List.prefix_concat_iff.mp (show earlier ++ [call] <+: [] ++ [Sample.creation] from inside)
      with whole | none
    · rcases List.append_inj' whole rfl with ⟨nothing, same⟩
      exact ⟨nothing, (List.cons.inj same).1⟩
    · exact absurd (List.prefix_nil.mp none) (by simp)
  rw [first.2]
  rintro (⟨repo, edited, accepted, _⟩ | ⟨repo, accepted, _⟩)
  · exact absurd accepted.1 (by decide)
  · exact absurd accepted.1 (by decide)

/-- The genesis block and the block of the first addition, both at height 1. -/
theorem addition_repeats_height :
    (blocksOf 0 (Sample.application.log [Sample.creation, Sample.addition])).map
      (fun block => block.base.blockHeight) = [1, 1] ∧
    ¬ NumbersChain (blocksOf 0 (Sample.application.log [Sample.creation, Sample.addition])) := by
  have heights : (blocksOf 0 (Sample.application.log [Sample.creation, Sample.addition])).map
      (fun block => block.base.blockHeight) = [1, 1] := by decide +kernel
  refine ⟨heights, fun numbers => ?_⟩
  have distinct := numbers.distinct
  rw [heights] at distinct
  exact absurd distinct (by decide)

end Ta
end TrustChain

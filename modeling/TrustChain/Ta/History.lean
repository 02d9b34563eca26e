import TrustChain.Library.HashChain
import TrustChain.Ta.Invariant

namespace TrustChain
namespace Ta

open Library Tee

/-!
# The blocks of a repository

A repository keeps no blocks: each one is handed to the client and only its
hash stays.  The blocks of a repository are therefore read off the log of a
run, from the replies of the commands that built them, and the chain they form
is an invariant of the run rather than of a state.
-/

/-! ## One repository in one step -/

/-- The block in a reply, if it was built for this repository. -/
def blockFor (repId : Nat) (call : Call) : TeeResult Output → Option Block
  | .ok (.genesis created block) => if created.toNat = repId then some (.access block) else none
  | .ok (.accessBlock block) => if call.accessRepo = repId then some (.access block) else none
  | .ok (.contribution block _) =>
      if call.commitRepo = repId then some (.contribution block) else none
  | .ok (.latestHash _ _ _) => none
  | .ok (.publicKey _ _) => none
  | .error _ => none

theorem blockFor_genesis {repId : Nat} {created : UInt32} (here : repId = created.toNat)
    (call : Call) (block : AccessBlock) :
    blockFor repId call (.ok (.genesis created block)) = some (.access block) :=
  if_pos here.symm

theorem blockFor_accessBlock (call : Call) (block : AccessBlock) :
    blockFor call.accessRepo call (.ok (.accessBlock block)) = some (.access block) :=
  if_pos rfl

theorem blockFor_contribution (call : Call) (block : ContributionBlock) (encryptedKey : CString) :
    blockFor call.commitRepo call (.ok (.contribution block encryptedKey)) =
      some (.contribution block) :=
  if_pos rfl

/-- The reply to a successful `access_control` or `commit` on this repository. -/
def isUpdateFor (repId : Nat) (call : Call) : TeeResult Output → Bool
  | .error _ => false
  | .ok _ =>
      (call.cmdId = cmdAccessControl && call.accessRepo = repId) ||
        (call.cmdId = cmdCommit && call.commitRepo = repId)

theorem isUpdateFor_of_command {command : UInt32} {call : Call} (isCommand : call.cmdId = command)
    (notAccess : command ≠ cmdAccessControl) (notCommit : command ≠ cmdCommit) (repId : Nat)
    (answer : TeeResult Output) : isUpdateFor repId call answer = false := by
  cases answer with
  | error code => rfl
  | ok output => simp [isUpdateFor, isCommand, notAccess, notCommit]

theorem isUpdateFor_access {call : Call} (isCommand : call.cmdId = cmdAccessControl) (repId : Nat)
    (output : Output) : isUpdateFor repId call (.ok output) = decide (call.accessRepo = repId) := by
  have notCommit : cmdAccessControl ≠ cmdCommit := by decide
  simp [isUpdateFor, isCommand, notCommit]

theorem isUpdateFor_commit {call : Call} (isCommand : call.cmdId = cmdCommit) (repId : Nat)
    (output : Output) : isUpdateFor repId call (.ok output) = decide (call.commitRepo = repId) := by
  have notAccess : cmdCommit ≠ cmdAccessControl := by decide
  simp [isUpdateFor, isCommand, notAccess]

/-- What a command does to one slot, with the reply it gives. -/
inductive SlotStep (primitives : Primitives) (state : TaState) (call : Call) (repId : Nat) :
    TeeResult Output → Option RepoMetadata → Prop
  | untouched (answer : TeeResult Output) (noBlock : blockFor repId call answer = none)
      (noUpdate : isUpdateFor repId call answer = false) :
      SlotStep primitives state call repId answer (state.slot repId)
  | created (teeSig : CString) (store : KeyStore) (isCommand : call.cmdId = cmdInitRepo)
      (here : repId = state.repoNum.toNat) (free : state.slot repId = none)
      (signed : Signed primitives call.outcomes (accessDataBuffer call.genesis) state.keyStore
        teeSig store) :
      SlotStep primitives state call repId
        (.ok (.genesis state.repoNum (call.genesis.withTeeSig teeSig)))
        (some (newRepository call.params.adminKey ((Block.access call.genesis).hash primitives)))
  | interrupted (repo edited : RepoMetadata) (reply : TeeResult Unit) (code : TeeError)
      (here : repId = call.accessRepo) (accepted : call.AccessAccepted primitives state repo)
      (updated : call.updateKeys repo = (reply, edited)) (fails : reply = .ok () → ¬ call.Seals) :
      SlotStep primitives state call repId (.error code) (some edited)
  | accessAppended (repo edited : RepoMetadata) (teeSig : CString) (store : KeyStore)
      (here : repId = call.accessRepo) (accepted : call.AccessAccepted primitives state repo)
      (updated : call.updateKeys repo = (.ok (), edited))
      (signed : Signed primitives call.outcomes (accessDataBuffer (call.access edited))
        state.keyStore teeSig store) :
      SlotStep primitives state call repId
        (.ok (.accessBlock ((call.access edited).withTeeSig teeSig)))
        (some (edited.append ((Block.access (call.access edited)).hash primitives)))
  | contributionAppended (repo : RepoMetadata) (teeSig encryptedKey : CString) (store : KeyStore)
      (here : repId = call.commitRepo) (accepted : call.CommitAccepted primitives state repo)
      (signed : Signed primitives call.outcomes (contributionDataBuffer (call.contribution repo))
        state.keyStore teeSig store) :
      SlotStep primitives state call repId
        (.ok (.contribution ((call.contribution repo).withTeeSig teeSig) encryptedKey))
        (some (repo.append ((Block.contribution (call.contribution repo)).hash primitives)))

/-- The effect of a command, seen from one slot. -/
theorem Effect.slotStep {primitives : Primitives} {state after : TaState} {call : Call}
    {answer : TeeResult Output} (effect : Effect primitives state call answer after)
    (free : state.slot state.repoNum.toNat = none) (repId : Nat) :
    SlotStep primitives state call repId answer (after.slot repId) := by
  cases effect with
  | refused code store notAccess => exact .untouched _ rfl rfl
  | hashRead repo signature store isCommand found signed =>
      exact .untouched _ rfl (isUpdateFor_of_command isCommand (by decide) (by decide) repId _)
  | keyRead pem pemLen isCommand =>
      exact .untouched _ rfl (isUpdateFor_of_command isCommand (by decide) (by decide) repId _)
  | created teeSig store isCommand inside signed =>
      change SlotStep primitives state call repId _ ((state.setSlot state.repoNum.toNat _).slot repId)
      by_cases here : repId = state.repoNum.toNat
      · rw [here, state.slot_setSlot_self inside]
        exact .created teeSig store isCommand rfl free signed
      · rw [state.slot_setSlot_of_ne here]
        exact .untouched _ (if_neg fun same => here same.symm)
          (isUpdateFor_of_command isCommand (by decide) (by decide) repId _)
  | interrupted repo edited reply code store accepted updated fails =>
      rw [TaState.slot_setKeyStore]
      by_cases here : repId = call.accessRepo
      · rw [here, state.slot_setSlot_self accepted.inside]
        exact .interrupted repo edited reply code rfl accepted updated fails
      · rw [state.slot_setSlot_of_ne here]
        exact .untouched _ rfl rfl
  | accessAppended repo edited teeSig store accepted updated signed =>
      rw [TaState.slot_setKeyStore]
      by_cases here : repId = call.accessRepo
      · rw [here, state.slot_setSlot_self accepted.inside]
        exact .accessAppended repo edited teeSig store rfl accepted updated signed
      · have elsewhere : call.accessRepo ≠ repId := fun same => here same.symm
        rw [state.slot_setSlot_of_ne here]
        exact .untouched _ (if_neg elsewhere)
          ((isUpdateFor_access accepted.1 repId _).trans (decide_eq_false elsewhere))
  | contributionAppended repo teeSig encryptedKey signedStore store accepted signed =>
      rw [TaState.slot_setKeyStore]
      by_cases here : repId = call.commitRepo
      · rw [here, state.slot_setSlot_self accepted.inside]
        exact .contributionAppended repo teeSig encryptedKey signedStore rfl accepted signed
      · have elsewhere : call.commitRepo ≠ repId := fun same => here same.symm
        rw [state.slot_setSlot_of_ne here]
        exact .untouched _ (if_neg elsewhere)
          ((isUpdateFor_commit accepted.1 repId _).trans (decide_eq_false elsewhere))

/-! ## Blocks that are handed out -/

/-- Where a block of this call comes from. -/
inductive BuiltBy (primitives : Primitives) (state : TaState) (call : Call) : Block → Prop
  | genesis (teeSig : CString) (isCommand : call.cmdId = cmdInitRepo) :
      BuiltBy primitives state call (.access (call.genesis.withTeeSig teeSig))
  | access (repo edited : RepoMetadata) (teeSig : CString)
      (accepted : call.AccessAccepted primitives state repo)
      (updated : call.updateKeys repo = (.ok (), edited)) :
      BuiltBy primitives state call (.access ((call.access edited).withTeeSig teeSig))
  | contribution (repo : RepoMetadata) (teeSig : CString)
      (accepted : call.CommitAccepted primitives state repo) :
      BuiltBy primitives state call (.contribution ((call.contribution repo).withTeeSig teeSig))

/-- A block in a reply is the genesis block of the slot, or was added to what the
slot holds. -/
theorem SlotStep.block_cases {primitives : Primitives} {state : TaState} {call : Call} {repId : Nat}
    {answer : TeeResult Output} {slot : Option RepoMetadata} {block : Block}
    (step : SlotStep primitives state call repId answer slot)
    (inReply : blockFor repId call answer = some block) :
    (∃ teeSig store, call.cmdId = cmdInitRepo ∧ repId = state.repoNum.toNat ∧
      state.slot repId = none ∧
      Signed primitives call.outcomes (accessDataBuffer call.genesis) state.keyStore teeSig store ∧
      answer = .ok (.genesis state.repoNum (call.genesis.withTeeSig teeSig)) ∧
      slot = some (newRepository call.params.adminKey
        ((Block.access call.genesis).hash primitives)) ∧
      block = .access (call.genesis.withTeeSig teeSig)) ∨
    (∃ repo edited teeSig store, repId = call.accessRepo ∧
      call.AccessAccepted primitives state repo ∧ call.updateKeys repo = (.ok (), edited) ∧
      Signed primitives call.outcomes (accessDataBuffer (call.access edited)) state.keyStore
        teeSig store ∧
      slot = some (edited.append ((Block.access (call.access edited)).hash primitives)) ∧
      block = .access ((call.access edited).withTeeSig teeSig)) ∨
    (∃ repo teeSig store, repId = call.commitRepo ∧ call.CommitAccepted primitives state repo ∧
      Signed primitives call.outcomes (contributionDataBuffer (call.contribution repo))
        state.keyStore teeSig store ∧
      slot = some (repo.append ((Block.contribution (call.contribution repo)).hash primitives)) ∧
      block = .contribution ((call.contribution repo).withTeeSig teeSig)) := by
  cases step with
  | untouched answer noBlock noUpdate =>
      rw [noBlock] at inReply
      cases inReply
  | created teeSig store isCommand here free signed =>
      rw [blockFor_genesis here] at inReply
      cases inReply
      exact Or.inl ⟨teeSig, store, isCommand, here, free, signed, rfl, rfl, rfl⟩
  | interrupted repo edited reply code here accepted updated fails => cases inReply
  | accessAppended repo edited teeSig store here accepted updated signed =>
      rw [here, blockFor_accessBlock] at inReply
      cases inReply
      exact Or.inr (Or.inl ⟨repo, edited, teeSig, store, here, accepted, updated, signed, rfl, rfl⟩)
  | contributionAppended repo teeSig encryptedKey store here accepted signed =>
      rw [here, blockFor_contribution] at inReply
      cases inReply
      exact Or.inr (Or.inr ⟨repo, teeSig, store, here, accepted, signed, rfl, rfl⟩)

/-- A block in a reply was signed, and its hash is now the head of the slot. -/
theorem SlotStep.built {primitives : Primitives} {state : TaState} {call : Call} {repId : Nat}
    {answer : TeeResult Output} {slot : Option RepoMetadata} {block : Block}
    (step : SlotStep primitives state call repId answer slot)
    (inReply : blockFor repId call answer = some block) :
    ∃ repo store, slot = some repo ∧ repo.latestHash = block.hash primitives ∧
      Signed primitives call.outcomes block.dataBuffer state.keyStore block.base.teeSig store ∧
      BuiltBy primitives state call block := by
  rcases step.block_cases inReply with
    ⟨teeSig, store, isCommand, _, _, signed, _, stored, rfl⟩ |
    ⟨repo, edited, teeSig, store, _, accepted, updated, signed, stored, rfl⟩ |
    ⟨repo, teeSig, store, _, accepted, signed, stored, rfl⟩
  · exact ⟨_, store, stored, rfl, signed, .genesis teeSig isCommand⟩
  · exact ⟨_, store, stored, rfl, signed, .access repo edited teeSig accepted updated⟩
  · exact ⟨_, store, stored, rfl, signed, .contribution repo teeSig accepted⟩

/-! ## The log -/

/-- One command of a run, with the states around it. -/
abbrev TaEvent := Machine.Event TaState Call (TeeResult Output)

/-- The block that an event built for this repository. -/
def blockOf (repId : Nat) (event : TaEvent) : Option Block :=
  blockFor repId event.input event.output

/-- All blocks of a repository, genesis first. -/
def blocksOf (repId : Nat) (log : List TaEvent) : List Block :=
  log.filterMap (blockOf repId)

/-- A successful `access_control` or `commit` on this repository. -/
def isUpdateOf (repId : Nat) (event : TaEvent) : Bool :=
  isUpdateFor repId event.input event.output

/-- How many of them there are. -/
def updatesOf (repId : Nat) (log : List TaEvent) : Nat :=
  log.countP (isUpdateOf repId)

section Runs

variable (primitives : Primitives) (store : KeyStore)

/-- Each step of a run, seen from one slot. -/
theorem run_slotStep (calls : List Call) (call : Call) (repId : Nat) :
    SlotStep primitives ((trustedApplication primitives store).run calls) call repId
      ((trustedApplication primitives store).answer
        ((trustedApplication primitives store).run calls) call)
      (((trustedApplication primitives store).next
        ((trustedApplication primitives store).run calls) call).slot repId) :=
  (run_effect primitives store calls call).slotStep
    (run_tableInvariant primitives store calls).free repId

end Runs

/-! ## The chain -/

/-- Blocks name each other by the digest of their serialized strings. -/
def blockFormat (primitives : Primitives) : ChainFormat Block CString CString where
  text := Block.dataBuffer
  parent := fun block => block.base.parentHash
  digest := fun text => hashText primitives text.bytes
  genesis := zeroHash

/-- The blocks so far end in the stored head, at the stored height. -/
structure ChainOf (primitives : Primitives) (repId : Nat) (log : List TaEvent)
    (repo : RepoMetadata) : Prop where
  linked : (blockFormat primitives).Linked (blocksOf repId log).reverse
  head : repo.latestHash = (blockFormat primitives).head (blocksOf repId log).reverse
  length : (blocksOf repId log).length = updatesOf repId log + 1
  height : repo.blockHeight = UInt32.ofNat (updatesOf repId log)

/-- The chain of a slot; an empty slot has none. -/
def SlotChain (primitives : Primitives) (repId : Nat) (log : List TaEvent) :
    Option RepoMetadata → Prop
  | none => blocksOf repId log = [] ∧ updatesOf repId log = 0
  | some repo => ChainOf primitives repId log repo

section Snoc

variable {repId : Nat} {log : List TaEvent} {state after : TaState} {call : Call}
  {answer : TeeResult Output}

theorem blocksOf_snoc_none (none : blockFor repId call answer = none) :
    blocksOf repId (log ++ [⟨state, call, answer, after⟩]) = blocksOf repId log := by
  simp [blocksOf, List.filterMap_append, blockOf, none]

theorem blocksOf_snoc_some {block : Block} (some : blockFor repId call answer = some block) :
    blocksOf repId (log ++ [⟨state, call, answer, after⟩]) = blocksOf repId log ++ [block] := by
  simp [blocksOf, List.filterMap_append, blockOf, some]

theorem updatesOf_snoc_false (other : isUpdateFor repId call answer = false) :
    updatesOf repId (log ++ [⟨state, call, answer, after⟩]) = updatesOf repId log := by
  simp [updatesOf, List.countP_append, isUpdateOf, other]

theorem updatesOf_snoc_true (update : isUpdateFor repId call answer = true) :
    updatesOf repId (log ++ [⟨state, call, answer, after⟩]) = updatesOf repId log + 1 := by
  simp [updatesOf, List.countP_append, isUpdateOf, update]

/-- An event that built no block here leaves the chain as it is. -/
theorem SlotChain.snoc_none {primitives : Primitives} {slot : Option RepoMetadata}
    (chain : SlotChain primitives repId log slot) (noBlock : blockFor repId call answer = none)
    (noUpdate : isUpdateFor repId call answer = false) :
    SlotChain primitives repId (log ++ [⟨state, call, answer, after⟩]) slot := by
  cases slot with
  | none =>
      refine ⟨?_, ?_⟩
      · rw [blocksOf_snoc_none noBlock]
        exact chain.1
      · rw [updatesOf_snoc_false noUpdate]
        exact chain.2
  | some repo =>
      rcases chain with ⟨linked, head, length, height⟩
      refine ⟨?_, ?_, ?_, ?_⟩
      · rw [blocksOf_snoc_none noBlock]
        exact linked
      · rw [blocksOf_snoc_none noBlock]
        exact head
      · rw [blocksOf_snoc_none noBlock, updatesOf_snoc_false noUpdate]
        exact length
      · rw [updatesOf_snoc_false noUpdate]
        exact height

/-- A block that quotes the head becomes the new head. -/
theorem ChainOf.snoc {primitives : Primitives} {repo extended : RepoMetadata} {block : Block}
    (chain : ChainOf primitives repId log repo) (built : blockFor repId call answer = some block)
    (update : isUpdateFor repId call answer = true) (parent : block.base.parentHash = repo.latestHash)
    (appended : extended = repo.append (block.hash primitives)) :
    ChainOf primitives repId (log ++ [⟨state, call, answer, after⟩]) extended := by
  subst appended
  refine ⟨?_, ?_, ?_, ?_⟩
  · rw [blocksOf_snoc_some built, ChainFormat.linked_reverse_snoc]
    exact ⟨parent.trans chain.head, chain.linked⟩
  · rw [blocksOf_snoc_some built, ChainFormat.head_reverse_snoc]
    rfl
  · rw [blocksOf_snoc_some built, updatesOf_snoc_true update, List.length_append, chain.length]
    rfl
  · rw [updatesOf_snoc_true update, UInt32.ofNat_add, ← chain.height]
    rfl

end Snoc

theorem ChainOf.congr {primitives : Primitives} {repId : Nat} {log : List TaEvent}
    {repo edited : RepoMetadata} (chain : ChainOf primitives repId log repo)
    (height : edited.blockHeight = repo.blockHeight)
    (head : edited.latestHash = repo.latestHash) : ChainOf primitives repId log edited :=
  ⟨chain.linked, head.trans chain.head, chain.length, height.trans chain.height⟩

theorem SlotStep.slotChain {primitives : Primitives} {state : TaState} {call : Call}
    {repId : Nat} {answer : TeeResult Output} {slot : Option RepoMetadata} {log : List TaEvent}
    (step : SlotStep primitives state call repId answer slot) (table : TableInvariant state)
    (chain : SlotChain primitives repId log (state.slot repId)) (after : TaState) :
    SlotChain primitives repId (log ++ [⟨state, call, answer, after⟩]) slot := by
  cases step with
  | untouched answer noBlock noUpdate => exact chain.snoc_none noBlock noUpdate
  | created teeSig store isCommand here free signed =>
      have isFirst := blockFor_genesis here call (call.genesis.withTeeSig teeSig)
      have noUpdate := isUpdateFor_of_command isCommand (by decide) (by decide) repId
        (.ok (.genesis state.repoNum (call.genesis.withTeeSig teeSig)))
      rw [free] at chain
      have none : blocksOf repId log = [] := chain.1
      refine ⟨?_, ?_, ?_, ?_⟩
      · rw [blocksOf_snoc_some isFirst, none]
        exact ⟨rfl, trivial⟩
      · rw [blocksOf_snoc_some isFirst, none]
        rfl
      · rw [blocksOf_snoc_some isFirst, updatesOf_snoc_false noUpdate, none, chain.2]
        rfl
      · rw [updatesOf_snoc_false noUpdate, chain.2]
        rfl
  | interrupted repo edited reply code here accepted updated fails =>
      subst here
      rcases table.keyUpdate accepted updated with ⟨_, _, _, update⟩
      have kept := update.head
      have still : SlotChain primitives call.accessRepo
          (log ++ [⟨state, call, .error code, after⟩]) (state.slot call.accessRepo) :=
        chain.snoc_none rfl rfl
      rw [accepted.slot] at still
      exact ChainOf.congr still kept.1 kept.2
  | accessAppended repo edited teeSig store here accepted updated signed =>
      subst here
      rcases table.keyUpdate accepted updated with ⟨_, _, _, update⟩
      have kept := update.head
      rw [accepted.slot] at chain
      have isUpdate := (isUpdateFor_access accepted.1 call.accessRepo
        (.accessBlock ((call.access edited).withTeeSig teeSig))).trans (decide_eq_true rfl)
      exact (ChainOf.congr chain kept.1 kept.2).snoc (blockFor_accessBlock call _) isUpdate rfl rfl
  | contributionAppended repo teeSig encryptedKey store here accepted signed =>
      subst here
      rw [accepted.slot] at chain
      have isUpdate := (isUpdateFor_commit accepted.1 call.commitRepo
        (.contribution ((call.contribution repo).withTeeSig teeSig) encryptedKey)).trans
          (decide_eq_true rfl)
      exact ChainOf.snoc chain (blockFor_contribution call _ encryptedKey) isUpdate rfl rfl

section Runs

variable (primitives : Primitives) (store : KeyStore)

theorem run_slotChain (calls : List Call) (repId : Nat) :
    SlotChain primitives repId ((trustedApplication primitives store).log calls)
      (((trustedApplication primitives store).run calls).slot repId) := by
  apply (trustedApplication primitives store).log_invariant
    (fun log state => SlotChain primitives repId log (state.slot repId)) (fun _ => True)
  · change SlotChain primitives repId [] ((initialState store).slot repId)
    rw [slot_initialState]
    exact ⟨rfl, rfl⟩
  · intro calls call _ chain
    exact (run_slotStep primitives store calls call repId).slotChain
      (run_tableInvariant primitives store calls) chain _
  · exact fun _ _ => trivial

end Runs

/-! ## What the chain is made of -/

/-- The hash of the block was computed before its signature was filled in, and
the signature is that of the hash, under the key that was then at hand. -/
structure Sealed (primitives : Primitives) (event : TaEvent) (block : Block) : Prop where
  hashed : block.unsigned.calculateHash primitives event.input.outcomes.hash =
    .ok (block.hash primitives)
  signed : (teeSignHash primitives event.input.outcomes.sign (block.hash primitives)
    event.before.keyStore).1 = .ok block.base.teeSig

theorem SlotStep.sealed {primitives : Primitives} {state : TaState} {call : Call} {repId : Nat}
    {answer : TeeResult Output} {slot : Option RepoMetadata}
    (step : SlotStep primitives state call repId answer slot) (after : TaState) {block : Block}
    (inReply : blockFor repId call answer = some block) :
    Sealed primitives ⟨state, call, answer, after⟩ block := by
  rcases step.built inReply with ⟨_, store, _, _, signed, _⟩
  exact ⟨Block.calculateHash_eq_ok_iff.mpr
    ⟨signed.hashed, (Block.hash_unsigned primitives block).symm⟩, congrArg Prod.fst signed.signed⟩

/-- The blocks of a repository, oldest first, with what the table stores. -/
structure HashChained (primitives : Primitives) (repId : Nat) (log : List TaEvent)
    (repo : RepoMetadata) : Prop where
  genesis : ∃ first rest, blocksOf repId log = first :: rest ∧ first.base.parentHash = zeroHash
  linked : ∀ earlier older newer later, blocksOf repId log = earlier ++ older :: newer :: later →
    newer.base.parentHash = older.hash primitives
  head : ∃ earlier newest, blocksOf repId log = earlier ++ [newest] ∧
    repo.latestHash = newest.hash primitives
  height : repo.blockHeight.toNat = updatesOf repId log % 2 ^ 32

theorem ChainOf.hashChained {primitives : Primitives} {repId : Nat} {log : List TaEvent}
    {repo : RepoMetadata} (chain : ChainOf primitives repId log repo) :
    HashChained primitives repId log repo := by
  have nonempty : blocksOf repId log ≠ [] := by
    intro none
    have length := chain.length
    rw [none] at length
    cases length
  refine ⟨?_, ?_, ?_, ?_⟩
  · rcases List.exists_cons_of_ne_nil nonempty with ⟨first, rest, blocks⟩
    have linked := chain.linked
    rw [blocks] at linked
    exact ⟨first, rest, blocks, linked.parent_of_first⟩
  · intro earlier older newer later blocks
    have linked := chain.linked
    rw [blocks] at linked
    exact linked.parent_of_next
  · rcases List.eq_nil_or_concat' (blocksOf repId log) with none | ⟨earlier, newest, blocks⟩
    · exact absurd none nonempty
    · have head := chain.head
      rw [blocks, ChainFormat.head_reverse_snoc] at head
      exact ⟨earlier, newest, blocks, head⟩
  · rw [chain.height, UInt32.toNat_ofNat']

/-- A repository that exists has a chain of blocks; one that does not has none. -/
def HashChainedSlot (primitives : Primitives) (repId : Nat) (log : List TaEvent) :
    Option RepoMetadata → Prop
  | none => blocksOf repId log = []
  | some repo => HashChained primitives repId log repo

/-- In each run, the blocks that were handed out for a repository form a chain
from the all-zero hash to the stored head, and each is sealed. -/
theorem hash_chain_integrity (primitives : Primitives) (store : KeyStore) (calls : List Call)
    (repId : Nat) :
    (∀ event ∈ (trustedApplication primitives store).log calls, ∀ block,
      blockOf repId event = some block → Sealed primitives event block) ∧
    HashChainedSlot primitives repId ((trustedApplication primitives store).log calls)
      (((trustedApplication primitives store).run calls).slot repId) := by
  constructor
  · intro event member block built
    rcases (trustedApplication primitives store).mem_log member with ⟨earlier, call, _, rfl⟩
    exact (run_slotStep primitives store earlier call repId).sealed _ built
  · have chain := run_slotChain primitives store calls repId
    cases slot : ((trustedApplication primitives store).run calls).slot repId with
    | none =>
        rw [slot] at chain
        exact chain.1
    | some repo =>
        rw [slot] at chain
        exact ChainOf.hashChained chain

end Ta
end TrustChain

import TrustChain.Spec.Membership
import TrustChain.Ta.History

namespace TrustChain
namespace Ta

open Library Spec Tee

/-!
# The blocks tell who the members are

As long as nothing fails between an edit and its block, whoever collects the
blocks of a repository can replay them and arrives at the members that the
application stores, and finds each block signed by somebody who was entitled
to it at that point.
-/

/-- The change that an `access_control` request stands for. -/
def changeOf (op role : UInt32) (pubkey : CString) : Change CString :=
  if op = opAdd then
    if role = roleAdmin then .addAdmin pubkey
    else if role = roleWriter then .addWriter pubkey
    else .nothing
  else if op = opDelete then
    if role = roleAdmin then .deleteAdmin pubkey
    else if role = roleWriter then .deleteWriter pubkey
    else .nothing
  else .nothing

/-- A block as an entry of the history. -/
def Block.entry : Block → Entry CString
  | .access block => ⟨block.base.sigkey, true, changeOf block.base.op block.role block.pubkey⟩
  | .contribution block => ⟨block.base.sigkey, false, .nothing⟩

/-- The stored lists have these members. -/
structure Stores (repo : RepoMetadata) (members : Members CString) : Prop where
  admins : ∀ key, key ∈ members.admins ↔ key ∈ keysOf repo.adminKeys
  writers : ∀ key, key ∈ members.writers ↔ key ∈ keysOf repo.writerKeys

theorem newRepository_stores (adminKey genesisHash : CString) :
    Stores (newRepository adminKey genesisHash) (.founded adminKey) where
  admins := fun _ => Finset.mem_singleton.trans List.mem_singleton.symm
  writers := fun key => iff_of_false (Finset.notMem_empty key) List.not_mem_nil

/-- A successful edit of the lists is the change that the request stands for. -/
theorem KeyUpdate.stores {outcomes : NodeOutcomes} {repo edited : RepoMetadata}
    {admins writers : KeyList} {op role : UInt32} {pubkey : CString} {answer : TeeResult Unit}
    (update : KeyUpdate outcomes repo admins writers op role pubkey answer edited)
    (invariant : RepoInvariant repo admins writers) (succeeds : answer = .ok ())
    {members : Members CString} (stores : Stores repo members) :
    Stores edited (members.apply (changeOf op role pubkey)) := by
  have isAdmin : ∀ key, key ∈ members.admins ↔ key ∈ admins.nodes := by
    intro key
    rw [stores.admins, invariant.keysOf_adminKeys]
  have isWriter : ∀ key, key ∈ members.writers ↔ key ∈ writers.nodes := by
    intro key
    rw [stores.writers, invariant.keysOf_writerKeys]
  cases update with
  | addAdmin isOp isRole new allocated =>
      subst isOp isRole
      rw [changeOf, if_pos rfl, if_pos rfl]
      refine ⟨fun key => ?_, fun key => ?_⟩
      · exact Finset.mem_insert.trans
          ((or_congr Iff.rfl (isAdmin key)).trans KeyList.mem_push.symm)
      · exact Finset.mem_erase.trans
          ((and_congr Iff.rfl (isWriter key)).trans invariant.writersWellFormed.mem_without.symm)
  | addWriter isOp isRole notWriter notAdmin allocated =>
      subst isOp isRole
      rw [changeOf, if_pos rfl, if_neg roleAdmin_ne_roleWriter.symm, if_pos rfl]
      refine ⟨stores.admins, fun key => ?_⟩
      exact Finset.mem_insert.trans
        ((or_congr Iff.rfl (isWriter key)).trans KeyList.mem_push.symm)
  | deleteAdmin isOp isRole present =>
      subst isOp isRole
      rw [changeOf, if_neg opAdd_ne_opDelete.symm, if_pos rfl, if_pos rfl]
      refine ⟨fun key => ?_, stores.writers⟩
      exact Finset.mem_erase.trans
        ((and_congr Iff.rfl (isAdmin key)).trans invariant.adminsWellFormed.mem_without.symm)
  | deleteWriter isOp isRole present =>
      subst isOp isRole
      rw [changeOf, if_neg opAdd_ne_opDelete.symm, if_pos rfl, if_neg roleAdmin_ne_roleWriter.symm, if_pos rfl]
      refine ⟨stores.admins, fun key => ?_⟩
      exact Finset.mem_erase.trans
        ((and_congr Iff.rfl (isWriter key)).trans invariant.writersWellFormed.mem_without.symm)
  | otherRole notAdmin notWriter =>
      have none : changeOf op role pubkey = .nothing := by
        simp only [changeOf, if_neg notAdmin, if_neg notWriter, ite_self]
      rw [none]
      exact stores
  | addAdminLate isOp isRole new failed => cases succeeds
  | refused code reason => cases succeeds

/-- Nodes can be allocated, and blocks can be hashed and signed. -/
structure Call.NeverFails (call : Call) : Prop where
  allocates : call.outcomes.node.Succeeds
  seals : call.Seals

/-- An interrupted command has changed nothing then. -/
theorem KeyUpdate.eq_of_interrupted {call : Call} {repo edited : RepoMetadata}
    {admins writers : KeyList} {op role : UInt32} {pubkey : CString} {answer : TeeResult Unit}
    (update : KeyUpdate call.outcomes.node repo admins writers op role pubkey answer edited)
    (smooth : call.NeverFails) (fails : answer = .ok () → ¬ call.Seals) : edited = repo := by
  cases update with
  | addAdmin => exact absurd smooth.seals (fails rfl)
  | addAdminLate isOp isRole new failed => exact absurd smooth.allocates failed
  | addWriter => exact absurd smooth.seals (fails rfl)
  | deleteAdmin => exact absurd smooth.seals (fails rfl)
  | deleteWriter => exact absurd smooth.seals (fails rfl)
  | otherRole => rfl
  | refused code reason => rfl

/-! ## The replay along a run -/

/-- The blocks so far, replayed, give the stored members. -/
structure Audited (repo : RepoMetadata) (genesis : AccessBlock) (rest : List Block) : Prop where
  stores : Stores repo (replay genesis.pubkey (rest.map Block.entry))
  inOrder : InOrder genesis.pubkey (rest.map Block.entry)

def AuditedSlot (repId : Nat) (log : List TaEvent) : Option RepoMetadata → Prop
  | none => blocksOf repId log = []
  | some repo => ∃ genesis rest, blocksOf repId log = .access genesis :: rest ∧
      Audited repo genesis rest

theorem Audited.snoc {repo extended : RepoMetadata} {genesis : AccessBlock} {rest : List Block}
    (audited : Audited repo genesis rest) {block : Block}
    (entitled : (replay genesis.pubkey (rest.map Block.entry)).Entitles block.entry)
    (stores : Stores extended
      ((replay genesis.pubkey (rest.map Block.entry)).apply block.entry.change)) :
    Audited extended genesis (rest ++ [block]) where
  stores := by
    rw [List.map_append, List.map_cons, List.map_nil, replay_snoc]
    exact stores
  inOrder := by
    rw [List.map_append, List.map_cons, List.map_nil]
    exact audited.inOrder.snoc entitled

theorem SlotStep.auditedSlot {primitives : Primitives} {state : TaState} {call : Call}
    {repId : Nat} {answer : TeeResult Output} {slot : Option RepoMetadata} {log : List TaEvent}
    (step : SlotStep primitives state call repId answer slot) (table : TableInvariant state)
    (smooth : call.NeverFails) (audited : AuditedSlot repId log (state.slot repId))
    (after : TaState) : AuditedSlot repId (log ++ [⟨state, call, answer, after⟩]) slot := by
  have unchanged : blockFor repId call answer = none →
      AuditedSlot repId (log ++ [⟨state, call, answer, after⟩]) (state.slot repId) := by
    intro noBlock
    cases slot : state.slot repId with
    | none =>
        rw [slot] at audited
        exact (blocksOf_snoc_none noBlock).trans audited
    | some repo =>
        rw [slot] at audited
        rcases audited with ⟨genesis, rest, blocks, audited⟩
        exact ⟨genesis, rest, (blocksOf_snoc_none noBlock).trans blocks, audited⟩
  cases step with
  | untouched answer noBlock noUpdate => exact unchanged noBlock
  | created teeSig store isCommand here free signed =>
      rw [free] at audited
      refine ⟨call.genesis.withTeeSig teeSig, [], ?_, newRepository_stores _ _, inOrder_nil _⟩
      rw [blocksOf_snoc_some (blockFor_genesis here call _), show blocksOf repId log = [] from audited]
      rfl
  | interrupted repo edited reply code here accepted updated fails =>
      subst here
      rcases table.keyUpdate accepted updated with ⟨_, _, _, update⟩
      rw [update.eq_of_interrupted smooth fails, ← accepted.slot]
      exact unchanged rfl
  | accessAppended repo edited teeSig store here accepted updated signed =>
      subst here
      rcases table.keyUpdate accepted updated with ⟨_, _, invariant, update⟩
      rw [accepted.slot] at audited
      rcases audited with ⟨genesis, rest, blocks, audited⟩
      refine ⟨genesis, rest ++ [.access ((call.access edited).withTeeSig teeSig)], ?_, ?_⟩
      · rw [blocksOf_snoc_some (blockFor_accessBlock call _), blocks]
        rfl
      · apply audited.snoc
        · exact (audited.stores.admins _).mpr accepted.2.admin
        · have edit := update.stores invariant rfl audited.stores
          exact ⟨edit.admins, edit.writers⟩
  | contributionAppended repo teeSig encryptedKey store here accepted signed =>
      subst here
      rw [accepted.slot] at audited
      rcases audited with ⟨genesis, rest, blocks, audited⟩
      refine ⟨genesis, rest ++ [.contribution ((call.contribution repo).withTeeSig teeSig)], ?_, ?_⟩
      · rw [blocksOf_snoc_some (blockFor_contribution call _ encryptedKey), blocks]
        rfl
      · apply audited.snoc
        · exact accepted.2.member.imp (audited.stores.admins _).mpr (audited.stores.writers _).mpr
        · exact ⟨audited.stores.admins, audited.stores.writers⟩

section Runs

variable (primitives : Primitives) (store : KeyStore)

theorem run_auditedSlot {calls : List Call} (smooth : ∀ call ∈ calls, call.NeverFails)
    (repId : Nat) :
    AuditedSlot repId ((trustedApplication primitives store).log calls)
      (((trustedApplication primitives store).run calls).slot repId) := by
  apply (trustedApplication primitives store).log_invariant
    (fun log state => AuditedSlot repId log (state.slot repId)) Call.NeverFails
  · change AuditedSlot repId [] ((initialState store).slot repId)
    rw [slot_initialState]
    rfl
  · intro calls call smooth audited
    exact (run_slotStep primitives store calls call repId).auditedSlot
      (run_tableInvariant primitives store calls) smooth audited _
  · exact smooth

/-- When nothing fails, the replay of the blocks of a repository gives its
stored members, and every block after the first was signed by somebody whom the
blocks before it entitle. -/
theorem replay_of_blocks_is_stored (calls : List Call)
    (smooth : ∀ call ∈ calls, call.NeverFails) (repId : Nat) (repo : RepoMetadata)
    (found : ((trustedApplication primitives store).run calls).slot repId = some repo) :
    ∃ genesis rest,
      blocksOf repId ((trustedApplication primitives store).log calls) = .access genesis :: rest ∧
      Stores repo (replay genesis.pubkey (rest.map Block.entry)) ∧
      InOrder genesis.pubkey (rest.map Block.entry) := by
  have audited := run_auditedSlot primitives store smooth repId
  rw [found] at audited
  rcases audited with ⟨genesis, rest, blocks, audited⟩
  exact ⟨genesis, rest, blocks, audited.stores, audited.inOrder⟩

end Runs

theorem Sample.neverFails : ∀ call ∈ [creation, addition], call.NeverFails := by
  have seals : ∀ seconds, (outcomes seconds).node.Succeeds ∧
      (outcomes seconds).hash.Succeeds ∧ (outcomes seconds).sign.Succeeds := fun _ =>
    ⟨⟨rfl, rfl⟩, ⟨rfl, rfl⟩, Or.inl ⟨keyPair, rfl⟩, rfl, rfl, rfl⟩
  intro call member
  rcases List.mem_cons.mp member with rfl | rest
  · exact ⟨(seals 0).1, (seals 0).2⟩
  · rw [List.mem_singleton.mp rest]
    exact ⟨(seals 1).1, (seals 1).2⟩

/-- The replay of a creation and an addition. -/
theorem replay_of_addition_is_stored :
    ∃ repo genesis rest,
      (Sample.application.run [Sample.creation, Sample.addition]).slot 0 = some repo ∧
      blocksOf 0 (Sample.application.log [Sample.creation, Sample.addition]) =
        .access genesis :: rest ∧
      Stores repo (replay genesis.pubkey (rest.map Block.entry)) ∧
      InOrder genesis.pubkey (rest.map Block.entry) := by
  have exists_repo : ((Sample.application.run [Sample.creation, Sample.addition]).slot 0).isSome := by
    decide +kernel
  rcases Option.isSome_iff_exists.mp exists_repo with ⟨repo, found⟩
  rcases replay_of_blocks_is_stored Sample.primitives (some Sample.keyPair)
    [Sample.creation, Sample.addition] Sample.neverFails 0 repo found with ⟨genesis, rest, audited⟩
  exact ⟨repo, genesis, rest, found, audited⟩

end Ta
end TrustChain

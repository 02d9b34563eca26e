import TrustChain.Ta.History

namespace TrustChain
namespace Ta

open Library Tee

/-!
# The founder among the admins

Deleting an admin does not ask whose key it is.  The founder is therefore kept
exactly by those runs in which no accepted request deletes the founder's key.
Who founded a repository is read off the log: it is the key passed to the
`init_repo` call that returned its number.
-/

/-- The repository was created by a call with this key. -/
def CreatedBy (log : List TaEvent) (repId : Nat) (founder : CString) : Prop :=
  ∃ event ∈ log, ∃ created block, event.output = .ok (.genesis created block) ∧
    created.toNat = repId ∧ event.input.params.adminKey = founder

/-- What the log says about the founder agrees with the stored field. -/
def FoundedSlot (log : List TaEvent) (repId : Nat) : Option RepoMetadata → Prop
  | none => ∀ founder, ¬ CreatedBy log repId founder
  | some repo => ∀ founder, CreatedBy log repId founder ↔ founder = repo.founderKey

theorem createdBy_snoc {log : List TaEvent} {event : TaEvent} {repId : Nat} {founder : CString} :
    CreatedBy (log ++ [event]) repId founder ↔
      CreatedBy log repId founder ∨ CreatedBy [event] repId founder := by
  unfold CreatedBy
  constructor
  · rintro ⟨found, member, rest⟩
    rcases List.mem_append.mp member with older | newest
    · exact Or.inl ⟨found, older, rest⟩
    · exact Or.inr ⟨found, newest, rest⟩
  · rintro (⟨found, older, rest⟩ | ⟨found, newest, rest⟩)
    · exact ⟨found, List.mem_append_left _ older, rest⟩
    · exact ⟨found, List.mem_append_right _ newest, rest⟩

/-- An event that answers with a genesis block for another repository, or with
none, creates nothing here. -/
theorem not_createdBy_singleton {state after : TaState} {call : Call}
    {answer : TeeResult Output} {repId : Nat} {founder : CString}
    (other : ∀ created block, answer = .ok (.genesis created block) → created.toNat ≠ repId) :
    ¬ CreatedBy [⟨state, call, answer, after⟩] repId founder := by
  rintro ⟨event, member, created, block, isGenesis, here, _⟩
  rw [List.mem_singleton.mp member] at isGenesis
  exact other created block isGenesis here

theorem FoundedSlot.snoc {log : List TaEvent} {event : TaEvent} {repId : Nat}
    {slot : Option RepoMetadata} (founded : FoundedSlot log repId slot)
    (nothing : ∀ founder, ¬ CreatedBy [event] repId founder) :
    FoundedSlot (log ++ [event]) repId slot := by
  cases slot with
  | none =>
      intro founder created
      rcases createdBy_snoc.mp created with older | newest
      · exact founded founder older
      · exact nothing founder newest
  | some repo =>
      intro founder
      rw [createdBy_snoc, founded founder]
      exact or_iff_left (nothing founder)

theorem FoundedSlot.congr {log : List TaEvent} {repId : Nat} {repo edited : RepoMetadata}
    (founded : FoundedSlot log repId (some repo)) (same : edited.founderKey = repo.founderKey) :
    FoundedSlot log repId (some edited) := by
  intro founder
  rw [same]
  exact founded founder

/-- A command that is no creation, and keeps the founder of the slot, founds nothing. -/
theorem FoundedSlot.snoc_of_update {log : List TaEvent} {state after : TaState} {call : Call}
    {answer : TeeResult Output} {repId : Nat} {repo edited : RepoMetadata}
    (founded : FoundedSlot log repId (state.slot repId)) (stored : state.slot repId = some repo)
    (same : edited.founderKey = repo.founderKey)
    (noGenesis : ∀ created block, answer ≠ .ok (.genesis created block)) :
    FoundedSlot (log ++ [⟨state, call, answer, after⟩]) repId (some edited) := by
  rw [stored] at founded
  apply (founded.congr same).snoc
  intro founder
  apply not_createdBy_singleton
  intro created block isGenesis
  exact absurd isGenesis (noGenesis created block)

theorem SlotStep.foundedSlot {primitives : Primitives} {state : TaState} {call : Call}
    {repId : Nat} {answer : TeeResult Output} {slot : Option RepoMetadata} {log : List TaEvent}
    (step : SlotStep primitives state call repId answer slot) (table : TableInvariant state)
    (founded : FoundedSlot log repId (state.slot repId)) (after : TaState) :
    FoundedSlot (log ++ [⟨state, call, answer, after⟩]) repId slot := by
  cases step with
  | untouched answer noBlock noUpdate =>
      apply founded.snoc
      intro founder
      apply not_createdBy_singleton
      rintro created block rfl here
      rw [blockFor, if_pos here] at noBlock
      cases noBlock
  | created teeSig store isCommand here free signed =>
      rw [free] at founded
      intro founder
      rw [createdBy_snoc, or_iff_right (founded founder)]
      constructor
      · rintro ⟨event, member, _, _, _, _, isFounder⟩
        rw [List.mem_singleton.mp member] at isFounder
        exact isFounder.symm
      · intro isFounder
        exact ⟨_, List.mem_cons_self, _, _, rfl, here.symm, isFounder.symm⟩
  | interrupted repo edited reply code here accepted updated fails =>
      subst here
      rcases table.keyUpdate accepted updated with ⟨_, _, _, update⟩
      apply founded.snoc_of_update accepted.slot update.founderKey
      intro created block isGenesis
      cases isGenesis
  | accessAppended repo edited teeSig store here accepted updated signed =>
      subst here
      rcases table.keyUpdate accepted updated with ⟨_, _, _, update⟩
      apply founded.snoc_of_update accepted.slot update.founderKey
      intro created block isGenesis
      cases isGenesis
  | contributionAppended repo teeSig encryptedKey store here accepted signed =>
      subst here
      have same : (repo.append ((Block.contribution (call.contribution repo)).hash
        primitives)).founderKey = repo.founderKey := rfl
      apply founded.snoc_of_update accepted.slot same
      intro created block isGenesis
      cases isGenesis

section Runs

variable (primitives : Primitives) (store : KeyStore)

theorem run_foundedSlot (calls : List Call) (repId : Nat) :
    FoundedSlot ((trustedApplication primitives store).log calls) repId
      (((trustedApplication primitives store).run calls).slot repId) := by
  apply (trustedApplication primitives store).log_invariant
    (fun log state => FoundedSlot log repId (state.slot repId)) (fun _ => True)
  · change FoundedSlot [] repId ((initialState store).slot repId)
    rw [slot_initialState]
    rintro founder ⟨event, member, _⟩
    cases member
  · intro calls call _ founded
    exact (run_slotStep primitives store calls call repId).foundedSlot
      (run_tableInvariant primitives store calls) founded _
  · exact fun _ _ => trivial

/-- The stored field names the key that the repository was created with. -/
theorem run_createdBy_iff {calls : List Call} {repId : Nat} {repo : RepoMetadata}
    (found : ((trustedApplication primitives store).run calls).slot repId = some repo)
    (founder : CString) :
    CreatedBy ((trustedApplication primitives store).log calls) repId founder ↔
      founder = repo.founderKey := by
  have founded := run_foundedSlot primitives store calls repId
  rw [found] at founded
  exact founded founder

end Runs

/-! ## Keeping the founder -/

/-- Every repository still lists its founder among the admins. -/
def FounderKept (log : List TaEvent) (state : TaState) : Prop :=
  ∀ repId repo, state.slot repId = some repo →
    ∃ founder, CreatedBy log repId founder ∧ founder ∈ keysOf repo.adminKeys

/-- An accepted request to delete the founder from the admins. -/
def DeletesFounder (primitives : Primitives) (log : List TaEvent) (state : TaState) (call : Call) :
    Prop :=
  ∃ repo, call.AccessAccepted primitives state repo ∧ call.params.acMsg.op = opDelete ∧
    call.params.acMsg.role = roleAdmin ∧ CreatedBy log call.accessRepo call.params.acMsg.pubkey

/-- The stored founder is among the stored admins. -/
def FounderListed (repo : RepoMetadata) : Prop := repo.founderKey ∈ keysOf repo.adminKeys

/-- The same condition on the request, with the stored founder. -/
def DeletesStoredFounder (primitives : Primitives) (state : TaState) (call : Call) : Prop :=
  ∃ repo, call.AccessAccepted primitives state repo ∧ call.params.acMsg.op = opDelete ∧
    call.params.acMsg.role = roleAdmin ∧ call.params.acMsg.pubkey = repo.founderKey

/-- The only exit that loses the founder is the one that deletes it. -/
theorem KeyUpdate.founderListed_iff {outcomes : NodeOutcomes} {repo edited : RepoMetadata}
    {admins writers : KeyList} {op role : UInt32} {pubkey : CString} {answer : TeeResult Unit}
    (update : KeyUpdate outcomes repo admins writers op role pubkey answer edited)
    (invariant : RepoInvariant repo admins writers) (listed : FounderListed repo) :
    FounderListed edited ↔
      ¬ (op = opDelete ∧ role = roleAdmin ∧ pubkey = repo.founderKey) := by
  have isAdmin : repo.founderKey ∈ admins.nodes := by
    unfold FounderListed at listed
    rwa [invariant.adminKeys] at listed
  cases update with
  | addAdmin isOp isRole new allocated =>
      refine iff_of_true (List.mem_cons_of_mem _ isAdmin) ?_
      exact fun deletes => opAdd_ne_opDelete (isOp.symm.trans deletes.1)
  | addAdminLate isOp isRole new failed =>
      refine iff_of_true listed ?_
      exact fun deletes => opAdd_ne_opDelete (isOp.symm.trans deletes.1)
  | addWriter isOp isRole notWriter notAdmin allocated =>
      refine iff_of_true listed ?_
      exact fun deletes => opAdd_ne_opDelete (isOp.symm.trans deletes.1)
  | deleteAdmin isOp isRole present =>
      change repo.founderKey ∈ (admins.without pubkey).nodes ↔ _
      rw [invariant.adminsWellFormed.mem_without]
      constructor
      · rintro ⟨different, _⟩ ⟨_, _, same⟩
        exact different same.symm
      · intro other
        exact ⟨fun same => other ⟨isOp, isRole, same.symm⟩, isAdmin⟩
  | deleteWriter isOp isRole present =>
      refine iff_of_true listed ?_
      exact fun deletes => roleAdmin_ne_roleWriter (deletes.2.1.symm.trans isRole)
  | otherRole notAdmin notWriter =>
      refine iff_of_true listed ?_
      exact fun deletes => notAdmin deletes.2.1
  | refused code reason =>
      refine iff_of_true listed ?_
      rintro ⟨isOp, isRole, same⟩
      rcases reason with none | ⟨isAdd, _⟩
      · exact none (.deleteAdmin isOp isRole (same ▸ isAdmin))
      · exact opAdd_ne_opDelete (isAdd.symm.trans isOp)

/-- All repositories of a state list their founders. -/
def AllListed (state : TaState) : Prop :=
  ∀ repId repo, state.slot repId = some repo → FounderListed repo

theorem allListed_setSlot_iff {state : TaState} (listed : AllListed state) {repId : Nat}
    (inside : repId < maxRepoId) (repo : RepoMetadata) :
    AllListed (state.setSlot repId (some repo)) ↔ FounderListed repo := by
  constructor
  · intro all
    exact all repId repo (state.slot_setSlot_self inside _)
  · intro here other stored found
    by_cases same : other = repId
    · subst same
      rw [state.slot_setSlot_self inside] at found
      cases found
      exact here
    · rw [state.slot_setSlot_of_ne same] at found
      exact listed other stored found

theorem deletesStoredFounder_iff {primitives : Primitives} {state : TaState} {call : Call}
    {repo : RepoMetadata} (accepted : call.AccessAccepted primitives state repo) :
    DeletesStoredFounder primitives state call ↔
      call.params.acMsg.op = opDelete ∧ call.params.acMsg.role = roleAdmin ∧
        call.params.acMsg.pubkey = repo.founderKey := by
  constructor
  · rintro ⟨stored, again, deletes⟩
    have equal : some repo = some stored := accepted.slot.symm.trans again.slot
    cases equal
    exact deletes
  · intro deletes
    exact ⟨repo, accepted, deletes⟩

/-- One step keeps all founders exactly when it deletes none. -/
theorem Effect.allListed_iff {primitives : Primitives} {state after : TaState} {call : Call}
    {answer : TeeResult Output} (effect : Effect primitives state call answer after)
    (table : TableInvariant state) (listed : AllListed state) :
    AllListed after ↔ ¬ DeletesStoredFounder primitives state call := by
  have other : ∀ command, call.cmdId = command → command ≠ cmdAccessControl →
      ¬ DeletesStoredFounder primitives state call := by
    rintro command isCommand different ⟨repo, accepted, _⟩
    exact call.not_accessAccepted primitives state isCommand different repo accepted
  cases effect with
  | refused code store notAccess =>
      refine iff_of_true listed ?_
      rintro ⟨repo, accepted, _⟩
      exact notAccess repo accepted
  | hashRead repo signature store isCommand found signed =>
      exact iff_of_true listed (other _ isCommand (by decide))
  | keyRead pem pemLen isCommand => exact iff_of_true listed (other _ isCommand (by decide))
  | created teeSig store isCommand inside signed =>
      refine iff_of_true ?_ (other _ isCommand (by decide))
      exact (allListed_setSlot_iff listed inside _).mpr List.mem_cons_self
  | contributionAppended repo teeSig encryptedKey signedStore store accepted signed =>
      refine iff_of_true ?_ (other _ accepted.1 (by decide))
      exact (allListed_setSlot_iff listed accepted.inside _).mpr
        (listed _ repo accepted.slot)
  | interrupted repo edited reply code store accepted updated fails =>
      rcases table.keyUpdate accepted updated with ⟨_, _, invariant, update⟩
      rw [deletesStoredFounder_iff accepted,
        ← update.founderListed_iff invariant (listed _ repo accepted.slot)]
      exact allListed_setSlot_iff listed accepted.inside edited
  | accessAppended repo edited teeSig store accepted updated signed =>
      rcases table.keyUpdate accepted updated with ⟨_, _, invariant, update⟩
      rw [deletesStoredFounder_iff accepted,
        ← update.founderListed_iff invariant (listed _ repo accepted.slot)]
      exact allListed_setSlot_iff listed accepted.inside (edited.append _)

section Runs

variable (primitives : Primitives) (store : KeyStore)

/-- By the log or by the table, the condition on a reached state is the same. -/
theorem run_founderKept_iff (calls : List Call) :
    FounderKept ((trustedApplication primitives store).log calls)
        ((trustedApplication primitives store).run calls) ↔
      AllListed ((trustedApplication primitives store).run calls) := by
  constructor
  · intro kept repId repo found
    rcases kept repId repo found with ⟨founder, created, member⟩
    rwa [(run_createdBy_iff primitives store found founder).mp created] at member
  · intro listed repId repo found
    have created := (run_createdBy_iff primitives store found repo.founderKey).mpr rfl
    exact ⟨repo.founderKey, created, listed repId repo found⟩

theorem run_deletesFounder_iff (calls : List Call) (call : Call) :
    DeletesFounder primitives ((trustedApplication primitives store).log calls)
        ((trustedApplication primitives store).run calls) call ↔
      DeletesStoredFounder primitives ((trustedApplication primitives store).run calls) call := by
  have sameFounder : ∀ repo, call.AccessAccepted primitives
      ((trustedApplication primitives store).run calls) repo →
      (CreatedBy ((trustedApplication primitives store).log calls) call.accessRepo
        call.params.acMsg.pubkey ↔ call.params.acMsg.pubkey = repo.founderKey) :=
    fun _ accepted => run_createdBy_iff primitives store accepted.slot call.params.acMsg.pubkey
  constructor
  · rintro ⟨repo, accepted, isOp, isRole, created⟩
    exact ⟨repo, accepted, isOp, isRole, (sameFounder repo accepted).mp created⟩
  · rintro ⟨repo, accepted, isOp, isRole, isFounder⟩
    exact ⟨repo, accepted, isOp, isRole, (sameFounder repo accepted).mpr isFounder⟩

/-- The founder of every repository is an admin in all states of a run exactly
when no step of the run is an accepted request to delete a founder. -/
theorem founder_kept_iff_never_deleted (calls : List Call) :
    (∀ earlier, earlier <+: calls →
      FounderKept ((trustedApplication primitives store).log earlier)
        ((trustedApplication primitives store).run earlier)) ↔
    ∀ earlier call, earlier ++ [call] <+: calls →
      ¬ DeletesFounder primitives ((trustedApplication primitives store).log earlier)
        ((trustedApplication primitives store).run earlier) call := by
  have atStart : AllListed (trustedApplication primitives store).start := by
    intro repId repo found
    rw [show (trustedApplication primitives store).start = initialState store from rfl,
      slot_initialState] at found
    cases found
  have exact := (trustedApplication primitives store).throughout_iff_everyStep
    (run_tableInvariant primitives store) atStart
    (fun state call table listed =>
      (step_effect primitives state call table.free).allListed_iff table listed) calls
  simp only [run_founderKept_iff, run_deletesFounder_iff]
  exact exact

end Runs

/-- The founder asks for its own removal and gets it. -/
theorem founder_deleted_by_founder :
    ¬ FounderKept
      (Sample.application.log [Sample.creation,
        .requestAccess (Sample.outcomes 1) (Sample.access opDelete roleAdmin Sample.founder)])
      (Sample.application.run [Sample.creation,
        .requestAccess (Sample.outcomes 1) (Sample.access opDelete roleAdmin Sample.founder)]) := by
  intro kept
  have unmanaged : ((Sample.application.run [Sample.creation,
      .requestAccess (Sample.outcomes 1)
        (Sample.access opDelete roleAdmin Sample.founder)]).slot 0).map
      (fun repo => keysOf repo.adminKeys) = some [] := by decide +kernel
  rcases Option.map_eq_some_iff.mp unmanaged with ⟨repo, found, noAdmins⟩
  rcases kept 0 repo found with ⟨founder, _, member⟩
  rw [noAdmins] at member
  cases member

end Ta
end TrustChain

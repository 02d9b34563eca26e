import TrustChain.Ta.Invariant

namespace TrustChain
namespace Ta

open Library Tee

/-!
# What a failed command leaves behind

Every handler except `access_control` changes the repositories at its end or
undoes what it has done.  `access_control` edits the lists first and can still
fail afterwards: `Interrupts` describes the requests and outcomes for which
this happens, and they are the only ones.
-/

/-- Two versions of a repository that nobody can tell apart by its height, its
head or its members. -/
structure SameMetadata (old new : RepoMetadata) : Prop where
  blockHeight : new.blockHeight = old.blockHeight
  latestHash : new.latestHash = old.latestHash
  admins : ∀ key, key ∈ keysOf new.adminKeys ↔ key ∈ keysOf old.adminKeys
  writers : ∀ key, key ∈ keysOf new.writerKeys ↔ key ∈ keysOf old.writerKeys

/-- The same repositories in the same slots. -/
structure SameRepositories (before after : TaState) : Prop where
  repoNum : after.repoNum = before.repoNum
  table : ∀ repId, (∃ new, after.slot repId = some new) ↔ ∃ old, before.slot repId = some old
  metadata : ∀ repId old new, before.slot repId = some old → after.slot repId = some new →
    SameMetadata old new

theorem SameMetadata.refl (repo : RepoMetadata) : SameMetadata repo repo :=
  ⟨rfl, rfl, fun _ => Iff.rfl, fun _ => Iff.rfl⟩

/-- The key store is not part of any repository. -/
theorem SameRepositories.setKeyStore (state : TaState) (store : KeyStore) :
    SameRepositories state (state.setKeyStore store) := by
  refine ⟨rfl, fun _ => Iff.rfl, ?_⟩
  intro repId old new found again
  rw [TaState.slot_setKeyStore, found] at again
  cases again
  exact .refl old

/-- Replacing one repository is invisible exactly when the new version is. -/
theorem sameRepositories_setSlot_iff {state : TaState} {repId : Nat} {old new : RepoMetadata}
    (found : state.slot repId = some old) (store : KeyStore) :
    SameRepositories state ((state.setSlot repId (some new)).setKeyStore store) ↔
      SameMetadata old new := by
  have stored : (state.setSlot repId (some new)).slot repId = some new :=
    state.slot_setSlot_self (TaState.inside_of_slot found) _
  constructor
  · intro same
    exact same.metadata repId old new found stored
  · intro same
    refine ⟨rfl, ?_, ?_⟩
    · intro other
      rw [TaState.slot_setKeyStore]
      by_cases here : other = repId
      · subst here
        rw [stored]
        exact ⟨fun _ => ⟨old, found⟩, fun _ => ⟨new, rfl⟩⟩
      · rw [state.slot_setSlot_of_ne here]
    · intro other before after was now
      rw [TaState.slot_setKeyStore] at now
      by_cases here : other = repId
      · subst here
        rw [found] at was
        rw [stored] at now
        cases was
        cases now
        exact same
      · rw [state.slot_setSlot_of_ne here, was] at now
        cases now
        exact .refl before

/-! ## Edits that are not followed by a block -/

/-- An admin is to be added who is a writer so far, and the new node cannot be
allocated: the writer entry is gone by then. -/
def LosesWriter (outcomes : NodeOutcomes) (admins writers : List CString) (op role : UInt32)
    (pubkey : CString) : Prop :=
  op = opAdd ∧ role = roleAdmin ∧ pubkey ∉ admins ∧ pubkey ∈ writers ∧ ¬ outcomes.Succeeds

/-- The lists are changed as requested, but the block for it is never made. -/
def EditsUnsealed (call : Call) (admins writers : List CString) (op role : UInt32)
    (pubkey : CString) : Prop :=
  Edits admins writers op role pubkey ∧ (op = opAdd → call.outcomes.node.Succeeds) ∧ ¬ call.Seals

/-- An accepted `access_control` request that fails after its lists have been
changed. -/
def Interrupts (primitives : Primitives) (state : TaState) (call : Call) : Prop :=
  ∃ repo, call.AccessAccepted primitives state repo ∧
    (LosesWriter call.outcomes.node (keysOf repo.adminKeys) (keysOf repo.writerKeys)
        call.params.acMsg.op call.params.acMsg.role call.params.acMsg.pubkey ∨
      EditsUnsealed call (keysOf repo.adminKeys) (keysOf repo.writerKeys)
        call.params.acMsg.op call.params.acMsg.role call.params.acMsg.pubkey)

theorem interrupts_iff {primitives : Primitives} {state : TaState} {call : Call}
    {repo : RepoMetadata} {admins writers : KeyList}
    (accepted : call.AccessAccepted primitives state repo)
    (invariant : RepoInvariant repo admins writers) :
    Interrupts primitives state call ↔
      LosesWriter call.outcomes.node admins.nodes writers.nodes call.params.acMsg.op
          call.params.acMsg.role call.params.acMsg.pubkey ∨
        EditsUnsealed call admins.nodes writers.nodes call.params.acMsg.op
          call.params.acMsg.role call.params.acMsg.pubkey := by
  constructor
  · rintro ⟨stored, again, interrupted⟩
    have equal : some repo = some stored := accepted.slot.symm.trans again.slot
    cases equal
    rw [invariant.adminKeys, invariant.writerKeys] at interrupted
    exact interrupted
  · intro interrupted
    refine ⟨repo, accepted, ?_⟩
    rw [invariant.adminKeys, invariant.writerKeys]
    exact interrupted

/-- A change that shows in the members of one list. -/
private theorem not_same_of_admin {old new : RepoMetadata} (key : CString)
    (differs : ¬ (key ∈ keysOf new.adminKeys ↔ key ∈ keysOf old.adminKeys)) :
    ¬ SameMetadata old new :=
  fun same => differs (same.admins key)

private theorem not_same_of_writer {old new : RepoMetadata} (key : CString)
    (differs : ¬ (key ∈ keysOf new.writerKeys ↔ key ∈ keysOf old.writerKeys)) :
    ¬ SameMetadata old new :=
  fun same => differs (same.writers key)

/-- One exit of the nested branches, followed by a failure unless it is one
itself: the members stay the same except in the two situations above. -/
theorem KeyUpdate.same_iff {call : Call} {repo edited : RepoMetadata} {admins writers : KeyList}
    {op role : UInt32} {pubkey : CString} {answer : TeeResult Unit}
    (update : KeyUpdate call.outcomes.node repo admins writers op role pubkey answer edited)
    (invariant : RepoInvariant repo admins writers) (fails : answer = .ok () → ¬ call.Seals) :
    SameMetadata repo edited ↔
      ¬ (LosesWriter call.outcomes.node admins.nodes writers.nodes op role pubkey ∨
        EditsUnsealed call admins.nodes writers.nodes op role pubkey) := by
  have adminKeys := invariant.keysOf_adminKeys
  have writerKeys := invariant.keysOf_writerKeys
  cases update with
  | addAdmin isOp isRole new allocated =>
      refine iff_of_false (not_same_of_admin pubkey ?_) (not_not.mpr (Or.inr ?_))
      · exact fun same => new (adminKeys ▸ same.mp List.mem_cons_self)
      · exact ⟨.addAdmin isOp isRole new, fun _ => allocated, fails rfl⟩
  | addAdminLate isOp isRole new failed =>
      by_cases wasWriter : pubkey ∈ writers.nodes
      · refine iff_of_false (not_same_of_writer pubkey ?_) (not_not.mpr (Or.inl ?_))
        · intro same
          have still := same.mpr (by rw [writerKeys]; exact wasWriter)
          exact invariant.writersWellFormed.not_mem_without pubkey still
        · exact ⟨isOp, isRole, new, wasWriter, failed⟩
      · have kept : writers.without pubkey = writers := if_neg wasWriter
        refine iff_of_true ⟨rfl, rfl, fun _ => Iff.rfl, fun key => ?_⟩ ?_
        · rw [writerKeys, kept]; rfl
        · rintro (⟨_, _, _, isWriter, _⟩ | ⟨_, allocated, _⟩)
          · exact wasWriter isWriter
          · exact failed (allocated isOp)
  | addWriter isOp isRole notWriter notAdmin allocated =>
      refine iff_of_false (not_same_of_writer pubkey ?_) (not_not.mpr (Or.inr ?_))
      · exact fun same => notWriter (writerKeys ▸ same.mp List.mem_cons_self)
      · exact ⟨.addWriter isOp isRole notWriter notAdmin, fun _ => allocated, fails rfl⟩
  | deleteAdmin isOp isRole present =>
      refine iff_of_false (not_same_of_admin pubkey ?_) (not_not.mpr (Or.inr ?_))
      · intro same
        have still := same.mpr (by rw [adminKeys]; exact present)
        exact invariant.adminsWellFormed.not_mem_without pubkey still
      · exact ⟨.deleteAdmin isOp isRole present,
          fun isAdd => absurd (isAdd.symm.trans isOp) opAdd_ne_opDelete, fails rfl⟩
  | deleteWriter isOp isRole present =>
      refine iff_of_false (not_same_of_writer pubkey ?_) (not_not.mpr (Or.inr ?_))
      · intro same
        have still := same.mpr (by rw [writerKeys]; exact present)
        exact invariant.writersWellFormed.not_mem_without pubkey still
      · exact ⟨.deleteWriter isOp isRole present,
          fun isAdd => absurd (isAdd.symm.trans isOp) opAdd_ne_opDelete, fails rfl⟩
  | otherRole notAdmin notWriter =>
      refine iff_of_true (.refl repo) ?_
      rintro (⟨_, isRole, _⟩ | ⟨edits, _⟩)
      · exact notAdmin isRole
      · exact not_edits_of_otherRole notAdmin notWriter edits
  | refused code reason =>
      refine iff_of_true (.refl repo) ?_
      rintro (⟨isOp, isRole, new, _, failed⟩ | ⟨edits, allocated, _⟩)
      · rcases reason with none | ⟨_, otherRole, _⟩
        · exact none (.addAdmin isOp isRole new)
        · exact absurd (isRole.symm.trans otherRole) roleAdmin_ne_roleWriter
      · rcases reason with none | ⟨isOp, _, failed⟩
        · exact none edits
        · exact failed (allocated isOp)

/-- A block was appended, so nothing was interrupted. -/
theorem not_interrupts_of_appended {primitives : Primitives} {state : TaState} {call : Call}
    {repo edited : RepoMetadata} {data teeSig : CString} {before after : KeyStore}
    (table : TableInvariant state) (accepted : call.AccessAccepted primitives state repo)
    (updated : call.updateKeys repo = (.ok (), edited))
    (signed : Signed primitives call.outcomes data before teeSig after) :
    ¬ Interrupts primitives state call := by
  rcases table.keyUpdate accepted updated with ⟨admins, writers, invariant, update⟩
  rw [interrupts_iff accepted invariant]
  rintro (⟨isOp, isRole, new, _, failed⟩ | ⟨_, _, unsealed⟩)
  · cases update with
    | addAdmin _ _ _ allocated => exact failed allocated
    | addWriter _ otherRole => exact absurd (isRole.symm.trans otherRole) roleAdmin_ne_roleWriter
    | deleteAdmin otherOp => exact absurd (isOp.symm.trans otherOp) opAdd_ne_opDelete
    | deleteWriter otherOp => exact absurd (isOp.symm.trans otherOp) opAdd_ne_opDelete
    | otherRole notAdmin => exact notAdmin isRole
  · exact unsealed ⟨signed.hashed, signed.signs⟩

/-! ## Failed commands -/

/-- What a failed command has to leave as it was. -/
def ErrorAtomic (before after : TaState) (answer : TeeResult Output) : Prop :=
  (∃ code, answer = .error code) → SameRepositories before after

private theorem errorAtomic_of_ok (before after : TaState) (output : Output) :
    ErrorAtomic before after (.ok output) := by
  rintro ⟨code, failed⟩
  cases failed

theorem Effect.errorAtomic_iff {primitives : Primitives} {state after : TaState} {call : Call}
    {answer : TeeResult Output} (effect : Effect primitives state call answer after)
    (table : TableInvariant state) :
    ErrorAtomic state after answer ↔ ¬ Interrupts primitives state call := by
  have other : ∀ command, call.cmdId = command → command ≠ cmdAccessControl →
      ¬ Interrupts primitives state call := by
    rintro command isCommand different ⟨repo, accepted, _⟩
    exact call.not_accessAccepted primitives state isCommand different repo accepted
  cases effect with
  | refused code store notAccess =>
      refine iff_of_true (fun _ => .setKeyStore state store) ?_
      rintro ⟨repo, accepted, _⟩
      exact notAccess repo accepted
  | hashRead repo signature store isCommand found signed =>
      exact iff_of_true (errorAtomic_of_ok _ _ _) (other _ isCommand (by decide))
  | keyRead pem pemLen isCommand =>
      exact iff_of_true (errorAtomic_of_ok _ _ _) (other _ isCommand (by decide))
  | created teeSig store isCommand inside signed =>
      exact iff_of_true (errorAtomic_of_ok _ _ _) (other _ isCommand (by decide))
  | contributionAppended repo teeSig encryptedKey signedStore store accepted signed =>
      exact iff_of_true (errorAtomic_of_ok _ _ _) (other _ accepted.1 (by decide))
  | accessAppended repo edited teeSig store accepted updated signed =>
      exact iff_of_true (errorAtomic_of_ok _ _ _)
        (not_interrupts_of_appended table accepted updated signed)
  | interrupted repo edited reply code store accepted updated fails =>
      rcases table.keyUpdate accepted updated with ⟨admins, writers, invariant, update⟩
      rw [interrupts_iff accepted invariant, ← update.same_iff invariant fails,
        ← sameRepositories_setSlot_iff accepted.slot store]
      exact ⟨fun atomic => atomic ⟨code, rfl⟩, fun kept _ => kept⟩

/-- In every reached state, a command that fails has changed no repository,
unless it is an `access_control` request that is interrupted after its edit;
then it has. -/
theorem error_atomic_iff_not_interrupts (primitives : Primitives) (store : KeyStore)
    (calls : List Call) (call : Call) :
    ErrorAtomic ((trustedApplication primitives store).run calls)
        ((trustedApplication primitives store).next
          ((trustedApplication primitives store).run calls) call)
        ((trustedApplication primitives store).answer
          ((trustedApplication primitives store).run calls) call) ↔
      ¬ Interrupts primitives ((trustedApplication primitives store).run calls) call :=
  (run_effect primitives store calls call).errorAtomic_iff
    (run_tableInvariant primitives store calls)

/-- The founder adds a writer, and the hash of the block cannot be computed. -/
def Sample.unhashedAddition : Call :=
  .requestAccess { outcomes 1 with hash := ⟨.error .outOfMemory, .ok ()⟩ }
    (access opAdd roleWriter newcomer)

/-- The request fails, but the writer has been added. -/
theorem addWriter_error_not_atomic :
    ¬ ErrorAtomic (Sample.application.run [Sample.creation])
      (Sample.application.next (Sample.application.run [Sample.creation]) Sample.unhashedAddition)
      (Sample.application.answer (Sample.application.run [Sample.creation])
        Sample.unhashedAddition) := by
  intro atomic
  have same := atomic ⟨.outOfMemory, by decide +kernel⟩
  have before : ((Sample.application.run [Sample.creation]).slot 0).map
      (fun repo => keysOf repo.writerKeys) = some [] := by decide +kernel
  have after : ((Sample.application.next (Sample.application.run [Sample.creation])
      Sample.unhashedAddition).slot 0).map
      (fun repo => keysOf repo.writerKeys) = some [Sample.newcomer] := by decide +kernel
  rcases Option.map_eq_some_iff.mp before with ⟨old, foundOld, oldWriters⟩
  rcases Option.map_eq_some_iff.mp after with ⟨new, foundNew, newWriters⟩
  have writers := (same.metadata 0 old new foundOld foundNew).writers Sample.newcomer
  rw [oldWriters, newWriters] at writers
  exact absurd (writers.mp List.mem_cons_self) List.not_mem_nil

end Ta
end TrustChain

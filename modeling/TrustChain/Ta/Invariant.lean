import TrustChain.Ta.Effects

namespace TrustChain
namespace Ta

open Library Tee

/-!
# What holds in every reached state

The slots in front of `repo_num` are the occupied ones, and each repository has
two allocated lists without repetitions, which share no key.  Removal takes out
the first match only, so it is the absence of repetitions that makes it remove
the key.
-/

/-! ## Lists -/

namespace KeyList

/-- No key twice, and a counter that says how many there are. -/
structure WellFormed (list : KeyList) : Prop where
  nodup : list.nodes.Nodup
  count : list.count = UInt32.ofNat list.nodes.length

theorem wellFormed_nil : WellFormed ⟨[], 0⟩ :=
  ⟨List.nodup_nil, rfl⟩

theorem wellFormed_singleton (key : CString) : WellFormed ⟨[key], 1⟩ :=
  ⟨List.nodup_singleton key, rfl⟩

theorem WellFormed.push {list : KeyList} (wellFormed : list.WellFormed) {key : CString}
    (new : key ∉ list.nodes) : (list.push key).WellFormed where
  nodup := List.nodup_cons.mpr ⟨new, wellFormed.nodup⟩
  count := by
    change list.count + 1 = UInt32.ofNat (list.nodes.length + 1)
    rw [wellFormed.count, UInt32.ofNat_add]
    rfl

theorem WellFormed.without {list : KeyList} (wellFormed : list.WellFormed) (key : CString) :
    (list.without key).WellFormed where
  nodup := by
    rw [nodes_without]
    exact wellFormed.nodup.erase key
  count := by
    by_cases found : key ∈ list.nodes
    · have positive : 1 ≤ list.nodes.length := List.length_pos_of_mem found
      rw [KeyList.without, if_pos found, List.length_erase_of_mem found, UInt32.ofNat_sub positive,
        wellFormed.count]
      rfl
    · rw [KeyList.without, if_neg found]
      exact wellFormed.count

@[simp] theorem mem_push {list : KeyList} {key other : CString} :
    other ∈ (list.push key).nodes ↔ other = key ∨ other ∈ list.nodes :=
  List.mem_cons

theorem WellFormed.mem_without {list : KeyList} (wellFormed : list.WellFormed)
    {key other : CString} :
    other ∈ (list.without key).nodes ↔ other ≠ key ∧ other ∈ list.nodes := by
  rw [nodes_without]
  exact wellFormed.nodup.mem_erase_iff

theorem WellFormed.not_mem_without {list : KeyList} (wellFormed : list.WellFormed)
    (key : CString) : key ∉ (list.without key).nodes :=
  fun member => (wellFormed.mem_without.mp member).1 rfl

theorem WellFormed.mem_without_of_ne {list : KeyList} (wellFormed : list.WellFormed)
    {key other : CString} (different : other ≠ key) :
    other ∈ (list.without key).nodes ↔ other ∈ list.nodes :=
  wellFormed.mem_without.trans (and_iff_right different)

theorem mem_push_of_ne {list : KeyList} {key other : CString} (different : other ≠ key) :
    other ∈ (list.push key).nodes ↔ other ∈ list.nodes :=
  mem_push.trans (or_iff_right different)

end KeyList

/-! ## Repositories -/

/-- A repository with the lists its two pointers lead to. -/
structure RepoInvariant (repo : RepoMetadata) (admins writers : KeyList) : Prop where
  adminKeys : repo.adminKeys = some admins
  writerKeys : repo.writerKeys = some writers
  adminsWellFormed : admins.WellFormed
  writersWellFormed : writers.WellFormed
  disjoint : ∀ key ∈ admins.nodes, key ∉ writers.nodes
  hashLength : repo.latestHash.length = maxHashLength

theorem RepoInvariant.keysOf_adminKeys {repo : RepoMetadata} {admins writers : KeyList}
    (invariant : RepoInvariant repo admins writers) : keysOf repo.adminKeys = admins.nodes := by
  rw [invariant.adminKeys, keysOf_some]

theorem RepoInvariant.keysOf_writerKeys {repo : RepoMetadata} {admins writers : KeyList}
    (invariant : RepoInvariant repo admins writers) : keysOf repo.writerKeys = writers.nodes := by
  rw [invariant.writerKeys, keysOf_some]

theorem newRepository_invariant (primitives : Primitives) (adminKey : CString) (data : List UInt8) :
    RepoInvariant (newRepository adminKey (hashText primitives data)) ⟨[adminKey], 1⟩ ⟨[], 0⟩ where
  adminKeys := rfl
  writerKeys := rfl
  adminsWellFormed := KeyList.wellFormed_singleton adminKey
  writersWellFormed := KeyList.wellFormed_nil
  disjoint := fun _ _ => List.not_mem_nil
  hashLength := length_hashText primitives data

theorem RepoInvariant.append {repo : RepoMetadata} {admins writers : KeyList}
    (invariant : RepoInvariant repo admins writers) (primitives : Primitives) (data : List UInt8) :
    RepoInvariant (repo.append (hashText primitives data)) admins writers :=
  { invariant with hashLength := length_hashText primitives data }

/-- Every exit of the nested branches keeps the invariant, with one pair of
lists or another. -/
theorem KeyUpdate.invariant {outcomes : NodeOutcomes} {repo edited : RepoMetadata}
    {admins writers : KeyList} {op role : UInt32} {pubkey : CString} {answer : TeeResult Unit}
    (update : KeyUpdate outcomes repo admins writers op role pubkey answer edited)
    (before : RepoInvariant repo admins writers) :
    ∃ newAdmins newWriters, RepoInvariant edited newAdmins newWriters := by
  cases update with
  | addAdmin isOp isRole new allocated =>
      refine ⟨admins.push pubkey, writers.without pubkey, rfl, rfl,
        before.adminsWellFormed.push new, before.writersWellFormed.without pubkey, ?_,
        before.hashLength⟩
      intro key member outside
      have writer := before.writersWellFormed.mem_without.mp outside
      rcases KeyList.mem_push.mp member with same | older
      · exact writer.1 same
      · exact before.disjoint key older writer.2
  | addAdminLate isOp isRole new failed =>
      refine ⟨admins, writers.without pubkey, before.adminKeys, rfl, before.adminsWellFormed,
        before.writersWellFormed.without pubkey, ?_, before.hashLength⟩
      intro key member outside
      exact before.disjoint key member (before.writersWellFormed.mem_without.mp outside).2
  | addWriter isOp isRole notWriter notAdmin allocated =>
      refine ⟨admins, writers.push pubkey, before.adminKeys, rfl, before.adminsWellFormed,
        before.writersWellFormed.push notWriter, ?_, before.hashLength⟩
      intro key member inside
      rcases KeyList.mem_push.mp inside with same | older
      · exact notAdmin (same ▸ member)
      · exact before.disjoint key member older
  | deleteAdmin isOp isRole present =>
      refine ⟨admins.without pubkey, writers, rfl, before.writerKeys,
        before.adminsWellFormed.without pubkey, before.writersWellFormed, ?_, before.hashLength⟩
      intro key member
      exact before.disjoint key (before.adminsWellFormed.mem_without.mp member).2
  | deleteWriter isOp isRole present =>
      refine ⟨admins, writers.without pubkey, before.adminKeys, rfl, before.adminsWellFormed,
        before.writersWellFormed.without pubkey, ?_, before.hashLength⟩
      intro key member inside
      exact before.disjoint key member (before.writersWellFormed.mem_without.mp inside).2
  | otherRole notAdmin notWriter => exact ⟨admins, writers, before⟩
  | refused code reason => exact ⟨admins, writers, before⟩

/-! ## The table -/

structure TableInvariant (state : TaState) : Prop where
  bounded : state.repoNum.toNat ≤ maxRepoId
  occupied : ∀ repId, (∃ repo, state.slot repId = some repo) ↔ repId < state.repoNum.toNat
  repositories : ∀ repId repo, state.slot repId = some repo →
    ∃ admins writers, RepoInvariant repo admins writers

@[simp] theorem slot_initialState (store : KeyStore) (repId : Nat) :
    (initialState store).slot repId = none := by
  unfold TaState.slot
  by_cases inside : repId < maxRepoId
  · rw [dif_pos inside]; rfl
  · rw [dif_neg inside]

namespace TableInvariant

theorem initialState (store : KeyStore) : TableInvariant (initialState store) := by
  refine ⟨Nat.zero_le maxRepoId, ?_, ?_⟩
  · intro repId
    constructor
    · rintro ⟨repo, found⟩
      rw [slot_initialState] at found
      cases found
    · intro below
      exact absurd below (Nat.not_lt_zero repId)
  · intro repId repo found
    rw [slot_initialState] at found
    cases found

theorem setKeyStore {state : TaState} (table : TableInvariant state) (store : KeyStore) :
    TableInvariant (state.setKeyStore store) :=
  ⟨table.bounded, table.occupied, table.repositories⟩

/-- The slot that `init_repo` takes next is free. -/
theorem free {state : TaState} (table : TableInvariant state) :
    state.slot state.repoNum.toNat = none := by
  cases found : state.slot state.repoNum.toNat with
  | none => rfl
  | some repo =>
      exact absurd ((table.occupied _).mp ⟨repo, found⟩) (Nat.lt_irrefl _)

/-- Replacing a repository that is there. -/
theorem replace {state : TaState} (table : TableInvariant state) {repId : Nat}
    {repo edited : RepoMetadata} {admins writers : KeyList}
    (found : state.slot repId = some repo) (invariant : RepoInvariant edited admins writers) :
    TableInvariant (state.setSlot repId (some edited)) := by
  have inside := TaState.inside_of_slot found
  refine ⟨table.bounded, ?_, ?_⟩
  · intro other
    by_cases same : other = repId
    · subst same
      rw [state.slot_setSlot_self inside]
      exact ⟨fun _ => (table.occupied other).mp ⟨repo, found⟩, fun _ => ⟨edited, rfl⟩⟩
    · rw [state.slot_setSlot_of_ne same]
      exact table.occupied other
  · intro other stored
    by_cases same : other = repId
    · subst same
      rw [state.slot_setSlot_self inside]
      intro isEdited
      cases isEdited
      exact ⟨admins, writers, invariant⟩
    · rw [state.slot_setSlot_of_ne same]
      exact table.repositories other stored

theorem toNat_repoNum_add_one {state : TaState} (below : state.repoNum.toNat < maxRepoId) :
    (state.repoNum + 1).toNat = state.repoNum.toNat + 1 := by
  have small : state.repoNum.toNat + 1 < 2 ^ 32 := by
    have bound : maxRepoId = 1000 := rfl
    omega
  rw [UInt32.toNat_add]
  exact Nat.mod_eq_of_lt small

/-- Adding a repository in the next slot. -/
theorem create {state : TaState} (table : TableInvariant state) {repo : RepoMetadata}
    {admins writers : KeyList} (below : state.repoNum.toNat < maxRepoId)
    (invariant : RepoInvariant repo admins writers) :
    TableInvariant { state.setSlot state.repoNum.toNat (some repo) with
      repoNum := state.repoNum + 1 } := by
  have next := toNat_repoNum_add_one below
  refine ⟨by rw [next]; exact below, ?_, ?_⟩
  · intro other
    rw [next]
    change (∃ stored, (state.setSlot state.repoNum.toNat (some repo)).slot other = some stored) ↔ _
    by_cases same : other = state.repoNum.toNat
    · rw [same, state.slot_setSlot_self below]
      exact ⟨fun _ => Nat.lt_succ_self _, fun _ => ⟨repo, rfl⟩⟩
    · rw [state.slot_setSlot_of_ne same, table.occupied other]
      omega
  · intro other stored
    change (state.setSlot state.repoNum.toNat (some repo)).slot other = some stored → _
    by_cases same : other = state.repoNum.toNat
    · rw [same, state.slot_setSlot_self below]
      intro isNew
      cases isNew
      exact ⟨admins, writers, invariant⟩
    · rw [state.slot_setSlot_of_ne same]
      exact table.repositories other stored

end TableInvariant

/-! ## Steps and runs -/

/-- The lists of the repository that an accepted request names, and what the
nested branches do to them. -/
theorem TableInvariant.keyUpdate {primitives : Primitives} {state : TaState} {call : Call}
    {repo edited : RepoMetadata} {answer : TeeResult Unit} (table : TableInvariant state)
    (accepted : call.AccessAccepted primitives state repo)
    (result : call.updateKeys repo = (answer, edited)) :
    ∃ admins writers, RepoInvariant repo admins writers ∧
      KeyUpdate call.outcomes.node repo admins writers call.params.acMsg.op call.params.acMsg.role
        call.params.acMsg.pubkey answer edited := by
  rcases table.repositories _ _ accepted.slot with ⟨admins, writers, invariant⟩
  have update := updateKeySets_cases call.outcomes.node invariant.adminKeys invariant.writerKeys
    accepted.2.op call.params.acMsg.role call.params.acMsg.pubkey
  change KeyUpdate _ _ _ _ _ _ _ (call.updateKeys repo).1 (call.updateKeys repo).2 at update
  rw [result] at update
  exact ⟨admins, writers, invariant, update⟩

theorem Effect.tableInvariant {primitives : Primitives} {state after : TaState} {call : Call}
    {answer : TeeResult Output} (effect : Effect primitives state call answer after)
    (table : TableInvariant state) : TableInvariant after := by
  cases effect with
  | refused code store notAccess => exact table.setKeyStore store
  | hashRead repo signature store isCommand found signed => exact table.setKeyStore store
  | keyRead pem pemLen isCommand => exact table
  | created teeSig store isCommand inside signed =>
      exact (table.create inside (newRepository_invariant primitives call.params.adminKey
        _)).setKeyStore store
  | interrupted repo edited reply code store accepted updated fails =>
      rcases table.keyUpdate accepted updated with ⟨_, _, before, update⟩
      rcases update.invariant before with ⟨admins, writers, invariant⟩
      exact (table.replace accepted.slot invariant).setKeyStore store
  | accessAppended repo edited teeSig store accepted updated signed =>
      rcases table.keyUpdate accepted updated with ⟨_, _, before, update⟩
      rcases update.invariant before with ⟨admins, writers, invariant⟩
      exact (table.replace accepted.slot (invariant.append primitives _)).setKeyStore store
  | contributionAppended repo teeSig encryptedKey signedStore store accepted signed =>
      rcases table.repositories _ _ accepted.slot with ⟨admins, writers, invariant⟩
      exact (table.replace accepted.slot (invariant.append primitives _)).setKeyStore store

section Runs

variable (primitives : Primitives) (store : KeyStore)

theorem step_tableInvariant (state : TaState) (call : Call) (table : TableInvariant state) :
    TableInvariant ((trustedApplication primitives store).next state call) :=
  (step_effect primitives state call table.free).tableInvariant table

theorem run_tableInvariant (calls : List Call) :
    TableInvariant ((trustedApplication primitives store).run calls) :=
  (trustedApplication primitives store).run_invariant (.initialState store)
    (step_tableInvariant primitives store) calls

/-- Each step of a run has one of the effects. -/
theorem run_effect (calls : List Call) (call : Call) :
    Effect primitives ((trustedApplication primitives store).run calls) call
      ((trustedApplication primitives store).answer
        ((trustedApplication primitives store).run calls) call)
      ((trustedApplication primitives store).next
        ((trustedApplication primitives store).run calls) call) :=
  step_effect primitives _ call (run_tableInvariant primitives store calls).free

end Runs

end Ta
end TrustChain

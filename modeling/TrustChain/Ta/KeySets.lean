import TrustChain.Ta.Authority

namespace TrustChain
namespace Ta

open Library Tee

/-!
# What an accepted request does to the key sets

A block of `access_control` names an operation, a role and a key.  The branches
of the handler cover two roles; a request for any other role falls through all
of them, changes no list, and gets its block all the same.

The lists themselves would take a key twice.  That none ever does is due to the
look-ups in front of the additions, and it is what makes a removal final.
-/

/-! ## Successful requests -/

/-- What a successful `access_control` has found and left behind. -/
theorem run_accessControl_ok (primitives : Primitives) (store : KeyStore) {calls : List Call}
    {call : Call} (isCommand : call.cmdId = cmdAccessControl) {output : Output}
    (answered : (trustedApplication primitives store).answer
      ((trustedApplication primitives store).run calls) call = .ok output) :
    ∃ repo edited admins writers blockHash,
      call.AccessAccepted primitives ((trustedApplication primitives store).run calls) repo ∧
      RepoInvariant repo admins writers ∧
      KeyUpdate call.outcomes.node repo admins writers call.params.acMsg.op call.params.acMsg.role
        call.params.acMsg.pubkey (.ok ()) edited ∧
      ((trustedApplication primitives store).next
        ((trustedApplication primitives store).run calls) call).slot call.accessRepo =
          some (edited.append blockHash) := by
  have table := run_tableInvariant primitives store calls
  have effect := run_effect primitives store calls call
  rw [answered] at effect
  generalize (trustedApplication primitives store).next
    ((trustedApplication primitives store).run calls) call = after at effect ⊢
  cases effect with
  | hashRead repo signature store isRead found signed =>
      exact absurd (isCommand.symm.trans isRead) (by decide)
  | keyRead pem pemLen isKey => exact absurd (isCommand.symm.trans isKey) (by decide)
  | created teeSig store isInit inside signed =>
      exact absurd (isCommand.symm.trans isInit) (by decide)
  | contributionAppended repo teeSig encryptedKey signedStore store accepted signed =>
      exact absurd (isCommand.symm.trans accepted.1) (by decide)
  | accessAppended repo edited teeSig store accepted updated signed =>
      rcases table.keyUpdate accepted updated with ⟨admins, writers, invariant, update⟩
      refine ⟨repo, edited, admins, writers, (Block.access (call.access edited)).hash primitives,
        accepted, invariant, update, ?_⟩
      rw [TaState.slot_setKeyStore]
      exact TaState.slot_setSlot_self _ accepted.inside _

@[simp] theorem MemberList.keysIn_append (list : MemberList) (repo : RepoMetadata)
    (blockHash : CString) : list.keysIn (repo.append blockHash) = list.keysIn repo := by
  cases list <;> rfl

/-! ## Doing what the block records -/

/-- The key enters the list or leaves it, as the operation says.  The only other
change is that a new admin is no longer a writer. -/
structure Flips (list : MemberList) (op : UInt32) (pubkey : CString)
    (before after : RepoMetadata) : Prop where
  added : op = opAdd → pubkey ∉ list.keysIn before ∧
    (list = .writers → pubkey ∉ MemberList.admins.keysIn before) ∧ pubkey ∈ list.keysIn after
  deleted : op = opDelete → pubkey ∈ list.keysIn before ∧ pubkey ∉ list.keysIn after
  otherList : ∀ other, other ≠ list →
    (pubkey ∈ other.keysIn after ↔ pubkey ∈ other.keysIn before ∧ ¬ (op = opAdd ∧ list = .admins))
  otherKeys : ∀ key, key ≠ pubkey → ∀ other : MemberList,
    key ∈ other.keysIn after ↔ key ∈ other.keysIn before

/-- The request names a list, and the key has changed sides there. -/
def DoneAsRecorded (msg : AccessControlMessage) (before after : RepoMetadata) : Prop :=
  ∃ list : MemberList, msg.role = list.role ∧ Flips list msg.op msg.pubkey before after

/-- Somebody was granted or revoked something. -/
def GrantsOrRevokes (before after : RepoMetadata) : Prop :=
  ∃ (list : MemberList) (key : CString), ¬ (key ∈ list.keysIn after ↔ key ∈ list.keysIn before)

theorem Flips.grantsOrRevokes {list : MemberList} {op : UInt32} {pubkey : CString}
    {before after : RepoMetadata} (flips : Flips list op pubkey before after)
    (allowed : op = opAdd ∨ op = opDelete) : GrantsOrRevokes before after := by
  refine ⟨list, pubkey, fun same => ?_⟩
  rcases allowed with isAdd | isDelete
  · exact (flips.added isAdd).1 (same.mp (flips.added isAdd).2.2)
  · exact (flips.deleted isDelete).2 (same.mpr (flips.deleted isDelete).1)

/-- A deletion flips its list when it takes the key out of it and changes nothing else. -/
theorem Flips.of_deletion {list : MemberList} {op : UInt32} {pubkey : CString}
    {before after : RepoMetadata} (isDelete : op = opDelete)
    (present : pubkey ∈ list.keysIn before) (gone : pubkey ∉ list.keysIn after)
    (kept : ∀ key, key ≠ pubkey → (key ∈ list.keysIn after ↔ key ∈ list.keysIn before))
    (apart : ∀ other, other ≠ list → other.keysIn after = other.keysIn before) :
    Flips list op pubkey before after := by
  have notAdd : op ≠ opAdd := fun isAdd => opAdd_ne_opDelete (isAdd.symm.trans isDelete)
  refine ⟨fun isAdd => absurd isAdd notAdd, fun _ => ⟨present, gone⟩, fun other different => ?_,
    fun key different other => ?_⟩
  · rw [apart other different]
    exact (and_iff_left fun both => notAdd both.1).symm
  · by_cases same : other = list
    · rw [same]
      exact kept key different
    · rw [apart other same]

/-- The two lists go by different roles. -/
theorem MemberList.role_injective {first second : MemberList} (same : first.role = second.role) :
    first = second := by
  cases first with
  | admins =>
      cases second with
      | admins => rfl
      | writers => exact absurd same roleAdmin_ne_roleWriter
  | writers =>
      cases second with
      | admins => exact absurd same.symm roleAdmin_ne_roleWriter
      | writers => rfl

section Updates

variable {outcomes : NodeOutcomes} {repo edited : RepoMetadata} {admins writers : KeyList}
  {op role : UInt32} {pubkey : CString}

/-- A successful edit for one of the two roles flips the list of that role. -/
theorem KeyUpdate.flips
    (update : KeyUpdate outcomes repo admins writers op role pubkey (.ok ()) edited)
    (invariant : RepoInvariant repo admins writers) {list : MemberList}
    (named : role = list.role) : Flips list op pubkey repo edited := by
  have isAdmin : ∀ key, key ∈ MemberList.admins.keysIn repo ↔ key ∈ admins.nodes := fun key => by
    rw [MemberList.keysIn, invariant.keysOf_adminKeys]
  have isWriter : ∀ key, key ∈ MemberList.writers.keysIn repo ↔ key ∈ writers.nodes := fun key => by
    rw [MemberList.keysIn, invariant.keysOf_writerKeys]
  cases update with
  | addAdmin isOp isRole new allocated =>
      cases (MemberList.role_injective (named.symm.trans isRole) : list = .admins)
      have toAdmins : op = opAdd ∧ MemberList.admins = .admins := ⟨isOp, rfl⟩
      refine ⟨fun _ => ?_, fun isDelete => ?_, fun other different => ?_,
        fun key different other => ?_⟩
      · refine ⟨fun member => new ((isAdmin _).mp member), fun other => ?_, List.mem_cons_self⟩
        cases other
      · exact absurd (isOp.symm.trans isDelete) opAdd_ne_opDelete
      · cases other with
        | admins => exact absurd rfl different
        | writers =>
            refine iff_of_false (fun member => ?_) (fun both => both.2 toAdmins)
            exact invariant.writersWellFormed.not_mem_without pubkey member
      · cases other with
        | admins => exact (KeyList.mem_push_of_ne different).trans (isAdmin key).symm
        | writers =>
            exact (invariant.writersWellFormed.mem_without_of_ne different).trans
              (isWriter key).symm
  | addWriter isOp isRole notWriter notAdmin allocated =>
      cases (MemberList.role_injective (named.symm.trans isRole) : list = .writers)
      refine ⟨fun _ => ?_, fun isDelete => ?_, fun other different => ?_,
        fun key different other => ?_⟩
      · exact ⟨fun member => notWriter ((isWriter _).mp member),
          fun _ member => notAdmin ((isAdmin _).mp member), List.mem_cons_self⟩
      · exact absurd (isOp.symm.trans isDelete) opAdd_ne_opDelete
      · cases other with
        | writers => exact absurd rfl different
        | admins =>
            have notAdmins : ¬ (op = opAdd ∧ MemberList.writers = .admins) := by
              rintro ⟨_, impossible⟩
              cases impossible
            exact (and_iff_left notAdmins).symm
      · cases other with
        | admins => exact Iff.rfl
        | writers => exact (KeyList.mem_push_of_ne different).trans (isWriter key).symm
  | deleteAdmin isOp isRole present =>
      cases (MemberList.role_injective (named.symm.trans isRole) : list = .admins)
      apply Flips.of_deletion isOp ((isAdmin _).mpr present)
      · exact invariant.adminsWellFormed.not_mem_without pubkey
      · intro key different
        exact (invariant.adminsWellFormed.mem_without_of_ne different).trans (isAdmin key).symm
      · intro other different
        cases other with
        | admins => exact absurd rfl different
        | writers => rfl
  | deleteWriter isOp isRole present =>
      cases (MemberList.role_injective (named.symm.trans isRole) : list = .writers)
      apply Flips.of_deletion isOp ((isWriter _).mpr present)
      · exact invariant.writersWellFormed.not_mem_without pubkey
      · intro key different
        exact (invariant.writersWellFormed.mem_without_of_ne different).trans (isWriter key).symm
      · intro other different
        cases other with
        | writers => exact absurd rfl different
        | admins => rfl
  | otherRole notAdmin notWriter =>
      cases list with
      | admins => exact absurd named notAdmin
      | writers => exact absurd named notWriter

/-- A successful edit for another role is none. -/
theorem KeyUpdate.eq_of_otherRole
    (update : KeyUpdate outcomes repo admins writers op role pubkey (.ok ()) edited)
    (other : ¬ (role = roleAdmin ∨ role = roleWriter)) : edited = repo := by
  cases update with
  | addAdmin isOp isRole => exact absurd (Or.inl isRole) other
  | addWriter isOp isRole => exact absurd (Or.inr isRole) other
  | deleteAdmin isOp isRole => exact absurd (Or.inl isRole) other
  | deleteWriter isOp isRole => exact absurd (Or.inr isRole) other
  | otherRole => rfl

end Updates

theorem Flips.append {list : MemberList} {op : UInt32} {pubkey : CString}
    {before after : RepoMetadata} (flips : Flips list op pubkey before after)
    (blockHash : CString) : Flips list op pubkey before (after.append blockHash) where
  added := by simpa using flips.added
  deleted := by simpa using flips.deleted
  otherList := by simpa using flips.otherList
  otherKeys := by simpa using flips.otherKeys

/-- The two roles are those of the two lists. -/
theorem exists_list_of_role_iff (role : UInt32) :
    (∃ list : MemberList, role = list.role) ↔ role = roleAdmin ∨ role = roleWriter := by
  constructor
  · rintro ⟨list, named⟩
    cases list with
    | admins => exact Or.inl named
    | writers => exact Or.inr named
  · rintro (isAdmin | isWriter)
    · exact ⟨.admins, isAdmin⟩
    · exact ⟨.writers, isWriter⟩

section Recorded

variable (primitives : Primitives) (store : KeyStore)

/-- What a successful request for one of the two roles has done to its list. -/
theorem run_flips {calls : List Call} {call : Call} (isCommand : call.cmdId = cmdAccessControl)
    {output : Output} (answered : (trustedApplication primitives store).answer
      ((trustedApplication primitives store).run calls) call = .ok output)
    {list : MemberList} (named : call.params.acMsg.role = list.role) :
    ∃ before after admins writers,
      ((trustedApplication primitives store).run calls).slot call.accessRepo = some before ∧
      ((trustedApplication primitives store).next
        ((trustedApplication primitives store).run calls) call).slot call.accessRepo = some after ∧
      RepoInvariant before admins writers ∧
      Flips list call.params.acMsg.op call.params.acMsg.pubkey before after := by
  rcases run_accessControl_ok primitives store isCommand answered with
    ⟨repo, edited, admins, writers, blockHash, accepted, invariant, update, stored⟩
  exact ⟨repo, edited.append blockHash, admins, writers, accepted.slot, stored, invariant,
    (update.flips invariant named).append blockHash⟩

/-- In every reached state, a successful request does what its block records,
and grants or revokes anything at all, exactly when it names one of the two
roles. -/
theorem done_as_recorded_iff_known_role (calls : List Call) (call : Call) (output : Output)
    (isCommand : call.cmdId = cmdAccessControl)
    (answered : (trustedApplication primitives store).answer
      ((trustedApplication primitives store).run calls) call = .ok output) :
    ∃ before after,
      ((trustedApplication primitives store).run calls).slot call.accessRepo = some before ∧
      ((trustedApplication primitives store).next
        ((trustedApplication primitives store).run calls) call).slot call.accessRepo = some after ∧
      (DoneAsRecorded call.params.acMsg before after ↔
        call.params.acMsg.role = roleAdmin ∨ call.params.acMsg.role = roleWriter) ∧
      (GrantsOrRevokes before after ↔
        call.params.acMsg.role = roleAdmin ∨ call.params.acMsg.role = roleWriter) := by
  rcases run_accessControl_ok primitives store isCommand answered with
    ⟨repo, edited, admins, writers, blockHash, accepted, invariant, update, stored⟩
  have flips : ∀ list : MemberList, call.params.acMsg.role = list.role →
      Flips list call.params.acMsg.op call.params.acMsg.pubkey repo (edited.append blockHash) :=
    fun list named => (update.flips invariant named).append blockHash
  refine ⟨repo, edited.append blockHash, accepted.slot, stored, ?_, ?_⟩
  · rw [← exists_list_of_role_iff]
    exact ⟨fun ⟨list, named, _⟩ => ⟨list, named⟩,
      fun ⟨list, named⟩ => ⟨list, named, flips list named⟩⟩
  · constructor
    · rintro ⟨list, key, differs⟩
      by_contra other
      rw [update.eq_of_otherRole other, MemberList.keysIn_append] at differs
      exact differs Iff.rfl
    · intro known
      rcases (exists_list_of_role_iff _).mpr known with ⟨list, named⟩
      exact (flips list named).grantsOrRevokes accepted.2.op

end Recorded

/-- The addition of a writer is done as recorded. -/
theorem addition_done_as_recorded :
    ∃ before after, DoneAsRecorded Sample.addition.params.acMsg before after ∧
      GrantsOrRevokes before after := by
  have succeeds : (Sample.application.answer (Sample.application.run [Sample.creation])
      Sample.addition).isOk = true := by decide +kernel
  rcases exists_output_of_isOk succeeds with ⟨output, answered⟩
  rcases done_as_recorded_iff_known_role Sample.primitives (some Sample.keyPair) [Sample.creation]
    Sample.addition output rfl answered with ⟨before, after, _, _, done, grants⟩
  exact ⟨before, after, done.mpr (Or.inr rfl), grants.mpr (Or.inr rfl)⟩

/-- The founder adds the newcomer, for a role that does not exist. -/
def Sample.otherRole : Call := .requestAccess (outcomes 1) (access opAdd 7 newcomer)

/-- The request succeeds and adds a block to the chain, but does nothing else. -/
theorem otherRole_records_nothing :
    (Sample.application.answer (Sample.application.run [Sample.creation])
      Sample.otherRole).isOk = true ∧
    (blocksOf 0 (Sample.application.log [Sample.creation, Sample.otherRole])).length = 2 ∧
    ∃ before after, (Sample.application.run [Sample.creation]).slot 0 = some before ∧
      (Sample.application.run [Sample.creation, Sample.otherRole]).slot 0 = some after ∧
      ¬ DoneAsRecorded Sample.otherRole.params.acMsg before after ∧
      ¬ GrantsOrRevokes before after := by
  refine ⟨by decide +kernel, by decide +kernel, ?_⟩
  have wasThere : ((Sample.application.run [Sample.creation]).slot 0).map
      (fun repo => (keysOf repo.adminKeys, keysOf repo.writerKeys)) =
        some ([Sample.founder], []) := by decide +kernel
  have isThere : ((Sample.application.run [Sample.creation, Sample.otherRole]).slot 0).map
      (fun repo => (keysOf repo.adminKeys, keysOf repo.writerKeys)) =
        some ([Sample.founder], []) := by decide +kernel
  rcases Option.map_eq_some_iff.mp wasThere with ⟨before, foundBefore, keysBefore⟩
  rcases Option.map_eq_some_iff.mp isThere with ⟨after, foundAfter, keysAfter⟩
  have keys := Prod.mk.inj (keysAfter.trans keysBefore.symm)
  refine ⟨before, after, foundBefore, foundAfter, ?_, ?_⟩
  · rintro ⟨list, named, _⟩
    have isOther : Sample.otherRole.params.acMsg.role = 7 := rfl
    rw [isOther] at named
    cases list <;> exact absurd named (by decide)
  · rintro ⟨list, key, differs⟩
    cases list with
    | admins => exact differs (by rw [MemberList.keysIn, MemberList.keysIn, keys.1])
    | writers => exact differs (by rw [MemberList.keysIn, MemberList.keysIn, keys.2])

/-! ## The invariant of the lists -/

/-- The two lists as a reader of the data structure finds them: each key in one
place only, and counted. -/
structure KeySetsSound (repo : RepoMetadata) (admins writers : KeyList) : Prop where
  adminKeys : repo.adminKeys = some admins
  writerKeys : repo.writerKeys = some writers
  adminsOnce : admins.nodes.Nodup
  writersOnce : writers.nodes.Nodup
  notInBoth : ∀ key, ¬ (key ∈ admins.nodes ∧ key ∈ writers.nodes)
  adminCount : admins.nodes.length < 2 ^ 32 → admins.count.toNat = admins.nodes.length
  writerCount : writers.nodes.length < 2 ^ 32 → writers.count.toNat = writers.nodes.length

theorem KeyList.WellFormed.toNat_count {list : KeyList} (wellFormed : list.WellFormed)
    (few : list.nodes.length < 2 ^ 32) : list.count.toNat = list.nodes.length := by
  rw [wellFormed.count, UInt32.toNat_ofNat']
  exact Nat.mod_eq_of_lt few

theorem RepoInvariant.keySetsSound {repo : RepoMetadata} {admins writers : KeyList}
    (invariant : RepoInvariant repo admins writers) : KeySetsSound repo admins writers where
  adminKeys := invariant.adminKeys
  writerKeys := invariant.writerKeys
  adminsOnce := invariant.adminsWellFormed.nodup
  writersOnce := invariant.writersWellFormed.nodup
  notInBoth := fun key both => invariant.disjoint key both.1 both.2
  adminCount := invariant.adminsWellFormed.toNat_count
  writerCount := invariant.writersWellFormed.toNat_count

/-- A key that was deleted from its list is in neither: it cannot have been in
the other one. -/
theorem Flips.gone {list : MemberList} {pubkey : CString} {before after : RepoMetadata}
    {admins writers : KeyList} (flips : Flips list opDelete pubkey before after)
    (invariant : RepoInvariant before admins writers) (other : MemberList) :
    pubkey ∉ other.keysIn after := by
  have inAdmins := invariant.keysOf_adminKeys
  have inWriters := invariant.keysOf_writerKeys
  have was := (flips.deleted rfl).1
  by_cases same : other = list
  · rw [same]
    exact (flips.deleted rfl).2
  · intro member
    have still := ((flips.otherList other same).mp member).1
    cases list with
    | admins =>
        cases other with
        | admins => exact same rfl
        | writers => exact invariant.disjoint pubkey (inAdmins ▸ was) (inWriters ▸ still)
    | writers =>
        cases other with
        | admins => exact invariant.disjoint pubkey (inAdmins ▸ still) (inWriters ▸ was)
        | writers => exact same rfl

section Invariant

variable (primitives : Primitives) (store : KeyStore)

/-- In every reached state the lists of every repository are sound, and a
successful deletion for one of the two roles leaves the key in neither list. -/
theorem key_sets_sound :
    (∀ calls repId repo,
      ((trustedApplication primitives store).run calls).slot repId = some repo →
      ∃ admins writers, KeySetsSound repo admins writers) ∧
    ∀ calls call output, call.cmdId = cmdAccessControl → call.params.acMsg.op = opDelete →
      call.params.acMsg.role = roleAdmin ∨ call.params.acMsg.role = roleWriter →
      (trustedApplication primitives store).answer
        ((trustedApplication primitives store).run calls) call = .ok output →
      ∃ repo, ((trustedApplication primitives store).next
          ((trustedApplication primitives store).run calls) call).slot call.accessRepo = some repo ∧
        call.params.acMsg.pubkey ∉ keysOf repo.adminKeys ∧
        call.params.acMsg.pubkey ∉ keysOf repo.writerKeys := by
  constructor
  · intro calls repId repo found
    rcases (run_tableInvariant primitives store calls).repositories repId repo found with
      ⟨admins, writers, invariant⟩
    exact ⟨admins, writers, invariant.keySetsSound⟩
  · intro calls call output isCommand isDelete known answered
    rcases (exists_list_of_role_iff _).mpr known with ⟨list, named⟩
    rcases run_flips primitives store isCommand answered named with
      ⟨before, after, admins, writers, _, stored, invariant, flips⟩
    rw [isDelete] at flips
    exact ⟨after, stored, flips.gone invariant .admins, flips.gone invariant .writers⟩

end Invariant

/-- The founder deletes the newcomer again. -/
def Sample.removal : Call := .requestAccess (outcomes 2) (access opDelete roleWriter newcomer)

theorem removal_leaves_no_trace :
    ∃ repo, (Sample.application.next (Sample.application.run [Sample.creation, Sample.addition])
        Sample.removal).slot 0 = some repo ∧
      Sample.newcomer ∉ keysOf repo.adminKeys ∧ Sample.newcomer ∉ keysOf repo.writerKeys := by
  have succeeds : (Sample.application.answer
      (Sample.application.run [Sample.creation, Sample.addition]) Sample.removal).isOk = true := by
    decide +kernel
  rcases exists_output_of_isOk succeeds with ⟨output, answered⟩
  exact (key_sets_sound Sample.primitives (some Sample.keyPair)).2
    [Sample.creation, Sample.addition] Sample.removal output rfl rfl (Or.inr rfl) answered

end Ta
end TrustChain

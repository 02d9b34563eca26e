import TrustChain.Ta.Commands

namespace TrustChain
namespace Ta

open Library Tee

/-!
# The parts of a command

What the checks in front of a handler amount to, when a block can be hashed and
signed, and what the nested branches of `access_control` do to the two lists.
-/

/-! ## The checks -/

/-- What an `access_control` request must satisfy before anything is changed. -/
structure AccessControlAccepted (primitives : Primitives) (outcomes : CallOutcomes)
    (paramTypes : UInt32) (msg : AccessControlMessage) (state : TaState) (repo : RepoMetadata) :
    Prop where
  types : paramTypes = teeParamTypes memrefInput memrefOutput paramNone paramNone
  op : msg.op = opAdd ∨ msg.op = opDelete
  found : state.slot msg.repId.toNat = some repo
  admin : msg.sigkey ∈ keysOf repo.adminKeys
  verified : verifySignature primitives outcomes.verify (accessControlText msg) msg.sigkey
    msg.signature = .ok ()

/-- What a `commit` request must satisfy before a block is built. -/
structure CommitAccepted (primitives : Primitives) (outcomes : CallOutcomes)
    (paramTypes : UInt32) (msg : CommitMessage) (state : TaState) (repo : RepoMetadata) :
    Prop where
  types : paramTypes = teeParamTypes memrefInput memrefInout memrefOutput paramNone
  op : msg.op = opPush ∨ msg.op = opPr
  found : state.slot msg.repId.toNat = some repo
  member : msg.sigkey ∈ keysOf repo.adminKeys ∨ msg.sigkey ∈ keysOf repo.writerKeys
  verified : verifySignature primitives outcomes.verify (commitText msg) msg.sigkey
    msg.signature = .ok ()

private theorem allowed_of_not_refused {op first second : UInt32}
    (allowed : ¬ (op ≠ first ∧ op ≠ second)) : op = first ∨ op = second := by
  by_cases same : op = first
  · exact Or.inl same
  · exact Or.inr (not_not.mp fun different => allowed ⟨same, different⟩)

theorem accessControlChecks_eq_ok_iff {primitives : Primitives} {outcomes : CallOutcomes}
    {paramTypes : UInt32} {msg : AccessControlMessage} {state : TaState} {repo : RepoMetadata} :
    accessControlChecks primitives outcomes paramTypes msg state = .ok repo ↔
      AccessControlAccepted primitives outcomes paramTypes msg state repo := by
  unfold accessControlChecks
  constructor
  · intro passed
    split at passed
    · cases passed
    · rename_i types
      split at passed
      · cases passed
      · rename_i op
        cases found : state.slot msg.repId.toNat with
        | none => simp [validateAndGetRepo_none found] at passed
        | some stored =>
            simp only [validateAndGetRepo_some found] at passed
            split at passed
            · cases passed
            · rename_i member
              split at passed
              · cases passed
              · rename_i verified
                cases passed
                exact ⟨not_not.mp types, allowed_of_not_refused op, found,
                  (keyExistsInSet_iff _ _).mp (Bool.not_eq_false _ ▸ member), verified⟩
  · rintro ⟨types, op, found, member, verified⟩
    have known := (keyExistsInSet_iff repo.adminKeys msg.sigkey).mpr member
    rw [if_neg (not_not.mpr types), if_neg (by tauto), validateAndGetRepo_some found]
    simp only [known, Bool.true_eq_false, if_false, verified]

theorem commitChecks_eq_ok_iff {primitives : Primitives} {outcomes : CallOutcomes}
    {paramTypes : UInt32} {msg : CommitMessage} {state : TaState} {repo : RepoMetadata} :
    commitChecks primitives outcomes paramTypes msg state = .ok repo ↔
      CommitAccepted primitives outcomes paramTypes msg state repo := by
  unfold commitChecks
  constructor
  · intro passed
    split at passed
    · cases passed
    · rename_i types
      split at passed
      · cases passed
      · rename_i op
        cases found : state.slot msg.repId.toNat with
        | none => simp [validateAndGetRepo_none found] at passed
        | some stored =>
            simp only [validateAndGetRepo_some found] at passed
            split at passed
            · cases passed
            · rename_i member
              split at passed
              · cases passed
              · rename_i verified
                cases passed
                refine ⟨not_not.mp types, allowed_of_not_refused op, found, ?_, verified⟩
                by_contra neither
                rw [not_or, ← keyExistsInSet_eq_false_iff, ← keyExistsInSet_eq_false_iff] at neither
                exact member neither
  · rintro ⟨types, op, found, member, verified⟩
    have known : ¬ (keyExistsInSet repo.adminKeys msg.sigkey = false ∧
        keyExistsInSet repo.writerKeys msg.sigkey = false) := by
      rw [keyExistsInSet_eq_false_iff, keyExistsInSet_eq_false_iff]
      tauto
    rw [if_neg (not_not.mpr types), if_neg (by tauto), validateAndGetRepo_some found]
    simp only [if_neg known, verified]

/-! ## Hashing and signing a block -/

/-- The hash of the text is computed and signed, and this is the signature. -/
structure Signed (primitives : Primitives) (outcomes : CallOutcomes) (data : CString)
    (store : KeyStore) (teeSig : CString) (after : KeyStore) : Prop where
  hashed : outcomes.hash.Succeeds
  signs : outcomes.sign.Succeeds
  signed : teeSignHash primitives outcomes.sign (hashText primitives data.bytes) store =
    (.ok teeSig, after)

theorem hashAndSign_cases (primitives : Primitives) (outcomes : CallOutcomes) (data : CString)
    (store : KeyStore) :
    (∃ teeSig after, Signed primitives outcomes data store teeSig after ∧
        hashAndSign primitives outcomes.sign (hashData primitives outcomes.hash data.bytes) store =
          (.ok (hashText primitives data.bytes, teeSig), after)) ∨
      (¬ (outcomes.hash.Succeeds ∧ outcomes.sign.Succeeds) ∧
        ∃ code after,
          hashAndSign primitives outcomes.sign (hashData primitives outcomes.hash data.bytes) store =
            (.error code, after)) := by
  cases hashed : hashData primitives outcomes.hash data.bytes with
  | error code =>
      exact Or.inr ⟨fun both => hashData_eq_error hashed both.1, code, store, rfl⟩
  | ok hash =>
      rcases hashData_eq_ok_iff.mp hashed with ⟨succeeds, rfl⟩
      have signs := teeSignHash_hashText_ok_iff primitives outcomes.sign data.bytes store
      cases result : teeSignHash primitives outcomes.sign (hashText primitives data.bytes) store with
      | mk answer after =>
          rw [result] at signs
          cases answer with
          | error code =>
              refine Or.inr ⟨fun both => ?_, code, after, by simp only [hashAndSign, result]⟩
              rcases signs.mpr both.2 with ⟨signature, impossible⟩
              cases impossible
          | ok teeSig =>
              exact Or.inl ⟨teeSig, after, ⟨succeeds, signs.mp ⟨teeSig, rfl⟩, result⟩,
                by simp only [hashAndSign, result]⟩

theorem hashAndSign_eq_ok {primitives : Primitives} {store : KeyStore} {outcomes : SignOutcomes}
    {calculated : TeeResult CString} {hash teeSig : CString} {after : KeyStore}
    (sealed : hashAndSign primitives outcomes calculated store = (.ok (hash, teeSig), after)) :
    calculated = .ok hash ∧
      teeSignHash primitives outcomes hash store = (.ok teeSig, after) := by
  unfold hashAndSign at sealed
  cases calculated with
  | error code => cases sealed
  | ok computed =>
      dsimp only at sealed
      cases signing : teeSignHash primitives outcomes computed store with
      | mk signed stored =>
          rw [signing] at sealed
          cases signed with
          | error code => cases sealed
          | ok signature =>
              cases sealed
              exact ⟨rfl, signing⟩

/-- A hash that has been signed is one. -/
theorem length_of_hashAndSign {primitives : Primitives} {store : KeyStore}
    {hashOutcomes : HashOutcomes} {outcomes : SignOutcomes} {data : List UInt8}
    {hash teeSig : CString} {after : KeyStore}
    (sealed : hashAndSign primitives outcomes (hashData primitives hashOutcomes data) store =
      (.ok (hash, teeSig), after)) : hash.length = maxHashLength := by
  rw [(hashData_eq_ok_iff.mp (hashAndSign_eq_ok sealed).1).2]
  exact length_hashText primitives data

theorem hashAndSign_fst (primitives : Primitives) (outcomes : SignOutcomes)
    (calculated : TeeResult CString) (store other : KeyStore) :
    (hashAndSign primitives outcomes calculated store).1 =
      (hashAndSign primitives outcomes calculated other).1 := by
  unfold hashAndSign
  cases calculated with
  | error code => rfl
  | ok hash =>
      rcases exists_common_answer (teeSignHash_fst primitives outcomes hash store other) with
        ⟨answer, after, afterOther, one, two⟩
      simp only [one, two]
      cases answer <;> rfl

/-- Any data can be signed if hashing and signing go through. -/
theorem teeSignData_ok_iff (primitives : Primitives) (hashOutcomes : HashOutcomes)
    (signOutcomes : SignOutcomes) (data : List UInt8) (store : KeyStore) :
    (∃ signature, (teeSignData primitives hashOutcomes signOutcomes data store).1 =
      .ok signature) ↔ hashOutcomes.Succeeds ∧ signOutcomes.Succeeds := by
  unfold teeSignData
  cases hashed : hashData primitives hashOutcomes (signedBytes data) with
  | error code =>
      refine iff_of_false ?_ (fun both => hashData_eq_error hashed both.1)
      rintro ⟨signature, impossible⟩
      cases impossible
  | ok hash =>
      rcases hashData_eq_ok_iff.mp hashed with ⟨succeeds, rfl⟩
      exact (teeSignHash_hashText_ok_iff primitives signOutcomes (signedBytes data) store).trans
        (and_iff_right succeeds).symm

theorem length_of_teeSignData {primitives : Primitives} {hashOutcomes : HashOutcomes}
    {signOutcomes : SignOutcomes} {data : List UInt8} {signature : CString} {store after : KeyStore}
    (signed : teeSignData primitives hashOutcomes signOutcomes data store = (.ok signature, after)) :
    signature.length = 512 := by
  unfold teeSignData at signed
  cases hashed : hashData primitives hashOutcomes (signedBytes data) with
  | error code =>
      rw [hashed] at signed
      cases signed
  | ok hash =>
      rw [hashed] at signed
      exact length_of_teeSignHash signed

/-! ## The key lists -/

namespace KeyList

def push (key : CString) (list : KeyList) : KeyList :=
  ⟨key :: list.nodes, list.count + 1⟩

/-- The list without its first node for this key, if there is one. -/
def without (key : CString) (list : KeyList) : KeyList :=
  if key ∈ list.nodes then ⟨list.nodes.erase key, list.count - 1⟩ else list

theorem nodes_without (key : CString) (list : KeyList) :
    (list.without key).nodes = list.nodes.erase key := by
  unfold without
  by_cases found : key ∈ list.nodes
  · rw [if_pos found]
  · rw [if_neg found, List.erase_of_not_mem found]

end KeyList

theorem findAndRemoveKey_eq (list : KeyList) (key : CString) :
    findAndRemoveKey (some list) key =
      .ok (some (list.without key), decide (key ∈ list.nodes)) := by
  rw [findAndRemoveKey_some, KeyList.without]
  by_cases found : key ∈ list.nodes
  · simp only [if_pos found, decide_eq_true found]
  · simp only [if_neg found, decide_eq_false found]

/-- The requests that ask for a change of the lists, judged by the lists before. -/
inductive Edits (admins writers : List CString) (op role : UInt32) (pubkey : CString) : Prop
  | addAdmin (isOp : op = opAdd) (isRole : role = roleAdmin) (new : pubkey ∉ admins)
  | addWriter (isOp : op = opAdd) (isRole : role = roleWriter) (notWriter : pubkey ∉ writers)
      (notAdmin : pubkey ∉ admins)
  | deleteAdmin (isOp : op = opDelete) (isRole : role = roleAdmin) (present : pubkey ∈ admins)
  | deleteWriter (isOp : op = opDelete) (isRole : role = roleWriter) (present : pubkey ∈ writers)

theorem edits_addAdmin_iff {admins writers : List CString} {pubkey : CString} :
    Edits admins writers opAdd roleAdmin pubkey ↔ pubkey ∉ admins := by
  constructor
  · rintro (⟨_, _, new⟩ | ⟨_, isRole, _, _⟩ | ⟨isOp, _, _⟩ | ⟨isOp, _, _⟩)
    · exact new
    · exact absurd isRole roleAdmin_ne_roleWriter
    · exact absurd isOp opAdd_ne_opDelete
    · exact absurd isOp opAdd_ne_opDelete
  · exact .addAdmin rfl rfl

theorem edits_addWriter_iff {admins writers : List CString} {pubkey : CString} :
    Edits admins writers opAdd roleWriter pubkey ↔ pubkey ∉ writers ∧ pubkey ∉ admins := by
  constructor
  · rintro (⟨_, isRole, _⟩ | ⟨_, _, notWriter, notAdmin⟩ | ⟨isOp, _, _⟩ | ⟨isOp, _, _⟩)
    · exact absurd isRole roleAdmin_ne_roleWriter.symm
    · exact ⟨notWriter, notAdmin⟩
    · exact absurd isOp opAdd_ne_opDelete
    · exact absurd isOp opAdd_ne_opDelete
  · rintro ⟨notWriter, notAdmin⟩
    exact .addWriter rfl rfl notWriter notAdmin

theorem edits_deleteAdmin_iff {admins writers : List CString} {pubkey : CString} :
    Edits admins writers opDelete roleAdmin pubkey ↔ pubkey ∈ admins := by
  constructor
  · rintro (⟨isOp, _, _⟩ | ⟨isOp, _, _, _⟩ | ⟨_, _, present⟩ | ⟨_, isRole, _⟩)
    · exact absurd isOp opAdd_ne_opDelete.symm
    · exact absurd isOp opAdd_ne_opDelete.symm
    · exact present
    · exact absurd isRole roleAdmin_ne_roleWriter
  · exact .deleteAdmin rfl rfl

theorem edits_deleteWriter_iff {admins writers : List CString} {pubkey : CString} :
    Edits admins writers opDelete roleWriter pubkey ↔ pubkey ∈ writers := by
  constructor
  · rintro (⟨isOp, _, _⟩ | ⟨isOp, _, _, _⟩ | ⟨_, isRole, _⟩ | ⟨_, _, present⟩)
    · exact absurd isOp opAdd_ne_opDelete.symm
    · exact absurd isOp opAdd_ne_opDelete.symm
    · exact absurd isRole roleAdmin_ne_roleWriter.symm
    · exact present
  · exact .deleteWriter rfl rfl

/-- A request for any other role edits nothing. -/
theorem not_edits_of_otherRole {admins writers : List CString} {op role : UInt32}
    {pubkey : CString} (notAdmin : role ≠ roleAdmin) (notWriter : role ≠ roleWriter) :
    ¬ Edits admins writers op role pubkey := by
  rintro (⟨_, isRole, _⟩ | ⟨_, isRole, _, _⟩ | ⟨_, isRole, _⟩ | ⟨_, isRole, _⟩)
  · exact notAdmin isRole
  · exact notWriter isRole
  · exact notAdmin isRole
  · exact notWriter isRole

/-- The exits of the nested branches, each with the lists it leaves behind. -/
inductive KeyUpdate (outcomes : NodeOutcomes) (repo : RepoMetadata) (admins writers : KeyList)
    (op role : UInt32) (pubkey : CString) : TeeResult Unit → RepoMetadata → Prop
  | addAdmin (isOp : op = opAdd) (isRole : role = roleAdmin) (new : pubkey ∉ admins.nodes)
      (allocated : outcomes.Succeeds) :
      KeyUpdate outcomes repo admins writers op role pubkey (.ok ())
        { repo with
          adminKeys := some (admins.push pubkey), writerKeys := some (writers.without pubkey) }
  | addAdminLate (isOp : op = opAdd) (isRole : role = roleAdmin) (new : pubkey ∉ admins.nodes)
      (failed : ¬ outcomes.Succeeds) :
      KeyUpdate outcomes repo admins writers op role pubkey (.error .outOfMemory)
        { repo with writerKeys := some (writers.without pubkey) }
  | addWriter (isOp : op = opAdd) (isRole : role = roleWriter) (notWriter : pubkey ∉ writers.nodes)
      (notAdmin : pubkey ∉ admins.nodes) (allocated : outcomes.Succeeds) :
      KeyUpdate outcomes repo admins writers op role pubkey (.ok ())
        { repo with writerKeys := some (writers.push pubkey) }
  | deleteAdmin (isOp : op = opDelete) (isRole : role = roleAdmin)
      (present : pubkey ∈ admins.nodes) :
      KeyUpdate outcomes repo admins writers op role pubkey (.ok ())
        { repo with adminKeys := some (admins.without pubkey) }
  | deleteWriter (isOp : op = opDelete) (isRole : role = roleWriter)
      (present : pubkey ∈ writers.nodes) :
      KeyUpdate outcomes repo admins writers op role pubkey (.ok ())
        { repo with writerKeys := some (writers.without pubkey) }
  | otherRole (notAdmin : role ≠ roleAdmin) (notWriter : role ≠ roleWriter) :
      KeyUpdate outcomes repo admins writers op role pubkey (.ok ()) repo
  | refused (code : TeeError)
      (reason : ¬ Edits admins.nodes writers.nodes op role pubkey ∨
        (op = opAdd ∧ role = roleWriter ∧ ¬ outcomes.Succeeds)) :
      KeyUpdate outcomes repo admins writers op role pubkey (.error code) repo

theorem updateKeySets_cases (outcomes : NodeOutcomes) {repo : RepoMetadata}
    {admins writers : KeyList} (adminKeys : repo.adminKeys = some admins)
    (writerKeys : repo.writerKeys = some writers) {op : UInt32}
    (allowed : op = opAdd ∨ op = opDelete) (role : UInt32) (pubkey : CString) :
    KeyUpdate outcomes repo admins writers op role pubkey
      (updateKeySets outcomes repo op role pubkey).1
      (updateKeySets outcomes repo op role pubkey).2 := by
  rcases repo with ⟨height, hash, founder, adminPtr, writerPtr⟩
  cases adminKeys
  cases writerKeys
  have isAdmin := keyExistsInSet_iff (some admins) pubkey
  have isWriter := keyExistsInSet_iff (some writers) pubkey
  rw [keysOf_some] at isAdmin isWriter
  unfold updateKeySets
  rcases allowed with rfl | rfl
  · rw [if_pos rfl]
    by_cases toAdmin : role = roleAdmin
    · subst toAdmin
      rw [if_pos rfl]
      by_cases present : pubkey ∈ admins.nodes
      · rw [if_pos (isAdmin.mpr present)]
        exact .refused _ (Or.inl fun edits => edits_addAdmin_iff.mp edits present)
      · rw [if_neg (fun found => present (isAdmin.mp found)), findAndRemoveKey_eq]
        by_cases allocated : outcomes.Succeeds
        · simp only [addKeyToSet_ok allocated]
          exact .addAdmin rfl rfl present allocated
        · simp only [addKeyToSet_error allocated]
          exact .addAdminLate rfl rfl present allocated
    · rw [if_neg toAdmin]
      by_cases toWriter : role = roleWriter
      · subst toWriter
        rw [if_pos rfl]
        by_cases present : pubkey ∈ writers.nodes
        · rw [if_pos (isWriter.mpr present)]
          exact .refused _ (Or.inl fun edits => (edits_addWriter_iff.mp edits).1 present)
        · rw [if_neg (fun found => present (isWriter.mp found))]
          by_cases already : pubkey ∈ admins.nodes
          · rw [if_pos (isAdmin.mpr already)]
            exact .refused _ (Or.inl fun edits => (edits_addWriter_iff.mp edits).2 already)
          · rw [if_neg (fun found => already (isAdmin.mp found))]
            by_cases allocated : outcomes.Succeeds
            · simp only [addKeyToSet_ok allocated]
              exact .addWriter rfl rfl present already allocated
            · simp only [addKeyToSet_error allocated]
              exact .refused _ (Or.inr ⟨rfl, rfl, allocated⟩)
      · rw [if_neg toWriter]
        exact .otherRole toAdmin toWriter
  · rw [if_neg opAdd_ne_opDelete.symm, if_pos rfl]
    by_cases fromAdmin : role = roleAdmin
    · subst fromAdmin
      rw [if_pos rfl, findAndRemoveKey_eq]
      by_cases present : pubkey ∈ admins.nodes
      · simp only [decide_eq_true present, Bool.true_eq_false, if_false]
        exact .deleteAdmin rfl rfl present
      · have kept : admins.without pubkey = admins := if_neg present
        simp only [decide_eq_false present, if_true, kept]
        exact .refused _ (Or.inl fun edits => present (edits_deleteAdmin_iff.mp edits))
    · rw [if_neg fromAdmin]
      by_cases fromWriter : role = roleWriter
      · subst fromWriter
        rw [if_pos rfl, findAndRemoveKey_eq]
        by_cases present : pubkey ∈ writers.nodes
        · simp only [decide_eq_true present, Bool.true_eq_false, if_false]
          exact .deleteWriter rfl rfl present
        · have kept : writers.without pubkey = writers := if_neg present
          simp only [decide_eq_false present, if_true, kept]
          exact .refused _ (Or.inl fun edits => present (edits_deleteWriter_iff.mp edits))
      · rw [if_neg fromWriter]
        exact .otherRole fromAdmin fromWriter

section Kept

variable {outcomes : NodeOutcomes} {repo edited : RepoMetadata} {admins writers : KeyList}
  {op role : UInt32} {pubkey : CString} {answer : TeeResult Unit}

/-- The nested branches touch neither the height nor the head. -/
theorem KeyUpdate.head
    (update : KeyUpdate outcomes repo admins writers op role pubkey answer edited) :
    edited.blockHeight = repo.blockHeight ∧ edited.latestHash = repo.latestHash := by
  cases update <;> exact ⟨rfl, rfl⟩

theorem KeyUpdate.founderKey
    (update : KeyUpdate outcomes repo admins writers op role pubkey answer edited) :
    edited.founderKey = repo.founderKey := by
  cases update <;> rfl

end Kept

end Ta
end TrustChain

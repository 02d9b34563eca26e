import TrustChain.Ta.Atomicity
import TrustChain.Ta.Founder
import TrustChain.Ta.SignatureFields

namespace TrustChain
namespace Ta

open Library Tee

/-!
# Who can change a repository

A repository that exists is changed by `access_control` and `commit` only, and
only for a signer who is entitled to it.  Following this back along a run, each
member of a list was put there by an admin, unless it is the founder.

The signed texts are cut at 1024 bytes; strings that fit their arrays are too
short for that to happen.
-/

/-! ## The signed texts -/

/-- `"rep_id:op:role:pubkey"`, not cut. -/
def accessControlRequest (msg : AccessControlMessage) : CString :=
  joinColon [decimal msg.repId.toNat, decimal msg.op.toNat, decimal msg.role.toNat, msg.pubkey]

/-- `"rep_id:op:commit_hash"`, not cut. -/
def commitRequest (msg : CommitMessage) : CString :=
  joinColon [decimal msg.repId.toNat, decimal msg.op.toNat, msg.commitHash]

theorem accessControlText_eq {msg : AccessControlMessage}
    (fits : msg.pubkey.length < maxKeyLength) :
    accessControlText msg = accessControlRequest msg := by
  apply CString.snprintf_eq_self
  have repId := decimal_uint32_length_le msg.repId
  have op := decimal_uint32_length_le msg.op
  have role := decimal_uint32_length_le msg.role
  have bound : maxKeyLength = 512 := rfl
  rw [length_joinColon_cons, length_joinColon_cons, length_joinColon_cons, joinColon]
  omega

theorem commitText_eq {msg : CommitMessage} (fits : msg.commitHash.length < maxHashLength) :
    commitText msg = commitRequest msg := by
  apply CString.snprintf_eq_self
  have repId := decimal_uint32_length_le msg.repId
  have op := decimal_uint32_length_le msg.op
  have bound : maxHashLength = 64 := rfl
  rw [length_joinColon_cons, length_joinColon_cons, joinColon]
  omega

/-! ## One command -/

/-- The command is an `access_control` on this repository, signed by an admin: the
primitive has accepted the signature for the text of the request under the key
that `sigkey` is read as. -/
structure SignedByAdmin (primitives : Primitives) (call : Call) (repId : Nat)
    (repo : RepoMetadata) : Prop where
  isCommand : call.cmdId = cmdAccessControl
  named : call.params.acMsg.repId.toNat = repId
  member : call.params.acMsg.sigkey ∈ keysOf repo.adminKeys
  verified : verifySignature primitives call.outcomes.verify
    (accessControlRequest call.params.acMsg) call.params.acMsg.sigkey
    call.params.acMsg.signature = .ok ()
  accepted : ∃ key sigBytes, VerifiesUnder primitives (accessControlRequest call.params.acMsg)
    call.params.acMsg.sigkey call.params.acMsg.signature key sigBytes

/-- The command is a `commit` on this repository, signed by an admin or a writer in
the same way. -/
structure SignedByMember (primitives : Primitives) (call : Call) (repId : Nat)
    (repo : RepoMetadata) : Prop where
  isCommand : call.cmdId = cmdCommit
  named : call.params.cmMsg.repId.toNat = repId
  member : call.params.cmMsg.sigkey ∈ keysOf repo.adminKeys ∨
    call.params.cmMsg.sigkey ∈ keysOf repo.writerKeys
  verified : verifySignature primitives call.outcomes.verify
    (commitRequest call.params.cmMsg) call.params.cmMsg.sigkey
    call.params.cmMsg.signature = .ok ()
  accepted : ∃ key sigBytes, VerifiesUnder primitives (commitRequest call.params.cmMsg)
    call.params.cmMsg.sigkey call.params.cmMsg.signature key sigBytes

theorem Call.AccessAccepted.signedByAdmin {primitives : Primitives} {state : TaState} {call : Call}
    {repo : RepoMetadata} (accepted : call.AccessAccepted primitives state repo)
    (fits : call.StringsFit) : SignedByAdmin primitives call call.accessRepo repo := by
  have verified := accepted.2.verified
  rw [accessControlText_eq (fits.access accepted.1).1] at verified
  exact ⟨accepted.1, rfl, accepted.2.admin, verified, exists_verifiesUnder verified⟩

theorem Call.CommitAccepted.signedByMember {primitives : Primitives} {state : TaState}
    {call : Call} {repo : RepoMetadata} (accepted : call.CommitAccepted primitives state repo)
    (fits : call.StringsFit) : SignedByMember primitives call call.commitRepo repo := by
  have verified := accepted.2.verified
  rw [commitText_eq (fits.commit accepted.1).1] at verified
  exact ⟨accepted.1, rfl, accepted.2.member, verified, exists_verifiesUnder verified⟩

/-- The repository of a slot is still there, with the same metadata. -/
def Untouched (old : RepoMetadata) (slot : Option RepoMetadata) : Prop :=
  ∃ new, slot = some new ∧ SameMetadata old new

/-- A command that touches a repository was entitled to. -/
theorem SlotStep.authorised {primitives : Primitives} {state : TaState} {call : Call}
    {repId : Nat} {answer : TeeResult Output} {slot : Option RepoMetadata} {old : RepoMetadata}
    (step : SlotStep primitives state call repId answer slot) (fits : call.StringsFit)
    (found : state.slot repId = some old) (touched : ¬ Untouched old slot) :
    SignedByAdmin primitives call repId old ∨ SignedByMember primitives call repId old := by
  cases step with
  | untouched answer noBlock noUpdate => exact absurd ⟨old, found, .refl old⟩ touched
  | created teeSig store isCommand here free signed =>
      rw [free] at found
      cases found
  | interrupted repo edited reply code here accepted updated fails =>
      subst here
      have same : some repo = some old := accepted.slot.symm.trans found
      cases same
      exact Or.inl (accepted.signedByAdmin fits)
  | accessAppended repo edited teeSig store here accepted updated signed =>
      subst here
      have same : some repo = some old := accepted.slot.symm.trans found
      cases same
      exact Or.inl (accepted.signedByAdmin fits)
  | contributionAppended repo teeSig encryptedKey store here accepted signed =>
      subst here
      have same : some repo = some old := accepted.slot.symm.trans found
      cases same
      exact Or.inr (accepted.signedByMember fits)

/-! ## Where the members come from -/

/-- The two lists of a repository. -/
inductive MemberList
  | admins
  | writers

namespace MemberList

def keysIn : MemberList → RepoMetadata → List CString
  | admins, repo => keysOf repo.adminKeys
  | writers, repo => keysOf repo.writerKeys

/-- The role that a request names to have a key added. -/
def role : MemberList → UInt32
  | admins => roleAdmin
  | writers => roleWriter

end MemberList

/-- A key that is in a list after the nested branches was in it before, or the
request was to add it. -/
theorem KeyUpdate.member_cases {outcomes : NodeOutcomes} {repo edited : RepoMetadata}
    {admins writers : KeyList} {op role : UInt32} {pubkey : CString} {answer : TeeResult Unit}
    (update : KeyUpdate outcomes repo admins writers op role pubkey answer edited)
    (invariant : RepoInvariant repo admins writers) {list : MemberList} {key : CString}
    (member : key ∈ list.keysIn edited) :
    key ∈ list.keysIn repo ∨ (op = opAdd ∧ role = list.role ∧ pubkey = key) := by
  have fromAdmins : key ∈ admins.nodes → key ∈ MemberList.admins.keysIn repo := by
    intro older
    change key ∈ keysOf repo.adminKeys
    rwa [invariant.keysOf_adminKeys]
  have fromWriters : key ∈ writers.nodes → key ∈ MemberList.writers.keysIn repo := by
    intro older
    change key ∈ keysOf repo.writerKeys
    rwa [invariant.keysOf_writerKeys]
  cases update with
  | addAdmin isOp isRole new allocated =>
      cases list with
      | admins =>
          rcases KeyList.mem_push.mp member with same | older
          · exact Or.inr ⟨isOp, isRole, same.symm⟩
          · exact Or.inl (fromAdmins older)
      | writers =>
          exact Or.inl (fromWriters (invariant.writersWellFormed.mem_without.mp member).2)
  | addAdminLate isOp isRole new failed =>
      cases list with
      | admins => exact Or.inl member
      | writers =>
          exact Or.inl (fromWriters (invariant.writersWellFormed.mem_without.mp member).2)
  | addWriter isOp isRole notWriter notAdmin allocated =>
      cases list with
      | admins => exact Or.inl member
      | writers =>
          rcases KeyList.mem_push.mp member with same | older
          · exact Or.inr ⟨isOp, isRole, same.symm⟩
          · exact Or.inl (fromWriters older)
  | deleteAdmin isOp isRole present =>
      cases list with
      | admins => exact Or.inl (fromAdmins (invariant.adminsWellFormed.mem_without.mp member).2)
      | writers => exact Or.inl member
  | deleteWriter isOp isRole present =>
      cases list with
      | admins => exact Or.inl member
      | writers =>
          exact Or.inl (fromWriters (invariant.writersWellFormed.mem_without.mp member).2)
  | otherRole notAdmin notWriter => exact Or.inl member
  | refused code reason => exact Or.inl member

/-- The key is a member of the list in this slot. -/
def Listed (list : MemberList) (repId : Nat) (key : CString) (state : TaState) : Prop :=
  ∃ repo, state.slot repId = some repo ∧ key ∈ list.keysIn repo

/-- An admin of that moment asked for the key to be added to the list. -/
def AddedByAdmin (primitives : Primitives) (state : TaState) (call : Call) (list : MemberList)
    (repId : Nat) (key : CString) : Prop :=
  call.params.acMsg.op = opAdd ∧ call.params.acMsg.role = list.role ∧
    call.params.acMsg.pubkey = key ∧
    ∃ repo, state.slot repId = some repo ∧ SignedByAdmin primitives call repId repo

/-- An accepted request to add the key to the list. -/
def BringsIn (primitives : Primitives) (state : TaState) (call : Call) (list : MemberList)
    (repId : Nat) (key : CString) : Prop :=
  ∃ repo, call.AccessAccepted primitives state repo ∧ call.accessRepo = repId ∧
    call.params.acMsg.op = opAdd ∧ call.params.acMsg.role = list.role ∧
    call.params.acMsg.pubkey = key

theorem BringsIn.addedByAdmin {primitives : Primitives} {state : TaState} {call : Call}
    {list : MemberList} {repId : Nat} {key : CString}
    (brings : BringsIn primitives state call list repId key) (fits : call.StringsFit) :
    AddedByAdmin primitives state call list repId key := by
  rcases brings with ⟨repo, accepted, rfl, isOp, isRole, isKey⟩
  exact ⟨isOp, isRole, isKey, repo, accepted.slot, accepted.signedByAdmin fits⟩

/-- The edit of an accepted request brings a key in only if it asks for it. -/
private theorem bringsIn_of_edit {primitives : Primitives} {state : TaState} {call : Call}
    {repo edited : RepoMetadata} {reply : TeeResult Unit} (table : TableInvariant state)
    (accepted : call.AccessAccepted primitives state repo)
    (updated : call.updateKeys repo = (reply, edited)) {list : MemberList} {key : CString}
    (outside : ¬ Listed list call.accessRepo key state) (member : key ∈ list.keysIn edited) :
    BringsIn primitives state call list call.accessRepo key := by
  rcases table.keyUpdate accepted updated with ⟨_, _, invariant, update⟩
  rcases update.member_cases invariant member with
    older | ⟨isOp, isRole, isKey⟩
  · exact absurd ⟨repo, accepted.slot, older⟩ outside
  · exact ⟨repo, accepted, rfl, isOp, isRole, isKey⟩

/-- How a key can come into a list: with a new repository, or by a request. -/
theorem SlotStep.listed_cases {primitives : Primitives} {state : TaState} {call : Call}
    {repId : Nat} {answer : TeeResult Output} {slot : Option RepoMetadata}
    (step : SlotStep primitives state call repId answer slot) (after : TaState)
    (table : TableInvariant state) {list : MemberList} {key : CString}
    (outside : ¬ Listed list repId key state) {new : RepoMetadata} (found : slot = some new)
    (member : key ∈ list.keysIn new) :
    (state.slot repId = none ∧ CreatedBy [⟨state, call, answer, after⟩] repId key) ∨
      BringsIn primitives state call list repId key := by
  cases step with
  | untouched answer noBlock noUpdate => exact absurd ⟨new, found, member⟩ outside
  | created teeSig store isCommand here free signed =>
      cases found
      cases list with
      | writers => cases member
      | admins =>
          have isFounder : key = call.params.adminKey := List.mem_singleton.mp member
          exact Or.inl ⟨free, _, List.mem_cons_self, _, _, rfl, here.symm, isFounder.symm⟩
  | interrupted repo edited reply code here accepted updated fails =>
      cases found
      subst here
      exact Or.inr (bringsIn_of_edit table accepted updated outside member)
  | accessAppended repo edited teeSig store here accepted updated signed =>
      cases found
      subst here
      have inEdited : key ∈ list.keysIn edited := by cases list <;> exact member
      exact Or.inr (bringsIn_of_edit table accepted updated outside inEdited)
  | contributionAppended repo teeSig encryptedKey store here accepted signed =>
      cases found
      subst here
      have before : key ∈ list.keysIn repo := by cases list <;> exact member
      exact absurd ⟨repo, accepted.slot, before⟩ outside

/-- What comes into a free slot is a new repository. -/
theorem SlotStep.new_of_free {primitives : Primitives} {state : TaState} {call : Call}
    {repId : Nat} {answer : TeeResult Output} {slot : Option RepoMetadata}
    (step : SlotStep primitives state call repId answer slot) (free : state.slot repId = none)
    {new : RepoMetadata} (found : slot = some new) :
    ∃ genesisHash, new = newRepository call.params.adminKey genesisHash := by
  cases step with
  | untouched answer noBlock noUpdate =>
      rw [free] at found
      cases found
  | created teeSig store isCommand here free signed =>
      cases found
      exact ⟨_, rfl⟩
  | interrupted repo edited reply code here accepted updated fails =>
      subst here
      exact absurd (accepted.slot.symm.trans free) (Option.some_ne_none repo)
  | accessAppended repo edited teeSig store here accepted updated signed =>
      subst here
      exact absurd (accepted.slot.symm.trans free) (Option.some_ne_none repo)
  | contributionAppended repo teeSig encryptedKey store here accepted signed =>
      subst here
      exact absurd (accepted.slot.symm.trans free) (Option.some_ne_none repo)

/-! ## Runs -/

section Runs

variable (primitives : Primitives) (store : KeyStore)

/-- A command of the run put the key into the list, on behalf of an admin, and
the key has stayed there since. -/
def PutThereByAdmin (calls : List Call) (list : MemberList) (repId : Nat) (key : CString) : Prop :=
  ∃ earlier call later, calls = earlier ++ call :: later ∧
    AddedByAdmin primitives ((trustedApplication primitives store).run earlier) call list repId key ∧
    ∀ since, since <+: later →
      Listed list repId key ((trustedApplication primitives store).run (earlier ++ call :: since))

theorem provenance (calls : List Call) (fits : ∀ call ∈ calls, call.StringsFit)
    (list : MemberList) (repId : Nat) (key : CString)
    (listed : Listed list repId key ((trustedApplication primitives store).run calls)) :
    CreatedBy ((trustedApplication primitives store).log calls) repId key ∨
      PutThereByAdmin primitives store calls list repId key := by
  have notAtStart : ¬ Listed list repId key (trustedApplication primitives store).start := by
    rintro ⟨repo, found, _⟩
    rw [show (trustedApplication primitives store).start = initialState store from rfl,
      slot_initialState] at found
    cases found
  rcases (trustedApplication primitives store).exists_entering_step notAtStart listed with
    ⟨earlier, call, later, rfl, outside, since⟩
  have entered := since [] List.nil_prefix
  rw [(trustedApplication primitives store).run_snoc] at entered
  rcases entered with ⟨new, found, member⟩
  have step := run_slotStep primitives store earlier call repId
  rcases step.listed_cases
      ((trustedApplication primitives store).next
        ((trustedApplication primitives store).run earlier) call)
      (run_tableInvariant primitives store earlier) outside found member with
    ⟨_, created⟩ | brought
  · apply Or.inl
    rcases created with ⟨event, isEvent, rest⟩
    rw [List.mem_singleton.mp isEvent] at rest
    exact ⟨_, (trustedApplication primitives store).event_mem_log earlier call later, rest⟩
  · exact Or.inr ⟨earlier, call, later, rfl, brought.addedByAdmin (fits call (by simp)), since⟩

/-- A key in a list is the founder's, among the admins, or an accepted request
has brought it in. -/
theorem listed_origin {calls : List Call} {list : MemberList} {repId : Nat} {key : CString}
    (listed : Listed list repId key ((trustedApplication primitives store).run calls)) :
    (list = .admins ∧ CreatedBy ((trustedApplication primitives store).log calls) repId key) ∨
      ∃ earlier call later, calls = earlier ++ call :: later ∧
        BringsIn primitives ((trustedApplication primitives store).run earlier) call list repId
          key := by
  have notAtStart : ¬ Listed list repId key (trustedApplication primitives store).start := by
    rintro ⟨repo, found, _⟩
    rw [show (trustedApplication primitives store).start = initialState store from rfl,
      slot_initialState] at found
    cases found
  rcases (trustedApplication primitives store).exists_entering_step notAtStart listed with
    ⟨earlier, call, later, rfl, outside, since⟩
  have entered := since [] List.nil_prefix
  rw [(trustedApplication primitives store).run_snoc] at entered
  rcases entered with ⟨new, found, member⟩
  have step := run_slotStep primitives store earlier call repId
  rcases step.listed_cases
      ((trustedApplication primitives store).next
        ((trustedApplication primitives store).run earlier) call)
      (run_tableInvariant primitives store earlier) outside found member with
    ⟨free, created⟩ | brought
  · apply Or.inl
    rcases step.new_of_free free found with ⟨genesisHash, rfl⟩
    cases list with
    | writers => cases member
    | admins =>
        rcases created with ⟨event, isEvent, rest⟩
        rw [List.mem_singleton.mp isEvent] at rest
        exact ⟨rfl, _, (trustedApplication primitives store).event_mem_log earlier call later, rest⟩
  · exact Or.inr ⟨earlier, call, later, rfl, brought⟩

/-- No command changes a repository unless an admin, or for a commit a member,
has signed exactly that request; and every member of a list other than the
founder was put there by an admin of that moment. -/
theorem no_unauthorised_change :
    (∀ calls call, call.StringsFit → ∀ repId old,
      ((trustedApplication primitives store).run calls).slot repId = some old →
      ¬ Untouched old (((trustedApplication primitives store).next
        ((trustedApplication primitives store).run calls) call).slot repId) →
      SignedByAdmin primitives call repId old ∨ SignedByMember primitives call repId old) ∧
    ∀ calls, (∀ call ∈ calls, call.StringsFit) → ∀ list repId key,
      Listed list repId key ((trustedApplication primitives store).run calls) →
      ¬ CreatedBy ((trustedApplication primitives store).log calls) repId key →
      PutThereByAdmin primitives store calls list repId key := by
  constructor
  · intro calls call fits repId old found touched
    exact (run_slotStep primitives store calls call repId).authorised fits found touched
  · intro calls fits list repId key listed notFounder
    exact (provenance primitives store calls fits list repId key listed).resolve_left notFounder

end Runs

theorem Sample.stringsFit : ∀ call ∈ [creation, addition], call.StringsFit := by
  intro call member
  rcases List.mem_cons.mp member with rfl | rest
  · exact ⟨fun _ => by decide, fun _ => by decide, fun _ => by decide⟩
  · rw [List.mem_singleton.mp rest]
    exact ⟨fun _ => by decide, fun _ => by decide, fun _ => by decide⟩

/-- The addition of a writer is a change that the founder signed, and the new
writer was put there by it. -/
theorem addition_authorised :
    (∃ old, SignedByAdmin Sample.primitives Sample.addition 0 old ∨
      SignedByMember Sample.primitives Sample.addition 0 old) ∧
    PutThereByAdmin Sample.primitives (some Sample.keyPair) [Sample.creation, Sample.addition]
      .writers 0 Sample.newcomer := by
  have before : ((Sample.application.run [Sample.creation]).slot 0).map
      (fun repo => (keysOf repo.writerKeys, repo.founderKey)) = some ([], Sample.founder) := by
    decide +kernel
  have after : ((Sample.application.run [Sample.creation, Sample.addition]).slot 0).map
      (fun repo => (keysOf repo.writerKeys, repo.founderKey)) =
        some ([Sample.newcomer], Sample.founder) := by
    decide +kernel
  rcases Option.map_eq_some_iff.mp before with ⟨old, wasThere, oldKeys⟩
  rcases Option.map_eq_some_iff.mp after with ⟨new, isThere, newKeys⟩
  have guarantee := no_unauthorised_change Sample.primitives (some Sample.keyPair)
  constructor
  · refine ⟨old, guarantee.1 [Sample.creation] Sample.addition
      (Sample.stringsFit _ (List.mem_cons_of_mem _ List.mem_cons_self)) 0 old wasThere ?_⟩
    rintro ⟨same, isSame, metadata⟩
    have isNext : (Sample.application.run [Sample.creation, Sample.addition]).slot 0 = some same :=
      isSame
    have isNew : new = same := Option.some.inj (isThere.symm.trans isNext)
    have kept := metadata.writers Sample.newcomer
    rw [← isNew, (Prod.mk.inj newKeys).1, (Prod.mk.inj oldKeys).1] at kept
    exact absurd (kept.mp (List.mem_singleton_self _)) List.not_mem_nil
  · apply guarantee.2 [Sample.creation, Sample.addition] Sample.stringsFit
    · refine ⟨new, isThere, ?_⟩
      change Sample.newcomer ∈ keysOf new.writerKeys
      rw [(Prod.mk.inj newKeys).1]
      exact List.mem_singleton_self _
    · intro created
      have isFounder := (run_createdBy_iff Sample.primitives (some Sample.keyPair) isThere
        Sample.newcomer).mp created
      rw [(Prod.mk.inj newKeys).2] at isFounder
      exact absurd isFounder (by decide)

end Ta
end TrustChain

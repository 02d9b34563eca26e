import TrustChain.Ta.Answers
import TrustChain.Ta.KeySets
import TrustChain.Ta.RequestText

namespace TrustChain
namespace Ta

open Library Tee

/-!
# Requests that are sent again

A signed request says what is to be done, but not when: it carries no nonce, and
nothing in the state remembers it.  Whoever has recorded a request can therefore
send it again, and it is judged by the members of that moment.  What remains of
a revocation is that somebody has to be added again before the revoked key
counts for anything, and that a request for a change does nothing twice unless
it was undone in between.
-/

/-! ## What is asked of recorded requests -/

/-- The whole request with its signature, as an observer records it. -/
def signedMessage (call : Call) : Option SignedRequest :=
  if call.cmdId = cmdAccessControl then some (.access call.params.acMsg)
  else if call.cmdId = cmdCommit then some (.commit call.params.cmMsg)
  else none

def SignedRequest.signature : SignedRequest → CString
  | access msg => msg.signature
  | commit msg => msg.signature

/-- No signed request is accepted twice. -/
def NoneAcceptedTwice (log : List TaEvent) : Prop :=
  ∀ earlier first between second later,
    log = earlier ++ first :: between ++ second :: later →
    first.output.isOk = true → second.output.isOk = true →
    ∀ request, signedMessage first.input = some request →
      signedMessage second.input ≠ some request

/-- A key that was deleted from a list comes back only by a request whose
signature was not accepted for this repository before. -/
def RevocationDurable (log : List TaEvent) : Prop :=
  ∀ earlier deletion between entering later (list : MemberList),
    log = earlier ++ deletion :: between ++ entering :: later →
    deletion.input.cmdId = cmdAccessControl → deletion.output.isOk = true →
    deletion.input.params.acMsg.op = opDelete →
    deletion.input.params.acMsg.role = list.role →
    ¬ Listed list deletion.input.accessRepo deletion.input.params.acMsg.pubkey entering.before →
    Listed list deletion.input.accessRepo deletion.input.params.acMsg.pubkey entering.after →
    ∀ accepted ∈ earlier ++ deletion :: between, accepted.output.isOk = true →
      ∀ old new, signedMessage accepted.input = some old → signedMessage entering.input = some new →
        old.repId = new.repId → old.signature ≠ new.signature

/-! ## Entering and leaving a list -/

/-- An accepted request that takes the key out of the list.  A writer who
becomes an admin is no longer a writer. -/
def TakesOut (primitives : Primitives) (state : TaState) (call : Call) (list : MemberList)
    (repId : Nat) (key : CString) : Prop :=
  ∃ repo, call.AccessAccepted primitives state repo ∧ call.accessRepo = repId ∧
    call.params.acMsg.pubkey = key ∧
    ((call.params.acMsg.op = opDelete ∧ call.params.acMsg.role = list.role) ∨
      (call.params.acMsg.op = opAdd ∧ call.params.acMsg.role = roleAdmin ∧ list = .writers))

/-- A key that is not in a list any more was named by the request. -/
theorem KeyUpdate.leaving_cases {outcomes : NodeOutcomes} {repo edited : RepoMetadata}
    {admins writers : KeyList} {op role : UInt32} {pubkey : CString} {answer : TeeResult Unit}
    (update : KeyUpdate outcomes repo admins writers op role pubkey answer edited)
    (invariant : RepoInvariant repo admins writers) {list : MemberList} {key : CString}
    (before : key ∈ list.keysIn repo) (after : key ∉ list.keysIn edited) :
    pubkey = key ∧ ((op = opDelete ∧ role = list.role) ∨
      (op = opAdd ∧ role = roleAdmin ∧ list = .writers)) := by
  have inAdmins : list = .admins → key ∈ admins.nodes := by
    rintro rfl
    exact invariant.keysOf_adminKeys ▸ before
  have inWriters : list = .writers → key ∈ writers.nodes := by
    rintro rfl
    exact invariant.keysOf_writerKeys ▸ before
  have named : ∀ {keys : KeyList}, keys.WellFormed → key ∈ keys.nodes →
      key ∉ (keys.without pubkey).nodes → pubkey = key := by
    intro keys wellFormed member gone
    by_contra different
    exact gone (wellFormed.mem_without.mpr ⟨fun same => different same.symm, member⟩)
  cases update with
  | addAdmin isOp isRole new allocated =>
      cases list with
      | admins => exact absurd (KeyList.mem_push.mpr (Or.inr (inAdmins rfl))) after
      | writers =>
          exact ⟨named invariant.writersWellFormed (inWriters rfl) after,
            Or.inr ⟨isOp, isRole, rfl⟩⟩
  | addAdminLate isOp isRole new failed =>
      cases list with
      | admins => exact absurd before after
      | writers =>
          exact ⟨named invariant.writersWellFormed (inWriters rfl) after,
            Or.inr ⟨isOp, isRole, rfl⟩⟩
  | addWriter isOp isRole notWriter notAdmin allocated =>
      cases list with
      | admins => exact absurd before after
      | writers => exact absurd (KeyList.mem_push.mpr (Or.inr (inWriters rfl))) after
  | deleteAdmin isOp isRole present =>
      cases list with
      | admins =>
          exact ⟨named invariant.adminsWellFormed (inAdmins rfl) after, Or.inl ⟨isOp, isRole⟩⟩
      | writers => exact absurd before after
  | deleteWriter isOp isRole present =>
      cases list with
      | admins => exact absurd before after
      | writers =>
          exact ⟨named invariant.writersWellFormed (inWriters rfl) after, Or.inl ⟨isOp, isRole⟩⟩
  | otherRole notAdmin notWriter => exact absurd before after
  | refused code reason => exact absurd before after

/-- The edit of an accepted request takes a key out only if it asks for it. -/
private theorem takesOut_of_edit {primitives : Primitives} {state : TaState} {call : Call}
    {repo edited : RepoMetadata} {reply : TeeResult Unit} (table : TableInvariant state)
    (accepted : call.AccessAccepted primitives state repo)
    (updated : call.updateKeys repo = (reply, edited)) {list : MemberList} {key : CString}
    (listed : Listed list call.accessRepo key state) (gone : key ∉ list.keysIn edited) :
    TakesOut primitives state call list call.accessRepo key := by
  rcases table.keyUpdate accepted updated with ⟨_, _, invariant, update⟩
  rcases listed with ⟨stored, found, member⟩
  have same : some repo = some stored := accepted.slot.symm.trans found
  cases same
  rcases update.leaving_cases invariant member gone with ⟨isKey, request⟩
  exact ⟨repo, accepted, rfl, isKey, request⟩

theorem SlotStep.left_cases {primitives : Primitives} {state : TaState} {call : Call} {repId : Nat}
    {answer : TeeResult Output} {slot : Option RepoMetadata}
    (step : SlotStep primitives state call repId answer slot) (table : TableInvariant state)
    {list : MemberList} {key : CString} (listed : Listed list repId key state)
    (gone : ∀ new, slot = some new → key ∉ list.keysIn new) :
    TakesOut primitives state call list repId key := by
  cases step with
  | untouched answer noBlock noUpdate =>
      rcases listed with ⟨stored, found, member⟩
      exact absurd member (gone stored found)
  | created teeSig store isCommand here free signed =>
      rcases listed with ⟨stored, found, member⟩
      rw [free] at found
      cases found
  | interrupted repo edited reply code here accepted updated fails =>
      subst here
      exact takesOut_of_edit table accepted updated listed (gone edited rfl)
  | accessAppended repo edited teeSig store here accepted updated signed =>
      subst here
      have notInEdited := gone _ rfl
      rw [MemberList.keysIn_append] at notInEdited
      exact takesOut_of_edit table accepted updated listed notInEdited
  | contributionAppended repo teeSig encryptedKey store here accepted signed =>
      subst here
      rcases listed with ⟨stored, found, member⟩
      have same : some repo = some stored := accepted.slot.symm.trans found
      cases same
      have notInRepo := gone _ rfl
      rw [MemberList.keysIn_append] at notInRepo
      exact absurd member notInRepo

/-- A repository is never taken away. -/
theorem SlotStep.persists {primitives : Primitives} {state : TaState} {call : Call} {repId : Nat}
    {answer : TeeResult Output} {slot : Option RepoMetadata}
    (step : SlotStep primitives state call repId answer slot)
    (found : ∃ repo, state.slot repId = some repo) : ∃ repo, slot = some repo := by
  cases step with
  | untouched answer noBlock noUpdate => exact found
  | created teeSig store isCommand here free signed => exact ⟨_, rfl⟩
  | interrupted repo edited reply code here accepted updated fails => exact ⟨_, rfl⟩
  | accessAppended repo edited teeSig store here accepted updated signed => exact ⟨_, rfl⟩
  | contributionAppended repo teeSig encryptedKey store here accepted signed => exact ⟨_, rfl⟩

section Runs

variable (primitives : Primitives) (store : KeyStore)

theorem run_persists {before : List Call} {repId : Nat}
    (found : ∃ repo, ((trustedApplication primitives store).run before).slot repId = some repo)
    (calls : List Call) :
    ∃ repo, ((trustedApplication primitives store).run (before ++ calls)).slot repId = some repo :=
  (trustedApplication primitives store).run_invariant_after
    (fun state => ∃ repo, state.slot repId = some repo) before found
    (fun inputs input => (run_slotStep primitives store inputs input repId).persists) calls

variable {list : MemberList} {repId : Nat} {key : CString} {before calls : List Call}

/-- Between a moment at which a key is not in the list of a repository and one
at which it is, somebody asks for it to be added. -/
theorem brought_in_between
    (found : ∃ repo, ((trustedApplication primitives store).run before).slot repId = some repo)
    (outside : ¬ Listed list repId key ((trustedApplication primitives store).run before))
    (listed : Listed list repId key ((trustedApplication primitives store).run (before ++ calls))) :
    ∃ earlier call later, calls = earlier ++ call :: later ∧
      BringsIn primitives ((trustedApplication primitives store).run (before ++ earlier)) call list
        repId key := by
  rcases (trustedApplication primitives store).exists_entering_step_after
      (Listed list repId key) before outside listed with
    ⟨earlier, call, later, split, without, since⟩
  refine ⟨earlier, call, later, split, ?_⟩
  have entered := since [] List.nil_prefix
  rw [(trustedApplication primitives store).run_snoc] at entered
  rcases entered with ⟨new, stored, member⟩
  have step := run_slotStep primitives store (before ++ earlier) call repId
  have table := run_tableInvariant primitives store (before ++ earlier)
  rcases step.listed_cases ((trustedApplication primitives store).next
      ((trustedApplication primitives store).run (before ++ earlier)) call) table without stored
      member with ⟨free, _⟩ | brought
  · rcases run_persists primitives store found earlier with ⟨repo, still⟩
    exact absurd (still.symm.trans free) (Option.some_ne_none repo)
  · exact brought

theorem taken_out_between
    (listed : Listed list repId key ((trustedApplication primitives store).run before))
    (outside : ¬ Listed list repId key
      ((trustedApplication primitives store).run (before ++ calls))) :
    ∃ earlier call later, calls = earlier ++ call :: later ∧
      TakesOut primitives ((trustedApplication primitives store).run (before ++ earlier)) call list
        repId key := by
  rcases (trustedApplication primitives store).exists_entering_step_after
      (fun state => ¬ Listed list repId key state) before (not_not.mpr listed) outside with
    ⟨earlier, call, later, split, still, since⟩
  refine ⟨earlier, call, later, split, ?_⟩
  have left := since [] List.nil_prefix
  rw [(trustedApplication primitives store).run_snoc] at left
  have step := run_slotStep primitives store (before ++ earlier) call repId
  apply step.left_cases (run_tableInvariant primitives store (before ++ earlier)) (not_not.mp still)
  intro new stored member
  exact left ⟨new, stored, member⟩

/-- No key is in both lists. -/
theorem not_listed_in_both {calls : List Call} {repId : Nat} {key : CString}
    (isAdmin : Listed .admins repId key ((trustedApplication primitives store).run calls)) :
    ¬ Listed .writers repId key ((trustedApplication primitives store).run calls) := by
  rintro ⟨repo, found, isWriter⟩
  rcases isAdmin with ⟨stored, foundAgain, isAdmin⟩
  have same : some repo = some stored := found.symm.trans foundAgain
  cases same
  rcases (run_tableInvariant primitives store calls).repositories repId repo found with
    ⟨admins, writers, invariant⟩
  rw [MemberList.keysIn, invariant.keysOf_adminKeys] at isAdmin
  rw [MemberList.keysIn, invariant.keysOf_writerKeys] at isWriter
  exact invariant.disjoint key isAdmin isWriter

/-! ## Successful requests -/

section Successful

variable {call : Call} {output : Output} (isCommand : call.cmdId = cmdAccessControl)
  (answered : (trustedApplication primitives store).answer
    ((trustedApplication primitives store).run calls) call = .ok output)
  (named : call.params.acMsg.role = list.role)

include isCommand answered named

/-- An addition finds the key outside its list and leaves it inside. -/
theorem added_of_ok (isAdd : call.params.acMsg.op = opAdd) :
    ¬ Listed list call.accessRepo call.params.acMsg.pubkey
        ((trustedApplication primitives store).run calls) ∧
      Listed list call.accessRepo call.params.acMsg.pubkey
        ((trustedApplication primitives store).run (calls ++ [call])) := by
  rcases run_flips primitives store isCommand answered named with
    ⟨before, after, _, _, found, stored, _, flips⟩
  rw [(trustedApplication primitives store).run_snoc]
  constructor
  · rintro ⟨repo, isRepo, member⟩
    have same : some before = some repo := found.symm.trans isRepo
    cases same
    exact (flips.added isAdd).1 member
  · exact ⟨after, stored, (flips.added isAdd).2.2⟩

/-- A deletion finds the key inside its list and leaves it outside of both. -/
theorem deleted_of_ok (isDelete : call.params.acMsg.op = opDelete) :
    Listed list call.accessRepo call.params.acMsg.pubkey
        ((trustedApplication primitives store).run calls) ∧
      ∀ other, ¬ Listed other call.accessRepo call.params.acMsg.pubkey
        ((trustedApplication primitives store).run (calls ++ [call])) := by
  rcases run_flips primitives store isCommand answered named with
    ⟨before, after, _, _, found, stored, invariant, flips⟩
  rw [(trustedApplication primitives store).run_snoc]
  rw [isDelete] at flips
  constructor
  · exact ⟨before, found, (flips.deleted rfl).1⟩
  · rintro other ⟨repo, isRepo, member⟩
    have same : some after = some repo := stored.symm.trans isRepo
    cases same
    exact flips.gone invariant other member

/-- The repository is there afterwards. -/
theorem exists_repo_of_ok :
    ∃ repo, ((trustedApplication primitives store).run (calls ++ [call])).slot call.accessRepo =
      some repo := by
  rcases run_flips primitives store isCommand answered named with ⟨_, after, _, _, _, stored, _⟩
  rw [(trustedApplication primitives store).run_snoc]
  exact ⟨after, stored⟩

/-- What was added leaves the list only when somebody takes it out. -/
theorem taken_out_after_addition (isAdd : call.params.acMsg.op = opAdd) {later : List Call}
    (outside : ¬ Listed list call.accessRepo call.params.acMsg.pubkey
      ((trustedApplication primitives store).run (calls ++ call :: later))) :
    ∃ before taking after, later = before ++ taking :: after ∧
      TakesOut primitives ((trustedApplication primitives store).run (calls ++ call :: before))
        taking list call.accessRepo call.params.acMsg.pubkey := by
  have listed := (added_of_ok primitives store isCommand answered named isAdd).2
  rw [List.append_cons] at outside
  rcases taken_out_between primitives store listed outside with
    ⟨before, taking, after, split, takes⟩
  rw [← List.append_cons] at takes
  exact ⟨before, taking, after, split, takes⟩

/-- What was deleted comes back, to either list, only when somebody adds it. -/
theorem brought_in_after_deletion (isDelete : call.params.acMsg.op = opDelete)
    {later : List Call} {other : MemberList}
    (listed : Listed other call.accessRepo call.params.acMsg.pubkey
      ((trustedApplication primitives store).run (calls ++ call :: later))) :
    ∃ before adding after, later = before ++ adding :: after ∧
      BringsIn primitives ((trustedApplication primitives store).run (calls ++ call :: before))
        adding other call.accessRepo call.params.acMsg.pubkey := by
  have gone := (deleted_of_ok primitives store isCommand answered named isDelete).2 other
  have exists_repo := exists_repo_of_ok primitives store isCommand answered named
  rw [List.append_cons] at listed
  rcases brought_in_between primitives store exists_repo gone listed with
    ⟨before, adding, after, split, brings⟩
  rw [← List.append_cons] at brings
  exact ⟨before, adding, after, split, brings⟩

end Successful

/-- The request is about this repository, and signed with this key. -/
def Call.SignedWith (call : Call) (repId : Nat) (key : CString) : Prop :=
  (call.cmdId = cmdAccessControl ∧ call.accessRepo = repId ∧ call.params.acMsg.sigkey = key) ∨
    (call.cmdId = cmdCommit ∧ call.commitRepo = repId ∧ call.params.cmMsg.sigkey = key)

/-- Whoever gets a request through is a member. -/
theorem listed_of_signedWith {request : Call} (signed : request.SignedWith repId key)
    {output : Output} (answered : (trustedApplication primitives store).answer
      ((trustedApplication primitives store).run calls) request = .ok output) :
    ∃ list, Listed list repId key ((trustedApplication primitives store).run calls) := by
  rcases signed with ⟨isCommand, rfl, rfl⟩ | ⟨isCommand, rfl, rfl⟩
  · rcases (accessControl_ok_iff primitives _ request isCommand).mp ⟨output, answered⟩ with
      ⟨repo, _, accepted, _⟩
    exact ⟨.admins, repo, accepted.slot, accepted.2.admin⟩
  · rcases (commit_ok_iff primitives _ request isCommand).mp ⟨output, answered⟩ with
      ⟨repo, accepted, _⟩
    rcases accepted.2.member with isAdmin | isWriter
    · exact ⟨.admins, repo, accepted.slot, isAdmin⟩
    · exact ⟨.writers, repo, accepted.slot, isWriter⟩

/-- The opposite of what the request does to the list that it names. -/
def Undoes (primitives : Primitives) (state : TaState) (call : Call) (list : MemberList)
    (msg : AccessControlMessage) : Prop :=
  if msg.op = opAdd then TakesOut primitives state call list msg.repId.toNat msg.pubkey
  else BringsIn primitives state call list msg.repId.toNat msg.pubkey

/-- After a successful deletion, a key is in a list again, or signs a request
that succeeds, only when an admin's request to add it has been accepted in
between; and a request for a change succeeds a second time only when an admin's
request has undone it in between. -/
theorem revocation_lasts_until_added_again :
    (∀ earlier deletion later (list : MemberList) output,
      deletion.cmdId = cmdAccessControl → deletion.params.acMsg.op = opDelete →
      deletion.params.acMsg.role = list.role →
      (trustedApplication primitives store).answer
        ((trustedApplication primitives store).run earlier) deletion = .ok output →
      (∀ other, Listed other deletion.accessRepo deletion.params.acMsg.pubkey
          ((trustedApplication primitives store).run (earlier ++ deletion :: later)) →
        ∃ before call after, later = before ++ call :: after ∧
          BringsIn primitives
            ((trustedApplication primitives store).run (earlier ++ deletion :: before)) call other
            deletion.accessRepo deletion.params.acMsg.pubkey) ∧
      ∀ request answered,
        request.SignedWith deletion.accessRepo deletion.params.acMsg.pubkey →
        (trustedApplication primitives store).answer
          ((trustedApplication primitives store).run (earlier ++ deletion :: later)) request =
            .ok answered →
        ∃ other before call after, later = before ++ call :: after ∧
          BringsIn primitives
            ((trustedApplication primitives store).run (earlier ++ deletion :: before)) call other
            deletion.accessRepo deletion.params.acMsg.pubkey) ∧
    ∀ earlier first between second (list : MemberList) firstOutput secondOutput,
      first.cmdId = cmdAccessControl → second.cmdId = cmdAccessControl →
      second.params.acMsg = first.params.acMsg → first.params.acMsg.role = list.role →
      (trustedApplication primitives store).answer
        ((trustedApplication primitives store).run earlier) first = .ok firstOutput →
      (trustedApplication primitives store).answer
        ((trustedApplication primitives store).run (earlier ++ first :: between)) second =
          .ok secondOutput →
      ∃ before call after, between = before ++ call :: after ∧
        Undoes primitives ((trustedApplication primitives store).run (earlier ++ first :: before))
          call list first.params.acMsg := by
  constructor
  · intro earlier deletion later list output isCommand isDelete named answered
    constructor
    · intro other listed
      exact brought_in_after_deletion primitives store isCommand answered named isDelete listed
    · intro request outcome signed succeeds
      rcases listed_of_signedWith primitives store signed succeeds with ⟨other, listed⟩
      exact ⟨other,
        brought_in_after_deletion primitives store isCommand answered named isDelete listed⟩
  · intro earlier first between second list firstOutput secondOutput isFirst isSecond same named
      firstAnswered secondAnswered
    have secondNamed : second.params.acMsg.role = list.role := (congrArg _ same).trans named
    have samePlace : second.accessRepo = first.accessRepo := by
      unfold Call.accessRepo
      rw [same]
    have allowed : first.params.acMsg.op = opAdd ∨ first.params.acMsg.op = opDelete := by
      rcases (accessControl_ok_iff primitives _ first isFirst).mp ⟨_, firstAnswered⟩ with
        ⟨_, _, accepted, _⟩
      exact accepted.2.op
    -- The second success finds the key where the first has not left it.
    rcases allowed with isAdd | isDelete
    · have outside := (added_of_ok primitives store isSecond secondAnswered secondNamed
        (same ▸ isAdd)).1
      rw [samePlace, same] at outside
      rcases taken_out_after_addition primitives store isFirst firstAnswered named isAdd outside
        with ⟨before, call, after, split, takes⟩
      refine ⟨before, call, after, split, ?_⟩
      rw [Undoes, if_pos isAdd]
      exact takes
    · have inside := (deleted_of_ok primitives store isSecond secondAnswered secondNamed
        (same ▸ isDelete)).1
      rw [samePlace, same] at inside
      rcases brought_in_after_deletion primitives store isFirst firstAnswered named isDelete inside
        with ⟨before, call, after, split, brings⟩
      have notAdd : first.params.acMsg.op ≠ opAdd := fun isAdd =>
        opAdd_ne_opDelete (isAdd.symm.trans isDelete)
      refine ⟨before, call, after, split, ?_⟩
      rw [Undoes, if_neg notAdd]
      exact brings

end Runs

/-- The addition that was recorded before the removal, sent once more. -/
def Sample.readdition : Call := .requestAccess (outcomes 3) (access opAdd roleWriter newcomer)

/-- The newcomer is a writer again after the recorded addition, which was
possible because the founder had removed it. -/
theorem newcomer_added_again :
    (∃ before call after, [Sample.readdition] = before ++ call :: after ∧
      BringsIn Sample.primitives
        (Sample.application.run ([Sample.creation, Sample.addition] ++ Sample.removal :: before))
        call .writers Sample.removal.accessRepo Sample.removal.params.acMsg.pubkey) ∧
    ∃ before call after, [Sample.removal] = before ++ call :: after ∧
      Undoes Sample.primitives
        (Sample.application.run ([Sample.creation] ++ Sample.addition :: before)) call .writers
        Sample.addition.params.acMsg := by
  have lasts := revocation_lasts_until_added_again Sample.primitives (some Sample.keyPair)
  have adds : (Sample.application.answer (Sample.application.run [Sample.creation])
      Sample.addition).isOk = true := by
    decide +kernel
  have removes : (Sample.application.answer
      (Sample.application.run [Sample.creation, Sample.addition]) Sample.removal).isOk = true := by
    decide +kernel
  have addsAgain : (Sample.application.answer
      (Sample.application.run [Sample.creation, Sample.addition, Sample.removal])
        Sample.readdition).isOk = true := by
    decide +kernel
  rcases exists_output_of_isOk adds with ⟨added, addedIs⟩
  rcases exists_output_of_isOk removes with ⟨removed, removedIs⟩
  rcases exists_output_of_isOk addsAgain with ⟨again, againIs⟩
  have listed : Listed .writers Sample.readdition.accessRepo Sample.newcomer
      (Sample.application.run ([Sample.creation, Sample.addition] ++ Sample.removal ::
        [Sample.readdition])) :=
    (added_of_ok Sample.primitives (some Sample.keyPair) rfl againIs rfl rfl).2
  exact ⟨(lasts.1 [Sample.creation, Sample.addition] Sample.removal [Sample.readdition] .writers
      removed rfl rfl rfl removedIs).1 .writers listed,
    lasts.2 [Sample.creation] Sample.addition [Sample.removal] Sample.readdition .writers added
      again rfl rfl rfl rfl addedIs againIs⟩

/-- A contribution of the founder at some time, always with the same signature. -/
def Sample.contribution (seconds : UInt32) : Call :=
  .requestCommit (outcomes seconds) ⟨0, opPush, .empty, founder, .empty⟩ .empty

/-- The step of a sample run that comes after these calls. -/
def Sample.event (before : List Call) (call : Call) : TaEvent :=
  application.event (application.run before) call

/-- The addition of a writer who was deleted in between, and a contribution,
are both accepted from their recording. -/
theorem recorded_requests_accepted :
    ¬ RevocationDurable (Sample.application.log
        [Sample.creation, Sample.addition, Sample.removal, Sample.readdition]) ∧
      ¬ NoneAcceptedTwice (Sample.application.log
        [Sample.creation, Sample.addition, Sample.removal, Sample.readdition]) ∧
      ¬ NoneAcceptedTwice (Sample.application.log
        [Sample.creation, Sample.contribution 1, Sample.contribution 2]) := by
  have writersBefore : ((Sample.event [Sample.creation, Sample.addition, Sample.removal]
      Sample.readdition).before.slot Sample.removal.accessRepo).map
        (fun repo => keysOf repo.writerKeys) = some [] := by
    decide +kernel
  have writersAfter : ((Sample.event [Sample.creation, Sample.addition, Sample.removal]
      Sample.readdition).after.slot Sample.removal.accessRepo).map
        (fun repo => keysOf repo.writerKeys) = some [Sample.newcomer] := by
    decide +kernel
  have first : (Sample.event [Sample.creation] Sample.addition).output.isOk = true := by
    decide +kernel
  have removed : (Sample.event [Sample.creation, Sample.addition] Sample.removal).output.isOk =
      true := by
    decide +kernel
  have second : (Sample.event [Sample.creation, Sample.addition, Sample.removal]
      Sample.readdition).output.isOk = true := by
    decide +kernel
  refine ⟨fun durable => ?_, fun never => ?_, fun never => ?_⟩
  · rcases Option.map_eq_some_iff.mp writersAfter with ⟨repo, found, writers⟩
    have outside : ¬ Listed .writers Sample.removal.accessRepo Sample.newcomer
        (Sample.event [Sample.creation, Sample.addition, Sample.removal]
          Sample.readdition).before := by
      rintro ⟨stored, isStored, member⟩
      rw [isStored, Option.map_some, Option.some_inj] at writersBefore
      rw [MemberList.keysIn, writersBefore] at member
      cases member
    have inside : Sample.newcomer ∈ MemberList.keysIn .writers repo := by
      rw [MemberList.keysIn, writers]
      exact List.mem_singleton_self Sample.newcomer
    exact durable
      [Sample.event [] Sample.creation, Sample.event [Sample.creation] Sample.addition]
      (Sample.event [Sample.creation, Sample.addition] Sample.removal) []
      (Sample.event [Sample.creation, Sample.addition, Sample.removal] Sample.readdition) []
      .writers rfl rfl removed rfl rfl outside ⟨repo, found, inside⟩
      (Sample.event [Sample.creation] Sample.addition)
      (List.mem_cons_of_mem _ List.mem_cons_self) first
      (.access (Sample.access opAdd roleWriter Sample.newcomer))
      (.access (Sample.access opAdd roleWriter Sample.newcomer)) rfl rfl rfl rfl
  · exact never [Sample.event [] Sample.creation]
      (Sample.event [Sample.creation] Sample.addition)
      [Sample.event [Sample.creation, Sample.addition] Sample.removal]
      (Sample.event [Sample.creation, Sample.addition, Sample.removal] Sample.readdition) []
      rfl first second _ rfl rfl
  · exact never [Sample.event [] Sample.creation]
      (Sample.event [Sample.creation] (Sample.contribution 1)) []
      (Sample.event [Sample.creation, Sample.contribution 1] (Sample.contribution 2)) []
      rfl (by decide +kernel) (by decide +kernel) _ rfl rfl

end Ta
end TrustChain

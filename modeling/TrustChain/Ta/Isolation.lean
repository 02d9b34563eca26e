import TrustChain.Ta.Answers
import TrustChain.Ta.Table

namespace TrustChain
namespace Ta

open Library Tee

/-!
# Repositories do not interfere

A repository is created by one `init_repo` call and then only looked at and
changed by commands that carry its number.  Leaving out everything else does
not change what these commands answer, nor what the repository ends up with:
a command sees the slot that it names, a failing `init_repo` leaves no trace,
and what the commands get from outside is part of them.
-/

/-! ## Commands see only their slot -/

section Handlers

variable (primitives : Primitives) {state other : TaState}

theorem accessControl_congr (outcomes : CallOutcomes) (paramTypes : UInt32)
    (msg : AccessControlMessage)
    (same : other.slot msg.repId.toNat = state.slot msg.repId.toNat) :
    (accessControl primitives outcomes paramTypes msg other).1 =
        (accessControl primitives outcomes paramTypes msg state).1 ∧
      (accessControl primitives outcomes paramTypes msg other).2.slot msg.repId.toNat =
        (accessControl primitives outcomes paramTypes msg state).2.slot msg.repId.toNat := by
  have checks : accessControlChecks primitives outcomes paramTypes msg other =
      accessControlChecks primitives outcomes paramTypes msg state := by
    unfold accessControlChecks
    rw [validateAndGetRepo_congr same]
  unfold accessControl
  rw [checks]
  cases checked : accessControlChecks primitives outcomes paramTypes msg state with
  | error code => exact ⟨rfl, same⟩
  | ok repo =>
      have inside := TaState.inside_of_slot (accessControlChecks_eq_ok_iff.mp checked).found
      cases result : updateKeySets outcomes.node repo msg.op msg.role msg.pubkey with
      | mk answer edited =>
          cases answer with
          | error code =>
              simp only [result, TaState.slot_setSlot_self _ inside, and_self]
          | ok done =>
              simp only [result, appendAccessBlock, TaState.keyStore_setSlot]
              rcases exists_common_answer (hashAndSign_fst primitives outcomes.sign
                  (calculateAccessBlockHash primitives outcomes.hash
                    (nextAccessBlock edited msg outcomes.time)) state.keyStore other.keyStore) with
                ⟨signed, after, afterOther, one, two⟩
              rw [one, two]
              cases signed with
              | error code =>
                  refine ⟨rfl, ?_⟩
                  simp only [TaState.slot_setKeyStore, TaState.slot_setSlot_self _ inside]
              | ok pair =>
                  refine ⟨rfl, ?_⟩
                  simp only [TaState.slot_setSlot_self _ inside]

theorem getLatestHash_congr (outcomes : CallOutcomes) (paramTypes repId nonce : UInt32)
    (same : other.slot repId.toNat = state.slot repId.toNat) :
    (getLatestHash primitives outcomes paramTypes repId nonce other).1 =
        (getLatestHash primitives outcomes paramTypes repId nonce state).1 ∧
      (getLatestHash primitives outcomes paramTypes repId nonce other).2.slot repId.toNat =
        (getLatestHash primitives outcomes paramTypes repId nonce state).2.slot repId.toNat := by
  unfold getLatestHash
  rw [validateAndGetRepo_congr same]
  by_cases types : paramTypes ≠ teeParamTypes valueInput valueInput memrefOutput memrefOutput
  · rw [if_pos types, if_pos types]
    exact ⟨rfl, same⟩
  · rw [if_neg types, if_neg types]
    cases validateAndGetRepo state repId with
    | error code => exact ⟨rfl, same⟩
    | ok repo =>
        rcases exists_common_answer (teeSignData_fst primitives outcomes.hash outcomes.sign
            (latestHashMsg nonce repo.latestHash) state.keyStore other.keyStore) with
          ⟨signed, after, afterOther, one, two⟩
        simp only [one, two]
        cases signed with
        | error code => exact ⟨rfl, same⟩
        | ok signature => exact ⟨rfl, same⟩

theorem commit_congr (outcomes : CallOutcomes) (paramTypes : UInt32) (msg : CommitMessage)
    (encryptedKey : CString) (same : other.slot msg.repId.toNat = state.slot msg.repId.toNat) :
    (commit primitives outcomes paramTypes msg encryptedKey other).1 =
        (commit primitives outcomes paramTypes msg encryptedKey state).1 ∧
      (commit primitives outcomes paramTypes msg encryptedKey other).2.slot msg.repId.toNat =
        (commit primitives outcomes paramTypes msg encryptedKey state).2.slot msg.repId.toNat := by
  have checks : commitChecks primitives outcomes paramTypes msg other =
      commitChecks primitives outcomes paramTypes msg state := by
    unfold commitChecks
    rw [validateAndGetRepo_congr same]
  unfold commit
  rw [checks]
  cases checked : commitChecks primitives outcomes paramTypes msg state with
  | error code => exact ⟨rfl, same⟩
  | ok repo =>
      have inside := TaState.inside_of_slot (commitChecks_eq_ok_iff.mp checked).found
      rcases exists_common_answer (hashAndSign_fst primitives outcomes.sign
          (calculateContributionBlockHash primitives outcomes.hash
            (nextContributionBlock repo msg outcomes.time)) state.keyStore other.keyStore) with
        ⟨signed, after, afterOther, one, two⟩
      simp only [one, two]
      cases signed with
      | error code => exact ⟨rfl, same⟩
      | ok pair =>
          rcases exists_common_answer (teeDecryptData_fst primitives outcomes.decrypt encryptedKey
              after afterOther) with ⟨decrypted, later, laterOther, first, second⟩
          simp only [first, second]
          cases decrypted with
          | error code => exact ⟨rfl, same⟩
          | ok text =>
              refine ⟨rfl, ?_⟩
              simp only [TaState.slot_setSlot_self _ inside]

/-- `init_repo` sees the next number, and the slot of that number. -/
theorem initRepo_congr (outcomes : CallOutcomes) (paramTypes : UInt32) (adminKey : CString)
    (number : other.repoNum = state.repoNum)
    (same : other.slot state.repoNum.toNat = state.slot state.repoNum.toNat) :
    (initRepo primitives outcomes paramTypes adminKey other).1 =
        (initRepo primitives outcomes paramTypes adminKey state).1 ∧
      (initRepo primitives outcomes paramTypes adminKey other).2.slot state.repoNum.toNat =
        (initRepo primitives outcomes paramTypes adminKey state).2.slot state.repoNum.toNat := by
  unfold initRepo
  simp only [number]
  by_cases types : paramTypes ≠ teeParamTypes memrefInput valueOutput memrefOutput paramNone
  · rw [if_pos types, if_pos types]
    exact ⟨rfl, same⟩
  · rw [if_neg types, if_neg types]
    by_cases full : maxRepoId ≤ state.repoNum.toNat
    · rw [if_pos full, if_pos full]
      exact ⟨rfl, same⟩
    · have inside : state.repoNum.toNat < maxRepoId := Nat.lt_of_not_le full
      rw [if_neg full, if_neg full]
      by_cases failed : outcomes.mallocRepo = false
      · rw [if_pos failed, if_pos failed]
        exact ⟨rfl, by rw [TaState.slot_setSlot_self _ inside, TaState.slot_setSlot_self _ inside]⟩
      · rw [if_neg failed, if_neg failed]
        have cleaned : ∀ first second : TaState,
            (cleanupRepoResources first state.repoNum).slot state.repoNum.toNat =
              (cleanupRepoResources second state.repoNum).slot state.repoNum.toNat := by
          intro first second
          rw [cleanupRepoResources_eq, cleanupRepoResources_eq,
            TaState.slot_setSlot_self _ inside, TaState.slot_setSlot_self _ inside]
        cases outcomes.mallocAdminKeys with
        | false => exact ⟨rfl, cleaned _ _⟩
        | true =>
            cases outcomes.mallocWriterKeys with
            | false => exact ⟨rfl, cleaned _ _⟩
            | true =>
                simp only [if_true]
                cases addKeyToSet outcomes.node (some (initKeyList ⟨[], 0⟩)) adminKey with
                | error code => exact ⟨rfl, cleaned _ _⟩
                | ok withFounder =>
                    rcases exists_common_answer (hashAndSign_fst primitives outcomes.sign
                        (calculateAccessBlockHash primitives outcomes.hash
                          (genesisBlock zeroHash adminKey outcomes.time))
                        state.keyStore other.keyStore) with ⟨signed, after, afterOther, one, two⟩
                    simp only [one, two]
                    cases signed with
                    | error code => exact ⟨rfl, cleaned _ _⟩
                    | ok pair =>
                        refine ⟨rfl, ?_⟩
                        exact (TaState.slot_setSlot_self _ inside _).trans
                          (TaState.slot_setSlot_self _ inside _).symm

end Handlers

/-! ## The commands of a repository -/

/-- The command carries this number. -/
def Call.Names (call : Call) (repId : Nat) : Prop :=
  (call.cmdId = cmdAccessControl ∧ call.accessRepo = repId) ∨
    (call.cmdId = cmdGetLatestHash ∧ call.params.repId.toNat = repId) ∨
    (call.cmdId = cmdCommit ∧ call.commitRepo = repId)

instance (call : Call) (repId : Nat) : Decidable (call.Names repId) :=
  inferInstanceAs (Decidable (_ ∨ _ ∨ _))

/-- The creation of the repository, or a command that carries its number. -/
def concerns (repId : Nat) (event : TaEvent) : Bool :=
  decide (createdId event = some repId) || decide (event.input.Names repId)

section Named

variable (primitives : Primitives) {state other : TaState} {call : Call} {repId : Nat}

/-- A command that carries a number answers by the slot of that number alone. -/
theorem invoke_congr_of_names (names : call.Names repId)
    (same : other.slot repId = state.slot repId) :
    (taInvokeCommandEntryPoint primitives other call).1 =
        (taInvokeCommandEntryPoint primitives state call).1 ∧
      (taInvokeCommandEntryPoint primitives other call).2.slot repId =
        (taInvokeCommandEntryPoint primitives state call).2.slot repId := by
  rcases names with ⟨isCommand, rfl⟩ | ⟨isCommand, rfl⟩ | ⟨isCommand, rfl⟩
  · rw [invoke_accessControl primitives _ isCommand, invoke_accessControl primitives _ isCommand]
    exact accessControl_congr primitives call.outcomes call.paramTypes call.params.acMsg same
  · rw [invoke_getLatestHash primitives _ isCommand, invoke_getLatestHash primitives _ isCommand]
    exact getLatestHash_congr primitives call.outcomes call.paramTypes call.params.repId
      call.params.nonce same
  · rw [invoke_commit primitives _ isCommand, invoke_commit primitives _ isCommand]
    exact commit_congr primitives call.outcomes call.paramTypes call.params.cmMsg
      call.params.encryptedKey same

/-- Such a command creates nothing, so the next number stays what it is. -/
theorem invoke_repoNum_of_names (names : call.Names repId) :
    (taInvokeCommandEntryPoint primitives state call).2.repoNum = state.repoNum := by
  rcases names with ⟨isCommand, _⟩ | ⟨isCommand, _⟩ | ⟨isCommand, _⟩
  · rw [invoke_accessControl primitives _ isCommand]
    unfold accessControl appendAccessBlock
    split
    · rfl
    · split
      · rfl
      · dsimp only
        split <;> rfl
  · rw [invoke_getLatestHash primitives _ isCommand]
    unfold getLatestHash
    split
    · rfl
    · split
      · rfl
      · split <;> rfl
  · rw [invoke_commit primitives _ isCommand]
    unfold commit
    split
    · rfl
    · dsimp only
      split
      · rfl
      · split <;> rfl

end Named

/-- As long as the table does not grow, an empty slot was empty before. -/
theorem TableInvariant.slot_eq_none_of_repoNum_eq {state after : TaState} {repId : Nat}
    (table : TableInvariant state) (tableAfter : TableInvariant after)
    (kept : after.repoNum = state.repoNum) (empty : after.slot repId = none) :
    state.slot repId = none := by
  cases before : state.slot repId with
  | none => rfl
  | some repo =>
      have below := (table.occupied repId).mp ⟨repo, before⟩
      rw [← kept] at below
      rcases (tableAfter.occupied repId).mpr below with ⟨still, stored⟩
      exact absurd (stored.symm.trans empty) (Option.some_ne_none still)

/-- A command that does not concern a repository leaves its slot as it is. -/
theorem SlotStep.eq_of_not_concerns {primitives : Primitives} {state after : TaState} {call : Call}
    {repId : Nat} {answer : TeeResult Output} {slot : Option RepoMetadata}
    (step : SlotStep primitives state call repId answer slot)
    (notConcerned : concerns repId ⟨state, call, answer, after⟩ = false) :
    slot = state.slot repId := by
  have neither := Bool.or_eq_false_iff.mp notConcerned
  have notCreated := of_decide_eq_false neither.1
  have notNamed : ¬ call.Names repId := of_decide_eq_false neither.2
  cases step with
  | untouched answer noBlock noUpdate => rfl
  | created teeSig store isCommand here free signed =>
      rw [here] at notCreated
      exact absurd (createdId_genesis isCommand _ _) notCreated
  | interrupted repo edited reply code here accepted updated fails =>
      exact absurd (Or.inl ⟨accepted.1, here.symm⟩) notNamed
  | accessAppended repo edited teeSig store here accepted updated signed =>
      exact absurd (Or.inl ⟨accepted.1, here.symm⟩) notNamed
  | contributionAppended repo teeSig encryptedKey store here accepted signed =>
      exact absurd (Or.inr (Or.inr ⟨accepted.1, here.symm⟩)) notNamed

/-- Only a creation answers with the number of a repository. -/
theorem Effect.created_of_createdId {primitives : Primitives} {state after : TaState} {call : Call}
    {answer : TeeResult Output} {repId : Nat} (effect : Effect primitives state call answer after)
    (given : createdId ⟨state, call, answer, after⟩ = some repId) :
    call.cmdId = cmdInitRepo ∧ state.repoNum.toNat = repId ∧ ∃ repo, after.slot repId = some repo := by
  have isInit := isInitRepo_of_createdId given
  cases effect with
  | refused code store notAccess =>
      rw [createdId_error] at given
      cases given
  | hashRead repo signature store isCommand found signed =>
      exact absurd (isInit.symm.trans isCommand) (by decide)
  | keyRead pem pemLen isCommand => exact absurd (isInit.symm.trans isCommand) (by decide)
  | interrupted repo edited reply code store accepted updated fails =>
      exact absurd (isInit.symm.trans accepted.1) (by decide)
  | accessAppended repo edited teeSig store accepted updated signed =>
      exact absurd (isInit.symm.trans accepted.1) (by decide)
  | contributionAppended repo teeSig encryptedKey signedStore store accepted signed =>
      exact absurd (isInit.symm.trans accepted.1) (by decide)
  | created teeSig store isCommand inside signed =>
      rw [createdId_genesis isCommand] at given
      have here : state.repoNum.toNat = repId := Option.some.inj given
      rw [← here]
      exact ⟨isCommand, rfl, _, state.slot_setSlot_self inside _⟩

/-! ## The reduced run -/

/-- The application with an empty table, about to hand out this number. -/
def numberedFrom (primitives : Primitives) (store : KeyStore) (repId : Nat) :
    Machine TaState Call (TeeResult Output) where
  start := { initialState store with repoNum := UInt32.ofNat repId }
  step := taInvokeCommandEntryPoint primitives

/-- Two states that a repository cannot tell apart.  As long as it does not
exist, its number is the next one in the second state. -/
structure AlikeFor (repId : Nat) (state other : TaState) : Prop where
  slot : other.slot repId = state.slot repId
  number : state.slot repId = none → other.repoNum.toNat = repId

theorem projects_numberedFrom (primitives : Primitives) (store otherStore : KeyStore) {repId : Nat}
    (inside : repId < maxRepoId) :
    (trustedApplication primitives store).Projects (numberedFrom primitives otherStore repId)
      (concerns repId) TableInvariant (AlikeFor repId) where
  atStart := by
    have small : repId < 2 ^ 32 := Nat.lt_trans inside (by decide)
    refine ⟨?_, fun _ => ?_⟩
    · exact (slot_initialState otherStore repId).trans (slot_initialState store repId).symm
    · exact UInt32.toNat_ofNat'.trans (Nat.mod_eq_of_lt small)
  kept := by
    intro state other call table alike concerned
    have effect := step_effect primitives state call table.free
    rcases Bool.or_eq_true_iff.mp concerned with created | named
    · rcases effect.created_of_createdId (of_decide_eq_true created) with ⟨isInit, here, repo, stored⟩
      have free : state.slot repId = none := here ▸ table.free
      have number : other.repoNum = state.repoNum :=
        UInt32.toNat_inj.mp ((alike.number free).trans here.symm)
      have same := initRepo_congr primitives call.outcomes call.paramTypes call.params.adminKey
        number (here.symm ▸ alike.slot)
      rw [← invoke_initRepo primitives _ isInit, ← invoke_initRepo primitives _ isInit, here] at same
      refine ⟨same.1, same.2, fun none => ?_⟩
      exact absurd (stored.symm.trans none) (Option.some_ne_none repo)
    · have names : call.Names repId := of_decide_eq_true named
      have same := invoke_congr_of_names primitives names alike.slot
      refine ⟨same.1, same.2, fun none => ?_⟩
      change (taInvokeCommandEntryPoint primitives other call).2.repoNum.toNat = repId
      rw [invoke_repoNum_of_names primitives names]
      apply alike.number
      apply table.slot_eq_none_of_repoNum_eq (effect.tableInvariant table)
      · exact invoke_repoNum_of_names primitives names
      · exact none
  dropped := by
    intro state other call table alike dropped
    have step := (step_effect primitives state call table.free).slotStep table.free repId
    have unchanged := step.eq_of_not_concerns dropped
    refine ⟨alike.slot.trans unchanged.symm, fun none => alike.number ?_⟩
    exact unchanged.symm.trans none

/-- What a repository is at the end of a run, and what the commands that concern
it have answered, is the same in the run of these commands alone. -/
theorem repositories_do_not_interfere (primitives : Primitives) (store otherStore : KeyStore)
    (calls : List Call) (repId : Nat) (repo : RepoMetadata)
    (found : ((trustedApplication primitives store).run calls).slot repId = some repo) :
    let events := (trustedApplication primitives store).keptEvents (concerns repId) calls
    ((numberedFrom primitives otherStore repId).run (events.map Machine.Event.input)).slot repId =
        some repo ∧
      ((numberedFrom primitives otherStore repId).log
          (events.map Machine.Event.input)).map Machine.Event.output =
        events.map Machine.Event.output := by
  have projects := projects_numberedFrom primitives store otherStore (TaState.inside_of_slot found)
  rcases projects.run (trustedApplication primitives store) (run_tableInvariant primitives store)
    calls with ⟨alike, outputs⟩
  exact ⟨alike.slot.trans found, outputs⟩

/-- The newcomer has a repository as well. -/
def Sample.secondCreation : Call := .requestInit (outcomes 1) newcomer

/-- The second of two repositories, as if it had been the only one. -/
theorem second_repository_alone :
    ∃ repo, (Sample.application.run [Sample.creation, Sample.secondCreation, Sample.addition]).slot
        1 = some repo ∧
      ((numberedFrom Sample.primitives none 1).run [Sample.secondCreation]).slot 1 = some repo := by
  have exists_repo : ((Sample.application.run [Sample.creation, Sample.secondCreation,
      Sample.addition]).slot 1).isSome := by decide +kernel
  have kept : (Sample.application.keptEvents (concerns 1) [Sample.creation, Sample.secondCreation,
      Sample.addition]).map Machine.Event.input = [Sample.secondCreation] := by decide +kernel
  rcases Option.isSome_iff_exists.mp exists_repo with ⟨repo, found⟩
  have alone := (repositories_do_not_interfere Sample.primitives (some Sample.keyPair) none
    [Sample.creation, Sample.secondCreation, Sample.addition] 1 repo found).1
  refine ⟨repo, found, ?_⟩
  rw [← kept]
  exact alone

end Ta
end TrustChain

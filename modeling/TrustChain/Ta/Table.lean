import TrustChain.Ta.History

namespace TrustChain
namespace Ta

open Library Tee

/-!
# The table of repositories

`init_repo` puts a repository into its slot before it is complete and takes it
out again at each exit that fails.  Seen from outside, the slots in front of
`repo_num` are occupied and the others are not, so a number is handed out once
and every number handed out stays valid.
-/

/-- The number in the answer of a successful `init_repo`. -/
def createdId (event : TaEvent) : Option Nat :=
  if event.input.cmdId = cmdInitRepo then
    match event.output with
    | .ok (.genesis repId _) => some repId.toNat
    | _ => none
  else none

/-- The numbers handed out so far, in order. -/
def createdIds (log : List TaEvent) : List Nat :=
  log.filterMap createdId

section Events

variable {state after : TaState} {call : Call} {answer : TeeResult Output}

theorem createdId_error {code : TeeError} :
    createdId ⟨state, call, .error code, after⟩ = none := by
  unfold createdId
  by_cases isInit : call.cmdId = cmdInitRepo
  · exact if_pos isInit
  · exact if_neg isInit

theorem createdId_of_command {command : UInt32} (isCommand : call.cmdId = command)
    (other : command ≠ cmdInitRepo) : createdId ⟨state, call, answer, after⟩ = none :=
  if_neg fun isInit => other (isCommand.symm.trans isInit)

/-- Only `init_repo` hands out a number. -/
theorem isInitRepo_of_createdId {repId : Nat}
    (given : createdId ⟨state, call, answer, after⟩ = some repId) : call.cmdId = cmdInitRepo := by
  by_contra other
  rw [createdId_of_command rfl other] at given
  cases given

theorem createdId_genesis (isCommand : call.cmdId = cmdInitRepo) (repId : UInt32)
    (block : AccessBlock) :
    createdId ⟨state, call, .ok (.genesis repId block), after⟩ = some repId.toNat :=
  if_pos isCommand

end Events

theorem createdIds_snoc (log : List TaEvent) (event : TaEvent) :
    createdIds (log ++ [event]) = createdIds log ++ (createdId event).toList := by
  unfold createdIds
  rw [List.filterMap_append]
  cases given : createdId event with
  | none => rw [List.filterMap_cons_none given]; rfl
  | some repId => rw [List.filterMap_cons_some given]; rfl

/-- One command hands out the next number or none. -/
theorem Effect.createdIds {primitives : Primitives} {state after : TaState} {call : Call}
    {answer : TeeResult Output} (effect : Effect primitives state call answer after)
    {log : List TaEvent} (given : createdIds log = List.range state.repoNum.toNat) :
    createdIds (log ++ [⟨state, call, answer, after⟩]) = List.range after.repoNum.toNat := by
  have unnumbered : createdId ⟨state, call, answer, after⟩ = none →
      Ta.createdIds (log ++ [⟨state, call, answer, after⟩]) = List.range state.repoNum.toNat := by
    intro none
    rw [createdIds_snoc, none, given]
    exact List.append_nil _
  cases effect with
  | refused code store notAccess => exact unnumbered createdId_error
  | hashRead repo signature store isCommand found signed =>
      exact unnumbered (createdId_of_command isCommand (by decide))
  | keyRead pem pemLen isCommand => exact unnumbered (createdId_of_command isCommand (by decide))
  | interrupted repo edited reply code store accepted updated fails =>
      exact unnumbered createdId_error
  | accessAppended repo edited teeSig store accepted updated signed =>
      exact unnumbered (createdId_of_command accepted.1 (by decide))
  | contributionAppended repo teeSig encryptedKey signedStore store accepted signed =>
      exact unnumbered (createdId_of_command accepted.1 (by decide))
  | created teeSig store isCommand inside signed =>
      rw [createdIds_snoc, createdId_genesis isCommand, given]
      change _ = List.range (state.repoNum + 1).toNat
      rw [TableInvariant.toNat_repoNum_add_one inside, List.range_succ]
      rfl

/-- What the handlers rely on when they look up a repository. -/
structure RepositoryTable (state : TaState) : Prop where
  bounded : state.repoNum.toNat ≤ maxRepoId
  occupied : ∀ index : Fin maxRepoId,
    state.repositories index ≠ none ↔ index.val < state.repoNum.toNat
  allocated : ∀ index repo, state.repositories index = some repo →
    repo.adminKeys ≠ none ∧ repo.writerKeys ≠ none
  validated : ∀ repId : UInt32,
    (∃ repo, validateAndGetRepo state repId = .ok repo) ↔ repId.toNat < state.repoNum.toNat

theorem TaState.slot_val (state : TaState) (index : Fin maxRepoId) :
    state.slot index.val = state.repositories index :=
  dif_pos index.isLt

theorem validateAndGetRepo_eq_ok_iff {state : TaState} {repId : UInt32} {repo : RepoMetadata} :
    validateAndGetRepo state repId = .ok repo ↔ state.slot repId.toNat = some repo := by
  cases found : state.slot repId.toNat with
  | none => simp [validateAndGetRepo_none found]
  | some stored => simp [validateAndGetRepo_some found]

theorem TableInvariant.repositoryTable {state : TaState} (table : TableInvariant state) :
    RepositoryTable state where
  bounded := table.bounded
  occupied := fun index => by
    rw [← table.occupied index.val, TaState.slot_val, Option.ne_none_iff_exists']
  allocated := fun index repo found => by
    rw [← TaState.slot_val] at found
    rcases table.repositories _ repo found with ⟨admins, writers, invariant⟩
    rw [invariant.adminKeys, invariant.writerKeys]
    exact ⟨Option.some_ne_none admins, Option.some_ne_none writers⟩
  validated := fun repId => by
    simp only [validateAndGetRepo_eq_ok_iff]
    exact table.occupied repId.toNat

/-- In every reached state the table is in order, and the numbers handed out so
far are 0, 1, 2 and so on up to the current `repo_num`. -/
theorem repository_table_in_order (primitives : Primitives) (store : KeyStore)
    (calls : List Call) :
    RepositoryTable ((trustedApplication primitives store).run calls) ∧
    createdIds ((trustedApplication primitives store).log calls) =
      List.range ((trustedApplication primitives store).run calls).repoNum.toNat := by
  refine ⟨(run_tableInvariant primitives store calls).repositoryTable, ?_⟩
  apply (trustedApplication primitives store).log_invariant
    (fun log state => createdIds log = List.range state.repoNum.toNat) (fun _ => True)
  · rfl
  · intro calls call _ given
    exact (run_effect primitives store calls call).createdIds given
  · exact fun _ _ => trivial

end Ta
end TrustChain

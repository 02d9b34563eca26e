import TrustChain.Ta.Effects

namespace TrustChain
namespace Ta

open Library Tee

/-!
# What an answer depends on

`Effect` says what a command may leave behind; here it is the other direction,
what it takes to get an answer, and what the answer holds.  A successful command
is characterised by its request and the state.
-/

/-! ## The entry point, command by command -/

section EntryPoint

variable (primitives : Primitives) (state : TaState) {call : Call}

theorem invoke_initRepo (isCommand : call.cmdId = cmdInitRepo) :
    taInvokeCommandEntryPoint primitives state call =
      initRepo primitives call.outcomes call.paramTypes call.params.adminKey state := by
  unfold taInvokeCommandEntryPoint
  exact if_pos isCommand

theorem invoke_accessControl (isCommand : call.cmdId = cmdAccessControl) :
    taInvokeCommandEntryPoint primitives state call =
      accessControl primitives call.outcomes call.paramTypes call.params.acMsg state := by
  unfold taInvokeCommandEntryPoint
  rw [isCommand]
  exact (if_neg (by decide)).trans (if_pos rfl)

theorem invoke_getLatestHash (isCommand : call.cmdId = cmdGetLatestHash) :
    taInvokeCommandEntryPoint primitives state call =
      getLatestHash primitives call.outcomes call.paramTypes call.params.repId call.params.nonce
        state := by
  unfold taInvokeCommandEntryPoint
  rw [isCommand]
  exact (if_neg (by decide)).trans ((if_neg (by decide)).trans (if_pos rfl))

theorem invoke_commit (isCommand : call.cmdId = cmdCommit) :
    taInvokeCommandEntryPoint primitives state call =
      commit primitives call.outcomes call.paramTypes call.params.cmMsg call.params.encryptedKey
        state := by
  unfold taInvokeCommandEntryPoint
  rw [isCommand]
  exact (if_neg (by decide)).trans ((if_neg (by decide)).trans ((if_neg (by decide)).trans
    (if_pos rfl)))

end EntryPoint

/-! ## Successful requests -/

namespace Call

/-- An `access_control` request on this repository that nothing stops. -/
def AppendsAccess (primitives : Primitives) (state : TaState) (call : Call) (repId : Nat) : Prop :=
  ∃ repo edited, call.AccessAccepted primitives state repo ∧ call.accessRepo = repId ∧
    call.updateKeys repo = (.ok (), edited) ∧ call.Seals

/-- A `commit` request on this repository that nothing stops. -/
def AppendsContribution (primitives : Primitives) (state : TaState) (call : Call)
    (repId : Nat) : Prop :=
  ∃ repo, call.CommitAccepted primitives state repo ∧ call.commitRepo = repId ∧ call.Seals ∧
    call.Decrypts primitives

/-- The command will append a block to the chain of this repository. -/
def Appends (primitives : Primitives) (state : TaState) (call : Call) (repId : Nat) : Prop :=
  call.AppendsAccess primitives state repId ∨ call.AppendsContribution primitives state repId

end Call

/-- A refused command does not succeed. -/
theorem not_exists_ok (code : TeeError) :
    ¬ ∃ output, (Except.error code : TeeResult Output) = .ok output := by
  rintro ⟨output, impossible⟩
  cases impossible

section Successes

variable (primitives : Primitives) (state : TaState) (call : Call)

theorem initRepo_ok_iff (isCommand : call.cmdId = cmdInitRepo) :
    (∃ output, (taInvokeCommandEntryPoint primitives state call).1 = .ok output) ↔
      call.Creates state := by
  rw [invoke_initRepo primitives state isCommand]
  rcases initRepo_cases primitives state call isCommand with
    ⟨creates, teeSig, store, _, reply⟩ | ⟨refused, code, after, store, _, reply⟩
  · rw [reply]
    exact iff_of_true ⟨_, rfl⟩ creates
  · rw [reply]
    exact iff_of_false (not_exists_ok code) refused

theorem accessControl_ok_iff (isCommand : call.cmdId = cmdAccessControl) :
    (∃ output, (taInvokeCommandEntryPoint primitives state call).1 = .ok output) ↔
      call.AppendsAccess primitives state call.accessRepo := by
  rw [invoke_accessControl primitives state isCommand]
  rcases accessControl_cases primitives state call isCommand with
    ⟨refused, code, reply⟩ | ⟨repo, edited, answer, code, store, accepted, updated, fails, reply⟩ |
      ⟨repo, edited, teeSig, store, accepted, updated, signed, reply⟩
  · rw [reply]
    refine iff_of_false (not_exists_ok code) ?_
    rintro ⟨repo, _, accepted, _⟩
    exact refused repo accepted
  · rw [reply]
    refine iff_of_false (not_exists_ok code) ?_
    rintro ⟨stored, other, again, _, done, seals⟩
    have equal : some repo = some stored := accepted.slot.symm.trans again.slot
    cases equal
    rw [updated] at done
    exact fails (Prod.mk.inj done).1 seals
  · rw [reply]
    exact iff_of_true ⟨_, rfl⟩
      ⟨repo, edited, accepted, rfl, updated, signed.hashed, signed.signs⟩

theorem getLatestHash_ok_iff (isCommand : call.cmdId = cmdGetLatestHash) :
    (∃ output, (taInvokeCommandEntryPoint primitives state call).1 = .ok output) ↔
      (∃ repo, call.AsksHash state repo) ∧ call.Seals := by
  rw [invoke_getLatestHash primitives state isCommand]
  rcases getLatestHash_cases primitives state call isCommand with
    ⟨repo, signature, store, asks, seals, _, reply⟩ | ⟨refused, code, store, reply⟩
  · rw [reply]
    exact iff_of_true ⟨_, rfl⟩ ⟨⟨repo, asks⟩, seals⟩
  · rw [reply]
    refine iff_of_false (not_exists_ok code) ?_
    rintro ⟨⟨repo, asks⟩, seals⟩
    exact refused repo asks seals

theorem commit_ok_iff (isCommand : call.cmdId = cmdCommit) :
    (∃ output, (taInvokeCommandEntryPoint primitives state call).1 = .ok output) ↔
      call.AppendsContribution primitives state call.commitRepo := by
  rw [invoke_commit primitives state isCommand]
  rcases commit_cases primitives state call isCommand with
    ⟨repo, teeSig, text, _, store, accepted, signed, decrypted, reply⟩ |
      ⟨refused, code, store, reply⟩
  · rw [reply]
    exact iff_of_true ⟨_, rfl⟩
      ⟨repo, accepted, rfl, ⟨signed.hashed, signed.signs⟩, text, decrypted⟩
  · rw [reply]
    refine iff_of_false (not_exists_ok code) ?_
    rintro ⟨repo, accepted, _, seals, decrypts⟩
    exact refused repo accepted seals decrypts

/-- The text that a successful commit hands back is the decrypted key. -/
theorem commit_output (isCommand : call.cmdId = cmdCommit) {output : Output}
    (answered : (taInvokeCommandEntryPoint primitives state call).1 = .ok output) :
    ∃ block text, output = .contribution block text ∧
      (teeDecryptData primitives call.outcomes.decrypt call.params.encryptedKey none).1 =
        .ok text := by
  rw [invoke_commit primitives state isCommand] at answered
  rcases commit_cases primitives state call isCommand with
    ⟨_, _, text, _, _, _, _, decrypted, reply⟩ | ⟨_, code, store, reply⟩
  · rw [reply] at answered
    cases answered
    exact ⟨_, text, rfl, decrypted⟩
  · rw [reply] at answered
    cases answered

end Successes

end Ta
end TrustChain

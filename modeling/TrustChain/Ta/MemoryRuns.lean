import Mathlib.Algebra.BigOperators.Ring.Finset
import TrustChain.Ta.MemoryCreation

namespace TrustChain
namespace Ta

open Library Tee

/-!
# Runs of the application in its memory

As long as the founder's keys and the decrypted keys end in their arrays, every
command goes through in every memory that a run can lead to: no pointer leads to
something that is not allocated, nothing is freed that is not, and nothing is
copied over the fields of a structure.  The answers are those of the application
of `Commands`, for some answers of the allocator, and what is allocated is always
what the repositories consist of.
-/

section Runs

variable {Address : Type} [DecidableEq Address] [Fintype Address]
variable {memory : TaMemory Address} {placed : Nat → Option (PlacedRepo Address)}
variable {state : TaState}

/-! ## One command -/

/-- The texts that the command copies without a limit end in their arrays: the
founder's key in its field, and the decrypted key in `decrypted_key`. -/
structure Call.CopiesFit (primitives : Primitives) (call : Call) : Prop where
  adminKey : call.cmdId = cmdInitRepo → call.params.adminKey.length < maxKeyLength
  decryptedKey : call.cmdId = cmdCommit → ∀ key,
    (teeDecryptData primitives call.outcomes.decrypt call.params.encryptedKey none).1 = .ok key →
      key.length < sizeofDecryptedKey

omit [DecidableEq Address] [Fintype Address] in
theorem Creates.agrees (mirrors : Mirrors memory placed state)
    {inMemory : Option (TeeResult Output × TaMemory Address)}
    {result : TeeResult Output × TaState} (creates : Creates memory state inMemory result) :
    Agrees inMemory result := by
  rcases creates with ⟨code, store, does, does'⟩ | ⟨output, after, others, does, does', again⟩
  · rw [does, does']
    exact (mirrors.setKeyStore store).agrees _
  · refine ⟨.ok output, after, others, does, ?_, again⟩
    rw [does']
    exact .same _

/-- The command is this one, up to the answers of the allocator. -/
def StandsFor (input : PlacedCall Address) (call : Call) : Prop :=
  ∃ allocations, call = input.call.withAllocations allocations

variable (Address)

variable (primitives : Primitives) (gap : Nat) (store : KeyStore)

variable (inputs : List (PlacedCall Address))

namespace Sample

end Sample

variable {Address}

/-- Nothing has changed but secure storage. -/
def TaMemory.SameButStore (before after : TaMemory Address) : Prop :=
  ∃ store, after = before.setKeyStore store

omit [DecidableEq Address] [Fintype Address] in
theorem TaMemory.SameButStore.refl (before : TaMemory Address) : before.SameButStore before :=
  ⟨before.keyStore, rfl⟩

section Failures

variable {primitives} {code : TeeError} {after : TaMemory Address} {outcomes : CallOutcomes}
variable {paramTypes : UInt32}

omit [DecidableEq Address] [Fintype Address] in
theorem getLatestHashAt_failed {id nonce : UInt32}
    (failed : getLatestHashAt memory primitives outcomes paramTypes id nonce =
      some (.error code, after)) : memory.SameButStore after := by
  unfold getLatestHashAt at failed
  by_cases types : paramTypes ≠ teeParamTypes valueInput valueInput memrefOutput memrefOutput
  · rw [if_pos types] at failed
    cases failed
    exact .refl memory
  rw [if_neg types] at failed
  cases found : validateAndGetRepoAt memory id with
  | error code =>
      rw [found] at failed
      cases failed
      exact .refl memory
  | ok repo =>
      rw [found] at failed
      rcases Option.bind_eq_some_iff.mp failed with ⟨cell, _, signs⟩
      rcases signed : teeSignData primitives outcomes.hash outcomes.sign
          (latestHashMsg nonce cell.fields.latestText) memory.keyStore with ⟨code | signature, store⟩
      · simp only [signed] at signs
        cases signs
        exact ⟨store, rfl⟩
      · simp only [signed] at signs
        cases signs

theorem commitOnHeap_failed {gap : Nat} {stack : Region} {msg : CommitMessage}
    {encryptedKey : CString}
    (failed : commitOnHeap memory primitives gap stack outcomes paramTypes msg encryptedKey =
      some (.error code, after)) : memory.SameButStore after := by
  rcases Option.bind_eq_some_iff.mp failed with ⟨code | repo, _, rest⟩
  · cases rest
    exact .refl memory
  rcases Option.bind_eq_some_iff.mp rest with ⟨cell, _, seals⟩
  simp only at seals
  generalize hashAndSign primitives outcomes.sign _ memory.keyStore = sealed at seals
  rcases sealed with ⟨code | ⟨blockHash, teeSig⟩, signed⟩
  · cases seals
    exact ⟨signed, rfl⟩
  rcases decrypted : teeDecryptData primitives outcomes.decrypt encryptedKey signed with
    ⟨code | decryptedKey, store⟩
  · simp only [decrypted] at seals
    cases seals
    exact ⟨store, rfl⟩
  · simp only [decrypted] at seals
    rcases Option.bind_eq_some_iff.mp seals with ⟨advanced, _, done⟩
    cases done

omit [DecidableEq Address] [Fintype Address] in
theorem Creates.failed {inMemory : Option (TeeResult Output × TaMemory Address)}
    {result : TeeResult Output × TaState} (creates : Creates memory state inMemory result)
    (failed : inMemory = some (.error code, after)) : memory.SameButStore after := by
  rcases creates with ⟨code, store, does, _⟩ | ⟨output, other, _, does, _⟩
  · rw [does] at failed
    cases failed
    exact ⟨store, rfl⟩
  · rw [does] at failed
    cases failed

/-- Everything that a failing command has allocated is taken back; only an
`access_control` can fail after a change of a list. -/
theorem Mirrors.failed (mirrors : Mirrors memory placed state) (table : TableInvariant state)
    {gap : Nat} {input : PlacedCall Address} (fits : input.call.CopiesFit primitives)
    (notAccess : input.call.cmdId ≠ cmdAccessControl)
    (failed : taInvokeCommandEntryPointAt memory primitives gap input =
      some (.error code, after)) :
    memory.SameButStore after := by
  unfold taInvokeCommandEntryPointAt at failed
  simp only [if_neg notAccess] at failed
  by_cases init : input.call.cmdId = cmdInitRepo
  · rw [if_pos init] at failed
    rcases initRepoAt_creates mirrors input.places input.call.params.adminKey table primitives
      input.call.outcomes input.call.paramTypes (fits.adminKey init) with ⟨_, _, creates⟩
    exact creates.failed failed
  rw [if_neg init] at failed
  by_cases latest : input.call.cmdId = cmdGetLatestHash
  · rw [if_pos latest] at failed
    exact getLatestHashAt_failed failed
  rw [if_neg latest] at failed
  by_cases isCommit : input.call.cmdId = cmdCommit
  · rw [if_pos isCommit] at failed
    exact commitOnHeap_failed failed
  rw [if_neg isCommit] at failed
  by_cases pubkey : input.call.cmdId = cmdGetTeePubkey
  · rw [if_pos pubkey] at failed
    rw [Option.some.injEq, Prod.mk.injEq] at failed
    rw [← failed.2]
    exact .refl memory
  · rw [if_neg pubkey] at failed
    cases failed
    exact .refl memory

end Failures

variable (Address)

namespace Sample

end Sample

variable {Address}

def RepoCell.keys (cell : RepoCell Address) : MemberList → Option Address
  | .admins => cell.adminKeys
  | .writers => cell.writerKeys

section Reachability

variable (mirrors : Mirrors memory placed state)

include mirrors

end Reachability

variable (Address)

variable {Address}

section Counting

variable (mirrors : Mirrors memory placed state) (table : TableInvariant state)

include mirrors table

end Counting

variable (Address)

end Runs

end Ta
end TrustChain

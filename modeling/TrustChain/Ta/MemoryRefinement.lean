import TrustChain.Ta.Invariant
import TrustChain.Ta.KeyReturn
import TrustChain.Ta.MemoryLayout

namespace TrustChain
namespace Ta

open Library Tee

/-!
# The application in memory does what the application does

Handler by handler, the functions of `RepositoryMemory` go through on every
memory that consists of whole repositories, answer as those of `Commands` do on
the repositories themselves, and leave such a memory again.  What the allocator
answers in `Commands` is settled by the addresses that it names here.
-/

/-- What the allocator answers during one command. -/
structure Allocations where
  repo : Bool
  adminKeys : Bool
  writerKeys : Bool
  node : NodeOutcomes

/-- The same command with other answers of the allocator. -/
def Call.withAllocations (call : Call) (allocations : Allocations) : Call :=
  { call with
    outcomes :=
      { call.outcomes with
        mallocRepo := allocations.repo
        mallocAdminKeys := allocations.adminKeys
        mallocWriterKeys := allocations.writerKeys
        node := allocations.node } }

section Handlers

variable {Address : Type} [DecidableEq Address] [Fintype Address]
variable {memory : TaMemory Address} {placed : Nat → Option (PlacedRepo Address)}
variable {state : TaState} {repId : Nat} {repo : PlacedRepo Address}

/-- What is answered in memory.  A text behind the latest hash is handed out with
it, and signed with it. -/
inductive AnswersAs : TeeResult Output → TeeResult Output → Prop
  | same (answer : TeeResult Output) : AnswersAs answer answer
  | behindHash (nonce : UInt32) (text signature signed : CString)
      (longer : maxHashLength < text.length) :
      AnswersAs (.ok (.latestHash nonce text signature))
        (.ok (.latestHash nonce (text.take maxHashLength) signed))

/-- The command goes through in memory, with this answer, and leaves the memory
of this state. -/
def Agrees (inMemory : Option (TeeResult Output × TaMemory Address))
    (result : TeeResult Output × TaState) : Prop :=
  ∃ answer after placed, inMemory = some (answer, after) ∧ AnswersAs answer result.1 ∧
    Mirrors after placed result.2

omit [DecidableEq Address] [Fintype Address] in
theorem Mirrors.agrees (mirrors : Mirrors memory placed state) (answer : TeeResult Output) :
    Agrees (some (answer, memory)) (answer, state) :=
  ⟨answer, memory, placed, rfl, .same answer, mirrors⟩

omit [DecidableEq Address] [Fintype Address] in
theorem Mirrors.same (mirrors : Mirrors memory placed state)
    (found : placed repId = some repo) :
    Mirrors memory (Function.update placed repId (some repo))
      (state.setSlot repId (some repo.metadata)) := by
  rw [← found, Function.update_eq_self, ← mirrors.slot_eq found, state.setSlot_slot]
  exact mirrors

/-! ## Looking up a repository -/

/-- The same repository is found in memory and in the state, or none in either. -/
inductive Finds (placed : Nat → Option (PlacedRepo Address)) (repId : Nat) :
    Option (TeeResult Address) → TeeResult RepoMetadata → Prop
  | refused (code : TeeError) : Finds placed repId (some (.error code)) (.error code)
  | found (repo : PlacedRepo Address) (here : placed repId = some repo) :
      Finds placed repId (some (.ok repo.address)) (.ok repo.metadata)

variable (primitives : Primitives) (outcomes : CallOutcomes) (paramTypes : UInt32)

omit [Fintype Address] in
theorem Mirrors.add (mirrors : Mirrors memory placed state) (found : placed repId = some repo)
    (list : MemberList) (places : NodePlaces Address) (key : CString) :
    memory.heaps.addKeyToSet (some (repo.list list).address) places key =
        some (.error .outOfMemory, memory.heaps) ∨
      ∃ heaps new, memory.heaps.addKeyToSet (some (repo.list list).address) places key =
          some (.ok (), heaps) ∧
        Mirrors (memory.setHeaps heaps)
          (Function.update placed repId (some (repo.setList list new)))
          (state.setSlot repId (some (repo.setList list new).metadata)) ∧
        new.keyList = ⟨key :: (repo.list list).keyList.nodes, (repo.list list).keyList.count + 1⟩ := by
  rcases (mirrors.whole found list).addKeyToSet_cases places key with
    failed | ⟨heaps, new, added, step, address, keys⟩
  · exact Or.inl failed
  · exact Or.inr ⟨heaps, new, added, mirrors.setList found step address, keys⟩

section Branches

variable (mirrors : Mirrors memory placed state) (found : placed repId = some repo)
variable (places : Places Address) (pubkey : CString)

include mirrors found

end Branches

/-! ## Appending a block -/

section Appending

variable (mirrors : Mirrors memory placed state) (found : placed repId = some repo)

include mirrors found

end Appending

end Handlers

end Ta
end TrustChain

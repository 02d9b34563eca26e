import TrustChain.Ta.RepositoryMemory

namespace TrustChain
namespace Ta

open Library Tee

/-!
# What is where in the memory of the application

The memory consists of the structures that the table points to and of their
lists, each in its place, and of nothing else: these places determine it.  While
a repository is being created, its slot may hold a structure whose lists are not
there yet; between two commands every structure has both of its lists.
-/

deriving instance DecidableEq for MemberList

/-- A `struct repo_metadata` in its place. -/
structure PlacedCell (Address : Type) where
  address : Address
  cell : RepoCell Address

/-- The address of a structure, if there is one. -/
def addressOf {Address : Type} : Option (PlacedCell Address) → Address → Prop
  | none, _ => False
  | some placed, address => address = placed.address

/-- Each list belongs to a slot of the table, where it is one of two. -/
abbrev ListOwner := Nat × MemberList

/-! ## The two lists of a slot -/

section SlotLists

variable {Address : Type}

/-- Other lists in one slot. -/
def withLists (lists : ListOwner → Option (PlacedList Address)) (repId : Nat)
    (admins writers : Option (PlacedList Address)) : ListOwner → Option (PlacedList Address) :=
  Function.update (Function.update lists (repId, .admins) admins) (repId, .writers) writers

variable (lists : ListOwner → Option (PlacedList Address)) (repId : Nat)
variable (admins writers new : Option (PlacedList Address))

theorem admins_ne_writers : (repId, MemberList.admins) ≠ (repId, MemberList.writers) := by
  intro same
  cases congrArg Prod.snd same

@[simp] theorem withLists_admins : withLists lists repId admins writers (repId, .admins) =
    admins := by
  rw [withLists, Function.update_of_ne (admins_ne_writers repId), Function.update_self]

@[simp] theorem withLists_writers : withLists lists repId admins writers (repId, .writers) =
    writers := by
  rw [withLists, Function.update_self]

theorem update_withLists_admins :
    Function.update (withLists lists repId admins writers) (repId, .admins) new =
      withLists lists repId new writers := by
  rw [withLists, withLists, Function.update_comm (admins_ne_writers repId),
    Function.update_idem]
  exact Function.update_comm (admins_ne_writers repId).symm writers new lists

theorem update_withLists_writers :
    Function.update (withLists lists repId admins writers) (repId, .writers) new =
      withLists lists repId admins new := by
  rw [withLists, withLists, Function.update_idem]

theorem withLists_self (admins : lists (repId, .admins) = none)
    (writers : lists (repId, .writers) = none) : withLists lists repId none none = lists := by
  have first : Function.update lists (repId, .admins) none = lists := by
    rw [← admins, Function.update_eq_self]
  rw [withLists, first, ← writers, Function.update_eq_self]

end SlotLists

/-- The memory consists of these structures and lists. -/
structure TaMemory.Holds {Address : Type} (memory : TaMemory Address)
    (cells : Nat → Option (PlacedCell Address))
    (lists : ListOwner → Option (PlacedList Address)) : Prop where
  table : ∀ repId, memory.pointer repId = (cells repId).map PlacedCell.address
  owned : memory.repos.OwnedBy fun repId => addressOf (cells repId)
  stored : ∀ repId placed, cells repId = some placed →
    memory.repos placed.address = some placed.cell
  lists : HoldsLists memory.heaps lists

section Table

variable {Address : Type} (memory : TaMemory Address)

theorem TaMemory.pointer_setPointer_self {repId : Nat} (inside : repId < maxRepoId)
    (value : Option Address) : (memory.setPointer repId value).pointer repId = value := by
  simp [pointer, setPointer, inside]

theorem TaMemory.pointer_setPointer_of_ne {repId other : Nat} (different : other ≠ repId)
    (value : Option Address) :
    (memory.setPointer repId value).pointer other = memory.pointer other := by
  simp [pointer, setPointer, different]

/-- Storing what an entry already holds changes nothing. -/
theorem TaMemory.setPointer_pointer (repId : Nat) :
    memory.setPointer repId (memory.pointer repId) = memory := by
  cases memory with
  | mk repoNum repositories repos heaps keyStore =>
      simp only [setPointer, pointer, TaMemory.mk.injEq, and_true, true_and]
      funext index
      by_cases same : index.val = repId
      · subst same
        rw [if_pos rfl, dif_pos index.isLt]
      · rw [if_neg same]

end Table

namespace TaMemory.Holds

variable {Address : Type} {memory other : TaMemory Address}
variable {cells : Nat → Option (PlacedCell Address)}
variable {lists : ListOwner → Option (PlacedList Address)} {repId : Nat}

/-- The places determine the memory. -/
theorem unique (holds : memory.Holds cells lists) (same : other.Holds cells lists)
    (repoNum : other.repoNum = memory.repoNum) : other = memory.setKeyStore other.keyStore := by
  have repositories : other.repositories = memory.repositories := by
    funext index
    have pointers := (same.table index.val).trans (holds.table index.val).symm
    simp only [TaMemory.pointer, dif_pos index.isLt] at pointers
    exact pointers
  have repos : other.repos = memory.repos := by
    apply holds.owned.eq_of_agree same.owned
    intro repId address has
    cases found : cells repId with
    | none =>
        rw [found] at has
        exact has.elim
    | some placed =>
        rw [found] at has
        cases has
        rw [holds.stored repId placed found, same.stored repId placed found]
  have heaps : other.heaps = memory.heaps := holds.lists.unique same.lists
  cases other
  cases memory
  cases repositories
  cases repos
  cases heaps
  cases repoNum
  rfl

theorem setKeyStore (holds : memory.Holds cells lists) (store : KeyStore) :
    (memory.setKeyStore store).Holds cells lists :=
  ⟨holds.table, holds.owned, holds.stored, holds.lists⟩

theorem inside (holds : memory.Holds cells lists) {placed : PlacedCell Address}
    (found : cells repId = some placed) : repId < maxRepoId := by
  by_contra outside
  have pointer := holds.table repId
  rw [found, TaMemory.pointer, dif_neg outside] at pointer
  cases pointer

theorem pointer_eq (holds : memory.Holds cells lists) {placed : PlacedCell Address}
    (found : cells repId = some placed) : memory.pointer repId = some placed.address := by
  rw [holds.table repId, found]
  rfl

/-- A step on one of the lists. -/
theorem listStep {heaps : KeyListHeaps Address} {owner : ListOwner}
    {new : Option (PlacedList Address)} (holds : memory.Holds cells lists)
    (step : ListStep memory.heaps heaps (lists owner) new) :
    (memory.setHeaps heaps).Holds cells (Function.update lists owner new) :=
  ⟨holds.table, holds.owned, holds.stored, step.holds holds.lists⟩

/-- A step on the structures that puts this one into the slot. -/
theorem cellStep {repos : Heap Address (RepoCell Address)} {new : Option (PlacedCell Address)}
    (holds : memory.Holds cells lists) (inside : repId < maxRepoId)
    (replaces : memory.repos.Replaces repos (addressOf (cells repId)) (addressOf new))
    (stored : ∀ placed, new = some placed → repos placed.address = some placed.cell) :
    ((memory.setRepos repos).setPointer repId (new.map PlacedCell.address)).Holds
      (Function.update cells repId new) lists where
  table := fun other => by
    by_cases same : other = repId
    · rw [same, TaMemory.pointer_setPointer_self _ inside, Function.update_self]
    · rw [TaMemory.pointer_setPointer_of_ne _ same, Function.update_of_ne same]
      exact holds.table other
  owned := replaces.owned holds.owned
  stored := fun other placed found => by
    by_cases same : other = repId
    · rw [same, Function.update_self] at found
      exact stored placed found
    · rw [Function.update_of_ne same] at found
      have has : addressOf (cells other) placed.address := by
        rw [found]
        exact rfl
      exact (replaces.kept holds.owned same has).trans (holds.stored other placed found)
  lists := holds.lists

variable [DecidableEq Address]

theorem updateRepo (holds : memory.Holds cells lists) {placed : PlacedCell Address}
    (found : cells repId = some placed) (assign : RepoCell Address → RepoCell Address) :
    ∃ after, memory.updateRepo placed.address assign = some after ∧
      after.Holds (Function.update cells repId (some ⟨placed.address, assign placed.cell⟩)) lists ∧
      after.repoNum = memory.repoNum ∧ after.keyStore = memory.keyStore := by
  have replaces : memory.repos.Replaces (memory.repos.store placed.address (assign placed.cell))
      (addressOf (cells repId)) (addressOf (some ⟨placed.address, assign placed.cell⟩)) := by
    rw [found]
    exact Heap.replaces_store _
  have stays := holds.cellStep (holds.inside found) replaces fun new same => by
    cases same
    exact memory.repos.store_self _ _
  have pointer : some placed.address = (memory.setRepos
      (memory.repos.store placed.address (assign placed.cell))).pointer repId :=
    (holds.pointer_eq found).symm
  refine ⟨memory.setRepos (memory.repos.store placed.address (assign placed.cell)), ?_, ?_,
    rfl, rfl⟩
  · simp only [TaMemory.updateRepo, holds.stored repId placed found, Option.bind_eq_bind,
      Option.bind_some, Option.pure_def]
  · rw [Option.map_some, pointer, TaMemory.setPointer_pointer] at stays
    exact stays

variable [Fintype Address]

/-- Nothing is left of the repository in the slot. -/
theorem cleanupRepoResources (holds : memory.Holds cells lists) {id : UInt32}
    {placed : PlacedCell Address} (found : cells id.toNat = some placed)
    (admins : placed.cell.adminKeys = (lists (id.toNat, .admins)).map PlacedList.address)
    (writers : placed.cell.writerKeys = (lists (id.toNat, .writers)).map PlacedList.address) :
    ∃ after, cleanupRepoResourcesAt memory id = some after ∧
      after.Holds (Function.update cells id.toNat none) (withLists lists id.toNat none none) ∧
      after.repoNum = memory.repoNum ∧ after.keyStore = memory.keyStore := by
  have different := (admins_ne_writers id.toNat).symm
  rcases cleanUp_step holds.lists (id.toNat, .admins) with ⟨middle, first, firstStep⟩
  have between := holds.listStep firstStep
  rcases cleanUp_step between.lists (id.toNat, .writers) with ⟨heaps, second, secondStep⟩
  rw [Function.update_of_ne different] at second
  have emptied := between.listStep secondStep
  have held : memory.repos placed.address ≠ none := by
    rw [holds.stored _ placed found]
    exact Option.some_ne_none _
  have replaces : memory.repos.Replaces (Function.update memory.repos placed.address none)
      (addressOf (cells id.toNat)) (addressOf none) := by
    rw [found]
    exact Heap.replaces_free
  have gone := emptied.cellStep (holds.inside found) replaces fun new same => by cases same
  refine ⟨_, ?_, gone, rfl, rfl⟩
  have secondCall : middle.cleanUp placed.cell.writerKeys = some heaps := by
    rw [writers]
    exact second
  rw [cleanupRepoResourcesAt, if_neg (Nat.not_le.mpr (holds.inside found))]
  simp only [holds.pointer_eq found, holds.stored _ placed found, admins,
    first, secondCall, Heap.free_eq held, Option.bind_eq_bind, Option.bind_some, Option.pure_def]
  rfl

end TaMemory.Holds

/-! ## Between two commands -/

/-- A repository with the places of everything that it consists of.  Its founder's
key is recorded beside them, since the structure does not keep it. -/
structure PlacedRepo (Address : Type) where
  address : Address
  fields : RepoFields
  founderKey : CString
  admins : PlacedList Address
  writers : PlacedList Address

namespace PlacedRepo

variable {Address : Type} (repo : PlacedRepo Address)

def cell : RepoCell Address where
  fields := repo.fields
  adminKeys := some repo.admins.address
  writerKeys := some repo.writers.address

def placedCell : PlacedCell Address := ⟨repo.address, repo.cell⟩

/-- The repository itself. -/
def metadata : RepoMetadata where
  blockHeight := repo.fields.blockHeight
  latestHash := repo.fields.latestHash
  founderKey := repo.founderKey
  adminKeys := some repo.admins.keyList
  writerKeys := some repo.writers.keyList

def list : MemberList → PlacedList Address
  | .admins => repo.admins
  | .writers => repo.writers

def setList (list : MemberList) (new : PlacedList Address) : PlacedRepo Address :=
  match list with
  | .admins => { repo with admins := new }
  | .writers => { repo with writers := new }

def setFields (fields : RepoFields) : PlacedRepo Address :=
  { repo with fields := fields }

/-- A list that stays in its place leaves the structure as it is. -/
theorem placedCell_setList (list : MemberList) {new : PlacedList Address}
    (address : new.address = (repo.list list).address) :
    (repo.setList list new).placedCell = repo.placedCell := by
  cases list with
  | admins =>
      have same : new.address = repo.admins.address := address
      simp only [placedCell, cell, setList, same]
  | writers =>
      have same : new.address = repo.writers.address := address
      simp only [placedCell, cell, setList, same]

end PlacedRepo

section Settled

variable {Address : Type}

def cellsOf (placed : Nat → Option (PlacedRepo Address)) (repId : Nat) :
    Option (PlacedCell Address) :=
  (placed repId).map PlacedRepo.placedCell

def listsOf (placed : Nat → Option (PlacedRepo Address)) (owner : ListOwner) :
    Option (PlacedList Address) :=
  (placed owner.1).map fun repo => repo.list owner.2

/-- The memory consists of whole repositories, and these are the repositories of
the state. -/
structure Mirrors (memory : TaMemory Address) (placed : Nat → Option (PlacedRepo Address))
    (state : TaState) : Prop where
  holds : memory.Holds (cellsOf placed) (listsOf placed)
  repoNum : memory.repoNum = state.repoNum
  keyStore : memory.keyStore = state.keyStore
  slots : ∀ repId, state.slot repId = (placed repId).map PlacedRepo.metadata

variable (placed : Nat → Option (PlacedRepo Address)) (repId : Nat) (repo : PlacedRepo Address)

theorem cellsOf_update : cellsOf (Function.update placed repId (some repo)) =
    Function.update (cellsOf placed) repId (some repo.placedCell) := by
  funext other
  unfold cellsOf
  by_cases same : other = repId
  · rw [same, Function.update_self, Function.update_self]
    rfl
  · rw [Function.update_of_ne same, Function.update_of_ne same]

theorem listsOf_update : listsOf (Function.update placed repId (some repo)) =
    withLists (listsOf placed) repId (some repo.admins) (some repo.writers) := by
  funext owner
  rcases owner with ⟨other, list⟩
  by_cases same : other = repId
  · subst same
    cases list with
    | admins =>
        rw [withLists_admins, listsOf, Function.update_self]
        rfl
    | writers =>
        rw [withLists_writers, listsOf, Function.update_self]
        rfl
  · have different : ∀ role, (other, list) ≠ (repId, role) := by
      intro role equal
      exact same (congrArg Prod.fst equal)
    rw [withLists, Function.update_of_ne (different .writers),
      Function.update_of_ne (different .admins), listsOf, Function.update_of_ne same]
    rfl

variable {placed repId repo}

/-- What is written over is replaced by itself. -/
theorem withLists_of_found (found : placed repId = some repo) :
    withLists (listsOf placed) repId (some repo.admins) (some repo.writers) = listsOf placed := by
  rw [← listsOf_update, ← found, Function.update_eq_self]

namespace Mirrors

variable {memory : TaMemory Address} {state : TaState} (mirrors : Mirrors memory placed state)

include mirrors

theorem slot_eq (found : placed repId = some repo) : state.slot repId = some repo.metadata := by
  rw [mirrors.slots repId, found]
  rfl

theorem pointer_eq (repId : Nat) :
    memory.pointer repId = (placed repId).map PlacedRepo.address := by
  rw [mirrors.holds.table repId, cellsOf, Option.map_map]
  rfl

theorem inside (found : placed repId = some repo) : repId < maxRepoId :=
  TaState.inside_of_slot (mirrors.slot_eq found)

theorem cell_eq (found : placed repId = some repo) :
    memory.repos repo.address = some repo.cell :=
  mirrors.holds.stored repId repo.placedCell (by rw [cellsOf, found]; rfl)

/-- A list of the repository is where it is said to be. -/
theorem whole (found : placed repId = some repo) (list : MemberList) :
    (repo.list list).InMemory memory.heaps :=
  mirrors.holds.lists.whole (repId, list) (repo.list list) (by rw [listsOf, found]; rfl)

theorem setKeyStore (store : KeyStore) :
    Mirrors (memory.setKeyStore store) placed (state.setKeyStore store) :=
  ⟨mirrors.holds.setKeyStore store, mirrors.repoNum, rfl, mirrors.slots⟩

/-- The repository in one slot has become another one. -/
theorem update (inside : repId < maxRepoId) {after : TaMemory Address}
    (holds : after.Holds (cellsOf (Function.update placed repId (some repo)))
      (listsOf (Function.update placed repId (some repo))))
    (repoNum : after.repoNum = memory.repoNum) (keyStore : after.keyStore = memory.keyStore) :
    Mirrors after (Function.update placed repId (some repo))
      (state.setSlot repId (some repo.metadata)) where
  holds := holds
  repoNum := repoNum.trans mirrors.repoNum
  keyStore := keyStore.trans mirrors.keyStore
  slots := fun other => by
    by_cases same : other = repId
    · rw [same, state.slot_setSlot_self inside, Function.update_self]
      rfl
    · rw [state.slot_setSlot_of_ne same, Function.update_of_ne same]
      exact mirrors.slots other

/-- Steps on the lists of one repository, which stay where they are. -/
theorem setLists (found : placed repId = some repo) {heaps : KeyListHeaps Address}
    {changed : PlacedRepo Address} (sameCell : changed.placedCell = repo.placedCell)
    (holds : (memory.setHeaps heaps).Holds (cellsOf placed)
      (withLists (listsOf placed) repId (some changed.admins) (some changed.writers))) :
    Mirrors (memory.setHeaps heaps) (Function.update placed repId (some changed))
      (state.setSlot repId (some changed.metadata)) := by
  have sameCells : Function.update (cellsOf placed) repId (some repo.placedCell) =
      cellsOf placed := by
    rw [← cellsOf_update, ← found, Function.update_eq_self]
  rw [← listsOf_update, ← sameCells, ← sameCell, ← cellsOf_update] at holds
  exact mirrors.update (mirrors.inside found) holds rfl rfl

theorem setList (found : placed repId = some repo) {list : MemberList}
    {heaps : KeyListHeaps Address} {new : PlacedList Address}
    (step : ListStep memory.heaps heaps (some (repo.list list)) (some new))
    (address : new.address = (repo.list list).address) :
    Mirrors (memory.setHeaps heaps) (Function.update placed repId (some (repo.setList list new)))
      (state.setSlot repId (some (repo.setList list new).metadata)) := by
  have holds := mirrors.holds
  rw [← withLists_of_found found] at holds
  apply mirrors.setLists found (repo.placedCell_setList list address)
  cases list with
  | admins =>
      rw [PlacedRepo.list,
        ← withLists_admins (listsOf placed) repId (some repo.admins) (some repo.writers)] at step
      have stepped := holds.listStep step
      rw [update_withLists_admins] at stepped
      exact stepped
  | writers =>
      rw [PlacedRepo.list,
        ← withLists_writers (listsOf placed) repId (some repo.admins) (some repo.writers)] at step
      have stepped := holds.listStep step
      rw [update_withLists_writers] at stepped
      exact stepped

/-- Stores into the fields of the structure that are no pointers. -/
theorem updateFields [DecidableEq Address] (found : placed repId = some repo)
    (assign : RepoFields → Option RepoFields) {fields : RepoFields}
    (assigned : assign repo.fields = some fields) :
    ∃ after, memory.updateFields repo.address assign = some after ∧
      Mirrors after (Function.update placed repId (some (repo.setFields fields)))
        (state.setSlot repId (some (repo.setFields fields).metadata)) := by
  have here : cellsOf placed repId = some repo.placedCell := by
    rw [cellsOf, found]
    rfl
  rcases mirrors.holds.updateRepo here fun cell => { cell with fields := fields } with
    ⟨after, updated, holds, repoNum, keyStore⟩
  have sameLists : listsOf placed =
      listsOf (Function.update placed repId (some (repo.setFields fields))) := by
    rw [listsOf_update]
    exact (withLists_of_found found).symm
  change after.Holds (Function.update (cellsOf placed) repId
    (some (repo.setFields fields).placedCell)) _ at holds
  rw [← cellsOf_update, sameLists] at holds
  refine ⟨after, ?_, mirrors.update (mirrors.inside found) holds repoNum keyStore⟩
  have assignedHere : assign repo.cell.fields = some fields := assigned
  simp only [TaMemory.updateFields, mirrors.cell_eq found, assignedHere, Option.bind_eq_bind,
    Option.bind_some]
  exact updated

end Mirrors
end Settled

end Ta
end TrustChain

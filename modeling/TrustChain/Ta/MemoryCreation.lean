import TrustChain.Ta.MemoryRefinement

namespace TrustChain
namespace Ta

open Library Tee

/-!
# `init_repo` in memory

The repository goes into the table as soon as it is allocated, and everything
that fails afterwards has to take it out again with all that was allocated since.
What `cleanup_repo_resources` leaves has the same repositories in the same places
as before the command; since these determine the memory, it is the same memory.
-/

section Creation

variable {Address : Type} [DecidableEq Address] [Fintype Address]
variable {memory other : TaMemory Address}

/-! ## Taking back what was begun -/

/-- Whatever a slot that was free has been given, the cleanup takes it all back. -/
theorem TaMemory.Holds.cleanup_restores {cells : Nat → Option (PlacedCell Address)}
    {lists : ListOwner → Option (PlacedList Address)} {id : UInt32}
    (before : memory.Holds cells lists) (noCell : cells id.toNat = none)
    (noAdmins : lists (id.toNat, .admins) = none) (noWriters : lists (id.toNat, .writers) = none)
    {begun : PlacedCell Address} {admins writers : Option (PlacedList Address)}
    (holds : other.Holds (Function.update cells id.toNat (some begun))
      (withLists lists id.toNat admins writers))
    (adminKeys : begun.cell.adminKeys = admins.map PlacedList.address)
    (writerKeys : begun.cell.writerKeys = writers.map PlacedList.address)
    (repoNum : other.repoNum = memory.repoNum) :
    cleanupRepoResourcesAt other id = some (memory.setKeyStore other.keyStore) := by
  have found : Function.update cells id.toNat (some begun) id.toNat = some begun :=
    Function.update_self _ _ _
  rw [← withLists_admins lists id.toNat admins writers] at adminKeys
  rw [← withLists_writers lists id.toNat admins writers] at writerKeys
  rcases holds.cleanupRepoResources found adminKeys writerKeys with
    ⟨after, cleaned, left, sameNum, sameStore⟩
  have noCells : Function.update (Function.update cells id.toNat (some begun)) id.toNat none =
      cells := by
    rw [Function.update_idem, ← noCell, Function.update_eq_self]
  have noLists : withLists (withLists lists id.toNat admins writers) id.toNat none none = lists := by
    calc
      withLists (withLists lists id.toNat admins writers) id.toNat none none
          = Function.update (withLists lists id.toNat none writers) (id.toNat, .writers) none := by
            rw [← update_withLists_admins lists id.toNat admins writers none, withLists]
      _ = withLists lists id.toNat none none := update_withLists_writers _ _ _ _ _
      _ = lists := withLists_self _ _ noAdmins noWriters
  rw [noCells, noLists] at left
  rw [cleaned, before.unique left (sameNum.trans repoNum), sameStore]

variable {placed : Nat → Option (PlacedRepo Address)} {state begunState : TaState}
variable {repo : PlacedRepo Address} {id : UInt32}

theorem Mirrors.cleanup_restores (mirrors : Mirrors memory placed state)
    (free : placed id.toNat = none)
    (begun : Mirrors other (Function.update placed id.toNat (some repo)) begunState)
    (repoNum : other.repoNum = memory.repoNum) :
    cleanupRepoResourcesAt other id = some (memory.setKeyStore other.keyStore) := by
  have noCell : cellsOf placed id.toNat = none := by
    rw [cellsOf, free]
    rfl
  have noList : ∀ list, listsOf placed (id.toNat, list) = none := by
    intro list
    rw [listsOf, free]
    rfl
  have holds := begun.holds
  rw [cellsOf_update, listsOf_update] at holds
  exact mirrors.holds.cleanup_restores noCell (noList .admins) (noList .writers) holds rfl rfl
    repoNum

/-! ## The allocations -/

section Allocation

variable {cells : Nat → Option (PlacedCell Address)}
variable {lists : ListOwner → Option (PlacedList Address)} {repId : Nat} {address : Address}
variable {cell : RepoCell Address}

omit [Fintype Address] in
theorem TaMemory.Holds.assign
    (holds : memory.Holds (Function.update cells repId (some ⟨address, cell⟩)) lists)
    (assign : RepoCell Address → RepoCell Address) :
    ∃ after, memory.updateRepo address assign = some after ∧
      after.Holds (Function.update cells repId (some ⟨address, assign cell⟩)) lists ∧
      after.repoNum = memory.repoNum ∧ after.keyStore = memory.keyStore := by
  rcases holds.updateRepo (Function.update_self _ _ _) assign with
    ⟨after, updated, stays, repoNum, keyStore⟩
  rw [Function.update_idem] at stays
  exact ⟨after, updated, stays, repoNum, keyStore⟩

omit [Fintype Address] in
/-- The structure that has been allocated is filled as far as the founder's key. -/
theorem TaMemory.Holds.fill {adminKey : CString} (short : adminKey.length < maxKeyLength)
    (holds : memory.Holds (Function.update cells repId (some ⟨address, .zeroed⟩)) lists) :
    ∃ fields filled,
      memory.updateFields address (fun fields => fields.fill adminKey) = some filled ∧
      fields.blockHeight = 0 ∧ fields.latestHash = zeroHash ∧
      filled.Holds (Function.update cells repId
        (some ⟨address, { RepoCell.zeroed with fields := fields }⟩)) lists ∧
      filled.repoNum = memory.repoNum ∧ filled.keyStore = memory.keyStore := by
  rcases RepoFields.zeroed.fill_eq short with ⟨fields, isFilled, height, hash⟩
  rcases holds.assign fun cell => { cell with fields := fields } with
    ⟨filled, stores, stays, repoNum, keyStore⟩
  refine ⟨fields, filled, ?_, height, hash, stays, repoNum, keyStore⟩
  have here := holds.stored repId ⟨address, .zeroed⟩ (Function.update_self _ _ _)
  have zeroed : RepoFields.fill (RepoCell.zeroed : RepoCell Address).fields adminKey =
      some fields := isFilled
  simp only [TaMemory.updateFields, here, zeroed, Option.bind_eq_bind, Option.bind_some]
  exact stores

omit [Fintype Address] in
/-- A list is allocated, or not, and its address is put into the structure. -/
theorem TaMemory.Holds.allocateList {owner : ListOwner}
    (holds : memory.Holds (Function.update cells repId (some ⟨address, cell⟩)) lists)
    (noList : lists owner = none) (place : Option Address)
    (assign : Option Address → RepoCell Address → RepoCell Address) :
    ∃ list heaps after, memory.heaps.mallocKeyList place = (list, heaps) ∧
      (memory.setHeaps heaps).updateRepo address (assign list) = some after ∧
      after.Holds (Function.update cells repId (some ⟨address, assign list cell⟩))
        (Function.update lists owner (list.map PlacedList.zeroed)) ∧
      after.repoNum = memory.repoNum ∧ after.keyStore = memory.keyStore := by
  have allocated : ∃ list heaps, memory.heaps.mallocKeyList place = (list, heaps) ∧
      ListStep memory.heaps heaps (lists owner) (list.map PlacedList.zeroed) := by
    rw [noList]
    rcases mallocKeyList_cases memory.heaps place with failed | ⟨list, heaps, taken, step⟩
    · exact ⟨none, memory.heaps, failed, .none _⟩
    · exact ⟨some list, heaps, taken, step⟩
  rcases allocated with ⟨list, heaps, taken, step⟩
  rcases (holds.listStep step).assign (assign list) with ⟨after, updated, stays, repoNum, keyStore⟩
  exact ⟨list, heaps, after, taken, updated, stays, repoNum, keyStore⟩

end Allocation

variable (mirrors : Mirrors memory placed state) (free : placed id.toNat = none)
variable (inside : id.toNat < maxRepoId) (places : Places Address) (adminKey : CString)

include mirrors free

/-- Nothing stays of allocations that were not enough. -/
theorem allocateRepoAt_cases (inside : id.toNat < maxRepoId)
    (short : adminKey.length < maxKeyLength) :
    allocateRepoAt memory places id adminKey = some (.error .outOfMemory, memory) ∨
      ∃ repo after, allocateRepoAt memory places id adminKey =
          some (.ok (PlacedRepo.address repo), after) ∧
        Mirrors after (Function.update placed id.toNat (some repo))
          (state.setSlot id.toNat (some repo.metadata)) ∧
        after.repoNum = memory.repoNum ∧
        (∀ list, (repo.list list).items = []) ∧
        repo.metadata = ⟨0, zeroHash, adminKey, some ⟨[], 0⟩, some ⟨[], 0⟩⟩ := by
  have noPointer : memory.pointer id.toNat = none := by
    rw [mirrors.pointer_eq, free]
    rfl
  have noCell : cellsOf placed id.toNat = none := by
    rw [cellsOf, free]
    rfl
  have noList : ∀ list, listsOf placed (id.toNat, list) = none := by
    intro list
    rw [listsOf, free]
    rfl
  unfold allocateRepoAt
  rcases memory.repos.malloc_cases places.repo .zeroed with
    ⟨_, failed⟩ | ⟨address, _, unused, taken⟩
  · refine Or.inl ?_
    simp only [failed]
    rw [← noPointer, memory.setPointer_pointer]
  have replaces : memory.repos.Replaces (memory.repos.store address .zeroed)
      (addressOf (cellsOf placed id.toNat)) (addressOf (some ⟨address, .zeroed⟩)) := by
    rw [noCell]
    exact Heap.replaces_malloc _ unused
  have begun : ((memory.setRepos (memory.repos.store address .zeroed)).setPointer id.toNat
      (some address)).Holds (Function.update (cellsOf placed) id.toNat (some ⟨address, .zeroed⟩))
      (listsOf placed) :=
    mirrors.holds.cellStep inside replaces fun new same => by
      cases same
      exact memory.repos.store_self _ _
  rcases begun.fill short with
    ⟨fields, filled, fills, height, hash, holdsFilled, numFilled, storeFilled⟩
  rcases holdsFilled.allocateList (noList .admins) places.adminKeys
      fun list cell => { cell with adminKeys := list } with
    ⟨admins, adminHeaps, withAdmins, adminsTaken, adminsSet, holdsAdmins, numAdmins, storeAdmins⟩
  have noWriters : Function.update (listsOf placed) (id.toNat, .admins)
      (admins.map PlacedList.zeroed) (id.toNat, .writers) = none := by
    rw [Function.update_of_ne (admins_ne_writers id.toNat).symm]
    exact noList .writers
  rcases holdsAdmins.allocateList noWriters places.writerKeys
      fun list cell => { cell with writerKeys := list } with
    ⟨writers, heaps, after, writersTaken, writersSet, holds, numWriters, storeWriters⟩
  have repoNum : after.repoNum = memory.repoNum := numWriters.trans (numAdmins.trans numFilled)
  have keyStore : after.keyStore = memory.keyStore :=
    storeWriters.trans (storeAdmins.trans storeFilled)
  have mapped : ∀ list : Option Address,
      list = (list.map PlacedList.zeroed).map PlacedList.address := by
    intro list
    cases list <;> rfl
  have restored := mirrors.holds.cleanup_restores noCell (noList .admins) (noList .writers) holds
    (mapped admins) (mapped writers) repoNum
  simp only [taken, fills, adminsTaken, adminsSet, writersTaken, writersSet, Option.bind_eq_bind,
    Option.bind_some, Option.pure_def]
  rw [keyStore] at restored
  cases admins with
  | none =>
      left
      rw [if_pos (Or.inl rfl), restored]
      rfl
  | some admins =>
      cases writers with
      | none =>
          left
          rw [if_pos (Or.inr rfl), restored]
          rfl
      | some writers =>
          right
          let repo : PlacedRepo Address :=
            ⟨address, fields, adminKey, .zeroed admins, .zeroed writers⟩
          have settled : after.Holds (cellsOf (Function.update placed id.toNat (some repo)))
              (listsOf (Function.update placed id.toNat (some repo))) := by
            rw [cellsOf_update, listsOf_update]
            exact holds
          refine ⟨repo, after, ?_, mirrors.update inside settled repoNum keyStore, repoNum, ?_, ?_⟩
          · rw [if_neg (by simp)]
          · intro list
            cases list <;> rfl
          · rw [PlacedRepo.metadata, height, hash]
            rfl

/-! ## The founder -/

omit [Fintype Address] in
omit mirrors free in
theorem Mirrors.init {repId : Nat} (mirrors : Mirrors memory placed state)
    (found : placed repId = some repo)
    (list : MemberList) (isEmpty : (repo.list list).items = []) :
    ∃ heaps, memory.heaps.initKeyList (some (repo.list list).address) = some ((), heaps) ∧
      Mirrors (memory.setHeaps heaps)
        (Function.update placed repId
          (some (repo.setList list (.zeroed (repo.list list).address))))
        (state.setSlot repId
          (some (repo.setList list (.zeroed (repo.list list).address)).metadata)) := by
  rcases (mirrors.whole found list).initKeyList_step isEmpty with ⟨heaps, emptied, step⟩
  exact ⟨heaps, emptied, mirrors.setList found step rfl⟩

/-- With both lists empty, the founder becomes the only member, or nothing stays. -/
theorem addFounderAt_cases
    (begun : Mirrors other (Function.update placed id.toNat (some repo))
      (state.setSlot id.toNat (some repo.metadata)))
    (repoNum : other.repoNum = memory.repoNum) (isEmpty : ∀ list, (repo.list list).items = []) :
    addFounderAt other places id repo.address adminKey =
        some (.error .outOfMemory, memory.setKeyStore other.keyStore) ∨
      ∃ changed after, addFounderAt other places id repo.address adminKey = some (.ok (), after) ∧
        changed.address = repo.address ∧
        Mirrors after (Function.update placed id.toNat (some changed))
          (state.setSlot id.toNat (some changed.metadata)) ∧
        after.repoNum = memory.repoNum ∧ after.keyStore = other.keyStore ∧
        changed.metadata = { repo.metadata with
          adminKeys := some ⟨[adminKey], 1⟩
          writerKeys := some ⟨[], 0⟩ } := by
  have here : ∀ repo : PlacedRepo Address,
      Function.update placed id.toNat (some repo) id.toNat = some repo :=
    fun repo => Function.update_self _ _ _
  rcases begun.init (here _) .admins (isEmpty .admins) with ⟨first, firstDone, noAdmins⟩
  rw [Function.update_idem, TaState.setSlot_setSlot] at noAdmins
  rcases noAdmins.init (here _) .writers (isEmpty .writers) with ⟨both, bothDone, noMembers⟩
  have sameHeaps : (other.setHeaps first).setHeaps both = other.setHeaps both := rfl
  rw [Function.update_idem, TaState.setSlot_setSlot, sameHeaps] at noMembers
  change other.heaps.initKeyList repo.cell.adminKeys = _ at firstDone
  change first.initKeyList repo.cell.writerKeys = _ at bothDone
  unfold addFounderAt
  simp only [begun.cell_eq (here repo), firstDone, bothDone, Option.bind_eq_bind, Option.bind_some,
    Option.pure_def]
  rcases noMembers.add (here _) .admins places.node adminKey with
    failed | ⟨heaps, admins, added, withFounder, keys⟩
  · left
    change both.addKeyToSet repo.cell.adminKeys places.node adminKey = _ at failed
    have restored := mirrors.cleanup_restores free noMembers repoNum
    change cleanupRepoResourcesAt (other.setHeaps both) id = _ at restored
    simp only [failed, Option.bind_some]
    change (cleanupRepoResourcesAt (other.setHeaps both) id).bind _ = _
    rw [restored]
    rfl
  · right
    change both.addKeyToSet repo.cell.adminKeys places.node adminKey = _ at added
    rw [Function.update_idem, TaState.setSlot_setSlot] at withFounder
    simp only [added, Option.bind_some]
    refine ⟨_, _, rfl, ?_, withFounder, repoNum, rfl, ?_⟩
    · rfl
    · simp only [PlacedRepo.metadata, PlacedRepo.setList, keys]
      rfl

/-! ## The whole command -/

/-- The command leaves no trace but in secure storage, or it leaves one more
repository, in memory as in the state. -/
def Creates (memory : TaMemory Address) (state : TaState)
    (inMemory : Option (TeeResult Output × TaMemory Address))
    (result : TeeResult Output × TaState) : Prop :=
  (∃ code store, inMemory = some (.error code, memory.setKeyStore store) ∧
    result = (.error code, state.setKeyStore store)) ∨
  ∃ output after placed, inMemory = some (.ok output, after) ∧ result.1 = .ok output ∧
    Mirrors after placed result.2

omit [DecidableEq Address] [Fintype Address] mirrors free in
theorem Mirrors.countRepo (mirrors : Mirrors memory placed state) :
    Mirrors { memory with repoNum := memory.repoNum + 1 } placed
      { state with repoNum := state.repoNum + 1 } where
  holds := ⟨mirrors.holds.table, mirrors.holds.owned, mirrors.holds.stored, mirrors.holds.lists⟩
  repoNum := congrArg (· + 1) mirrors.repoNum
  keyStore := mirrors.keyStore
  slots := mirrors.slots

/-- The genesis block is sealed and its hash stored, or everything is taken back. -/
theorem sealGenesisAt_creates (primitives : Primitives) (outcomes : CallOutcomes)
    (begun : Mirrors other (Function.update placed id.toNat (some repo))
      (state.setSlot id.toNat (some repo.metadata)))
    (repoNum : other.repoNum = memory.repoNum) (keyStore : other.keyStore = memory.keyStore) :
    Creates memory state
      (sealGenesisAt other primitives outcomes id repo.address adminKey)
      (match hashAndSign primitives outcomes.sign
          (calculateAccessBlockHash primitives outcomes.hash
            (genesisBlock repo.metadata.latestHash adminKey outcomes.time)) state.keyStore with
        | (.error code, store) => (.error code, state.setKeyStore store)
        | (.ok (genesisHash, teeSig), store) =>
            (.ok (.genesis id ((genesisBlock repo.metadata.latestHash adminKey
              outcomes.time).withTeeSig teeSig)),
              { (state.setSlot id.toNat
                  (some { repo.metadata with latestHash := genesisHash })).setKeyStore store with
                repoNum := state.repoNum + 1 })) := by
  have here : Function.update placed id.toNat (some repo) id.toNat = some repo :=
    Function.update_self _ _ _
  have sameStore : other.keyStore = state.keyStore := keyStore.trans mirrors.keyStore
  have sameHash : repo.cell.fields.latestHash = repo.metadata.latestHash := rfl
  unfold sealGenesisAt
  simp only [begun.cell_eq here, sameStore, sameHash, Option.bind_eq_bind, Option.bind_some,
    Option.pure_def]
  rcases sealed : hashAndSign primitives outcomes.sign (calculateAccessBlockHash primitives
      outcomes.hash (genesisBlock repo.metadata.latestHash adminKey outcomes.time))
      state.keyStore with
    ⟨code | ⟨genesisHash, teeSig⟩, store⟩
  · have restored := mirrors.cleanup_restores free (begun.setKeyStore store) repoNum
    left
    refine ⟨code, store, ?_, rfl⟩
    simp only [restored, Option.bind_some]
    rfl
  · right
    rcases repo.fields.strcpy_genesisHash (length_of_hashAndSign sealed) with
      ⟨fields, assigned, height, hash⟩
    rcases (begun.setKeyStore store).updateFields here
        (fun fields => fields.strcpy offsetRmLatestHash genesisHash) assigned with
      ⟨after, updated, stored⟩
    have metadata : (repo.setFields fields).metadata =
        { repo.metadata with latestHash := genesisHash } := by
      unfold PlacedRepo.metadata PlacedRepo.setFields
      rw [height, hash]
    simp only [updated, Option.bind_some]
    rw [Function.update_idem, ← TaState.setSlot_setKeyStore, TaState.setSlot_setSlot, metadata]
      at stored
    exact ⟨_, _, _, rfl, rfl, stored.countRepo⟩

omit [DecidableEq Address] [Fintype Address] free in
theorem Mirrors.refuses (code : TeeError) :
    Creates memory state (some (.error code, memory)) (.error code, state) := by
  left
  refine ⟨code, state.keyStore, ?_, rfl⟩
  rw [← mirrors.keyStore]
  rfl

omit free in
/-- For what the allocator names, there are answers of it that come to the same. -/
theorem initRepoAt_creates (table : TableInvariant state) (primitives : Primitives)
    (outcomes : CallOutcomes) (paramTypes : UInt32) (short : adminKey.length < maxKeyLength) :
    ∃ repo node, Creates memory state
      (initRepoAt memory places primitives outcomes paramTypes adminKey)
      (initRepo primitives { outcomes with
        mallocRepo := repo, mallocAdminKeys := true, mallocWriterKeys := true, node := node }
        paramTypes adminKey state) := by
  have noRepo : state.setSlot state.repoNum.toNat none = state := by
    rw [← table.free, state.setSlot_slot]
  have free : placed state.repoNum.toNat = none := by
    have noSlot := table.free
    rw [mirrors.slots] at noSlot
    exact Option.map_eq_none_iff.mp noSlot
  unfold initRepoAt initRepo
  simp only [mirrors.repoNum]
  by_cases types : paramTypes ≠ teeParamTypes memrefInput valueOutput memrefOutput paramNone
  · simp only [if_pos types]
    exact ⟨true, .smooth, mirrors.refuses _⟩
  simp only [if_neg types]
  by_cases full : maxRepoId ≤ state.repoNum.toNat
  · simp only [if_pos full]
    exact ⟨true, .smooth, mirrors.refuses _⟩
  simp only [if_neg full]
  rcases allocateRepoAt_cases mirrors free places adminKey (Nat.lt_of_not_le full) short with
    failed | ⟨repo, begun, allocated, mirrorsBegun, repoNum, isEmpty, metadata⟩
  · refine ⟨false, .smooth, ?_⟩
    simp only [failed, if_true, noRepo, Option.bind_eq_bind, Option.bind_some, Option.pure_def]
    exact mirrors.refuses _
  refine ⟨true, ?_⟩
  simp only [allocated, Bool.true_eq_false, if_false, if_true, Option.bind_eq_bind,
    Option.bind_some, Option.pure_def]
  have keyStore : begun.keyStore = memory.keyStore :=
    mirrorsBegun.keyStore.trans mirrors.keyStore.symm
  rcases addFounderAt_cases mirrors free places adminKey mirrorsBegun repoNum isEmpty with
    failed | ⟨changed, after, added, address, mirrorsAfter, sameNum, sameStore, members⟩
  · have fails : ¬ NodeOutcomes.Succeeds ⟨false, true⟩ := by decide
    refine ⟨⟨false, true⟩, ?_⟩
    have undone : cleanupRepoResources (state.setSlot state.repoNum.toNat
        (some ⟨0, zeroHash, adminKey, some ⟨[], 0⟩, some ⟨[], 0⟩⟩)) state.repoNum = state := by
      rw [cleanupRepoResources_eq, TaState.setSlot_setSlot, noRepo]
    simp only [failed, addKeyToSet_error fails, undone, keyStore, Option.bind_some]
    exact mirrors.refuses _
  · have succeeds : NodeOutcomes.smooth.Succeeds := by decide
    have creates := sealGenesisAt_creates mirrors free adminKey primitives outcomes mirrorsAfter
      sameNum (sameStore.trans keyStore)
    rw [address, members, metadata] at creates
    refine ⟨.smooth, ?_⟩
    simp only [added, addKeyToSet_ok succeeds, Option.map_some, initKeyList, Option.bind_some]
    generalize hashAndSign primitives outcomes.sign _ state.keyStore = sealed at creates ⊢
    rcases sealed with ⟨code | ⟨genesisHash, teeSig⟩, store⟩
    · simp only [cleanupRepoResources_eq, TaState.setSlot_setKeyStore, TaState.setSlot_setSlot, noRepo]
      exact creates
    · simp only [TaState.setSlot_setSlot]
      exact creates

end Creation

end Ta
end TrustChain

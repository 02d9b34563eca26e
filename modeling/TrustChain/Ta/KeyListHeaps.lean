import TrustChain.Library.Ownership
import TrustChain.Ta.KeyListMemory

namespace TrustChain
namespace Ta

open Library Tee

/-!
# Many key lists in one memory

`key_list.c` works on one list at a time; the application keeps two of them for
each repository, side by side.  The structures `struct key_list` are allocations
as well.  Pointers of different types never lead to the same allocation, so
these have a heap of their own beside the one of the nodes and strings.

A call on one list replaces what that list occupies and spares all the others.
-/

section Functions

variable {Address : Type}

/-- The `struct key_list`s of the application, and their nodes and strings. -/
structure KeyListHeaps (Address : Type) where
  lists : Heap Address (KeyListHead Address)
  keys : KeyHeap Address

namespace KeyListHeaps

variable [DecidableEq Address] (heaps : KeyListHeaps Address)

/-- `TEE_Malloc(sizeof(struct key_list), TEE_MALLOC_FILL_ZERO)`. -/
def mallocKeyList (place : Option Address) : Option Address × KeyListHeaps Address :=
  match heaps.lists.malloc place ⟨none, 0⟩ with
  | none => (none, heaps)
  | some (address, lists) => (some address, { heaps with lists := lists })

/-- A call of a function of `key_list.c` on the list behind a pointer. -/
def onKeyList {Result : Type} (list : Option Address)
    (call : KeyMemory Address → Option (Result × KeyMemory Address)) :
    Option (Result × KeyListHeaps Address) := do
  let address ← list
  let header ← heaps.lists address
  let (result, after) ← call ⟨heaps.keys, header⟩
  return (result, ⟨heaps.lists.store address after.list, after.heap⟩)

/-- `init_key_list`. -/
def initKeyList (list : Option Address) : Option (Unit × KeyListHeaps Address) :=
  heaps.onKeyList list fun memory => some ((), initKeyListAt memory)

/-- `add_key_to_set`. -/
def addKeyToSet (list : Option Address) (places : NodePlaces Address) (key : CString) :
    Option (TeeResult Unit × KeyListHeaps Address) :=
  heaps.onKeyList list fun memory => addKeyToSetAt memory places key

variable [Fintype Address]

/-- `key_exists_in_set`. -/
def keyExistsInSet (list : Option Address) (key : CString) : Option Bool := do
  let address ← list
  let header ← heaps.lists address
  keyExistsInSetAt ⟨heaps.keys, header⟩ key

/-- `find_and_remove_key`, which checks for NULL. -/
def findAndRemoveKey (list : Option Address) (key : CString) :
    Option (TeeResult Bool × KeyListHeaps Address) :=
  match list with
  | none => some (.error .badParameters, heaps)
  | some _ => heaps.onKeyList list fun memory => findAndRemoveKeyAt memory key

/-- The two equal parts of `cleanup_repo_resources`: if there is a list, its
nodes are freed, and then the list. -/
def cleanUp : Option Address → Option (KeyListHeaps Address)
  | none => some heaps
  | some list => do
      let ((), heaps) ← heaps.onKeyList (some list) fun memory =>
        (cleanupKeyListAt memory).map fun memory => ((), memory)
      let lists ← heaps.lists.free list
      return { heaps with lists := lists }

end KeyListHeaps
end Functions

/-! ## Lists in their places -/

/-- A list with everything that it occupies. -/
structure PlacedList (Address : Type) where
  address : Address
  header : KeyListHead Address
  items : List (KeyItem Address)

section Placed

variable {Address : Type}

namespace PlacedList

/-- The list itself. -/
def keyList (list : PlacedList Address) : KeyList :=
  ⟨list.items.map KeyItem.text, list.header.count⟩

/-- A list as it comes from the allocator. -/
def zeroed (address : Address) : PlacedList Address := ⟨address, ⟨none, 0⟩, []⟩

/-- The list is where it is said to be. -/
structure InMemory (list : PlacedList Address) (heaps : KeyListHeaps Address) : Prop where
  stored : heaps.lists list.address = some list.header
  linked : Walk (KeyLink heaps.keys) list.header.head list.items none
  distinct : (footprint list.items).Nodup

end PlacedList

/-- The address of a list, if there is one. -/
def headerOf : Option (PlacedList Address) → Address → Prop
  | none, _ => False
  | some list, address => address = list.address

/-- The addresses of its nodes and strings. -/
def nodesOf : Option (PlacedList Address) → Address → Prop
  | none, _ => False
  | some list, address => address ∈ footprint list.items

/-- The two heaps consist of these lists, each in its place. -/
structure HoldsLists {Owner : Type} (heaps : KeyListHeaps Address)
    (placed : Owner → Option (PlacedList Address)) : Prop where
  headers : heaps.lists.OwnedBy fun owner => headerOf (placed owner)
  nodes : heaps.keys.OwnedBy fun owner => nodesOf (placed owner)
  whole : ∀ owner list, placed owner = some list → list.InMemory heaps

/-- One list has taken the place of another one. -/
structure ListStep (before after : KeyListHeaps Address) (old new : Option (PlacedList Address)) :
    Prop where
  headers : before.lists.Replaces after.lists (headerOf old) (headerOf new)
  nodes : before.keys.Replaces after.keys (nodesOf old) (nodesOf new)
  whole : ∀ list, new = some list → list.InMemory after

variable {before middle after heaps : KeyListHeaps Address}
variable {old between new : Option (PlacedList Address)} {list : PlacedList Address}

theorem ListStep.trans (first : ListStep before middle old between)
    (second : ListStep middle after between new) : ListStep before after old new :=
  ⟨first.headers.trans second.headers, first.nodes.trans second.nodes, second.whole⟩

theorem ListStep.none (heaps : KeyListHeaps Address) : ListStep heaps heaps none none where
  headers := .of_nothing (fun _ => id) (fun _ => id)
  nodes := .of_nothing (fun _ => id) (fun _ => id)
  whole := fun _ impossible => by cases impossible

/-- The other lists stay as they are. -/
theorem ListStep.holds {Owner : Type} [DecidableEq Owner] {owner : Owner}
    {placed : Owner → Option (PlacedList Address)} (holds : HoldsLists before placed)
    (step : ListStep before after (placed owner) new) :
    HoldsLists after (Function.update placed owner new) where
  headers := step.headers.owned holds.headers
  nodes := step.nodes.owned holds.nodes
  whole := fun other list found => by
    by_cases same : other = owner
    · rw [same, Function.update_self] at found
      exact step.whole list found
    · rw [Function.update_of_ne same] at found
      have inMemory := holds.whole other list found
      refine ⟨?_, ?_, inMemory.distinct⟩
      · have has : headerOf (placed other) list.address := by
          rw [found]
          exact rfl
        exact (step.headers.kept holds.headers same has).trans inMemory.stored
      · apply keyWalk_congr inMemory.linked
        intro address member
        have has : nodesOf (placed other) address := by
          rw [found]
          exact member
        exact step.nodes.kept holds.nodes same has

/-! The places of the items determine what is in memory. -/

theorem keyWalk_first {heap : KeyHeap Address} {first : Option Address}
    {items : List (KeyItem Address)} (walk : Walk (KeyLink heap) first items none) :
    first = items.head?.map KeyItem.node := by
  cases walk with
  | nil => rfl
  | cons link walk => exact link.here

theorem keyWalk_agree {heap other : KeyHeap Address} {first second : Option Address}
    {items : List (KeyItem Address)} (walk : Walk (KeyLink heap) first items none)
    (same : Walk (KeyLink other) second items none) {address : Address}
    (member : address ∈ footprint items) : other address = heap address := by
  induction items generalizing first second with
  | nil => exact absurd member List.not_mem_nil
  | cons item rest ih =>
      cases walk with
      | cons link walk =>
          cases same with
          | cons otherLink same =>
              rw [footprint_cons, List.mem_append] at member
              rcases member with own | behind
              · rcases List.mem_pair.mp own with rfl | rfl
                · rw [link.node, otherLink.node, keyWalk_first walk, keyWalk_first same]
                · rw [link.text, otherLink.text]
              · exact ih walk same behind

theorem HoldsLists.unique {Owner : Type} {placed : Owner → Option (PlacedList Address)}
    (holds : HoldsLists before placed) (same : HoldsLists after placed) : after = before := by
  have lists : after.lists = before.lists := by
    apply holds.headers.eq_of_agree same.headers
    intro owner address has
    cases found : placed owner with
    | none =>
        rw [found] at has
        exact has.elim
    | some list =>
        rw [found] at has
        cases has
        rw [(holds.whole owner list found).stored, (same.whole owner list found).stored]
  have keys : after.keys = before.keys := by
    apply holds.nodes.eq_of_agree same.nodes
    intro owner address has
    cases found : placed owner with
    | none =>
        rw [found] at has
        exact has.elim
    | some list =>
        rw [found] at has
        exact keyWalk_agree (holds.whole owner list found).linked
          (same.whole owner list found).linked has
  cases after
  cases before
  cases lists
  cases keys
  rfl

/-! ## What the calls do -/

namespace PlacedList.InMemory

variable [DecidableEq Address] (whole : list.InMemory heaps)

/-- What is allocated besides the nodes of one list. -/
def others (heaps : KeyListHeaps Address) (list : PlacedList Address) : KeyHeap Address :=
  fun address => if address ∈ footprint list.items then none else heaps.keys address

/-- The nodes afterwards are those of the items that are held then. -/
theorem replaces {after : KeyMemory Address} {items : List (KeyItem Address)}
    (holds : after.Holds (others heaps list) items) :
    heaps.keys.Replaces after.heap (· ∈ footprint list.items) (· ∈ footprint items) where
  framed := fun address notOld notNew => (holds.framed address notNew).trans (if_neg notOld)
  fresh := fun address isNew notOld => (if_neg notOld).symm.trans (holds.apart address isNew)
  given := fun _ isNew => keyWalk_held holds.linked isNew
  released := fun address isOld notNew => (holds.framed address notNew).trans (if_pos isOld)

include whole

theorem holdsKeys : (KeyMemory.mk heaps.keys list.header).Holds (others heaps list) list.items where
  linked := whole.linked
  owned := whole.distinct
  framed := fun _ outside => (if_neg outside).symm
  apart := fun _ inside => if_pos inside

theorem onKeyList_step {Result : Type}
    (call : KeyMemory Address → Option (Result × KeyMemory Address)) {result : Result}
    {after : KeyMemory Address} {items : List (KeyItem Address)}
    (called : call ⟨heaps.keys, list.header⟩ = some (result, after))
    (holds : after.Holds (others heaps list) items) :
    ∃ heapsAfter, heaps.onKeyList (some list.address) call = some (result, heapsAfter) ∧
      ListStep heaps heapsAfter (some list) (some ⟨list.address, after.list, items⟩) := by
  refine ⟨⟨heaps.lists.store list.address after.list, after.heap⟩, ?_, ?_⟩
  · simp only [KeyListHeaps.onKeyList, Option.bind_eq_bind, Option.bind_some, whole.stored, called,
      Option.pure_def]
  · refine ⟨Heap.replaces_store after.list, replaces holds, ?_⟩
    intro new same
    cases same
    exact ⟨heaps.lists.store_self _ _, holds.linked, holds.owned⟩

theorem initKeyList_step (isEmpty : list.items = []) :
    ∃ after, heaps.initKeyList (some list.address) = some ((), after) ∧
      ListStep heaps after (some list) (some (.zeroed list.address)) := by
  have holds : (initKeyListAt ⟨heaps.keys, list.header⟩).Holds (others heaps list) [] := by
    have before := whole.holdsKeys
    rw [isEmpty] at before
    exact ⟨.nil none, before.owned, before.framed, before.apart⟩
  exact whole.onKeyList_step (fun memory => some ((), initKeyListAt memory)) rfl holds

/-- An addition that fails leaves everything as it was. -/
theorem addKeyToSet_cases (places : NodePlaces Address) (key : CString) :
    heaps.addKeyToSet (some list.address) places key = some (.error .outOfMemory, heaps) ∨
      ∃ after new, heaps.addKeyToSet (some list.address) places key = some (.ok (), after) ∧
        ListStep heaps after (some list) (some new) ∧ new.address = list.address ∧
        new.keyList = ⟨key :: list.keyList.nodes, list.keyList.count + 1⟩ := by
  rcases addKeyToSetAt_cases ⟨heaps.keys, list.header⟩ places key with
    ⟨_, failed⟩ | ⟨node, text, available, added⟩
  · have kept : heaps.lists.store list.address list.header = heaps.lists := by
      rw [Heap.store, ← whole.stored, Function.update_eq_self]
    refine Or.inl ?_
    simp only [KeyListHeaps.addKeyToSet, KeyListHeaps.onKeyList, Option.bind_eq_bind,
      Option.bind_some, whole.stored, failed, Option.pure_def, kept]
  · rcases whole.onKeyList_step (fun memory => addKeyToSetAt memory places key) added
      (whole.holdsKeys.push available key) with ⟨after, called, step⟩
    exact Or.inr ⟨after, _, called, step, rfl, rfl⟩

variable [Fintype Address]

theorem cleanUp_step :
    ∃ after, heaps.cleanUp (some list.address) = some after ∧
      ListStep heaps after (some list) none := by
  have cleaned := cleanupKeyListAt_eq whole.holdsKeys
  have holds : KeyMemory.Holds (others heaps list) ⟨others heaps list, ⟨none, 0⟩⟩ [] :=
    ⟨.nil none, List.nodup_nil, fun _ _ => rfl, fun _ member => absurd member List.not_mem_nil⟩
  rcases whole.onKeyList_step
      (fun memory => (cleanupKeyListAt memory).map fun memory => ((), memory))
      (congrArg (Option.map fun memory => ((), memory)) cleaned) holds with
    ⟨middle, called, step⟩
  have held : middle.lists list.address ≠ none := by
    rw [(step.whole _ rfl).stored]
    exact Option.some_ne_none _
  refine ⟨{ middle with lists := Function.update middle.lists list.address none }, ?_, ?_⟩
  · simp only [KeyListHeaps.cleanUp, called, Option.bind_eq_bind, Option.bind_some,
      Heap.free_eq held, Option.pure_def]
  · refine step.trans ⟨Heap.replaces_free, ?_, ?_⟩
    · exact .of_nothing (fun _ => List.not_mem_nil) (fun _ => id)
    · intro _ impossible
      cases impossible

end PlacedList.InMemory

/-- The same for a list that need not be there. -/
theorem cleanUp_step [DecidableEq Address] [Fintype Address] {Owner : Type}
    {placed : Owner → Option (PlacedList Address)} (holds : HoldsLists heaps placed)
    (owner : Owner) :
    ∃ after, heaps.cleanUp ((placed owner).map PlacedList.address) = some after ∧
      ListStep heaps after (placed owner) none := by
  cases found : placed owner with
  | none => exact ⟨heaps, rfl, .none heaps⟩
  | some list => exact (holds.whole owner list found).cleanUp_step

theorem mallocKeyList_cases [DecidableEq Address] (heaps : KeyListHeaps Address)
    (place : Option Address) :
    heaps.mallocKeyList place = (none, heaps) ∨
      ∃ address after, heaps.mallocKeyList place = (some address, after) ∧
        ListStep heaps after none (some (.zeroed address)) := by
  unfold KeyListHeaps.mallocKeyList
  rcases heaps.lists.malloc_cases place ⟨none, 0⟩ with ⟨_, failed⟩ | ⟨address, _, free, taken⟩
  · exact Or.inl (by simp only [failed])
  · refine Or.inr ⟨address, { heaps with lists := heaps.lists.store address ⟨none, 0⟩ }, ?_, ?_⟩
    · simp only [taken]
    refine ⟨Heap.replaces_malloc _ free, ?_, ?_⟩
    · exact .of_nothing (fun _ => id) (fun _ => List.not_mem_nil)
    · intro list same
      cases same
      exact ⟨heaps.lists.store_self _ _, .nil none, List.nodup_nil⟩

end Placed

end Ta
end TrustChain

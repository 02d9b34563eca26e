import Mathlib.Data.Fintype.Card
import TrustChain.Library.Heap
import TrustChain.Ta.KeyList

namespace TrustChain
namespace Ta

open Library Tee

/-!
# `key_list/key_list.c` in memory

The functions of the file once more, with the nodes and the copied strings as
separate allocations on a heap, and each read, store and free made where the
source makes it.  The two removals keep the previous node at hand and splice
either the head of the list or that node.

A pointer takes finitely many values, so a loop along the list ends within that
many rounds, or it goes in circles and never ends.
-/

section Functions

variable {Address : Type}

/-- `struct key_node`. -/
structure KeyNode (Address : Type) where
  key : Option Address
  next : Option Address
  deriving DecidableEq

/-- What `key_list.c` allocates: a node, or the copy of a string. -/
inductive KeyCell (Address : Type)
  | node (node : KeyNode Address)
  | text (text : CString)
  deriving DecidableEq

abbrev KeyHeap (Address : Type) := Heap Address (KeyCell Address)

/-- `struct key_list`. -/
structure KeyListHead (Address : Type) where
  head : Option Address
  count : UInt32
  deriving DecidableEq

/-- A key list together with the heap that it lives in. -/
structure KeyMemory (Address : Type) where
  heap : KeyHeap Address
  list : KeyListHead Address

/-- The addresses that the allocator names for a node and for its string. -/
structure NodePlaces (Address : Type) where
  node : Option Address
  key : Option Address
  deriving DecidableEq

/-- The node behind a pointer. -/
def KeyHeap.nodeAt (heap : KeyHeap Address) (address : Address) : Option (KeyNode Address) :=
  match heap address with
  | some (.node node) => some node
  | _ => none

/-- The string behind a pointer; there is none behind NULL. -/
def KeyHeap.textAt (heap : KeyHeap Address) (pointer : Option Address) : Option CString :=
  match pointer with
  | none => none
  | some address =>
      match heap address with
      | some (.text text) => some text
      | _ => none

/-- `init_key_list`. -/
def initKeyListAt (memory : KeyMemory Address) : KeyMemory Address :=
  { memory with list := ⟨none, 0⟩ }

/-- A round of the loop of `key_exists_in_set`; the state is `current`. -/
def keyExistsRound (heap : KeyHeap Address) (key : CString) :
    Option Address → Option (Round (Option Address) Bool)
  | none => some (.done false)
  | some current => do
      let node ← heap.nodeAt current
      let text ← heap.textAt node.key
      if text = key then return .done true else return .again node.next

variable [DecidableEq Address]

/-- `free_key_node`. -/
def freeKeyNodeAt (heap : KeyHeap Address) : Option Address → Option (KeyHeap Address)
  | none => some heap
  | some address => do
      let node ← heap.nodeAt address
      let heap ← match node.key with
        | none => some heap
        | some key => heap.free key
      heap.free address

/-- A round of the loop of `cleanup_key_list`; the state is the heap and
`current`. -/
def cleanupRound : KeyHeap Address × Option Address →
    Option (Round (KeyHeap Address × Option Address) (KeyHeap Address))
  | (heap, none) => some (.done heap)
  | (heap, some current) => do
      let node ← heap.nodeAt current
      let heap ← freeKeyNodeAt heap (some current)
      return .again (heap, node.next)

/-- `copy_key_string`: `*dst`, and the heap. -/
def copyKeyStringAt (heap : KeyHeap Address) (place : Option Address) (src : CString) :
    TeeResult (Address × KeyHeap Address) :=
  match heap.malloc place (.text src) with
  | none => .error .outOfMemory
  | some copied => .ok copied

/-- `create_key_node`.  Both allocations are cleared, so the pointers of the
node are NULL at first. -/
def createKeyNodeAt (heap : KeyHeap Address) (places : NodePlaces Address) (key : CString) :
    Option (Option Address × KeyHeap Address) :=
  match heap.malloc places.node (.node ⟨none, none⟩) with
  | none => some (none, heap)
  | some (node, heap) =>
      match copyKeyStringAt heap places.key key with
      | .error _ => (heap.free node).map fun heap => (none, heap)
      | .ok (text, heap) => some (some node, heap.store node (.node ⟨some text, none⟩))

/-- `add_key_to_set`. -/
def addKeyToSetAt (memory : KeyMemory Address) (places : NodePlaces Address) (key : CString) :
    Option (TeeResult Unit × KeyMemory Address) := do
  let (newNode, heap) ← createKeyNodeAt memory.heap places key
  match newNode with
  | none => return (.error .outOfMemory, { memory with heap := heap })
  | some address =>
      let node ← heap.nodeAt address
      return (.ok (),
        { heap := heap.store address (.node { node with next := memory.list.head })
          list := ⟨some address, memory.list.count + 1⟩ })

/-- The inner branch of the two removals: the node is spliced out behind the
previous one, or at the head if there is none, freed and no longer counted. -/
def unlinkNodeAt (memory : KeyMemory Address) (prev : Option Address) (current : Address) :
    Option (KeyMemory Address) := do
  let node ← memory.heap.nodeAt current
  let spliced ← match prev with
    | none => some { memory with list := { memory.list with head := node.next } }
    | some previous =>
        (memory.heap.nodeAt previous).map fun before =>
          { memory with
            heap := memory.heap.store previous (.node { before with next := node.next }) }
  let heap ← freeKeyNodeAt spliced.heap (some current)
  return ⟨heap, { spliced.list with count := spliced.list.count - 1 }⟩

/-- A round of the loop of `remove_key_from_set`; the state is `current` and
`prev`. -/
def removeRound (memory : KeyMemory Address) (key : CString) :
    Option Address × Option Address →
      Option (Round (Option Address × Option Address) (TeeResult Unit × KeyMemory Address))
  | (none, _) => some (.done (.error .itemNotFound, memory))
  | (some current, prev) => do
      let node ← memory.heap.nodeAt current
      let text ← memory.heap.textAt node.key
      if text = key then
        let memory ← unlinkNodeAt memory prev current
        return .done (.ok (), memory)
      else return .again (node.next, some current)

/-- A round of the loop of `find_and_remove_key`; the result is `*was_found`. -/
def findAndRemoveRound (memory : KeyMemory Address) (key : CString) :
    Option Address × Option Address →
      Option (Round (Option Address × Option Address) (TeeResult Bool × KeyMemory Address))
  | (none, _) => some (.done (.ok false, memory))
  | (some current, prev) => do
      let node ← memory.heap.nodeAt current
      let text ← memory.heap.textAt node.key
      if text = key then
        let memory ← unlinkNodeAt memory prev current
        return .done (.ok true, memory)
      else return .again (node.next, some current)

variable [Fintype Address]

/-- As many rounds as there are pointers, NULL included. -/
def rounds (Address : Type) [Fintype Address] : Nat := Fintype.card Address + 1

/-- `key_exists_in_set`. -/
def keyExistsInSetAt (memory : KeyMemory Address) (key : CString) : Option Bool :=
  loop (keyExistsRound memory.heap key) (rounds Address) memory.list.head

/-- `cleanup_key_list`. -/
def cleanupKeyListAt (memory : KeyMemory Address) : Option (KeyMemory Address) := do
  let heap ← loop cleanupRound (rounds Address) (memory.heap, memory.list.head)
  return ⟨heap, ⟨none, 0⟩⟩

/-- `remove_key_from_set`. -/
def removeKeyFromSetAt (memory : KeyMemory Address) (key : CString) :
    Option (TeeResult Unit × KeyMemory Address) :=
  loop (removeRound memory key) (rounds Address) (memory.list.head, none)

/-- `find_and_remove_key`, on pointers other than NULL. -/
def findAndRemoveKeyAt (memory : KeyMemory Address) (key : CString) :
    Option (TeeResult Bool × KeyMemory Address) :=
  loop (findAndRemoveRound memory key) (rounds Address) (memory.list.head, none)

end Functions

/-! ## Lists that the heap holds -/

/-- A node with its two addresses and its string. -/
structure KeyItem (Address : Type) where
  node : Address
  key : Address
  text : CString
  deriving DecidableEq

/-- What the item occupies. -/
def KeyItem.footprint {Address : Type} (item : KeyItem Address) : List Address :=
  [item.node, item.key]

def footprint {Address : Type} (items : List (KeyItem Address)) : List Address :=
  items.flatMap KeyItem.footprint

/-- The pointer leads to the item, whose node and string are on the heap, and
`next` is found in the node. -/
structure KeyLink {Address : Type} (heap : KeyHeap Address) (pointer : Option Address)
    (item : KeyItem Address) (next : Option Address) : Prop where
  here : pointer = some item.node
  node : heap item.node = some (.node ⟨some item.key, next⟩)
  text : heap item.key = some (.text item.text)

/-- The heap consists of the nodes of one list, each allocation used once, and
of whatever else the application has allocated. -/
structure HoldsKeys {Address : Type} (others heap : KeyHeap Address) (head : Option Address)
    (items : List (KeyItem Address)) : Prop where
  linked : Walk (KeyLink heap) head items none
  owned : (footprint items).Nodup
  framed : ∀ address, address ∉ footprint items → heap address = others address
  apart : ∀ address, address ∈ footprint items → others address = none

section Items

variable {Address : Type}

@[simp] theorem footprint_nil : footprint ([] : List (KeyItem Address)) = [] := rfl

@[simp] theorem footprint_cons (item : KeyItem Address) (rest : List (KeyItem Address)) :
    footprint (item :: rest) = item.footprint ++ footprint rest := rfl

@[simp] theorem footprint_append (front back : List (KeyItem Address)) :
    footprint (front ++ back) = footprint front ++ footprint back :=
  List.flatMap_append

theorem mem_footprint {item : KeyItem Address} {items : List (KeyItem Address)}
    (member : item ∈ items) : item.node ∈ footprint items ∧ item.key ∈ footprint items :=
  ⟨List.mem_flatMap.mpr ⟨item, member, List.mem_cons_self⟩,
    List.mem_flatMap.mpr ⟨item, member, List.mem_cons_of_mem _ List.mem_cons_self⟩⟩

/-- A link depends on the heap at the two addresses of its item only. -/
theorem KeyLink.congr {heap other : KeyHeap Address} {pointer next : Option Address}
    {item : KeyItem Address} (link : KeyLink heap pointer item next)
    (node : other item.node = heap item.node) (key : other item.key = heap item.key) :
    KeyLink other pointer item next :=
  ⟨link.here, node.trans link.node, key.trans link.text⟩

/-- A walk survives changes of the heap outside its items. -/
theorem keyWalk_congr {heap other : KeyHeap Address} {first last : Option Address}
    {items : List (KeyItem Address)} (walk : Walk (KeyLink heap) first items last)
    (same : ∀ address, address ∈ footprint items → other address = heap address) :
    Walk (KeyLink other) first items last :=
  walk.mono fun _ member _ _ link =>
    link.congr (same _ (mem_footprint member).1) (same _ (mem_footprint member).2)

theorem KeyLink.nodeAt {heap : KeyHeap Address} {pointer next : Option Address}
    {item : KeyItem Address} (link : KeyLink heap pointer item next) :
    heap.nodeAt item.node = some ⟨some item.key, next⟩ := by
  unfold KeyHeap.nodeAt
  rw [link.node]

theorem KeyLink.textAt {heap : KeyHeap Address} {pointer next : Option Address}
    {item : KeyItem Address} (link : KeyLink heap pointer item next) :
    heap.textAt (some item.key) = some item.text := by
  unfold KeyHeap.textAt
  simp only [link.text]

theorem nodes_sublist_footprint (items : List (KeyItem Address)) :
    (items.map KeyItem.node).Sublist (footprint items) := by
  induction items with
  | nil => exact List.Sublist.refl []
  | cons item rest ih => exact (ih.cons item.key).cons_cons item.node

/-- The list is not longer than there are addresses. -/
theorem HoldsKeys.length_lt [Fintype Address] {others heap : KeyHeap Address}
    {head : Option Address} {items : List (KeyItem Address)}
    (holds : HoldsKeys others heap head items) : items.length < rounds Address := by
  have distinct := (nodes_sublist_footprint items).nodup holds.owned
  have bound := distinct.length_le_card
  rw [List.length_map] at bound
  exact Nat.lt_succ_of_le bound

end Items

/-! ## Freeing a node -/

section Free

variable {Address : Type} [DecidableEq Address]

/-- The heap without the two allocations of an item. -/
def KeyHeap.without (heap : KeyHeap Address) (item : KeyItem Address) : KeyHeap Address :=
  Function.update (Function.update heap item.key none) item.node none

theorem KeyHeap.without_of_mem (heap : KeyHeap Address) {item : KeyItem Address}
    {address : Address} (member : address ∈ item.footprint) : heap.without item address = none := by
  unfold without
  by_cases isNode : address = item.node
  · rw [isNode, Function.update_self]
  · have isKey : address = item.key :=
      List.mem_singleton.mp ((List.mem_cons.mp member).resolve_left isNode)
    rw [Function.update_of_ne isNode, isKey, Function.update_self]

theorem KeyHeap.without_of_notMem (heap : KeyHeap Address) {item : KeyItem Address}
    {address : Address} (outside : address ∉ item.footprint) :
    heap.without item address = heap address := by
  simp only [KeyItem.footprint, List.mem_cons, List.not_mem_nil, or_false, not_or] at outside
  rw [without, Function.update_of_ne outside.1, Function.update_of_ne outside.2]

theorem freeKeyNodeAt_eq {heap : KeyHeap Address} {pointer next : Option Address}
    {item : KeyItem Address} (link : KeyLink heap pointer item next)
    (different : item.node ≠ item.key) :
    freeKeyNodeAt heap (some item.node) = some (heap.without item) := by
  have node : Function.update heap item.key none item.node =
      some (.node ⟨some item.key, next⟩) := by
    rw [Function.update_of_ne different]
    exact link.node
  simp only [freeKeyNodeAt, link.nodeAt, Option.bind_eq_bind, Option.bind_some,
    Heap.free_of_held link.text]
  exact Heap.free_of_held node

end Free

section Unlink

variable {Address : Type} {front back : List (KeyItem Address)} {item : KeyItem Address}

theorem node_ne_key_of_nodup (owned : (footprint (front ++ item :: back)).Nodup) :
    item.node ≠ item.key := by
  rw [footprint_append, footprint_cons] at owned
  have own : item.footprint.Nodup := (List.nodup_append.mp (List.nodup_append.mp owned).2.1).1
  exact fun same => (List.nodup_cons.mp own).1 (List.mem_singleton.mpr same)

/-- No address of an item is used by another one. -/
theorem notMem_footprint_of_nodup (owned : (footprint (front ++ item :: back)).Nodup)
    {address : Address} (member : address ∈ footprint (front ++ back)) :
    address ∉ item.footprint := by
  rw [footprint_append, footprint_cons] at owned
  rcases List.nodup_append.mp owned with ⟨_, behind, across⟩
  rw [footprint_append, List.mem_append] at member
  intro own
  rcases member with inFront | inBack
  · exact across address inFront address (List.mem_append_left (footprint back) own) rfl
  · exact (List.nodup_append.mp behind).2.2 address own address inBack rfl

theorem nodup_footprint_erase (owned : (footprint (front ++ item :: back)).Nodup) :
    (footprint (front ++ back)).Nodup := by
  apply List.Sublist.nodup _ owned
  rw [footprint_append, footprint_append, footprint_cons]
  exact (List.Sublist.refl _).append (List.sublist_append_right item.footprint _)

variable [DecidableEq Address] {others heap : KeyHeap Address} {head : Option Address}

/-- A list from which one item has been spliced out: the item can go. -/
theorem HoldsKeys.without (holds : HoldsKeys others heap head (front ++ item :: back))
    {spliced : KeyHeap Address} {newHead : Option Address}
    (linked : Walk (KeyLink spliced) newHead (front ++ back) none)
    (same : ∀ address, address ∉ footprint (front ++ item :: back) →
      spliced address = heap address) :
    HoldsKeys others (spliced.without item) newHead (front ++ back) := by
  have inWhole : ∀ address, address ∈ footprint (front ++ back) →
      address ∈ footprint (front ++ item :: back) := by
    intro address member
    rw [footprint_append, List.mem_append] at member
    rw [footprint_append, footprint_cons, List.mem_append]
    exact member.imp id (List.mem_append_right item.footprint)
  have itemInWhole : ∀ address, address ∈ item.footprint →
      address ∈ footprint (front ++ item :: back) := by
    intro address member
    rw [footprint_append, List.mem_append]
    exact Or.inr (List.mem_append_left (footprint back) member)
  refine ⟨?_, nodup_footprint_erase holds.owned, ?_, ?_⟩
  · apply keyWalk_congr linked
    intro address member
    exact spliced.without_of_notMem (notMem_footprint_of_nodup holds.owned member)
  · intro address outside
    by_cases own : address ∈ item.footprint
    · rw [spliced.without_of_mem own]
      exact (holds.apart address (itemInWhole address own)).symm
    · have outsideWhole : address ∉ footprint (front ++ item :: back) := by
        rw [footprint_append, List.mem_append, not_or] at outside
        rw [footprint_append, footprint_cons, List.mem_append, List.mem_append, not_or, not_or]
        exact ⟨outside.1, own, outside.2⟩
      rw [spliced.without_of_notMem own, same address outsideWhole]
      exact holds.framed address outsideWhole
  · intro address member
    exact holds.apart address (inWhole address member)

end Unlink

/-! ## Splicing out a node -/

section Splice

variable {Address : Type} [DecidableEq Address] {others : KeyHeap Address}
variable {memory : KeyMemory Address} {front back : List (KeyItem Address)}
variable {item : KeyItem Address}

/-- The heap and the list of a memory hold these items. -/
abbrev KeyMemory.Holds (others : KeyHeap Address) (memory : KeyMemory Address)
    (items : List (KeyItem Address)) : Prop :=
  HoldsKeys others memory.heap memory.list.head items

/-- `prev`, when these items have been passed. -/
def lastNode (front : List (KeyItem Address)) : Option Address :=
  front.getLast?.map KeyItem.node

/-- What the removals do once they have found the node. -/
structure Unlinked (others : KeyHeap Address) (memory after : KeyMemory Address)
    (rest : List (KeyItem Address)) : Prop where
  holds : after.Holds others rest
  count : after.list.count = memory.list.count - 1

theorem unlinkNodeAt_head (holds : memory.Holds others (item :: back)) :
    ∃ after, unlinkNodeAt memory none item.node = some after ∧
      Unlinked others memory after back := by
  cases holds.linked with
  | @cons _ next _ _ _ link walk =>
      have whole : memory.Holds others ([] ++ item :: back) := holds
      have different := node_ne_key_of_nodup whole.owned
      refine ⟨⟨memory.heap.without item, ⟨next, memory.list.count - 1⟩⟩, ?_, ?_, rfl⟩
      · simp only [unlinkNodeAt, link.nodeAt, Option.bind_eq_bind, Option.bind_some,
          freeKeyNodeAt_eq link different]
        rfl
      · exact whole.without walk fun _ _ => rfl

/-- The heap in which the node of an item has another successor. -/
def KeyHeap.redirect (heap : KeyHeap Address) (item : KeyItem Address) (next : Option Address) :
    KeyHeap Address :=
  heap.store item.node (.node ⟨some item.key, next⟩)

section Redirect

variable {previous : KeyItem Address} {pointer middle next : Option Address}
variable (holds : memory.Holds others (front ++ previous :: item :: back))

include holds

/-- Nothing else in the list is touched by it. -/
theorem redirect_of_mem {address : Address} (member : address ∈ footprint (front ++ item :: back))
    (next : Option Address) : memory.heap.redirect previous next address = memory.heap address := by
  apply memory.heap.store_of_ne
  rintro rfl
  exact notMem_footprint_of_nodup holds.owned member List.mem_cons_self

/-- The item that is passed over is still there. -/
theorem redirect_item (link : KeyLink memory.heap middle item next) :
    KeyLink (memory.heap.redirect previous next) middle item next := by
  have own : item.node ∈ footprint (item :: back) ∧ item.key ∈ footprint (item :: back) :=
    mem_footprint List.mem_cons_self
  have inBack : ∀ address, address ∈ footprint (item :: back) →
      address ∈ footprint (front ++ item :: back) := by
    intro address member
    rw [footprint_append]
    exact List.mem_append_right _ member
  exact link.congr (redirect_of_mem holds (inBack _ own.1) next)
    (redirect_of_mem holds (inBack _ own.2) next)

/-- The list without the item. -/
theorem redirect_linked (frontWalk : Walk (KeyLink memory.heap) memory.list.head front pointer)
    (link : KeyLink memory.heap pointer previous middle)
    (backWalk : Walk (KeyLink memory.heap) next back none) :
    Walk (KeyLink (memory.heap.redirect previous next)) memory.list.head
      (front ++ [previous] ++ back) none := by
  have ownDifferent := node_ne_key_of_nodup holds.owned
  have redirected : KeyLink (memory.heap.redirect previous next) pointer previous next :=
    ⟨link.here, memory.heap.store_self _ _,
      (memory.heap.store_of_ne _ ownDifferent.symm).trans link.text⟩
  apply Walk.append (Walk.append _ (.cons redirected (.nil next)))
  · apply keyWalk_congr backWalk
    intro address member
    apply redirect_of_mem holds
    rw [footprint_append, footprint_cons]
    exact List.mem_append_right _ (List.mem_append_right _ member)
  · apply keyWalk_congr frontWalk
    intro address member
    apply redirect_of_mem holds
    rw [footprint_append]
    exact List.mem_append_left _ member

theorem unlinkNodeAt_behind :
    ∃ after, unlinkNodeAt memory (some previous.node) item.node = some after ∧
      Unlinked others memory after (front ++ [previous] ++ back) := by
  rcases holds.linked.split with ⟨pointer, frontWalk, rest⟩
  cases rest with
  | @cons _ middle _ _ _ previousLink rest =>
      cases rest with
      | @cons _ next _ _ _ link backWalk =>
          have whole : memory.Holds others (front ++ [previous] ++ item :: back) := by
            rw [List.append_assoc]
            exact holds
          have freed := freeKeyNodeAt_eq (redirect_item holds link)
            (node_ne_key_of_nodup whole.owned)
          refine ⟨⟨(memory.heap.redirect previous next).without item,
            ⟨memory.list.head, memory.list.count - 1⟩⟩, ?_, ?_, rfl⟩
          · simp only [unlinkNodeAt, link.nodeAt, previousLink.nodeAt, Option.bind_eq_bind,
              Option.bind_some, Option.map_some]
            unfold KeyHeap.redirect at freed ⊢
            rw [freed]
            rfl
          · apply whole.without (redirect_linked holds frontWalk previousLink backWalk)
            intro address outside
            apply memory.heap.store_of_ne
            rintro rfl
            apply outside
            rw [List.append_assoc, footprint_append, List.mem_append]
            exact Or.inr List.mem_cons_self

end Redirect

theorem unlinkNodeAt_eq (holds : memory.Holds others (front ++ item :: back)) :
    ∃ after, unlinkNodeAt memory (lastNode front) item.node = some after ∧
      Unlinked others memory after (front ++ back) := by
  induction front using List.reverseRecOn with
  | nil => exact unlinkNodeAt_head holds
  | append_singleton earlier previous ih =>
      rw [List.append_assoc] at holds
      rw [lastNode, List.getLast?_concat]
      exact unlinkNodeAt_behind holds

end Splice

/-! ## The loops -/

/-- The first item that holds the key, and what surrounds it. -/
structure FirstOf {Address : Type} (key : CString) (items front : List (KeyItem Address))
    (item : KeyItem Address) (back : List (KeyItem Address)) : Prop where
  split : items = front ++ item :: back
  text : item.text = key
  absent : ∀ other ∈ front, other.text ≠ key

section Loops

variable {Address : Type} {others : KeyHeap Address} {memory : KeyMemory Address}
variable {items : List (KeyItem Address)}

/-- `key_exists_in_set` from some node of the list on. -/
theorem loop_keyExistsRound {heap : KeyHeap Address} {pointer : Option Address}
    (walk : Walk (KeyLink heap) pointer items none) (key : CString) {rounds : Nat}
    (enough : items.length < rounds) :
    loop (keyExistsRound heap key) rounds pointer =
      some (decide (key ∈ items.map KeyItem.text)) := by
  induction items generalizing pointer rounds with
  | nil =>
      cases walk
      cases rounds with
      | zero => exact absurd enough (Nat.not_lt_zero _)
      | succ rounds => exact loop_of_done rfl rounds
  | cons item rest ih =>
      cases rounds with
      | zero => exact absurd enough (Nat.not_lt_zero _)
      | succ rounds =>
          cases walk with
          | @cons _ next _ _ _ link walk =>
              cases link.here
              by_cases found : item.text = key
              · have ends : keyExistsRound heap key (some item.node) = some (.done true) := by
                  simp [keyExistsRound, link.nodeAt, link.textAt, found]
                rw [loop_of_done ends]
                simp [found]
              · have goes : keyExistsRound heap key (some item.node) = some (.again next) := by
                  simp [keyExistsRound, link.nodeAt, link.textAt, found]
                rw [loop_of_again goes, ih walk (Nat.lt_of_succ_lt_succ enough)]
                simp [Ne.symm found]

/-- What the loop of a removal comes to, from some node of the list on: the
first node that holds the key is spliced out, or there is none. -/
inductive Removal (others : KeyHeap Address) (memory : KeyMemory Address) (key : CString)
    (front back : List (KeyItem Address)) : Option (TeeResult Bool × KeyMemory Address) → Prop
  | found {before behind : List (KeyItem Address)} {item : KeyItem Address}
      {after : KeyMemory Address} (first : FirstOf key back before item behind)
      (unlinked : Unlinked others memory after (front ++ (before ++ behind))) :
      Removal others memory key front back (some (.ok true, after))
  | missing (absent : ∀ item ∈ back, item.text ≠ key) :
      Removal others memory key front back (some (.ok false, memory))

/-- Passing a node that does not hold the key. -/
theorem Removal.pass {key : CString} {front back : List (KeyItem Address)}
    {item : KeyItem Address} {result : Option (TeeResult Bool × KeyMemory Address)}
    (other : item.text ≠ key) (removal : Removal others memory key (front ++ [item]) back result) :
    Removal others memory key front (item :: back) result := by
  cases removal with
  | @found before behind here after first unlinked =>
      have split : item :: back = item :: before ++ here :: behind := by
        rw [first.split]
        rfl
      have rest : Unlinked others memory after (front ++ (item :: before ++ behind)) := by
        rw [List.append_assoc] at unlinked
        exact unlinked
      exact .found ⟨split, first.text, List.forall_mem_cons.mpr ⟨other, first.absent⟩⟩ rest
  | missing absent => exact .missing (List.forall_mem_cons.mpr ⟨other, absent⟩)

variable [DecidableEq Address]

theorem loop_findAndRemoveRound {front back : List (KeyItem Address)} {pointer : Option Address}
    (holds : memory.Holds others (front ++ back))
    (walk : Walk (KeyLink memory.heap) pointer back none) (key : CString) {rounds : Nat}
    (enough : back.length < rounds) :
    Removal others memory key front back
      (loop (findAndRemoveRound memory key) rounds (pointer, lastNode front)) := by
  induction back generalizing front pointer rounds with
  | nil =>
      cases walk
      cases rounds with
      | zero => exact absurd enough (Nat.not_lt_zero _)
      | succ rounds =>
          rw [loop_of_done (findAndRemoveRound.eq_1 memory key _)]
          exact .missing (List.forall_mem_nil _)
  | cons item rest ih =>
      cases rounds with
      | zero => exact absurd enough (Nat.not_lt_zero _)
      | succ rounds =>
          cases walk with
          | @cons _ next _ _ _ link walk =>
              cases link.here
              by_cases found : item.text = key
              · rcases unlinkNodeAt_eq holds with ⟨after, unlinks, unlinked⟩
                have ends : findAndRemoveRound memory key (some item.node, lastNode front) =
                    some (.done (.ok true, after)) := by
                  simp [findAndRemoveRound, link.nodeAt, link.textAt, found, unlinks]
                rw [loop_of_done ends]
                exact .found ⟨rfl, found, List.forall_mem_nil _⟩ unlinked
              · have goes : findAndRemoveRound memory key (some item.node, lastNode front) =
                    some (.again (next, lastNode (front ++ [item]))) := by
                  simp [findAndRemoveRound, link.nodeAt, link.textAt, found, lastNode]
                have whole : memory.Holds others (front ++ [item] ++ rest) := by
                  rw [List.append_assoc]
                  exact holds
                rw [loop_of_again goes]
                exact (ih whole walk (Nat.lt_of_succ_lt_succ enough)).pass found

/-- The heap without the whole list, node after node. -/
theorem loop_cleanupRound {heap : KeyHeap Address} {head : Option Address}
    (holds : HoldsKeys others heap head items) {rounds : Nat} (enough : items.length < rounds) :
    loop cleanupRound rounds (heap, head) = some others := by
  induction items generalizing heap head rounds with
  | nil =>
      cases holds.linked
      have same : heap = others := funext fun address => holds.framed address List.not_mem_nil
      cases rounds with
      | zero => exact absurd enough (Nat.not_lt_zero _)
      | succ rounds =>
          rw [← same]
          exact loop_of_done rfl rounds
  | cons item rest ih =>
      cases rounds with
      | zero => exact absurd enough (Nat.not_lt_zero _)
      | succ rounds =>
          have whole : HoldsKeys others heap head ([] ++ item :: rest) := holds
          cases holds.linked with
          | @cons _ next _ _ _ link walk =>
              cases link.here
              have freed := freeKeyNodeAt_eq link (node_ne_key_of_nodup whole.owned)
              have goes : cleanupRound (heap, some item.node) =
                  some (.again (heap.without item, next)) := by
                simp [cleanupRound, link.nodeAt, freed]
              rw [loop_of_again goes]
              have smaller : HoldsKeys others (heap.without item) next ([] ++ rest) :=
                whole.without walk fun _ _ => rfl
              exact ih smaller (Nat.lt_of_succ_lt_succ enough)

end Loops

/-! ## What the functions do -/

section Specifications

variable {Address : Type} {others : KeyHeap Address} {memory : KeyMemory Address}
variable {items : List (KeyItem Address)}

theorem keyWalk_held {heap : KeyHeap Address} {first last : Option Address}
    (walk : Walk (KeyLink heap) first items last) {address : Address}
    (member : address ∈ footprint items) : heap address ≠ none := by
  induction walk with
  | nil pointer => exact absurd member List.not_mem_nil
  | cons link walk ih =>
      rw [footprint_cons, List.mem_append] at member
      rcases member with own | behind
      · rcases List.mem_pair.mp own with rfl | rfl
        · rw [link.node]
          exact Option.some_ne_none _
        · rw [link.text]
          exact Option.some_ne_none _
      · exact ih behind

theorem keyExistsInSetAt_eq [Fintype Address] (holds : memory.Holds others items) (key : CString) :
    keyExistsInSetAt memory key = some (decide (key ∈ items.map KeyItem.text)) :=
  loop_keyExistsRound holds.linked key holds.length_lt

variable [DecidableEq Address]

/-- The allocator has room for a node and for its string. -/
structure NodePlaces.Available (places : NodePlaces Address) (heap : KeyHeap Address)
    (node text : Address) : Prop where
  nodePlace : places.node = some node
  textPlace : places.key = some text
  fresh : heap node = none
  unused : heap text = none
  different : node ≠ text

/-- A failed allocation leaves everything as it was; a node that was already
there is freed again. -/
theorem createKeyNodeAt_cases (heap : KeyHeap Address) (places : NodePlaces Address)
    (key : CString) :
    ((∀ node text, ¬ places.Available heap node text) ∧
        createKeyNodeAt heap places key = some (none, heap)) ∨
      ∃ node text, places.Available heap node text ∧
        createKeyNodeAt heap places key =
          some (some node, (heap.store text (.text key)).store node (.node ⟨some text, none⟩)) := by
  unfold createKeyNodeAt
  rcases heap.malloc_cases places.node (.node ⟨none, none⟩) with
    ⟨full, failed⟩ | ⟨node, named, fresh, taken⟩
  · refine Or.inl ⟨?_, by simp only [failed]⟩
    intro node text available
    exact full node available.nodePlace available.fresh
  · simp only [taken, copyKeyStringAt]
    rcases (heap.store node (.node ⟨none, none⟩)).malloc_cases places.key (.text key) with
      ⟨full, failed⟩ | ⟨text, textNamed, unused, copied⟩
    · refine Or.inl ⟨?_, ?_⟩
      · intro other text available
        cases Option.some.inj (named.symm.trans available.nodePlace)
        apply full text available.textPlace
        rw [heap.store_of_ne _ available.different.symm]
        exact available.unused
      · simp only [failed]
        rw [heap.free_store _ fresh]
        rfl
    · have different : text ≠ node := by
        rintro rfl
        rw [heap.store_self] at unused
        cases unused
      rw [heap.store_of_ne _ different] at unused
      refine Or.inr ⟨node, text, ⟨named, textNamed, fresh, unused, different.symm⟩, ?_⟩
      simp only [copied]
      rw [heap.store_comm _ _ different.symm, Heap.store_store]

theorem addKeyToSetAt_cases (memory : KeyMemory Address) (places : NodePlaces Address)
    (key : CString) :
    ((∀ node text, ¬ places.Available memory.heap node text) ∧
        addKeyToSetAt memory places key = some (.error .outOfMemory, memory)) ∨
      ∃ node text, places.Available memory.heap node text ∧
        addKeyToSetAt memory places key =
          some (.ok (),
            { heap := (memory.heap.store text (.text key)).store node
                (.node ⟨some text, memory.list.head⟩)
              list := ⟨some node, memory.list.count + 1⟩ }) := by
  unfold addKeyToSetAt
  rcases createKeyNodeAt_cases memory.heap places key with
    ⟨full, failed⟩ | ⟨node, text, available, created⟩
  · exact Or.inl ⟨full, by simp [failed]⟩
  · refine Or.inr ⟨node, text, available, ?_⟩
    have held : KeyHeap.nodeAt ((memory.heap.store text (.text key)).store node
        (.node ⟨some text, none⟩)) node = some ⟨some text, none⟩ := by
      unfold KeyHeap.nodeAt
      rw [Heap.store_self]
    simp only [created, Option.bind_eq_bind, Option.bind_some, held, Option.pure_def,
      Heap.store_store]

/-- The new node in front of the list. -/
theorem HoldsKeys.push {heap : KeyHeap Address} {head : Option Address}
    (holds : HoldsKeys others heap head items) {places : NodePlaces Address}
    {node text : Address} (available : places.Available heap node text) (key : CString) :
    HoldsKeys others ((heap.store text (.text key)).store node (.node ⟨some text, head⟩))
      (some node) (⟨node, text, key⟩ :: items) := by
  rcases available with ⟨_, _, fresh, unused, different⟩
  have otherNode : ∀ address, address ∈ footprint items → address ≠ node := by
    rintro address member rfl
    exact keyWalk_held holds.linked member fresh
  have otherText : ∀ address, address ∈ footprint items → address ≠ text := by
    rintro address member rfl
    exact keyWalk_held holds.linked member unused
  have kept : ∀ address, address ≠ node → address ≠ text →
      ((heap.store text (.text key)).store node (.node ⟨some text, head⟩)) address =
        heap address := by
    intro address notNode notText
    rw [Heap.store_of_ne _ _ notNode, Heap.store_of_ne _ _ notText]
  refine ⟨?_, ?_, ?_, ?_⟩
  · refine .cons ⟨rfl, Heap.store_self _ _ _, ?_⟩ ?_
    · exact (Heap.store_of_ne _ _ different.symm).trans (Heap.store_self _ _ _)
    · apply keyWalk_congr holds.linked
      intro address member
      exact kept address (otherNode address member) (otherText address member)
  · rw [footprint_cons]
    apply List.nodup_cons.mpr ⟨?_, List.nodup_cons.mpr ⟨?_, holds.owned⟩⟩
    · intro member
      rcases List.mem_cons.mp member with same | behind
      · exact different same
      · exact otherNode node behind rfl
    · exact fun behind => otherText text behind rfl
  · intro address outside
    rw [footprint_cons, List.mem_append, not_or] at outside
    have apart := mt List.mem_pair.mpr outside.1
    rw [not_or] at apart
    rw [kept address apart.1 apart.2]
    exact holds.framed address outside.2
  · intro address member
    have elsewhere : ∀ address, heap address = none → address ∉ footprint items →
        others address = none := fun address free outside =>
      (holds.framed address outside).symm.trans free
    rw [footprint_cons, List.mem_append] at member
    rcases member with own | behind
    · rcases List.mem_pair.mp own with rfl | rfl
      · exact elsewhere _ fresh fun inside => otherNode _ inside rfl
      · exact elsewhere _ unused fun inside => otherText _ inside rfl
    · exact holds.apart address behind

variable [Fintype Address]

/-- Nothing of the list is left. -/
theorem cleanupKeyListAt_eq (holds : memory.Holds others items) :
    cleanupKeyListAt memory = some ⟨others, ⟨none, 0⟩⟩ := by
  simp only [cleanupKeyListAt, loop_cleanupRound holds holds.length_lt, Option.bind_eq_bind,
    Option.bind_some, Option.pure_def]

theorem findAndRemoveKeyAt_removal (holds : memory.Holds others items) (key : CString) :
    Removal others memory key [] items (findAndRemoveKeyAt memory key) := by
  have whole : memory.Holds others ([] ++ items) := holds
  exact loop_findAndRemoveRound whole holds.linked key holds.length_lt

/-- The result of `remove_key_from_set` by what `find_and_remove_key` reports. -/
def removalResult : TeeResult Bool → TeeResult Unit
  | .ok true => .ok ()
  | .ok false => .error .itemNotFound
  | .error code => .error code

/-- The two removals go through the same rounds, whatever is in memory, be it a
list or not. -/
theorem removeKeyFromSetAt_eq (memory : KeyMemory Address) (key : CString) :
    removeKeyFromSetAt memory key =
      (findAndRemoveKeyAt memory key).map (Prod.map removalResult id) := by
  have same : removeRound memory key = fun state =>
      (findAndRemoveRound memory key state).map (.map (Prod.map removalResult id)) := by
    funext state
    rcases state with ⟨_ | current, prev⟩
    · rfl
    · simp only [removeRound, findAndRemoveRound]
      cases memory.heap.nodeAt current with
      | none => rfl
      | some node =>
          simp only [Option.bind_eq_bind, Option.bind_some]
          cases memory.heap.textAt node.key with
          | none => rfl
          | some text =>
              simp only [Option.bind_some]
              by_cases found : text = key
              · simp only [if_pos found]
                cases unlinkNodeAt memory prev current with
                | none => rfl
                | some after => rfl
              · simp only [if_neg found]
                rfl
  rw [removeKeyFromSetAt, same]
  exact loop_map _ _ _ _

end Specifications

/-! ## The list that is in memory

The functions of `KeyList` do to the strings of the nodes what the functions
above do in memory.
-/

section Refinement

variable {Address : Type} {others : KeyHeap Address} {memory : KeyMemory Address}
variable {items front back : List (KeyItem Address)} {item : KeyItem Address} {key : CString}

/-- The strings of the nodes, and the counter. -/
def KeyMemory.keyList (memory : KeyMemory Address) (items : List (KeyItem Address)) : KeyList :=
  ⟨items.map KeyItem.text, memory.list.count⟩

@[simp] theorem KeyMemory.nodes_keyList (memory : KeyMemory Address)
    (items : List (KeyItem Address)) : (memory.keyList items).nodes = items.map KeyItem.text := rfl

@[simp] theorem KeyMemory.count_keyList (memory : KeyMemory Address)
    (items : List (KeyItem Address)) : (memory.keyList items).count = memory.list.count := rfl

theorem FirstOf.mem (first : FirstOf key items front item back) :
    key ∈ items.map KeyItem.text := by
  rw [first.split, List.map_append, List.map_cons, first.text]
  exact List.mem_append_right _ List.mem_cons_self

theorem FirstOf.erase (first : FirstOf key items front item back) :
    (items.map KeyItem.text).erase key = (front ++ back).map KeyItem.text := by
  have absent : key ∉ front.map KeyItem.text := by
    intro member
    rcases List.mem_map.mp member with ⟨other, inFront, same⟩
    exact first.absent other inFront same
  rw [first.split, List.map_append, List.map_cons, first.text, List.erase_append_right _ absent,
    List.erase_cons_head, List.map_append]

theorem FirstOf.keyList_eq (first : FirstOf key items front item back) {after : KeyMemory Address}
    (unlinked : Unlinked others memory after ([] ++ (front ++ back))) :
    after.keyList ([] ++ (front ++ back)) =
      ⟨(items.map KeyItem.text).erase key, memory.list.count - 1⟩ := by
  rw [first.erase, ← unlinked.count]
  rfl

theorem notMem_of_absent (absent : ∀ item ∈ items, item.text ≠ key) :
    key ∉ items.map KeyItem.text := by
  intro member
  rcases List.mem_map.mp member with ⟨other, inside, same⟩
  exact absent other inside same

variable [DecidableEq Address]

/-- Whatever places the allocator names, the list function does the same with
some outcomes of its two allocations. -/
theorem addKeyToSetAt_refines (holds : memory.Holds others items) (places : NodePlaces Address)
    (key : CString) :
    ∃ result after rest outcomes, addKeyToSetAt memory places key = some (result, after) ∧
      after.Holds others rest ∧
      addKeyToSet outcomes (some (memory.keyList items)) key =
        result.map fun _ => some (after.keyList rest) := by
  rcases addKeyToSetAt_cases memory places key with ⟨_, failed⟩ | ⟨node, text, available, added⟩
  · have fails : ¬ NodeOutcomes.Succeeds ⟨false, true⟩ := by decide
    exact ⟨_, memory, items, ⟨false, true⟩, failed, holds, addKeyToSet_error fails _ key⟩
  · have succeeds : NodeOutcomes.smooth.Succeeds := by decide
    exact ⟨_, _, _, .smooth, added, holds.push available key, addKeyToSet_ok succeeds _ key⟩

variable [Fintype Address]

theorem removeKeyFromSet_eq (list : KeyList) (key : CString) :
    removeKeyFromSet list key =
      if key ∈ list.nodes then .ok ⟨list.nodes.erase key, list.count - 1⟩
      else .error .itemNotFound := by
  unfold removeKeyFromSet
  rw [unlinkFirst_eq]
  by_cases found : key ∈ list.nodes
  · rw [if_pos found, if_pos found]
    rfl
  · rw [if_neg found, if_neg found]

theorem removeKeyFromSetAt_refines (holds : memory.Holds others items) (key : CString) :
    ∃ result after rest, removeKeyFromSetAt memory key = some (result, after) ∧
      after.Holds others rest ∧
      removeKeyFromSet (memory.keyList items) key =
        result.map fun _ => after.keyList rest := by
  have removal := findAndRemoveKeyAt_removal holds key
  rw [removeKeyFromSetAt_eq, removeKeyFromSet_eq]
  generalize findAndRemoveKeyAt memory key = result at removal ⊢
  cases removal with
  | @found _ _ _ after first unlinked =>
      refine ⟨.ok (), after, _, rfl, unlinked.holds, ?_⟩
      rw [KeyMemory.nodes_keyList, if_pos first.mem]
      exact congrArg Except.ok (first.keyList_eq unlinked).symm
  | missing absent =>
      refine ⟨.error .itemNotFound, memory, items, rfl, holds, ?_⟩
      rw [KeyMemory.nodes_keyList, if_neg (notMem_of_absent absent)]
      rfl

theorem cleanupKeyListAt_refines (holds : memory.Holds others items) :
    ∃ after, cleanupKeyListAt memory = some after ∧ after.Holds others [] ∧
      after.keyList [] = cleanupKeyList (memory.keyList items) := by
  refine ⟨_, cleanupKeyListAt_eq holds, ?_, rfl⟩
  exact ⟨.nil none, List.nodup_nil, fun _ _ => rfl, fun _ member => absurd member List.not_mem_nil⟩

end Refinement

end Ta
end TrustChain

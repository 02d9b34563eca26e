import TrustChain.Library.Machine
import TrustChain.Spec.KeyBag
import TrustChain.Ta.KeyListMemory

namespace TrustChain
namespace Ta

open Library Tee Spec

/-!
# A key list is a counted bag

The functions of `key_list.c` are called in any order on one list, from
`init_key_list` on, with an allocator that names any addresses.  No call goes
wrong in memory, and what the nodes hold is the bag that the answers tell of.
-/

section Machine

variable {Address : Type}

inductive KeyCall (Address : Type)
  | addKeyToSet (places : NodePlaces Address) (key : CString)
  | removeKeyFromSet (key : CString)
  | findAndRemoveKey (key : CString)
  | keyExistsInSet (key : CString)
  | cleanupKeyList
  deriving DecidableEq

/-- What a call returns; `found` is `*was_found`. -/
inductive KeyAnswer
  | result (result : TeeResult Unit)
  | found (found : TeeResult Bool)
  | exists (present : Bool)
  | done
  deriving DecidableEq

variable [DecidableEq Address] [Fintype Address]

/-- One call; `none` is a run that reads or frees what is not there, or that
does not end. -/
def keyListStep (memory : KeyMemory Address) :
    KeyCall Address → Option (KeyAnswer × KeyMemory Address)
  | .addKeyToSet places key => (addKeyToSetAt memory places key).map (Prod.map .result id)
  | .removeKeyFromSet key => (removeKeyFromSetAt memory key).map (Prod.map .result id)
  | .findAndRemoveKey key => (findAndRemoveKeyAt memory key).map (Prod.map .found id)
  | .keyExistsInSet key => (keyExistsInSetAt memory key).map fun present => (.exists present, memory)
  | .cleanupKeyList => (cleanupKeyListAt memory).map fun after => (.done, after)

/-- A list in memory that nobody else uses, from `init_key_list` on.  `others` is
what is allocated besides, `stack` what the structure held before. -/
def keyListMachine (others : KeyHeap Address) (stack : KeyListHead Address) :
    Machine (Option (KeyMemory Address)) (KeyCall Address) (Option KeyAnswer) where
  start := some (initKeyListAt ⟨others, stack⟩)
  step := fun memory call =>
    match memory.bind fun memory => keyListStep memory call with
    | none => (none, none)
    | some (answer, after) => (some answer, some after)

end Machine

/-- What a call has done, by its answer. -/
def bagEvent {Address : Type} : KeyCall Address → KeyAnswer → BagEvent CString
  | .addKeyToSet _ key, .result (.ok ()) => .added key
  | .addKeyToSet _ key, _ => .refused key
  | .removeKeyFromSet key, .result (.ok ()) => .removed key
  | .removeKeyFromSet key, _ => .missed key
  | .findAndRemoveKey key, .found (.ok true) => .removed key
  | .findAndRemoveKey key, _ => .missed key
  | .keyExistsInSet key, answer => .looked key (decide (answer = .exists true))
  | .cleanupKeyList, _ => .emptied

/-- The history of a log. -/
def bagEvents {Address : Type}
    (log : List (Machine.Event (Option (KeyMemory Address)) (KeyCall Address) (Option KeyAnswer))) :
    List (BagEvent CString) :=
  log.filterMap fun event => event.output.map (bagEvent event.input)

/-! ## One call -/

section Steps

variable {Address : Type}

/-- A call on a list, its answer, and the list afterwards: an addition goes in
front if there is room and changes nothing otherwise, and a removal takes out
the first node with the key if there is one and changes nothing otherwise. -/
inductive KeyStep (others : KeyHeap Address) (memory : KeyMemory Address)
    (items : List (KeyItem Address)) :
    KeyCall Address → KeyAnswer → KeyMemory Address → List (KeyItem Address) → Prop
  | added {places : NodePlaces Address} {node text : Address} {key : CString}
      {after : KeyMemory Address} (available : places.Available memory.heap node text)
      (holds : after.Holds others (⟨node, text, key⟩ :: items))
      (count : after.list.count = memory.list.count + 1) :
      KeyStep others memory items (.addKeyToSet places key) (.result (.ok ())) after
        (⟨node, text, key⟩ :: items)
  | refused {places : NodePlaces Address} {key : CString}
      (full : ∀ node text, ¬ places.Available memory.heap node text) :
      KeyStep others memory items (.addKeyToSet places key) (.result (.error .outOfMemory)) memory
        items
  | removed {key : CString} {front back : List (KeyItem Address)} {item : KeyItem Address}
      {after : KeyMemory Address} (first : FirstOf key items front item back)
      (unlinked : Unlinked others memory after (front ++ back)) :
      KeyStep others memory items (.removeKeyFromSet key) (.result (.ok ())) after (front ++ back)
  | notRemoved {key : CString} (absent : ∀ item ∈ items, item.text ≠ key) :
      KeyStep others memory items (.removeKeyFromSet key) (.result (.error .itemNotFound)) memory
        items
  | foundAndRemoved {key : CString} {front back : List (KeyItem Address)} {item : KeyItem Address}
      {after : KeyMemory Address} (first : FirstOf key items front item back)
      (unlinked : Unlinked others memory after (front ++ back)) :
      KeyStep others memory items (.findAndRemoveKey key) (.found (.ok true)) after (front ++ back)
  | notFound {key : CString} (absent : ∀ item ∈ items, item.text ≠ key) :
      KeyStep others memory items (.findAndRemoveKey key) (.found (.ok false)) memory items
  | looked (key : CString) :
      KeyStep others memory items (.keyExistsInSet key)
        (.exists (decide (0 < (items.map KeyItem.text).count key))) memory items
  | cleaned :
      KeyStep others memory items .cleanupKeyList .done ⟨others, ⟨none, 0⟩⟩ []

variable {others : KeyHeap Address} {memory after : KeyMemory Address}
variable {items rest : List (KeyItem Address)} {call : KeyCall Address} {answer : KeyAnswer}

theorem HoldsKeys.nil (others : KeyHeap Address) : HoldsKeys others others none [] where
  linked := .nil none
  owned := List.nodup_nil
  framed := fun _ _ => rfl
  apart := fun _ member => absurd member List.not_mem_nil

/-- The list that a step leaves is in memory again. -/
theorem KeyStep.holds (step : KeyStep others memory items call answer after rest)
    (holds : memory.Holds others items) : after.Holds others rest := by
  cases step with
  | added available pushed count => exact pushed
  | refused full => exact holds
  | removed first unlinked => exact unlinked.holds
  | notRemoved absent => exact holds
  | foundAndRemoved first unlinked => exact unlinked.holds
  | notFound absent => exact holds
  | looked key => exact holds
  | cleaned => exact .nil others

/-- The keys of the nodes as a bag. -/
def bagOf (items : List (KeyItem Address)) : Multiset CString :=
  (items.map KeyItem.text : List CString)

/-- The answer tells what has become of the bag. -/
theorem KeyStep.bagStep (step : KeyStep others memory items call answer after rest) :
    BagStep (bagOf items) (bagEvent call answer) (bagOf rest) := by
  have taken : ∀ {key : CString} {front back : List (KeyItem Address)} {item : KeyItem Address},
      FirstOf key items front item back →
        BagStep (bagOf items) (.removed key) (bagOf (front ++ back)) := by
    intro key front back item first
    have erased : bagOf (front ++ back) = (bagOf items).erase key := by
      rw [bagOf, bagOf, Multiset.coe_erase, first.erase]
    rw [erased]
    exact .removed (Multiset.mem_coe.mpr first.mem)
  have kept : ∀ {key : CString}, (∀ item ∈ items, item.text ≠ key) →
      BagStep (bagOf items) (.missed key) (bagOf items) := by
    intro key absent
    exact .missed fun member => notMem_of_absent absent (Multiset.mem_coe.mp member)
  cases step with
  | added available pushed count => exact .added (bagOf items) _
  | refused full => exact .refused (bagOf items) _
  | removed first unlinked => exact taken first
  | notRemoved absent => exact kept absent
  | foundAndRemoved first unlinked => exact taken first
  | notFound absent => exact kept absent
  | looked key =>
      have same : decide (KeyAnswer.exists (decide (0 < (items.map KeyItem.text).count key)) =
          .exists true) = decide (key ∈ bagOf items) := by
        simp [bagOf, List.count_pos_iff]
      rw [bagEvent, same]
      exact .looked (bagOf items) key
  | cleaned => exact .emptied (bagOf items)

/-- `count` is the number of nodes, as far as 32 bits go. -/
def CountsNodes (memory : KeyMemory Address) (items : List (KeyItem Address)) : Prop :=
  memory.list.count = UInt32.ofNat items.length

theorem KeyStep.countsNodes (step : KeyStep others memory items call answer after rest)
    (counts : CountsNodes memory items) : CountsNodes after rest := by
  unfold CountsNodes at counts ⊢
  have taken : ∀ {key : CString} {front back : List (KeyItem Address)} {item : KeyItem Address}
      {after : KeyMemory Address}, FirstOf key items front item back →
        Unlinked others memory after (front ++ back) →
          after.list.count = UInt32.ofNat (front ++ back).length := by
    intro key front back item after first unlinked
    have longer : items.length = (front ++ back).length + 1 := by
      rw [first.split, List.length_append, List.length_append, List.length_cons]
      omega
    rw [unlinked.count, counts, longer, UInt32.ofNat_add]
    exact UInt32.add_sub_cancel _ 1
  cases step with
  | added available pushed count =>
      rw [count, counts, List.length_cons, UInt32.ofNat_add]
      rfl
  | refused full => exact counts
  | removed first unlinked => exact taken first unlinked
  | notRemoved absent => exact counts
  | foundAndRemoved first unlinked => exact taken first unlinked
  | notFound absent => exact counts
  | looked key => exact counts
  | cleaned => rfl

variable [DecidableEq Address] [Fintype Address]

/-- Each call on a list goes through, and does one of these steps. -/
theorem exists_keyStep (holds : memory.Holds others items) (call : KeyCall Address) :
    ∃ answer after rest, keyListStep memory call = some (answer, after) ∧
      KeyStep others memory items call answer after rest := by
  cases call with
  | addKeyToSet places key =>
      rcases addKeyToSetAt_cases memory places key with
        ⟨full, failed⟩ | ⟨node, text, available, added⟩
      · refine ⟨_, memory, items, ?_, .refused full⟩
        rw [keyListStep, failed]
        rfl
      · let after : KeyMemory Address :=
          { heap := (memory.heap.store text (.text key)).store node
              (.node ⟨some text, memory.list.head⟩)
            list := ⟨some node, memory.list.count + 1⟩ }
        have pushed : after.Holds others (⟨node, text, key⟩ :: items) := holds.push available key
        refine ⟨_, after, _, ?_, .added available pushed rfl⟩
        rw [keyListStep, added]
        rfl
  | removeKeyFromSet key =>
      have removal := findAndRemoveKeyAt_removal holds key
      rw [keyListStep, removeKeyFromSetAt_eq]
      generalize findAndRemoveKeyAt memory key = result at removal ⊢
      cases removal with
      | found first unlinked => exact ⟨_, _, _, rfl, .removed first unlinked⟩
      | missing absent => exact ⟨_, memory, items, rfl, .notRemoved absent⟩
  | findAndRemoveKey key =>
      have removal := findAndRemoveKeyAt_removal holds key
      rw [keyListStep]
      generalize findAndRemoveKeyAt memory key = result at removal ⊢
      cases removal with
      | found first unlinked => exact ⟨_, _, _, rfl, .foundAndRemoved first unlinked⟩
      | missing absent => exact ⟨_, memory, items, rfl, .notFound absent⟩
  | keyExistsInSet key =>
      refine ⟨_, memory, items, ?_, .looked key⟩
      rw [keyListStep, keyExistsInSetAt_eq holds]
      simp [List.count_pos_iff]
  | cleanupKeyList =>
      refine ⟨_, _, _, ?_, .cleaned⟩
      rw [keyListStep, cleanupKeyListAt_eq holds]
      rfl

end Steps

/-! ## Runs -/

section Runs

variable {Address : Type} [DecidableEq Address] [Fintype Address]
variable (others : KeyHeap Address) (stack : KeyListHead Address)

/-- What is true of the list in each state that is reached. -/
structure KeyListReached (calls : List (KeyCall Address)) (memory : KeyMemory Address)
    (items : List (KeyItem Address)) : Prop where
  reached : (keyListMachine others stack).run calls = some memory
  holds : memory.Holds others items
  history : BagRun (bagEvents ((keyListMachine others stack).log calls)) (bagOf items)
  counts : CountsNodes memory items

theorem run_keyListReached (calls : List (KeyCall Address)) :
    ∃ memory items, KeyListReached others stack calls memory items := by
  induction calls using List.reverseRecOn with
  | nil =>
      refine ⟨initKeyListAt ⟨others, stack⟩, [], rfl, .nil others, .start, rfl⟩
  | append_singleton calls call ih =>
      rcases ih with ⟨memory, items, reached, holds, history, counts⟩
      rcases exists_keyStep holds call with ⟨answer, after, rest, does, step⟩
      have made : (keyListMachine others stack).step (some memory) call =
          (some answer, some after) := by
        simp only [keyListMachine, Option.bind_some, does]
      refine ⟨after, rest, ?_, step.holds holds, ?_, step.countsNodes counts⟩
      · rw [Machine.run_snoc, reached, Machine.next, made]
      · have event : bagEvents ((keyListMachine others stack).log (calls ++ [call])) =
            bagEvents ((keyListMachine others stack).log calls) ++ [bagEvent call answer] := by
          rw [Machine.log_snoc, bagEvents, List.filterMap_append, reached]
          simp only [Machine.event, Machine.answer, made, List.filterMap_cons, Option.map_some,
            List.filterMap_nil]
          rfl
        rw [event]
        exact .snoc history step.bagStep

end Runs

/-- In each reached state the list holds each key as often as it was added and
not removed again since the last cleanup, with a counter that is right modulo
2^32, and whatever is called next does what it does to a bag.  And the two
removals do the same to every memory. -/
theorem key_list_is_bag {Address : Type} [DecidableEq Address] [Fintype Address]
    (others : KeyHeap Address) (stack : KeyListHead Address) :
    (∀ calls, ∃ memory items, (keyListMachine others stack).run calls = some memory ∧
      memory.Holds others items ∧
      BagRun (bagEvents ((keyListMachine others stack).log calls)) (bagOf items) ∧
      (∀ key, (items.map KeyItem.text).count key +
          removals key (bagEvents ((keyListMachine others stack).log calls)) =
        additions key (bagEvents ((keyListMachine others stack).log calls))) ∧
      memory.list.count.toNat = items.length % 2 ^ 32 ∧
      ∀ call, ∃ answer after rest,
        (keyListMachine others stack).step (some memory) call = (some answer, some after) ∧
          KeyStep others memory items call answer after rest ∧ after.Holds others rest) ∧
    ∀ (memory : KeyMemory Address) (key : CString),
      removeKeyFromSetAt memory key =
        (findAndRemoveKeyAt memory key).map (Prod.map removalResult id) := by
  refine ⟨?_, removeKeyFromSetAt_eq⟩
  intro calls
  rcases run_keyListReached others stack calls with ⟨memory, items, reached, holds, history, counts⟩
  refine ⟨memory, items, reached, holds, history, ?_, ?_, ?_⟩
  · intro key
    rw [← history.count_add_removals key, bagOf, Multiset.coe_count]
  · rw [counts, UInt32.toNat_ofNat']
  · intro call
    rcases exists_keyStep holds call with ⟨answer, after, rest, does, step⟩
    refine ⟨answer, after, rest, ?_, step, step.holds holds⟩
    simp only [keyListMachine, Option.bind_some, does]

end Ta
end TrustChain

import TrustChain.Tee.Api

namespace TrustChain
namespace Ta

open Library Tee

/-!
# `key_list/key_list.c`

A key list is a singly linked list of strings with a counter.  The nodes are a
list here, head first, so following `next` is taking the tail.  The removal
loops keep the part of the list in front of the current node, because the
source tells apart whether there is a previous node.

Lists are handed around as pointers.  A NULL list is never dereferenced by a
run of the application; where the source would dereference it, it is read as
an empty list.
-/

/-- `struct key_list`, with the nodes reached from `head`. -/
structure KeyList where
  nodes : List CString
  count : UInt32
  deriving DecidableEq

/-- `struct key_list *`; `none` is NULL. -/
abbrev KeyListPtr := Option KeyList

/-- The keys of a list, from its head. -/
def keysOf : KeyListPtr → List CString
  | none => []
  | some list => list.nodes

@[simp] theorem keysOf_none : keysOf none = [] := rfl

@[simp] theorem keysOf_some (list : KeyList) : keysOf (some list) = list.nodes := rfl

/-- What the allocator answers when a node is created. -/
structure NodeOutcomes where
  mallocNode : Bool
  mallocKey : Bool
  deriving DecidableEq

def NodeOutcomes.Succeeds (outcomes : NodeOutcomes) : Prop :=
  outcomes.mallocNode = true ∧ outcomes.mallocKey = true

instance (outcomes : NodeOutcomes) : Decidable outcomes.Succeeds :=
  inferInstanceAs (Decidable (_ ∧ _))

def NodeOutcomes.smooth : NodeOutcomes := ⟨true, true⟩

/-- `init_key_list`. -/
def initKeyList (_list : KeyList) : KeyList := ⟨[], 0⟩

/-- `cleanup_key_list`: the nodes are freed one after the other. -/
def cleanupKeyList (_list : KeyList) : KeyList := ⟨[], 0⟩

/-- `copy_key_string`. -/
def copyKeyString (outcomes : NodeOutcomes) (src : CString) : TeeResult CString :=
  if outcomes.mallocKey = false then .error .outOfMemory else .ok src

/-- `create_key_node`; the new node has no successor yet, so it is its key. -/
def createKeyNode (outcomes : NodeOutcomes) (key : CString) : Option CString :=
  if outcomes.mallocNode = false then none
  else match copyKeyString outcomes key with
    | .error _ => none
    | .ok copied => some copied

/-- The loop of `key_exists_in_set`. -/
def keyExistsFrom (key : CString) : List CString → Bool
  | [] => false
  | current :: next => if current = key then true else keyExistsFrom key next

/-- `key_exists_in_set`. -/
def keyExistsInSet (list : KeyListPtr) (key : CString) : Bool :=
  keyExistsFrom key (keysOf list)

/-- `add_key_to_set`: the new node becomes the head. -/
def addKeyToSet (outcomes : NodeOutcomes) (list : KeyListPtr) (key : CString) :
    TeeResult KeyListPtr :=
  match createKeyNode outcomes key with
  | none => .error .outOfMemory
  | some node => .ok (list.map fun old => ⟨node :: old.nodes, old.count + 1⟩)

/-- The loop shared by the two removals: the nodes in front of the current one,
nearest first, and the nodes from the current one on.  It returns the list
without the first node that holds the key. -/
def unlinkFirst (key : CString) : List CString → List CString → Option (List CString)
  | _, [] => none
  | before, current :: next =>
      if current = key then
        match before with
        | [] => some next
        | previous :: earlier => some ((previous :: earlier).reverse ++ next)
      else unlinkFirst key (current :: before) next

/-- `remove_key_from_set`. -/
def removeKeyFromSet (list : KeyList) (key : CString) : TeeResult KeyList :=
  match unlinkFirst key [] list.nodes with
  | some nodes => .ok ⟨nodes, list.count - 1⟩
  | none => .error .itemNotFound

/-- `find_and_remove_key`: the list afterwards, and `*was_found`. -/
def findAndRemoveKey (list : KeyListPtr) (key : CString) : TeeResult (KeyListPtr × Bool) :=
  match list with
  | none => .error .badParameters
  | some old =>
      match unlinkFirst key [] old.nodes with
      | some nodes => .ok (some ⟨nodes, old.count - 1⟩, true)
      | none => .ok (some old, false)

/-! ## What the operations compute -/

theorem keyExistsFrom_iff (key : CString) (nodes : List CString) :
    keyExistsFrom key nodes = true ↔ key ∈ nodes := by
  induction nodes with
  | nil => simp [keyExistsFrom]
  | cons current next ih =>
      simp only [keyExistsFrom, List.mem_cons]
      by_cases same : current = key
      · simp [same]
      · rw [if_neg same, ih]
        constructor
        · exact Or.inr
        · rintro (found | found)
          · exact absurd found.symm same
          · exact found

@[simp] theorem keyExistsInSet_iff (list : KeyListPtr) (key : CString) :
    keyExistsInSet list key = true ↔ key ∈ keysOf list :=
  keyExistsFrom_iff key (keysOf list)

theorem keyExistsInSet_eq_false_iff (list : KeyListPtr) (key : CString) :
    keyExistsInSet list key = false ↔ key ∉ keysOf list := by
  rw [← keyExistsInSet_iff, Bool.not_eq_true]

theorem addKeyToSet_ok {outcomes : NodeOutcomes} (succeeds : outcomes.Succeeds)
    (list : KeyListPtr) (key : CString) :
    addKeyToSet outcomes list key =
      .ok (list.map fun old => ⟨key :: old.nodes, old.count + 1⟩) := by
  rcases succeeds with ⟨node, copied⟩
  simp [addKeyToSet, createKeyNode, copyKeyString, node, copied]

theorem addKeyToSet_error {outcomes : NodeOutcomes} (fails : ¬ outcomes.Succeeds)
    (list : KeyListPtr) (key : CString) :
    addKeyToSet outcomes list key = .error .outOfMemory := by
  unfold addKeyToSet createKeyNode copyKeyString
  cases node : outcomes.mallocNode with
  | false => simp
  | true =>
      cases copied : outcomes.mallocKey with
      | false => simp
      | true => exact absurd ⟨node, copied⟩ fails

/-- Unlinking takes out the first occurrence and leaves the rest in order. -/
theorem unlinkFirst_eq (key : CString) (before nodes : List CString) :
    unlinkFirst key before nodes =
      if key ∈ nodes then some (before.reverse ++ nodes.erase key) else none := by
  induction nodes generalizing before with
  | nil => simp [unlinkFirst]
  | cons current next ih =>
      by_cases same : current = key
      · subst same
        cases before <;> simp [unlinkFirst]
      · have other : key ≠ current := fun equal => same equal.symm
        have kept : (current :: next).erase key = current :: next.erase key :=
          List.erase_cons_tail (by simpa using same)
        simp only [unlinkFirst, if_neg same, ih, List.mem_cons, other, false_or, kept,
          List.reverse_cons, List.append_assoc, List.singleton_append]

theorem findAndRemoveKey_some (list : KeyList) (key : CString) :
    findAndRemoveKey (some list) key =
      if key ∈ list.nodes then .ok (some ⟨list.nodes.erase key, list.count - 1⟩, true)
      else .ok (some list, false) := by
  simp only [findAndRemoveKey, unlinkFirst_eq]
  by_cases found : key ∈ list.nodes
  · simp only [if_pos found, List.reverse_nil, List.nil_append]
  · simp only [if_neg found]

end Ta
end TrustChain

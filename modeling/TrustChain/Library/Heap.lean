import Mathlib.Logic.Function.Basic

namespace TrustChain
namespace Library

/-!
# A heap, and walks along its pointers

A heap says for each address what is allocated there.  The allocator names the
address that it hands out; an address in use cannot be handed out, so naming one
is as good as having no memory.  A free of what is not allocated is a fault,
and so is a read of it: both are `none`.

A walk goes from pointer to pointer past the items of a data structure.  It
depends only on what the heap holds for the items that it meets, and it can be
cut and joined anywhere, which is all that splicing pointers needs.
-/

abbrev Heap (Address Cell : Type) := Address → Option Cell

namespace Heap

variable {Address Cell : Type} [DecidableEq Address]

def store (heap : Heap Address Cell) (address : Address) (cell : Cell) : Heap Address Cell :=
  Function.update heap address (some cell)

/-- Memory for a cell, at the address that the allocator names. -/
def malloc (heap : Heap Address Cell) (place : Option Address) (cell : Cell) :
    Option (Address × Heap Address Cell) :=
  match place with
  | none => none
  | some address =>
      match heap address with
      | none => some (address, heap.store address cell)
      | some _ => none

def free (heap : Heap Address Cell) (address : Address) : Option (Heap Address Cell) :=
  match heap address with
  | none => none
  | some _ => some (Function.update heap address none)

@[simp] theorem store_self (heap : Heap Address Cell) (address : Address) (cell : Cell) :
    heap.store address cell address = some cell := by
  rw [store, Function.update_self]

theorem store_of_ne (heap : Heap Address Cell) {address other : Address} (cell : Cell)
    (different : other ≠ address) : heap.store address cell other = heap other := by
  rw [store, Function.update_of_ne different]

theorem store_store (heap : Heap Address Cell) (address : Address) (first second : Cell) :
    (heap.store address first).store address second = heap.store address second := by
  rw [store, store, store, Function.update_idem]

theorem store_comm (heap : Heap Address Cell) {first second : Address} (one other : Cell)
    (different : first ≠ second) :
    (heap.store first one).store second other = (heap.store second other).store first one := by
  unfold store
  exact Function.update_comm different (some one) (some other) heap

/-- The named address is taken if there is one and it is free; otherwise
nothing happens. -/
theorem malloc_cases (heap : Heap Address Cell) (place : Option Address) (cell : Cell) :
    ((∀ address, place = some address → heap address ≠ none) ∧ heap.malloc place cell = none) ∨
      ∃ address, place = some address ∧ heap address = none ∧
        heap.malloc place cell = some (address, heap.store address cell) := by
  unfold malloc
  cases place with
  | none => exact Or.inl ⟨fun _ named => absurd named.symm (Option.some_ne_none _), rfl⟩
  | some address =>
      cases held : heap address with
      | none => exact Or.inr ⟨address, rfl, held, by simp only [held]⟩
      | some other =>
          refine Or.inl ⟨?_, by simp only [held]⟩
          intro named same
          cases same
          rw [held]
          exact Option.some_ne_none other

theorem free_of_held {heap : Heap Address Cell} {address : Address} {cell : Cell}
    (held : heap address = some cell) :
    heap.free address = some (Function.update heap address none) := by
  unfold free
  rw [held]

/-- What was just allocated can be freed, and leaves no trace. -/
theorem free_store (heap : Heap Address Cell) {address : Address} (cell : Cell)
    (fresh : heap address = none) : (heap.store address cell).free address = some heap := by
  rw [free_of_held (heap.store_self address cell), store, Function.update_idem, ← fresh,
    Function.update_eq_self]

end Heap

/-! ## Walks -/

/-- From one pointer to another past these items; `Link` says which pointer leads
to an item and which one is found there. -/
inductive Walk {Pointer Item : Type} (Link : Pointer → Item → Pointer → Prop) :
    Pointer → List Item → Pointer → Prop
  | nil (pointer : Pointer) : Walk Link pointer [] pointer
  | cons {first next last : Pointer} {item : Item} {rest : List Item} (link : Link first item next)
      (walk : Walk Link next rest last) : Walk Link first (item :: rest) last

namespace Walk

variable {Pointer Item : Type} {Link Other : Pointer → Item → Pointer → Prop}
variable {first middle last : Pointer}

theorem append {items others : List Item} (front : Walk Link first items middle)
    (back : Walk Link middle others last) : Walk Link first (items ++ others) last := by
  induction front with
  | nil pointer => exact back
  | cons link walk ih => exact .cons link (ih back)

theorem split {items others : List Item} (walk : Walk Link first (items ++ others) last) :
    ∃ middle, Walk Link first items middle ∧ Walk Link middle others last := by
  induction items generalizing first with
  | nil => exact ⟨first, .nil first, walk⟩
  | cons item rest ih =>
      cases walk with
      | cons link walk =>
          rcases ih walk with ⟨middle, front, back⟩
          exact ⟨middle, .cons link front, back⟩

/-- A walk stays a walk where the links of its items do. -/
theorem mono {items : List Item} (walk : Walk Link first items last)
    (kept : ∀ item ∈ items, ∀ before after, Link before item after → Other before item after) :
    Walk Other first items last := by
  induction walk with
  | nil pointer => exact .nil pointer
  | cons link walk ih =>
      have behind := ih fun item member => kept item (List.mem_cons_of_mem _ member)
      exact .cons (kept _ List.mem_cons_self _ _ link) behind

end Walk

/-! ## Loops -/

/-- What one round of a loop comes to. -/
inductive Round (State Result : Type)
  | done (result : Result)
  | again (state : State)

/-- A loop of at most this many rounds.  A fault in a round ends it, and so does
running out of rounds. -/
def loop {State Result : Type} (round : State → Option (Round State Result)) :
    Nat → State → Option Result
  | 0, _ => none
  | rounds + 1, state =>
      match round state with
      | none => none
      | some (.done result) => some result
      | some (.again next) => loop round rounds next

/-- Another result at the end of the same rounds. -/
def Round.map {State Result Other : Type} (answer : Result → Other) :
    Round State Result → Round State Other
  | done result => done (answer result)
  | again state => again state

section Loop

variable {State Result : Type} {round : State → Option (Round State Result)} {state next : State}

theorem loop_of_done {result : Result} (ends : round state = some (.done result)) (rounds : Nat) :
    loop round (rounds + 1) state = some result := by
  rw [loop, ends]

theorem loop_of_again (goes : round state = some (.again next)) (rounds : Nat) :
    loop round (rounds + 1) state = loop round rounds next := by
  rw [loop, goes]

/-- Two loops that go through the same rounds end with corresponding results. -/
theorem loop_map {Other : Type} (answer : Result → Other)
    (round : State → Option (Round State Result)) (rounds : Nat) (state : State) :
    loop (fun state => (round state).map (.map answer)) rounds state =
      (loop round rounds state).map answer := by
  induction rounds generalizing state with
  | zero => rfl
  | succ rounds ih =>
      unfold loop
      cases round state with
      | none => rfl
      | some outcome =>
          cases outcome with
          | done result => rfl
          | again next => exact ih next

end Loop

end Library
end TrustChain

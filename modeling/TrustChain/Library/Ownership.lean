import Mathlib.Algebra.BigOperators.Group.Finset.Basic
import Mathlib.Data.Fintype.Basic
import TrustChain.Library.Heap

namespace TrustChain
namespace Library

/-!
# Who owns what on a heap

Each allocation has one owner, and an owner may have any number of them.  A step
of a program replaces what one owner has by something else; what the others have
stays where it is and as it is.
-/

namespace Heap

section Ownership

variable {Address Cell Owner Content : Type}

/-- Every allocation belongs to exactly one owner. -/
structure OwnedBy (heap : Heap Address Cell) (owns : Owner → Address → Prop) : Prop where
  exclusive : ∀ first second address, owns first address → owns second address → first = second
  allocated : ∀ address, heap address ≠ none ↔ ∃ owner, owns owner address

/-- The heap afterwards has the new allocations instead of the old ones. -/
structure Replaces (before after : Heap Address Cell) (old new : Address → Prop) : Prop where
  framed : ∀ address, ¬ old address → ¬ new address → after address = before address
  fresh : ∀ address, new address → ¬ old address → before address = none
  given : ∀ address, new address → after address ≠ none
  released : ∀ address, old address → ¬ new address → after address = none

/-- Nothing is allocated, and nobody owns anything. -/
theorem ownedBy_empty {owns : Owner → Address → Prop} (nothing : ∀ owner address, ¬ owns owner address) :
    OwnedBy (fun _ => none : Heap Address Cell) owns where
  exclusive := fun first _ address has _ => absurd has (nothing first address)
  allocated := fun address => by
    constructor
    · intro held
      exact absurd rfl held
    · rintro ⟨owner, has⟩
      exact absurd has (nothing owner address)

theorem OwnedBy.congr {heap : Heap Address Cell} {owns has : Owner → Address → Prop}
    (owned : heap.OwnedBy owns) (same : ∀ owner address, owns owner address ↔ has owner address) :
    heap.OwnedBy has := by
  have equal : owns = has := by
    funext owner address
    exact propext (same owner address)
  rw [← equal]
  exact owned

variable {before middle after : Heap Address Cell} {old between new : Address → Prop}

/-- Where nothing is owned, nothing has to be done. -/
theorem Replaces.of_nothing (noOld : ∀ address, ¬ old address) (noNew : ∀ address, ¬ new address) :
    Replaces before before old new where
  framed := fun _ _ _ => rfl
  fresh := fun address isNew _ => absurd isNew (noNew address)
  given := fun address isNew => absurd isNew (noNew address)
  released := fun address isOld _ => absurd isOld (noOld address)

theorem Replaces.trans (first : Replaces before middle old between)
    (second : Replaces middle after between new) : Replaces before after old new where
  framed := fun address notOld notNew => by
    by_cases inBetween : between address
    · rw [second.released address inBetween notNew, first.fresh address inBetween notOld]
    · rw [second.framed address inBetween notNew, first.framed address notOld inBetween]
  fresh := fun address isNew notOld => by
    by_cases inBetween : between address
    · exact first.fresh address inBetween notOld
    · rw [← first.framed address notOld inBetween]
      exact second.fresh address isNew inBetween
  given := second.given
  released := fun address isOld notNew => by
    by_cases inBetween : between address
    · exact second.released address inBetween notNew
    · rw [second.framed address inBetween notNew]
      exact first.released address isOld inBetween

/-- Heaps with the same owners differ at most in what these have. -/
theorem OwnedBy.eq_of_agree {owns : Owner → Address → Prop} (owned : before.OwnedBy owns)
    (same : after.OwnedBy owns)
    (agree : ∀ owner address, owns owner address → after address = before address) :
    after = before := by
  funext address
  by_cases has : ∃ owner, owns owner address
  · rcases has with ⟨owner, has⟩
    exact agree owner address has
  · have free := mt (owned.allocated address).mp has
    have freeAfter := mt (same.allocated address).mp has
    rw [not_not] at free freeAfter
    rw [free, freeAfter]

/-! ## What the other owners have -/

section Owners

variable {owns : Content → Address → Prop} {contents : Owner → Content} {owner other : Owner}
variable {content : Content}

theorem OwnedBy.held (owned : before.OwnedBy fun owner => owns (contents owner))
    {address : Address} (has : owns (contents owner) address) : before address ≠ none :=
  (owned.allocated address).mpr ⟨owner, has⟩

/-- Nobody else's allocations are among the old or the new ones. -/
theorem Replaces.spares (owned : before.OwnedBy fun owner => owns (contents owner))
    (replaces : Replaces before after (owns (contents owner)) (owns content))
    (different : other ≠ owner) {address : Address} (has : owns (contents other) address) :
    ¬ owns (contents owner) address ∧ ¬ owns content address := by
  have notOld : ¬ owns (contents owner) address := fun isOld =>
    different (owned.exclusive other owner address has isOld)
  refine ⟨notOld, ?_⟩
  intro isNew
  exact owned.held has (replaces.fresh address isNew notOld)

theorem Replaces.kept (owned : before.OwnedBy fun owner => owns (contents owner))
    (replaces : Replaces before after (owns (contents owner)) (owns content))
    (different : other ≠ owner) {address : Address} (has : owns (contents other) address) :
    after address = before address := by
  rcases replaces.spares owned different has with ⟨notOld, notNew⟩
  exact replaces.framed address notOld notNew

variable [DecidableEq Owner]

/-- The new allocations belong to the owner of the old ones. -/
theorem Replaces.owned (owned : before.OwnedBy fun owner => owns (contents owner))
    (replaces : Replaces before after (owns (contents owner)) (owns content)) :
    after.OwnedBy fun any => owns (Function.update contents owner content any) where
  exclusive := fun first second address firstHas secondHas => by
    by_cases isFirst : first = owner
    · by_cases isSecond : second = owner
      · rw [isFirst, isSecond]
      · rw [isFirst, Function.update_self] at firstHas
        rw [Function.update_of_ne isSecond] at secondHas
        exact absurd firstHas (replaces.spares owned isSecond secondHas).2
    · rw [Function.update_of_ne isFirst] at firstHas
      by_cases isSecond : second = owner
      · rw [isSecond, Function.update_self] at secondHas
        exact absurd secondHas (replaces.spares owned isFirst firstHas).2
      · rw [Function.update_of_ne isSecond] at secondHas
        exact owned.exclusive first second address firstHas secondHas
  allocated := fun address => by
    constructor
    · intro held
      by_cases isNew : owns content address
      · exact ⟨owner, by rwa [Function.update_self]⟩
      by_cases isOld : owns (contents owner) address
      · exact absurd (replaces.released address isOld isNew) held
      · rw [replaces.framed address isOld isNew] at held
        rcases (owned.allocated address).mp held with ⟨other, has⟩
        have different : other ≠ owner := by
          rintro rfl
          exact isOld has
        exact ⟨other, by rwa [Function.update_of_ne different]⟩
    · rintro ⟨other, has⟩
      by_cases same : other = owner
      · rw [same, Function.update_self] at has
        exact replaces.given address has
      · rw [Function.update_of_ne same] at has
        rw [replaces.kept owned same has]
        exact owned.held has

/-- An owner gives some of what it has to one that has nothing. -/
theorem OwnedBy.given {giver taker : Owner} {kept given : Content}
    (owned : before.OwnedBy fun owner => owns (contents owner)) (different : taker ≠ giver)
    (nothing : ∀ address, ¬ owns (contents taker) address)
    (split : ∀ address, owns (contents giver) address ↔ owns kept address ∨ owns given address)
    (apart : ∀ address, owns kept address → ¬ owns given address) :
    before.OwnedBy fun owner =>
      owns (Function.update (Function.update contents giver kept) taker given owner) := by
  have takes : ∀ address, owns (Function.update (Function.update contents giver kept) taker given
      taker) address ↔ owns given address := by
    intro address
    rw [Function.update_self]
  have keeps : ∀ address, owns (Function.update (Function.update contents giver kept) taker given
      giver) address ↔ owns kept address := by
    intro address
    rw [Function.update_of_ne different.symm, Function.update_self]
  have others : ∀ owner, owner ≠ taker → owner ≠ giver → Function.update
      (Function.update contents giver kept) taker given owner = contents owner := by
    intro owner notTaker notGiver
    rw [Function.update_of_ne notTaker, Function.update_of_ne notGiver]
  -- Whoever has an address afterwards has it from the one who had it before.
  have source : ∀ owner address, owns (Function.update (Function.update contents giver kept)
      taker given owner) address →
      owns (contents (if owner = taker then giver else owner)) address := by
    intro owner address has
    by_cases isTaker : owner = taker
    · rw [if_pos isTaker, split]
      rw [isTaker, takes] at has
      exact Or.inr has
    · rw [if_neg isTaker]
      by_cases isGiver : owner = giver
      · rw [isGiver, keeps] at has
        rw [isGiver, split]
        exact Or.inl has
      · rwa [others owner isTaker isGiver] at has
  refine ⟨?_, ?_⟩
  · intro first second address firstHas secondHas
    have same := owned.exclusive _ _ address (source first address firstHas)
      (source second address secondHas)
    by_cases isFirst : first = taker
    · by_cases isSecond : second = taker
      · rw [isFirst, isSecond]
      · rw [if_pos isFirst, if_neg isSecond] at same
        rw [isFirst, takes] at firstHas
        rw [← same, keeps] at secondHas
        exact absurd firstHas (apart address secondHas)
    · by_cases isSecond : second = taker
      · rw [if_neg isFirst, if_pos isSecond] at same
        rw [same, keeps] at firstHas
        rw [isSecond, takes] at secondHas
        exact absurd secondHas (apart address firstHas)
      · rwa [if_neg isFirst, if_neg isSecond] at same
  · intro address
    rw [owned.allocated address]
    constructor
    · rintro ⟨owner, has⟩
      by_cases isTaker : owner = taker
      · rw [isTaker] at has
        exact absurd has (nothing address)
      · by_cases isGiver : owner = giver
        · rw [isGiver, split] at has
          rcases has with isKept | isGiven
          · exact ⟨giver, (keeps address).mpr isKept⟩
          · exact ⟨taker, (takes address).mpr isGiven⟩
        · exact ⟨owner, by rwa [others owner isTaker isGiver]⟩
    · rintro ⟨owner, has⟩
      exact ⟨_, source owner address has⟩

end Owners

/-! ## What one owner has -/

section One

variable {heap : Heap Address Cell} {mine rest : Address → Prop}

theorem replaces_same (held : ∀ address, mine address → heap address ≠ none)
    (same : ∀ address, mine address ↔ rest address) : Replaces heap heap mine rest where
  framed := fun _ _ _ => rfl
  fresh := fun address isRest notMine => absurd ((same address).mpr isRest) notMine
  given := fun address isRest => held address ((same address).mpr isRest)
  released := fun address isMine notRest => absurd ((same address).mp isMine) notRest

variable [DecidableEq Address] {address : Address}

/-- One more allocation. -/
theorem replaces_acquire (held : ∀ other, mine other → heap other ≠ none)
    (free : heap address = none) (cell : Cell)
    (more : ∀ other, rest other ↔ mine other ∨ other = address) :
    Replaces heap (heap.store address cell) mine rest where
  framed := fun other _ notRest =>
    heap.store_of_ne cell fun same => notRest ((more other).mpr (Or.inr same))
  fresh := fun other isRest notMine => by
    rcases (more other).mp isRest with isMine | same
    · exact absurd isMine notMine
    · rw [same, free]
  given := fun other isRest => by
    by_cases same : other = address
    · rw [same, store_self]
      exact Option.some_ne_none cell
    · rw [heap.store_of_ne cell same]
      exact held other (((more other).mp isRest).resolve_right same)
  released := fun other isMine notRest => absurd ((more other).mpr (Or.inl isMine)) notRest

/-- One allocation less. -/
theorem replaces_release (held : ∀ other, mine other → heap other ≠ none)
    (less : ∀ other, mine other ↔ rest other ∨ other = address) (gone : ¬ rest address) :
    Replaces heap (Function.update heap address none) mine rest where
  framed := fun other notMine _ =>
    Function.update_of_ne (fun same => notMine ((less other).mpr (Or.inr same))) none heap
  fresh := fun other isRest notMine => absurd ((less other).mpr (Or.inl isRest)) notMine
  given := fun other isRest => by
    have different : other ≠ address := by
      rintro rfl
      exact gone isRest
    rw [Function.update_of_ne different]
    exact held other ((less other).mpr (Or.inl isRest))
  released := fun other isMine notRest => by
    rw [((less other).mp isMine).resolve_left notRest, Function.update_self]

end One
end Ownership

/-! ## One cell -/

section Cell

variable {Address Cell : Type} [DecidableEq Address] {heap : Heap Address Cell} {address : Address}

theorem replaces_store (cell : Cell) :
    Replaces heap (heap.store address cell) (· = address) (· = address) where
  framed := fun _ _ other => heap.store_of_ne cell other
  fresh := fun _ isNew notOld => absurd isNew notOld
  given := fun _ same => by
    rw [same, store_self]
    exact Option.some_ne_none cell
  released := fun _ isOld notNew => absurd isOld notNew

theorem replaces_malloc (cell : Cell) (free : heap address = none) :
    Replaces heap (heap.store address cell) (fun _ => False) (· = address) where
  framed := fun _ _ other => heap.store_of_ne cell other
  fresh := fun _ same _ => by rw [same, free]
  given := fun _ same => by
    rw [same, store_self]
    exact Option.some_ne_none cell
  released := fun _ impossible _ => impossible.elim

theorem free_eq (held : heap address ≠ none) :
    heap.free address = some (Function.update heap address none) := by
  rcases Option.ne_none_iff_exists'.mp held with ⟨cell, isHeld⟩
  exact free_of_held isHeld

theorem replaces_free :
    Replaces heap (Function.update heap address none) (· = address) (fun _ => False) where
  framed := fun _ other _ => Function.update_of_ne other none heap
  fresh := fun _ impossible _ => impossible.elim
  given := fun _ impossible => impossible.elim
  released := fun _ same _ => by rw [same, Function.update_self]

end Cell
end Heap
end Library
end TrustChain

import TrustChain.Library.Region

namespace TrustChain
namespace Library

/-!
# Memory with checked indices

A buffer is the list of its bytes, and a program that reads behind the last one
stops with `none`.  Each access has a condition under which it goes through and
the value that it has then; `Guards` states the two together, and its rules
combine them along a program, so that a checked program is related to the one
without checks by the conditions of its accesses alone.
-/

/-- The checked computation gives this value if the condition holds, and stops
otherwise. -/
structure Guards {α : Type} (checked : Option α) (inside : Prop) (value : α) : Prop where
  of_inside : inside → checked = some value
  of_outside : ¬ inside → checked = none

namespace Guards

section Rules

variable {α β : Type} {checked : Option α} {inside rest : Prop} {value result : α}

theorem pure (value : α) : Guards (some value) True value :=
  ⟨fun _ => rfl, fun outside => absurd trivial outside⟩

theorem congr (guards : Guards checked inside value) (same : inside ↔ rest) :
    Guards checked rest value :=
  ⟨fun holds => guards.of_inside (same.mpr holds),
    fun fails => guards.of_outside (fun holds => fails (same.mp holds))⟩

/-- What is done with a value counts only where the value is reached. -/
theorem bind {next : α → Option β} {result : β} (first : Guards checked inside value)
    (second : inside → Guards (next value) rest result) :
    Guards (checked.bind next) (inside ∧ rest) result := by
  constructor
  · rintro ⟨holds, also⟩
    rw [first.of_inside holds, Option.bind_some]
    exact (second holds).of_inside also
  · intro outside
    by_cases holds : inside
    · rw [first.of_inside holds, Option.bind_some]
      exact (second holds).of_outside (fun also => outside ⟨holds, also⟩)
    · rw [first.of_outside holds, Option.bind_none]

/-- A first part that may get by with less than the condition, if the program
stops later on without it. -/
theorem bind_of_later {next : α → Option β} {result : β} (first : inside → checked = some value)
    (later : ¬ inside → ∀ early, next early = none)
    (second : inside → Guards (next value) rest result) :
    Guards (checked.bind next) (inside ∧ rest) result := by
  constructor
  · rintro ⟨holds, also⟩
    rw [first holds, Option.bind_some]
    exact (second holds).of_inside also
  · intro outside
    by_cases holds : inside
    · rw [first holds, Option.bind_some]
      exact (second holds).of_outside (fun also => outside ⟨holds, also⟩)
    · cases checked with
      | none => rfl
      | some early => exact later holds early

theorem map (guards : Guards checked inside value) (transform : α → β) :
    Guards (checked.map transform) inside (transform value) := by
  constructor
  · intro holds
    rw [guards.of_inside holds, Option.map_some]
  · intro outside
    rw [guards.of_outside outside, Option.map_none]

end Rules

end Guards

/-! ## Accesses -/

/-- The bytes of a field. -/
def fieldOf (memory : List UInt8) (offset size : Nat) : List UInt8 :=
  (memory.drop offset).take size

/-- Some bytes at a fixed place. -/
def checkedBytes (memory : List UInt8) (offset count : Nat) : Option (List UInt8) :=
  if offset + count ≤ memory.length then some (fieldOf memory offset count) else none

theorem checkedBytes_guards (memory : List UInt8) (offset count : Nat) :
    Guards (checkedBytes memory offset count) (offset + count ≤ memory.length)
      (fieldOf memory offset count) :=
  ⟨fun inside => if_pos inside, fun outside => if_neg outside⟩

/-- Bytes that are stored from the start of a buffer on. -/
def checkedStore (memory : List UInt8) (count : Nat) : Option Unit :=
  if count ≤ memory.length then some () else none

theorem checkedStore_guards (memory : List UInt8) (count : Nat) :
    Guards (checkedStore memory count) (count ≤ memory.length) () :=
  ⟨fun inside => if_pos inside, fun outside => if_neg outside⟩

/-- `strlen`, which looks at every byte up to the terminator. -/
def checkedStrlen : List UInt8 → Option Nat
  | [] => none
  | byte :: rest => if byte = 0 then some 0 else (checkedStrlen rest).map (· + 1)

theorem CString.ofMemory_cons {byte : UInt8} (nonzero : byte ≠ 0) (rest : List UInt8) :
    (ofMemory (byte :: rest)).bytes = byte :: (ofMemory rest).bytes := by
  change (byte :: rest).takeWhile (· ≠ 0) = byte :: rest.takeWhile (· ≠ 0)
  apply List.takeWhile_cons_of_pos
  exact decide_eq_true nonzero

theorem CString.ofMemory_zero_cons (rest : List UInt8) : ofMemory (0 :: rest) = empty := by
  apply CString.ext
  change (0 :: rest).takeWhile (· ≠ 0) = []
  apply List.takeWhile_cons_of_neg
  decide

theorem checkedStrlen_guards (memory : List UInt8) :
    Guards (checkedStrlen memory) (0 ∈ memory) (CString.ofMemory memory).length := by
  induction memory with
  | nil => exact ⟨fun member => absurd member List.not_mem_nil, fun _ => rfl⟩
  | cons byte rest ih =>
      by_cases zero : byte = 0
      · subst zero
        rw [CString.ofMemory_zero_cons]
        exact ⟨fun _ => rfl, fun outside => absurd List.mem_cons_self outside⟩
      · have length : (CString.ofMemory (byte :: rest)).length =
            (CString.ofMemory rest).length + 1 := by
          rw [CString.length, CString.ofMemory_cons zero, List.length_cons, CString.length]
        have member : 0 ∈ rest ↔ 0 ∈ byte :: rest := by
          rw [List.mem_cons, or_iff_right (Ne.symm zero)]
        rw [checkedStrlen, if_neg zero, length]
        exact (ih.map (· + 1)).congr member

/-- A string that is read up to its terminator. -/
def checkedString (memory : List UInt8) : Option CString :=
  (checkedStrlen memory).map fun _ => .ofMemory memory

theorem checkedString_guards (memory : List UInt8) :
    Guards (checkedString memory) (0 ∈ memory) (.ofMemory memory) :=
  (checkedStrlen_guards memory).map _

/-- `strcpy` to an array of this size, which has room for the terminator as well. -/
def checkedStrcpy (memory : List UInt8) (room : Nat) : Option CString :=
  (checkedString memory).bind fun text => if text.length < room then some text else none

/-- `strcmp` of a string of the program's own with one in a buffer, as a test
for equality.  It stops at the first difference. -/
def checkedStrcmp : List UInt8 → List UInt8 → Option Bool
  | _, [] => none
  | [], byte :: _ => some (byte = 0)
  | own :: text, byte :: memory => if own = byte then checkedStrcmp text memory else some false

theorem checkedStrcmp_of_terminated (text : CString) {memory : List UInt8}
    (terminated : 0 ∈ memory) :
    checkedStrcmp text.bytes memory = some (decide (text = .ofMemory memory)) := by
  rcases text with ⟨bytes, noNul⟩
  induction memory generalizing bytes with
  | nil => exact absurd terminated List.not_mem_nil
  | cons byte rest ih =>
      by_cases zero : byte = 0
      · subst zero
        rw [CString.ofMemory_zero_cons]
        cases bytes with
        | nil => rfl
        | cons own bytes =>
            have differs : own ≠ 0 := fun same => noNul (same ▸ List.mem_cons_self)
            rw [checkedStrcmp, if_neg differs, decide_eq_false]
            exact fun same => List.cons_ne_nil own bytes (congrArg CString.bytes same)
      · have behind : 0 ∈ rest := (List.mem_cons.mp terminated).resolve_left (Ne.symm zero)
        have later := CString.ofMemory_cons zero rest
        cases bytes with
        | nil =>
            rw [checkedStrcmp, decide_eq_false zero, decide_eq_false]
            intro same
            rw [← same] at later
            exact List.cons_ne_nil _ _ later.symm
        | cons own bytes =>
            rw [List.mem_cons, not_or] at noNul
            by_cases equal : own = byte
            · have same : (⟨bytes, noNul.2⟩ : CString) = .ofMemory rest ↔
                  own :: bytes = (CString.ofMemory (byte :: rest)).bytes := by
                rw [CString.ext_iff, later, List.cons.injEq]
                exact (and_iff_right equal).symm
              rw [checkedStrcmp, if_pos equal, ih behind bytes noNul.2, Option.some.injEq,
                decide_eq_decide, same, CString.ext_iff]
            · rw [checkedStrcmp, if_neg equal, decide_eq_false]
              rw [CString.ext_iff, later, List.cons.injEq]
              exact fun both => equal both.1

/-- The first hit in a list of checked tests ends the search. -/
def checkedAny {α : Type} (test : α → Option Bool) : List α → Option Bool
  | [] => some false
  | head :: rest =>
      (test head).bind fun found => if found then some true else checkedAny test rest

theorem checkedAny_eq {α : Type} {test : α → Option Bool} {outcome : α → Bool}
    (answers : ∀ item, test item = some (outcome item)) (items : List α) :
    checkedAny test items = some (items.any outcome) := by
  induction items with
  | nil => rfl
  | cons head rest ih =>
      rw [checkedAny, answers, Option.bind_some, ih, List.any_cons]
      cases outcome head <;> rfl

/-! ## Fields -/

/-- A string that ends in some memory is all of it up to the first terminator. -/
theorem holdsText_ofMemory_iff (memory : List UInt8) :
    HoldsText memory (.ofMemory memory) ↔ 0 ∈ memory := by
  constructor
  · intro held
    exact held.subset (List.mem_append_right _ (List.mem_singleton.mpr rfl))
  · intro terminated
    induction memory with
    | nil => exact absurd terminated List.not_mem_nil
    | cons byte rest ih =>
        by_cases zero : byte = 0
        · subst zero
          rw [CString.ofMemory_zero_cons]
          exact List.prefix_append [0] rest
        · have behind : 0 ∈ rest := (List.mem_cons.mp terminated).resolve_left (Ne.symm zero)
          rw [HoldsText, CString.ofMemory_cons zero, List.cons_append, List.cons_prefix_cons]
          exact ⟨rfl, ih behind⟩

/-- A string ends inside its field exactly when there is a terminator in it;
it is then the contents of the field. -/
theorem holdsText_fieldOf_iff (memory : List UInt8) (offset size : Nat) :
    HoldsText (fieldOf memory offset size) (.ofMemory (memory.drop offset)) ↔
      0 ∈ fieldOf memory offset size := by
  constructor
  · intro held
    exact held.subset (List.mem_append_right _ (List.mem_singleton.mpr rfl))
  · intro terminated
    have held := (holdsText_ofMemory_iff _).mpr terminated
    have found := held.ofMemory ((memory.drop offset).drop size)
    rw [fieldOf, List.take_append_drop] at found
    rw [found]
    exact held

/-- A string can be copied if it ends within the size of its new place. -/
theorem checkedStrcpy_guards (memory : List UInt8) (room : Nat) :
    Guards (checkedStrcpy memory room) (0 ∈ fieldOf memory 0 room) (.ofMemory memory) := by
  have fits : Guards
      (if (CString.ofMemory memory).length < room then some (CString.ofMemory memory) else none)
      ((CString.ofMemory memory).length < room) (.ofMemory memory) :=
    ⟨fun inside => if_pos inside, fun outside => if_neg outside⟩
  refine ((checkedString_guards memory).bind fun _ => fits).congr ?_
  constructor
  · rintro ⟨terminated, short⟩
    have held := (holdsText_ofMemory_iff memory).mpr terminated
    have length : ((CString.ofMemory memory).bytes ++ [0]).length ≤ room := by
      rw [List.length_append]
      exact short
    have inField : (CString.ofMemory memory).bytes ++ [0] <+: fieldOf memory 0 room :=
      List.prefix_take_iff.mpr ⟨held, length⟩
    exact inField.subset (List.mem_append_right _ (List.mem_singleton.mpr rfl))
  · intro inField
    have held := (holdsText_fieldOf_iff memory 0 room).mpr inField
    have length : ((CString.ofMemory memory).bytes ++ [0]).length ≤ (fieldOf memory 0 room).length :=
      held.length_le
    rw [List.length_append, fieldOf, List.length_take] at length
    exact ⟨List.mem_of_mem_drop (List.mem_of_mem_take inField),
      Nat.le_trans length (Nat.min_le_left _ _)⟩

end Library
end TrustChain

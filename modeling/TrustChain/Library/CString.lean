import Mathlib.Data.List.TakeWhile
import Mathlib.Data.Nat.Digits.Lemmas

namespace TrustChain
namespace Library

/-!
# Strings as C sees them

A C string is the run of bytes in front of the first NUL.  The type below keeps
that fact as a field, so `strcmp` is equality, `strlen` is the length, and a
terminator can be put back without ambiguity.

The second half is about formatted text: unsigned decimals, a separator byte
between fields, and the cut that `snprintf` makes at the size of its buffer.
-/

/-- A sequence of bytes none of which is NUL. -/
@[ext] structure CString where
  bytes : List UInt8
  noNul : (0 : UInt8) ∉ bytes
  deriving DecidableEq

namespace CString

def empty : CString := ⟨[], List.not_mem_nil⟩

instance : Inhabited CString := ⟨empty⟩

/-- `strlen`. -/
def length (text : CString) : Nat := text.bytes.length

/-- What a reader of C strings finds at the start of this memory. -/
def ofMemory (memory : List UInt8) : CString where
  bytes := memory.takeWhile (· ≠ 0)
  noNul := fun member => by
    have kept := List.mem_takeWhile_imp member
    exact absurd kept (by decide)

/-- A literal of the source, which is plain ASCII. -/
def literal (text : String) : CString :=
  .ofMemory (text.toList.map fun character => UInt8.ofNat character.toNat)

def append (first second : CString) : CString where
  bytes := first.bytes ++ second.bytes
  noNul := fun member =>
    (List.mem_append.mp member).elim first.noNul second.noNul

instance : Append CString := ⟨append⟩

/-- The `%.ns` conversion: at most `n` bytes of the argument. -/
def take (n : Nat) (text : CString) : CString where
  bytes := text.bytes.take n
  noNul := fun member => text.noNul (List.mem_of_mem_take member)

/-- What `snprintf` leaves in a buffer of the given size, which always keeps
room for the terminator. -/
def snprintf (size : Nat) (text : CString) : CString :=
  text.take (size - 1)

@[simp] theorem bytes_empty : empty.bytes = [] := rfl

@[simp] theorem bytes_append (first second : CString) :
    (first ++ second).bytes = first.bytes ++ second.bytes := rfl

@[simp] theorem bytes_take (n : Nat) (text : CString) :
    (text.take n).bytes = text.bytes.take n := rfl

@[simp] theorem length_empty : empty.length = 0 := rfl

theorem append_empty (text : CString) : text ++ empty = text := by
  apply CString.ext
  exact List.append_nil text.bytes

@[simp] theorem length_append (first second : CString) :
    (first ++ second).length = first.length + second.length :=
  List.length_append

@[simp] theorem length_take (n : Nat) (text : CString) :
    (text.take n).length = min n text.length :=
  List.length_take

theorem take_eq_self {n : Nat} {text : CString} (fits : text.length ≤ n) :
    text.take n = text :=
  CString.ext (List.take_of_length_le fits)

theorem snprintf_eq_self {size : Nat} {text : CString} (fits : text.length < size) :
    text.snprintf size = text :=
  take_eq_self (by omega)

theorem ne_zero_of_mem {text : CString} {byte : UInt8} (member : byte ∈ text.bytes) :
    byte ≠ 0 :=
  fun same => text.noNul (same ▸ member)

/-- Reading up to the terminator gives back the string that was stored. -/
theorem ofMemory_terminated (text : CString) (rest : List UInt8) :
    ofMemory (text.bytes ++ 0 :: rest) = text := by
  apply CString.ext
  change (text.bytes ++ 0 :: rest).takeWhile (· ≠ 0) = text.bytes
  rw [List.takeWhile_append_of_pos (fun byte member => by simpa using ne_zero_of_mem member)]
  simp

theorem ofMemory_bytes (text : CString) : ofMemory text.bytes = text := by
  apply CString.ext
  exact List.takeWhile_eq_self_iff.mpr (fun byte member => by simpa using ne_zero_of_mem member)

/-- A string that ends inside some memory is found there, whatever lies behind. -/
theorem ofMemory_append {memory : List UInt8} (ends : (ofMemory memory).length < memory.length)
    (behind : List UInt8) : ofMemory (memory ++ behind) = ofMemory memory := by
  apply CString.ext
  change (memory ++ behind).takeWhile (· ≠ 0) = memory.takeWhile (· ≠ 0)
  rw [List.takeWhile_append, if_neg]
  exact Nat.ne_of_lt ends

/-! ## Separators -/

/-- The text of one byte other than NUL. -/
def char (byte : UInt8) (nonzero : byte ≠ 0) : CString :=
  ⟨[byte], fun member => nonzero (List.mem_singleton.mp member).symm⟩

/-- The `:` between the fields of a format. -/
def colon : CString := char 58 (by decide)

@[simp] theorem bytes_colon : colon.bytes = [58] := rfl

@[simp] theorem length_colon : colon.length = 1 := rfl

/-- No `:` inside. -/
def ColonFree (text : CString) : Prop := (58 : UInt8) ∉ text.bytes

instance (text : CString) : Decidable text.ColonFree :=
  inferInstanceAs (Decidable (_ ∉ _))

theorem ColonFree.take {text : CString} (free : text.ColonFree) (n : Nat) :
    (text.take n).ColonFree :=
  fun member => free (List.mem_of_mem_take member)

end CString

/-- Two texts cut at their first separator have equal first fields and equal
remainders.  Nothing is asked of the remainders. -/
theorem append_cons_inj_of_free {α : Type} {separator : α} {first second : List α}
    (firstFree : separator ∉ first) (secondFree : separator ∉ second) {rest other : List α}
    (same : first ++ separator :: rest = second ++ separator :: other) :
    first = second ∧ rest = other := by
  induction first generalizing second with
  | nil =>
      cases second with
      | nil => exact ⟨rfl, (List.cons.inj same).2⟩
      | cons head tail =>
          exact absurd ((List.cons.inj same).1 ▸ List.mem_cons_self) secondFree
  | cons head tail ih =>
      cases second with
      | nil =>
          exact absurd ((List.cons.inj same).1.symm ▸ List.mem_cons_self) firstFree
      | cons otherHead otherTail =>
          rcases List.cons.inj same with ⟨heads, tails⟩
          have inner := ih (fun member => firstFree (List.mem_cons_of_mem _ member))
            (fun member => secondFree (List.mem_cons_of_mem _ member)) tails
          exact ⟨by rw [heads, inner.1], inner.2⟩

/-- The mark does not stand next to itself. -/
def NeverDoubled {α : Type} (mark : α) (text : List α) : Prop :=
  text.IsChain fun first second => ¬ (first = mark ∧ second = mark)

theorem NeverDoubled.cons_append {α : Type} {mark first : α} {field rest : List α}
    (different : first ≠ mark) (free : mark ∉ field) (tail : NeverDoubled mark (mark :: rest)) :
    NeverDoubled mark (first :: field ++ mark :: rest) := by
  induction field generalizing first with
  | nil => exact List.isChain_cons_cons.mpr ⟨fun both => different both.1, tail⟩
  | cons next field ih =>
      rw [List.mem_cons, not_or] at free
      exact List.isChain_cons_cons.mpr
        ⟨fun both => different both.1, ih (Ne.symm free.1) free.2⟩

/-- A field between two marks keeps them apart, unless it is empty. -/
theorem NeverDoubled.field {α : Type} {mark : α} {field rest : List α} (nonempty : field ≠ [])
    (free : mark ∉ field) (tail : NeverDoubled mark (mark :: rest)) :
    NeverDoubled mark (mark :: (field ++ mark :: rest)) := by
  cases field with
  | nil => exact absurd rfl nonempty
  | cons first field =>
      rw [List.mem_cons, not_or] at free
      exact List.isChain_cons_cons.mpr
        ⟨fun both => free.1 both.2.symm, cons_append (Ne.symm free.1) free.2 tail⟩

private theorem append_eq_nil_of_framed {α : Type} {mark : α} {frame longer body other : List α}
    (once : NeverDoubled mark (mark :: body))
    (same : mark :: mark :: (body ++ frame) =
      longer ++ mark :: mark :: (other ++ (frame ++ longer))) : longer = [] := by
  cases longer with
  | nil => rfl
  | cons first rest =>
      have tails : mark :: (body ++ frame) =
          (rest ++ [mark, mark]) ++ (other ++ (frame ++ (first :: rest))) := by
        rw [(List.cons.inj same).2, List.append_assoc]
        rfl
      have shorter : (rest ++ [mark, mark]).length ≤ (mark :: body).length := by
        have lengths := congrArg List.length tails
        simp only [List.length_append, List.length_cons, List.length_nil] at lengths ⊢
        omega
      have inside : rest ++ [mark, mark] <+: mark :: body :=
        List.prefix_of_prefix_length_le ⟨_, tails.symm⟩
          (List.prefix_append (mark :: body) frame) shorter
      rcases inside with ⟨more, split⟩
      rw [NeverDoubled, ← split] at once
      have doubled := once.left_of_append.right_of_append
      exact absurd ⟨rfl, rfl⟩ (List.isChain_pair.mp doubled)

/-- A text that stands on both sides of a body can be read back, whatever it is:
the mark that introduces the body is doubled there and nowhere inside. -/
theorem frame_eq_of_framed {α : Type} {mark : α} {frame otherFrame body otherBody : List α}
    (once : NeverDoubled mark (mark :: body)) (otherOnce : NeverDoubled mark (mark :: otherBody))
    (same : frame ++ mark :: mark :: (body ++ frame) =
      otherFrame ++ mark :: mark :: (otherBody ++ otherFrame)) : frame = otherFrame := by
  rcases List.append_eq_append_iff.mp same with ⟨longer, isOther, rest⟩ | ⟨longer, isFrame, rest⟩
  · rw [isOther] at rest
    rw [isOther, append_eq_nil_of_framed once rest, List.append_nil]
  · rw [isFrame] at rest
    rw [isFrame, append_eq_nil_of_framed otherOnce rest, List.append_nil]

/-- Fields separated by `:`. -/
def joinColon : List CString → CString
  | [] => .empty
  | [field] => field
  | field :: next :: rest => field ++ .colon ++ joinColon (next :: rest)

theorem bytes_joinColon_cons (field next : CString) (rest : List CString) :
    (joinColon (field :: next :: rest)).bytes = field.bytes ++ 58 :: (joinColon (next :: rest)).bytes := by
  simp [joinColon]

theorem length_joinColon_cons (field next : CString) (rest : List CString) :
    (joinColon (field :: next :: rest)).length =
      field.length + 1 + (joinColon (next :: rest)).length := by
  simp [joinColon]

/-- A join is as long as its fields and one separator for each, at most. -/
theorem length_joinColon_le (fields : List CString) :
    (joinColon fields).length ≤ (fields.map CString.length).sum + fields.length := by
  induction fields with
  | nil => exact Nat.zero_le _
  | cons field rest ih =>
      cases rest with
      | nil => simp [joinColon]
      | cons next rest =>
          rw [length_joinColon_cons, List.map_cons, List.sum_cons, List.length_cons]
          omega

/-- Equal joins with a first field that is free of the separator on both sides
agree on that field and on what follows it. -/
theorem joinColon_inj_of_free {first second next other : CString} {rest others : List CString}
    (firstFree : first.ColonFree) (secondFree : second.ColonFree)
    (same : joinColon (first :: next :: rest) = joinColon (second :: other :: others)) :
    first = second ∧ joinColon (next :: rest) = joinColon (other :: others) := by
  have bytes := congrArg CString.bytes same
  rw [bytes_joinColon_cons, bytes_joinColon_cons] at bytes
  have parts := append_cons_inj_of_free firstFree secondFree bytes
  exact ⟨CString.ext parts.1, CString.ext parts.2⟩

/-- The same for a first field of one known length, whatever it contains. -/
theorem joinColon_inj_of_length {first second next other : CString} {rest others : List CString}
    (lengths : first.length = second.length)
    (same : joinColon (first :: next :: rest) = joinColon (second :: other :: others)) :
    first = second ∧ joinColon (next :: rest) = joinColon (other :: others) := by
  have bytes := congrArg CString.bytes same
  rw [bytes_joinColon_cons, bytes_joinColon_cons] at bytes
  have parts := List.append_inj bytes lengths
  exact ⟨CString.ext parts.1, CString.ext (List.cons.inj parts.2).2⟩

/-! ## Unsigned decimals -/

/-- The digits of `%u`, most significant first.  Zero is printed as one digit. -/
def decimalDigits (n : Nat) : List Nat :=
  if n = 0 then [0] else (Nat.digits 10 n).reverse

/-- The number that a list of decimal digits denotes. -/
def decimalValue (digits : List Nat) : Nat :=
  Nat.ofDigits 10 digits.reverse

theorem decimalValue_decimalDigits (n : Nat) : decimalValue (decimalDigits n) = n := by
  unfold decimalValue decimalDigits
  by_cases zero : n = 0
  · rw [if_pos zero, zero]; rfl
  · rw [if_neg zero, List.reverse_reverse, Nat.ofDigits_digits]

theorem decimalDigits_lt {n digit : Nat} (member : digit ∈ decimalDigits n) : digit < 10 := by
  unfold decimalDigits at member
  by_cases zero : n = 0
  · rw [if_pos zero, List.mem_singleton] at member
    omega
  · rw [if_neg zero, List.mem_reverse] at member
    exact Nat.digits_lt_base (by decide) member

theorem decimalDigits_length_le {n width : Nat} (positive : 0 < width) (bound : n < 10 ^ width) :
    (decimalDigits n).length ≤ width := by
  unfold decimalDigits
  by_cases zero : n = 0
  · rw [if_pos zero]; exact positive
  · rw [if_neg zero, List.length_reverse]
    exact (Nat.digits_length_le_iff (by decide) n).mpr bound

/-- The character of a decimal digit. -/
def digitByte (digit : Nat) : UInt8 := UInt8.ofNat (digit + 48)

theorem toNat_digitByte {digit : Nat} (small : digit < 10) : (digitByte digit).toNat = digit + 48 := by
  unfold digitByte
  rw [UInt8.toNat_ofNat']
  exact Nat.mod_eq_of_lt (by omega)

/-- `%u`. -/
def decimal (n : Nat) : CString where
  bytes := (decimalDigits n).map digitByte
  noNul := fun member => by
    rcases List.mem_map.mp member with ⟨digit, inside, same⟩
    have value := toNat_digitByte (decimalDigits_lt inside)
    rw [same] at value
    simp at value

theorem decimal_colonFree (n : Nat) : (decimal n).ColonFree := by
  intro member
  rcases List.mem_map.mp member with ⟨digit, inside, same⟩
  have small := decimalDigits_lt inside
  have value := toNat_digitByte small
  rw [same] at value
  have : (58 : UInt8).toNat = 58 := rfl
  omega

theorem decimal_ne_nil (n : Nat) : (decimal n).bytes ≠ [] := by
  change (decimalDigits n).map digitByte ≠ []
  rw [Ne, List.map_eq_nil_iff]
  unfold decimalDigits
  by_cases zero : n = 0
  · rw [if_pos zero]
    exact List.cons_ne_nil 0 []
  · rw [if_neg zero, List.reverse_eq_nil_iff]
    exact Nat.digits_ne_nil_iff_ne_zero.mpr zero

theorem decimal_injective {n m : Nat} (same : decimal n = decimal m) : n = m := by
  have bytes : (decimalDigits n).map digitByte = (decimalDigits m).map digitByte :=
    congrArg CString.bytes same
  have digits : decimalDigits n = decimalDigits m := by
    have back : ∀ k : Nat, ((decimalDigits k).map digitByte).map (fun byte => byte.toNat - 48) =
        decimalDigits k := by
      intro k
      have pointwise : ∀ digit ∈ decimalDigits k, (digitByte digit).toNat - 48 = id digit := by
        intro digit inside
        rw [toNat_digitByte (decimalDigits_lt inside), Nat.add_sub_cancel]
        rfl
      rw [List.map_map]
      exact (List.map_congr_left pointwise).trans (List.map_id _)
    rw [← back n, bytes, back m]
  rw [← decimalValue_decimalDigits n, digits, decimalValue_decimalDigits m]

/-- A 32-bit number takes at most ten characters. -/
theorem decimal_uint32_length_le (n : UInt32) : (decimal n.toNat).length ≤ 10 := by
  have bound : n.toNat < 10 ^ 10 := Nat.lt_trans n.toNat_lt (by decide)
  change ((decimalDigits n.toNat).map digitByte).length ≤ 10
  rw [List.length_map]
  exact decimalDigits_length_le (by decide) bound

theorem decimal_uint32_injective {n m : UInt32} (same : decimal n.toNat = decimal m.toNat) :
    n = m :=
  UInt32.toNat_inj.mp (decimal_injective same)

end Library
end TrustChain

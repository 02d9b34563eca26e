import Mathlib.Data.List.Forall2
import TrustChain.Library.Region

namespace TrustChain
namespace Library

/-!
# Formatted text and the buffer it is stored in

A format whose conversions are separated by `:` takes one byte for each of them
besides its characters: the separator, or the terminator behind the last one.
So the greatest width of each conversion settles how large a buffer has to be,
and a text that has room is stored with everything in it.
-/

/-- The fields are not longer than these widths, one by one. -/
abbrev Within (fields : List CString) (widths : List Nat) : Prop :=
  List.Forall₂ (fun field width => field.length ≤ width) fields widths

/-- The bytes that fields of these widths take, with what stands behind each. -/
def bufferSize (widths : List Nat) : Nat := (widths.map (· + 1)).sum

@[simp] theorem bufferSize_cons (width : Nat) (rest : List Nat) :
    bufferSize (width :: rest) = width + 1 + bufferSize rest := by
  rw [bufferSize, List.map_cons, List.sum_cons, bufferSize]

theorem length_joinColon_succ {fields : List CString} (nonempty : fields ≠ []) :
    (joinColon fields).length + 1 = bufferSize (fields.map CString.length) := by
  induction fields with
  | nil => exact absurd rfl nonempty
  | cons field rest ih =>
      cases rest with
      | nil => rfl
      | cons next rest =>
          have behind := ih (List.cons_ne_nil next rest)
          rw [length_joinColon_cons, List.map_cons, bufferSize_cons, ← behind]
          omega

theorem Within.bufferSize_le {fields : List CString} {widths : List Nat}
    (within : Within fields widths) : bufferSize (fields.map CString.length) ≤ bufferSize widths := by
  induction within with
  | nil => exact Nat.le_refl _
  | cons field rest ih =>
      rw [List.map_cons, bufferSize_cons, bufferSize_cons]
      omega

theorem Within.length_lt {fields : List CString} {widths : List Nat} {size : Nat}
    (within : Within fields widths) (nonempty : fields ≠ []) (room : bufferSize widths ≤ size) :
    (joinColon fields).length < size :=
  calc
    (joinColon fields).length < (joinColon fields).length + 1 := Nat.lt_succ_self _
    _ = bufferSize (fields.map CString.length) := length_joinColon_succ nonempty
    _ ≤ bufferSize widths := within.bufferSize_le
    _ ≤ size := room

/-- The last of several fields ends the text, behind a separator. -/
theorem last_suffix_joinColon {front : List CString} (nonempty : front ≠ []) (last : CString) :
    58 :: last.bytes <:+ (joinColon (front ++ [last])).bytes := by
  induction front with
  | nil => exact absurd rfl nonempty
  | cons field rest ih =>
      cases rest with
      | nil =>
          rw [List.singleton_append, bytes_joinColon_cons]
          exact List.suffix_append field.bytes (58 :: last.bytes)
      | cons next rest =>
          have behind := ih (List.cons_ne_nil next rest)
          rw [List.cons_append, List.cons_append, bytes_joinColon_cons]
          exact (behind.trans (List.suffix_cons 58 _)).trans (List.suffix_append field.bytes _)

/-! ## In memory -/

/-- `snprintf`: what it keeps of the text, and a terminator. -/
def Region.snprintf (region : Region) (offset size : Nat) (text : CString) : Region :=
  if size = 0 then region else region.strcpy offset (text.snprintf size)

theorem Region.snprintf_of_lt (region : Region) (offset : Nat) {size : Nat} {text : CString}
    (fits : text.length < size) : region.snprintf offset size text = region.strcpy offset text := by
  rw [snprintf, if_neg (by omega), CString.snprintf_eq_self fits]

/-- A text that a buffer holds whole, whatever was in it before: nothing is
written behind the buffer, a reader finds all of the text, and the last field
is the end of it. -/
structure StoredWhole (size : Nat) (text last : CString) : Prop where
  fits : text.length < size
  inside : ∀ buffer : Region, buffer.SameFrom size (buffer.snprintf 0 size text)
  stored : ∀ buffer : Region, (buffer.snprintf 0 size text).readString 0 size = text
  trailing : 58 :: last.bytes <:+ text.bytes

theorem StoredWhole.of_within {front : List CString} {last : CString} {widths : List Nat}
    {size : Nat} (nonempty : front ≠ []) (within : Within (front ++ [last]) widths)
    (room : bufferSize widths ≤ size) : StoredWhole size (joinColon (front ++ [last])) last := by
  have fits : (joinColon (front ++ [last])).length < size :=
    within.length_lt (List.append_ne_nil_of_left_ne_nil nonempty [last]) room
  refine ⟨fits, ?_, ?_, last_suffix_joinColon nonempty last⟩
  · intro buffer
    have bytes : ((joinColon (front ++ [last])).bytes ++ [0]).length ≤ size := by
      rw [List.length_append, List.length_singleton]
      exact fits
    rw [Region.snprintf_of_lt buffer 0 fits]
    exact (Region.sameFrom_write_iff size _).mpr bytes buffer
  · intro buffer
    rw [Region.snprintf_of_lt buffer 0 fits, Region.readString_strcpy]
    exact CString.take_eq_self (Nat.le_of_lt fits)

end Library
end TrustChain

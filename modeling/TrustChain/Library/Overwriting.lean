import Mathlib.Data.Set.Function
import Mathlib.Order.Interval.Finset.Nat
import TrustChain.Library.Region

namespace TrustChain
namespace Library

/-!
# Memory that is filled in

Code that fills in memory gives values to some cells and leaves the others as
they were.  Whoever sees the memory afterwards sees the others with what they
held before, and learns nothing about what the first ones held.
-/

section Cells

variable {Cell Value : Type*}

/-- The cells in `written` come out the same whatever the memory held, and all
others come out as they were. -/
structure Overwrites (fill : (Cell → Value) → Cell → Value) (written : Set Cell) : Prop where
  determined : ∀ first second, Set.EqOn (fill first) (fill second) written
  kept : ∀ memory, Set.EqOn (fill memory) memory writtenᶜ

namespace Overwrites

variable {fill next : (Cell → Value) → Cell → Value} {written rewritten : Set Cell}

/-- One piece of code after the other. -/
theorem andThen (before : Overwrites fill written) (after : Overwrites next rewritten) :
    Overwrites (fun memory => next (fill memory)) (written ∪ rewritten) := by
  constructor
  · intro first second cell inside
    by_cases last : cell ∈ rewritten
    · exact after.determined _ _ last
    · have earlier : cell ∈ written := inside.resolve_right last
      calc next (fill first) cell = fill first cell := after.kept _ last
        _ = fill second cell := before.determined _ _ earlier
        _ = next (fill second) cell := (after.kept _ last).symm
  · intro memory cell outside
    have notLast : cell ∉ rewritten := fun last => outside (Or.inr last)
    have notEarlier : cell ∉ written := fun earlier => outside (Or.inl earlier)
    exact (after.kept _ notLast).trans (before.kept _ notEarlier)

/-- What can be told from a window: the cells in it that were not written. -/
theorem eqOn_iff (overwrites : Overwrites fill written) (first second : Cell → Value)
    (window : Set Cell) :
    Set.EqOn (fill first) (fill second) window ↔ Set.EqOn first second (window \ written) := by
  constructor
  · intro same cell inside
    calc first cell = fill first cell := (overwrites.kept first inside.2).symm
      _ = fill second cell := same inside.1
      _ = second cell := overwrites.kept second inside.2
  · intro same cell inside
    by_cases given : cell ∈ written
    · exact overwrites.determined first second given
    · calc fill first cell = first cell := overwrites.kept first given
        _ = second cell := same ⟨inside, given⟩
        _ = fill second cell := (overwrites.kept second given).symm

end Overwrites

end Cells

namespace Region

/-- The offsets of an object of this size. -/
def cells (offset size : Nat) : Set Nat := Set.Ico offset (offset + size)

theorem overwrites_write (offset : Nat) (bytes : List UInt8) :
    Overwrites (fun region : Region => region.write offset bytes)
      (cells offset bytes.length) := by
  constructor
  · intro first second index inside
    exact (if_pos inside).trans (if_pos inside).symm
  · intro region index outside
    exact if_neg outside

theorem overwrites_writeUInt32 (offset : Nat) (n : UInt32) :
    Overwrites (fun region : Region => region.writeUInt32 offset n) (cells offset 4) :=
  overwrites_write offset (littleEndian n)

/-- A string takes a byte more than it has characters. -/
theorem overwrites_strcpy (offset : Nat) (text : CString) :
    Overwrites (fun region : Region => region.strcpy offset text)
      (cells offset (text.length + 1)) := by
  have length : (text.bytes ++ [0]).length = text.length + 1 := List.length_append
  have written := overwrites_write offset (text.bytes ++ [0])
  rw [length] at written
  exact written

/-- Two objects look the same if all their bytes do. -/
theorem read_eq_read_iff (first second : Region) (offset size : Nat) :
    first.read offset size = second.read offset size ↔
      Set.EqOn first second (cells offset size) := by
  constructor
  · induction size generalizing offset with
    | zero =>
        intro _ index inside
        exact absurd inside.2 (Nat.not_lt.mpr inside.1)
    | succ size ih =>
        intro same index inside
        have parts := List.cons.inj same
        rcases Nat.eq_or_lt_of_le inside.1 with atStart | behind
        · rw [← atStart]
          exact parts.1
        · have bound := inside.2
          exact ih (offset + 1) parts.2 ⟨behind, by omega⟩
  · intro same
    exact read_congr fun index low high => same ⟨low, high⟩

end Region

end Library
end TrustChain

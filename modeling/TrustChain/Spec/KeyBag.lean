import Mathlib.Data.List.DropRight
import Mathlib.Data.Multiset.AddSub
import Mathlib.Data.Multiset.Count

namespace TrustChain
namespace Spec

universe u

/-!
# A bag of keys and its history

What a list of keys is for, without nodes and pointers: a multiset that keys are
put into and taken out of, one occurrence at a time.  Who sees the history only
can do without the multiset: a key is in it as often as it was added and not
removed again since the bag was last emptied.
-/

/-- What a call has done to the bag, as its answer shows. -/
inductive BagEvent (Key : Type u)
  | added (key : Key)
  | refused (key : Key)
  | removed (key : Key)
  | missed (key : Key)
  | looked (key : Key) (present : Bool)
  | emptied
  deriving DecidableEq

variable {Key : Type u} [DecidableEq Key]

/-- The bag before an event and after it. -/
inductive BagStep : Multiset Key → BagEvent Key → Multiset Key → Prop
  | added (bag : Multiset Key) (key : Key) : BagStep bag (.added key) (key ::ₘ bag)
  | refused (bag : Multiset Key) (key : Key) : BagStep bag (.refused key) bag
  | removed {bag : Multiset Key} {key : Key} (member : key ∈ bag) :
      BagStep bag (.removed key) (bag.erase key)
  | missed {bag : Multiset Key} {key : Key} (absent : key ∉ bag) : BagStep bag (.missed key) bag
  | looked (bag : Multiset Key) (key : Key) : BagStep bag (.looked key (decide (key ∈ bag))) bag
  | emptied (bag : Multiset Key) : BagStep bag .emptied 0

/-- A history that starts from the empty bag, oldest event first. -/
inductive BagRun : List (BagEvent Key) → Multiset Key → Prop
  | start : BagRun [] 0
  | snoc {events : List (BagEvent Key)} {event : BagEvent Key} {bag after : Multiset Key}
      (run : BagRun events bag) (step : BagStep bag event after) :
      BagRun (events ++ [event]) after

/-! ## Counting -/

/-- The events behind the last time the bag was emptied. -/
def sinceEmptied (events : List (BagEvent Key)) : List (BagEvent Key) :=
  events.rtakeWhile fun event => decide (event ≠ .emptied)

def additions (key : Key) (events : List (BagEvent Key)) : Nat :=
  (sinceEmptied events).count (.added key)

def removals (key : Key) (events : List (BagEvent Key)) : Nat :=
  (sinceEmptied events).count (.removed key)

theorem sinceEmptied_emptied (events : List (BagEvent Key)) :
    sinceEmptied (events ++ [.emptied]) = [] :=
  List.rtakeWhile_concat_neg _ _ _ (by simp)

theorem sinceEmptied_snoc (events : List (BagEvent Key)) {event : BagEvent Key}
    (other : event ≠ .emptied) : sinceEmptied (events ++ [event]) = sinceEmptied events ++ [event] :=
  List.rtakeWhile_concat_pos _ _ _ (by simpa using other)

theorem additions_snoc (key : Key) (events : List (BagEvent Key)) {event : BagEvent Key}
    (other : event ≠ .emptied) :
    additions key (events ++ [event]) =
      additions key events + if event = .added key then 1 else 0 := by
  rw [additions, sinceEmptied_snoc events other, List.count_append, List.count_singleton]
  simp only [beq_iff_eq, additions]

theorem removals_snoc (key : Key) (events : List (BagEvent Key)) {event : BagEvent Key}
    (other : event ≠ .emptied) :
    removals key (events ++ [event]) =
      removals key events + if event = .removed key then 1 else 0 := by
  rw [removals, sinceEmptied_snoc events other, List.count_append, List.count_singleton]
  simp only [beq_iff_eq, removals]

/-- One step changes both sides alike. -/
theorem BagStep.count_add_removals {events : List (BagEvent Key)} {event : BagEvent Key}
    {bag after : Multiset Key} (step : BagStep bag event after) (key : Key)
    (before : bag.count key + removals key events = additions key events) :
    after.count key + removals key (events ++ [event]) = additions key (events ++ [event]) := by
  have idle : event ≠ .emptied → event ≠ .added key → event ≠ .removed key →
      bag.count key + removals key (events ++ [event]) = additions key (events ++ [event]) := by
    intro notEmptied notAdded notRemoved
    rw [additions_snoc key events notEmptied, removals_snoc key events notEmptied,
      if_neg notAdded, if_neg notRemoved]
    exact before
  cases step with
  | emptied =>
      rw [additions, removals, sinceEmptied_emptied]
      exact Multiset.count_zero key
  | added new =>
      rw [additions_snoc key events (by simp), removals_snoc key events (by simp),
        Multiset.count_cons]
      simp only [BagEvent.added.injEq, reduceCtorEq, if_false, eq_comm (a := key)]
      omega
  | @removed old member =>
      rw [additions_snoc key events (by simp), removals_snoc key events (by simp)]
      by_cases same : old = key
      · subst same
        have present := Multiset.one_le_count_iff_mem.mpr member
        rw [Multiset.count_erase_self, if_pos rfl, if_neg (by simp)]
        omega
      · rw [Multiset.count_erase_of_ne (Ne.symm same), if_neg (by simpa using same),
          if_neg (by simp)]
        exact before
  | refused old => exact idle (by simp) (by simp) (by simp)
  | missed absent => exact idle (by simp) (by simp) (by simp)
  | looked old => exact idle (by simp) (by simp) (by simp)

/-- A key is in the bag as often as it was added and not removed again. -/
theorem BagRun.count_add_removals {events : List (BagEvent Key)} {bag : Multiset Key}
    (run : BagRun events bag) (key : Key) :
    bag.count key + removals key events = additions key events := by
  induction run with
  | start => exact Multiset.count_zero key
  | snoc run step ih => exact step.count_add_removals key ih

end Spec
end TrustChain

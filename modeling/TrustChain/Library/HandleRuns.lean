import Mathlib.Data.Finset.Card
import TrustChain.Library.Handles

namespace TrustChain
namespace Library

/-!
# Runs of programs with handles

A program that has a state of its own, and answers one call after the other, is
run with the handles that it opens and closes.  Each call keeps what is open, or
leaves one more handle behind, or leaves its bounds, and the program without
handles tells which.  Then a run either goes through with the states and the
answers of the program without handles, and exactly as many handles stay behind
as there were calls of the second kind; or there was a call of the third kind.
-/

/-! ## What stays behind -/

/-- All that has changed is that some handles are open which were not, so many of
them and all of this kind. -/
def LeavesBehind {Kind : Type} (kind : Kind) (number : Nat) (before after : OpenHandles Kind) :
    Prop :=
  ∃ left : Finset Handle, left.card = number ∧
    (∀ handle ∈ left, before handle = none ∧ after handle = some kind) ∧
    ∀ handle, handle ∉ left → after handle = before handle

section LeavesBehind

variable {Kind : Type} {kind : Kind} {number : Nat} {first before after : OpenHandles Kind}

theorem LeavesBehind.refl (kind : Kind) (live : OpenHandles Kind) :
    LeavesBehind kind 0 live live :=
  ⟨∅, rfl, fun _ impossible => absurd impossible (Finset.notMem_empty _), fun _ _ => rfl⟩

/-- One more handle stays behind. -/
theorem LeavesBehind.strand (leaves : LeavesBehind kind number first before) {handle : Handle}
    (holds : Holds kind before (some handle) after) :
    LeavesBehind kind (number + 1) first after := by
  rcases leaves with ⟨left, card, opened, kept⟩
  rcases holds with ⟨unused, rfl⟩
  have isNew : handle ∉ left := by
    intro member
    rw [(opened handle member).2] at unused
    cases unused
  refine ⟨insert handle left, ?_, ?_, ?_⟩
  · rw [Finset.card_insert_of_notMem isNew, card]
  · intro other member
    rcases Finset.mem_insert.mp member with rfl | older
    · exact ⟨(kept other isNew).symm.trans unused, Function.update_self _ _ _⟩
    · have different : other ≠ handle := fun same => isNew (same ▸ older)
      exact ⟨(opened other older).1,
        (Function.update_of_ne different _ _).trans (opened other older).2⟩
  · intro other outside
    rw [Finset.mem_insert, not_or] at outside
    exact (Function.update_of_ne outside.1 _ _).trans (kept other outside.2)

end LeavesBehind

/-! ## One call -/

section Calls

variable {Kind Inner Call Answer : Type}

/-- How a call ends for the handles, from any of them on: `loses` and `overruns`
are what the program without handles says of it. -/
inductive StepExit (body : Tracked Kind (Answer × Inner)) (kind : Kind) (loses overruns : Prop)
    (result : Answer × Inner) : Prop
  | keeps (notLost : ¬ loses) (inside : ¬ overruns) (keeps : Keeps body result)
  | strands (lost : loses) (inside : ¬ overruns) (strands : Strands body result kind)
  | faults (overruns : overruns) (faults : ∀ before, Faults before body .outOfBounds)

theorem StepExit.congr {body : Tracked Kind (Answer × Inner)} {kind : Kind}
    {loses overruns otherLoses otherOverruns : Prop} {result : Answer × Inner}
    (exit : StepExit body kind loses overruns result) (sameLoses : otherLoses ↔ loses)
    (sameOverruns : otherOverruns ↔ overruns) :
    StepExit body kind otherLoses otherOverruns result := by
  rw [propext sameLoses, propext sameOverruns]
  exact exit

/-! ## Runs -/

variable (body : Inner → Call → Tracked Kind (Answer × Inner))

/-- The next answer, and where it leads; behind a fault there is nothing. -/
def handleStep (state : Except Fault (HandleTable Kind × Inner)) (call : Call) :
    Except Fault Answer × Except Fault (HandleTable Kind × Inner) :=
  match state.bind fun reached => (body reached.2 call).run reached.1 with
  | .error fault => (.error fault, .error fault)
  | .ok ((answer, inner), table) => (.ok answer, .ok (table, inner))

/-- The program with its handles. -/
def handleSystem (table : HandleTable Kind) (inner : Inner) :
    Machine (Except Fault (HandleTable Kind × Inner)) Call (Except Fault Answer) where
  start := .ok (table, inner)
  step := handleStep body

/-- A run that has gone through: state and answers are those of the program
without handles, and the handles behind lost calls are all that stays. -/
structure GoesThrough (plain : Machine Inner Call Answer) (table : HandleTable Kind) (kind : Kind)
    (loses : Inner → Call → Bool) (overruns : Inner → Call → Prop) (calls : List Call) : Prop where
  inside : ∀ event ∈ plain.log calls, ¬ overruns event.before event.input
  reached : ∃ left, (handleSystem body table plain.start).run calls = .ok (left, plain.run calls) ∧
    LeavesBehind kind ((plain.log calls).countP fun event => loses event.before event.input)
      table.live left.live
  answers : ((handleSystem body table plain.start).log calls).map Machine.Event.output =
    (plain.log calls).map fun event => .ok event.output

variable {body} {plain : Machine Inner Call Answer} {table : HandleTable Kind} {kind : Kind}
variable {loses : Inner → Call → Bool} {overruns : Inner → Call → Prop}

/-- One more call after a run that has gone through. -/
theorem GoesThrough.snoc {calls : List Call}
    (through : GoesThrough body plain table kind loses overruns calls) {call : Call}
    (exit : StepExit (body (plain.run calls) call) kind (loses (plain.run calls) call = true)
      (overruns (plain.run calls) call) (plain.step (plain.run calls) call)) :
    GoesThrough body plain table kind loses overruns (calls ++ [call]) ∨
      ((handleSystem body table plain.start).run (calls ++ [call]) = .error .outOfBounds ∧
        overruns (plain.run calls) call) := by
  rcases through.reached with ⟨left, reached, behind⟩
  have step : (handleSystem body table plain.start).step
      ((handleSystem body table plain.start).run calls) call =
        handleStep body (.ok (left, plain.run calls)) call := by
    rw [reached]
    rfl
  have goesOn : ∀ after, ¬ overruns (plain.run calls) call →
      (body (plain.run calls) call).run left = .ok (plain.step (plain.run calls) call, after) →
      LeavesBehind kind ((plain.log (calls ++ [call])).countP fun event =>
        loses event.before event.input) table.live after.live →
      GoesThrough body plain table kind loses overruns (calls ++ [call]) := by
    intro after isInside ran stays
    have step : (handleSystem body table plain.start).step
        ((handleSystem body table plain.start).run calls) call =
          (.ok (plain.answer (plain.run calls) call), .ok (after, plain.next (plain.run calls) call)) := by
      rw [step]
      simp only [handleStep, Except.bind, ran]
      rfl
    refine ⟨?_, ⟨after, ?_, stays⟩, ?_⟩
    · intro event member
      rw [plain.log_snoc] at member
      rcases List.mem_append.mp member with older | newest
      · exact through.inside event older
      · rw [List.mem_singleton.mp newest]
        exact isInside
    · rw [Machine.run_snoc, plain.run_snoc]
      exact congrArg Prod.snd step
    · rw [Machine.log_snoc, plain.log_snoc, List.map_append, List.map_append, through.answers]
      exact congrArg (_ ++ [·]) (congrArg Prod.fst step)
  have count : (plain.log (calls ++ [call])).countP (fun event => loses event.before event.input) =
      ((plain.log calls).countP fun event => loses event.before event.input) +
        if loses (plain.run calls) call then 1 else 0 := by
    rw [plain.log_snoc, List.countP_append, List.countP_singleton]
    rfl
  rw [count] at goesOn
  cases exit with
  | keeps notLost isInside keeps =>
      rcases keeps left.live left rfl with ⟨_, after, ran, rfl, same⟩
      apply Or.inl
      apply goesOn after isInside ran
      rw [if_neg notLost, same]
      exact behind
  | strands lost isInside strands =>
      rcases strands left.live left rfl with ⟨_, after, ran, rfl, handle, holds⟩
      apply Or.inl
      apply goesOn after isInside ran
      rw [if_pos lost]
      exact behind.strand holds
  | faults leaves faults =>
      refine Or.inr ⟨?_, leaves⟩
      rw [Machine.run_snoc]
      change ((handleSystem body table plain.start).step _ _).2 = _
      rw [step]
      simp only [handleStep, Except.bind, faults left.live left rfl]

variable (plain) (table)

/-- Every run goes through, or has left its bounds in one of its calls. -/
theorem goesThrough_or_outOfBounds
    (exits : ∀ state call, StepExit (body state call) kind (loses state call = true)
      (overruns state call) (plain.step state call)) (calls : List Call) :
    GoesThrough body plain table kind loses overruns calls ∨
      ((handleSystem body table plain.start).run calls = .error .outOfBounds ∧
        ∃ event ∈ plain.log calls, overruns event.before event.input) := by
  induction calls using List.reverseRecOn with
  | nil =>
      refine Or.inl ⟨fun _ impossible => absurd impossible List.not_mem_nil, ⟨table, rfl, ?_⟩, rfl⟩
      exact .refl kind table.live
  | append_singleton calls call ih =>
      rcases ih with through | ⟨fault, event, member, leaves⟩
      · rcases through.snoc (exits _ call) with further | ⟨fault, leaves⟩
        · exact Or.inl further
        · refine Or.inr ⟨fault, plain.event (plain.run calls) call, ?_, leaves⟩
          rw [plain.log_snoc]
          exact List.mem_append_right _ (List.mem_singleton_self _)
      · refine Or.inr ⟨?_, event, ?_, leaves⟩
        · rw [Machine.run_snoc, fault]
          rfl
        · rw [plain.log_snoc]
          exact List.mem_append_left _ member

end Calls

end Library
end TrustChain

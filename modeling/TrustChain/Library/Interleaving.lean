import Mathlib.Logic.Function.Basic
import TrustChain.Library.Machine

namespace TrustChain
namespace Library

universe u v w

/-!
# Conversations side by side

A machine that emits an event now and then may carry on any number of
conversations at once.  If each of its steps advances the one conversation that
the event belongs to by a step of this conversation's own protocol, and leaves
the others where they are, then the events of each conversation, taken out of
any run, are a path of its protocol, however the conversations are interleaved.

Some of the events may be calls of a second machine.  If each of them is a step
of that machine, then the calls, in the order of their events, are one run of it.
-/

/-- From one stage of a protocol to another past these events. -/
inductive Path {Stage Event : Type*} (Proceeds : Stage → Event → Stage → Prop) (first : Stage) :
    List Event → Stage → Prop
  | start : Path Proceeds first [] first
  | snoc {events : List Event} {event : Event} {middle last : Stage}
      (path : Path Proceeds first events middle) (proceeds : Proceeds middle event last) :
      Path Proceeds first (events ++ [event]) last

/-- What there was before an event, and what came after it. -/
theorem Path.exists_step {Stage Event : Type*} {Proceeds : Stage → Event → Stage → Prop}
    {first last : Stage} {events : List Event} (path : Path Proceeds first events last)
    {event : Event} (member : event ∈ events) :
    ∃ before after middle next, events = before ++ event :: after ∧
      Path Proceeds first before middle ∧ Proceeds middle event next ∧
      Path Proceeds next after last := by
  induction path with
  | start => cases member
  | snoc path proceeds ih =>
      rename_i events newest middle last
      rcases List.mem_append.mp member with older | isNewest
      · rcases ih older with ⟨before, after, there, next, rfl, reaches, step, leads⟩
        exact ⟨before, after ++ [newest], there, next, by simp, reaches, step, .snoc leads proceeds⟩
      · cases List.mem_singleton.mp isNewest
        exact ⟨events, [], middle, last, rfl, path, proceeds, .start⟩

/-- If events of a kind lead over a line that is never crossed back, there is at
most one of them, and none on this side of the line. -/
theorem Path.at_most_once {Stage Event : Type*} {Proceeds : Stage → Event → Stage → Prop}
    {first last : Stage} {events : List Event} (path : Path Proceeds first events last)
    (kind : Event → Bool) (Past : Stage → Prop)
    (crosses : ∀ before event after, Proceeds before event after → kind event = true →
      ¬ Past before ∧ Past after)
    (stays : ∀ before event after, Proceeds before event after → Past before → Past after) :
    (events.filter kind).length ≤ 1 ∧ (¬ Past last → events.filter kind = []) := by
  induction path with
  | start => exact ⟨Nat.zero_le 1, fun _ => rfl⟩
  | snoc path proceeds ih =>
      rename_i events event middle last
      rw [List.filter_append]
      cases isKind : kind event with
      | true =>
          rcases crosses _ _ _ proceeds isKind with ⟨notYet, past⟩
          rw [ih.2 notYet, List.filter_cons_of_pos isKind, List.filter_nil]
          exact ⟨Nat.le_refl 1, fun notPast => absurd past notPast⟩
      | false =>
          rw [List.filter_cons_of_neg (by simp [isKind]), List.filter_nil, List.append_nil]
          exact ⟨ih.1, fun notPast => ih.2 fun past => notPast (stays _ _ _ proceeds past)⟩

namespace Machine

variable {State : Type u} {Input : Type v} {Emitted : Type w}
variable (machine : Machine State Input (Option Emitted))

/-- The events of a run that are not silent, in order. -/
def emitted (inputs : List Input) : List Emitted :=
  (machine.log inputs).filterMap Event.output

@[simp] theorem emitted_nil : machine.emitted [] = [] := rfl

theorem emitted_snoc_none {inputs : List Input} {input : Input}
    (silent : machine.answer (machine.run inputs) input = none) :
    machine.emitted (inputs ++ [input]) = machine.emitted inputs := by
  have none : Event.output (machine.event (machine.run inputs) input) = none := silent
  rw [emitted, machine.log_snoc, List.filterMap_append, List.filterMap_cons_none none,
    List.filterMap_nil, List.append_nil]
  rfl

theorem emitted_snoc_some {inputs : List Input} {input : Input} {event : Emitted}
    (emits : machine.answer (machine.run inputs) input = some event) :
    machine.emitted (inputs ++ [input]) = machine.emitted inputs ++ [event] := by
  have some : Event.output (machine.event (machine.run inputs) input) = some event := emits
  rw [emitted, machine.log_snoc, List.filterMap_append, List.filterMap_cons_some some,
    List.filterMap_nil]
  rfl

/-! ## Conversations -/

section Conversations

variable {Part Stage : Type*} [DecidableEq Part]

/-- The machine carries on one conversation for each part; `Tracks` says at which
stage each of them is. -/
structure Interleaves (partOf : Emitted → Part) (first : Stage)
    (Proceeds : Part → Stage → Emitted → Stage → Prop)
    (Tracks : State → (Part → Stage) → Prop) : Prop where
  atStart : Tracks machine.start fun _ => first
  silent : ∀ state stages input, Tracks state stages → machine.answer state input = none →
    Tracks (machine.next state input) stages
  emits : ∀ state stages input event, Tracks state stages →
    machine.answer state input = some event →
    ∃ stage, Proceeds (partOf event) (stages (partOf event)) event stage ∧
      Tracks (machine.next state input) (Function.update stages (partOf event) stage)

/-- The events of one conversation. -/
def conversation (partOf : Emitted → Part) (inputs : List Input) (part : Part) : List Emitted :=
  (machine.emitted inputs).filter fun event => partOf event = part

variable {machine} {partOf : Emitted → Part} {first : Stage}
variable {Proceeds : Part → Stage → Emitted → Stage → Prop}
variable {Tracks : State → (Part → Stage) → Prop}

/-- Each conversation of a run follows its own protocol. -/
theorem Interleaves.run (interleaves : machine.Interleaves partOf first Proceeds Tracks)
    (inputs : List Input) :
    ∃ stages, Tracks (machine.run inputs) stages ∧ ∀ part,
      Path (Proceeds part) first (machine.conversation partOf inputs part) (stages part) := by
  induction inputs using List.reverseRecOn with
  | nil => exact ⟨fun _ => first, interleaves.atStart, fun part => .start⟩
  | append_singleton inputs input ih =>
      rcases ih with ⟨stages, tracks, paths⟩
      rw [machine.run_snoc]
      cases answered : machine.answer (machine.run inputs) input with
      | none =>
          refine ⟨stages, interleaves.silent _ _ input tracks answered, ?_⟩
          intro part
          rw [conversation, machine.emitted_snoc_none answered]
          exact paths part
      | some event =>
          rcases interleaves.emits _ _ input event tracks answered with ⟨stage, proceeds, again⟩
          refine ⟨Function.update stages (partOf event) stage, again, ?_⟩
          intro part
          rw [conversation, machine.emitted_snoc_some answered, List.filter_append]
          by_cases same : partOf event = part
          · subst same
            rw [Function.update_self, List.filter_cons_of_pos (by simp), List.filter_nil]
            exact .snoc (paths _) proceeds
          · rw [Function.update_of_ne (Ne.symm same), List.filter_cons_of_neg (by simp [same]),
              List.filter_nil, List.append_nil]
            exact paths part

end Conversations

/-! ## Calls of a second machine -/

section Calls

variable {Called Argument Result : Type*}

/-- The machine has a second one inside, and the events that are calls of it are
its steps. -/
structure Drives (inner : Machine Called Argument Result)
    (callOf : Emitted → Option (Argument × Result)) (state : State → Called) : Prop where
  atStart : state machine.start = inner.start
  silent : ∀ outer input, machine.answer outer input = none →
    state (machine.next outer input) = state outer
  passes : ∀ outer input event, machine.answer outer input = some event → callOf event = none →
    state (machine.next outer input) = state outer
  call : ∀ outer input event argument result, machine.answer outer input = some event →
    callOf event = some (argument, result) →
    inner.step (state outer) argument = (result, state (machine.next outer input))

/-- The calls of a run with their results, in order. -/
def calls (callOf : Emitted → Option (Argument × Result)) (inputs : List Input) :
    List (Argument × Result) :=
  (machine.emitted inputs).filterMap callOf

variable {machine} {inner : Machine Called Argument Result}
variable {callOf : Emitted → Option (Argument × Result)} {state : State → Called}

/-- All calls of a run, by whomever they are made, are one run of the second
machine, which gives the results that the callers have got. -/
theorem Drives.run (drives : machine.Drives inner callOf state) (inputs : List Input) :
    inner.run ((machine.calls callOf inputs).map Prod.fst) = state (machine.run inputs) ∧
      (inner.log ((machine.calls callOf inputs).map Prod.fst)).map Event.output =
        (machine.calls callOf inputs).map Prod.snd := by
  induction inputs using List.reverseRecOn with
  | nil => exact ⟨drives.atStart.symm, rfl⟩
  | append_singleton inputs input ih =>
      rcases ih with ⟨reached, results⟩
      rw [machine.run_snoc]
      cases answered : machine.answer (machine.run inputs) input with
      | none =>
          rw [calls, machine.emitted_snoc_none answered, drives.silent _ input answered]
          exact ⟨reached, results⟩
      | some event =>
          rw [calls, machine.emitted_snoc_some answered, List.filterMap_append]
          cases called : callOf event with
          | none =>
              rw [List.filterMap_cons_none called, List.filterMap_nil, List.append_nil,
                drives.passes _ input event answered called]
              exact ⟨reached, results⟩
          | some call =>
              rcases call with ⟨argument, result⟩
              have step := drives.call _ input event argument result answered called
              rw [List.filterMap_cons_some called, List.filterMap_nil, List.map_append,
                List.map_append, List.map_singleton, List.map_singleton, inner.run_snoc,
                inner.log_snoc, List.map_append, List.map_singleton]
              have before : inner.run (((machine.emitted inputs).filterMap callOf).map Prod.fst) =
                  state (machine.run inputs) := reached
              rw [before]
              constructor
              · exact congrArg Prod.snd step
              · have last : (inner.event (state (machine.run inputs)) argument).output = result :=
                  congrArg Prod.fst step
                rw [last]
                exact congrArg (· ++ [result]) results

/-- A call of a run is given its result after the calls in front of it. -/
theorem Drives.mem_calls (drives : machine.Drives inner callOf state) {inputs : List Input}
    {argument : Argument} {result : Result}
    (member : (argument, result) ∈ machine.calls callOf inputs) :
    ∃ earlier later, (machine.calls callOf inputs).map Prod.fst = earlier ++ argument :: later ∧
      inner.answer (inner.run earlier) argument = result := by
  induction inputs using List.reverseRecOn with
  | nil => cases member
  | append_singleton inputs input ih =>
      rw [calls] at member ⊢
      cases answered : machine.answer (machine.run inputs) input with
      | none =>
          rw [machine.emitted_snoc_none answered] at member ⊢
          exact ih member
      | some event =>
          rw [machine.emitted_snoc_some answered, List.filterMap_append] at member ⊢
          rw [List.map_append]
          rcases List.mem_append.mp member with older | newest
          · rcases ih older with ⟨earlier, later, split, given⟩
            have split : ((machine.emitted inputs).filterMap callOf).map Prod.fst =
              earlier ++ argument :: later := split
            rw [split]
            exact ⟨earlier, _, List.append_assoc _ _ _, given⟩
          · rcases List.mem_filterMap.mp newest with ⟨_, isEvent, called⟩
            cases List.mem_singleton.mp isEvent
            rw [List.filterMap_cons_some called, List.filterMap_nil]
            refine ⟨_, [], rfl, ?_⟩
            rw [show inner.run (((machine.emitted inputs).filterMap callOf).map Prod.fst) =
              state (machine.run inputs) from (drives.run inputs).1]
            exact congrArg Prod.fst (drives.call _ input event argument result answered called)

end Calls

end Machine
end Library
end TrustChain

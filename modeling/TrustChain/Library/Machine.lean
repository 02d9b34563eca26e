import Mathlib.Data.List.Infix
import Mathlib.Data.List.Forall2
import Mathlib.Data.List.Induction

namespace TrustChain
namespace Library

universe u v w

/-!
# Deterministic machines and their runs

A machine reads one input at a time, answers it and moves to its next state.
Whatever the environment decides is part of the input, so a run is determined
by its list of inputs, in the order in which they arrive.

The inductions over a run that several results need are made here, once.  An
invariant holds in each reached state; a property holds throughout a run exactly
when each step of the run allows it; a property that holds at the end, but not
at the start, was brought about by a step; a run of another machine on some of
the inputs shows the same as the whole run, if each step does; and two runs stay
alike if each step keeps them so.
-/

structure Machine (State : Type u) (Input : Type v) (Output : Type w) where
  start : State
  step : State → Input → Output × State

namespace Machine

variable {State : Type u} {Input : Type v} {Output : Type w}
variable (machine : Machine State Input Output)

/-- The state after one more input. -/
def next (state : State) (input : Input) : State :=
  (machine.step state input).2

/-- The answer to one more input. -/
def answer (state : State) (input : Input) : Output :=
  (machine.step state input).1

def runFrom (state : State) : List Input → State
  | [] => state
  | input :: rest => runFrom (machine.next state input) rest

def run (inputs : List Input) : State :=
  machine.runFrom machine.start inputs

theorem runFrom_append (state : State) (earlier later : List Input) :
    machine.runFrom state (earlier ++ later) =
      machine.runFrom (machine.runFrom state earlier) later := by
  induction earlier generalizing state with
  | nil => rfl
  | cons input rest ih => exact ih (machine.next state input)

@[simp] theorem run_nil : machine.run [] = machine.start := rfl

@[simp] theorem run_snoc (inputs : List Input) (input : Input) :
    machine.run (inputs ++ [input]) = machine.next (machine.run inputs) input :=
  machine.runFrom_append machine.start inputs [input]

/-! ## The log of a run -/

/-- One step as an observer of the whole run sees it. -/
structure Event (State : Type u) (Input : Type v) (Output : Type w) where
  before : State
  input : Input
  output : Output
  after : State

def event (state : State) (input : Input) : Event State Input Output :=
  ⟨state, input, machine.answer state input, machine.next state input⟩

def logFrom (state : State) : List Input → List (Event State Input Output)
  | [] => []
  | input :: rest => machine.event state input :: logFrom (machine.next state input) rest

/-- The events of a run, in order. -/
def log (inputs : List Input) : List (Event State Input Output) :=
  machine.logFrom machine.start inputs

theorem logFrom_append (state : State) (earlier later : List Input) :
    machine.logFrom state (earlier ++ later) =
      machine.logFrom state earlier ++ machine.logFrom (machine.runFrom state earlier) later := by
  induction earlier generalizing state with
  | nil => rfl
  | cons input rest ih =>
      exact congrArg (machine.event state input :: ·) (ih (machine.next state input))

@[simp] theorem log_nil : machine.log [] = [] := rfl

@[simp] theorem log_snoc (inputs : List Input) (input : Input) :
    machine.log (inputs ++ [input]) =
      machine.log inputs ++ [machine.event (machine.run inputs) input] :=
  machine.logFrom_append machine.start inputs [input]

/-- The steps of a run are its events, each at the state its own past leads to. -/
theorem mem_log {inputs : List Input} {event : Event State Input Output}
    (member : event ∈ machine.log inputs) :
    ∃ earlier input, earlier ++ [input] <+: inputs ∧
      event = machine.event (machine.run earlier) input := by
  induction inputs using List.reverseRecOn with
  | nil => cases member
  | append_singleton inputs input ih =>
      rw [machine.log_snoc, List.mem_append, List.mem_singleton] at member
      rcases member with older | newest
      · rcases ih older with ⟨earlier, found, inside, same⟩
        exact ⟨earlier, found, inside.trans (List.prefix_append inputs [input]), same⟩
      · exact ⟨inputs, input, List.prefix_rfl, newest⟩

/-- Each step of a run is an event of its log. -/
theorem event_mem_log (earlier : List Input) (input : Input) (later : List Input) :
    machine.event (machine.run earlier) input ∈ machine.log (earlier ++ input :: later) := by
  unfold log
  rw [machine.logFrom_append]
  exact List.mem_append_right _ List.mem_cons_self

/-- A step that does what no step of `before` has done comes after `before`. -/
theorem prefix_of_new_event {before earlier inputs : List Input} {input : Input}
    (beforeInside : before <+: inputs) (inside : earlier ++ [input] <+: inputs)
    {Happens : Event State Input Output → Prop}
    (unseen : ∀ event ∈ machine.log before, ¬ Happens event)
    (seen : Happens (machine.event (machine.run earlier) input)) : before <+: earlier := by
  have notBefore : ¬ earlier ++ [input] <+: before := by
    rintro ⟨later, rfl⟩
    rw [List.append_assoc, List.singleton_append] at unseen
    exact unseen _ (machine.event_mem_log earlier input later) seen
  rcases List.prefix_or_prefix_of_prefix beforeInside inside with shorter | longer
  · rcases List.prefix_concat_iff.mp shorter with whole | inner
    · exact absurd (whole ▸ List.prefix_rfl) notBefore
    · exact inner
  · exact absurd longer notBefore

/-! ## Invariants -/

/-- What holds at the start and survives each step holds in each reached state. -/
theorem run_invariant {Good : State → Prop} (atStart : Good machine.start)
    (kept : ∀ state input, Good state → Good (machine.next state input))
    (inputs : List Input) : Good (machine.run inputs) := by
  induction inputs using List.reverseRecOn with
  | nil => exact atStart
  | append_singleton inputs input ih =>
      rw [machine.run_snoc]
      exact kept _ input ih

/-- The same from some point of a run on. -/
theorem run_invariant_after (Good : State → Prop) (before : List Input)
    (holds : Good (machine.run before))
    (kept : ∀ inputs input, Good (machine.run inputs) →
      Good (machine.next (machine.run inputs) input))
    (inputs : List Input) : Good (machine.run (before ++ inputs)) := by
  induction inputs using List.reverseRecOn with
  | nil =>
      rw [List.append_nil]
      exact holds
  | append_singleton inputs input ih =>
      rw [← List.append_assoc, machine.run_snoc]
      exact kept _ input ih

/-- The same for the log and the state together, when the run is made of
allowed inputs. -/
theorem log_invariant (Good : List (Event State Input Output) → State → Prop)
    (Allowed : Input → Prop) (atStart : Good [] machine.start)
    (kept : ∀ inputs input, Allowed input → Good (machine.log inputs) (machine.run inputs) →
      Good (machine.log inputs ++ [machine.event (machine.run inputs) input])
        (machine.next (machine.run inputs) input))
    {inputs : List Input} (allowed : ∀ input ∈ inputs, Allowed input) :
    Good (machine.log inputs) (machine.run inputs) := by
  induction inputs using List.reverseRecOn with
  | nil => exact atStart
  | append_singleton inputs input ih =>
      rw [machine.log_snoc, machine.run_snoc]
      have older := ih fun earlier member => allowed earlier (List.mem_append_left _ member)
      exact kept inputs input (allowed input (by simp)) older

/-- Each state reached on the way, the first and the last included. -/
def Throughout (Good : State → Prop) (inputs : List Input) : Prop :=
  ∀ earlier, earlier <+: inputs → Good (machine.run earlier)

/-- Each step made on the way, with the state it is made in. -/
def EveryStep (Allowed : State → Input → Prop) (inputs : List Input) : Prop :=
  ∀ earlier input, earlier ++ [input] <+: inputs → Allowed (machine.run earlier) input

theorem EveryStep.of_prefix {Allowed : State → Input → Prop} {earlier inputs : List Input}
    (every : machine.EveryStep Allowed inputs) (inside : earlier <+: inputs) :
    machine.EveryStep Allowed earlier :=
  fun first input before => every first input (before.trans inside)

/-- What each event of the log allows holds of every step. -/
theorem everyStep_of_log {Allowed : State → Input → Prop} {inputs : List Input}
    (allowed : ∀ event ∈ machine.log inputs, Allowed event.before event.input) :
    machine.EveryStep Allowed inputs := by
  rintro earlier input ⟨later, rfl⟩
  rw [List.append_assoc, List.singleton_append] at allowed
  exact allowed _ (machine.event_mem_log earlier input later)

theorem everyStep_nil {Allowed : State → Input → Prop} : machine.EveryStep Allowed [] := by
  intro earlier input inside
  exact absurd (List.prefix_nil.mp inside) (by simp)

theorem everyStep_snoc {Allowed : State → Input → Prop} {inputs : List Input} {input : Input} :
    machine.EveryStep Allowed (inputs ++ [input]) ↔
      machine.EveryStep Allowed inputs ∧ Allowed (machine.run inputs) input := by
  constructor
  · intro every
    exact ⟨every.of_prefix machine (List.prefix_append inputs [input]),
      every inputs input List.prefix_rfl⟩
  · rintro ⟨older, newest⟩ earlier next inside
    rcases List.prefix_concat_iff.mp inside with whole | inner
    · rcases List.append_inj' whole rfl with ⟨rfl, same⟩
      cases same
      exact newest
    · exact older earlier next inner

/-- Conditions that agree on the steps of a run can stand for each other. -/
theorem everyStep_congr {Given First Second : State → Input → Prop} {inputs : List Input}
    (given : machine.EveryStep Given inputs)
    (same : ∀ state input, Given state input → (First state input ↔ Second state input)) :
    machine.EveryStep First inputs ↔ machine.EveryStep Second inputs := by
  constructor
  · intro every earlier input inside
    exact (same _ input (given earlier input inside)).mp (every earlier input inside)
  · intro every earlier input inside
    exact (same _ input (given earlier input inside)).mpr (every earlier input inside)

/-- When the steps that keep a good state good are exactly the allowed ones,
a run is good throughout exactly when all its steps are allowed. -/
theorem throughout_iff_everyStep {Reached Good : State → Prop} {Allowed : State → Input → Prop}
    (reached : ∀ inputs, Reached (machine.run inputs)) (atStart : Good machine.start)
    (exact : ∀ state input, Reached state → Good state →
      (Good (machine.next state input) ↔ Allowed state input))
    (inputs : List Input) :
    machine.Throughout Good inputs ↔ machine.EveryStep Allowed inputs := by
  constructor
  · intro throughout earlier input inside
    have before := throughout earlier ((List.prefix_append earlier [input]).trans inside)
    have after := throughout (earlier ++ [input]) inside
    rw [machine.run_snoc] at after
    exact (exact _ input (reached earlier) before).mp after
  · intro every earlier inside
    have within := every.of_prefix machine inside
    clear inside
    induction earlier using List.reverseRecOn with
    | nil => exact atStart
    | append_singleton earlier input ih =>
        rw [machine.run_snoc]
        have before := ih (within.of_prefix machine (List.prefix_append earlier [input]))
        exact (exact _ input (reached earlier) before).mpr
          (within earlier input List.prefix_rfl)

/-! ## What lasts, and where it came from -/

/-- Two states of one run, the second not before the first. -/
def Lasts (Kept : State → State → Prop) (inputs : List Input) : Prop :=
  ∀ earlier later, earlier <+: later → later <+: inputs →
    Kept (machine.run earlier) (machine.run later)

/-- A preorder between states holds across a whole run exactly when each step
of the run respects it. -/
theorem lasts_iff_everyStep {Kept : State → State → Prop} (refl : ∀ state, Kept state state)
    (trans : ∀ first second third, Kept first second → Kept second third → Kept first third)
    (inputs : List Input) :
    machine.Lasts Kept inputs ↔
      machine.EveryStep (fun state input => Kept state (machine.next state input)) inputs := by
  constructor
  · intro lasts earlier input inside
    have kept := lasts earlier (earlier ++ [input]) (List.prefix_append earlier [input]) inside
    rwa [machine.run_snoc] at kept
  · intro every earlier later before inside
    rcases before with ⟨rest, rfl⟩
    have within := every.of_prefix machine inside
    clear inside
    induction rest using List.reverseRecOn with
    | nil => rw [List.append_nil]; exact refl _
    | append_singleton rest input ih =>
        rw [← List.append_assoc] at within ⊢
        rw [machine.run_snoc]
        have before := ih (within.of_prefix machine (List.prefix_append _ [input]))
        exact trans _ _ _ before (within (earlier ++ rest) input List.prefix_rfl)

/-- A property that holds at the end of a run, but not at some point before, was
brought about by some step after it, and has held ever since the last such step. -/
theorem exists_entering_step_after (Good : State → Prop) (before : List Input)
    (outside : ¬ Good (machine.run before)) {inputs : List Input}
    (atEnd : Good (machine.run (before ++ inputs))) :
    ∃ earlier input later, inputs = earlier ++ input :: later ∧
      ¬ Good (machine.run (before ++ earlier)) ∧
      ∀ since, since <+: later → Good (machine.run (before ++ earlier ++ input :: since)) := by
  induction inputs using List.reverseRecOn with
  | nil =>
      rw [List.append_nil] at atEnd
      exact absurd atEnd outside
  | append_singleton inputs input ih =>
      by_cases already : Good (machine.run (before ++ inputs))
      · rcases ih already with ⟨earlier, entering, later, rfl, without, since⟩
        refine ⟨earlier, entering, later ++ [input], by simp, without, ?_⟩
        intro reached inside
        rcases List.prefix_concat_iff.mp inside with whole | inner
        · rw [whole, ← List.cons_append, List.append_assoc, ← List.append_assoc earlier]
          exact atEnd
        · exact since reached inner
      · refine ⟨inputs, input, [], rfl, already, ?_⟩
        intro reached inside
        rw [List.prefix_nil.mp inside, List.append_assoc]
        exact atEnd

/-- The same from the start of the run on. -/
theorem exists_entering_step {Good : State → Prop} (notAtStart : ¬ Good machine.start)
    {inputs : List Input} (atEnd : Good (machine.run inputs)) :
    ∃ earlier input later, inputs = earlier ++ input :: later ∧
      ¬ Good (machine.run earlier) ∧
      ∀ since, since <+: later → Good (machine.run (earlier ++ input :: since)) :=
  machine.exists_entering_step_after Good [] notAtStart atEnd

/-! ## Runs on some of the inputs -/

/-- The events of a run that are kept, in order. -/
def keptEvents (keeps : Event State Input Output → Bool) (inputs : List Input) :
    List (Event State Input Output) :=
  (machine.log inputs).filter keeps

theorem keptEvents_snoc (keeps : Event State Input Output → Bool) (inputs : List Input)
    (input : Input) :
    machine.keptEvents keeps (inputs ++ [input]) = machine.keptEvents keeps inputs ++
      if keeps (machine.event (machine.run inputs) input) then
        [machine.event (machine.run inputs) input] else [] := by
  unfold keptEvents
  rw [machine.log_snoc, List.filter_append]
  congr 1
  cases kept : keeps (machine.event (machine.run inputs) input) with
  | true => rw [List.filter_cons_of_pos kept, if_pos rfl]; rfl
  | false => exact List.filter_cons_of_neg (Bool.eq_false_iff.mp kept)

/-- A second machine that cannot tell kept inputs from the whole run: both give
the same answer to a kept input in states that look alike, and they look alike
again afterwards; an input that is dropped cannot be seen at all. -/
structure Projects {Reduced : Type w} (reduced : Machine Reduced Input Output)
    (keeps : Event State Input Output → Bool) (Reached : State → Prop)
    (Alike : State → Reduced → Prop) : Prop where
  atStart : Alike machine.start reduced.start
  kept : ∀ state other input, Reached state → Alike state other →
    keeps (machine.event state input) = true →
    reduced.answer other input = machine.answer state input ∧
      Alike (machine.next state input) (reduced.next other input)
  dropped : ∀ state other input, Reached state → Alike state other →
    keeps (machine.event state input) = false → Alike (machine.next state input) other

theorem Projects.run {Reduced : Type w} {reduced : Machine Reduced Input Output}
    {keeps : Event State Input Output → Bool} {Reached : State → Prop}
    {Alike : State → Reduced → Prop} (projects : machine.Projects reduced keeps Reached Alike)
    (reached : ∀ inputs, Reached (machine.run inputs)) (inputs : List Input) :
    Alike (machine.run inputs)
        (reduced.run ((machine.keptEvents keeps inputs).map Event.input)) ∧
      (reduced.log ((machine.keptEvents keeps inputs).map Event.input)).map Event.output =
        (machine.keptEvents keeps inputs).map Event.output := by
  induction inputs using List.reverseRecOn with
  | nil => exact ⟨projects.atStart, rfl⟩
  | append_singleton inputs input ih =>
      rw [machine.keptEvents_snoc, machine.run_snoc]
      cases kept : keeps (machine.event (machine.run inputs) input) with
      | true =>
          have step := projects.kept _ _ input (reached inputs) ih.1 kept
          rw [if_pos rfl, List.map_append, List.map_append, List.map_singleton, List.map_singleton,
            reduced.run_snoc, reduced.log_snoc, List.map_append, List.map_singleton, ih.2]
          exact ⟨step.2, congrArg (_ ++ [·]) step.1⟩
      | false =>
          rw [if_neg Bool.false_ne_true, List.append_nil]
          exact ⟨projects.dropped _ _ input (reached inputs) ih.1 kept, ih.2⟩

/-! ## Runs of a machine that implements another -/

/-- Each admitted input of the low machine stands for some input of the high one,
which takes states that are alike to states that are alike, with corresponding
answers. -/
structure Implements {LowState LowInput LowOutput : Type*}
    (low : Machine LowState LowInput LowOutput) (high : Machine State Input Output)
    (Admitted : LowInput → Prop) (Alike : LowState → State → Prop)
    (StandsFor : LowInput → Input → Prop) (Answers : LowOutput → Output → Prop) : Prop where
  atStart : Alike low.start high.start
  step : ∀ state other input, Admitted input → Alike state other →
    ∃ counterpart, StandsFor input counterpart ∧
      Answers (low.answer state input) (high.answer other counterpart) ∧
      Alike (low.next state input) (high.next other counterpart)

theorem Implements.run {LowState LowInput LowOutput : Type*}
    {low : Machine LowState LowInput LowOutput} {high : Machine State Input Output}
    {Admitted : LowInput → Prop} {Alike : LowState → State → Prop}
    {StandsFor : LowInput → Input → Prop} {Answers : LowOutput → Output → Prop}
    (implements : low.Implements high Admitted Alike StandsFor Answers) (inputs : List LowInput)
    (admitted : ∀ input ∈ inputs, Admitted input) :
    ∃ counterparts, List.Forall₂ StandsFor inputs counterparts ∧
      List.Forall₂ Answers ((low.log inputs).map Event.output)
        ((high.log counterparts).map Event.output) ∧
      Alike (low.run inputs) (high.run counterparts) := by
  induction inputs using List.reverseRecOn with
  | nil => exact ⟨[], .nil, .nil, implements.atStart⟩
  | append_singleton inputs input ih =>
      have earlier := fun previous member => admitted previous (List.mem_append_left _ member)
      have last := admitted input (List.mem_append_right _ (List.mem_singleton.mpr rfl))
      rcases ih earlier with ⟨counterparts, stand, answer, alike⟩
      rcases implements.step _ _ input last alike with ⟨counterpart, stands, answers, again⟩
      refine ⟨counterparts ++ [counterpart], ?_, ?_, ?_⟩
      · exact List.rel_append stand (.cons stands .nil)
      · rw [low.log_snoc, high.log_snoc, List.map_append, List.map_append]
        exact List.rel_append answer (.cons answers .nil)
      · rw [low.run_snoc, high.run_snoc]
        exact again

/-! ## Two runs side by side -/

/-- Inputs that are alike lead from states that are alike to states that are alike,
and are answered alike. -/
structure Respects (machine : Machine State Input Output) (StatesAlike : State → State → Prop)
    (InputsAlike : Input → Input → Prop) (OutputsAlike : Output → Output → Prop) : Prop where
  atStart : StatesAlike machine.start machine.start
  step : ∀ first second input other, StatesAlike first second → InputsAlike input other →
    OutputsAlike (machine.answer first input) (machine.answer second other) ∧
      StatesAlike (machine.next first input) (machine.next second other)

section Respects

variable {StatesAlike : State → State → Prop} {InputsAlike : Input → Input → Prop}
variable {OutputsAlike : Output → Output → Prop}

theorem Respects.runFrom (respects : machine.Respects StatesAlike InputsAlike OutputsAlike)
    {inputs others : List Input} (alike : List.Forall₂ InputsAlike inputs others) :
    ∀ {first second : State}, StatesAlike first second →
      List.Forall₂ OutputsAlike ((machine.logFrom first inputs).map Event.output)
          ((machine.logFrom second others).map Event.output) ∧
        StatesAlike (machine.runFrom first inputs) (machine.runFrom second others) := by
  induction alike with
  | nil =>
      intro first second states
      exact ⟨.nil, states⟩
  | cons input rest ih =>
      intro first second states
      rcases respects.step first second _ _ states input with ⟨answers, next⟩
      exact ⟨.cons answers (ih next).1, (ih next).2⟩

/-- Runs on inputs that are alike answer alike at each step, and end alike. -/
theorem Respects.run (respects : machine.Respects StatesAlike InputsAlike OutputsAlike)
    {inputs others : List Input} (alike : List.Forall₂ InputsAlike inputs others) :
    List.Forall₂ OutputsAlike ((machine.log inputs).map Event.output)
        ((machine.log others).map Event.output) ∧
      StatesAlike (machine.run inputs) (machine.run others) :=
  respects.runFrom machine alike respects.atStart

end Respects

end Machine
end Library
end TrustChain

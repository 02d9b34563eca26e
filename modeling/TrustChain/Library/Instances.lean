import TrustChain.Library.Machine
import Mathlib.Logic.Function.Basic

namespace TrustChain
namespace Library

universe u v w x y z

/-!
# Instances of a machine with a store in common

Every name has an instance of its own, which starts afresh whenever it is
opened.  One part of the state of a machine is a store that all instances have
in common: a step finds it as the last step of any instance has left it.  Where
neither the answers nor the rest of the state depend on this store, an instance
does what the machine does by itself with the inputs that the instance has been
given since it was opened.
-/

/-- A machine, the store inside its state, and who may open an instance. -/
structure Hosting (State : Type u) (Store : Type v) (Opening : Type w) (Refusal : Type x)
    (Input : Type y) (Output : Type z) where
  machine : Machine State Input Output
  store : State → Store
  withStore : Store → State → State
  opens : Opening → Except Refusal Unit
  withStore_withStore : ∀ first second state,
    withStore first (withStore second state) = withStore first state

inductive HostRequest (Name : Type u) (Opening : Type v) (Input : Type w)
  | opening (name : Name) (opening : Opening)
  | giving (name : Name) (input : Input)
  | closing (name : Name)

/-- Whose request it is. -/
def HostRequest.name {Name : Type u} {Opening : Type v} {Input : Type w} :
    HostRequest Name Opening Input → Name
  | opening name _ => name
  | giving name _ => name
  | closing name => name

/-- A name that is in use cannot be opened, and only one in use can be given an
input or closed; otherwise nothing is called. -/
inductive HostReply (Refusal : Type u) (Output : Type v)
  | opened (result : Except Refusal Unit)
  | answered (output : Output)
  | closed
  | notCalled

structure Hosted (Name : Type u) (State : Type v) (Store : Type w) where
  instances : Name → Option State
  store : Store

namespace Hosting

variable {State : Type u} {Store : Type v} {Opening : Type w} {Refusal : Type x}
  {Input : Type y} {Output : Type z}
variable (hosting : Hosting State Store Opening Refusal Input Output)
variable {Name : Type} [DecidableEq Name]

def step (host : Hosted Name State Store) :
    HostRequest Name Opening Input → HostReply Refusal Output × Hosted Name State Store
  | .opening name opening =>
      match host.instances name with
      | some _ => (.notCalled, host)
      | none =>
          match hosting.opens opening with
          | .error refusal => (.opened (.error refusal), host)
          | .ok () =>
              (.opened (.ok ()),
                { host with
                  instances := Function.update host.instances name
                    (some hosting.machine.start) })
  | .giving name input =>
      match host.instances name with
      | none => (.notCalled, host)
      | some state =>
          let state := hosting.withStore host.store state
          let after := hosting.machine.next state input
          (.answered (hosting.machine.answer state input),
            { instances := Function.update host.instances name (some after)
              store := hosting.store after })
  | .closing name =>
      match host.instances name with
      | none => (.notCalled, host)
      | some _ =>
          (.closed, { host with instances := Function.update host.instances name none })

/-- All instances together, with nothing opened yet. -/
def host (Name : Type) [DecidableEq Name] (store : Store) :
    Machine (Hosted Name State Store) (HostRequest Name Opening Input)
      (HostReply Refusal Output) where
  start := ⟨fun _ => none, store⟩
  step := hosting.step

/-! ## What an instance has been given -/

/-- The inputs of an instance that is open. -/
def givenAfter (name : Name) :
    Option (List Input) → HostRequest Name Opening Input → Option (List Input)
  | none, .opening other opening =>
      if other = name ∧ (hosting.opens opening).isOk = true then some [] else none
  | some inputs, .giving other input =>
      if other = name then some (inputs ++ [input]) else some inputs
  | some inputs, .closing other => if other = name then none else some inputs
  | before, _ => before

/-- The inputs given to this name since it was last opened, if it is open. -/
def given (name : Name) (requests : List (HostRequest Name Opening Input)) :
    Option (List Input) :=
  requests.foldl (hosting.givenAfter name) none

@[simp] theorem given_nil (name : Name) : hosting.given name [] = none := rfl

@[simp] theorem given_snoc (name : Name) (requests : List (HostRequest Name Opening Input))
    (request : HostRequest Name Opening Input) :
    hosting.given name (requests ++ [request]) =
      hosting.givenAfter name (hosting.given name requests) request :=
  List.foldl_append

/-! ## Requests of other names -/

theorem step_of_ne {name : Name} {request : HostRequest Name Opening Input}
    (different : request.name ≠ name) (hosted : Hosted Name State Store) :
    (hosting.step hosted request).2.instances name = hosted.instances name := by
  cases request with
  | opening other opening =>
      simp only [step]
      cases hosted.instances other with
      | some state => rfl
      | none =>
          cases hosting.opens opening with
          | error refusal => rfl
          | ok done => exact Function.update_of_ne different.symm _ _
  | giving other input =>
      simp only [step]
      cases hosted.instances other with
      | none => rfl
      | some state => exact Function.update_of_ne different.symm _ _
  | closing other =>
      simp only [step]
      cases hosted.instances other with
      | none => rfl
      | some state => exact Function.update_of_ne different.symm _ _

theorem givenAfter_of_ne {name : Name} {request : HostRequest Name Opening Input}
    (different : request.name ≠ name) (inputs : Option (List Input)) :
    hosting.givenAfter name inputs request = inputs := by
  cases request with
  | opening other opening =>
      cases inputs with
      | none => exact if_neg fun both => different both.1
      | some inputs => rfl
  | giving other input =>
      cases inputs with
      | none => rfl
      | some inputs => exact if_neg different
  | closing other =>
      cases inputs with
      | none => rfl
      | some inputs => exact if_neg different

/-! ## Instances that do not depend on the store -/

/-- The same state but for the store. -/
def Alike (state other : State) : Prop :=
  ∀ store, hosting.withStore store state = hosting.withStore store other

theorem alike_withStore (store : Store) (state : State) :
    hosting.Alike (hosting.withStore store state) state :=
  fun other => hosting.withStore_withStore other store state

variable {hosting}

theorem Alike.trans {first second third : State} (one : hosting.Alike first second)
    (two : hosting.Alike second third) : hosting.Alike first third :=
  fun store => (one store).trans (two store)

theorem Alike.symm {first second : State} (alike : hosting.Alike first second) :
    hosting.Alike second first :=
  fun store => (alike store).symm

variable (hosting)

/-- Neither an answer nor the rest of the state depends on the store. -/
structure Separate : Prop where
  answer : ∀ state store input, hosting.machine.answer (hosting.withStore store state) input =
    hosting.machine.answer state input
  next : ∀ state store input, hosting.Alike
    (hosting.machine.next (hosting.withStore store state) input) (hosting.machine.next state input)

variable {hosting} (separate : hosting.Separate)

include separate

theorem Separate.answer_congr {state other : State} (alike : hosting.Alike state other)
    (input : Input) :
    hosting.machine.answer state input = hosting.machine.answer other input := by
  have store := hosting.store state
  rw [← separate.answer state store, alike store, separate.answer]

theorem Separate.next_congr {state other : State} (alike : hosting.Alike state other)
    (input : Input) :
    hosting.Alike (hosting.machine.next state input) (hosting.machine.next other input) := by
  have store := hosting.store state
  have one := separate.next state store input
  rw [alike store] at one
  exact one.symm.trans (separate.next other store input)

omit separate

/-- An instance that is open is where the machine gets to by itself. -/
inductive Follows (hosting : Hosting State Store Opening Refusal Input Output) :
    Option State → Option (List Input) → Prop
  | unopened : Follows hosting none none
  | opened {state : State} {inputs : List Input}
      (alike : hosting.Alike state (hosting.machine.run inputs)) :
      Follows hosting (some state) (some inputs)

include separate

theorem Follows.step {hosted : Hosted Name State Store} {name : Name}
    {inputs : Option (List Input)} (follows : Follows hosting (hosted.instances name) inputs)
    (request : HostRequest Name Opening Input) :
    Follows hosting ((hosting.step hosted request).2.instances name)
      (hosting.givenAfter name inputs request) := by
  by_cases same : request.name = name
  · subst same
    cases request with
    | opening name opening =>
        simp only [HostRequest.name, Hosting.step] at follows ⊢
        cases found : hosted.instances name with
        | some state =>
            rw [found] at follows
            cases follows with
            | opened alike =>
                simp only [found, givenAfter]
                exact .opened alike
        | none =>
            rw [found] at follows
            cases follows
            simp only [givenAfter, true_and]
            cases hosting.opens opening with
            | error refusal =>
                simp only [found]
                exact .unopened
            | ok done =>
                simp only [Function.update_self]
                exact .opened fun _ => rfl
    | giving name input =>
        simp only [HostRequest.name, Hosting.step] at follows ⊢
        cases found : hosted.instances name with
        | none =>
            rw [found] at follows
            cases follows
            simp only [found, givenAfter]
            exact .unopened
        | some state =>
            rw [found] at follows
            cases follows with
            | opened alike =>
                simp only [givenAfter, if_true, Function.update_self]
                apply Follows.opened
                rw [Machine.run_snoc]
                apply separate.next_congr
                exact (hosting.alike_withStore hosted.store state).trans alike
    | closing name =>
        simp only [HostRequest.name, Hosting.step] at follows ⊢
        cases found : hosted.instances name with
        | none =>
            rw [found] at follows
            cases follows
            simp only [found, givenAfter]
            exact .unopened
        | some state =>
            rw [found] at follows
            cases follows with
            | opened alike =>
                simp only [givenAfter, if_true, Function.update_self]
                exact .unopened
  · rw [hosting.step_of_ne same, hosting.givenAfter_of_ne same]
    exact follows

/-- Whatever else is opened, given and closed, an instance follows the machine. -/
theorem follows_given (store : Store) (name : Name)
    (requests : List (HostRequest Name Opening Input)) :
    Follows hosting (((hosting.host Name store).run requests).instances name)
      (hosting.given name requests) := by
  induction requests using List.reverseRecOn with
  | nil => exact .unopened
  | append_singleton requests request ih =>
      rw [Machine.run_snoc, given_snoc]
      exact ih.step separate request

/-- An instance answers as the machine does after what it has been given. -/
theorem answer_given (store : Store) (name : Name) (input : Input)
    (requests : List (HostRequest Name Opening Input)) :
    (hosting.host Name store).answer ((hosting.host Name store).run requests)
        (.giving name input) =
      (hosting.given name requests).elim .notCalled fun inputs =>
        .answered (hosting.machine.answer (hosting.machine.run inputs) input) := by
  have follows := follows_given separate store name requests
  change (hosting.step ((hosting.host Name store).run requests) (.giving name input)).1 = _
  generalize (hosting.host Name store).run requests = hosted at follows ⊢
  generalize hosting.given name requests = inputs at follows ⊢
  simp only [Hosting.step]
  cases found : hosted.instances name with
  | none =>
      rw [found] at follows
      cases follows
      rfl
  | some state =>
      rw [found] at follows
      cases follows with
      | opened alike =>
          simp only [Option.elim_some]
          rw [separate.answer_congr ((hosting.alike_withStore hosted.store state).trans alike)]

/-- Each step that the machine takes by itself was taken by the instance. -/
theorem step_of_log_given (store : Store) {name : Name}
    {requests : List (HostRequest Name Opening Input)} {inputs : List Input}
    (isGiven : hosting.given name requests = some inputs)
    {event : Machine.Event State Input Output} (member : event ∈ hosting.machine.log inputs) :
    ∃ earlier, earlier ++ [.giving name event.input] <+: requests ∧
      (hosting.host Name store).answer ((hosting.host Name store).run earlier)
        (.giving name event.input) = .answered event.output := by
  induction requests using List.reverseRecOn generalizing inputs with
  | nil => cases isGiven
  | append_singleton requests request ih =>
      rw [given_snoc] at isGiven
      have older : ∀ {inputs}, hosting.given name requests = some inputs →
          event ∈ hosting.machine.log inputs →
          ∃ earlier, earlier ++ [.giving name event.input] <+: requests ++ [request] ∧
            (hosting.host Name store).answer ((hosting.host Name store).run earlier)
              (.giving name event.input) = .answered event.output := by
        intro inputs before inside
        rcases ih before inside with ⟨earlier, inRequests, answered⟩
        exact ⟨earlier, inRequests.trans (List.prefix_append requests [request]), answered⟩
      by_cases same : request.name = name
      · subst same
        cases before : hosting.given request.name requests with
        | none =>
            rw [before] at isGiven
            cases request with
            | opening name opening =>
                simp only [givenAfter, HostRequest.name, true_and] at isGiven
                split at isGiven
                · cases isGiven
                  cases member
                · cases isGiven
            | giving name input => cases isGiven
            | closing name => cases isGiven
        | some given =>
            rw [before] at isGiven
            cases request with
            | opening name opening =>
                cases isGiven
                exact older before member
            | closing name =>
                simp only [givenAfter, HostRequest.name, if_true] at isGiven
                cases isGiven
            | giving name input =>
                simp only [givenAfter, HostRequest.name, if_true] at isGiven
                cases isGiven
                rw [Machine.log_snoc, List.mem_append, List.mem_singleton] at member
                rcases member with inside | rfl
                · exact older before inside
                · refine ⟨requests, List.prefix_rfl, ?_⟩
                  exact (answer_given separate store name input requests).trans
                    (congrArg (Option.elim · _ _) before)
      · rw [hosting.givenAfter_of_ne same] at isGiven
        exact older isGiven member

end Hosting

end Library
end TrustChain

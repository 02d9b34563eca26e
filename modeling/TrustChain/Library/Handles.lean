import Mathlib.Logic.Function.Basic
import TrustChain.Library.Machine

namespace TrustChain
namespace Library

/-!
# Open handles

A program opens handles and has to close each of them once.  The table says
which handles are open, and of which kind.  Handles are numbered as they are
issued and no number is issued twice, so closing a handle for the second time
always meets one that is not open; that is a fault, as are the mistakes outside
of the table that leave the program without a meaning.

A computation is described by triples: the open handles it starts from, and how
what it returns and leaves open is related to them.  The numbers that it happens
to issue appear in no triple but as numbers that were not in use.
-/

abbrev Handle := Nat

/-- Which handles are open, and of which kind. -/
abbrev OpenHandles (Kind : Type) := Handle → Option Kind

structure HandleTable (Kind : Type) where
  live : OpenHandles Kind
  issued : Nat
  unissued : ∀ handle, issued ≤ handle → live handle = none

/-- What ends a computation without a result. -/
inductive Fault
  | notOpen
  | outOfBounds
  deriving DecidableEq

/-- A computation that opens and closes handles. -/
abbrev Tracked (Kind : Type) := StateT (HandleTable Kind) (Except Fault)

namespace HandleTable

variable {Kind : Type} (table : HandleTable Kind)

def empty (Kind : Type) : HandleTable Kind := ⟨fun _ => none, 0, fun _ _ => rfl⟩

/-- One more open handle, with the next number. -/
def opened (kind : Kind) : HandleTable Kind where
  live := Function.update table.live table.issued (some kind)
  issued := table.issued + 1
  unissued := fun handle later => by
    rw [Function.update_of_ne (Nat.ne_of_gt later)]
    exact table.unissued handle (Nat.le_of_succ_le later)

def closed (handle : Handle) : HandleTable Kind where
  live := Function.update table.live handle none
  issued := table.issued
  unissued := fun other later => by
    by_cases same : other = handle
    · rw [same, Function.update_self]
    · rw [Function.update_of_ne same]
      exact table.unissued other later

end HandleTable

/-! ## Operations -/

section Operations

variable {Kind Error Value : Type}

/-- A call that opens a handle unless it fails; then there is none. -/
def acquire (kind : Kind) (outcome : Except Error Value) :
    Tracked Kind (Except Error Value × Option Handle) := fun table =>
  match outcome with
  | .error code => .ok ((.error code, none), table)
  | .ok value => .ok ((.ok value, some table.issued), table.opened kind)

/-- A call that closes a handle of some kinds, and does nothing without one. -/
def release (closes : Kind → Bool) (handle : Option Handle) : Tracked Kind Unit := fun table =>
  match handle with
  | none => .ok ((), table)
  | some handle =>
      if (table.live handle).any closes then .ok ((), table.closed handle) else .error .notOpen

/-- A step that is allowed under a condition, and otherwise leaves its bounds. -/
def within (inside : Bool) : Tracked Kind Unit := fun table =>
  if inside then .ok ((), table) else .error .outOfBounds

end Operations

/-! ## Triples -/

section Triples

variable {Kind Result : Type}

/-- From these open handles on the computation goes through, and what it returns
and leaves open is as described. -/
def Triple (before : OpenHandles Kind) (computation : Tracked Kind Result)
    (after : Result → OpenHandles Kind → Prop) : Prop :=
  ∀ table, table.live = before →
    ∃ result left, computation.run table = .ok (result, left) ∧ after result left.live

/-- From these open handles on the computation ends with the fault. -/
def Faults (before : OpenHandles Kind) (computation : Tracked Kind Result) (fault : Fault) : Prop :=
  ∀ table, table.live = before → computation.run table = .error fault

/-- A handle that is there exactly if it was opened just now. -/
def Holds (kind : Kind) (before : OpenHandles Kind) (handle : Option Handle)
    (after : OpenHandles Kind) : Prop :=
  match handle with
  | none => after = before
  | some handle => before handle = none ∧ after = Function.update before handle (some kind)

/-- What a call has returned that opens a handle unless it fails. -/
structure Acquired {Error Value : Type} (kind : Kind) (outcome : Except Error Value)
    (before : OpenHandles Kind) (returned : Except Error Value × Option Handle)
    (after : OpenHandles Kind) : Prop where
  result : returned.1 = outcome
  some_iff : returned.2.isSome ↔ ∃ value, outcome = .ok value
  holds : Holds kind before returned.2 after

/-- The computation has this result and leaves open what was open. -/
def Keeps (computation : Tracked Kind Result) (result : Result) : Prop :=
  ∀ before, Triple before computation fun returned after => returned = result ∧ after = before

/-- The computation has this result, together with a handle that it opened. -/
def Opens (computation : Tracked Kind (Result × Option Handle)) (result : Result) (kind : Kind) :
    Prop :=
  ∀ before, Triple before computation fun returned after =>
    ∃ handle, returned = (result, some handle) ∧ Holds kind before (some handle) after

/-- The computation has this result, and a handle that it opened stays behind. -/
def Strands (computation : Tracked Kind Result) (result : Result) (kind : Kind) : Prop :=
  ∀ before, Triple before computation fun returned after =>
    returned = result ∧ ∃ handle, Holds kind before (some handle) after

end Triples

/-! ## Rules -/

section Rules

variable {Kind Error Value First Second : Type} {before : OpenHandles Kind} {fault : Fault}
variable {computation : Tracked Kind First} {next : First → Tracked Kind Second}

theorem Triple.pure {after : First → OpenHandles Kind → Prop} {result : First}
    (holds : after result before) : Triple before (pure result) after := by
  intro table same
  refine ⟨result, table, rfl, ?_⟩
  rw [same]
  exact holds

theorem Triple.bind {middle : First → OpenHandles Kind → Prop}
    {after : Second → OpenHandles Kind → Prop} (first : Triple before computation middle)
    (goesOn : ∀ result live, middle result live → Triple live (next result) after) :
    Triple before (computation >>= next) after := by
  intro table same
  rcases first table same with ⟨result, left, ran, reached⟩
  rcases goesOn result left.live reached left rfl with ⟨last, leftBehind, ranOn, holds⟩
  refine ⟨last, leftBehind, ?_, holds⟩
  rw [StateT.run_bind, ran]
  exact ranOn

theorem Triple.mono {middle after : First → OpenHandles Kind → Prop}
    (triple : Triple before computation middle)
    (weaker : ∀ result live, middle result live → after result live) :
    Triple before computation after := by
  intro table same
  rcases triple table same with ⟨result, left, ran, reached⟩
  exact ⟨result, left, ran, weaker result left.live reached⟩

theorem Faults.bind (faults : Faults before computation fault) :
    Faults before (computation >>= next) fault := by
  intro table same
  rw [StateT.run_bind, faults table same]
  rfl

theorem Triple.bind_faults {middle : First → OpenHandles Kind → Prop}
    (first : Triple before computation middle)
    (goesOn : ∀ result live, middle result live → Faults live (next result) fault) :
    Faults before (computation >>= next) fault := by
  intro table same
  rcases first table same with ⟨result, left, ran, reached⟩
  rw [StateT.run_bind, ran]
  exact goesOn result left.live reached left rfl

/-- A computation that keeps what is open can be passed over. -/
theorem Keeps.bind {after : Second → OpenHandles Kind → Prop} {first : First}
    (keeps : Keeps computation first) (goesOn : Triple before (next first) after) :
    Triple before (computation >>= next) after := by
  apply (keeps before).bind
  rintro result live ⟨rfl, rfl⟩
  exact goesOn

theorem Keeps.bind_faults {first : First} (keeps : Keeps computation first)
    (goesOn : Faults before (next first) fault) : Faults before (computation >>= next) fault := by
  apply (keeps before).bind_faults
  rintro result live ⟨rfl, rfl⟩
  exact goesOn

theorem Keeps.pure (result : First) : Keeps (pure result : Tracked Kind First) result :=
  fun _ => .pure ⟨rfl, rfl⟩

theorem acquire_spec (kind : Kind) (outcome : Except Error Value) :
    Triple before (acquire kind outcome) (Acquired kind outcome before) := by
  rintro table rfl
  cases outcome with
  | error code => exact ⟨_, table, rfl, rfl, by simp, rfl⟩
  | ok value =>
      have unused := table.unissued _ (Nat.le_refl _)
      exact ⟨_, table.opened kind, rfl, rfl, by simp, unused, rfl⟩

variable {kind : Kind} {handle : Option Handle} {result : Except Error Value}

/-- A failure leaves no handle, and everything as it was. -/
theorem Acquired.of_error {code : Error} {after : OpenHandles Kind}
    (acquired : Acquired kind (.error code : Except Error Value) before (result, handle) after) :
    result = .error code ∧ handle = none ∧ after = before := by
  have isNone : handle = none := by
    rw [← Option.not_isSome_iff_eq_none, acquired.some_iff]
    simp
  have holds := acquired.holds
  rw [isNone] at holds
  exact ⟨acquired.result, isNone, holds⟩

/-- A success leaves a handle. -/
theorem Acquired.of_ok {value : Value} {after : OpenHandles Kind}
    (acquired : Acquired kind (.ok value : Except Error Value) before (result, handle) after) :
    ∃ number, result = .ok value ∧ handle = some number ∧
      Holds kind before (some number) after := by
  rcases Option.isSome_iff_exists.mp (acquired.some_iff.mpr ⟨value, rfl⟩) with ⟨number, isSome⟩
  have holds := acquired.holds
  rw [isSome] at holds
  exact ⟨number, acquired.result, isSome, holds⟩

theorem release_none (closes : Kind → Bool) : Keeps (release closes none) () :=
  fun _ table same => ⟨(), table, rfl, rfl, same⟩

theorem release_some {closes : Kind → Bool} {kind : Kind} (closable : closes kind = true)
    {handle : Handle} (isOpen : before handle = some kind) :
    Triple before (release closes (some handle))
      fun _ after => after = Function.update before handle none := by
  rintro table rfl
  have closing : (table.live handle).any closes = true := by
    rw [isOpen]
    exact closable
  exact ⟨(), table.closed handle, if_pos closing, rfl⟩

/-- A handle that was just opened is closed again without a trace. -/
theorem Holds.closed {closes : Kind → Bool} {kind : Kind} {handle : Option Handle}
    {opened : OpenHandles Kind} (holds : Holds kind before handle opened)
    (closable : closes kind = true) :
    Triple opened (release closes handle) fun _ after => after = before := by
  cases handle with
  | none =>
      apply (release_none closes opened).mono
      intro _ live left
      exact left.2.trans holds
  | some handle =>
      rcases holds with ⟨unused, rfl⟩
      apply (release_some closable (Function.update_self handle (some kind) before)).mono
      rintro _ live rfl
      rw [Function.update_idem, ← unused, Function.update_eq_self]

/-- So is a handle below the one that was opened last, which stays. -/
theorem Holds.closed_below {closes : Kind → Bool} {kind upper : Kind}
    {handle other : Option Handle} {opened both : OpenHandles Kind}
    (holds : Holds kind before handle opened) (above : Holds upper opened other both)
    (closable : closes kind = true) :
    Triple both (release closes handle) fun _ after => Holds upper before other after := by
  cases other with
  | none =>
      cases above
      exact holds.closed closable
  | some other =>
      rcases above with ⟨otherUnused, rfl⟩
      cases handle with
      | none =>
          cases holds
          apply (release_none closes _).mono
          rintro _ live ⟨_, rfl⟩
          exact ⟨otherUnused, rfl⟩
      | some handle =>
          rcases holds with ⟨unused, rfl⟩
          have different : handle ≠ other := by
            rintro rfl
            rw [Function.update_self] at otherUnused
            cases otherUnused
          rw [Function.update_of_ne different.symm] at otherUnused
          have isOpen : Function.update (Function.update before handle (some kind)) other
              (some upper) handle = some kind := by
            rw [Function.update_of_ne different, Function.update_self]
          apply (release_some closable isOpen).mono
          rintro _ live rfl
          refine ⟨otherUnused, ?_⟩
          rw [Function.update_comm different.symm, Function.update_idem, ← unused,
            Function.update_eq_self]

/-- What follows on an allocation may hand the new handle on. -/
theorem Opens.of_acquire {value : Value} {returned : Second}
    {next : Except Error Value × Option Handle → Tracked Kind (Second × Option Handle)}
    (goesOn : ∀ number, Keeps (next (.ok value, some number)) (returned, some number)) :
    Opens (acquire kind (.ok value) >>= next) returned kind := by
  intro before
  apply (acquire_spec kind (.ok value : Except Error Value)).bind
  rintro ⟨result, handle⟩ live acquired
  rcases acquired.of_ok with ⟨number, rfl, rfl, holds⟩
  apply (goesOn number live).mono
  rintro _ _ ⟨rfl, rfl⟩
  exact ⟨number, rfl, holds⟩

theorem Keeps.map {Result : Type} {result : First} (keeps : Keeps computation result)
    (wrap : First → Result) : Keeps (wrap <$> computation) (wrap result) := by
  intro before
  rw [map_eq_pure_bind]
  exact keeps.bind (.pure ⟨rfl, rfl⟩)

theorem Strands.map {Result : Type} {result : First} (strands : Strands computation result kind)
    (wrap : First → Result) : Strands (wrap <$> computation) (wrap result) kind := by
  intro before
  rw [map_eq_pure_bind]
  apply (strands before).bind
  rintro _ live ⟨rfl, stranded⟩
  exact .pure ⟨rfl, stranded⟩

theorem Faults.map {Result : Type} (faults : Faults before computation fault)
    (wrap : First → Result) : Faults before (wrap <$> computation) fault := by
  rw [map_eq_pure_bind]
  exact faults.bind

theorem within_true : Keeps (within true : Tracked Kind Unit) () :=
  fun _ table same => ⟨(), table, rfl, rfl, same⟩

theorem within_false : Faults before (within false : Tracked Kind Unit) .outOfBounds :=
  fun _ _ => rfl

end Rules

/-! ## Sequences of calls -/

section Sequences

variable {Kind Call Answer : Type} (body : Call → Tracked Kind Answer) (table : HandleTable Kind)

/-- What a call answers and where it leads. -/
def settle : Except Fault (Answer × HandleTable Kind) →
    Except Fault Answer × Except Fault (HandleTable Kind)
  | .error fault => (.error fault, .error fault)
  | .ok (answer, after) => (.ok answer, .ok after)

/-- The calls are made one after the other; behind a fault there is nothing. -/
def trackedMachine : Machine (Except Fault (HandleTable Kind)) Call (Except Fault Answer) where
  start := .ok table
  step := fun state call => settle (state.bind (body call).run)

/-- No fault, and the same handles are open as before. -/
def SameOpen (before after : Except Fault (HandleTable Kind)) : Prop :=
  ∃ first second, before = .ok first ∧ after = .ok second ∧ second.live = first.live

/-- Nothing was closed that was not open, nor anything twice. -/
def ClosesOpen (state : Except Fault (HandleTable Kind)) : Prop := state ≠ .error .notOpen

/-- A call keeps what is open exactly if it is `tidy`, and otherwise strands a
handle or leaves its bounds; no call closes what is not open, and none answers
by the handles that it meets. -/
inductive CallExit (tidy : Call → Prop) (answer : Answer) (call : Call) : Prop
  | keeps (allowed : tidy call) (keeps : Keeps (body call) answer)
  | strands (untidy : ¬ tidy call) (kind : Kind) (strands : Strands (body call) answer kind)
  | faults (untidy : ¬ tidy call) (faults : ∀ before, Faults before (body call) .outOfBounds)

variable {body} {table} {tidy : Call → Prop} {answers : Call → Answer} {call : Call}

theorem trackedMachine_next (start : HandleTable Kind) :
    (trackedMachine body start).next (.ok table) call = (settle ((body call).run table)).2 := rfl

/-- A handle more is not the same as before. -/
theorem Holds.ne {kind : Kind} {before after : OpenHandles Kind} {handle : Handle}
    (holds : Holds kind before (some handle) after) : after ≠ before := by
  rintro rfl
  rcases holds with ⟨unused, updated⟩
  have opened := congrFun updated handle
  rw [unused, Function.update_self] at opened
  cases opened

/-- One call in a state without a fault. -/
theorem sameOpen_next_iff {start : HandleTable Kind} {answer : Answer}
    (exit : CallExit body tidy answer call) :
    SameOpen (.ok table) ((trackedMachine body start).next (.ok table) call) ↔ tidy call := by
  cases exit with
  | keeps allowed keeps =>
      rcases keeps table.live table rfl with ⟨_, after, ran, rfl, same⟩
      rw [trackedMachine_next, ran]
      exact iff_of_true ⟨table, after, rfl, rfl, same⟩ allowed
  | strands untidy kind strands =>
      rcases strands table.live table rfl with ⟨_, after, ran, rfl, handle, holds⟩
      rw [trackedMachine_next, ran]
      refine iff_of_false ?_ untidy
      rintro ⟨first, second, sameFirst, sameSecond, same⟩
      cases sameFirst
      cases sameSecond
      exact holds.ne same
  | faults untidy faults =>
      rw [trackedMachine_next, faults table.live table rfl]
      refine iff_of_false ?_ untidy
      rintro ⟨first, second, _, impossible, _⟩
      cases impossible

/-- Whatever a call leaves open, its answer does not depend on it. -/
theorem trackedMachine_answer {start : HandleTable Kind} {answer answered : Answer}
    (exit : CallExit body tidy answer call)
    (goesThrough : (trackedMachine body start).answer (.ok table) call = .ok answered) :
    answered = answer := by
  change (settle ((body call).run table)).1 = .ok answered at goesThrough
  cases exit with
  | keeps allowed keeps =>
      rcases keeps table.live table rfl with ⟨_, after, ran, rfl, _⟩
      rw [ran] at goesThrough
      exact (Except.ok.inj goesThrough).symm
  | strands untidy kind strands =>
      rcases strands table.live table rfl with ⟨_, after, ran, rfl, _⟩
      rw [ran] at goesThrough
      exact (Except.ok.inj goesThrough).symm
  | faults untidy faults =>
      rw [faults table.live table rfl] at goesThrough
      cases goesThrough

/-- As long as the calls keep what is open there is no fault. -/
theorem exists_run_of_everyStep {calls : List Call}
    (every : (trackedMachine body table).EveryStep
      (fun state call => SameOpen state ((trackedMachine body table).next state call)) calls) :
    ∃ reached, (trackedMachine body table).run calls = .ok reached := by
  induction calls using List.reverseRecOn with
  | nil => exact ⟨table, rfl⟩
  | append_singleton calls call ih =>
      rcases ((trackedMachine body table).everyStep_snoc.mp every).2 with
        ⟨first, second, _, reached, _⟩
      rw [(trackedMachine body table).run_snoc]
      exact ⟨second, reached⟩

/-- Each call of a sequence keeps what is open exactly if all of them are tidy. -/
theorem everyStep_sameOpen_iff (exits : ∀ call, CallExit body tidy (answers call) call) (calls : List Call) :
    (trackedMachine body table).EveryStep
        (fun state call => SameOpen state ((trackedMachine body table).next state call)) calls ↔
      ∀ call ∈ calls, tidy call := by
  induction calls using List.reverseRecOn with
  | nil => exact iff_of_true (trackedMachine body table).everyStep_nil (List.forall_mem_nil _)
  | append_singleton calls call ih =>
      rw [(trackedMachine body table).everyStep_snoc, List.forall_mem_append,
        List.forall_mem_singleton, ← ih]
      apply and_congr_right
      intro every
      rcases exists_run_of_everyStep every with ⟨reached, ran⟩
      rw [ran]
      exact sameOpen_next_iff (exits call)

/-- And no sequence closes a handle that is not open. -/
theorem closesOpen_run (exits : ∀ call, CallExit body tidy (answers call) call) (calls : List Call) :
    ClosesOpen ((trackedMachine body table).run calls) := by
  apply (trackedMachine body table).run_invariant
  · intro impossible
    cases impossible
  · intro state call good
    cases state with
    | error fault => exact good
    | ok table =>
        rw [trackedMachine_next]
        cases exits call with
        | keeps allowed keeps =>
            rcases keeps table.live table rfl with ⟨_, after, ran, _⟩
            rw [ran]
            simp [settle, ClosesOpen]
        | strands untidy kind strands =>
            rcases strands table.live table rfl with ⟨_, after, ran, _⟩
            rw [ran]
            simp [settle, ClosesOpen]
        | faults untidy faults =>
            rw [faults table.live table rfl]
            simp [settle, ClosesOpen]

end Sequences

end Library
end TrustChain

import TrustChain.Host.Conversation

namespace TrustChain
namespace Host

open Library

/-!
# Who holds which descriptor

`main` and the threads are the parties of the service.  A party has a connection
to work on, the descriptor of it, and the block that it was passed in; what it
has follows from where it is.  Each step takes something into possession,
releases something, or hands all of it over to a new thread.
-/

/-- A connection that somebody works on. -/
structure Job where
  descriptor : Descriptor
  connection : Nat
  stage : Stage

/-- What a party has to release. -/
structure Held (Address : Type) where
  listener : Option Descriptor
  job : Option Job
  block : Option Address

/-- `main`, or a thread by its number. -/
abbrev Party := Option Nat

namespace Held

variable {Address : Type}

def nothing : Held Address := ⟨none, none, none⟩

def HasDescriptor (held : Held Address) (descriptor : Descriptor) : Prop :=
  held.listener = some descriptor ∨ ∃ job, held.job = some job ∧ job.descriptor = descriptor

def HasBlock (held : Held Address) (address : Address) : Prop :=
  held.block = some address

/-- Nothing to release has been gained or lost. -/
structure SameGoods (held other : Held Address) : Prop where
  listener : other.listener = held.listener
  block : other.block = held.block
  forward : ∀ job, held.job = some job → ∃ stage, other.job = some { job with stage := stage }
  backward : ∀ job, other.job = some job → ∃ stage, held.job = some { job with stage := stage }

theorem SameGoods.refl (held : Held Address) : held.SameGoods held where
  listener := rfl
  block := rfl
  forward := fun job has => ⟨job.stage, has⟩
  backward := fun job has => ⟨job.stage, has⟩

theorem SameGoods.atStage (listener : Option Descriptor) (job : Job) (stage : Stage)
    (block : Option Address) :
    SameGoods ⟨listener, some job, block⟩ ⟨listener, some { job with stage := stage }, block⟩ where
  listener := rfl
  block := rfl
  forward := fun other has => by
    cases has
    exact ⟨stage, rfl⟩
  backward := fun other has => by
    cases has
    exact ⟨job.stage, rfl⟩

theorem SameGoods.hasDescriptor_iff {held other : Held Address} (same : held.SameGoods other)
    (descriptor : Descriptor) : held.HasDescriptor descriptor ↔ other.HasDescriptor descriptor := by
  unfold HasDescriptor
  rw [same.listener]
  constructor
  · rintro (listens | ⟨job, has, rfl⟩)
    · exact Or.inl listens
    · rcases same.forward job has with ⟨stage, now⟩
      exact Or.inr ⟨_, now, rfl⟩
  · rintro (listens | ⟨job, has, rfl⟩)
    · exact Or.inl listens
    · rcases same.backward job has with ⟨stage, before⟩
      exact Or.inr ⟨_, before, rfl⟩

end Held

/-! ## Places and possessions -/

/-- Where a party is. -/
inductive Whereabouts (Address : Type)
  | main (main : MainAt Address)
  | thread (thread : Option (ThreadAt Address))

def Service.whereabouts {Address : Type} (service : Service Address) : Party → Whereabouts Address
  | none => .main service.main
  | some number => .thread (service.threads number)

/-- What a party has where it is. -/
inductive Holds {Address : Type} : Whereabouts Address → Held Address → Prop
  | start : Holds (.main .start) ⟨none, none, none⟩
  | contextMade : Holds (.main .contextMade) ⟨none, none, none⟩
  | serviceConnected : Holds (.main .connected) ⟨none, none, none⟩
  | socketMade (listen : Descriptor) : Holds (.main (.socketMade listen)) ⟨some listen, none, none⟩
  | accepting (listen : Descriptor) : Holds (.main (.accepting listen)) ⟨some listen, none, none⟩
  | accepted (listen descriptor : Descriptor) (connection : Nat) :
      Holds (.main (.accepted listen descriptor))
        ⟨some listen, some ⟨descriptor, connection, .waiting⟩, none⟩
  | stored (listen descriptor : Descriptor) (connection : Nat) (block : Address) :
      Holds (.main (.stored listen descriptor block))
        ⟨some listen, some ⟨descriptor, connection, .waiting⟩, some block⟩
  | givingUp (listen descriptor : Descriptor) (connection : Nat) :
      Holds (.main (.givingUp listen descriptor))
        ⟨some listen, some ⟨descriptor, connection, .waiting⟩, none⟩
  | leaving (listen : Descriptor) : Holds (.main .leaving) ⟨some listen, none, none⟩
  | sessionClosed (listen : Descriptor) : Holds (.main .sessionClosed) ⟨some listen, none, none⟩
  | exited (code : Nat) (listen : Option Descriptor) :
      Holds (.main (.exited code)) ⟨listen, none, none⟩
  | finished : Holds (.thread none) ⟨none, none, none⟩
  | started (block : Address) (descriptor : Descriptor) (connection : Nat) :
      Holds (.thread (some (.started block)))
        ⟨none, some ⟨descriptor, connection, .waiting⟩, some block⟩
  | connected (block : Address) (descriptor : Descriptor) (connection : Nat) :
      Holds (.thread (some (.connected block descriptor)))
        ⟨none, some ⟨descriptor, connection, .waiting⟩, some block⟩
  | asking (block : Address) (descriptor : Descriptor) (connection : Nat) (invocation : Invocation)
      (reply : Option TeecOperation → Reply) :
      Holds (.thread (some (.asking block descriptor invocation reply)))
        ⟨none, some ⟨descriptor, connection, .asking invocation reply⟩, some block⟩
  | writing (block : Address) (descriptor : Descriptor) (connection : Nat) (response : CString) :
      Holds (.thread (some (.writing block descriptor response)))
        ⟨none, some ⟨descriptor, connection, .answering response⟩, some block⟩
  | closing (block : Address) (descriptor : Descriptor) (connection : Nat) :
      Holds (.thread (some (.closing block descriptor)))
        ⟨none, some ⟨descriptor, connection, .finished⟩, some block⟩
  | freeing (block : Address) : Holds (.thread (some (.freeing block))) ⟨none, none, some block⟩

/-- The descriptor that the next step of a party listens on, reads, writes or
closes. -/
def Whereabouts.descriptor {Address : Type} : Whereabouts Address → Option Descriptor
  | .main (.socketMade listenSocket) => some listenSocket
  | .main (.accepting listenSocket) => some listenSocket
  | .main (.givingUp _ connectionSocket) => some connectionSocket
  | .thread (some (.connected _ connectionSocket)) => some connectionSocket
  | .thread (some (.writing _ connectionSocket _)) => some connectionSocket
  | .thread (some (.closing _ connectionSocket)) => some connectionSocket
  | _ => none

/-- The `new_socket` that the next step of a party reads, hands over or frees. -/
def Whereabouts.block {Address : Type} : Whereabouts Address → Option Address
  | .main (.stored _ _ newSocket) => some newSocket
  | .thread (some (.started socketDesc)) => some socketDesc
  | .thread (some (.freeing socketDesc)) => some socketDesc
  | _ => none

theorem Holds.descriptor {Address : Type} {place : Whereabouts Address} {held : Held Address}
    (holds : Holds place held) {descriptor : Descriptor}
    (works : place.descriptor = some descriptor) : held.HasDescriptor descriptor := by
  cases holds with
  | socketMade listen => exact Or.inl works
  | accepting listen => exact Or.inl works
  | givingUp listen socket connection => exact Or.inr ⟨_, rfl, Option.some.inj works⟩
  | connected block socket connection => exact Or.inr ⟨_, rfl, Option.some.inj works⟩
  | writing block socket connection response => exact Or.inr ⟨_, rfl, Option.some.inj works⟩
  | closing block socket connection => exact Or.inr ⟨_, rfl, Option.some.inj works⟩
  | _ => cases works

theorem Holds.block {Address : Type} {place : Whereabouts Address} {held : Held Address}
    (holds : Holds place held) {address : Address} (works : place.block = some address) :
    held.HasBlock address := by
  cases holds with
  | stored listen socket connection block => exact works
  | started block socket connection => exact works
  | freeing block => exact works
  | _ => cases works

/-- What the party has is there, and is what it should be. -/
structure InPlace {Address : Type} (service : Service Address) (held : Held Address) : Prop where
  listener : ∀ descriptor, held.listener = some descriptor →
    service.sockets descriptor = some .listener
  job : ∀ job, held.job = some job →
    service.sockets job.descriptor = some (.connection job.connection)
  stored : ∀ job block, held.job = some job → held.block = some block →
    service.blocks block = some job.descriptor

/-- What is open and allocated is what the parties have. -/
structure Owns {Address : Type} (service : Service Address) (held : Party → Held Address) :
    Prop where
  holds : ∀ party, Holds (service.whereabouts party) (held party)
  descriptors : service.sockets.OwnedBy fun party => (held party).HasDescriptor
  blocks : service.blocks.OwnedBy fun party => (held party).HasBlock
  inPlace : ∀ party, InPlace service (held party)
  unborn : ∀ number, service.threadsCreated ≤ number → service.threads number = none

/-- The stage of each connection, whether somebody works on it or not. -/
structure Staged {Address : Type} (accepted : Nat) (held : Party → Held Address)
    (stages : Nat → Stage) : Prop where
  staged : ∀ party job, (held party).job = some job →
    stages job.connection = job.stage ∧ job.connection < accepted
  single : ∀ party other job otherJob, (held party).job = some job →
    (held other).job = some otherJob → job.connection = otherJob.connection → party = other
  absent : ∀ connection, accepted ≤ connection → stages connection = .absent
  closed : ∀ connection, connection < accepted → stages connection = .closed ∨
    ∃ party job, (held party).job = some job ∧ job.connection = connection

/-! ## Stages after a step -/

section Stages

variable {Address : Type} {accepted : Nat} {held : Party → Held Address} {stages : Nat → Stage}
variable {party : Party} {new : Held Address}

theorem Staged.keep (staged : Staged accepted held stages) (same : new.job = (held party).job) :
    Staged accepted (Function.update held party new) stages := by
  have jobs : ∀ other, (Function.update held party new other).job = (held other).job := by
    intro other
    by_cases isParty : other = party
    · rw [isParty, Function.update_self, same]
    · rw [Function.update_of_ne isParty]
  refine ⟨?_, ?_, staged.absent, ?_⟩
  · intro other job has
    rw [jobs] at has
    exact staged.staged other job has
  · intro first second job otherJob firstHas secondHas
    rw [jobs] at firstHas secondHas
    exact staged.single first second job otherJob firstHas secondHas
  · intro connection inside
    simp only [jobs]
    exact staged.closed connection inside

/-- A connection that this party does not work on is closed, or another party
still works on it. -/
theorem Staged.closed_elsewhere (staged : Staged accepted held stages) {connection : Nat}
    (inside : connection < accepted)
    (notHere : ∀ job, (held party).job = some job → job.connection ≠ connection) :
    stages connection = .closed ∨ ∃ other job,
      (Function.update held party new other).job = some job ∧ job.connection = connection := by
  rcases staged.closed connection inside with closed | ⟨other, job, has, same⟩
  · exact Or.inl closed
  · have different : other ≠ party := by
      rintro rfl
      exact notHere job has same
    refine Or.inr ⟨other, job, ?_, same⟩
    rw [Function.update_of_ne different]
    exact has

/-- The party with this job brings its connection to another stage. -/
theorem Staged.advance (staged : Staged accepted held stages) {job : Job} (stage : Stage)
    (has : (held party).job = some job) (now : new.job = some { job with stage := stage }) :
    Staged accepted (Function.update held party new)
      (Function.update stages job.connection stage) := by
  have mine := staged.staged party job has
  have others : ∀ other, other ≠ party → Function.update held party new other = held other :=
    fun other different => Function.update_of_ne different new held
  refine ⟨?_, ?_, ?_, ?_⟩
  · intro other otherJob otherHas
    by_cases isParty : other = party
    · rw [isParty, Function.update_self, now] at otherHas
      cases otherHas
      exact ⟨Function.update_self _ _ _, mine.2⟩
    · rw [others other isParty] at otherHas
      have different : otherJob.connection ≠ job.connection := fun same =>
        isParty (staged.single other party otherJob job otherHas has same)
      rw [Function.update_of_ne different]
      exact staged.staged other otherJob otherHas
  · have before : ∀ other otherJob, (Function.update held party new other).job = some otherJob →
        ∃ oldJob, (held other).job = some oldJob ∧ oldJob.connection = otherJob.connection := by
      intro other otherJob otherHas
      by_cases isParty : other = party
      · rw [isParty, Function.update_self, now] at otherHas
        cases otherHas
        exact ⟨job, by rw [isParty, has], rfl⟩
      · rw [others other isParty] at otherHas
        exact ⟨otherJob, otherHas, rfl⟩
    intro first second firstJob secondJob firstHas secondHas same
    rcases before first firstJob firstHas with ⟨firstOld, firstHad, firstSame⟩
    rcases before second secondJob secondHas with ⟨secondOld, secondHad, secondSame⟩
    exact staged.single first second firstOld secondOld firstHad secondHad
      (firstSame.trans (same.trans secondSame.symm))
  · intro connection outside
    have different : connection ≠ job.connection := by
      rintro rfl
      exact absurd mine.2 (Nat.not_lt_of_le outside)
    rw [Function.update_of_ne different]
    exact staged.absent connection outside
  · intro connection inside
    by_cases isMine : connection = job.connection
    · refine Or.inr ⟨party, { job with stage := stage }, ?_, isMine.symm⟩
      rw [Function.update_self, now]
    · rw [Function.update_of_ne isMine]
      apply staged.closed_elsewhere inside
      intro otherJob otherHas same
      rw [has] at otherHas
      cases otherHas
      exact isMine same.symm

/-- A party without a job takes the next connection. -/
theorem Staged.begin (staged : Staged accepted held stages) (descriptor : Descriptor)
    (stage : Stage) (idle : (held party).job = none)
    (now : new.job = some ⟨descriptor, accepted, stage⟩) :
    Staged (accepted + 1) (Function.update held party new)
      (Function.update stages accepted stage) := by
  have others : ∀ other, other ≠ party → Function.update held party new other = held other :=
    fun other different => Function.update_of_ne different new held
  refine ⟨?_, ?_, ?_, ?_⟩
  · intro other otherJob otherHas
    by_cases isParty : other = party
    · rw [isParty, Function.update_self, now] at otherHas
      cases otherHas
      exact ⟨Function.update_self _ _ _, Nat.lt_succ_self accepted⟩
    · rw [others other isParty] at otherHas
      have mine := staged.staged other otherJob otherHas
      rw [Function.update_of_ne (Nat.ne_of_lt mine.2)]
      exact ⟨mine.1, Nat.lt_succ_of_lt mine.2⟩
  · intro first second firstJob secondJob firstHas secondHas same
    by_cases isFirst : first = party
    · by_cases isSecond : second = party
      · rw [isFirst, isSecond]
      · rw [isFirst, Function.update_self, now] at firstHas
        rw [others second isSecond] at secondHas
        cases firstHas
        exact absurd same.symm (Nat.ne_of_lt (staged.staged second secondJob secondHas).2)
    · rw [others first isFirst] at firstHas
      by_cases isSecond : second = party
      · rw [isSecond, Function.update_self, now] at secondHas
        cases secondHas
        exact absurd same (Nat.ne_of_lt (staged.staged first firstJob firstHas).2)
      · rw [others second isSecond] at secondHas
        exact staged.single first second firstJob secondJob firstHas secondHas same
  · intro connection outside
    rw [Function.update_of_ne (Nat.ne_of_gt outside)]
    exact staged.absent connection (Nat.le_of_succ_le outside)
  · intro connection inside
    rcases Nat.lt_or_eq_of_le (Nat.le_of_lt_succ inside) with older | newest
    · rw [Function.update_of_ne (Nat.ne_of_lt older)]
      apply staged.closed_elsewhere older
      intro otherJob otherHas
      rw [idle] at otherHas
      cases otherHas
    · refine Or.inr ⟨party, ⟨descriptor, accepted, stage⟩, ?_, newest.symm⟩
      rw [Function.update_self, now]

/-- The party with this job closes its connection. -/
theorem Staged.finish (staged : Staged accepted held stages) {job : Job}
    (has : (held party).job = some job) (now : new.job = none) :
    Staged accepted (Function.update held party new)
      (Function.update stages job.connection .closed) := by
  have mine := staged.staged party job has
  have before : ∀ other otherJob, (Function.update held party new other).job = some otherJob →
      (held other).job = some otherJob ∧ otherJob.connection ≠ job.connection := by
    intro other otherJob otherHas
    by_cases isParty : other = party
    · rw [isParty, Function.update_self, now] at otherHas
      cases otherHas
    · rw [Function.update_of_ne isParty] at otherHas
      exact ⟨otherHas, fun same =>
        isParty (staged.single other party otherJob job otherHas has same)⟩
  refine ⟨?_, ?_, ?_, ?_⟩
  · intro other otherJob otherHas
    rcases before other otherJob otherHas with ⟨had, different⟩
    rw [Function.update_of_ne different]
    exact staged.staged other otherJob had
  · intro first second firstJob secondJob firstHas secondHas
    exact staged.single first second firstJob secondJob (before first firstJob firstHas).1
      (before second secondJob secondHas).1
  · intro connection outside
    have different : connection ≠ job.connection := by
      rintro rfl
      exact absurd mine.2 (Nat.not_lt_of_le outside)
    rw [Function.update_of_ne different]
    exact staged.absent connection outside
  · intro connection inside
    by_cases isMine : connection = job.connection
    · rw [isMine]
      exact Or.inl (Function.update_self _ _ _)
    · rw [Function.update_of_ne isMine]
      apply staged.closed_elsewhere inside
      intro otherJob otherHas same
      rw [has] at otherHas
      cases otherHas
      exact isMine same.symm

/-- A job is handed over as it is. -/
theorem Staged.give (staged : Staged accepted held stages) {giver taker : Party} {job : Job}
    {kept given : Held Address} (different : taker ≠ giver) (has : (held giver).job = some job)
    (idle : (held taker).job = none) (keeps : kept.job = none) (gives : given.job = some job) :
    Staged accepted (Function.update (Function.update held giver kept) taker given) stages := by
  have before : ∀ other otherJob,
      (Function.update (Function.update held giver kept) taker given other).job = some otherJob →
      (held (if other = taker then giver else other)).job = some otherJob ∧ other ≠ giver := by
    intro other otherJob otherHas
    by_cases isTaker : other = taker
    · rw [isTaker, Function.update_self, gives] at otherHas
      rw [if_pos isTaker, has, isTaker]
      exact ⟨otherHas, different⟩
    · rw [Function.update_of_ne isTaker] at otherHas
      rw [if_neg isTaker]
      by_cases isGiver : other = giver
      · rw [isGiver, Function.update_self, keeps] at otherHas
        cases otherHas
      · rw [Function.update_of_ne isGiver] at otherHas
        exact ⟨otherHas, isGiver⟩
  refine ⟨?_, ?_, staged.absent, ?_⟩
  · intro other otherJob otherHas
    exact staged.staged _ otherJob (before other otherJob otherHas).1
  · intro first second firstJob secondJob firstHas secondHas same
    rcases before first firstJob firstHas with ⟨firstHad, firstOther⟩
    rcases before second secondJob secondHas with ⟨secondHad, secondOther⟩
    have sources := staged.single _ _ firstJob secondJob firstHad secondHad same
    by_cases isFirst : first = taker
    · by_cases isSecond : second = taker
      · rw [isFirst, isSecond]
      · rw [if_pos isFirst, if_neg isSecond] at sources
        exact absurd sources.symm secondOther
    · by_cases isSecond : second = taker
      · rw [if_neg isFirst, if_pos isSecond] at sources
        exact absurd sources firstOther
      · rwa [if_neg isFirst, if_neg isSecond] at sources
  · intro connection inside
    rcases staged.closed connection inside with closed | ⟨other, otherJob, otherHas, same⟩
    · exact Or.inl closed
    · refine Or.inr ?_
      by_cases isGiver : other = giver
      · refine ⟨taker, job, ?_, ?_⟩
        · rw [Function.update_self, gives]
        · rw [isGiver, has] at otherHas
          cases otherHas
          exact same
      · refine ⟨other, otherJob, ?_, same⟩
        have notTaker : other ≠ taker := by
          rintro rfl
          rw [idle] at otherHas
          cases otherHas
        rw [Function.update_of_ne notTaker, Function.update_of_ne isGiver]
        exact otherHas

end Stages

/-! ## Possessions after a step -/

section Possessions

variable {Address : Type} {service after : Service Address} {held : Party → Held Address}
variable {party : Party} {new : Held Address}

/-- What the other parties do not notice. -/
structure Elsewhere (service after : Service Address) (party : Party) : Prop where
  others : ∀ other, other ≠ party → after.whereabouts other = service.whereabouts other
  created : after.threadsCreated = service.threadsCreated
  alive : ∀ number, party = some number → service.threads number ≠ none

/-- A party has replaced what it had by something else. -/
theorem Owns.move (owns : Owns service held) (holds : Holds (after.whereabouts party) new)
    (elsewhere : Elsewhere service after party)
    (sockets : service.sockets.Replaces after.sockets (held party).HasDescriptor
      new.HasDescriptor)
    (blocks : service.blocks.Replaces after.blocks (held party).HasBlock new.HasBlock)
    (inPlace : InPlace after new) : Owns after (Function.update held party new) where
  holds := fun other => by
    by_cases isParty : other = party
    · rw [isParty, Function.update_self]
      exact holds
    · rw [Function.update_of_ne isParty, elsewhere.others other isParty]
      exact owns.holds other
  descriptors := sockets.owned owns.descriptors
  blocks := blocks.owned owns.blocks
  inPlace := fun other => by
    by_cases isParty : other = party
    · rw [isParty, Function.update_self]
      exact inPlace
    · rw [Function.update_of_ne isParty]
      have before := owns.inPlace other
      refine ⟨?_, ?_, ?_⟩
      · intro descriptor has
        have mine : (held other).HasDescriptor descriptor := Or.inl has
        exact (sockets.kept owns.descriptors isParty mine).trans (before.listener descriptor has)
      · intro job has
        have mine : (held other).HasDescriptor job.descriptor := Or.inr ⟨job, has, rfl⟩
        exact (sockets.kept owns.descriptors isParty mine).trans (before.job job has)
      · intro job block has hasBlock
        have mine : (held other).HasBlock block := hasBlock
        exact (blocks.kept owns.blocks isParty mine).trans (before.stored job block has hasBlock)
  unborn := fun number outside => by
    rw [elsewhere.created] at outside
    have notYet := owns.unborn number outside
    have isOther : some number ≠ party := by
      rintro rfl
      exact elsewhere.alive number rfl notYet
    have same : Whereabouts.thread (after.threads number) =
        .thread (service.threads number) := elsewhere.others (some number) isOther
    rw [Whereabouts.thread.injEq] at same
    rw [same, notYet]

theorem InPlace.elsewhere {goods : Held Address} (inPlace : InPlace service goods)
    (sockets : after.sockets = service.sockets) (blocks : after.blocks = service.blocks) :
    InPlace after goods := by
  refine ⟨?_, ?_, ?_⟩
  · rw [sockets]
    exact inPlace.listener
  · rw [sockets]
    exact inPlace.job
  · rw [blocks]
    exact inPlace.stored

theorem elsewhere_main (threads : after.threads = service.threads)
    (created : after.threadsCreated = service.threadsCreated) : Elsewhere service after none where
  others := fun other different => by
    cases other with
    | none => exact absurd rfl different
    | some number => exact congrArg (fun threads => Whereabouts.thread (threads number)) threads
  created := created
  alive := fun number impossible => by cases impossible

theorem elsewhere_thread {number : Nat} {thread : Option (ThreadAt Address)}
    (threads : after.threads = Function.update service.threads number thread)
    (main : after.main = service.main) (created : after.threadsCreated = service.threadsCreated)
    (alive : service.threads number ≠ none) : Elsewhere service after (some number) where
  others := fun other different => by
    cases other with
    | none => exact congrArg Whereabouts.main main
    | some otherNumber =>
        have notSame : otherNumber ≠ number := fun same => different (congrArg some same)
        rw [Service.whereabouts, Service.whereabouts, threads, Function.update_of_ne notSame]
  created := created
  alive := fun _ same => by
    cases same
    exact alive

theorem Owns.hasDescriptor (owns : Owns service held) (party : Party) (descriptor : Descriptor)
    (has : (held party).HasDescriptor descriptor) : service.sockets descriptor ≠ none :=
  Heap.OwnedBy.held owns.descriptors has

theorem Owns.hasBlock (owns : Owns service held) (party : Party) (block : Address)
    (has : (held party).HasBlock block) : service.blocks block ≠ none :=
  Heap.OwnedBy.held owns.blocks has

/-- The party has gone on with the same goods, and nothing else has changed. -/
theorem Owns.relocate (owns : Owns service held) (holds : Holds (after.whereabouts party) new)
    (elsewhere : Elsewhere service after party) (same : (held party).SameGoods new)
    (sockets : after.sockets = service.sockets) (blocks : after.blocks = service.blocks) :
    Owns after (Function.update held party new) := by
  refine owns.move holds elsewhere ?_ ?_ ?_
  · rw [sockets]
    exact Heap.replaces_same (owns.hasDescriptor party) same.hasDescriptor_iff
  · rw [blocks]
    refine Heap.replaces_same (owns.hasBlock party) ?_
    intro block
    rw [Held.HasBlock, Held.HasBlock, same.block]
  · have before := (owns.inPlace party).elsewhere sockets blocks
    refine ⟨?_, ?_, ?_⟩
    · intro descriptor has
      rw [same.listener] at has
      exact before.listener descriptor has
    · intro job has
      rcases same.backward job has with ⟨stage, had⟩
      exact before.job { job with stage := stage } had
    · intro job block has hasBlock
      rcases same.backward job has with ⟨stage, had⟩
      rw [same.block] at hasBlock
      exact before.stored { job with stage := stage } block had hasBlock

/-- `main` hands its connection over to a thread that did not exist. -/
theorem Owns.give (owns : Owns service held) {listen : Descriptor} {job : Job} {block : Address}
    {thread : ThreadAt Address} (mine : held none = ⟨some listen, some job, some block⟩)
    (main : after.main = .accepting listen)
    (threads : after.threads = Function.update service.threads service.threadsCreated (some thread))
    (created : after.threadsCreated = service.threadsCreated + 1)
    (holds : Holds (.thread (some thread)) ⟨none, some job, some block⟩)
    (sockets : after.sockets = service.sockets) (blocks : after.blocks = service.blocks) :
    Owns after (Function.update (Function.update held none ⟨some listen, none, none⟩)
      (some service.threadsCreated) ⟨none, some job, some block⟩) ∧
    held (some service.threadsCreated) = .nothing := by
  have newborn : held (some service.threadsCreated) = .nothing := by
    have there := owns.holds (some service.threadsCreated)
    rw [Service.whereabouts, owns.unborn _ (Nat.le_refl _)] at there
    generalize held (some service.threadsCreated) = goods at there
    cases there
    rfl
  have different : some service.threadsCreated ≠ (none : Party) := Option.some_ne_none _
  have cases : ∀ party, (party = some service.threadsCreated ∧
      Function.update (Function.update held none ⟨some listen, none, none⟩)
        (some service.threadsCreated) ⟨none, some job, some block⟩ party =
          ⟨none, some job, some block⟩) ∨
      (party = none ∧ Function.update (Function.update held none ⟨some listen, none, none⟩)
        (some service.threadsCreated) ⟨none, some job, some block⟩ party =
          ⟨some listen, none, none⟩) ∨
      (party ≠ some service.threadsCreated ∧ party ≠ none ∧
        Function.update (Function.update held none ⟨some listen, none, none⟩)
          (some service.threadsCreated) ⟨none, some job, some block⟩ party = held party) := by
    intro party
    by_cases isThread : party = some service.threadsCreated
    · exact Or.inl ⟨isThread, by rw [isThread, Function.update_self]⟩
    by_cases isMain : party = none
    · refine Or.inr (Or.inl ⟨isMain, ?_⟩)
      rw [isMain, Function.update_of_ne different.symm, Function.update_self]
    · refine Or.inr (Or.inr ⟨isThread, isMain, ?_⟩)
      rw [Function.update_of_ne isThread, Function.update_of_ne isMain]
  have had : InPlace service ⟨some listen, some job, some block⟩ := by
    rw [← mine]
    exact owns.inPlace none
  refine ⟨⟨?_, ?_, ?_, ?_, ?_⟩, newborn⟩
  · intro party
    rcases cases party with ⟨rfl, now⟩ | ⟨rfl, now⟩ | ⟨notThread, notMain, now⟩
    · rw [now, Service.whereabouts, threads, Function.update_self]
      exact holds
    · rw [now, Service.whereabouts, main]
      exact .accepting listen
    · rw [now]
      have before := owns.holds party
      cases party with
      | none => exact absurd rfl notMain
      | some number =>
          have other : number ≠ service.threadsCreated := fun same => notThread (congrArg some same)
          rw [Service.whereabouts, threads, Function.update_of_ne other]
          exact before
  · rw [sockets]
    refine owns.descriptors.given different ?_ ?_ ?_
    · intro descriptor has
      rw [newborn] at has
      rcases has with impossible | ⟨_, impossible, _⟩ <;> cases impossible
    · intro descriptor
      simp [mine, Held.HasDescriptor]
    · intro descriptor isListener isConnection
      have kept : descriptor = listen := by simpa [Held.HasDescriptor, eq_comm] using isListener
      have given : job.descriptor = descriptor := by simpa [Held.HasDescriptor] using isConnection
      have listening := had.listener listen rfl
      rw [← kept, ← given, had.job job rfl] at listening
      cases listening
  · rw [blocks]
    refine owns.blocks.given different ?_ ?_ ?_
    · intro address has
      rw [newborn] at has
      cases has
    · intro address
      simp [mine, Held.HasBlock]
    · intro address has
      cases has
  · intro party
    rcases cases party with ⟨rfl, now⟩ | ⟨rfl, now⟩ | ⟨_, _, now⟩
    · rw [now]
      have all := had.elsewhere sockets blocks
      exact ⟨fun _ impossible => (by cases impossible), all.job, all.stored⟩
    · rw [now]
      have all := had.elsewhere sockets blocks
      exact ⟨all.listener, fun _ impossible => (by cases impossible),
        fun _ _ impossible => (by cases impossible)⟩
    · rw [now]
      exact (owns.inPlace party).elsewhere sockets blocks
  · intro number outside
    rw [created] at outside
    rw [threads, Function.update_of_ne (Nat.ne_of_gt outside)]
    exact owns.unborn number (Nat.le_of_succ_le outside)

end Possessions

end Host
end TrustChain

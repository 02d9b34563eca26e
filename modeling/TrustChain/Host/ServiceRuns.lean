import TrustChain.Host.Parties

namespace TrustChain
namespace Host

open Library Tee

/-!
# Runs of the service

Whatever the order of the steps and whatever the environment answers: nobody
closes, frees, reads or writes what is not there, each connection goes through
the stages of `Conversation`, and the TEE session is open until `main` closes it.
-/

section Tracking

variable {Address : Type}

/-- The context and the session that `main` has open, and the threads that it can
have created. -/
def SessionAt : MainAt Address → (context session : Bool) → (threadsCreated : Nat) → Prop
  | .start, context, session, created => context = false ∧ session = false ∧ created = 0
  | .contextMade, context, session, created => context = true ∧ session = false ∧ created = 0
  | .connected, context, session, created => context = true ∧ session = true ∧ created = 0
  | .socketMade _, context, session, created => context = true ∧ session = true ∧ created = 0
  | .sessionClosed, context, session, _ => context = true ∧ session = false
  | .exited 0, context, session, _ => context = false ∧ session = false
  | .exited _, context, session, created => context = session ∧ created = 0
  | _, context, session, _ => context = true ∧ session = true

structure Tracks (service : Service Address) (stages : Nat → Stage) : Prop where
  owned : ∃ held, Owns service held ∧ Staged service.connectionsAccepted held stages
  session : SessionAt service.main service.context service.session service.threadsCreated
  fault : service.fault = none ∨ (service.fault = some .session ∧ service.main = .sessionClosed) ∨
    service.fault = some .request

variable (overflow : IntOverflow) (jsonLoads : CString → Option Json)

/-- What a step makes of the stages. -/
inductive Advances (stages : Nat → Stage) : Option ServiceEvent × Service Address → Prop
  | silent {after : Service Address} (tracks : Tracks after stages) :
      Advances stages (none, after)
  | emits {event : ServiceEvent} {after : Service Address} (stage : Stage)
      (proceeds : Proceeds overflow jsonLoads event.connection (stages event.connection) event
        stage)
      (tracks : Tracks after (Function.update stages event.connection stage)) :
      Advances stages (some event, after)

end Tracking

section Steps

variable {Address : Type} {service : Service Address}
variable {stages : Nat → Stage} {held : Party → Held Address}
variable (overflow : IntOverflow) (jsonLoads : CString → Option Json)

/-! ## Steps of `main` -/

/-- `main` goes on without opening or closing anything but the session. -/
theorem advances_relocate {main : MainAt Address} {goods : Held Address}
    (owns : Owns service held) (staged : Staged service.connectionsAccepted held stages)
    (noFault : service.fault = none) (mine : held none = goods) (holds : Holds (.main main) goods)
    (context session : Bool) (sessionAt : SessionAt main context session service.threadsCreated) :
    Advances overflow jsonLoads stages
      (none, { service.setMain main with context := context, session := session }) := by
  refine .silent ⟨⟨Function.update held none goods, ?_, staged.keep (by rw [mine])⟩, sessionAt,
    Or.inl noFault⟩
  refine owns.relocate holds (elsewhere_main rfl rfl) ?_ rfl rfl
  rw [mine]
  exact .refl goods

theorem makeSocket_advances (outcomes : StepOutcomes Address) (owns : Owns service held)
    (staged : Staged service.connectionsAccepted held stages) (noFault : service.fault = none)
    (mine : held none = ⟨none, none, none⟩)
    (session : service.context = true ∧ service.session = true ∧ service.threadsCreated = 0) :
    Advances overflow jsonLoads stages (service.makeSocket outcomes) := by
  unfold Service.makeSocket
  rcases session with ⟨isContext, isSession, noThreads⟩
  rcases service.sockets.malloc_cases outcomes.descriptor .listener with
    ⟨_, failed⟩ | ⟨listen, _, free, taken⟩
  · simp only [failed]
    exact advances_relocate overflow jsonLoads owns staged noFault mine (.exited 1 none)
      service.context service.session ⟨isContext.trans isSession.symm, noThreads⟩
  simp only [taken]
  refine .silent ⟨⟨Function.update held none ⟨some listen, none, none⟩, ?_,
    staged.keep (by rw [mine])⟩, ⟨isContext, isSession, noThreads⟩, Or.inl noFault⟩
  refine owns.move (.socketMade listen) (elsewhere_main rfl rfl) ?_ ?_
    ⟨?_, fun _ impossible => (by cases impossible), fun _ _ impossible => (by cases impossible)⟩
  · apply Heap.replaces_acquire (owns.hasDescriptor none) free
    intro other
    simp [Held.HasDescriptor, mine, eq_comm]
  · apply Heap.replaces_same (owns.hasBlock none)
    intro block
    rw [mine]
    rfl
  · intro other has
    cases has
    exact service.sockets.store_self _ _

theorem accept_advances {listen : Descriptor} (outcomes : StepOutcomes Address)
    (owns : Owns service held) (staged : Staged service.connectionsAccepted held stages)
    (noFault : service.fault = none) (mine : held none = ⟨some listen, none, none⟩)
    (isOpen : service.context = true ∧ service.session = true) :
    Advances overflow jsonLoads stages (service.accept listen outcomes) := by
  have listening : service.sockets listen = some .listener :=
    (owns.inPlace none).listener listen (by rw [mine])
  unfold Service.accept
  simp only [listening]
  rcases service.sockets.malloc_cases outcomes.descriptor
      (.connection service.connectionsAccepted) with ⟨_, failed⟩ | ⟨descriptor, _, free, taken⟩
  · simp only [failed]
    exact advances_relocate overflow jsonLoads owns staged noFault mine (.leaving listen)
      service.context service.session isOpen
  simp only [taken]
  have absent := staged.absent service.connectionsAccepted (Nat.le_refl _)
  have other : listen ≠ descriptor := by
    rintro rfl
    rw [listening] at free
    cases free
  refine .emits .waiting ?_ ⟨⟨Function.update held none ⟨some listen,
    some ⟨descriptor, service.connectionsAccepted, .waiting⟩, none⟩, ?_, ?_⟩, isOpen, Or.inl noFault⟩
  · change Proceeds _ _ _ (stages service.connectionsAccepted) _ _
    rw [absent]
    exact .accepted
  · refine owns.move (.accepted listen descriptor _) (elsewhere_main rfl rfl) ?_ ?_ ⟨?_, ?_, ?_⟩
    · apply Heap.replaces_acquire (owns.hasDescriptor none) free
      intro other
      simp [Held.HasDescriptor, mine, eq_comm]
    · apply Heap.replaces_same (owns.hasBlock none)
      intro block
      simp [Held.HasBlock, mine]
    · intro other has
      cases has
      exact (service.sockets.store_of_ne _ other).trans listening
    · intro job has
      cases has
      exact service.sockets.store_self _ _
    · intro job block _ impossible
      cases impossible
  · exact staged.begin descriptor .waiting (by rw [mine]) rfl

/-- A party closes the connection that it works on, and goes on. -/
theorem close_advances {party : Party} {listener : Option Descriptor} {job : Job}
    {block : Option Address} {next : Service Address → Service Address} {after : Service Address}
    (owns : Owns service held) (staged : Staged service.connectionsAccepted held stages)
    (mine : held party = ⟨listener, some job, block⟩)
    (complete : job.stage = .waiting ∨ job.stage = .finished)
    (isAfter : next (service.setSockets (Function.update service.sockets job.descriptor none)) =
      after)
    (holds : Holds (after.whereabouts party) ⟨listener, none, block⟩)
    (elsewhere : Elsewhere service after party)
    (sockets : after.sockets = Function.update service.sockets job.descriptor none)
    (blocks : after.blocks = service.blocks)
    (accepted : after.connectionsAccepted = service.connectionsAccepted)
    (sessionAt : SessionAt after.main after.context after.session after.threadsCreated)
    (noFault : after.fault = none) :
    Advances overflow jsonLoads stages (service.close job.descriptor next) := by
  have had := owns.inPlace party
  rw [mine] at had
  have isConnection := had.job job rfl
  have isOpen : service.sockets job.descriptor ≠ none := by
    rw [isConnection]
    exact Option.some_ne_none _
  have has : (held party).job = some job := by rw [mine]
  have number : service.connectionAt job.descriptor = job.connection := by
    rw [Service.connectionAt, isConnection]
  unfold Service.close
  simp only [Heap.free_eq isOpen, number, isAfter]
  refine .emits .closed ?_ ⟨⟨Function.update held party ⟨listener, none, block⟩, ?_, ?_⟩,
    sessionAt, Or.inl noFault⟩
  · change Proceeds _ _ _ (stages job.connection) _ _
    rw [(staged.staged party job has).1]
    rcases complete with waiting | finished
    · rw [waiting]
      exact .abandoned
    · rw [finished]
      exact .closed
  · refine owns.move holds elsewhere ?_ ?_ ⟨?_, fun _ impossible => (by cases impossible),
      fun _ _ impossible => (by cases impossible)⟩
    · rw [sockets]
      apply Heap.replaces_release (owns.hasDescriptor party)
      · intro other
        simp [Held.HasDescriptor, mine, eq_comm]
      · rintro (listens | ⟨_, impossible, _⟩)
        · have listening := had.listener job.descriptor listens
          rw [isConnection] at listening
          cases listening
        · cases impossible
    · rw [blocks]
      apply Heap.replaces_same (owns.hasBlock party)
      intro other
      rw [mine]
      rfl
    · intro descriptor listens
      have listening := had.listener descriptor listens
      have other : descriptor ≠ job.descriptor := by
        rintro rfl
        rw [isConnection] at listening
        cases listening
      rw [sockets, Function.update_of_ne other]
      exact listening
  · rw [accepted]
    exact staged.finish has rfl

variable [DecidableEq Address]

theorem storeSocket_advances {listen descriptor : Descriptor} {connection : Nat}
    (outcomes : StepOutcomes Address) (owns : Owns service held)
    (staged : Staged service.connectionsAccepted held stages) (noFault : service.fault = none)
    (mine : held none = ⟨some listen, some ⟨descriptor, connection, .waiting⟩, none⟩)
    (isOpen : service.context = true ∧ service.session = true) :
    Advances overflow jsonLoads stages (service.storeSocket listen descriptor outcomes) := by
  unfold Service.storeSocket
  rcases service.blocks.malloc_cases outcomes.block descriptor with
    ⟨_, failed⟩ | ⟨block, _, free, taken⟩
  · simp only [failed]
    exact advances_relocate overflow jsonLoads owns staged noFault mine
      (.givingUp listen descriptor connection) service.context service.session isOpen
  simp only [taken]
  have had := owns.inPlace none
  rw [mine] at had
  refine .silent ⟨⟨Function.update held none
    ⟨some listen, some ⟨descriptor, connection, .waiting⟩, some block⟩, ?_,
    staged.keep (by rw [mine])⟩, isOpen, Or.inl noFault⟩
  refine owns.move (.stored listen descriptor connection block) (elsewhere_main rfl rfl) ?_ ?_
    ⟨had.listener, had.job, ?_⟩
  · apply Heap.replaces_same (owns.hasDescriptor none)
    intro other
    rw [mine]
    rfl
  · apply Heap.replaces_acquire (owns.hasBlock none) free
    intro other
    simp [Held.HasBlock, mine, eq_comm]
  · intro job other hasJob hasBlock
    cases hasJob
    cases hasBlock
    exact service.blocks.store_self _ _

/-- The thread gets the connection with the block, or `main` keeps it without. -/
theorem createThread_advances {listen descriptor : Descriptor} {connection : Nat} {block : Address}
    (outcomes : StepOutcomes Address) (owns : Owns service held)
    (staged : Staged service.connectionsAccepted held stages) (noFault : service.fault = none)
    (mine : held none = ⟨some listen, some ⟨descriptor, connection, .waiting⟩, some block⟩)
    (isOpen : service.context = true ∧ service.session = true) :
    Advances overflow jsonLoads stages
      (service.createThread listen descriptor block outcomes) := by
  unfold Service.createThread
  by_cases created : outcomes.threadCreated = true
  · rw [if_pos created]
    let after : Service Address :=
      { (service.setThread service.threadsCreated (some (.started block))).setMain
          (.accepting listen) with threadsCreated := service.threadsCreated + 1 }
    have given : Owns after _ ∧ _ := owns.give mine rfl rfl rfl
      (.started block descriptor connection) rfl rfl
    refine .silent ⟨⟨_, given.1, staged.give (Option.some_ne_none _) (by rw [mine])
      (by rw [given.2]; rfl) rfl rfl⟩, isOpen, Or.inl noFault⟩
  rw [if_neg created]
  have hasBlock : (held none).HasBlock block := by
    rw [mine]
    exact rfl
  have had := owns.inPlace none
  rw [mine] at had
  simp only [Heap.free_eq (owns.hasBlock none block hasBlock)]
  refine .silent ⟨⟨Function.update held none
    ⟨some listen, some ⟨descriptor, connection, .waiting⟩, none⟩, ?_,
    staged.keep (by rw [mine])⟩, isOpen, Or.inl noFault⟩
  refine owns.move (.givingUp listen descriptor connection) (elsewhere_main rfl rfl) ?_ ?_
    ⟨had.listener, had.job, ?_⟩
  · apply Heap.replaces_same (owns.hasDescriptor none)
    intro other
    rw [mine]
    rfl
  · apply Heap.replaces_release (owns.hasBlock none)
    · intro other
      simp [Held.HasBlock, mine, eq_comm]
    · intro impossible
      cases impossible
  · intro job other _ impossible
    cases impossible

theorem stepMain_advances (outcomes : StepOutcomes Address) (owns : Owns service held)
    (staged : Staged service.connectionsAccepted held stages) (noFault : service.fault = none)
    (session : SessionAt service.main service.context service.session service.threadsCreated) :
    Advances overflow jsonLoads stages (service.stepMain outcomes) := by
  have here := owns.holds none
  generalize mine : held none = goods at here
  unfold Service.stepMain
  rw [Service.whereabouts] at here
  generalize isAt : service.main = main at here session
  cases here with
  | start =>
      rcases session with ⟨noContext, noSession, noThreads⟩
      by_cases made : outcomes.contextMade = true
      · simp only [if_pos made]
        exact advances_relocate overflow jsonLoads owns staged noFault mine .contextMade true
          service.session ⟨rfl, noSession, noThreads⟩
      · simp only [if_neg made]
        exact advances_relocate overflow jsonLoads owns staged noFault mine (.exited 1 none)
          service.context service.session ⟨noContext.trans noSession.symm, noThreads⟩
  | contextMade =>
      rcases session with ⟨isContext, noSession, noThreads⟩
      by_cases isOpened : outcomes.sessionOpened = true
      · simp only [if_pos isOpened]
        exact advances_relocate overflow jsonLoads owns staged noFault mine .serviceConnected
          service.context true ⟨isContext, rfl, noThreads⟩
      · simp only [if_neg isOpened]
        exact advances_relocate overflow jsonLoads owns staged noFault mine (.exited 1 none)
          false service.session ⟨noSession.symm, noThreads⟩
  | serviceConnected =>
      exact makeSocket_advances overflow jsonLoads outcomes owns staged noFault mine session
  | socketMade listen =>
      rcases session with ⟨isContext, isSession, noThreads⟩
      by_cases ready : outcomes.bound = true ∧ outcomes.listening = true
      · simp only [if_pos ready]
        exact advances_relocate overflow jsonLoads owns staged noFault mine (.accepting listen)
          service.context service.session ⟨isContext, isSession⟩
      · simp only [if_neg ready]
        exact advances_relocate overflow jsonLoads owns staged noFault mine
          (.exited 1 (some listen)) service.context service.session
          ⟨isContext.trans isSession.symm, noThreads⟩
  | accepting listen =>
      exact accept_advances overflow jsonLoads outcomes owns staged noFault mine session
  | accepted listen descriptor connection =>
      exact storeSocket_advances overflow jsonLoads outcomes owns staged noFault mine session
  | stored listen descriptor connection block =>
      exact createThread_advances overflow jsonLoads outcomes owns staged noFault mine session
  | givingUp listen descriptor connection =>
      exact close_advances overflow jsonLoads owns staged mine (Or.inl rfl) rfl (.accepting listen)
        (elsewhere_main rfl rfl) rfl rfl rfl session noFault
  | leaving listen =>
      exact advances_relocate overflow jsonLoads owns staged noFault mine (.sessionClosed listen)
        service.context false ⟨session.1, rfl⟩
  | sessionClosed listen =>
      exact advances_relocate overflow jsonLoads owns staged noFault mine (.exited 0 (some listen))
        false service.session ⟨rfl, session.2⟩
  | exited code listen =>
      rw [← isAt] at session
      exact .silent ⟨⟨held, owns, staged⟩, session, Or.inl noFault⟩

/-! ## Steps of a thread -/

section Threads

variable {number : Nat} {block : Address} {job : Job} {thread : ThreadAt Address}

omit [DecidableEq Address] in
/-- The thread brings its connection to another stage. -/
theorem thread_advances (owns : Owns service held)
    (staged : Staged service.connectionsAccepted held stages) (noFault : service.fault = none)
    (session : SessionAt service.main service.context service.session service.threadsCreated)
    (alive : service.threads number ≠ none)
    (mine : held (some number) = ⟨none, some job, some block⟩) (event : ServiceEvent)
    (stage : Stage) (tee : Ta.TaState)
    (holds : Holds (.thread (some thread)) ⟨none, some { job with stage := stage }, some block⟩)
    (isMine : event.connection = job.connection)
    (proceeds : Proceeds overflow jsonLoads job.connection job.stage event stage) :
    Advances overflow jsonLoads stages
      (some event, { service.setThread number (some thread) with tee := tee }) := by
  have has : (held (some number)).job = some job := by rw [mine]
  refine .emits stage ?_ ⟨⟨Function.update held (some number)
    ⟨none, some { job with stage := stage }, some block⟩, ?_, ?_⟩, session, Or.inl noFault⟩
  · rw [isMine, (staged.staged _ job has).1]
    exact proceeds
  · refine owns.relocate ?_ (elsewhere_thread rfl rfl rfl alive) ?_ rfl rfl
    · have there : (service.setThread number (some thread)).threads number = some thread :=
        Function.update_self _ _ _
      change Holds (.thread ((service.setThread number (some thread)).threads number)) _
      rw [there]
      exact holds
    · rw [mine]
      exact .atStage none job stage (some block)
  · rw [isMine]
    exact staged.advance stage has rfl

omit [DecidableEq Address] in
/-- What a request leads to, in the service as on the connection by itself. -/
theorem afterRequest_proceeds {outcomes : StepOutcomes Address} {descriptor : Descriptor}
    {received : Received} {connection : Nat}
    (goes : Service.afterRequest overflow jsonLoads outcomes block descriptor received =
      some thread) :
    ∃ stage, Holds (.thread (some thread)) ⟨none, some ⟨descriptor, connection, stage⟩, some block⟩ ∧
      Proceeds overflow jsonLoads connection .waiting (.received connection received) stage := by
  unfold Service.afterRequest at goes
  cases outcome : handleClient overflow outcomes.requestLocals received with
  | undefined =>
      rw [outcome] at goes
      cases goes
  | written response =>
      rw [outcome] at goes
      cases goes
      exact ⟨_, .writing block descriptor connection response, .written _ received response outcome⟩
  | replied reply =>
      rw [outcome] at goes
      cases goes
      refine ⟨_, .writing block descriptor connection _,
        .replied outcomes.requestLocals outcomes.locals received reply ?_⟩
      rw [outcome]
      rfl
  | dispatched request =>
      rw [outcome] at goes
      cases handled : handle jsonLoads outcomes.locals request with
      | replied reply =>
          simp only [handled] at goes
          cases goes
          refine ⟨_, .writing block descriptor connection _,
            .replied outcomes.requestLocals outcomes.locals received reply ?_⟩
          rw [outcome]
          exact congrArg some handled
      | invoked invocation reply =>
          simp only [handled] at goes
          cases goes
          refine ⟨_, .asking block descriptor connection invocation reply,
            .asked outcomes.requestLocals outcomes.locals received invocation reply ?_⟩
          rw [outcome]
          exact congrArg some handled

omit [DecidableEq Address] in
/-- A fault that can occur. -/
theorem fails_advances (owns : Owns service held)
    (staged : Staged service.connectionsAccepted held stages)
    (session : SessionAt service.main service.context service.session service.threadsCreated)
    (fault : Fault)
    (possible : (fault = .session ∧ service.main = .sessionClosed) ∨ fault = .request) :
    Advances overflow jsonLoads stages (service.fails fault) := by
  refine .silent ⟨⟨held, ?_, staged⟩, session, Or.inr ?_⟩
  · exact ⟨owns.holds, owns.descriptors, owns.blocks, fun party =>
      (owns.inPlace party).elsewhere rfl rfl, owns.unborn⟩
  · rcases possible with ⟨rfl, isClosed⟩ | rfl
    · exact Or.inl ⟨rfl, isClosed⟩
    · exact Or.inr rfl

omit [DecidableEq Address] in
theorem receive_advances {descriptor : Descriptor} {connection : Nat}
    (outcomes : StepOutcomes Address) (owns : Owns service held)
    (staged : Staged service.connectionsAccepted held stages) (noFault : service.fault = none)
    (session : SessionAt service.main service.context service.session service.threadsCreated)
    (alive : service.threads number ≠ none)
    (mine : held (some number) = ⟨none, some ⟨descriptor, connection, .waiting⟩, some block⟩) :
    Advances overflow jsonLoads stages
      (service.receive overflow jsonLoads number block descriptor outcomes) := by
  have had := owns.inPlace (some number)
  rw [mine] at had
  have isConnection := had.job _ rfl
  unfold Service.receive
  simp only [isConnection]
  cases outcomes.received with
  | none =>
      exact thread_advances overflow jsonLoads owns staged noFault session alive mine
        (.hungUp connection) .finished service.tee (.closing block descriptor connection) rfl .hungUp
  | some received =>
      cases goes : Service.afterRequest overflow jsonLoads outcomes block descriptor received with
      | none =>
          simp only [goes]
          exact fails_advances overflow jsonLoads owns staged session .request (Or.inr rfl)
      | some thread =>
          simp only [goes]
          rcases afterRequest_proceeds overflow jsonLoads goes with ⟨stage, holds, proceeds⟩
          exact thread_advances overflow jsonLoads owns staged noFault session alive mine
            (.received connection received) stage service.tee holds rfl proceeds

omit [DecidableEq Address] in
theorem write_advances {descriptor : Descriptor} {connection : Nat} {response : CString}
    (owns : Owns service held)
    (staged : Staged service.connectionsAccepted held stages) (noFault : service.fault = none)
    (session : SessionAt service.main service.context service.session service.threadsCreated)
    (alive : service.threads number ≠ none)
    (mine : held (some number) =
      ⟨none, some ⟨descriptor, connection, .answering response⟩, some block⟩) :
    Advances overflow jsonLoads stages (service.write number block descriptor response) := by
  have had := owns.inPlace (some number)
  rw [mine] at had
  have isConnection := had.job _ rfl
  unfold Service.write
  simp only [isConnection]
  exact thread_advances overflow jsonLoads owns staged noFault session alive mine
    (.answered connection response) .finished service.tee (.closing block descriptor connection) rfl
    (.answered response)

omit [DecidableEq Address] in
theorem respond_invoked (primitives : Primitives) (outcomes : Ta.CallOutcomes)
    (memory : SecureMemory) (tee : Ta.TaState) (invocation : Invocation)
    (reply : Option TeecOperation → Reply) :
    respond primitives outcomes memory tee (.invoked invocation reply) =
      (replyTo invocation reply memory (Ta.taInvokeCommandEntryPoint primitives tee
          (invocation.call memory.behind outcomes)).1,
        (Ta.taInvokeCommandEntryPoint primitives tee
          (invocation.call memory.behind outcomes)).2) := by
  rcases result : Ta.taInvokeCommandEntryPoint primitives tee
      (invocation.call memory.behind outcomes) with ⟨code | output, after⟩
  · simp only [respond, result, replyTo]
  · simp only [respond, result, replyTo]

omit [DecidableEq Address] in
/-- Where `main` is when a thread finds the session closed. -/
theorem sessionClosed_of_thread (owns : Owns service held)
    (session : SessionAt service.main service.context service.session service.threadsCreated)
    (running : ∀ code, service.main ≠ .exited code) (alive : service.threads number ≠ none)
    (noSession : service.session = false) : service.main = .sessionClosed := by
  have someThread : service.threadsCreated ≠ 0 := by
    intro none
    exact alive (owns.unborn number (by omega))
  rw [noSession] at session
  cases isAt : service.main with
  | exited code => exact absurd isAt (running code)
  | sessionClosed => rfl
  | start =>
      rw [isAt] at session
      exact absurd session.2.2 someThread
  | contextMade =>
      rw [isAt] at session
      exact absurd session.2.2 someThread
  | _ =>
      rw [isAt] at session
      rcases session with ⟨_, impossible⟩
      simp at impossible

omit [DecidableEq Address] in
theorem invoke_advances (primitives : Primitives) {descriptor : Descriptor} {connection : Nat}
    {invocation : Invocation} {reply : Option TeecOperation → Reply}
    (outcomes : StepOutcomes Address) (owns : Owns service held)
    (staged : Staged service.connectionsAccepted held stages) (noFault : service.fault = none)
    (session : SessionAt service.main service.context service.session service.threadsCreated)
    (running : ∀ code, service.main ≠ .exited code) (alive : service.threads number ≠ none)
    (mine : held (some number) =
      ⟨none, some ⟨descriptor, connection, .asking invocation reply⟩, some block⟩) :
    Advances overflow jsonLoads stages
      (service.invoke primitives number block descriptor invocation reply outcomes) := by
  have had := owns.inPlace (some number)
  rw [mine] at had
  have isConnection := had.job _ rfl
  have isNumber : service.connectionAt descriptor = connection := by
    rw [Service.connectionAt, isConnection]
  unfold Service.invoke
  simp only [isNumber]
  by_cases noSession : service.session = false
  · rw [if_pos noSession]
    exact fails_advances overflow jsonLoads owns staged session .session
      (Or.inl ⟨rfl, sessionClosed_of_thread owns session running alive noSession⟩)
  rw [if_neg noSession]
  by_cases lost : outcomes.delivered = false
  · rw [if_pos lost]
    exact thread_advances overflow jsonLoads owns staged noFault session alive mine
      (.undelivered connection) _ service.tee (.writing block descriptor connection _) rfl
      (.undelivered invocation reply)
  · rw [if_neg lost, respond_invoked]
    exact thread_advances overflow jsonLoads owns staged noFault session alive mine
      (.invoked connection _ _) _ _ (.writing block descriptor connection _) rfl
      (.invoked invocation reply outcomes.command outcomes.memory _)

omit [DecidableEq Address] in
/-- The thread reads the descriptor from its block. -/
theorem start_advances {descriptor : Descriptor} {connection : Nat} (owns : Owns service held)
    (staged : Staged service.connectionsAccepted held stages) (noFault : service.fault = none)
    (session : SessionAt service.main service.context service.session service.threadsCreated)
    (alive : service.threads number ≠ none)
    (mine : held (some number) = ⟨none, some ⟨descriptor, connection, .waiting⟩, some block⟩) :
    Advances overflow jsonLoads stages
      (none, service.setThread number (some (.connected block descriptor))) := by
  refine .silent ⟨⟨Function.update held (some number)
    ⟨none, some ⟨descriptor, connection, .waiting⟩, some block⟩, ?_, staged.keep (by rw [mine])⟩,
    session, Or.inl noFault⟩
  refine owns.relocate ?_ (elsewhere_thread rfl rfl rfl alive) ?_ rfl rfl
  · have there : (service.setThread number (some (.connected block descriptor))).threads number =
        some (.connected block descriptor) := Function.update_self _ _ _
    rw [Service.whereabouts, there]
    exact .connected block descriptor connection
  · rw [mine]
    exact .refl _

/-- The thread frees its block and ends. -/
theorem free_advances (owns : Owns service held)
    (staged : Staged service.connectionsAccepted held stages) (noFault : service.fault = none)
    (session : SessionAt service.main service.context service.session service.threadsCreated)
    (alive : service.threads number ≠ none)
    (mine : held (some number) = ⟨none, none, some block⟩) :
    Advances overflow jsonLoads stages
      (none, (service.setBlocks (Function.update service.blocks block none)).setThread number
        none) := by
  refine .silent ⟨⟨Function.update held (some number) ⟨none, none, none⟩, ?_,
    staged.keep (by rw [mine])⟩, session, Or.inl noFault⟩
  refine owns.move ?_ (elsewhere_thread rfl rfl rfl alive) ?_ ?_
    ⟨fun _ impossible => (by cases impossible), fun _ impossible => (by cases impossible),
      fun _ _ impossible => (by cases impossible)⟩
  · have there : ((service.setBlocks (Function.update service.blocks block none)).setThread number
        none).threads number = none := Function.update_self _ _ _
    rw [Service.whereabouts, there]
    exact .finished
  · apply Heap.replaces_same (owns.hasDescriptor (some number))
    intro other
    simp [Held.HasDescriptor, mine]
  · apply Heap.replaces_release (owns.hasBlock (some number))
    · intro other
      simp [Held.HasBlock, mine, eq_comm]
    · intro impossible
      cases impossible

theorem stepThread_advances (primitives : Primitives) (outcomes : StepOutcomes Address)
    (number : Nat) (owns : Owns service held)
    (staged : Staged service.connectionsAccepted held stages) (noFault : service.fault = none)
    (session : SessionAt service.main service.context service.session service.threadsCreated)
    (running : ∀ code, service.main ≠ .exited code) :
    Advances overflow jsonLoads stages
      (service.stepThread overflow jsonLoads primitives number outcomes) := by
  have here := owns.holds (some number)
  have had := owns.inPlace (some number)
  generalize mine : held (some number) = goods at here had
  unfold Service.stepThread
  rw [Service.whereabouts] at here
  cases isAt : service.threads number with
  | none => exact .silent ⟨⟨held, owns, staged⟩, session, Or.inl noFault⟩
  | some thread =>
      have alive : service.threads number ≠ none := by
        rw [isAt]
        exact Option.some_ne_none _
      rw [isAt] at here
      cases here with
      | started block descriptor connection =>
          simp only [had.stored _ block rfl rfl]
          exact start_advances overflow jsonLoads owns staged noFault session alive mine
      | connected block descriptor connection =>
          exact receive_advances overflow jsonLoads outcomes owns staged noFault session alive mine
      | asking block descriptor connection invocation reply =>
          exact invoke_advances overflow jsonLoads primitives outcomes owns staged noFault session
            running alive mine
      | writing block descriptor connection response =>
          exact write_advances overflow jsonLoads owns staged noFault session alive mine
      | closing block descriptor connection =>
          refine close_advances overflow jsonLoads owns staged mine (Or.inr rfl) rfl ?_
            (elsewhere_thread rfl rfl rfl alive) rfl rfl rfl session noFault
          exact Eq.subst (motive := fun thread => Holds (.thread thread) _)
            (Function.update_self number (some (.freeing block)) service.threads).symm
            (.freeing block)
      | freeing block =>
          have hasBlock : (held (some number)).HasBlock block := by
            rw [mine]
            exact rfl
          simp only [Heap.free_eq (owns.hasBlock _ block hasBlock)]
          exact free_advances overflow jsonLoads owns staged noFault session alive mine

end Threads

/-! ## All steps -/

theorem step_advances (primitives : Primitives) (action : Action Address)
    (tracks : Tracks service stages) :
    Advances overflow jsonLoads stages (service.step overflow jsonLoads primitives action) := by
  rcases tracks.owned with ⟨held, owns, staged⟩
  unfold Service.step
  cases noFault : service.fault with
  | some fault => exact .silent tracks
  | none =>
      cases isAt : service.main with
      | exited code => exact .silent tracks
      | _ =>
          have running : ∀ code, service.main ≠ .exited code := by
            intro code impossible
            rw [isAt] at impossible
            cases impossible
          cases action.turn with
          | main =>
              exact stepMain_advances overflow jsonLoads action.outcomes owns staged noFault
                tracks.session
          | thread number =>
              exact stepThread_advances overflow jsonLoads primitives action.outcomes number owns
                staged noFault tracks.session running

end Steps

/-! ## The trusted application behind the steps -/

section Commands

variable {Address : Type} [DecidableEq Address] (primitives : Primitives)
variable (service : Service Address) (outcomes : StepOutcomes Address)

/-- A step is one command, or the trusted application does not notice it. -/
inductive CommandOrNone : Option ServiceEvent × Service Address → Prop
  | none {event : Option ServiceEvent} {after : Service Address}
      (noCall : event.bind ServiceEvent.call = none) (same : after.tee = service.tee) :
      CommandOrNone (event, after)
  | command (connection : Nat) (call : Ta.Call) {after : Service Address}
      (tee : after.tee = (Ta.taInvokeCommandEntryPoint primitives service.tee call).2) :
      CommandOrNone (some (.invoked connection call
        (Ta.taInvokeCommandEntryPoint primitives service.tee call).1), after)

omit [DecidableEq Address] in
theorem close_commandOrNone (descriptor : Descriptor) (next : Service Address → Service Address)
    (kept : ∀ other : Service Address, (next other).tee = other.tee) :
    CommandOrNone primitives service (service.close descriptor next) := by
  unfold Service.close
  split
  · exact .none rfl rfl
  · exact .none rfl (kept _)

theorem stepMain_commandOrNone : CommandOrNone primitives service (service.stepMain outcomes) := by
  unfold Service.stepMain
  cases service.main with
  | start =>
      by_cases made : outcomes.contextMade = true
      · simp only [if_pos made]
        exact .none rfl rfl
      · simp only [if_neg made]
        exact .none rfl rfl
  | contextMade =>
      by_cases isOpened : outcomes.sessionOpened = true
      · simp only [if_pos isOpened]
        exact .none rfl rfl
      · simp only [if_neg isOpened]
        exact .none rfl rfl
  | connected =>
      unfold Service.makeSocket
      dsimp only
      split
      · exact .none rfl rfl
      · exact .none rfl rfl
  | socketMade listen =>
      by_cases ready : outcomes.bound = true ∧ outcomes.listening = true
      · simp only [if_pos ready]
        exact .none rfl rfl
      · simp only [if_neg ready]
        exact .none rfl rfl
  | accepting listen =>
      unfold Service.accept
      dsimp only
      split
      · split
        · exact .none rfl rfl
        · exact .none rfl rfl
      · exact .none rfl rfl
  | accepted listen descriptor =>
      unfold Service.storeSocket
      dsimp only
      split
      · exact .none rfl rfl
      · exact .none rfl rfl
  | stored listen descriptor block =>
      unfold Service.createThread
      dsimp only
      split
      · exact .none rfl rfl
      · split
        · exact .none rfl rfl
        · exact .none rfl rfl
  | givingUp listen descriptor =>
      exact close_commandOrNone primitives service descriptor _ fun _ => rfl
  | leaving => exact .none rfl rfl
  | sessionClosed => exact .none rfl rfl
  | exited code => exact .none rfl rfl

theorem stepThread_commandOrNone (overflow : IntOverflow) (jsonLoads : CString → Option Json)
    (number : Nat) : CommandOrNone primitives service
      (service.stepThread overflow jsonLoads primitives number outcomes) := by
  unfold Service.stepThread
  cases service.threads number with
  | none => exact .none rfl rfl
  | some thread =>
      cases thread with
      | started block =>
          dsimp only
          split
          · exact .none rfl rfl
          · exact .none rfl rfl
      | connected block descriptor =>
          unfold Service.receive
          dsimp only
          split
          · split
            · exact .none rfl rfl
            · split
              · exact .none rfl rfl
              · exact .none rfl rfl
          · exact .none rfl rfl
      | asking block descriptor invocation reply =>
          unfold Service.invoke
          by_cases noSession : service.session = false
          · simp only [if_pos noSession]
            exact .none rfl rfl
          by_cases lost : outcomes.delivered = false
          · simp only [if_neg noSession, if_pos lost]
            exact .none rfl rfl
          · simp only [if_neg noSession, if_neg lost, respond_invoked]
            exact .command _ _ rfl
      | writing block descriptor response =>
          unfold Service.write
          dsimp only
          split
          · exact .none rfl rfl
          · exact .none rfl rfl
      | closing block descriptor =>
          exact close_commandOrNone primitives service descriptor _ fun _ => rfl
      | freeing block =>
          dsimp only
          split
          · exact .none rfl rfl
          · exact .none rfl rfl

theorem step_commandOrNone (overflow : IntOverflow) (jsonLoads : CString → Option Json)
    (action : Action Address) : CommandOrNone primitives service
      (service.step overflow jsonLoads primitives action) := by
  unfold Service.step
  cases service.fault with
  | some fault => exact .none rfl rfl
  | none =>
      cases service.main with
      | exited code => exact .none rfl rfl
      | _ =>
          cases action.turn with
          | main => exact stepMain_commandOrNone primitives service action.outcomes
          | thread number =>
              exact stepThread_commandOrNone primitives service action.outcomes overflow jsonLoads
                number

end Commands

/-! ## All runs -/

section Runs

variable (Address : Type) [DecidableEq Address] (overflow : IntOverflow)
  (jsonLoads : CString → Option Json) (primitives : Primitives) (store : Ta.KeyStore)

omit [DecidableEq Address] in
theorem initialService_tracks : Tracks (initialService Address store) fun _ => .absent where
  owned := by
    refine ⟨fun _ => .nothing, ⟨?_, ?_, ?_, ?_, fun _ _ => rfl⟩, ⟨?_, ?_, fun _ _ => rfl, ?_⟩⟩
    · intro party
      cases party with
      | none => exact .start
      | some number => exact .finished
    · apply Heap.ownedBy_empty
      rintro party descriptor (impossible | ⟨_, impossible, _⟩) <;> cases impossible
    · apply Heap.ownedBy_empty
      intro party block impossible
      cases impossible
    · intro party
      exact ⟨fun _ impossible => (by cases impossible), fun _ impossible => (by cases impossible),
        fun _ _ impossible => (by cases impossible)⟩
    · intro party job impossible
      cases impossible
    · intro party other job otherJob impossible
      cases impossible
    · intro connection impossible
      exact absurd impossible (Nat.not_lt_zero connection)
  session := ⟨rfl, rfl, rfl⟩
  fault := Or.inl rfl

theorem httpService_interleaves :
    (httpService Address overflow jsonLoads primitives store).Interleaves
      ServiceEvent.connection .absent (Proceeds overflow jsonLoads) Tracks where
  atStart := initialService_tracks Address store
  silent := fun service stages action tracks answered => by
    have advances := step_advances overflow jsonLoads primitives action tracks
    change (service.step overflow jsonLoads primitives action).1 = none at answered
    change Tracks (service.step overflow jsonLoads primitives action).2 stages
    generalize service.step overflow jsonLoads primitives action = result at advances answered
    cases advances with
    | silent tracks => exact tracks
    | emits stage proceeds tracks => cases answered
  emits := fun service stages action event tracks answered => by
    have advances := step_advances overflow jsonLoads primitives action tracks
    change (service.step overflow jsonLoads primitives action).1 = some event at answered
    change ∃ stage, _ ∧ Tracks (service.step overflow jsonLoads primitives action).2 _
    generalize service.step overflow jsonLoads primitives action = result at advances answered
    cases advances with
    | silent tracks => cases answered
    | emits stage proceeds tracks =>
        cases answered
        exact ⟨stage, proceeds, tracks⟩

theorem httpService_drives :
    (httpService Address overflow jsonLoads primitives store).Drives
      (Ta.trustedApplication primitives store) ServiceEvent.call Service.tee where
  atStart := rfl
  silent := fun service action answered => by
    have step := step_commandOrNone primitives service overflow jsonLoads action
    change (service.step overflow jsonLoads primitives action).1 = none at answered
    change (service.step overflow jsonLoads primitives action).2.tee = service.tee
    generalize service.step overflow jsonLoads primitives action = result at step answered
    cases step with
    | none noCall same => exact same
    | command connection call tee => cases answered
  passes := fun service action event answered noCall => by
    have step := step_commandOrNone primitives service overflow jsonLoads action
    change (service.step overflow jsonLoads primitives action).1 = some event at answered
    change (service.step overflow jsonLoads primitives action).2.tee = service.tee
    generalize service.step overflow jsonLoads primitives action = result at step answered
    cases step with
    | none _ same => exact same
    | command connection call tee =>
        cases answered
        cases noCall
  call := fun service action event argument answer answered isCall => by
    have step := step_commandOrNone primitives service overflow jsonLoads action
    change (service.step overflow jsonLoads primitives action).1 = some event at answered
    change (Ta.trustedApplication primitives store).step service.tee argument =
      (answer, (service.step overflow jsonLoads primitives action).2.tee)
    generalize service.step overflow jsonLoads primitives action = result at step answered
    cases step with
    | none noCall _ =>
        cases answered
        have noCall : event.call = none := noCall
        rw [noCall] at isCall
        cases isCall
    | command connection call tee =>
        cases answered
        cases isCall
        exact Prod.ext rfl tee.symm

/-- `main` waits for the next connection, and no thread is left. -/
def Service.Idle {Address : Type} (service : Service Address) (listenSocket : Descriptor) : Prop :=
  service.main = .accepting listenSocket ∧ ∀ number, service.threads number = none

omit [DecidableEq Address] in
theorem Owns.idle {service : Service Address} {held : Party → Held Address}
    (owns : Owns service held) {listen : Descriptor} (idle : service.Idle listen) (party : Party) :
    held party = .nothing ∨ (party = none ∧ held party = ⟨some listen, none, none⟩) := by
  have here := owns.holds party
  cases party with
  | none =>
      rw [Service.whereabouts, idle.1] at here
      generalize held none = goods at here
      cases here
      exact Or.inr ⟨rfl, rfl⟩
  | some number =>
      rw [Service.whereabouts, idle.2 number] at here
      generalize held (some number) = goods at here
      cases here
      exact Or.inl rfl

omit [DecidableEq Address] in
theorem Owns.idle_sockets {service : Service Address} {held : Party → Held Address}
    (owns : Owns service held) {listen : Descriptor} (idle : service.Idle listen)
    (descriptor : Descriptor) : service.sockets descriptor ≠ none ↔ descriptor = listen := by
  rw [owns.descriptors.allocated]
  constructor
  · rintro ⟨party, has⟩
    rcases owns.idle Address idle party with nothing | ⟨_, listens⟩
    · rw [nothing] at has
      rcases has with impossible | ⟨_, impossible, _⟩ <;> cases impossible
    · rw [listens] at has
      rcases has with same | ⟨_, impossible, _⟩
      · cases same
        rfl
      · cases impossible
  · rintro rfl
    refine ⟨none, ?_⟩
    rcases owns.idle Address idle none with nothing | ⟨_, listens⟩
    · have here := owns.holds none
      rw [nothing, Service.whereabouts, idle.1] at here
      cases here
    · rw [listens]
      exact Or.inl rfl

omit [DecidableEq Address] in
theorem Owns.idle_blocks {service : Service Address} {held : Party → Held Address}
    (owns : Owns service held) {listen : Descriptor} (idle : service.Idle listen)
    (block : Address) : service.blocks block = none := by
  by_contra isAllocated
  rcases (owns.blocks.allocated block).mp isAllocated with ⟨party, has⟩
  rcases owns.idle Address idle party with nothing | ⟨_, listens⟩
  · rw [nothing] at has
    cases has
  · rw [listens] at has
    cases has

variable (actions : List (Action Address))

/-- Nobody ever closes, reads, writes or frees what is not there; everything that is
open or allocated has one owner, and each party goes on to work on its own; and
whenever the service is idle, the listening socket is all that is open, and no
`new_socket` is allocated. -/
theorem service_releases :
    ((httpService Address overflow jsonLoads primitives store).run actions).fault ≠
        some .descriptor ∧
      ((httpService Address overflow jsonLoads primitives store).run actions).fault ≠
        some .memory ∧
      (∃ held : Party → Held Address,
        Owns ((httpService Address overflow jsonLoads primitives store).run actions) held ∧
        (∀ party descriptor, (((httpService Address overflow jsonLoads primitives store).run
            actions).whereabouts party).descriptor = some descriptor →
          (held party).HasDescriptor descriptor) ∧
        ∀ party block, (((httpService Address overflow jsonLoads primitives store).run
            actions).whereabouts party).block = some block → (held party).HasBlock block) ∧
      ∀ listen, ((httpService Address overflow jsonLoads primitives store).run actions).Idle listen →
        (∀ descriptor, ((httpService Address overflow jsonLoads primitives store).run
          actions).sockets descriptor ≠ none ↔ descriptor = listen) ∧
        ∀ block, ((httpService Address overflow jsonLoads primitives store).run
          actions).blocks block = none := by
  rcases (httpService_interleaves Address overflow jsonLoads primitives store).run actions with
    ⟨stages, tracks, _⟩
  generalize (httpService Address overflow jsonLoads primitives store).run actions = service at tracks
  rcases tracks.owned with ⟨held, owns, _⟩
  refine ⟨?_, ?_, ?_, ?_⟩
  · rcases tracks.fault with fault | ⟨fault, _⟩ | fault <;> rw [fault] <;> decide
  · rcases tracks.fault with fault | ⟨fault, _⟩ | fault <;> rw [fault] <;> decide
  · exact ⟨held, owns, fun party descriptor works => (owns.holds party).descriptor works,
      fun party block works => (owns.holds party).block works⟩
  · exact fun listen idle => ⟨owns.idle_sockets Address idle, owns.idle_blocks Address idle⟩

/-- However the threads are interleaved, the events of each connection follow the
protocol of a single connection, with one command, one answer and one closing at
most; and whenever the service is idle, each connection has come to its end. -/
theorem service_conversations :
    ∃ stages : Nat → Stage,
      (∀ connection, Path (Proceeds overflow jsonLoads connection) .absent
        ((httpService Address overflow jsonLoads primitives store).conversation
          ServiceEvent.connection actions connection) (stages connection)) ∧
      (∀ connection, ∀ kind ∈ [ServiceEvent.isInvoked, ServiceEvent.isAnswered, ServiceEvent.isClosed],
        (((httpService Address overflow jsonLoads primitives store).conversation
          ServiceEvent.connection actions connection).filter kind).length ≤ 1) ∧
      ∀ listen, ((httpService Address overflow jsonLoads primitives store).run actions).Idle listen →
        ∀ connection, connection < ((httpService Address overflow jsonLoads primitives store).run
          actions).connectionsAccepted → stages connection = .closed := by
  rcases (httpService_interleaves Address overflow jsonLoads primitives store).run actions with
    ⟨stages, tracks, paths⟩
  refine ⟨stages, paths, ?_, ?_⟩
  · intro connection kind member
    simp only [List.mem_cons, List.not_mem_nil, or_false] at member
    rcases member with rfl | rfl | rfl
    · exact at_most_one_of_rank (paths connection) _ 3 fun _ _ _ => Proceeds.invoked_rank
    · exact at_most_one_of_rank (paths connection) _ 4 fun _ _ _ => Proceeds.answered_rank
    · exact at_most_one_of_rank (paths connection) _ 5 fun _ _ _ => Proceeds.closed_rank
  · intro listen idle connection older
    rcases tracks.owned with ⟨held, owns, staged⟩
    rcases staged.closed connection older with closed | ⟨party, job, has, _⟩
    · exact closed
    · rcases owns.idle Address idle party with nothing | ⟨_, listens⟩
      · rw [nothing] at has
        cases has
      · rw [listens] at has
        cases has

/-- The session is open as long as `main` serves, and closed, with the context,
when `main` returns 0; a thread can find it closed only in between. -/
theorem service_session :
    SessionAt ((httpService Address overflow jsonLoads primitives store).run actions).main
        ((httpService Address overflow jsonLoads primitives store).run actions).context
        ((httpService Address overflow jsonLoads primitives store).run actions).session
        ((httpService Address overflow jsonLoads primitives store).run actions).threadsCreated ∧
      (((httpService Address overflow jsonLoads primitives store).run actions).fault =
          some .session →
        ((httpService Address overflow jsonLoads primitives store).run actions).main =
          .sessionClosed) := by
  rcases (httpService_interleaves Address overflow jsonLoads primitives store).run actions with
    ⟨stages, tracks, _⟩
  refine ⟨tracks.session, ?_⟩
  intro isFault
  rcases tracks.fault with fault | ⟨_, isClosed⟩ | fault
  · rw [fault] at isFault
    cases isFault
  · exact isClosed
  · rw [fault] at isFault
    cases isFault

end Runs

end Host
end TrustChain

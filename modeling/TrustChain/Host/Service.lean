import TrustChain.Host.HttpRequest
import TrustChain.Host.InitRepoAnswer
import TrustChain.Library.Interleaving
import TrustChain.Library.Ownership

namespace TrustChain
namespace Host

open Library Tee

/-!
# The service and its threads

`main` connects to the trusted application, listens, and starts a thread for
each connection; the thread receives a request, answers it and closes the
connection.  The threads share the descriptors of the process, the heap and the
TEE session.  A step is what one of them does up to its next call of the system
or of the TEE, and the steps come in any order.  One session runs one command at
a time.

What is closed, freed, read or written must be there; if it is not, the step is
a fault and nothing happens any more.  So is a call on a session that has been
closed, and a request for which the language gives `handle_http_request` no
meaning: one with a method or a path that is too long for its array, or with a
number that `atoi` does not have to convert.  From there on the process does
nothing in this model, whatever it would do.

A `write` always reaches the client; that it fails, or kills the process because
the client has gone, does not occur.  Of the heap only the blocks of `new_socket`
are kept account of.
-/

/-! ## State -/

/-- A file descriptor. -/
abbrev Descriptor := Nat

/-- What is behind an open descriptor.  Connections are numbered as they come. -/
inductive Socket
  | listener
  | connection (number : Nat)

/-- Where `main` is. -/
inductive MainAt (Address : Type)
  | start
  | contextMade
  | connected
  | socketMade (listenSocket : Descriptor)
  | accepting (listenSocket : Descriptor)
  | accepted (listenSocket connectionSocket : Descriptor)
  | stored (listenSocket connectionSocket : Descriptor) (newSocket : Address)
  | givingUp (listenSocket connectionSocket : Descriptor)
  | leaving
  | sessionClosed
  | exited (code : Nat)

/-- Where a thread in `handle_client` is, with the `socket_desc` that it has to
free. -/
inductive ThreadAt (Address : Type)
  | started (socketDesc : Address)
  | connected (socketDesc : Address) (connectionSocket : Descriptor)
  | asking (socketDesc : Address) (connectionSocket : Descriptor) (invocation : Invocation)
      (reply : Option TeecOperation → Reply)
  | writing (socketDesc : Address) (connectionSocket : Descriptor) (response : CString)
  | closing (socketDesc : Address) (connectionSocket : Descriptor)
  | freeing (socketDesc : Address)

inductive Fault
  | descriptor
  | memory
  | session
  | request
  deriving DecidableEq

structure Service (Address : Type) where
  main : MainAt Address
  threads : Nat → Option (ThreadAt Address)
  threadsCreated : Nat
  connectionsAccepted : Nat
  sockets : Heap Descriptor Socket
  blocks : Heap Address Descriptor
  context : Bool
  session : Bool
  tee : Ta.TaState
  fault : Option Fault

/-- Every answer of the environment to one step.  A descriptor or an address that
is in use cannot be handed out, so naming one is as good as a failure. -/
structure StepOutcomes (Address : Type) where
  contextMade : Bool
  sessionOpened : Bool
  descriptor : Option Descriptor
  bound : Bool
  listening : Bool
  block : Option Address
  threadCreated : Bool
  received : Option Received
  requestLocals : RequestLocals
  locals : Locals
  delivered : Bool
  command : Ta.CallOutcomes
  memory : SecureMemory

/-- Whose turn it is. -/
inductive Turn
  | main
  | thread (number : Nat)

structure Action (Address : Type) where
  turn : Turn
  outcomes : StepOutcomes Address

/-- What can be seen of a step: each event belongs to a connection. -/
inductive ServiceEvent
  | accepted (connection : Nat)
  | received (connection : Nat) (received : Received)
  | hungUp (connection : Nat)
  | undelivered (connection : Nat)
  | invoked (connection : Nat) (call : Ta.Call) (answer : TeeResult Ta.Output)
  | answered (connection : Nat) (response : CString)
  | closed (connection : Nat)

def ServiceEvent.connection : ServiceEvent → Nat
  | accepted connection => connection
  | received connection _ => connection
  | hungUp connection => connection
  | undelivered connection => connection
  | invoked connection _ _ => connection
  | answered connection _ => connection
  | closed connection => connection

/-- The command that an event consists of. -/
def ServiceEvent.call : ServiceEvent → Option (Ta.Call × TeeResult Ta.Output)
  | invoked _ call answer => some (call, answer)
  | _ => none

namespace Service

section Steps

variable {Address : Type} [DecidableEq Address] (service : Service Address)

def fails (fault : Fault) : Option ServiceEvent × Service Address :=
  (none, { service with fault := some fault })

def setMain (main : MainAt Address) : Service Address := { service with main := main }

def setThread (number : Nat) (thread : Option (ThreadAt Address)) : Service Address :=
  { service with threads := Function.update service.threads number thread }

def setSockets (sockets : Heap Descriptor Socket) : Service Address :=
  { service with sockets := sockets }

def setBlocks (blocks : Heap Address Descriptor) : Service Address :=
  { service with blocks := blocks }

/-- The number of the connection behind a descriptor, for the events only. -/
def connectionAt (descriptor : Descriptor) : Nat :=
  match service.sockets descriptor with
  | some (.connection number) => number
  | _ => 0

/-! ## `main` -/

/-- `socket`. -/
def makeSocket (outcomes : StepOutcomes Address) : Option ServiceEvent × Service Address :=
  match service.sockets.malloc outcomes.descriptor .listener with
  | none => (none, service.setMain (.exited 1))
  | some (listenSocket, sockets) =>
      (none, (service.setSockets sockets).setMain (.socketMade listenSocket))

/-- `accept`. -/
def accept (listenSocket : Descriptor) (outcomes : StepOutcomes Address) :
    Option ServiceEvent × Service Address :=
  match service.sockets listenSocket with
  | some .listener =>
      let number := service.connectionsAccepted
      match service.sockets.malloc outcomes.descriptor (.connection number) with
      | none => (none, service.setMain .leaving)
      | some (connectionSocket, sockets) =>
          (some (.accepted number),
            { (service.setSockets sockets).setMain (.accepted listenSocket connectionSocket) with
              connectionsAccepted := number + 1 })
  | _ => service.fails .descriptor

/-- The `malloc` and the assignment to what it returns. -/
def storeSocket (listenSocket connectionSocket : Descriptor) (outcomes : StepOutcomes Address) :
    Option ServiceEvent × Service Address :=
  match service.blocks.malloc outcomes.block connectionSocket with
  | none => (none, service.setMain (.givingUp listenSocket connectionSocket))
  | some (newSocket, blocks) =>
      (none, (service.setBlocks blocks).setMain (.stored listenSocket connectionSocket newSocket))

/-- `pthread_create`, and the `free` after its failure. -/
def createThread (listenSocket connectionSocket : Descriptor) (newSocket : Address)
    (outcomes : StepOutcomes Address) : Option ServiceEvent × Service Address :=
  if outcomes.threadCreated then
    (none, { (service.setThread service.threadsCreated (some (.started newSocket))).setMain
        (.accepting listenSocket) with
      threadsCreated := service.threadsCreated + 1 })
  else
    match service.blocks.free newSocket with
    | none => service.fails .memory
    | some blocks =>
        (none, (service.setBlocks blocks).setMain (.givingUp listenSocket connectionSocket))

/-- `close` of a connection. -/
def close (connectionSocket : Descriptor) (after : Service Address → Service Address) :
    Option ServiceEvent × Service Address :=
  match service.sockets.free connectionSocket with
  | none => service.fails .descriptor
  | some sockets =>
      (some (.closed (service.connectionAt connectionSocket)), after (service.setSockets sockets))

/-- The next step of `main`, with `init_tee_connection` at its start and
`close_tee_connection` at its end. -/
def stepMain (outcomes : StepOutcomes Address) : Option ServiceEvent × Service Address :=
  match service.main with
  | .start =>
      if outcomes.contextMade then
        (none, { service.setMain .contextMade with context := true })
      else (none, service.setMain (.exited 1))
  | .contextMade =>
      if outcomes.sessionOpened then
        (none, { service.setMain .connected with session := true })
      else (none, { service.setMain (.exited 1) with context := false })
  | .connected => service.makeSocket outcomes
  | .socketMade listenSocket =>
      if outcomes.bound = true ∧ outcomes.listening = true then
        (none, service.setMain (.accepting listenSocket))
      else (none, service.setMain (.exited 1))
  | .accepting listenSocket => service.accept listenSocket outcomes
  | .accepted listenSocket connectionSocket =>
      service.storeSocket listenSocket connectionSocket outcomes
  | .stored listenSocket connectionSocket newSocket =>
      service.createThread listenSocket connectionSocket newSocket outcomes
  | .givingUp listenSocket connectionSocket =>
      service.close connectionSocket fun service => service.setMain (.accepting listenSocket)
  | .leaving => (none, { service.setMain .sessionClosed with session := false })
  | .sessionClosed => (none, { service.setMain (.exited 0) with context := false })
  | .exited _ => (none, service)

/-! ## `handle_client` -/

/-- Where a request leads its thread, between `recv` and the next call. -/
def afterRequest (overflow : IntOverflow) (jsonLoads : CString → Option Json)
    (outcomes : StepOutcomes Address) (socketDesc : Address) (connectionSocket : Descriptor)
    (received : Received) : Option (ThreadAt Address) :=
  match handleClient overflow outcomes.requestLocals received with
  | .undefined => none
  | .written response => some (.writing socketDesc connectionSocket response)
  | .replied reply => some (.writing socketDesc connectionSocket (sendJsonResponse reply))
  | .dispatched request =>
      match handle jsonLoads outcomes.locals request with
      | .replied reply => some (.writing socketDesc connectionSocket (sendJsonResponse reply))
      | .invoked invocation reply => some (.asking socketDesc connectionSocket invocation reply)

/-- `recv`. -/
def receive (overflow : IntOverflow) (jsonLoads : CString → Option Json) (number : Nat)
    (socketDesc : Address) (connectionSocket : Descriptor) (outcomes : StepOutcomes Address) :
    Option ServiceEvent × Service Address :=
  match service.sockets connectionSocket with
  | some (.connection connection) =>
      match outcomes.received with
      | none =>
          (some (.hungUp connection),
            service.setThread number (some (.closing socketDesc connectionSocket)))
      | some received =>
          match afterRequest overflow jsonLoads outcomes socketDesc connectionSocket received with
          | none => service.fails .request
          | some thread =>
              (some (.received connection received), service.setThread number (some thread))
  | _ => service.fails .descriptor

/-- `TEEC_InvokeCommand`, which may fail on its way to the trusted application. -/
def invoke (primitives : Primitives) (number : Nat) (socketDesc : Address)
    (connectionSocket : Descriptor) (invocation : Invocation)
    (reply : Option TeecOperation → Reply) (outcomes : StepOutcomes Address) :
    Option ServiceEvent × Service Address :=
  let connection := service.connectionAt connectionSocket
  if service.session = false then service.fails .session
  else if outcomes.delivered = false then
    (some (.undelivered connection),
      service.setThread number
        (some (.writing socketDesc connectionSocket (sendJsonResponse (reply none)))))
  else
    let call := invocation.call outcomes.memory.behind outcomes.command
    let answer := (Ta.taInvokeCommandEntryPoint primitives service.tee call).1
    let (response, tee) := respond primitives outcomes.command outcomes.memory service.tee
      (.invoked invocation reply)
    (some (.invoked connection call answer),
      { service.setThread number
          (some (.writing socketDesc connectionSocket (sendJsonResponse response))) with
        tee := tee })

/-- `write`, which succeeds. -/
def write (number : Nat) (socketDesc : Address) (connectionSocket : Descriptor)
    (response : CString) : Option ServiceEvent × Service Address :=
  match service.sockets connectionSocket with
  | some (.connection connection) =>
      (some (.answered connection response),
        service.setThread number (some (.closing socketDesc connectionSocket)))
  | _ => service.fails .descriptor

/-- The next step of a thread. -/
def stepThread (overflow : IntOverflow) (jsonLoads : CString → Option Json)
    (primitives : Primitives) (number : Nat) (outcomes : StepOutcomes Address) :
    Option ServiceEvent × Service Address :=
  match service.threads number with
  | none => (none, service)
  | some (.started socketDesc) =>
      match service.blocks socketDesc with
      | none => service.fails .memory
      | some connectionSocket =>
          (none, service.setThread number (some (.connected socketDesc connectionSocket)))
  | some (.connected socketDesc connectionSocket) =>
      service.receive overflow jsonLoads number socketDesc connectionSocket outcomes
  | some (.asking socketDesc connectionSocket invocation reply) =>
      service.invoke primitives number socketDesc connectionSocket invocation reply outcomes
  | some (.writing socketDesc connectionSocket response) =>
      service.write number socketDesc connectionSocket response
  | some (.closing socketDesc connectionSocket) =>
      service.close connectionSocket fun service =>
        service.setThread number (some (.freeing socketDesc))
  | some (.freeing socketDesc) =>
      match service.blocks.free socketDesc with
      | none => service.fails .memory
      | some blocks => (none, (service.setBlocks blocks).setThread number none)

/-- One step of the process; after a fault and after the end of `main` there is
none. -/
def step (overflow : IntOverflow) (jsonLoads : CString → Option Json) (primitives : Primitives)
    (action : Action Address) : Option ServiceEvent × Service Address :=
  match service.fault, service.main with
  | some _, _ => (none, service)
  | none, .exited _ => (none, service)
  | none, _ =>
      match action.turn with
      | .main => service.stepMain action.outcomes
      | .thread number =>
          service.stepThread overflow jsonLoads primitives number action.outcomes

end Steps
end Service

/-- The process as it is started. -/
def initialService (Address : Type) (store : Ta.KeyStore) : Service Address where
  main := .start
  threads := fun _ => none
  threadsCreated := 0
  connectionsAccepted := 0
  sockets := fun _ => none
  blocks := fun _ => none
  context := false
  session := false
  tee := Ta.initialState store
  fault := none

/-- The service with the trusted application behind it. -/
def httpService (Address : Type) [DecidableEq Address] (overflow : IntOverflow)
    (jsonLoads : CString → Option Json) (primitives : Primitives) (store : Ta.KeyStore) :
    Machine (Service Address) (Action Address) (Option ServiceEvent) where
  start := initialService Address store
  step := fun service action => service.step overflow jsonLoads primitives action

end Host
end TrustChain

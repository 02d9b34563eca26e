import TrustChain.Host.Service

namespace TrustChain
namespace Host

open Library Tee

/-!
# One connection by itself

What a client can see of the service, and what the service is for: a connection
is accepted, brings at most one request, gets the answer to this request and to
no other, and is closed.  Threads, descriptors and the heap do not occur here.
-/

/-- How far a connection has come. -/
inductive Stage
  | absent
  | waiting
  | asking (invocation : Invocation) (reply : Option TeecOperation → Reply)
  | answering (response : CString)
  | finished
  | closed

/-- The reply that a handler makes of an answer of the trusted application. -/
def replyTo (invocation : Invocation) (reply : Option TeecOperation → Reply)
    (memory : SecureMemory) : TeeResult Ta.Output → Reply
  | .error _ => reply none
  | .ok output => reply (some (invocation.returned memory.behind memory.stack output))

/-- The next event of a connection, and how far it comes by it. -/
inductive Proceeds (overflow : IntOverflow) (jsonLoads : CString → Option Json)
    (connection : Nat) : Stage → ServiceEvent → Stage → Prop
  | accepted : Proceeds overflow jsonLoads connection .absent (.accepted connection) .waiting
  | hungUp : Proceeds overflow jsonLoads connection .waiting (.hungUp connection) .finished
  | written (stale : RequestLocals) (received : Received) (response : CString)
      (outcome : handleClient overflow stale received = .written response) :
      Proceeds overflow jsonLoads connection .waiting (.received connection received)
        (.answering response)
  | replied (stale : RequestLocals) (locals : Locals) (received : Received) (reply : Reply)
      (outcome : (handleClient overflow stale received).handled jsonLoads locals =
        some (.replied reply)) :
      Proceeds overflow jsonLoads connection .waiting (.received connection received)
        (.answering (sendJsonResponse reply))
  | asked (stale : RequestLocals) (locals : Locals) (received : Received)
      (invocation : Invocation) (reply : Option TeecOperation → Reply)
      (outcome : (handleClient overflow stale received).handled jsonLoads locals =
        some (.invoked invocation reply)) :
      Proceeds overflow jsonLoads connection .waiting (.received connection received)
        (.asking invocation reply)
  | undelivered (invocation : Invocation) (reply : Option TeecOperation → Reply) :
      Proceeds overflow jsonLoads connection (.asking invocation reply) (.undelivered connection)
        (.answering (sendJsonResponse (reply none)))
  | invoked (invocation : Invocation) (reply : Option TeecOperation → Reply)
      (outcomes : Ta.CallOutcomes) (memory : SecureMemory) (answer : TeeResult Ta.Output) :
      Proceeds overflow jsonLoads connection (.asking invocation reply)
        (.invoked connection (invocation.call memory.behind outcomes) answer)
        (.answering (sendJsonResponse (replyTo invocation reply memory answer)))
  | answered (response : CString) :
      Proceeds overflow jsonLoads connection (.answering response) (.answered connection response)
        .finished
  | abandoned : Proceeds overflow jsonLoads connection .waiting (.closed connection) .closed
  | closed : Proceeds overflow jsonLoads connection .finished (.closed connection) .closed

/-! ## At most one of each -/

def ServiceEvent.isInvoked : ServiceEvent → Bool
  | invoked _ _ _ => true
  | _ => false

def ServiceEvent.isAnswered : ServiceEvent → Bool
  | answered _ _ => true
  | _ => false

def ServiceEvent.isClosed : ServiceEvent → Bool
  | closed _ => true
  | _ => false

/-- The stages in order; every event leads to a later one. -/
def Stage.rank : Stage → Nat
  | absent => 0
  | waiting => 1
  | asking _ _ => 2
  | answering _ => 3
  | finished => 4
  | closed => 5

section Once

variable {overflow : IntOverflow} {jsonLoads : CString → Option Json} {connection : Nat}
variable {before after stage : Stage} {event : ServiceEvent} {events : List ServiceEvent}

theorem Proceeds.rank_lt (proceeds : Proceeds overflow jsonLoads connection before event after) :
    before.rank < after.rank := by
  cases proceeds <;> simp [Stage.rank]

theorem Proceeds.invoked_rank
    (proceeds : Proceeds overflow jsonLoads connection before event after)
    (invoked : event.isInvoked = true) : before.rank < 3 ∧ 3 ≤ after.rank := by
  cases proceeds with
  | invoked => simp [Stage.rank]
  | _ => cases invoked

theorem Proceeds.answered_rank
    (proceeds : Proceeds overflow jsonLoads connection before event after)
    (answered : event.isAnswered = true) : before.rank < 4 ∧ 4 ≤ after.rank := by
  cases proceeds with
  | answered => simp [Stage.rank]
  | _ => cases answered

theorem Proceeds.closed_rank
    (proceeds : Proceeds overflow jsonLoads connection before event after)
    (closed : event.isClosed = true) : before.rank < 5 ∧ 5 ≤ after.rank := by
  cases proceeds with
  | abandoned => simp [Stage.rank]
  | closed => simp [Stage.rank]
  | _ => cases closed

/-- A kind of event that leads to stages from one rank on occurs once at most. -/
theorem at_most_one_of_rank
    (path : Path (Proceeds overflow jsonLoads connection) .absent events stage)
    (kind : ServiceEvent → Bool) (rank : Nat)
    (enters : ∀ before event after, Proceeds overflow jsonLoads connection before event after →
      kind event = true → before.rank < rank ∧ rank ≤ after.rank) :
    (events.filter kind).length ≤ 1 := by
  refine (path.at_most_once kind (fun stage => rank ≤ stage.rank) ?_ ?_).1
  · intro before event after proceeds isKind
    rcases enters before event after proceeds isKind with ⟨notYet, past⟩
    exact ⟨Nat.not_le_of_lt notYet, past⟩
  · intro before event after proceeds past
    exact Nat.le_trans past (Nat.le_of_lt proceeds.rank_lt)

end Once

end Host
end TrustChain

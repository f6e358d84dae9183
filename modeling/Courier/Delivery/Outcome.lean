import Courier.Event.State
import Courier.Text.LowerCase
import Courier.Text.Search

/-!
# Outcomes of an attempt

What the transport saw of one attempt: a response with a status, or one of the ways in which there
was none. A failure is told by the causes that led to it, and its outcome is read off them.
-/

namespace Courier

inductive IoFault where
  | timedOut | connectionReset | connectionAborted | unexpectedEnd | brokenPipe
  | other
  deriving DecidableEq

structure Cause where
  message : String
  /-- The cause is an error of input or output, of this kind. -/
  io : Option IoFault := none
  deriving DecidableEq

/-- Why an attempt got no response: a summary, and the causes from the outermost to the first. -/
structure TransportFailure where
  summary : String
  causes : List Cause
  deriving DecidableEq

def Cause.isClosure (c : Cause) : Bool :=
  match c.io with
  | some .connectionReset | some .connectionAborted | some .unexpectedEnd | some .brokenPipe => true
  | _ => false

inductive Outcome where
  | answered (status : Nat)
  | hostUnresolved
  /-- The connection closed before the response was complete. -/
  | closed
  | timedOut
  /-- The handshake failed or the certificate was refused. -/
  | tlsFailed
  | other (cause : String)
  deriving DecidableEq

namespace Outcome

def unresolvedWords : List String :=
  ["dns error", "failed to lookup address", "name or service not known", "no such host"]

def tlsWords : List String := ["certificate", "tls", "handshake"]

def closedWords : List String :=
  ["connection closed before message completed", "incomplete message", "connection reset"]

/-- The causes in lower case, with colons between them. -/
def chainText (causes : List Cause) : String :=
  ": ".intercalate (causes.map fun c => Text.lowerCase c.message)

def mentions (words : List String) (text : String) : Bool :=
  words.any fun w => Text.occursIn w.toList text.toList

/-- The outcome that the causes of a failure tell. A deadline counts before a closed connection, and
both before what the messages say. -/
def ofFailure (f : TransportFailure) : Outcome :=
  if f.causes.any (·.io = some .timedOut) then timedOut
  else if f.causes.any Cause.isClosure then closed
  else
    let chain := chainText f.causes
    if mentions unresolvedWords chain then hostUnresolved
    else if mentions tlsWords chain then tlsFailed
    else if mentions closedWords chain then closed
    else if chain.isEmpty then other f.summary
    else other chain

/-- The state in which an attempt with this outcome leaves its event. -/
def state : Outcome → DeliveryState
  | answered status =>
    if status = 200 then .delivered else if status = 429 then .backoff else .httpError
  | hostUnresolved => .unknownHost
  | closed | timedOut => .timeout
  | tlsFailed => .tlsError
  | other _ => .other

def status? : Outcome → Option Nat
  | answered status => some status
  | _ => none

theorem status?_isSome_iff {o : Outcome} :
    o.status?.isSome ↔ o.state = .delivered ∨ o.state = .backoff ∨ o.state = .httpError := by
  cases o with
  | answered status => simp only [status?, state]; grind
  | _ => simp [status?, state]

end Outcome

end Courier

import Courier.Delivery.Outcome
import Courier.Delivery.Request

/-!
# Responses

An exchange is what comes back for a post: nothing, with the reason, or the head of a response with
a body that arrives whole, breaks off or is late. The response that is kept of it names the state
of the attempt.
-/

namespace Courier

inductive ResponseBody where
  | whole (bytes : List UInt8)
  /-- The connection closed before the announced end. -/
  | brokenOff
  /-- The deadline passed before the announced end. -/
  | late
  deriving DecidableEq

inductive Reception where
  | failed (why : TransportFailure)
  /-- The head of a response, with names in lower case. -/
  | head (status : Nat) (headers : List (String × List UInt8)) (body : ResponseBody)
  deriving DecidableEq

structure Exchange where
  reception : Reception
  took : Duration
  deriving DecidableEq

/-- What is kept of an attempt. -/
structure Response where
  eventId : EventId
  state : DeliveryState
  status : Option Nat
  headers : Dict String
  body : Option String
  duration : Duration
  url : String
  deriving DecidableEq

namespace Response

def maxBodySize : Nat := 65536

/-- The part of a body that is kept, as text. -/
def keptBody (bytes : List UInt8) : String := Text.Utf8.decode (bytes.take maxBodySize)

/-- A byte of visible ASCII, a space or a tab. -/
def isPlain (b : UInt8) : Bool := (32 ≤ b.toNat && b.toNat < 127) || b.toNat = 9

/-- The headers whose values are plain; of those with one name the last counts. -/
def keptHeaders (headers : List (String × List UInt8)) : Dict String :=
  .ofList ((headers.filter fun h => h.2.all isPlain).map fun h => (h.1, Text.Utf8.decode h.2))

/-- Outcome, headers and body of what came back. The body of a response that asks to slow down is
not waited for. -/
def capture : Reception → Outcome × Dict String × Option String
  | .failed why => (.ofFailure why, .empty, none)
  | .head status headers body =>
    let kept := keptHeaders headers
    if status = 429 then (.answered status, kept, none)
    else
      match body with
      | .whole bytes => (.answered status, kept, some (keptBody bytes))
      | .late => (.timedOut, kept, none)
      | .brokenOff => (.answered status, kept, none)

def ofExchange (r : DeliveryRequest) (e : Exchange) : Response :=
  let (outcome, headers, body) := capture e.reception
  ⟨r.eventId, outcome.state, outcome.status?, headers, body, e.took, r.url⟩

end Response

def unsendable : TransportFailure := ⟨"builder error", [⟨"invalid request", none⟩]⟩

/-- Posts a request over `send` and keeps the response. A request that cannot be sent is not. -/
def Client.deliver {m : Type → Type} [Monad m] (c : Client) (send : Post → m Exchange)
    (r : DeliveryRequest) : m Response :=
  match r.post? c.settings with
  | some p => (Response.ofExchange r) <$> send p
  | none => pure (.ofExchange r ⟨.failed unsendable, .zero⟩)

end Courier

import Courier.Delivery.Response

/-!
# A network of scripted receivers

Receivers that behave as they are told, for trying out the client: each request to a receiver meets
its next behaviour, and the last one is repeated. A network may also be down, so that no receiver
can be reached.
-/

namespace Courier

inductive Conduct where
  | respond
  /-- Announces ten bytes more than it sends, and closes. -/
  | shortBody
  /-- Announces ten bytes more than it sends, and waits. -/
  | hangBody
  | hang
  /-- Closes before the head of an answer is complete. -/
  | close
  /-- Sends what is no answer. -/
  | garbage
  /-- Does not listen. -/
  | refuse
  /-- Answers a secure greeting in plain text. -/
  | notTls
  /-- Closes after a secure greeting. -/
  | closeOnHello
  deriving DecidableEq

structure Behaviour where
  conduct : Conduct
  status : Nat
  headers : List (String × List UInt8)
  body : List UInt8
  delay : Duration
  deriving DecidableEq

structure Receiver where
  name : String
  address : String
  behaviours : List Behaviour

/-- Receivers, and the posts that arrived at them, last one first. -/
structure Network where
  receivers : List Receiver
  isUp : Bool
  arrived : List (String × Post)

namespace Network

def connectFailure (messages : List String) : TransportFailure :=
  ⟨"error sending request", (⟨"client error (Connect)", none⟩ : Cause) ::
    messages.map fun m => ⟨m, none⟩⟩

def sendFailure (message : String) : TransportFailure :=
  ⟨"error sending request", [⟨"client error (SendRequest)", none⟩, ⟨message, none⟩]⟩

def deadline : TransportFailure :=
  ⟨"error sending request", [⟨"operation timed out", some .timedOut⟩]⟩

/-- A byte that no value of a header can hold. -/
def isControl (b : UInt8) : Bool := (b.toNat < 32 && b.toNat ≠ 9) || b.toNat = 127

def maxHeaders : Nat := 100

def isHead (headers : List (String × List UInt8)) : Bool :=
  headers.length ≤ maxHeaders &&
    headers.all fun h => Header.isToken h.1 && !h.2.any isControl

def isPaddingByte (b : UInt8) : Bool := b.toNat = 32 || b.toNat = 9

def readHeader (h : String × List UInt8) : String × List UInt8 :=
  (Text.lowerCase h.1,
    ((h.2.dropWhile isPaddingByte).reverse.dropWhile isPaddingByte).reverse)

/-- The body of an answer; some statuses never have one. -/
def bodyOf (b : Behaviour) (sent : ResponseBody) : ResponseBody :=
  if b.status = 204 ∨ b.status = 304 then .whole [] else sent

/-- What comes back from a receiver, if there is no deadline. -/
def reception (usesTls : Bool) (b : Behaviour) : Reception :=
  if b.conduct = .refuse then
    .failed (connectFailure ["tcp connect error", "connection refused"])
  else if usesTls then
    if b.conduct = .closeOnHello then .failed (connectFailure ["tls handshake eof"])
    else if b.conduct = .hang then .failed deadline
    else .failed (connectFailure ["received corrupt message of type InvalidContentType"])
  else
    let missing := if b.conduct = .shortBody ∨ b.conduct = .hangBody then 10 else 0
    let announced :=
      ("content-length", Text.Utf8.encode (Text.Decimal.ofInt (b.body.length + missing : Nat)))
    let answer (body : ResponseBody) : Reception :=
      if isHead (b.headers ++ [announced]) then
        .head b.status ((b.headers ++ [announced]).map readHeader) (bodyOf b body)
      else .failed (sendFailure "invalid HTTP header parsed")
    match b.conduct with
    | .respond => answer (.whole b.body)
    | .shortBody => answer .brokenOff
    | .hangBody => answer .late
    | .hang => .failed deadline
    | .close | .closeOnHello => .failed (sendFailure "connection closed before message completed")
    | .garbage | .notTls | .refuse => .failed (sendFailure "invalid HTTP version parsed")

def exchange (timeout : Duration) (usesTls : Bool) (b : Behaviour) : Exchange :=
  if timeout.nanos ≤ b.delay.nanos then ⟨.failed deadline, timeout⟩
  else
    match reception usesTls b with
    | .failed why => ⟨.failed why, if why = deadline then timeout else b.delay⟩
    | .head status headers .late =>
      ⟨.head status headers .late, if status = 429 then b.delay else timeout⟩
    | r => ⟨r, b.delay⟩

/-- Uses up a behaviour, unless it is the last one. -/
def next (r : Receiver) : Receiver :=
  match r.behaviours with
  | _ :: b :: rest => { r with behaviours := b :: rest }
  | _ => r

/-- The host is an address in numbers, or the machine itself. -/
def isKnown (host : String) : Bool :=
  host = "localhost" || host.startsWith "[" ||
    host.toList.all fun c => Text.Decimal.isDigit c || c = '.'

/-- Sends a post to the receiver at its address. Names cannot be looked up. -/
def send (timeout : Duration) (p : Post) : StateM Network Exchange := fun n =>
  let fail (messages : List String) : Exchange × Network :=
    (⟨.failed (connectFailure messages), .zero⟩, n)
  if !isKnown (p.url.host.getD "") then
    fail ["dns error", "failed to lookup address information"]
  else if !n.isUp then fail ["tcp connect error", "network unreachable"]
  else
    match n.receivers.find? (·.address = p.url.authority) with
    | some ⟨name, address, b :: _⟩ =>
      let e := exchange timeout p.usesTls b
      let arrives := b.conduct ≠ .refuse && !p.usesTls
      (e, { n with
        receivers := n.receivers.map fun q => if q.address = address then next q else q
        arrived := if arrives then (name, p) :: n.arrived else n.arrived })
    | _ => fail ["tcp connect error", "connection refused"]

end Network

end Courier

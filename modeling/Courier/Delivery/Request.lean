import Courier.Delivery.Client
import Courier.Event.Event
import Courier.Text.Base64
import Courier.Url.Url

/-!
# Requests

A delivery request is an event's payload with the URL that it goes to and the headers that were
captured with it. The post made of it carries the headers that the client sets and those captured
headers that it does not. There is no post if the URL is not of the web or a header cannot be sent.
-/

namespace Courier

structure DeliveryRequest where
  eventId : EventId
  url : String
  headers : Dict String
  body : String
  deriving DecidableEq

structure Post where
  url : Url
  /-- Names in lower case and values. -/
  headers : List (String × String)
  body : String
  deriving DecidableEq

def Post.usesTls (p : Post) : Bool := p.url.scheme = "https"

def Post.startLine (p : Post) : String := "POST " ++ p.url.target ++ " HTTP/1.1"

namespace DeliveryRequest

def ofPending (p : PendingDelivery) : DeliveryRequest :=
  ⟨p.eventId, p.url, p.headers.getD .empty, p.body.getD ""⟩

def destination (r : DeliveryRequest) : Option Url := Url.parse? r.url

def host (r : DeliveryRequest) : Option String := r.destination.bind Url.host

def port (r : DeliveryRequest) : Option Nat := r.destination.bind Url.effectivePort

def usesTls (r : DeliveryRequest) : Bool := r.destination.any (·.scheme = "https")

def forwarded (r : DeliveryRequest) : List (String × String) :=
  r.headers.entries.filter fun h => !Header.isManaged h.1

def userText? (s : String) : Option String :=
  let bytes := Url.Percent.decode (Text.Utf8.encode s)
  let text := Text.Utf8.decode bytes
  if Text.Utf8.encode text = bytes then some text else none

/-- The header that introduces the user whom a URL names. -/
def authorization (u : Url) : List (String × String) :=
  match userText? u.username with
  | none => []
  | some name =>
    let password := u.password.bind userText?
    if name.isEmpty && password.isNone then []
    else
      let credentials := name ++ ":" ++ password.getD ""
      [("authorization",
        "Basic " ++ String.ofList (Text.Base64.encode (Text.Utf8.encode credentials)))]

def postHeaders (client : ClientSettings) (r : DeliveryRequest) (u : Url) :
    List (String × String) :=
  let captured := r.forwarded.map fun (name, value) => (Text.lowerCase name, Header.trim value)
  authorization u ++ [("content-type", "application/json")] ++ captured ++
    (if captured.any (·.1 = "accept") then [] else [("accept", "*/*")]) ++
    [("user-agent", Header.trim client.userAgent), ("host", u.authority)] ++
    (if r.body.isEmpty then []
      else [("content-length", String.ofList (Text.Decimal.digits r.body.utf8ByteSize))])

def post? (client : ClientSettings) (r : DeliveryRequest) : Option Post := do
  let u ← r.destination
  if (u.scheme = "http" ∨ u.scheme = "https") ∧
      r.forwarded.all fun (name, value) => Header.isToken name && Header.isValue value then
    some ⟨u, r.postHeaders client u, r.body⟩
  else none

end DeliveryRequest

end Courier

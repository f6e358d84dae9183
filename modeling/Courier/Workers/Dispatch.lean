import Courier.Action
import Courier.Delivery.Network
import Courier.Workers.Timetable

/-!
# Dispatching over a network

A pool in time whose workers deliver over a network of scripted receivers. A pool that is shut down
sends nothing more.
-/

namespace Courier.Workers

def deliver (c : Client) (r : DeliveryRequest) : StateM Network Response :=
  c.deliver (Network.send c.settings.timeout) r

/-- Delivers requests and waits for all responses, in the order of the requests. -/
def dispatch (c : Client) (requests : List DeliveryRequest) :
    Action DeliveryError (Timetable × Network) (List Response) :=
  Action.make fun (t, n) =>
    if t.isClosed && !requests.isEmpty then (.error .poolClosed, (t, n))
    else
      let (responses, n) := (requests.mapM (deliver c)).run n
      let (r, t) := t.dispatchAll responses
      (r, (t, n))

/-- Starts to deliver a request in the background; `pause` passes until the next thing happens. -/
def start (c : Client) (pause : Nat) (r : DeliveryRequest) (t : Timetable) (n : Network) :
    Timetable × Network :=
  if t.isClosed then (t.refuseJob pause, n)
  else
    let (response, n) := (deliver c r).run n
    (t.startJob pause response, n)

end Courier.Workers

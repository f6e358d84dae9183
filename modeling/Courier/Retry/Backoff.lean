import Courier.Error
import Courier.Event.Event

/-!
# Retries with exponential backoff

An attempt that failed is repeated 3^n seconds after the event was created, where n is the number
of attempts so far, until ten attempts have been made.
-/

namespace Courier.Backoff

def maxTries : Int := 10

/-- An attempt that failed may be repeated while there are tries left. -/
def isRetriable (state : DeliveryState) (tryCount : Int) : Bool :=
  !state.isDelivered && tryCount < maxTries

/-- The seconds from the creation of an event to the attempt after its `n`-th. -/
def delaySeconds (n : Nat) : Nat := 3 ^ n

def delay (tryCount : Int) : Except DeliveryError Nat :=
  if tryCount < 1 then .error (.invalidTryCount tryCount)
  else if maxTries ≤ tryCount then .error (.notRetriable .pending tryCount)
  else .ok (delaySeconds tryCount.toNat)

def nextAttempt (a : Attempt) : Except DeliveryError Instant :=
  if a.tryCount < 1 then .error (.invalidTryCount a.tryCount)
  else if isRetriable a.state a.tryCount then
    match a.createdAt.plus? (delaySeconds a.tryCount.toNat * 1000000000) with
    | some t => .ok t
    | none => .error (.notRetriable a.state a.tryCount)
  else .error (.notRetriable a.state a.tryCount)

inductive Decision where
  | delivered
  | retryAt (t : Instant)
  /-- All tries are used up: the subscription is to be disabled. -/
  | exhausted
  deriving DecidableEq

def decide (a : Attempt) : Except DeliveryError Decision :=
  if a.state.isDelivered then .ok .delivered
  else if maxTries ≤ a.tryCount then .ok .exhausted
  else (nextAttempt a).map .retryAt

end Courier.Backoff

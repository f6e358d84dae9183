import Courier.Retry.Backoff
import Courier.Sending.Store

/-!
# The send pipeline

A batch of events is prepared, delivered and followed up on one store. The stages run in order and
the first failure ends the run.
-/

namespace Courier

/-- What was done with a batch of responses. -/
structure FollowUp where
  recorded : Nat
  delivered : Nat
  retried : Nat
  /-- The number of different subscriptions whose events ran out of tries. -/
  disabled : Nat
  deriving DecidableEq, Inhabited

structure SendReport where
  claimed : Nat
  sent : Nat
  followUp : FollowUp
  deriving DecidableEq, Inhabited

namespace Pipeline

variable {σ : Type}

def prepare (store : SendStore σ) (ids : List EventId) (asOf : Date) :
    Action DeliveryError σ (List DeliveryRequest) := do
  let pending ← (store.listForSending ids asOf).mapError .storage
  return pending.map DeliveryRequest.ofPending

structure Schedule where
  delivered : Nat
  retries : List RetryEntry
  exhausted : OrderedSet SubscriptionId

def Schedule.add (s : Schedule) (a : Attempt) : Backoff.Decision → Schedule
  | .delivered => { s with delivered := s.delivered + 1 }
  | .retryAt t => { s with retries := s.retries ++ [⟨a.eventId, t⟩] }
  | .exhausted => { s with exhausted := s.exhausted.insert a.subscriptionId }

/-- Decides what follows each attempt; the first attempt without a decision ends it. -/
def schedule (s : Schedule) : List Attempt → Except DeliveryError Schedule
  | [] => .ok s
  | a :: rest => do
    let d ← Backoff.decide a
    schedule (s.add a d) rest

/-- Records the responses, enters the retries and disables subscriptions that ran out of tries. -/
def apply (store : SendStore σ) (responses : List Response) (asOf : Date) :
    Action DeliveryError σ FollowUp := do
  let attempts ← (store.recordAttempts responses asOf).mapError .storage
  let s ← ExceptT.mk (pure (schedule ⟨0, [], .empty⟩ attempts))
  (store.enqueueRetries s.retries).mapError .storage
  let _ ← (store.disableSubscriptions s.exhausted.toList).mapError .storage
  return ⟨attempts.length, s.delivered, s.retries.length, s.exhausted.size⟩

/-- Runs a batch of events through all stages. -/
def send (store : SendStore σ)
    (dispatch : List DeliveryRequest → Action DeliveryError σ (List Response))
    (ids : List EventId) (asOf : Date) : Action DeliveryError σ SendReport := do
  if ids.isEmpty then return default
  let requests ← prepare store ids asOf
  let responses ← dispatch requests
  let followUp ← apply store responses asOf
  return ⟨ids.length, requests.length, followUp⟩

end Pipeline

end Courier

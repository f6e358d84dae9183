import Courier.Action
import Courier.Delivery.Response

/-!
# The store of the send pipeline

The four operations that the send pipeline needs of a store, as actions on a state of any kind.
-/

namespace Courier

/-- A store as the send pipeline sees it. -/
structure SendStore (σ : Type) where
  /-- What is to be posted for the events that may be delivered on a day, without the others. -/
  listForSending (ids : List EventId) (asOf : Date) :
    Action StorageError σ (List PendingDelivery)
  recordAttempts (responses : List Response) (asOf : Date) :
    Action StorageError σ (List Attempt)
  enqueueRetries (entries : List RetryEntry) : Action StorageError σ Unit
  /-- Disables subscriptions and counts those that it changed. -/
  disableSubscriptions (ids : List SubscriptionId) : Action StorageError σ Nat

def SendStore.onFirst {σ τ : Type} (s : SendStore σ) : SendStore (σ × τ) where
  listForSending ids asOf := (s.listForSending ids asOf).onFirst
  recordAttempts responses asOf := (s.recordAttempts responses asOf).onFirst
  enqueueRetries entries := (s.enqueueRetries entries).onFirst
  disableSubscriptions ids := (s.disableSubscriptions ids).onFirst

end Courier

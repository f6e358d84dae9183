import Courier.Sending.Store

/-!
# Journals

A store that keeps a journal of the calls made to it.
-/

namespace Courier

/-- A call to a store, with its result where that is part of what happened. -/
inductive StoreCall where
  | listForSending (ids : List EventId) (asOf : Date)
  | recordAttempts (responses : List Response) (asOf : Date)
  | enqueueRetries (entries : List RetryEntry)
  /-- No number if the call failed. -/
  | disableSubscriptions (ids : List SubscriptionId) (changed : Option Nat)

namespace SendStore

variable {σ α : Type}

def entered (a : Action StorageError σ α) (entry : Except StorageError α → StoreCall) :
    Action StorageError (σ × List StoreCall) α :=
  Action.make fun (s, calls) =>
    let (r, s) := a.runOn s
    (r, (s, calls ++ [entry r]))

def withJournal (s : SendStore σ) : SendStore (σ × List StoreCall) where
  listForSending ids asOf := entered (s.listForSending ids asOf) fun _ => .listForSending ids asOf
  recordAttempts responses asOf :=
    entered (s.recordAttempts responses asOf) fun _ => .recordAttempts responses asOf
  enqueueRetries entries := entered (s.enqueueRetries entries) fun _ => .enqueueRetries entries
  disableSubscriptions ids :=
    entered (s.disableSubscriptions ids) fun r => .disableSubscriptions ids r.toOption

end SendStore

end Courier

import Courier.Database.SendStore
import Courier.Sending.Pipeline

/-!
# Poll cycles

A cycle claims a batch from a queue, sends it and commits, all in one transaction. Whatever fails,
the transaction is given up and the claimed events are back in their queue.
-/

namespace Courier.Polling

inductive Queue where
  | main | retry
  deriving DecidableEq

namespace Queue

def name : Queue → String
  | main => "main"
  | retry => "retry"

/-- Claims up to `batch` events, from the retry queue only those that are due. -/
def claim (batch : Int64) (now : Instant) : Queue → Query (List EventId)
  | main => MainQueue.dequeue batch
  | retry => RetryQueue.dequeue now batch

end Queue

variable {τ : Type}

def onDatabase {α : Type} (q : Query α) : Action DeliveryError (Session × τ) α :=
  (q.mapError DeliveryError.storage).onFirst

def sendClaimed (dispatch : List DeliveryRequest → Action DeliveryError τ (List Response))
    (ids : List EventId) (now : Instant) : Action DeliveryError (Session × τ) Nat := do
  let report ← Pipeline.send databaseStore.onFirst (fun rs => (dispatch rs).onSecond) ids now.date
  return report.claimed

/-- One cycle at the time `now`; counts the claimed events. -/
def poll (queue : Queue) (dispatch : List DeliveryRequest → Action DeliveryError τ (List Response))
    (batch : Int64) (now : Instant) : Action DeliveryError (Session × τ) Nat := do
  onDatabase Query.beginTransaction
  let claimed ← Action.onFailure
    (do
      let ids ← onDatabase (queue.claim batch now)
      if ids.isEmpty then return 0
      sendClaimed dispatch ids now)
    fun (s, t) => (s.abandon, t)
  onDatabase Query.commit
  return claimed

end Courier.Polling

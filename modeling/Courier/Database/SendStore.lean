import Courier.Database.Directory
import Courier.Database.EventLog
import Courier.Database.Queues
import Courier.Sending.Store

/-!
# The database as the store of the send pipeline

The operations of the send pipeline, each of them at most one statement on the session.
-/

namespace Courier

def databaseStore : SendStore Session where
  listForSending := EventLog.listForSending
  recordAttempts := EventLog.recordAttempts
  enqueueRetries := RetryQueue.enqueue
  disableSubscriptions := Subscriptions.disable

end Courier

import Courier.Database.Session

/-!
# The queues

The main queue holds the events that wait for their first attempt, the retry queue those that wait
for a later one with the time at which it is due. Claimed entries leave their queue.
-/

namespace Courier

namespace MainQueue

/-- Most events claimed at once, if nothing else is chosen. -/
def defaultBatch : Int := 200

def entrySql : String := "INSERT INTO main_queue (event_id) VALUES ($1) RETURNING event_id"

def enqueue (id : EventId) : Query EventId :=
  .first .missingRow entrySql [.id id] (Row.first Row.id?)

def claimSql : String :=
  "WITH claimed AS ( DELETE FROM main_queue mq USING ( SELECT id FROM main_queue " ++
    "ORDER BY id LIMIT $1 FOR UPDATE SKIP LOCKED ) q WHERE q.id = mq.id " ++
    "RETURNING mq.id, mq.event_id ) SELECT event_id FROM claimed ORDER BY id"

/-- Claims up to `limit` events, oldest entry first. -/
def dequeue (limit : Int64) : Query (List EventId) :=
  .all claimSql [.int64 limit] (Row.first Row.id?)

def count : Query Int64 :=
  .first .missingRow "SELECT COUNT(*) FROM main_queue" [] (Row.first Row.int64?)

end MainQueue

namespace RetryQueue

/-- Most events claimed at once, if nothing else is chosen. -/
def defaultBatch : Int := 100

def entrySql : String :=
  "INSERT INTO retry_queue (event_id, execute_at) " ++
    "SELECT * FROM UNNEST($1::uuid[], $2::timestamptz[])"

/-- The parameters that enter some retries: an array of their events and one of their times. -/
def entryParams (entries : List RetryEntry) : List Value :=
  [.array (entries.map fun e => .id e.eventId), .array (entries.map fun e => .time e.executeAt)]

def enqueue (entries : List RetryEntry) : Query Unit := do
  if entries.isEmpty then return
  let _ ← Query.run entrySql (entryParams entries)

def claimSql : String :=
  "WITH claimed AS ( DELETE FROM retry_queue rq USING ( SELECT id FROM retry_queue " ++
    "WHERE execute_at <= $1 ORDER BY id LIMIT $2 FOR UPDATE SKIP LOCKED ) q WHERE q.id = rq.id " ++
    "RETURNING rq.id, rq.event_id ) SELECT event_id FROM claimed ORDER BY id"

/-- Claims up to `limit` events that are due at `now`, oldest entry first. -/
def dequeue (now : Instant) (limit : Int64) : Query (List EventId) :=
  .all claimSql [.time now, .int64 limit] (Row.first Row.id?)

def count : Query Int64 :=
  .first .missingRow "SELECT COUNT(*) FROM retry_queue" [] (Row.first Row.int64?)

end RetryQueue

end Courier

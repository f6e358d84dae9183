import Courier.Database.Session
import Courier.Delivery.Response
import Courier.Partition.Window

/-!
# The event log

Events are created in the partition of their day and read back only from the partitions inside the
retention window. One statement records the attempts of a whole batch.
-/

namespace Courier

structure EventDraft where
  tenantId : TenantId
  consumerId : ConsumerId
  topicId : TopicId
  versionId : VersionId
  subscriptionId : SubscriptionId
  headers : Dict String
  payload : Json

namespace EventLog

def tableName : String := "webhook_events"

/-- The first day that is read on the day `asOf`, as a parameter. -/
def cutoff (asOf : Date) : Value := .date (Window.retentionCutoff asOf)

def creationSql : String :=
  "INSERT INTO webhook_events ( id, state, tenant_id, consumer_id, " ++
    "topic_id, version_id, subscription_id, try_count, request_headers, request_body, " ++
    "partition_date ) VALUES ( $1, $2, $3, $4, $5, $6, $7, 0, $8, $9, $10 ) RETURNING id"

def create (e : EventDraft) (asOf : Date) : Query EventId :=
  (Query.first .missingRow creationSql
    [.freshId, .text DeliveryState.pending.name, .id e.tenantId, .id e.consumerId, .id e.topicId,
      .id e.versionId, .id e.subscriptionId, .json (.texts e.headers), .json e.payload, .date asOf]
    (Row.first Row.id?)).onWrite

def get (tenantId : TenantId) (id : EventId) (asOf : Date) : Query Event :=
  .first (.notFound ("webhook event " ++ id.text))
    ("SELECT id, state, tenant_id, consumer_id, topic_id, version_id, subscription_id, " ++
    "try_count, request_headers, request_body, url, response_headers, response_body, " ++
    "response_code, duration_ms, created_at, updated_at, delivered_at, partition_date FROM " ++
    "webhook_events WHERE id = $1 AND tenant_id = $2 AND partition_date >= $3")
    [.id id, .id tenantId, cutoff asOf] Row.event

def list (ids : List EventId) (asOf : Date) : Query (List Event) :=
  if ids.isEmpty then pure []
  else
    .all ("SELECT id, state, tenant_id, consumer_id, topic_id, version_id, subscription_id, " ++
      "try_count, request_headers, request_body, url, response_headers, response_body, " ++
      "response_code, duration_ms, created_at, updated_at, delivered_at, partition_date " ++
      "FROM webhook_events WHERE id = ANY($1) AND partition_date >= $2 ORDER BY created_at")
      [.array (ids.map .id), cutoff asOf] Row.event

def listingSql : String :=
  "SELECT we.id AS event_id, s.url, we.request_headers, " ++
    "we.request_body::text AS request_body FROM webhook_events we " ++
    "INNER JOIN subscriptions s ON s.id = we.subscription_id AND s.is_active " ++
    "AND NOT s.is_failing WHERE we.id = ANY($1) AND we.partition_date >= $2"

/-- What is to be posted for the events whose subscriptions accept deliveries. -/
def listForSending (ids : List EventId) (asOf : Date) : Query (List PendingDelivery) :=
  if ids.isEmpty then pure []
  else .all listingSql [.array (ids.map .id), cutoff asOf] Row.pendingDelivery

/-- The duration of an attempt in milliseconds, no more than the database can hold. -/
def durationMillis (d : Duration) : Int64 := Int64.ofNat (min d.millis 9223372036854775807)

/-- The parameters that record some responses: seven arrays with a place for each of them, and the
cutoff. -/
def attemptParams (responses : List Response) (asOf : Date) : List Value :=
  let column (f : Response → Value) : Value := .array (responses.map f)
  [column fun r => .id r.eventId, column fun r => .text r.state.name,
    column fun r => .option (fun n => .int32 (Int32.ofNat n)) r.status,
    column fun r => .json (.texts r.headers), column fun r => .option .text r.body,
    column fun r => .int64 (durationMillis r.duration), column fun r => .text r.url, cutoff asOf]

def recordingSql : String :=
  "UPDATE webhook_events AS we SET state = r.state, try_count = we.try_count + 1, " ++
    "response_code = r.response_code, response_headers = r.response_headers, " ++
    "response_body = r.response_body, duration_ms = r.duration_ms, url = r.url, " ++
    "updated_at = NOW(), delivered_at = CASE WHEN r.state = 'DELIVERED' THEN NOW() " ++
    "ELSE we.delivered_at END FROM UNNEST( $1::uuid[], $2::text[], $3::int4[], $4::jsonb[], " ++
    "$5::text[], $6::int8[], $7::text[] ) AS r(id, state, response_code, response_headers, " ++
    "response_body, duration_ms, url) WHERE we.id = r.id AND we.partition_date >= $8 " ++
    "RETURNING we.id AS event_id, we.state, we.subscription_id, we.try_count, we.created_at"

/-- Records an attempt for each response and reads the events back. -/
def recordAttempts (responses : List Response) (asOf : Date) : Query (List Attempt) :=
  if responses.isEmpty then pure []
  else (Query.all recordingSql (attemptParams responses asOf) Row.attempt).onWrite

end EventLog

end Courier

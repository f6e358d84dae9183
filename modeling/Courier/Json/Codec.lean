import Courier.Calendar.InstantText
import Courier.Delivery.Client
import Courier.Event.Directory
import Courier.Event.Event
import Courier.Json.Decode

/-!
# The JSON form of the model

How events, subscriptions and the other entities are written as JSON and read back.
-/

namespace Courier

open Json

namespace Json

def seconds64 : Decoder Nat := (Decoder.integer 0 18446744073709551615).map Int.toNat

def nanos32 : Decoder Nat := (Decoder.integer 0 4294967295).map Int.toNat

def int32 : Decoder Int32 := (Decoder.integer (-2147483648) 2147483647).map Int32.ofInt

def int64 : Decoder Int64 :=
  (Decoder.integer (-9223372036854775808) 9223372036854775807).map Int64.ofInt

def id {e : Entity} : Decoder (Id e) := .ofText fun s => (Uuid.parse? s).map Id.mk

def instant : Decoder Instant := .ofText Instant.parse?

def date : Decoder Date := .ofText (Date.parse? '-')

def state : Decoder DeliveryState :=
  .variant (DeliveryState.all.map DeliveryState.name) DeliveryState.ofName?

/-- Seconds and nanoseconds; no other fields are allowed. -/
def duration : Decoder Duration := fun levels v => do
  let fields : Record (Nat × Nat) :=
    (((Record.make fun (s n : Nat) => (s, n)).app (.required "secs" seconds64)).app
      (.required "nanos" nanos32))
  let (s, n) ← fields.decoder true levels v
  match Duration.ofParts? s n with
  | some d => .ok d
  | none => .error .malformed

end Json

namespace Event

def toJson (e : Event) : Json := .object [
  ("id", .string e.id.text),
  ("state", .string e.state.name),
  ("tenant_id", .string e.tenantId.text),
  ("consumer_id", .string e.consumerId.text),
  ("topic_id", .string e.topicId.text),
  ("version_id", .string e.versionId.text),
  ("subscription_id", .string e.subscriptionId.text),
  ("try_count", .int e.tryCount.toInt),
  ("request_headers", .option .texts e.requestHeaders),
  ("request_body", e.requestBody.getD .null),
  ("url", .option .string e.url),
  ("response_headers", .option .texts e.responseHeaders),
  ("response_body", .option .string e.responseBody),
  ("response_code", .option (fun n => .int n.toInt) e.responseCode),
  ("duration_ms", .option (fun n => .int n.toInt) e.durationMillis),
  ("created_at", .string e.createdAt.text),
  ("updated_at", .string e.updatedAt.text),
  ("delivered_at", .option (fun t => .string t.text) e.deliveredAt),
  ("partition_date", .string e.partitionDate.text)]

def fields : Record Event :=
  (Record.make Event.mk).app (.required "id" Json.id)
    |>.app (.required "state" Json.state)
    |>.app (.required "tenant_id" Json.id)
    |>.app (.required "consumer_id" Json.id)
    |>.app (.required "topic_id" Json.id)
    |>.app (.required "version_id" Json.id)
    |>.app (.required "subscription_id" Json.id)
    |>.app (.required "try_count" Json.int32)
    |>.app (.optional "request_headers" (.dict .text))
    |>.app (.optional "request_body" .json)
    |>.app (.optional "url" .text)
    |>.app (.optional "response_headers" (.dict .text))
    |>.app (.optional "response_body" .text)
    |>.app (.optional "response_code" Json.int32)
    |>.app (.optional "duration_ms" Json.int64)
    |>.app (.required "created_at" Json.instant)
    |>.app (.required "updated_at" Json.instant)
    |>.app (.optional "delivered_at" Json.instant)
    |>.app (.required "partition_date" Json.date)

def decoder : Decoder Event := fields.decoder false

end Event

namespace NewEvent

def toJson (e : NewEvent) : Json := .object [
  ("tenant_id", .string e.tenantId.text),
  ("consumer_id", .string e.consumerId.text),
  ("topic_name", .string e.topicName),
  ("versioned_payload", .dict e.versionedPayload),
  ("headers", .texts e.headers)]

def fields : Record NewEvent :=
  (Record.make NewEvent.mk).app (.required "tenant_id" Json.id)
    |>.app (.required "consumer_id" Json.id)
    |>.app (.required "topic_name" .text)
    |>.app (.required "versioned_payload" (.dict .json))
    |>.app (.defaulted "headers" (.dict .text) .empty)

def decoder : Decoder NewEvent := fields.decoder false

end NewEvent

namespace Subscription

def toJson (s : Subscription) : Json := .object [
  ("id", .string s.id.text),
  ("tenant_id", .string s.tenantId.text),
  ("consumer_id", .string s.consumerId.text),
  ("topic_id", .string s.topicId.text),
  ("url", .string s.url),
  ("created_at", .string s.createdAt.text),
  ("updated_at", .string s.updatedAt.text),
  ("is_active", .bool s.isActive),
  ("is_failing", .bool s.isFailing)]

def fields : Record Subscription :=
  (Record.make Subscription.mk).app (.required "id" Json.id)
    |>.app (.required "tenant_id" Json.id)
    |>.app (.required "consumer_id" Json.id)
    |>.app (.required "topic_id" Json.id)
    |>.app (.required "url" .text)
    |>.app (.required "created_at" Json.instant)
    |>.app (.required "updated_at" Json.instant)
    |>.app (.required "is_active" .bool)
    |>.app (.required "is_failing" .bool)

def decoder : Decoder Subscription := fields.decoder false

end Subscription

namespace Consumer

def toJson (c : Consumer) : Json := .object [
  ("id", .string c.id.text),
  ("tenant_id", .string c.tenantId.text),
  ("external_id", .string c.externalId),
  ("version_id", .string c.versionId.text),
  ("created_at", .string c.createdAt.text)]

def fields : Record Consumer :=
  (Record.make Consumer.mk).app (.required "id" Json.id)
    |>.app (.required "tenant_id" Json.id)
    |>.app (.required "external_id" .text)
    |>.app (.required "version_id" Json.id)
    |>.app (.required "created_at" Json.instant)

def decoder : Decoder Consumer := fields.decoder false

end Consumer

namespace Topic

def toJson (t : Topic) : Json := .object [
  ("id", .string t.id.text),
  ("tenant_id", .string t.tenantId.text),
  ("name", .string t.name),
  ("created_at", .string t.createdAt.text)]

def fields : Record Topic :=
  (Record.make Topic.mk).app (.required "id" Json.id)
    |>.app (.required "tenant_id" Json.id)
    |>.app (.required "name" .text)
    |>.app (.required "created_at" Json.instant)

def decoder : Decoder Topic := fields.decoder false

end Topic

namespace Version

def toJson (v : Version) : Json := .object [
  ("id", .string v.id.text),
  ("tenant_id", .string v.tenantId.text),
  ("version", .string v.name),
  ("created_at", .string v.createdAt.text)]

def fields : Record Version :=
  (Record.make Version.mk).app (.required "id" Json.id)
    |>.app (.required "tenant_id" Json.id)
    |>.app (.required "version" .text)
    |>.app (.required "created_at" Json.instant)

def decoder : Decoder Version := fields.decoder false

end Version

namespace Duration

def toJson (d : Duration) : Json :=
  .object [("secs", .nat d.seconds), ("nanos", .nat d.subsecond)]

end Duration

namespace ClientSettings

def toJson (s : ClientSettings) : Json := .object [
  ("timeout", s.timeout.toJson),
  ("user_agent", .string s.userAgent)]

def fields : Record ClientSettings :=
  (Record.make ClientSettings.mk).app (.required "timeout" Json.duration)
    |>.app (.required "user_agent" .text)

def decoder : Decoder ClientSettings := fields.decoder false

end ClientSettings

end Courier

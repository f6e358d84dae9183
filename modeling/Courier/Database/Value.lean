import Courier.Event.Directory
import Courier.Event.Event
import Courier.Error

/-!
# Database values

The values that statements bind and rows hold, and how the columns of a row are read. A column that
is missing, or whose value is not of the kind that is read, makes the row undecodable.
-/

namespace Courier

inductive Value where
  | null
  | bool (b : Bool)
  | int32 (n : Int32)
  | int64 (n : Int64)
  | text (s : String)
  | uuid (u : Uuid)
  | date (d : Date)
  | time (t : Instant)
  | json (v : Json)
  | array (items : List Value)
  /-- An identifier that no entity has yet. -/
  | freshId

def Value.option {α : Type} (f : α → Value) : Option α → Value
  | some a => f a
  | none => null

def Value.id {e : Entity} (i : Id e) : Value := uuid i.uuid

/-- The values of a row by the names of their columns. -/
abbrev Row := List (String × Value)

namespace Row

variable {α : Type}

def read (f : Value → Option α) (column : String) (r : Row) : Except StorageError α :=
  match (r.find? (·.1 = column)).bind fun c => f c.2 with
  | some a => .ok a
  | none => .error .undecodableRow

/-- Reads a value that may be missing. -/
def nullable (f : Value → Option α) : Value → Option (Option α)
  | .null => some none
  | v => (f v).map some

def bool? : Value → Option Bool
  | .bool b => some b
  | _ => none

def int32? : Value → Option Int32
  | .int32 n => some n
  | _ => none

def int64? : Value → Option Int64
  | .int64 n => some n
  | _ => none

def text? : Value → Option String
  | .text s => some s
  | _ => none

def id? {e : Entity} : Value → Option (Id e)
  | .uuid u => some ⟨u⟩
  | _ => none

def date? : Value → Option Date
  | .date d => some d
  | _ => none

def time? : Value → Option Instant
  | .time t => some t
  | _ => none

def json? : Value → Option Json
  | .json v => some v
  | _ => none

def state? (v : Value) : Option DeliveryState := (text? v).bind DeliveryState.ofName?

def textMember? : String × Json → Option (String × String)
  | (k, .string s) => some (k, s)
  | _ => none

/-- The texts of an object; none if a member is no text. -/
def texts? : Value → Option (Dict String)
  | .json (.object members) => (members.mapM textMember?).map Dict.ofList
  | _ => none

def first (f : Value → Option α) : Row → Except StorageError α
  | (_, v) :: _ =>
    match f v with
    | some a => .ok a
    | none => .error .undecodableRow
  | [] => .error .undecodableRow

def event (r : Row) : Except StorageError Event := do
  return {
    id := ← r.read id? "id"
    state := ← r.read state? "state"
    tenantId := ← r.read id? "tenant_id"
    consumerId := ← r.read id? "consumer_id"
    topicId := ← r.read id? "topic_id"
    versionId := ← r.read id? "version_id"
    subscriptionId := ← r.read id? "subscription_id"
    tryCount := ← r.read int32? "try_count"
    requestHeaders := ← r.read (nullable texts?) "request_headers"
    requestBody := ← r.read (nullable json?) "request_body"
    url := ← r.read (nullable text?) "url"
    responseHeaders := ← r.read (nullable texts?) "response_headers"
    responseBody := ← r.read (nullable text?) "response_body"
    responseCode := ← r.read (nullable int32?) "response_code"
    durationMillis := ← r.read (nullable int64?) "duration_ms"
    createdAt := ← r.read time? "created_at"
    updatedAt := ← r.read time? "updated_at"
    deliveredAt := ← r.read (nullable time?) "delivered_at"
    partitionDate := ← r.read date? "partition_date" }

def pendingDelivery (r : Row) : Except StorageError PendingDelivery := do
  return {
    eventId := ← r.read id? "event_id"
    url := ← r.read text? "url"
    headers := ← r.read (nullable texts?) "request_headers"
    body := ← r.read (nullable text?) "request_body" }

def attempt (r : Row) : Except StorageError Attempt := do
  return {
    eventId := ← r.read id? "event_id"
    state := ← r.read state? "state"
    subscriptionId := ← r.read id? "subscription_id"
    tryCount := (← r.read int32? "try_count").toInt
    createdAt := ← r.read time? "created_at" }

def subscription (r : Row) : Except StorageError Subscription := do
  return {
    id := ← r.read id? "id"
    tenantId := ← r.read id? "tenant_id"
    consumerId := ← r.read id? "consumer_id"
    topicId := ← r.read id? "topic_id"
    url := ← r.read text? "url"
    createdAt := ← r.read time? "created_at"
    updatedAt := ← r.read time? "updated_at"
    isActive := ← r.read bool? "is_active"
    isFailing := ← r.read bool? "is_failing" }

def consumer (r : Row) : Except StorageError Consumer := do
  return {
    id := ← r.read id? "id"
    tenantId := ← r.read id? "tenant_id"
    externalId := ← r.read text? "external_id"
    versionId := ← r.read id? "version_id"
    createdAt := ← r.read time? "created_at" }

def topic (r : Row) : Except StorageError Topic := do
  return {
    id := ← r.read id? "id"
    tenantId := ← r.read id? "tenant_id"
    name := ← r.read text? "name"
    createdAt := ← r.read time? "created_at" }

def version (r : Row) : Except StorageError Version := do
  return {
    id := ← r.read id? "id"
    tenantId := ← r.read id? "tenant_id"
    name := ← r.read text? "version"
    createdAt := ← r.read time? "created_at" }

end Row

end Courier

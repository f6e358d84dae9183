import Courier.Calendar.Clock
import Courier.Data.Dict
import Courier.Event.State
import Courier.Identity.Id
import Courier.Json.Value

/-!
# Events

An event is a message for one subscription, with the payload in the version that its consumer
reads, and a record of the latest attempt to deliver it.
-/

namespace Courier

structure Event where
  id : EventId
  state : DeliveryState
  tenantId : TenantId
  consumerId : ConsumerId
  topicId : TopicId
  versionId : VersionId
  subscriptionId : SubscriptionId
  tryCount : Int32
  requestHeaders : Option (Dict String)
  requestBody : Option Json
  url : Option String
  responseHeaders : Option (Dict String)
  responseBody : Option String
  responseCode : Option Int32
  durationMillis : Option Int64
  createdAt : Instant
  updatedAt : Instant
  deliveredAt : Option Instant
  /-- The day whose partition holds the event. -/
  partitionDate : Date
  deriving DecidableEq

/-- An event that a tenant asks to be delivered, with a payload for each of its versions. -/
structure NewEvent where
  tenantId : TenantId
  consumerId : ConsumerId
  topicName : String
  /-- The payloads by the names of the versions. -/
  versionedPayload : Dict Json
  headers : Dict String
  deriving DecidableEq

/-- What is posted for an event. -/
structure PendingDelivery where
  eventId : EventId
  url : String
  headers : Option (Dict String)
  body : Option String
  deriving DecidableEq

/-- The part of an event, after an attempt has been recorded, that decides what follows. -/
structure Attempt where
  eventId : EventId
  state : DeliveryState
  subscriptionId : SubscriptionId
  tryCount : Int
  createdAt : Instant
  deriving DecidableEq

structure RetryEntry where
  eventId : EventId
  executeAt : Instant
  deriving DecidableEq

end Courier

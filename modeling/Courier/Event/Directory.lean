import Courier.Calendar.Instant
import Courier.Identity.Id

/-!
# The directory of a tenant

A tenant has topics, payload versions, consumers, and subscriptions of consumers to topics.
-/

namespace Courier

structure Subscription where
  id : SubscriptionId
  tenantId : TenantId
  consumerId : ConsumerId
  topicId : TopicId
  url : String
  createdAt : Instant
  updatedAt : Instant
  isActive : Bool
  isFailing : Bool
  deriving DecidableEq

/-- Only an active subscription that is not failing gets events. -/
def Subscription.acceptsDeliveries (s : Subscription) : Bool := s.isActive && !s.isFailing

/-- A receiver of events, with the version in which it reads payloads. -/
structure Consumer where
  id : ConsumerId
  tenantId : TenantId
  externalId : String
  versionId : VersionId
  createdAt : Instant
  deriving DecidableEq

structure Topic where
  id : TopicId
  tenantId : TenantId
  name : String
  createdAt : Instant
  deriving DecidableEq

structure Version where
  id : VersionId
  tenantId : TenantId
  name : String
  createdAt : Instant
  deriving DecidableEq

end Courier

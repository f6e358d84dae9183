import Courier.Database.Session

/-!
# Looking up the directory

Subscriptions, versions, topics and consumers in the database.
-/

namespace Courier

namespace Subscriptions

def get (id : SubscriptionId) : Query Subscription :=
  .first (.notFound ("subscription " ++ id.text))
    ("SELECT id, tenant_id, consumer_id, topic_id, url, created_at, updated_at, is_active, " ++
    "is_failing FROM subscriptions WHERE id = $1") [.id id] Row.subscription

def resolvingSql : String :=
  "SELECT id, tenant_id, consumer_id, topic_id, url, created_at, updated_at, is_active, " ++
    "is_failing FROM subscriptions WHERE tenant_id = $1 AND consumer_id = $2 AND topic_id = $3 " ++
    "LIMIT 1"

def unresolved (consumerId : ConsumerId) (topicId : TopicId) : StorageError :=
  .notFound ("subscription for consumer " ++ consumerId.text ++ " on topic " ++ topicId.text)

def resolve (tenantId : TenantId) (consumerId : ConsumerId) (topicId : TopicId) :
    Query Subscription :=
  .first (unresolved consumerId topicId) resolvingSql
    [.id tenantId, .id consumerId, .id topicId] Row.subscription

def disablingSql : String :=
  "UPDATE subscriptions SET is_active = FALSE, is_failing = TRUE, " ++
    "updated_at = NOW() WHERE id = ANY($1)"

def disable (ids : List SubscriptionId) : Query Nat :=
  if ids.isEmpty then pure 0
  else (Query.run disablingSql [.array (ids.map .id)]).onWrite

end Subscriptions

namespace Versions

def listingSql : String :=
  "SELECT id, tenant_id, version, created_at FROM versions WHERE tenant_id = $1 " ++
    "ORDER BY created_at"

def list (tenantId : TenantId) : Query (List Version) :=
  .all listingSql [.id tenantId] Row.version

/-- The names of a tenant's versions. Of several versions with one identifier the last counts. -/
def names (versions : List Version) : List (VersionId × String) :=
  versions.foldl (fun m v => (m.filter (·.1 ≠ v.id)) ++ [(v.id, v.name)]) []

end Versions

namespace Topics

def findingSql : String :=
  "SELECT id, tenant_id, name, created_at FROM topics WHERE tenant_id = $1 AND name = $2 " ++
    "LIMIT 1"

def unknown (name : String) : StorageError := .notFound ("topic " ++ name)

def find (tenantId : TenantId) (name : String) : Query Topic :=
  .first (unknown name) findingSql [.id tenantId, .text name] Row.topic

end Topics

namespace Consumers

def readingSql : String :=
  "SELECT id, tenant_id, external_id, version_id, created_at FROM consumers WHERE id = $1"

def unknown (id : ConsumerId) : StorageError := .notFound ("consumer " ++ id.text)

def get (id : ConsumerId) : Query Consumer :=
  .first (unknown id) readingSql [.id id] Row.consumer

end Consumers

end Courier

import Courier.Database.Directory
import Courier.Database.EventLog
import Courier.Database.Queues
import Courier.Text.Quoted

/-!
# Admission

A tenant's event is admitted if it brings a payload for exactly the versions of the tenant and
names a topic, a consumer and by them a subscription of the tenant. It is then stored with the
payload that the consumer reads and put into the main queue, in one transaction.
-/

namespace Courier.Admission

def versionMismatch (missing unknown : OrderedSet String) : StorageError :=
  .validation ("payload versions do not match tenant versions (missing: " ++
    Text.quotedList missing.toList ++ ", unknown: " ++ Text.quotedList unknown.toList ++ ")")

def noPayload (c : Consumer) : StorageError :=
  .validation ("no payload for version " ++ c.versionId.text ++ " of consumer " ++ c.id.text)

def payload? (versions : List (VersionId × String)) (event : NewEvent) (c : Consumer) :
    Option Json :=
  ((versions.find? (·.1 = c.versionId)).map (·.2)).bind event.versionedPayload.get?

/-- The event that is to be created, once all it names is found. -/
def draft (event : NewEvent) : Query EventDraft := do
  let versions := Versions.names (← Versions.list event.tenantId)
  let declared := OrderedSet.ofList (versions.map (·.2))
  let provided := event.versionedPayload.keySet
  if declared ≠ provided then
    throw (versionMismatch (declared.diff provided) (provided.diff declared))
  let topic ← Topics.find event.tenantId event.topicName
  let consumer ← Consumers.get event.consumerId
  if consumer.tenantId ≠ event.tenantId then
    throw (.notFound ("consumer " ++ event.consumerId.text))
  let subscription ← Subscriptions.resolve event.tenantId consumer.id topic.id
  match payload? versions event consumer with
  | none => throw (noPayload consumer)
  | some payload =>
    return ⟨event.tenantId, consumer.id, topic.id, consumer.versionId, subscription.id,
      event.headers, payload⟩

def store (event : NewEvent) (today : Date) : Query EventId := do
  let id ← EventLog.create (← draft event) today
  let _ ← (MainQueue.enqueue id).onWrite
  return id

def accept (event : NewEvent) (today : Date) : Query EventId := do
  Query.beginTransaction.onWrite
  let id ← (store event today).orAbandon
  Query.commit.onWrite
  return id

end Courier.Admission

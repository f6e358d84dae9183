import Courier.Sending.Store

/-!
# A store in memory

A store that keeps events, the URLs of subscriptions and the retries in lists. It can be told to
fail. `record_length` says that recording makes one attempt of each response to an event it has.
-/

namespace Courier

structure StoredEvent where
  eventId : EventId
  subscriptionId : SubscriptionId
  state : DeliveryState
  tryCount : Int
  createdAt : Instant
  headers : Dict String
  body : String
  responseCode : Option Nat
  deriving DecidableEq

structure MemoryStore where
  events : List StoredEvent
  urls : List (SubscriptionId × String)
  disabled : OrderedSet SubscriptionId
  retries : List RetryEntry
  failsRetries : Bool
  failsRecords : Bool

namespace MemoryStore

def empty : MemoryStore := ⟨[], [], .empty, [], false, false⟩

def event? (m : MemoryStore) (id : EventId) : Option StoredEvent :=
  m.events.find? (·.eventId = id)

def url? (m : MemoryStore) (id : SubscriptionId) : Option String :=
  (m.urls.find? (·.1 = id)).map (·.2)

def newEvent (id : EventId) (subscription : SubscriptionId) (tryCount : Int) (createdAt : Instant) :
    StoredEvent where
  eventId := id
  subscriptionId := subscription
  state := .pending
  tryCount := tryCount
  createdAt := createdAt
  headers := .ofList [("x-request-id", id.text)]
  body := "\x7b\"amount\":42\x7d"
  responseCode := none

def addEvent (m : MemoryStore) (e : StoredEvent) : MemoryStore :=
  { m with events := e :: m.events.filter (·.eventId ≠ e.eventId) }

def addSubscription (m : MemoryStore) (id : SubscriptionId) (url : String) : MemoryStore :=
  { m with urls := (id, url) :: m.urls.filter (·.1 ≠ id) }

def disable (m : MemoryStore) (id : SubscriptionId) : MemoryStore :=
  { m with disabled := m.disabled.insert id }

/-- What is posted for an event, unless its subscription is disabled or has no URL. -/
def pending? (m : MemoryStore) (id : EventId) : Option PendingDelivery :=
  (m.event? id).bind fun e =>
    if e.subscriptionId ∈ m.disabled then none
    else (m.url? e.subscriptionId).map fun url => ⟨e.eventId, url, some e.headers, some e.body⟩

def StoredEvent.record (e : StoredEvent) (r : Response) : StoredEvent :=
  { e with state := r.state, tryCount := e.tryCount + 1, responseCode := r.status }

/-- Records the responses one after the other; responses to unknown events are passed over. -/
def record (m : MemoryStore) : List Response → List Attempt × MemoryStore
  | [] => ([], m)
  | r :: rest =>
    match m.event? r.eventId with
    | none => record m rest
    | some e =>
      let e := StoredEvent.record e r
      let events := m.events.map fun f => if f.eventId = e.eventId then e else f
      let (as, final) := record { m with events } rest
      (⟨e.eventId, e.state, e.subscriptionId, e.tryCount, e.createdAt⟩ :: as, final)

def recordFailure : StorageError := .validation "injected record failure"

def retryFailure : StorageError := .validation "injected retry enqueue failure"

def store : SendStore MemoryStore where
  listForSending ids _ := Action.look fun m => ids.filterMap m.pending?
  recordAttempts responses _ := Action.make fun m =>
    if m.failsRecords then (.error recordFailure, m)
    else
      let (as, m) := m.record responses
      (.ok as, m)
  enqueueRetries entries := Action.make fun m =>
    if m.failsRetries then (.error retryFailure, m)
    else (.ok (), { m with retries := m.retries ++ entries })
  disableSubscriptions ids := Action.make fun m =>
    let disabled := ids.foldr .insert m.disabled
    (.ok (disabled.size - m.disabled.size), { m with disabled })

theorem record_length (m : MemoryStore) (rs : List Response) :
    (m.record rs).1.length = (rs.filter fun r => (m.event? r.eventId).isSome).length := by
  induction rs generalizing m with
  | nil => rfl
  | cons r rest ih =>
    rw [record]
    split
    · next h => simp [h, ih]
    · next e h =>
      have known : ∀ id, (({ m with events := m.events.map fun f =>
          if f.eventId = (StoredEvent.record e r).eventId then StoredEvent.record e r else f } :
            MemoryStore).event? id).isSome = (m.event? id).isSome := by
        intro id
        rw [event?, event?, Bool.eq_iff_iff]
        simp only [List.find?_isSome, List.mem_map, decide_eq_true_eq]
        constructor
        · rintro ⟨_, ⟨f, hf, rfl⟩, hid⟩
          split at hid
          · next he => exact ⟨f, hf, by rw [he]; exact hid⟩
          · exact ⟨f, hf, hid⟩
        · rintro ⟨f, hf, hid⟩
          by_cases he : f.eventId = (StoredEvent.record e r).eventId
          · exact ⟨_, ⟨f, hf, rfl⟩, by simp [he, ← hid]⟩
          · exact ⟨_, ⟨f, hf, rfl⟩, by rw [if_neg he]; exact hid⟩
      simp only [List.length_cons, ih, known]
      simp [h]

end MemoryStore

end Courier

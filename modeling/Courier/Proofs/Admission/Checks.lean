import Mathlib.Data.List.Induction
import Courier.Admission
import Courier.Proofs.Data.OrderedSet
import Courier.Proofs.Database.Script

/-!
# The checks of an admission

What the database has to reply for an event to be admissible, and what its admission sends until
the event is drafted. `mem_names` says which names a tenant's versions have when several rows share
an identifier.
-/

namespace Courier

theorem Dict.mem_keySet {α : Type} {d : Dict α} {key : String} :
    key ∈ d.keySet ↔ ∃ v, d.get? key = some v := by
  show key ∈ d.entries.map (·.1) ↔ _
  unfold get?
  constructor
  · intro member
    obtain ⟨entry, present, rfl⟩ := List.mem_map.mp member
    have some : (d.entries.find? (·.1 == entry.1)).isSome :=
      List.find?_isSome.mpr ⟨entry, present, beq_self_eq_true _⟩
    obtain ⟨found, same⟩ := Option.isSome_iff_exists.mp some
    exact ⟨found.2, by rw [same]; rfl⟩
  · rintro ⟨v, found⟩
    obtain ⟨entry, same, _⟩ := Option.map_eq_some_iff.mp found
    have key_eq := List.find?_some same
    exact List.mem_map.mpr ⟨entry, List.mem_of_find?_eq_some same, by simpa using key_eq⟩

namespace Versions

/-- The name of a version among the rows of a tenant; the last row with its identifier counts. -/
def name? (versions : List Version) (id : VersionId) : Option String :=
  (versions.reverse.find? (·.id = id)).map (·.name)

variable {versions : List Version} {id : VersionId} {name : String}

theorem name?_snoc (versions : List Version) (v : Version) (id : VersionId) :
    name? (versions ++ [v]) id = if v.id = id then some v.name else name? versions id := by
  unfold name?
  rw [List.reverse_append, List.reverse_singleton, List.singleton_append, List.find?_cons]
  by_cases same : v.id = id <;> simp [same]

theorem names_snoc (versions : List Version) (v : Version) :
    names (versions ++ [v]) = (names versions).filter (·.1 ≠ v.id) ++ [(v.id, v.name)] := by
  simp [names]

theorem mem_names : (id, name) ∈ names versions ↔ name? versions id = some name := by
  induction versions using List.reverseRecOn with
  | nil => simp [names, name?]
  | append_singleton versions v ih =>
    rw [names_snoc, name?_snoc, List.mem_append, List.mem_filter, ih, List.mem_singleton]
    by_cases same : v.id = id
    · rw [if_pos same]
      simp [same, eq_comm]
    · rw [if_neg same]
      simp [Ne.symm same]

theorem find?_names :
    ((names versions).find? (·.1 = id)).map (·.2) = name? versions id := by
  cases found : (names versions).find? (·.1 = id) with
  | none =>
    rw [List.find?_eq_none] at found
    cases known : name? versions id with
    | none => rfl
    | some name => exact absurd (found _ (mem_names.mpr known)) (by simp)
  | some entry =>
    obtain ⟨key, name⟩ := entry
    have same : key = id := by simpa using List.find?_some found
    subst same
    exact (mem_names.mp (List.mem_of_find?_eq_some found)).symm

end Versions

namespace Admission

/-- What the database finds for an event, and the payload that its consumer reads. -/
structure Findings where
  versions : List Version
  topic : Topic
  consumer : Consumer
  subscription : Subscription
  version : String
  payload : Json

/-! ### The statements -/

section Statements

variable (event : NewEvent) (today : Date) (topic : Topic) (consumer : Consumer) (f : Findings)
  (id : EventId)

def listing : Sent := .statement Versions.listingSql [.id event.tenantId]

def naming : Sent := .statement Topics.findingSql [.id event.tenantId, .text event.topicName]

def addressing : Sent := .statement Consumers.readingSql [.id event.consumerId]

def resolving : Sent :=
  .statement Subscriptions.resolvingSql [.id event.tenantId, .id consumer.id, .id topic.id]

/-- What is sent until an event is drafted. -/
def lookups : List Sent :=
  [.control .begin, listing event, naming event, addressing event, resolving event topic consumer]

def creating : Sent :=
  .statement EventLog.creationSql
    [.freshId, .text "PENDING", .id event.tenantId, .id f.consumer.id, .id f.topic.id,
      .id f.consumer.versionId, .id f.subscription.id, .json (.texts event.headers),
      .json f.payload, .date today]

def entering : Sent := .statement MainQueue.entrySql [.id id]

end Statements

/-! ### The checks, each with those before it -/

section Checks

variable (event : NewEvent) (s : Session)

/-- The event brings payloads for exactly the names of these versions. -/
def Matches (versions : List Version) : Prop :=
  ∀ name, (∃ id, Versions.name? versions id = some name) ↔
    ∃ payload, event.versionedPayload.get? name = some payload

structure Declared (versions : List Version) : Prop where
  begins : s.Begins
  listed : (s.reply 0).all Row.version = .ok versions
  complete : Matches event versions

structure Named (versions : List Version) (topic : Topic) : Prop
    extends Declared event s versions where
  topic_found : (s.reply 1).Shows Row.topic topic

structure Addressed (versions : List Version) (topic : Topic) (consumer : Consumer) : Prop
    extends Named event s versions topic where
  consumer_found : (s.reply 2).Shows Row.consumer consumer
  own : consumer.tenantId = event.tenantId

structure Resolved (versions : List Version) (topic : Topic) (consumer : Consumer)
    (subscription : Subscription) : Prop extends Addressed event s versions topic consumer where
  subscription_found : (s.reply 3).Shows Row.subscription subscription

/-- All checks are passed with these findings. -/
structure Admissible (f : Findings) : Prop
    extends Resolved event s f.versions f.topic f.consumer f.subscription where
  version_known : Versions.name? f.versions f.consumer.versionId = some f.version
  brought : event.versionedPayload.get? f.version = some f.payload

end Checks

/-! ### Drafting an event -/

section Drafting

variable {event : NewEvent} {s : Session} {versions : List Version} {topic : Topic}
  {consumer : Consumer} {subscription : Subscription} {version : String} {e : StorageError}

def declaredNames (versions : List Version) : OrderedSet String :=
  .ofList ((Versions.names versions).map (·.2))

theorem mem_declaredNames {name : String} :
    name ∈ declaredNames versions ↔ ∃ id, Versions.name? versions id = some name := by
  simp [declaredNames, OrderedSet.mem_ofList, Versions.mem_names]

theorem matches_iff :
    Matches event versions ↔ declaredNames versions = event.versionedPayload.keySet := by
  constructor
  · intro complete
    refine OrderedSet.eq_of_mem_iff fun name => ?_
    rw [mem_declaredNames, Dict.mem_keySet]
    exact complete name
  · intro same name
    rw [← mem_declaredNames, same, Dict.mem_keySet]

theorem payload?_eq : payload? (Versions.names versions) event consumer =
    (Versions.name? versions consumer.versionId).bind event.versionedPayload.get? := by
  rw [payload?, Versions.find?_names]

theorem Resolved.admissible (resolved : Resolved event s versions topic consumer subscription)
    (known : Versions.name? versions consumer.versionId = some version) :
    ∃ payload, Admissible event s ⟨versions, topic, consumer, subscription, version, payload⟩ := by
  obtain ⟨payload, brought⟩ := (resolved.complete version).mp ⟨_, known⟩
  exact ⟨payload, resolved, known, brought⟩

def afterResolving (event : NewEvent) (versions : List Version) (topic : Topic)
    (consumer : Consumer) (subscription : Subscription) : Query EventDraft :=
  match payload? (Versions.names versions) event consumer with
  | none => throw (noPayload consumer)
  | some payload =>
    return ⟨event.tenantId, consumer.id, topic.id, consumer.versionId, subscription.id,
      event.headers, payload⟩

def afterAddressing (event : NewEvent) (versions : List Version) (topic : Topic)
    (consumer : Consumer) : Query EventDraft := do
  if consumer.tenantId ≠ event.tenantId then
    throw (.notFound ("consumer " ++ event.consumerId.text))
  let subscription ← Subscriptions.resolve event.tenantId consumer.id topic.id
  afterResolving event versions topic consumer subscription

def afterNaming (event : NewEvent) (versions : List Version) (topic : Topic) :
    Query EventDraft := do
  let consumer ← Consumers.get event.consumerId
  afterAddressing event versions topic consumer

def afterListing (event : NewEvent) (versions : List Version) : Query EventDraft :=
  if declaredNames versions = event.versionedPayload.keySet then
    Topics.find event.tenantId event.topicName >>= afterNaming event versions
  else
    throw (versionMismatch ((declaredNames versions).diff event.versionedPayload.keySet)
      (event.versionedPayload.keySet.diff (declaredNames versions)))

theorem draft_eq : draft event = Versions.list event.tenantId >>= afterListing event := by
  unfold draft
  congr 1
  funext versions
  unfold afterListing declaredNames
  split
  · next same => rw [if_neg (not_not.mpr same)]; rfl
  · next differ => rw [if_pos differ]; rfl

theorem Declared.run (declared : Declared event s versions) :
    ∃ t, s.Stands 1 [.control .begin, listing event] t ∧
      (draft event).runOn s.begun =
        (Topics.find event.tenantId event.topicName >>= afterNaming event versions).runOn t := by
  refine ⟨_, s.begun_stands.asked (Reply.answers_of_all declared.listed) (listing event), ?_⟩
  rw [draft_eq]
  refine (Action.runOn_bind_of_ok (s.begun_stands.all.trans (by rw [declared.listed]))).trans ?_
  unfold afterListing
  rw [if_pos (matches_iff.mp declared.complete)]
  rfl

theorem Named.run (named : Named event s versions topic) :
    ∃ t, s.Stands 2 [.control .begin, listing event, naming event] t ∧
      (draft event).runOn s.begun =
        (Consumers.get event.consumerId >>= afterAddressing event versions topic).runOn t := by
  obtain ⟨t, stands, run⟩ := named.toDeclared.run
  have found := (Reply.first_ok (Topics.unknown event.topicName)).mpr named.topic_found
  refine ⟨_, stands.asked (Reply.answers_of_first found) (naming event), run.trans ?_⟩
  exact Action.runOn_bind_of_ok (stands.first.trans (by rw [found]; rfl))

/-- A consumer of another tenant is told of as one that there is not. -/
theorem foreign_run {n : Nat} {sent : List Sent} (stands : s.Stands n sent t)
    (found : (s.reply n).Shows Row.consumer consumer) (other : consumer.tenantId ≠ event.tenantId) :
    (Consumers.get event.consumerId >>= afterAddressing event versions topic).runOn t =
      (.error (Consumers.unknown event.consumerId), t.asked (addressing event)) := by
  have read := (Reply.first_ok (Consumers.unknown event.consumerId)).mpr found
  refine (Action.runOn_bind_of_ok (stands.first.trans (by rw [read]))).trans ?_
  unfold afterAddressing
  rw [if_pos other]
  rfl

theorem Addressed.run (addressed : Addressed event s versions topic consumer) :
    ∃ t, s.Stands 3 [.control .begin, listing event, naming event, addressing event] t ∧
      (draft event).runOn s.begun =
        (Subscriptions.resolve event.tenantId consumer.id topic.id >>=
          afterResolving event versions topic consumer).runOn t := by
  obtain ⟨t, stands, run⟩ := addressed.toNamed.run
  have found := (Reply.first_ok (Consumers.unknown event.consumerId)).mpr
    addressed.consumer_found
  refine ⟨_, stands.asked (Reply.answers_of_first found) (addressing event), run.trans ?_⟩
  refine (Action.runOn_bind_of_ok (stands.first.trans (by rw [found]))).trans ?_
  unfold afterAddressing
  rw [if_neg (not_not.mpr addressed.own)]
  rfl

theorem Resolved.run (resolved : Resolved event s versions topic consumer subscription) :
    ∃ t, s.Stands 4 (lookups event topic consumer) t ∧
      (draft event).runOn s.begun =
        (afterResolving event versions topic consumer subscription).runOn t := by
  obtain ⟨t, stands, run⟩ := resolved.toAddressed.run
  have found := (Reply.first_ok (Subscriptions.unresolved consumer.id topic.id)).mpr
    resolved.subscription_found
  refine ⟨_, stands.asked (Reply.answers_of_first found) (resolving event topic consumer),
    run.trans ?_⟩
  exact Action.runOn_bind_of_ok (stands.first.trans (by rw [found]; rfl))

end Drafting

end Admission

end Courier

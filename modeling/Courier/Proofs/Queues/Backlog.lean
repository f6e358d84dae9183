import Courier.Proofs.Sending.Effect
import Mathlib.Algebra.Order.Group.Multiset
import Mathlib.Logic.Relation

/-!
# The backlog

A backlog is a store with the queue entries that wait for an attempt. A cycle takes some entries,
sends their events and puts the retries in the place of the entries, or leaves everything as it was;
an admission adds an event with an entry of its own. `Sends.of_sent` says what a batch without
repetitions does to an event.
-/

namespace Courier

namespace MemoryStore

variable {m m' : MemoryStore} {transport : Transport} {ids : List EventId}
  {added : List RetryEntry} {id : EventId} {e : StoredEvent}

theorem times_of_repeats {as : List Attempt} (repeats : List.Forall₂ RetryEntry.Repeats added as) :
    added.map (some ·.executeAt) =
      as.map fun a => a.createdAt.plus? (3 ^ a.tryCount.toNat * 1000000000) := by
  induction repeats with
  | nil => rfl
  | cons first _ ih => rw [List.map_cons, List.map_cons, ih, first.2]

theorem repeats_of_event {as : List Attempt} (id : EventId)
    (repeats : List.Forall₂ RetryEntry.Repeats added (as.filter (·.isRetriable))) :
    List.Forall₂ RetryEntry.Repeats (added.filter (·.eventId = id))
      ((as.filter (·.eventId = id)).filter (·.isRetriable)) := by
  rw [List.filter_comm]
  refine List.rel_filter ?_ repeats
  intro r a same
  simp [same.1]

namespace Sends

theorem of_unknown (sends : Sends m ids m' added) (unknown : m.event? id = none) :
    m'.event? id = none ∧ added.filter (·.eventId = id) = [] := by
  obtain ⟨transport, _, left, repeats, _⟩ := sends_effect sends
  have none := repeats_of_event id repeats
  rw [attempts_of_unknown unknown, List.filter_nil] at none
  rw [left, unknown]
  exact ⟨rfl, List.forall₂_nil_right_iff.mp none⟩

theorem exists_event? (sends : Sends m ids m' added) (found : m.event? id = some e) :
    ∃ f, m'.event? id = some f ∧
      f = { e with state := f.state, tryCount := f.tryCount, responseCode := f.responseCode } := by
  obtain ⟨transport, _, left, _⟩ := sends_effect sends
  refine ⟨e.after (m.sendings ids e) (m.outcome transport e), by rw [left, found]; rfl, ?_⟩
  unfold StoredEvent.after
  split <;> rfl

theorem event?_eq_none_iff (sends : Sends m ids m' added) :
    m'.event? id = none ↔ m.event? id = none := by
  obtain ⟨transport, _, left, _⟩ := sends_effect sends
  rw [left, Option.map_eq_none_iff]

/-- An event that is not in the batch or whose subscription gets no events stays as it is. -/
theorem of_skipped (sends : Sends m ids m' added) (found : m.event? id = some e)
    (skipped : id ∈ ids → ¬ m.accepts e.subscriptionId) :
    m'.event? id = some e ∧ added.filter (·.eventId = id) = [] := by
  obtain ⟨transport, _, left, repeats, _⟩ := sends_effect sends
  have idle : m.sendings ids e = 0 := by
    unfold sendings
    rw [eventId_of_event? found]
    split
    · next accepted => exact List.count_eq_zero.mpr fun member => skipped member accepted
    · rfl
  have none := repeats_of_event id repeats
  rw [attempts_of_event found, idle] at none
  rw [left, found, Option.map_some, idle]
  exact ⟨rfl, List.forall₂_nil_right_iff.mp none⟩

/-- An event of the batch gets one more try, and then it is delivered, entered for a retry or its
subscription is disabled. -/
theorem of_sent (sends : Sends m ids m' added) (distinct : ids.Nodup)
    (found : m.event? id = some e) (member : id ∈ ids) (accepted : m.accepts e.subscriptionId) :
    ∃ o : Outcome,
      m'.event? id = some (e.after 1 o) ∧
      (added.filter (·.eventId = id)).map (some ·.executeAt) =
        (if (e.after 1 o).attempt.isRetriable then
          [e.createdAt.plus? (3 ^ (e.tryCount + 1).toNat * 1000000000)]
        else []) ∧
      ((e.after 1 o).attempt.isExhausted → e.subscriptionId ∈ m'.disabled) := by
  obtain ⟨transport, _, left, repeats, disabled⟩ := sends_effect sends
  have once : m.sendings ids e = 1 := by
    unfold sendings
    rw [if_pos accepted, eventId_of_event? found]
    exact List.count_eq_one_of_mem distinct member
  have one : (m.attempts transport ids).filter (·.eventId = id) =
      [(e.after 1 (m.outcome transport e)).attempt] := by
    rw [attempts_of_event found, once]
    rfl
  refine ⟨m.outcome transport e, ?_, ?_, fun exhausted => ?_⟩
  · rw [left, found, Option.map_some, once]
  · rw [times_of_repeats (repeats_of_event id repeats), one]
    by_cases retriable : (e.after 1 (m.outcome transport e)).attempt.isRetriable
    · rw [List.filter_cons_of_pos retriable, if_pos retriable]
      rfl
    · rw [List.filter_cons_of_neg retriable, if_neg retriable]
      rfl
  · have made : (e.after 1 (m.outcome transport e)).attempt ∈ m.attempts transport ids := by
      refine List.mem_of_mem_filter (p := (·.eventId = id)) ?_
      rw [one]
      exact List.mem_singleton_self _
    refine (disabled _).mpr (.inr ⟨_, made, exhausted, ?_⟩)
    rw [StoredEvent.attempt, StoredEvent.after_subscriptionId]

theorem retries_eq (sends : Sends m ids m' added) : m'.retries = m.retries ++ added := by
  obtain ⟨_, _, _, _, entered⟩ := sends
  exact entered

theorem urls_eq (sends : Sends m ids m' added) : m'.urls = m.urls := by
  obtain ⟨_, urls, _⟩ := sends_effect sends
  exact urls

theorem mem_disabled (sends : Sends m ids m' added) {s : SubscriptionId} (member : s ∈ m.disabled) :
    s ∈ m'.disabled := by
  obtain ⟨_, _, _, _, disabled⟩ := sends_effect sends
  exact (disabled s).mpr (.inl member)

/-- A subscription is disabled only for an event of it that has failed its last try. -/
theorem exists_of_mem_disabled (sends : Sends m ids m' added) {s : SubscriptionId}
    (member : s ∈ m'.disabled) :
    s ∈ m.disabled ∨
      ∃ id e, m'.event? id = some e ∧ e.subscriptionId = s ∧ e.attempt.isExhausted := by
  obtain ⟨transport, _, left, _, disabled⟩ := sends_effect sends
  refine ((disabled s).mp member).imp_right ?_
  rintro ⟨a, made, exhausted, same⟩
  obtain ⟨e, n, found, positive, most, rfl⟩ := mem_attempts made
  refine ⟨_, e.after (m.sendings ids e) (m.outcome transport e), by rw [left, found]; rfl, ?_, ?_⟩
  · rw [StoredEvent.after_subscriptionId, ← same]
    exact (e.after_subscriptionId _ _).symm
  · obtain ⟨failed, spent⟩ := Attempt.isExhausted_iff.mp exhausted
    rw [StoredEvent.attempt_state, StoredEvent.after_state positive] at failed
    rw [StoredEvent.attempt_tryCount, StoredEvent.after_tryCount] at spent
    refine Attempt.isExhausted_iff.mpr ⟨?_, ?_⟩
    · rwa [StoredEvent.attempt_state, StoredEvent.after_state (by omega)]
    · rw [StoredEvent.attempt_tryCount, StoredEvent.after_tryCount]
      omega

end Sends

end MemoryStore

inductive QueueEntry where
  | main (id : EventId)
  | retry (entry : RetryEntry)
  deriving DecidableEq

def QueueEntry.eventId : QueueEntry → EventId
  | main id => id
  | retry entry => entry.eventId

/-- A store with the queue entries that wait for an attempt. -/
structure Backlog where
  store : MemoryStore
  entries : Multiset QueueEntry

namespace Backlog

def waiting (b : Backlog) (id : EventId) : Nat := b.entries.countP (·.eventId = id)

/-- No event has been tried, and every event has one entry. -/
structure Fresh (b : Backlog) : Prop where
  pending : ∀ id e, b.store.event? id = some e → e.state = .pending
  untried : ∀ id e, b.store.event? id = some e → e.tryCount = 0
  single : ∀ id, b.waiting id = if (b.store.event? id).isSome then 1 else 0

/-- A cycle sends the events of some entries, or it fails and is undone. -/
inductive Cycle : Backlog → Backlog → Prop where
  | sent {m m' : MemoryStore} {batch : List QueueEntry} {added : List RetryEntry}
      {rest : Multiset QueueEntry} (sends : m.Sends (batch.map (·.eventId)) m' added) :
      Cycle ⟨m, ↑batch + rest⟩ ⟨m', ↑(added.map QueueEntry.retry) + rest⟩
  | undone {b : Backlog} : Cycle b b

/-- An admission adds a new event with an entry in the main queue. -/
inductive Admission : Backlog → Backlog → Prop where
  | admitted {m : MemoryStore} {entries : Multiset QueueEntry} {e : StoredEvent}
      (fresh : m.event? e.eventId = none) (pending : e.state = .pending)
      (untried : e.tryCount = 0) :
      Admission ⟨m, entries⟩ ⟨m.addEvent e, .main e.eventId ::ₘ entries⟩

def Move (b c : Backlog) : Prop := Cycle b c ∨ Admission b c

variable {m : MemoryStore} {batch : List QueueEntry} {added : List RetryEntry}
  {rest : Multiset QueueEntry} {id : EventId}

theorem waiting_batch :
    waiting ⟨m, ↑batch + rest⟩ id =
      (batch.map (·.eventId)).count id + rest.countP (·.eventId = id) := by
  unfold waiting
  rw [Multiset.countP_add, Multiset.coe_countP, List.count_eq_countP, List.countP_map]
  rfl

theorem waiting_added :
    waiting ⟨m, ↑(added.map QueueEntry.retry) + rest⟩ id =
      (added.filter (·.eventId = id)).length + rest.countP (·.eventId = id) := by
  unfold waiting
  rw [Multiset.countP_add, Multiset.coe_countP, List.countP_map, List.countP_eq_length_filter]
  rfl

theorem waiting_admitted {e : StoredEvent} {entries : Multiset QueueEntry} :
    waiting ⟨m.addEvent e, .main e.eventId ::ₘ entries⟩ id =
      waiting ⟨m, entries⟩ id + if id = e.eventId then 1 else 0 := by
  unfold waiting
  rw [Multiset.countP_cons]
  simp only [QueueEntry.eventId, eq_comm]

theorem distinct_of_waiting (single : ∀ id, waiting ⟨m, ↑batch + rest⟩ id ≤ 1) :
    (batch.map (·.eventId)).Nodup := by
  rw [List.nodup_iff_count_le_one]
  intro id
  have most := single id
  rw [waiting_batch] at most
  omega

end Backlog

end Courier

import Courier.Proofs.Sending.FollowUp
import Courier.Proofs.Sending.Recording

/-!
# The effect of a batch on a store in memory

A batch that is sent over a transport changes the events of its attempts, adds the retries and
disables the subscriptions of the attempts that were the last ones. `send_effect` gives the whole
state and the report.
-/

namespace Courier

namespace MemoryStore

variable {m m' : MemoryStore} {transport : Transport} {ids : List EventId} {asOf : Date}

def exchanging {σ : Type} (transport : Transport) (rs : List DeliveryRequest) :
    Action DeliveryError σ (List Response) :=
  pure (rs.map fun r => .ofExchange r (transport r))

def follow (m : MemoryStore) (u : Pipeline.Schedule) : MemoryStore :=
  { m with
    retries := m.retries ++ u.retries
    disabled := u.exhausted.union m.disabled }

theorem prepare_run :
    (Pipeline.prepare store ids asOf).runOn m =
      (.ok (ids.filterMap fun id => (m.pending? id).map DeliveryRequest.ofPending), m) := by
  unfold Pipeline.prepare store
  rw [Action.runOn_bind]
  simp [Except.mapError, List.map_filterMap]

theorem exchanging_run :
    (exchanging transport
      (ids.filterMap fun id => (m.pending? id).map DeliveryRequest.ofPending)).runOn m =
      (.ok (ids.filterMap (m.response? transport)), m) := by
  unfold exchanging response?
  simp [List.map_filterMap, Function.comp_def]

theorem apply_run (rs : List Response) :
    (Pipeline.apply store rs asOf).runOn m =
      if m.failsRecords then (.error (.storage recordFailure), m)
      else
        match Pipeline.schedule ⟨0, [], .empty⟩ (m.record rs).1 with
        | .error e => (.error e, (m.record rs).2)
        | .ok u =>
          if m.failsRetries then (.error (.storage retryFailure), (m.record rs).2)
          else
            (.ok ⟨(m.record rs).1.length, u.delivered, u.retries.length, u.exhausted.size⟩,
              (m.record rs).2.follow u) := by
  have flag : (m.record rs).2.failsRetries = m.failsRetries := by rw [record_frame]
  have recording : (store.recordAttempts rs asOf).runOn m =
      if m.failsRecords then (.error recordFailure, m)
      else (.ok (m.record rs).1, (m.record rs).2) := rfl
  have entering (t : MemoryStore) (entries : List RetryEntry) :
      (store.enqueueRetries entries).runOn t =
        if t.failsRetries then (.error retryFailure, t)
        else (.ok (), { t with retries := t.retries ++ entries }) := rfl
  rw [Pipeline.apply_run_eq, recording]
  by_cases records : m.failsRecords = true
  · rw [if_pos records, if_pos records]
  rw [if_neg records, if_neg records]
  dsimp only
  cases Pipeline.schedule ⟨0, [], .empty⟩ (m.record rs).1 with
  | error e => rfl
  | ok u =>
    dsimp only
    rw [entering, ← flag]
    by_cases retries : (m.record rs).2.failsRetries = true
    · rw [if_pos retries, if_pos retries]
    · rw [if_neg retries, if_neg retries]
      rfl

theorem length_attempts :
    (m.attempts transport ids).length =
      (ids.filterMap fun id => (m.pending? id).map DeliveryRequest.ofPending).length := by
  have known : ∀ r ∈ ids.filterMap (m.response? transport), (m.event? r.eventId).isSome := by
    intro r member
    obtain ⟨id, _, answered⟩ := List.mem_filterMap.mp member
    obtain ⟨e, found, _, rfl⟩ := response?_eq_some_iff.mp answered
    rw [Response.ofExchange_eventId, show (m.request e).eventId = id from eventId_of_event? found,
      found]
    rfl
  have same : ids.filterMap (m.response? transport) =
      (ids.filterMap fun id => (m.pending? id).map DeliveryRequest.ofPending).map fun r =>
        .ofExchange r (transport r) := by
    unfold response?
    simp [List.map_filterMap, Function.comp_def]
  rw [← (record_responses m transport ids).1, record_length, List.filter_eq_self.mpr known, same,
    List.length_map]

theorem send_run (busy : ids ≠ []) :
    (Pipeline.send store (exchanging transport) ids asOf).runOn m =
      match (Pipeline.apply store (ids.filterMap (m.response? transport)) asOf).runOn m with
      | (.error e, t) => (.error e, t)
      | (.ok f, t) => (.ok ⟨ids.length, (m.attempts transport ids).length, f⟩, t) := by
  unfold Pipeline.send
  rw [show ids.isEmpty = false by simpa using busy]
  simp only [Bool.false_eq_true, if_false]
  rw [Action.runOn_bind_of_ok prepare_run, Action.runOn_bind_of_ok exchanging_run,
    Action.runOn_bind, length_attempts]
  generalize (Pipeline.apply store _ asOf).runOn m = result
  obtain ⟨e | f, t⟩ := result <;> rfl

def sent (m : MemoryStore) (transport : Transport) (ids : List EventId) (u : Pipeline.Schedule) :
    MemoryStore :=
  (m.record (ids.filterMap (m.response? transport))).2.follow u

/-- A batch that is sent has been scheduled, and its schedule is the follow-up. -/
theorem send_ok {report : SendReport} (busy : ids ≠ [])
    (h : (Pipeline.send store (exchanging transport) ids asOf).runOn m = (.ok report, m')) :
    ∃ u, Pipeline.schedule ⟨0, [], .empty⟩ (m.attempts transport ids) = .ok u ∧
      m' = m.sent transport ids u := by
  rw [send_run busy, apply_run, (record_responses m transport ids).1] at h
  by_cases records : m.failsRecords = true
  · rw [if_pos records] at h
    cases h
  rw [if_neg records] at h
  cases scheduled : Pipeline.schedule ⟨0, [], .empty⟩ (m.attempts transport ids) with
  | error e => rw [scheduled] at h; cases h
  | ok u =>
    rw [scheduled] at h
    dsimp only at h
    by_cases retries : m.failsRetries = true
    · rw [if_pos retries] at h
      cases h
    · rw [if_neg retries] at h
      exact ⟨u, rfl, (Prod.mk.inj h).2.symm⟩

theorem send_of_schedule {u : Pipeline.Schedule} (busy : ids ≠ [])
    (records : m.failsRecords = false) (retries : m.failsRetries = false)
    (scheduled : Pipeline.schedule ⟨0, [], .empty⟩ (m.attempts transport ids) = .ok u) :
    (Pipeline.send store (exchanging transport) ids asOf).runOn m =
      (.ok ⟨ids.length, (m.attempts transport ids).length,
          ⟨(m.attempts transport ids).length, u.delivered, u.retries.length, u.exhausted.size⟩⟩,
        m.sent transport ids u) := by
  rw [send_run busy, apply_run, (record_responses m transport ids).1, records, scheduled, retries]
  rfl

theorem sent_frame (m : MemoryStore) (transport : Transport) (ids : List EventId)
    (u : Pipeline.Schedule) :
    m.sent transport ids u =
      { m with
        events := (m.sent transport ids u).events
        disabled := u.exhausted.union m.disabled
        retries := m.retries ++ u.retries } := by
  unfold sent follow
  rw [record_frame]

theorem event?_sent {u : Pipeline.Schedule} {id : EventId} :
    (m.sent transport ids u).event? id =
      (m.event? id).map fun e => e.after (m.sendings ids e) (m.outcome transport e) :=
  (record_responses m transport ids).2 id

/-- An attempt of a batch is one of those for which an event of the store is sent. -/
theorem mem_attempts {a : Attempt} (member : a ∈ m.attempts transport ids) :
    ∃ e n, m.event? e.eventId = some e ∧ 0 < n ∧ n ≤ m.sendings ids e ∧
      a = (e.after n (m.outcome transport e)).attempt := by
  obtain ⟨⟨id, i⟩, place, made⟩ := List.mem_filterMap.mp member
  have here : ids[i]? = some id := List.mk_mem_zipIdx_iff_getElem?.mp place
  obtain ⟨inside, here⟩ := List.getElem?_eq_some_iff.mp here
  obtain ⟨e, passed, rfl⟩ := Option.map_eq_some_iff.mp made
  obtain ⟨found, accepted⟩ := Option.filter_eq_some_iff.mp passed
  have known := eventId_of_event? found
  have placed : id ∈ ids.take (i + 1) := by
    rw [List.mem_take_iff_getElem]
    exact ⟨i, by omega, here⟩
  refine ⟨e, _, by rw [known, found], List.count_pos_iff.mpr placed, ?_, rfl⟩
  unfold sendings
  rw [if_pos accepted, known]
  exact (List.take_sublist _ _).count_le id

/-- The batch is sent over some transport; it turns the store into another one and enters retries. -/
def Sends (m : MemoryStore) (ids : List EventId) (m' : MemoryStore) (added : List RetryEntry) :
    Prop :=
  ∃ transport asOf report,
    (Pipeline.send store (exchanging transport) ids asOf).runOn m = (.ok report, m') ∧
      m'.retries = m.retries ++ added

/-- Every successful run of the pipeline enters some retries, at the end. -/
theorem sends_of_run {report : SendReport}
    (run : (Pipeline.send store (exchanging transport) ids asOf).runOn m = (.ok report, m')) :
    ∃ added, Sends m ids m' added := by
  by_cases idle : ids = []
  · subst idle
    cases run
    exact ⟨[], transport, asOf, _, rfl, (List.append_nil _).symm⟩
  · obtain ⟨u, _, rfl⟩ := send_ok idle run
    refine ⟨u.retries, transport, asOf, report, run, ?_⟩
    rw [sent_frame]

theorem sends_effect {added : List RetryEntry} (sends : Sends m ids m' added) :
    ∃ transport,
      m'.urls = m.urls ∧
      (∀ id, m'.event? id =
        (m.event? id).map fun e => e.after (m.sendings ids e) (m.outcome transport e)) ∧
      List.Forall₂ RetryEntry.Repeats added
        ((m.attempts transport ids).filter (·.isRetriable)) ∧
      ∀ s, s ∈ m'.disabled ↔ s ∈ m.disabled ∨
        ∃ a ∈ m.attempts transport ids, a.isExhausted ∧ a.subscriptionId = s := by
  obtain ⟨transport, asOf, report, run, entered⟩ := sends
  refine ⟨transport, ?_⟩
  by_cases idle : ids = []
  · subst idle
    cases run
    obtain rfl := List.self_eq_append_right.mp entered
    refine ⟨rfl, fun id => ?_, .nil, fun s => ?_⟩
    · simp
    · simp [attempts]
  · obtain ⟨u, scheduled, rfl⟩ := send_ok idle run
    obtain ⟨_, ⟨retries, same, repeats⟩, exhausted⟩ := Pipeline.schedule_ok scheduled
    have frame := sent_frame m transport ids u
    rw [frame] at entered
    obtain rfl := List.append_cancel_left entered
    rw [List.nil_append] at same
    subst same
    refine ⟨by rw [frame], fun id => event?_sent, repeats, fun s => ?_⟩
    rw [frame, OrderedSet.mem_union, exhausted, or_comm]
    exact or_congr_right (or_iff_right List.not_mem_nil)

/-- A batch that is sent leaves every event with as many more tries as it stands in the batch, and
with its outcome; an event whose subscription is disabled or has no URL stays as it is. Every failed
attempt with tries left is entered for a retry, in the order of the batch, and the subscriptions of
the failed attempts without are disabled. -/
theorem send_effect (m : MemoryStore) (transport : Transport) (ids : List EventId) (asOf : Date)
    (busy : ids ≠ []) (records : m.failsRecords = false) (retries : m.failsRetries = false)
    (tried : ∀ id e, m.event? id = some e → 0 ≤ e.tryCount)
    (time : ∀ id e, m.event? id = some e → (e.createdAt.plus? (3 ^ 9 * 1000000000)).isSome) :
    ∃ m' added,
      (Pipeline.send store (exchanging transport) ids asOf).runOn m =
        (.ok {
          claimed := ids.length
          sent := (m.attempts transport ids).length
          followUp := {
            recorded := (m.attempts transport ids).length
            delivered := (m.attempts transport ids).countP (·.state.isDelivered)
            retried := (m.attempts transport ids).countP (·.isRetriable)
            disabled := (((m.attempts transport ids).filter (·.isExhausted)).map
              (·.subscriptionId)).dedup.length } }, m') ∧
      m' = { m with
        events := m'.events, disabled := m'.disabled, retries := m.retries ++ added } ∧
      (∀ id, m'.event? id =
        (m.event? id).map fun e => e.after (m.sendings ids e) (m.outcome transport e)) ∧
      List.Forall₂ RetryEntry.Repeats added
        ((m.attempts transport ids).filter (·.isRetriable)) ∧
      ∀ s, s ∈ m'.disabled ↔ s ∈ m.disabled ∨
        ∃ a ∈ m.attempts transport ids, a.isExhausted ∧ a.subscriptionId = s := by
  have decided : ∀ a ∈ m.attempts transport ids, ∃ d, Backoff.decide a = .ok d := by
    intro a member
    obtain ⟨e, n, found, positive, _, rfl⟩ := mem_attempts member
    have before := tried _ _ found
    refine Backoff.decide_of_representable ?_ ?_
    · show 1 ≤ (e.after n _).tryCount
      rw [StoredEvent.after_tryCount]
      omega
    · show ((e.after n _).createdAt.plus? _).isSome
      rw [StoredEvent.after_createdAt]
      exact time _ _ found
  obtain ⟨u, scheduled⟩ := Pipeline.schedule_succeeds ⟨0, [], .empty⟩ decided
  obtain ⟨delivered, ⟨added, entered, repeats⟩, exhausted⟩ := Pipeline.schedule_ok scheduled
  rw [List.nil_append] at entered
  subst entered
  have given : ∀ x, x ∈ u.exhausted ↔ ∃ a ∈ m.attempts transport ids,
      a.isExhausted ∧ a.subscriptionId = x := by
    intro x
    rw [exhausted]
    exact or_iff_right (List.not_mem_nil)
  have count : u.exhausted.size = (((m.attempts transport ids).filter (·.isExhausted)).map
      (·.subscriptionId)).dedup.length := by
    refine OrderedSet.size_eq_dedup fun x => (given x).trans ?_
    simp only [List.mem_map, List.mem_filter, and_assoc]
  have retried : u.retries.length = (m.attempts transport ids).countP (·.isRetriable) := by
    rw [repeats.length_eq, List.countP_eq_length_filter]
  have frame := sent_frame m transport ids u
  refine ⟨m.sent transport ids u, u.retries, ?_, ?_, fun id => event?_sent, repeats,
    fun x => ?_⟩
  · rw [send_of_schedule busy records retries scheduled, delivered, count, retried]
    simp
  · rw [frame]
  · rw [frame, OrderedSet.mem_union, given, or_comm]

/-- A store with one event, of a subscription at a URL, that has had eight tries. -/
def tired : MemoryStore :=
  (empty.addSubscription ⟨.nil⟩ "http://a/").addEvent (newEvent ⟨.nil⟩ ⟨.nil⟩ 8 (.midnight .epoch))

def refusing : Transport := fun _ => ⟨.head 500 [] (.whole []), .zero⟩

/-- An event that is sent twice with one batch has its tenth try in it. -/
theorem send_effect_tired :
    (∀ id e, tired.event? id = some e → 0 ≤ e.tryCount) ∧
    (∀ id e, tired.event? id = some e → (e.createdAt.plus? (3 ^ 9 * 1000000000)).isSome) ∧
    ∃ m' t,
      (Pipeline.send store (exchanging refusing) [⟨.nil⟩, ⟨.nil⟩] .epoch).runOn tired =
        (.ok ⟨2, 2, ⟨2, 0, 1, 1⟩⟩, m') ∧
      m'.event? ⟨.nil⟩ = (tired.event? ⟨.nil⟩).map (·.after 2 (.answered 500)) ∧
      m'.retries = [⟨⟨.nil⟩, t⟩] ∧ Id.mk .nil ∈ m'.disabled := by
  have tried : ∀ id e, tired.event? id = some e → 0 ≤ e.tryCount := by
    intro id e found
    have all : ∀ e ∈ tired.events, 0 ≤ e.tryCount := by decide
    exact all e (List.mem_of_find?_eq_some found)
  have time : ∀ id e, tired.event? id = some e →
      (e.createdAt.plus? (3 ^ 9 * 1000000000)).isSome := by
    intro id e found
    have all : ∀ e ∈ tired.events, (e.createdAt.plus? (3 ^ 9 * 1000000000)).isSome := by decide
    exact all e (List.mem_of_find?_eq_some found)
  obtain ⟨m', added, run, frame, left, repeats, disabled⟩ := send_effect tired refusing
    [⟨.nil⟩, ⟨.nil⟩] .epoch (by decide) (by decide) (by decide) tried time
  have attempts : tired.attempts refusing [⟨.nil⟩, ⟨.nil⟩] =
      [⟨⟨.nil⟩, .httpError, ⟨.nil⟩, 9, .midnight .epoch⟩,
        ⟨⟨.nil⟩, .httpError, ⟨.nil⟩, 10, .midnight .epoch⟩] := by decide
  rw [attempts] at run disabled
  rw [show (tired.attempts refusing [⟨.nil⟩, ⟨.nil⟩]).filter (·.isRetriable) =
    [⟨⟨.nil⟩, .httpError, ⟨.nil⟩, 9, .midnight .epoch⟩] by decide] at repeats
  obtain ⟨⟨_, t⟩, rest, ⟨rfl, _⟩, last, rfl⟩ := List.forall₂_cons_right_iff.mp repeats
  obtain rfl := List.forall₂_nil_right_iff.mp last
  have retries : m'.retries = [⟨⟨.nil⟩, t⟩] := by
    rw [frame]
    rfl
  exact ⟨tried, time, m', t, run, left ⟨.nil⟩, retries,
    (disabled _).mpr (.inr ⟨_, .tail _ (.head _), by decide, rfl⟩)⟩

end MemoryStore

end Courier

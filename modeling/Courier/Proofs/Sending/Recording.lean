import Courier.Sending.MemoryStore
import Courier.Sending.Pipeline
import Mathlib.Data.List.Basic
import Mathlib.Data.List.Induction

/-!
# What recording a batch leaves behind

A batch is a list of ids in which an event may stand more than once. `record_responses` gives the
attempts and the events after its responses have been recorded one after the other, by the number
of times that each event stands in the batch.
-/

namespace Courier

/-- A transport that answers every request. -/
abbrev Transport := DeliveryRequest → Exchange

def Exchange.outcome (x : Exchange) : Outcome := (Response.capture x.reception).1

theorem Exchange.exists_outcome (o : Outcome) : ∃ x : Exchange, x.outcome = o := by
  have failure : ∀ why, (⟨.failed why, .zero⟩ : Exchange).outcome = .ofFailure why := fun _ => rfl
  cases o with
  | answered status =>
    refine ⟨⟨.head status [] .brokenOff, .zero⟩, ?_⟩
    unfold Exchange.outcome Response.capture
    by_cases slow : status = 429 <;> simp [slow]
  | timedOut => exact ⟨⟨.head 200 [] .late, .zero⟩, rfl⟩
  | hostUnresolved => exact ⟨⟨.failed ⟨"", [⟨"dns error", none⟩]⟩, .zero⟩, by decide +kernel⟩
  | closed => exact ⟨⟨.failed ⟨"", [⟨"", some .connectionReset⟩]⟩, .zero⟩, rfl⟩
  | tlsFailed => exact ⟨⟨.failed ⟨"", [⟨"tls", none⟩]⟩, .zero⟩, by decide +kernel⟩
  | other cause => exact ⟨⟨.failed ⟨cause, []⟩, .zero⟩, rfl⟩

theorem Response.ofExchange_eventId (r : DeliveryRequest) (x : Exchange) :
    (Response.ofExchange r x).eventId = r.eventId := rfl

theorem Response.ofExchange_state (r : DeliveryRequest) (x : Exchange) :
    (Response.ofExchange r x).state = x.outcome.state := rfl

theorem Response.ofExchange_status (r : DeliveryRequest) (x : Exchange) :
    (Response.ofExchange r x).status = x.outcome.status? := rfl

namespace StoredEvent

def attempt (e : StoredEvent) : Attempt :=
  ⟨e.eventId, e.state, e.subscriptionId, e.tryCount, e.createdAt⟩

@[simp] theorem attempt_state (e : StoredEvent) : e.attempt.state = e.state := rfl

@[simp] theorem attempt_tryCount (e : StoredEvent) : e.attempt.tryCount = e.tryCount := rfl

def after (e : StoredEvent) (n : Nat) (o : Outcome) : StoredEvent :=
  if n = 0 then e
  else { e with state := o.state, tryCount := e.tryCount + n, responseCode := o.status? }

@[simp] theorem after_zero (e : StoredEvent) (o : Outcome) : e.after 0 o = e := rfl

theorem after_succ (e : StoredEvent) (n : Nat) (o : Outcome) :
    e.after (n + 1) o =
      { e with state := o.state, tryCount := e.tryCount + (n + 1 : Nat), responseCode := o.status? } :=
  rfl

@[simp] theorem after_eventId (e : StoredEvent) (n : Nat) (o : Outcome) :
    (e.after n o).eventId = e.eventId := by
  unfold after; split <;> rfl

@[simp] theorem after_subscriptionId (e : StoredEvent) (n : Nat) (o : Outcome) :
    (e.after n o).subscriptionId = e.subscriptionId := by
  unfold after; split <;> rfl

@[simp] theorem after_createdAt (e : StoredEvent) (n : Nat) (o : Outcome) :
    (e.after n o).createdAt = e.createdAt := by
  unfold after; split <;> rfl

@[simp] theorem after_tryCount (e : StoredEvent) (n : Nat) (o : Outcome) :
    (e.after n o).tryCount = e.tryCount + n := by
  unfold after
  split
  · next none => rw [none]; exact (Int.add_zero _).symm
  · rfl

theorem after_state {e : StoredEvent} {n : Nat} {o : Outcome} (some : 0 < n) :
    (e.after n o).state = o.state := by
  unfold after
  rw [if_neg (by omega)]

theorem record_after (e : StoredEvent) (n : Nat) (r : DeliveryRequest) (x : Exchange) :
    MemoryStore.StoredEvent.record (e.after n x.outcome) (.ofExchange r x) =
      e.after (n + 1) x.outcome := by
  unfold MemoryStore.StoredEvent.record
  rw [after_tryCount, after_succ, Response.ofExchange_state, Response.ofExchange_status]
  unfold after
  split <;> simp [Int.add_assoc]

end StoredEvent

namespace MemoryStore

variable (m : MemoryStore)

def accepts (s : SubscriptionId) : Bool := (m.url? s).isSome && s ∉ m.disabled

def request (e : StoredEvent) : DeliveryRequest :=
  ⟨e.eventId, (m.url? e.subscriptionId).getD "", e.headers, e.body⟩

def outcome (transport : Transport) (e : StoredEvent) : Outcome := (transport (m.request e)).outcome

/-- How often an event is sent with a batch. -/
def sendings (ids : List EventId) (e : StoredEvent) : Nat :=
  if m.accepts e.subscriptionId then ids.count e.eventId else 0

def response? (transport : Transport) (id : EventId) : Option Response :=
  (m.pending? id).map fun p =>
    .ofExchange (.ofPending p) (transport (.ofPending p))

/-- The attempt for the last id of a batch, if its event is sent. -/
def attempt? (transport : Transport) (ids : List EventId) (id : EventId) : Option Attempt :=
  ((m.event? id).filter fun e => m.accepts e.subscriptionId).map fun e =>
    (e.after (ids.count id) (m.outcome transport e)).attempt

/-- The attempts of a batch in the order of its ids: the attempt at a place has behind it as many
tries as its event has places up to there. -/
def attempts (transport : Transport) (ids : List EventId) : List Attempt :=
  ids.zipIdx.filterMap fun (id, i) => m.attempt? transport (ids.take (i + 1)) id

variable {m} {transport : Transport} {ids : List EventId} {id : EventId} {e : StoredEvent}

theorem eventId_of_event? (found : m.event? id = some e) : e.eventId = id := by
  simpa using List.find?_some found

theorem pending?_of_event? (found : m.event? id = some e) :
    (m.pending? id).map DeliveryRequest.ofPending =
      if m.accepts e.subscriptionId then some (m.request e) else none := by
  unfold pending? accepts
  rw [found, Option.bind_some]
  by_cases disabled : e.subscriptionId ∈ m.disabled
  · simp [disabled]
  · cases url : m.url? e.subscriptionId with
    | none => simp [disabled]
    | some u => simp [disabled, request, url, DeliveryRequest.ofPending]

theorem response?_of_event? (found : m.event? id = some e) :
    m.response? transport id =
      if m.accepts e.subscriptionId then
        some (.ofExchange (m.request e) (transport (m.request e)))
      else none := by
  have sent := pending?_of_event? found
  have same : m.response? transport id = ((m.pending? id).map DeliveryRequest.ofPending).map
      fun r => .ofExchange r (transport r) := by
    rw [Option.map_map]; rfl
  rw [same, sent]
  split <;> rfl

theorem response?_of_unknown (unknown : m.event? id = none) : m.response? transport id = none := by
  unfold response? pending?
  rw [unknown]
  rfl

/-! ### Recording one response after the other -/

def withEvent (m : MemoryStore) (e : StoredEvent) : MemoryStore :=
  { m with events := m.events.map fun f => if f.eventId = e.eventId then e else f }

theorem event?_withEvent :
    (m.withEvent e).event? id =
      if id = e.eventId then (m.event? id).map fun _ => e else m.event? id := by
  unfold event? withEvent
  dsimp only
  induction m.events with
  | nil => simp
  | cons f rest ih =>
    rw [List.map_cons, List.find?_cons, List.find?_cons, ih]
    by_cases hit : f.eventId = e.eventId
    · by_cases same : id = e.eventId
      · simp [hit, same]
      · simp [hit, same, Ne.symm same]
    · by_cases same : id = e.eventId
      · simp [hit, same]
      · simp [hit, same]

theorem record_snoc (rs : List Response) (r : Response) :
    m.record (rs ++ [r]) =
      match (m.record rs).2.event? r.eventId with
      | none => m.record rs
      | some e => ((m.record rs).1 ++ [(StoredEvent.record e r).attempt],
          (m.record rs).2.withEvent (StoredEvent.record e r)) := by
  induction rs generalizing m with
  | nil =>
    rw [List.nil_append, record]
    cases found : m.event? r.eventId with
    | none => simp [record, found]
    | some e => simp only [record, found]; rfl
  | cons first rest ih =>
    rw [List.cons_append, record, record]
    cases found : m.event? first.eventId with
    | none => exact ih
    | some e =>
      dsimp only
      rw [ih]
      split <;> rfl

theorem record_frame (rs : List Response) :
    (m.record rs).2 = { m with events := (m.record rs).2.events } := by
  induction rs generalizing m with
  | nil => rfl
  | cons r rest ih =>
    rw [record]
    split
    · exact ih
    · exact ih (m := { m with events := _ })

theorem filterMap_snoc {α β : Type} (f : α → Option β) (l : List α) (a : α) :
    (l ++ [a]).filterMap f = l.filterMap f ++ (f a).toList := by
  rw [List.filterMap_append]
  cases h : f a <;> simp [h]

theorem attempts_snoc :
    m.attempts transport (ids ++ [id]) =
      m.attempts transport ids ++ (m.attempt? transport (ids ++ [id]) id).toList := by
  unfold attempts
  rw [List.zipIdx_append, List.zipIdx_singleton, filterMap_snoc]
  congr 1
  · apply List.filterMap_congr
    rintro ⟨other, i⟩ member
    have inside : i < ids.length := by simpa using (List.mem_zipIdx member).2.1
    dsimp only
    rw [List.take_append_of_le_length inside]
  · dsimp only
    rw [Nat.zero_add, List.take_of_length_le (by simp)]

@[simp] theorem sendings_nil : m.sendings [] e = 0 := by
  unfold sendings; split <;> rfl

theorem sendings_snoc :
    m.sendings (ids ++ [id]) e =
      m.sendings ids e + if m.accepts e.subscriptionId ∧ id = e.eventId then 1 else 0 := by
  unfold sendings
  by_cases accepted : m.accepts e.subscriptionId
  · by_cases same : id = e.eventId <;> simp [accepted, List.count_append, same]
  · simp [accepted]

theorem attempt?_of_accepted (found : m.event? id = some e) (accepted : m.accepts e.subscriptionId) :
    m.attempt? transport ids id =
      some (e.after (ids.count id) (m.outcome transport e)).attempt := by
  unfold attempt?
  rw [found, Option.filter_some, if_pos accepted, Option.map_some]

theorem response?_eq_none_iff :
    m.response? transport id = none ↔
      ∀ e, m.event? id = some e → ¬ m.accepts e.subscriptionId := by
  cases found : m.event? id with
  | none => simp [response?_of_unknown found]
  | some e =>
    rw [response?_of_event? found]
    by_cases accepted : m.accepts e.subscriptionId <;> simp [accepted]

theorem response?_eq_some_iff {r : Response} :
    m.response? transport id = some r ↔
      ∃ e, m.event? id = some e ∧ m.accepts e.subscriptionId ∧
        .ofExchange (m.request e) (transport (m.request e)) = r := by
  cases found : m.event? id with
  | none => simp [response?_of_unknown found]
  | some e =>
    rw [response?_of_event? found]
    by_cases accepted : m.accepts e.subscriptionId <;> simp [accepted]

theorem attempt?_of_unanswered (unanswered : m.response? transport id = none) :
    m.attempt? transport ids id = none := by
  unfold attempt?
  cases found : m.event? id with
  | none => rfl
  | some e =>
    rw [Option.filter_some, if_neg (response?_eq_none_iff.mp unanswered e found), Option.map_none]

/-- The responses to a batch leave every event with as many more tries as it was sent, and with the
outcome of the last of them. -/
theorem record_responses (m : MemoryStore) (transport : Transport) (ids : List EventId) :
    (m.record (ids.filterMap (m.response? transport))).1 = m.attempts transport ids ∧
      ∀ id, (m.record (ids.filterMap (m.response? transport))).2.event? id =
        (m.event? id).map fun e => e.after (m.sendings ids e) (m.outcome transport e) := by
  -- From the end of the batch, since an attempt has behind it the tries of the ids before it.
  induction ids using List.reverseRecOn with
  | nil =>
    refine ⟨rfl, fun id => ?_⟩
    simp [record]
  | append_singleton ids id ih =>
    obtain ⟨made, left⟩ := ih
    rw [filterMap_snoc, attempts_snoc]
    cases answered : m.response? transport id with
    | none =>
      -- Nothing is recorded for the last id, and no event has one more place in the batch.
      rw [attempt?_of_unanswered answered, Option.toList_none, Option.toList_none, List.append_nil,
        List.append_nil]
      refine ⟨made, fun other => (left other).trans ?_⟩
      apply Option.map_congr
      intro e found
      have apart : ¬ (m.accepts e.subscriptionId ∧ id = e.eventId) := by
        rintro ⟨accepted, same⟩
        rw [← eventId_of_event? found, ← same] at found
        exact response?_eq_none_iff.mp answered e found accepted
      rw [sendings_snoc, if_neg apart, Nat.add_zero]
    | some r =>
      obtain ⟨e, found, accepted, rfl⟩ := response?_eq_some_iff.mp answered
      have known := eventId_of_event? found
      have count : m.sendings ids e = ids.count id := by
        unfold sendings; rw [if_pos accepted, known]
      have before := left id
      rw [found, Option.map_some, count] at before
      have next : StoredEvent.record (e.after (ids.count id) (m.outcome transport e))
          (.ofExchange (m.request e) (transport (m.request e))) =
          e.after ((ids ++ [id]).count id) (m.outcome transport e) := by
        rw [List.count_append, List.count_singleton_self]
        exact StoredEvent.record_after _ _ _ _
      rw [Option.toList_some, record_snoc, Response.ofExchange_eventId,
        show (m.request e).eventId = id from known, before]
      dsimp only
      rw [next, made, attempt?_of_accepted found accepted]
      refine ⟨rfl, fun other => ?_⟩
      rw [event?_withEvent, StoredEvent.after_eventId, known, left]
      by_cases same : other = id
      · rw [if_pos same, same, found, Option.map_some, Option.map_some, Option.map_some,
          sendings_snoc, if_pos ⟨accepted, known.symm⟩, count, List.count_append,
          List.count_singleton_self]
      · rw [if_neg same]
        apply Option.map_congr
        intro f foundOther
        have apart : ¬ (m.accepts f.subscriptionId ∧ id = f.eventId) := by
          rintro ⟨_, equal⟩
          exact same ((eventId_of_event? foundOther).symm.trans equal.symm)
        rw [sendings_snoc, if_neg apart, Nat.add_zero]

/-! ### The attempts for one event -/

theorem attempts_of_event (found : m.event? id = some e) :
    (m.attempts transport ids).filter (·.eventId = id) =
      (List.range' 1 (m.sendings ids e)).map fun n =>
        (e.after n (m.outcome transport e)).attempt := by
  have known := eventId_of_event? found
  induction ids using List.reverseRecOn with
  | nil =>
    rw [sendings_nil]
    rfl
  | append_singleton ids last ih =>
    rw [attempts_snoc, List.filter_append, ih, sendings_snoc]
    by_cases sent : m.accepts e.subscriptionId ∧ last = e.eventId
    · obtain ⟨accepted, same⟩ := sent
      have count : (ids ++ [last]).count id = m.sendings ids e + 1 := by
        unfold sendings
        rw [if_pos accepted, ← known, ← same, List.count_append, List.count_singleton_self]
      rw [same, known] at count ⊢
      rw [if_pos ⟨accepted, rfl⟩, attempt?_of_accepted found accepted, count, Option.toList_some,
        List.filter_cons_of_pos (by simp [StoredEvent.attempt, known]), List.range'_1_concat,
        List.map_append, Nat.add_comm 1]
      rfl
    · rw [if_neg sent, Nat.add_zero, List.append_right_eq_self]
      rw [List.filter_eq_nil_iff]
      intro a member same
      obtain ⟨f, passed, rfl⟩ := Option.map_eq_some_iff.mp (Option.mem_toList.mp member)
      obtain ⟨foundLast, accepted⟩ := Option.filter_eq_some_iff.mp passed
      have here : last = id := by
        have equal : f.eventId = id := by simpa [StoredEvent.attempt] using same
        rw [← equal, eventId_of_event? foundLast]
      rw [here, found] at foundLast
      cases foundLast
      exact sent ⟨accepted, by rw [here, known]⟩

theorem attempts_of_unknown (unknown : m.event? id = none) :
    (m.attempts transport ids).filter (·.eventId = id) = [] := by
  rw [List.filter_eq_nil_iff]
  intro a member same
  obtain ⟨⟨other, i⟩, _, made⟩ := List.mem_filterMap.mp member
  obtain ⟨f, passed, rfl⟩ := Option.map_eq_some_iff.mp made
  obtain ⟨found, _⟩ := Option.filter_eq_some_iff.mp passed
  have equal : f.eventId = id := by simpa [StoredEvent.attempt] using same
  rw [← eventId_of_event? found, equal, unknown] at found
  cases found

end MemoryStore

end Courier

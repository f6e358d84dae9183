import Courier.Proofs.Sending.Recording
import Mathlib.Data.List.Count
import Mathlib.Data.List.Nodup

/-!
# Events that do not depend on each other

Responses to different events may be recorded in any order. `AgreeOn` says that two stores have the
same events and subscriptions for some ids, as far as a batch of these ids looks at them; the
attempts of the batch are then the same on both.
-/

namespace Courier.MemoryStore

variable {m m' : MemoryStore} {transport : Transport} {ids : List EventId} {id : EventId}
  {e f : StoredEvent} {r r' : Response} {rs rs' : List Response}

/-! ### The order of the responses -/

def recordOne (m : MemoryStore) (r : Response) : MemoryStore :=
  match m.event? r.eventId with
  | none => m
  | some e => m.withEvent (StoredEvent.record e r)

theorem recordOne_of_unknown (unknown : m.event? r.eventId = none) : m.recordOne r = m := by
  unfold recordOne
  rw [unknown]

theorem recordOne_of_event? (found : m.event? r.eventId = some e) :
    m.recordOne r = m.withEvent (StoredEvent.record e r) := by
  unfold recordOne
  rw [found]

theorem record_eq_foldl (m : MemoryStore) (rs : List Response) :
    (m.record rs).2 = rs.foldl recordOne m := by
  induction rs generalizing m with
  | nil => rfl
  | cons r rest ih =>
    rw [record, List.foldl_cons]
    cases found : m.event? r.eventId with
    | none =>
      rw [recordOne_of_unknown found]
      exact ih m
    | some e =>
      rw [recordOne_of_event? found]
      exact ih (m.withEvent (StoredEvent.record e r))

theorem eventId_of_record (found : m.event? r.eventId = some e) :
    (StoredEvent.record e r).eventId = r.eventId :=
  (show (StoredEvent.record e r).eventId = e.eventId from rfl).trans (eventId_of_event? found)

theorem event?_recordOne_of_ne (apart : id ≠ r.eventId) :
    (m.recordOne r).event? id = m.event? id := by
  cases found : m.event? r.eventId with
  | none => rw [recordOne_of_unknown found]
  | some e =>
    rw [recordOne_of_event? found, event?_withEvent, eventId_of_record found, if_neg apart]

theorem withEvent_comm (apart : e.eventId ≠ f.eventId) :
    (m.withEvent e).withEvent f = (m.withEvent f).withEvent e := by
  unfold withEvent
  dsimp only
  rw [List.map_map, List.map_map]
  congr 1
  refine List.map_congr_left fun g _ => ?_
  by_cases first : g.eventId = e.eventId
  · simp [first, apart]
  · by_cases second : g.eventId = f.eventId
    · simp [second, Ne.symm apart]
    · simp [first, second]

theorem recordOne_comm (apart : r.eventId ≠ r'.eventId) :
    (m.recordOne r).recordOne r' = (m.recordOne r').recordOne r := by
  have left := event?_recordOne_of_ne (m := m) apart.symm
  have right := event?_recordOne_of_ne (m := m) apart
  cases found : m.event? r.eventId with
  | none =>
    rw [recordOne_of_unknown found, recordOne_of_unknown (right.trans found)]
  | some e =>
    cases other : m.event? r'.eventId with
    | none => rw [recordOne_of_unknown other, recordOne_of_unknown (left.trans other)]
    | some f =>
      rw [recordOne_of_event? (left.trans other), recordOne_of_event? (right.trans found),
        recordOne_of_event? found, recordOne_of_event? other]
      refine withEvent_comm ?_
      rwa [eventId_of_record found, eventId_of_record other]

/-- Responses to different events leave the same store in every order. -/
theorem record_perm (perm : rs.Perm rs') (distinct : (rs.map (·.eventId)).Nodup) :
    (m.record rs).2 = (m.record rs').2 := by
  rw [record_eq_foldl, record_eq_foldl]
  refine perm.foldl_eq' (fun r member r' member' z => ?_) m
  -- The two may also stand at one place of the list, where nothing has to be exchanged.
  by_cases same : r.eventId = r'.eventId
  · rw [List.inj_on_of_nodup_map distinct member member' same]
  · exact recordOne_comm same

theorem record_append :
    (m.record (rs ++ rs')).2 = ((m.record rs).2.record rs').2 := by
  rw [record_eq_foldl, record_eq_foldl, record_eq_foldl, List.foldl_append]

theorem record_events_congr (same : m.events = m'.events) :
    (m.record rs).2.events = (m'.record rs).2.events := by
  rw [record_eq_foldl, record_eq_foldl]
  induction rs generalizing m m' with
  | nil => exact same
  | cons r rest ih =>
    refine ih ?_
    have found : m.event? r.eventId = m'.event? r.eventId := by
      unfold event?
      rw [same]
    unfold recordOne withEvent
    rw [found, same]
    split
    · exact same
    · rfl

/-! ### Stores that agree on a batch -/

/-- For these ids the stores have the same events, with the same URLs, and as to the subscriptions
of these events the same ones are disabled. -/
structure AgreeOn (m m' : MemoryStore) (ids : List EventId) : Prop where
  urls : m'.urls = m.urls
  events : ∀ id ∈ ids, m'.event? id = m.event? id
  disabled : ∀ id ∈ ids, ∀ e, m.event? id = some e →
    (e.subscriptionId ∈ m'.disabled ↔ e.subscriptionId ∈ m.disabled)

namespace AgreeOn

variable (agree : AgreeOn m m' ids)

include agree

theorem url? (s : SubscriptionId) : m'.url? s = m.url? s := by
  unfold MemoryStore.url?
  rw [agree.urls]

theorem accepts (member : id ∈ ids) (found : m.event? id = some e) :
    m'.accepts e.subscriptionId = m.accepts e.subscriptionId := by
  unfold MemoryStore.accepts
  rw [agree.url?]
  simp only [agree.disabled id member e found]

theorem request (e : StoredEvent) : m'.request e = m.request e := by
  unfold MemoryStore.request
  rw [agree.url?]

theorem outcome (e : StoredEvent) : m'.outcome transport e = m.outcome transport e := by
  unfold MemoryStore.outcome
  rw [agree.request]

theorem response? (member : id ∈ ids) : m'.response? transport id = m.response? transport id := by
  have same := agree.events id member
  cases found : m.event? id with
  | none => rw [response?_of_unknown found, response?_of_unknown (same.trans found)]
  | some e =>
    rw [response?_of_event? found, response?_of_event? (same.trans found),
      agree.accepts member found, agree.request]

theorem attempt? (member : id ∈ ids) (l : List EventId) :
    m'.attempt? transport l id = m.attempt? transport l id := by
  unfold MemoryStore.attempt?
  rw [agree.events id member]
  cases found : m.event? id with
  | none => rfl
  | some e =>
    rw [Option.filter_some, Option.filter_some, agree.accepts member found]
    split
    · rw [Option.map_some, Option.map_some, agree.outcome]
    · rfl

theorem responses : ids.filterMap (m'.response? transport) = ids.filterMap (m.response? transport) :=
  List.filterMap_congr fun _ member => agree.response? member

theorem attempts : m'.attempts transport ids = m.attempts transport ids := by
  unfold MemoryStore.attempts
  refine List.filterMap_congr ?_
  rintro ⟨id, i⟩ place
  exact agree.attempt? (List.fst_mem_of_mem_zipIdx place) _

end AgreeOn

/-! ### Batches without repetitions -/

theorem attempt?_of_once (once : ids.count id = 1) :
    m.attempt? transport ids id = m.attempt? transport [id] id := by
  unfold attempt?
  rw [once, List.count_singleton_self]

/-- In a batch without repetitions every attempt is the first one for its event. -/
theorem attempts_of_distinct (distinct : ids.Nodup) :
    m.attempts transport ids = ids.filterMap fun id => m.attempt? transport [id] id := by
  have single : ∀ place ∈ ids.zipIdx, m.attempt? transport (ids.take (place.2 + 1)) place.1 =
      m.attempt? transport [place.1] place.1 := by
    rintro ⟨id, i⟩ place
    have here : ids[i]? = some id := List.mk_mem_zipIdx_iff_getElem?.mp place
    obtain ⟨inside, here⟩ := List.getElem?_eq_some_iff.mp here
    refine attempt?_of_once (List.count_eq_one_of_mem (distinct.sublist (List.take_sublist _ _)) ?_)
    rw [List.mem_take_iff_getElem]
    exact ⟨i, by omega, here⟩
  unfold attempts
  rw [List.filterMap_congr single]
  conv_rhs => rw [← List.zipIdx_map_fst 0 ids, List.filterMap_map]
  rfl

theorem responses_nodup (distinct : ids.Nodup) :
    ((ids.filterMap (m.response? transport)).map (·.eventId)).Nodup := by
  rw [List.map_filterMap]
  refine distinct.filterMap fun id id' other member member' => ?_
  have own : ∀ i, other ∈ (m.response? transport i).map (·.eventId) → other = i := by
    intro i made
    obtain ⟨r, answered, rfl⟩ := Option.map_eq_some_iff.mp made
    obtain ⟨e, found, -, rfl⟩ := response?_eq_some_iff.mp answered
    exact eventId_of_event? found
  rw [← own id member, own id' member']

end Courier.MemoryStore

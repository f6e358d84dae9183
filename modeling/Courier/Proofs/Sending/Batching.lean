import Courier.Proofs.Sending.Effect
import Courier.Proofs.Sending.Independence

/-!
# Batches of different events

An event is sent at most once with a list of different ids. `batching_does_not_matter` says that
then neither the order of the list nor its cut into batches makes a difference, unless a batch
disables a subscription that a later one still sends to.
-/

namespace Courier

namespace MemoryStore

variable {m m' : MemoryStore} {transport : Transport} {ids ids' left right : List EventId}
  {asOf : Date} {x : SubscriptionId}

/-- The store does not fail, and every attempt for one of its events has a decision. -/
structure Sendable (m : MemoryStore) : Prop where
  records : m.failsRecords = false
  retries : m.failsRetries = false
  tried : ∀ id e, m.event? id = some e → 0 ≤ e.tryCount
  time : ∀ id e, m.event? id = some e → (e.createdAt.plus? (3 ^ 9 * 1000000000)).isSome

/-- Two stores that differ at most in the order of their retries. -/
structure UpToOrder (m m' : MemoryStore) : Prop where
  same : m' = { m with retries := m'.retries }
  retries : m'.retries.Perm m.retries

/-- One of the ids is that of an event of the subscription. -/
def Uses (m : MemoryStore) (ids : List EventId) (x : SubscriptionId) : Prop :=
  ∃ id ∈ ids, ∃ e, m.event? id = some e ∧ e.subscriptionId = x

/-- Sends batches one after the other, each on its day. -/
def sendAll (transport : Transport) (batches : List (List EventId × Date)) :
    Action DeliveryError MemoryStore (List SendReport) :=
  batches.mapM fun (ids, asOf) => Pipeline.send store (exchanging transport) ids asOf

/-- Sending the batches disables a subscription that was not disabled before. -/
def Exhausts (m : MemoryStore) (transport : Transport) (batches : List (List EventId × Date))
    (x : SubscriptionId) : Prop :=
  x ∉ m.disabled ∧ x ∈ ((sendAll transport batches).runOn m).2.disabled

/-! ### One batch -/

def plan (m : MemoryStore) (transport : Transport) (ids : List EventId) : Pipeline.Schedule :=
  .ofAttempts (m.attempts transport ids)

def afterBatch (m : MemoryStore) (transport : Transport) (ids : List EventId) : MemoryStore :=
  m.sent transport ids (m.plan transport ids)

def report (m : MemoryStore) (transport : Transport) (ids : List EventId) : SendReport where
  claimed := ids.length
  sent := (m.attempts transport ids).length
  followUp := {
    recorded := (m.attempts transport ids).length
    delivered := (m.plan transport ids).delivered
    retried := (m.plan transport ids).retries.length
    disabled := (m.plan transport ids).exhausted.size }

theorem afterBatch_eq (m : MemoryStore) (transport : Transport) (ids : List EventId) :
    m.afterBatch transport ids =
      { m with
        events := (m.record (ids.filterMap (m.response? transport))).2.events
        disabled := (m.plan transport ids).exhausted.union m.disabled
        retries := m.retries ++ (m.plan transport ids).retries } :=
  sent_frame m transport ids _

theorem afterBatch_nil : m.afterBatch transport [] = m := by
  have none : (Pipeline.Schedule.ofAttempts []).exhausted.union m.disabled = m.disabled := by
    refine OrderedSet.eq_of_mem_iff fun x => ?_
    rw [OrderedSet.mem_union, Pipeline.Schedule.mem_exhausted]
    simp
  rw [afterBatch_eq]
  show { m with
    disabled := (Pipeline.Schedule.ofAttempts []).exhausted.union m.disabled
    retries := m.retries ++ [] } = m
  rw [none, List.append_nil]

namespace Sendable

variable (sendable : m.Sendable)

include sendable

theorem decided : ∀ a ∈ m.attempts transport ids, ∃ d, Backoff.decide a = .ok d := by
  intro a member
  obtain ⟨e, n, found, positive, -, rfl⟩ := mem_attempts member
  have before := sendable.tried _ _ found
  refine Backoff.decide_of_representable ?_ ?_
  · rw [StoredEvent.attempt_tryCount, StoredEvent.after_tryCount]
    omega
  · show ((e.after n _).createdAt.plus? _).isSome
    rw [StoredEvent.after_createdAt]
    exact sendable.time _ _ found

theorem send_run :
    (Pipeline.send store (exchanging transport) ids asOf).runOn m =
      (.ok (m.report transport ids), m.afterBatch transport ids) := by
  by_cases idle : ids = []
  · subst idle
    rw [afterBatch_nil]
    rfl
  · exact send_of_schedule idle sendable.records sendable.retries
      (Pipeline.schedule_of_decided sendable.decided)

theorem afterBatch : (m.afterBatch transport ids).Sendable := by
  have event : ∀ id f, (m.afterBatch transport ids).event? id = some f →
      ∃ e n o, m.event? id = some e ∧ f = e.after n o := by
    intro id f found
    rw [MemoryStore.afterBatch, event?_sent] at found
    obtain ⟨e, known, rfl⟩ := Option.map_eq_some_iff.mp found
    exact ⟨e, _, _, known, rfl⟩
  refine ⟨?_, ?_, fun id f found => ?_, fun id f found => ?_⟩
  · rw [afterBatch_eq]
    exact sendable.records
  · rw [afterBatch_eq]
    exact sendable.retries
  · obtain ⟨e, n, o, known, rfl⟩ := event id f found
    have before := sendable.tried id e known
    rw [StoredEvent.after_tryCount]
    omega
  · obtain ⟨e, n, o, known, rfl⟩ := event id f found
    rw [StoredEvent.after_createdAt]
    exact sendable.time id e known

end Sendable

/-! ### Another order -/

theorem attempts_perm (perm : ids.Perm ids') (distinct : ids.Nodup) :
    (m.attempts transport ids).Perm (m.attempts transport ids') := by
  rw [attempts_of_distinct distinct, attempts_of_distinct (perm.nodup_iff.mp distinct)]
  exact perm.filterMap _

theorem report_perm (perm : ids.Perm ids') (distinct : ids.Nodup) :
    m.report transport ids = m.report transport ids' := by
  have attempts : (m.attempts transport ids).Perm (m.attempts transport ids') :=
    attempts_perm perm distinct
  obtain ⟨delivered, retries, exhausted⟩ := Pipeline.Schedule.ofAttempts_perm attempts
  unfold report plan
  rw [perm.length_eq, attempts.length_eq, delivered, retries.length_eq, exhausted]

theorem afterBatch_perm (perm : ids.Perm ids') (distinct : ids.Nodup) :
    UpToOrder (m.afterBatch transport ids) (m.afterBatch transport ids') := by
  have attempts : (m.attempts transport ids).Perm (m.attempts transport ids') :=
    attempts_perm perm distinct
  obtain ⟨-, retries, exhausted⟩ := Pipeline.Schedule.ofAttempts_perm attempts
  have events := record_perm (m := m) (perm.filterMap (m.response? transport))
    (responses_nodup distinct)
  rw [afterBatch_eq, afterBatch_eq, events]
  unfold plan
  rw [exhausted]
  exact ⟨rfl, retries.symm.append_left _⟩

/-! ### One batch after another -/

/-- A batch of other events sees nothing of an earlier batch that disables none of its
subscriptions. -/
theorem agreeOn_afterBatch (apart : left.Disjoint right)
    (spared : ∀ x, m.Uses right x → x ∈ (m.afterBatch transport left).disabled → x ∈ m.disabled) :
    AgreeOn m (m.afterBatch transport left) right where
  urls := by rw [afterBatch_eq]
  events id member := by
    rw [afterBatch, event?_sent]
    cases found : m.event? id with
    | none => rfl
    | some e =>
      have absent : e.eventId ∉ left := by
        rw [eventId_of_event? found]
        exact fun inLeft => apart inLeft member
      have unsent : m.sendings left e = 0 := by
        unfold sendings
        rw [List.count_eq_zero_of_not_mem absent, ite_self]
      rw [Option.map_some, unsent, StoredEvent.after_zero]
  disabled id member e found := by
    refine ⟨spared _ ⟨id, member, e, found, rfl⟩, fun before => ?_⟩
    rw [afterBatch_eq]
    exact OrderedSet.mem_union.mpr (.inr before)

theorem attempts_append (distinct : (left ++ right).Nodup) :
    m.attempts transport (left ++ right) =
      m.attempts transport left ++ m.attempts transport right := by
  obtain ⟨first, second, -⟩ := List.nodup_append.mp distinct
  rw [attempts_of_distinct distinct, attempts_of_distinct first, attempts_of_distinct second,
    List.filterMap_append]

theorem AgreeOn.report (agree : AgreeOn m m' ids) :
    m'.report transport ids = m.report transport ids := by
  unfold MemoryStore.report plan
  rw [agree.attempts]

theorem afterBatch_append (distinct : (left ++ right).Nodup)
    (agree : AgreeOn m (m.afterBatch transport left) right) :
    (m.afterBatch transport left).afterBatch transport right =
      m.afterBatch transport (left ++ right) := by
  have events : ((m.afterBatch transport left).record
      (right.filterMap ((m.afterBatch transport left).response? transport))).2.events =
      (m.record ((left ++ right).filterMap (m.response? transport))).2.events := by
    rw [agree.responses, List.filterMap_append, record_append]
    exact record_events_congr (by rw [afterBatch_eq])
  have plans : (m.afterBatch transport left).plan transport right = m.plan transport right := by
    unfold plan
    rw [agree.attempts]
  have retries : (m.plan transport (left ++ right)).retries =
      (m.plan transport left).retries ++ (m.plan transport right).retries := by
    unfold plan
    simp only [Pipeline.Schedule.retries_ofAttempts, attempts_append distinct,
      List.filterMap_append]
  have exhausted : (m.plan transport right).exhausted.union
      ((m.plan transport left).exhausted.union m.disabled) =
      (m.plan transport (left ++ right)).exhausted.union m.disabled := by
    refine OrderedSet.eq_of_mem_iff fun x => ?_
    unfold plan
    rw [attempts_append distinct, OrderedSet.mem_union, OrderedSet.mem_union, OrderedSet.mem_union,
      Pipeline.Schedule.mem_exhausted_append, or_left_comm, or_assoc]
  rw [afterBatch_eq (m.afterBatch transport left), events, plans, afterBatch_eq m _ left,
    afterBatch_eq m _ (left ++ right), retries, ← exhausted, ← List.append_assoc]

/-! ### Any number of batches -/

theorem sendAll_snoc (batches : List (List EventId × Date)) :
    sendAll transport (batches ++ [(ids, asOf)]) = (do
      let reports ← sendAll transport batches
      let report ← Pipeline.send store (exchanging transport) ids asOf
      return reports ++ [report]) := by
  unfold sendAll
  simp [List.mapM_append]

/-- Batches of different events, none of which disables a subscription that a later one sends to,
are together like one batch, and each of them has the report that it has alone. -/
theorem sendAll_run (sendable : m.Sendable) {batches : List (List EventId × Date)}
    (distinct : (batches.flatMap (·.1)).Nodup)
    (spared : ∀ early late, batches = early ++ late →
      ∀ x, m.Exhausts transport early x → ¬ m.Uses (late.flatMap (·.1)) x) :
    (sendAll transport batches).runOn m =
      (.ok (batches.map fun b => m.report transport b.1),
        m.afterBatch transport (batches.flatMap (·.1))) := by
  -- From the end of the list, since the last batch is sent by a store that all the others have left,
  -- and the condition is about what they have disabled.
  induction batches using List.reverseRecOn with
  | nil =>
    rw [List.flatMap_nil, afterBatch_nil]
    rfl
  | append_singleton batches b ih =>
    obtain ⟨ids, asOf⟩ := b
    rw [List.flatMap_append, List.flatMap_singleton] at distinct
    obtain ⟨first, -, apart⟩ := List.nodup_append'.mp distinct
    have before : (sendAll transport batches).runOn m =
        (.ok (batches.map fun b => m.report transport b.1),
          m.afterBatch transport (batches.flatMap (·.1))) := by
      refine ih first ?_
      rintro early late rfl x exhausts ⟨id, member, use⟩
      refine spared early (late ++ [(ids, asOf)]) (List.append_assoc _ _ _) x exhausts
        ⟨id, ?_, use⟩
      rw [List.flatMap_append]
      exact List.mem_append_left _ member
    have agree : AgreeOn m (m.afterBatch transport (batches.flatMap (·.1))) ids := by
      refine agreeOn_afterBatch apart fun x use now => by_contra fun old => ?_
      refine spared batches [(ids, asOf)] rfl x ⟨old, ?_⟩ (by rwa [List.flatMap_singleton])
      rwa [before]
    rw [sendAll_snoc, Action.runOn_bind_of_ok before,
      Action.runOn_bind_of_ok sendable.afterBatch.send_run, agree.report,
      afterBatch_append distinct agree, List.map_append, List.flatMap_append,
      List.flatMap_singleton]
    rfl

theorem spared_of_pair {left right : List EventId × Date}
    (spared : ∀ x, m.Exhausts transport [left] x → ¬ m.Uses right.1 x) :
    ∀ early late, [left, right] = early ++ late →
      ∀ x, m.Exhausts transport early x → ¬ m.Uses (late.flatMap (·.1)) x := by
  intro early late cut x exhausts use
  rcases early with _ | ⟨first, _ | ⟨second, rest⟩⟩
  · exact exhausts.1 exhausts.2
  · obtain ⟨rfl, rfl⟩ := List.cons.inj cut
    rw [List.flatMap_singleton] at use
    exact spared x exhausts use
  · obtain ⟨-, -, tail⟩ : left = first ∧ right = second ∧ [] = rest ++ late := by
      simpa using cut
    obtain ⟨id, member, -⟩ := use
    obtain ⟨-, rfl⟩ := List.append_eq_nil_iff.mp tail.symm
    exact absurd member List.not_mem_nil

theorem sendAll_pair (sendable : m.Sendable) {left right : List EventId × Date}
    (distinct : (left.1 ++ right.1).Nodup)
    (spared : ∀ x, m.Exhausts transport [left] x → ¬ m.Uses right.1 x) :
    (sendAll transport [left, right]).runOn m =
      (.ok [m.report transport left.1, m.report transport right.1],
        m.afterBatch transport (left.1 ++ right.1)) := by
  have all : [left, right].flatMap (·.1) = left.1 ++ right.1 := by simp
  rw [sendAll_run sendable (by rwa [all]) (spared_of_pair spared), all]
  rfl

/-- Different events of a store that can be sent: their order makes no difference but to the order
of the retries, and neither does a cut into batches one after the other, if no subscription that the
earlier batches exhaust is used by a later one. Two batches, none of which exhausts a subscription
that the other uses, may change places. -/
theorem batching_does_not_matter (m : MemoryStore) (transport : Transport) (ids : List EventId)
    (asOf : Date) (sendable : m.Sendable) (distinct : ids.Nodup) :
    ∃ report m₁,
      (Pipeline.send store (exchanging transport) ids asOf).runOn m = (.ok report, m₁) ∧
      (∀ ids' asOf', ids'.Perm ids → ∃ m₂,
        (Pipeline.send store (exchanging transport) ids' asOf').runOn m = (.ok report, m₂) ∧
          UpToOrder m₁ m₂) ∧
      (∀ batches : List (List EventId × Date), batches.flatMap (·.1) = ids →
        (∀ early late, batches = early ++ late →
          ∀ x, m.Exhausts transport early x → ¬ m.Uses (late.flatMap (·.1)) x) →
        ∃ reports, (sendAll transport batches).runOn m = (.ok reports, m₁)) ∧
      ∀ left right : List EventId × Date, left.1 ++ right.1 = ids →
        (∀ x, m.Exhausts transport [left] x → ¬ m.Uses right.1 x) →
        (∀ x, m.Exhausts transport [right] x → ¬ m.Uses left.1 x) →
        ∃ r s m₂ m₃,
          (sendAll transport [left, right]).runOn m = (.ok [r, s], m₂) ∧
          (sendAll transport [right, left]).runOn m = (.ok [s, r], m₃) ∧
          UpToOrder m₂ m₃ := by
  refine ⟨m.report transport ids, m.afterBatch transport ids, sendable.send_run, ?_, ?_, ?_⟩
  · intro ids' asOf' perm
    refine ⟨m.afterBatch transport ids', ?_, afterBatch_perm perm.symm distinct⟩
    rw [report_perm perm.symm distinct]
    exact sendable.send_run
  · rintro batches rfl spared
    exact ⟨_, sendAll_run sendable distinct spared⟩
  · rintro left right rfl spares spared
    have perm : (left.1 ++ right.1).Perm (right.1 ++ left.1) := List.perm_append_comm
    exact ⟨_, _, _, _, sendAll_pair sendable distinct spares,
      sendAll_pair sendable (perm.nodup_iff.mp distinct) spared, afterBatch_perm perm distinct⟩

/-- A store with an event that has one try left and an event of another subscription, which may be
the same. -/
def worn (s : SubscriptionId) : MemoryStore :=
  (((empty.addSubscription ⟨.nil⟩ "http://a/").addSubscription s "http://b/").addEvent
    (newEvent ⟨.nil⟩ ⟨.nil⟩ 9 (.midnight .epoch))).addEvent
      (newEvent ⟨.ofNumber 1⟩ s 3 (.midnight .epoch))

/-- A server error exhausts the subscription of the first event, and not that of the other one. -/
theorem batching_does_not_matter_worn :
    (worn ⟨.ofNumber 1⟩).Sendable ∧ ([⟨.nil⟩, ⟨.ofNumber 1⟩] : List EventId).Nodup ∧
    ∃ m₁ m₂ reports,
      (Pipeline.send store (exchanging refusing) [⟨.nil⟩, ⟨.ofNumber 1⟩] .epoch).runOn
        (worn ⟨.ofNumber 1⟩) = (.ok ⟨2, 2, ⟨2, 0, 1, 1⟩⟩, m₁) ∧
      (Pipeline.send store (exchanging refusing) [⟨.ofNumber 1⟩, ⟨.nil⟩] .epoch).runOn
        (worn ⟨.ofNumber 1⟩) = (.ok ⟨2, 2, ⟨2, 0, 1, 1⟩⟩, m₂) ∧
      UpToOrder m₁ m₂ ∧
      (sendAll refusing [([⟨.nil⟩], .epoch), ([⟨.ofNumber 1⟩], .epoch)]).runOn
        (worn ⟨.ofNumber 1⟩) = (.ok reports, m₁) ∧
      Id.mk .nil ∈ m₁.disabled := by
  have sendable : (worn ⟨.ofNumber 1⟩).Sendable := by
    refine ⟨rfl, rfl, fun id e found => ?_, fun id e found => ?_⟩
    · have all : ∀ e ∈ (worn ⟨.ofNumber 1⟩).events, 0 ≤ e.tryCount := by decide
      exact all e (List.mem_of_find?_eq_some found)
    · have all : ∀ e ∈ (worn ⟨.ofNumber 1⟩).events,
          (e.createdAt.plus? (3 ^ 9 * 1000000000)).isSome := by decide
      exact all e (List.mem_of_find?_eq_some found)
  have spared : ∀ x, (worn ⟨.ofNumber 1⟩).Exhausts refusing [([⟨.nil⟩], .epoch)] x →
      ¬ (worn ⟨.ofNumber 1⟩).Uses [⟨.ofNumber 1⟩] x := by
    rintro x ⟨-, exhausted⟩ ⟨id, member, e, found, rfl⟩
    obtain rfl := List.mem_singleton.mp member
    obtain rfl : newEvent ⟨.ofNumber 1⟩ ⟨.ofNumber 1⟩ 3 (.midnight .epoch) = e :=
      Option.some.inj found
    revert exhausted
    decide
  obtain ⟨report, m₁, run, order, cut, -⟩ := batching_does_not_matter (worn ⟨.ofNumber 1⟩) refusing
    [⟨.nil⟩, ⟨.ofNumber 1⟩] .epoch sendable (by decide)
  have value : ((Pipeline.send store (exchanging refusing) [⟨.nil⟩, ⟨.ofNumber 1⟩] .epoch).runOn
      (worn ⟨.ofNumber 1⟩)).1 = .ok ⟨2, 2, ⟨2, 0, 1, 1⟩⟩ := by rfl
  have disabled : Id.mk .nil ∈ ((Pipeline.send store (exchanging refusing)
      [⟨.nil⟩, ⟨.ofNumber 1⟩] .epoch).runOn (worn ⟨.ofNumber 1⟩)).2.disabled := by decide
  rw [run] at value disabled
  cases value
  obtain ⟨m₂, run', same⟩ := order [⟨.ofNumber 1⟩, ⟨.nil⟩] .epoch (.swap _ _ _)
  obtain ⟨reports, runs⟩ := cut [([⟨.nil⟩], .epoch), ([⟨.ofNumber 1⟩], .epoch)] rfl
    (spared_of_pair spared)
  exact ⟨sendable, by decide, m₁, m₂, reports, run, run', same, runs, disabled⟩

/-- The first of two batches exhausts the subscription of the second, which then stays as it is. -/
example :
    ((sendAll refusing [([⟨.nil⟩], .epoch), ([⟨.ofNumber 1⟩], .epoch)]).runOn
      (worn ⟨.nil⟩)).2.retries ≠
    ((Pipeline.send store (exchanging refusing) [⟨.nil⟩, ⟨.ofNumber 1⟩] .epoch).runOn
      (worn ⟨.nil⟩)).2.retries := by
  decide

end MemoryStore

end Courier

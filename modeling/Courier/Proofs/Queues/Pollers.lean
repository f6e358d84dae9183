import Courier.Proofs.Queues.Ledger
import Mathlib.Algebra.BigOperators.Group.Finset.Basic
import Mathlib.Data.Fintype.Basic
import Mathlib.Tactic.Abel

/-!
# Pollers at work

Any number of pollers claim entries of the queues, send their events and finish, in any order. An
entry is outstanding while it is queued or claimed, so that a claim leaves the backlog as it is and a
cycle that ends is one of the backlog. `no_event_lost` says what holds at any time.
-/

namespace Courier

/-- A store, the queued entries, and the entries that each poller has claimed and not finished. -/
structure Pollers (Poller : Type) where
  store : MemoryStore
  queued : Multiset QueueEntry
  claimed : Poller → List QueueEntry

namespace Pollers

variable {Poller : Type} [Fintype Poller] [DecidableEq Poller]

def outstanding (s : Pollers Poller) : Multiset QueueEntry :=
  s.queued + ∑ p, (s.claimed p : Multiset QueueEntry)

def backlog (s : Pollers Poller) : Backlog := ⟨s.store, s.outstanding⟩

def waiting (s : Pollers Poller) (id : EventId) : Nat := s.backlog.waiting id

def hold (s : Pollers Poller) (p : Poller) (entries : List QueueEntry) : Poller → List QueueEntry :=
  Function.update s.claimed p entries

inductive Step : Pollers Poller → Pollers Poller → Prop where
  /-- A new event is admitted with an entry in the main queue. -/
  | enter {s : Pollers Poller} {e : StoredEvent} (fresh : s.store.event? e.eventId = none)
      (pending : e.state = .pending) (untried : e.tryCount = 0) :
      Step s { s with store := s.store.addEvent e, queued := .main e.eventId ::ₘ s.queued }
  /-- A poller claims some of the queued entries. -/
  | claim {s : Pollers Poller} {p : Poller} {batch : List QueueEntry}
      {rest : Multiset QueueEntry} (selected : s.queued = ↑batch + rest) :
      Step s { s with queued := rest, claimed := s.hold p (s.claimed p ++ batch) }
  /-- A poller has sent the events of its entries and entered the retries. -/
  | succeed {s : Pollers Poller} {p : Poller} {m' : MemoryStore} {added : List RetryEntry}
      (sends : s.store.Sends ((s.claimed p).map (·.eventId)) m' added) :
      Step s ⟨m', ↑(added.map QueueEntry.retry) + s.queued, s.hold p []⟩
  /-- A poller fails at some stage, and its entries are queued again. -/
  | fail {s : Pollers Poller} {p : Poller} :
      Step s { s with queued := ↑(s.claimed p) + s.queued, claimed := s.hold p [] }

def others (s : Pollers Poller) (p : Poller) : Multiset QueueEntry :=
  ∑ q ∈ Finset.univ.erase p, (s.claimed q : Multiset QueueEntry)

variable {s t : Pollers Poller} {p : Poller}

theorem outstanding_eq : s.outstanding = ↑(s.claimed p) + (s.queued + s.others p) := by
  unfold outstanding others
  rw [← Finset.add_sum_erase _ _ (Finset.mem_univ p), add_left_comm]

theorem outstanding_hold {m : MemoryStore} {queued : Multiset QueueEntry}
    {entries : List QueueEntry} :
    outstanding ⟨m, queued, s.hold p entries⟩ = ↑entries + (queued + s.others p) := by
  have same : others ⟨m, queued, s.hold p entries⟩ p = s.others p := by
    unfold others hold
    refine Finset.sum_congr rfl fun q member => ?_
    dsimp only
    rw [Function.update_of_ne (Finset.ne_of_mem_erase member)]
  rw [outstanding_eq (p := p), same]
  unfold hold
  dsimp only
  rw [Function.update_self]

theorem backlog_step (step : Step s t) :
    t.backlog = s.backlog ∨ Backlog.Move s.backlog t.backlog := by
  cases step with
  | enter fresh pending untried =>
    right; right
    unfold backlog outstanding
    rw [Multiset.cons_add]
    exact .admitted fresh pending untried
  | @claim p batch rest selected =>
    left
    unfold backlog
    rw [outstanding_hold, outstanding_eq (s := s) (p := p), selected, ← Multiset.coe_add]
    congr 1
    abel
  | @succeed p m' added sends =>
    right; left
    unfold backlog
    rw [outstanding_hold, outstanding_eq (s := s) (p := p), Multiset.coe_nil, zero_add, add_assoc]
    exact .sent sends
  | @fail p =>
    left
    unfold backlog
    rw [outstanding_hold, outstanding_eq (s := s) (p := p), Multiset.coe_nil, zero_add, add_assoc]

theorem backlog_run (run : Relation.ReflTransGen Step s t) :
    Relation.ReflTransGen Backlog.Move s.backlog t.backlog := by
  induction run with
  | refl => exact .refl
  | tail _ last ih =>
    rcases backlog_step last with same | move
    · rwa [same]
    · exact ih.tail move

/-- Whatever the pollers do and in whichever order, an event has at most one outstanding entry. A
delivered event has none and never changes again, an event that is not delivered has one while its
subscription gets events, and none once it had ten tries. -/
theorem no_event_lost (fresh : s.backlog.Fresh) (run : Relation.ReflTransGen Step s t) :
    (∀ id, t.waiting id ≤ 1) ∧
    (∀ id e, t.store.event? id = some e → e.state = .delivered →
      t.waiting id = 0 ∧ ∀ u, Relation.ReflTransGen Step t u →
        u.store.event? id = some e ∧ u.waiting id = 0) ∧
    (∀ id e, t.store.event? id = some e → e.state ≠ .delivered →
      t.store.accepts e.subscriptionId → e.tryCount < 10 ∧ t.waiting id = 1) ∧
    (∀ id, 0 < t.waiting id →
      ∃ e, t.store.event? id = some e ∧ e.state ≠ .delivered ∧ e.tryCount < 10) ∧
    ∀ id e, s.store.event? id = some e → ∃ f, t.store.event? id = some f ∧
      f = { e with state := f.state, tryCount := f.tryCount, responseCode := f.responseCode } := by
  have run := backlog_run run
  obtain ⟨log, ledger⟩ := (Ledger.opened fresh).moves run
  have known : ∀ id e, t.store.event? id = some e → ∃ entered,
      Account t.store e (t.waiting id) entered := fun id e found => ⟨_, ledger.known id e found⟩
  refine ⟨ledger.single, ?_, ?_, ?_, fun id e found => Backlog.exists_event?_of_moves run found⟩
  · intro id e found delivered
    obtain ⟨_, account⟩ := known id e found
    have idle : t.waiting id = 0 :=
      Nat.eq_zero_of_not_pos fun waits => (account.unfinished waits).1 delivered
    exact ⟨idle, fun u later => Backlog.idle_of_moves (backlog_run later) found idle⟩
  · intro id e found failed accepted
    obtain ⟨_, account⟩ := known id e found
    have few : e.tryCount < 10 := by
      refine lt_of_le_of_ne account.bounded fun spent => ?_
      have disabled := account.exhausted failed spent
      unfold MemoryStore.accepts at accepted
      simp [disabled] at accepted
    exact ⟨few, account.kept failed few accepted⟩
  · intro id waits
    cases found : t.store.event? id with
    | none => exact absurd (ledger.unknown id found).1 (Nat.ne_of_gt waits)
    | some e =>
      obtain ⟨_, account⟩ := known id e found
      exact ⟨e, rfl, account.unfinished waits⟩

/-- Two pollers that have claimed nothing, and one new event. -/
def idlers : Pollers Bool := ⟨Backlog.newcomer.store, {.main ⟨.nil⟩}, fun _ => []⟩

def welcoming : Transport := fun _ => ⟨.head 200 [] (.whole []), .zero⟩

/-- An event that one poller has delivered stays as it is, whatever both pollers do later. -/
theorem no_event_lost_idlers :
    idlers.backlog.Fresh ∧ ∃ t e, Relation.ReflTransGen Step idlers t ∧
      t.store.event? ⟨.nil⟩ = some e ∧ e.state = .delivered ∧ t.waiting ⟨.nil⟩ = 0 ∧
      ∀ u, Relation.ReflTransGen Step t u → u.store.event? ⟨.nil⟩ = some e ∧ u.waiting ⟨.nil⟩ = 0 := by
  have same : idlers.backlog = Backlog.newcomer := rfl
  have fresh : idlers.backlog.Fresh := by
    rw [same]
    exact Backlog.fresh_vacant.admission Backlog.admission_newcomer
  have claim := @Step.claim Bool _ idlers true [.main ⟨.nil⟩] 0 rfl
  have sends : MemoryStore.Sends idlers.store ([QueueEntry.main ⟨.nil⟩].map (·.eventId)) _ _ :=
    ⟨welcoming, .epoch, _, rfl, rfl⟩
  have run := (Relation.ReflTransGen.single claim).tail (Step.succeed (p := true) sends)
  obtain ⟨_, delivered, _⟩ := no_event_lost fresh run
  obtain ⟨idle, final⟩ := delivered ⟨.nil⟩ _ rfl rfl
  exact ⟨fresh, _, _, run, rfl, rfl, idle, final⟩

end Pollers

end Courier

import Courier.Proofs.Queues.Account

/-!
# The ledger of a backlog

A ledger keeps the accounts of all events of a backlog, with the log of the retries that a run has
entered. Every cycle and every admission keeps the ledger; `bounded_retries` reads off it what holds
after any number of cycles.
-/

namespace Courier

namespace MemoryStore

theorem event?_addEvent {m : MemoryStore} {e : StoredEvent} {id : EventId} :
    (m.addEvent e).event? id = if id = e.eventId then some e else m.event? id := by
  unfold event? addEvent
  dsimp only
  by_cases same : id = e.eventId
  · rw [if_pos same, List.find?_cons_of_pos (by simp [same])]
  · rw [if_neg same, List.find?_cons_of_neg (by simpa using Ne.symm same), List.find?_filter]
    congr 1
    funext f
    by_cases hit : f.eventId = id
    · simp [hit, same]
    · simp [hit]

theorem ne_of_unknown {m : MemoryStore} {e : StoredEvent} {id other : EventId}
    (unknown : m.event? other = none) (found : m.event? id = some e) : id ≠ other := by
  rintro rfl
  rw [unknown] at found
  cases found

end MemoryStore

open MemoryStore

/-- The accounts of all events of a backlog, after a run that started with a store and has entered
the retries of a log. -/
structure Ledger (start : MemoryStore) (log : List RetryEntry) (b : Backlog) : Prop where
  logged : b.store.retries = start.retries ++ log
  known : ∀ id e, b.store.event? id = some e →
    Account b.store e (b.waiting id) (log.filter (·.eventId = id))
  unknown : ∀ id, b.store.event? id = none →
    b.waiting id = 0 ∧ log.filter (·.eventId = id) = []
  blamed : ∀ s ∈ b.store.disabled, s ∈ start.disabled ∨
    ∃ id e, b.store.event? id = some e ∧ e.subscriptionId = s ∧ e.attempt.isExhausted

namespace Backlog

variable {b c : Backlog} {id : EventId} {e : StoredEvent}

theorem Cycle.idle (cycle : Cycle b c) (found : b.store.event? id = some e)
    (idle : b.waiting id = 0) : c.store.event? id = some e ∧ c.waiting id = 0 := by
  cases cycle with
  | undone => exact ⟨found, idle⟩
  | sent sends =>
    rw [waiting_batch] at idle
    have outside : id ∉ List.map _ _ := List.count_eq_zero.mp (Nat.eq_zero_of_add_eq_zero idle).1
    obtain ⟨same, none⟩ := sends.of_skipped found fun member => absurd member outside
    rw [waiting_added, none]
    exact ⟨same, by simpa using (Nat.eq_zero_of_add_eq_zero idle).2⟩

theorem Admission.event?_eq_some (admission : Admission b c) (found : b.store.event? id = some e) :
    c.store.event? id = some e := by
  cases admission with
  | @admitted m entries f fresh =>
    have old := ne_of_unknown fresh found
    rw [event?_addEvent, if_neg old, found]

theorem Admission.idle (admission : Admission b c) (found : b.store.event? id = some e)
    (idle : b.waiting id = 0) : c.store.event? id = some e ∧ c.waiting id = 0 := by
  refine ⟨admission.event?_eq_some found, ?_⟩
  cases admission with
  | @admitted m entries f fresh =>
    have old := ne_of_unknown fresh found
    rw [waiting_admitted, if_neg old]
    exact idle

end Backlog

namespace Ledger

variable {start : MemoryStore} {log : List RetryEntry} {b c : Backlog} {id : EventId}
  {e : StoredEvent}

theorem opened (fresh : b.Fresh) : Ledger b.store [] b where
  logged := (List.append_nil _).symm
  known id e found := by
    have one := fresh.single id
    rw [found] at one
    rw [one]
    exact .admitted (fresh.pending id e found) (fresh.untried id e found)
  unknown id none := by
    have zero := fresh.single id
    rw [none] at zero
    exact ⟨zero, rfl⟩
  blamed s member := .inl member

theorem single (ledger : Ledger start log b) (id : EventId) : b.waiting id ≤ 1 := by
  cases found : b.store.event? id with
  | none => rw [(ledger.unknown id found).1]; exact Nat.zero_le 1
  | some e => exact (ledger.known id e found).single

theorem idle_of_exhausted (ledger : Ledger start log b) (found : b.store.event? id = some e)
    (exhausted : e.attempt.isExhausted) : b.waiting id = 0 := by
  refine Nat.eq_zero_of_not_pos fun waits => ?_
  have few := ((ledger.known id e found).unfinished waits).2
  exact absurd (Attempt.isExhausted_iff.mp exhausted).2 (Int.not_le.mpr few)

theorem admission (ledger : Ledger start log b) (admission : Backlog.Admission b c) :
    Ledger start log c := by
  cases admission with
  | @admitted m entries f fresh pending untried =>
    have none := ledger.unknown f.eventId fresh
    exact {
      logged := ledger.logged
      known := by
        intro id e found
        rw [event?_addEvent] at found
        rw [Backlog.waiting_admitted]
        by_cases new : id = f.eventId
        · rw [if_pos new] at found
          cases found
          rw [if_pos new, new, none.1, none.2]
          exact .admitted pending untried
        · rw [if_neg new] at found
          rw [if_neg new]
          exact (ledger.known id e found).passed rfl (fun _ member => member) (Nat.le_refl _)
            fun _ => rfl
      unknown := by
        intro id missing
        rw [event?_addEvent] at missing
        split at missing
        · cases missing
        · next old =>
          rw [Backlog.waiting_admitted, if_neg old]
          exact ledger.unknown id missing
      blamed := by
        intro s member
        refine (ledger.blamed s member).imp_right ?_
        rintro ⟨id, e, found, rest⟩
        exact ⟨id, e, Backlog.Admission.event?_eq_some (.admitted fresh pending untried) found,
          rest⟩ }

theorem cycle (ledger : Ledger start log b) (cycle : Backlog.Cycle b c) :
    ∃ added, Ledger start (log ++ added) c := by
  cases cycle with
  | undone => exact ⟨[], by rwa [List.append_nil]⟩
  | @sent m m' batch added rest sends =>
    have distinct := Backlog.distinct_of_waiting ledger.single
    have grown : ∀ s ∈ m.disabled, s ∈ m'.disabled := fun _ => sends.mem_disabled
    refine ⟨added, ?_, ?_, ?_, ?_⟩
    · rw [← List.append_assoc, ← ledger.logged]
      exact sends.retries_eq
    · intro id e' found'
      cases found : m.event? id with
      | none =>
        rw [(sends.of_unknown found).1] at found'
        cases found'
      | some e =>
        have account := ledger.known id e found
        have waiting : Backlog.waiting ⟨m, ↑batch + rest⟩ id = _ := Backlog.waiting_batch
        rw [List.filter_append, Backlog.waiting_added]
        by_cases sent : id ∈ batch.map (·.eventId) ∧ m.accepts e.subscriptionId
        · obtain ⟨member, accepted⟩ := sent
          obtain ⟨o, left, times, disabled⟩ := sends.of_sent distinct found member accepted
          rw [left] at found'
          cases found'
          -- The entry in the batch was the only one, so the event waits in the retries alone.
          have taken := List.count_pos_iff.mpr member
          have single := account.single
          rw [show rest.countP (·.eventId = id) = 0 by omega, Nat.add_zero]
          exact account.tried (by omega) o times disabled
        · obtain ⟨same, none⟩ := sends.of_skipped found fun member accepted =>
            sent ⟨member, accepted⟩
          rw [same] at found'
          cases found'
          rw [none, List.append_nil, List.length_nil, Nat.zero_add]
          refine account.passed sends.urls_eq grown (by omega) fun accepted => ?_
          have outside := List.count_eq_zero.mpr fun member => sent ⟨member, accepted⟩
          omega
    · intro id missing
      have before := sends.event?_eq_none_iff.mp missing
      obtain ⟨zero, none⟩ := ledger.unknown id before
      rw [Backlog.waiting_batch] at zero
      rw [List.filter_append, none, (sends.of_unknown before).2, Backlog.waiting_added,
        (sends.of_unknown before).2]
      exact ⟨by simp only [List.length_nil]; omega, rfl⟩
    · intro s member
      rcases sends.exists_of_mem_disabled member with old | blamed
      · -- The event that was to blame has no entry and is out of reach of the batch.
        refine (ledger.blamed s old).imp_right ?_
        rintro ⟨id, e, found, same, exhausted⟩
        have idle := ledger.idle_of_exhausted found exhausted
        exact ⟨id, e, (Backlog.Cycle.idle (.sent sends) found idle).1, same, exhausted⟩
      · exact .inr blamed

theorem moves (ledger : Ledger start log b) (run : Relation.ReflTransGen Backlog.Move b c) :
    ∃ added, Ledger start (log ++ added) c := by
  induction run with
  | refl => exact ⟨[], by rwa [List.append_nil]⟩
  | tail _ last ih =>
    obtain ⟨added, ledger⟩ := ih
    rcases last with cycle | admission
    · obtain ⟨more, ledger⟩ := ledger.cycle cycle
      exact ⟨added ++ more, by rwa [← List.append_assoc]⟩
    · exact ⟨added, ledger.admission admission⟩

end Ledger

namespace Backlog

variable {b c : Backlog} {id : EventId} {e : StoredEvent}

/-- No event is ever lost, and only its state, its tries and its status change. -/
theorem exists_event?_of_moves (run : Relation.ReflTransGen Move b c)
    (found : b.store.event? id = some e) :
    ∃ f, c.store.event? id = some f ∧
      f = { e with state := f.state, tryCount := f.tryCount, responseCode := f.responseCode } := by
  induction run with
  | refl => exact ⟨e, found, rfl⟩
  | tail _ last ih =>
    obtain ⟨f, middle, same⟩ := ih
    rcases last with cycle | admission
    · cases cycle with
      | undone => exact ⟨f, middle, same⟩
      | sent sends =>
        obtain ⟨g, found, next⟩ := sends.exists_event? middle
        refine ⟨g, found, ?_⟩
        rw [same] at next
        exact next
    · exact ⟨f, admission.event?_eq_some middle, same⟩

/-- An event without an entry never changes again and never gets one. -/
theorem idle_of_moves (run : Relation.ReflTransGen Move b c) (found : b.store.event? id = some e)
    (idle : b.waiting id = 0) : c.store.event? id = some e ∧ c.waiting id = 0 := by
  induction run with
  | refl => exact ⟨found, idle⟩
  | tail _ last ih =>
    obtain ⟨found, idle⟩ := ih
    exact last.elim (·.idle found idle) (·.idle found idle)

theorem event?_eq_none_iff_of_cycles (run : Relation.ReflTransGen Cycle b c) :
    c.store.event? id = none ↔ b.store.event? id = none := by
  induction run with
  | refl => rfl
  | tail _ last ih =>
    cases last with
    | undone => exact ih
    | sent sends => exact sends.event?_eq_none_iff.trans ih

theorem Fresh.admission (fresh : b.Fresh) (admission : Admission b c) : c.Fresh := by
  cases admission with
  | @admitted m entries f new pending untried =>
    have none : waiting ⟨m, entries⟩ f.eventId = 0 := by
      rw [fresh.single, new]
      rfl
    refine ⟨fun id e found => ?_, fun id e found => ?_, fun id => ?_⟩
    · rw [event?_addEvent] at found
      split at found
      · cases found
        exact pending
      · exact fresh.pending id e found
    · rw [event?_addEvent] at found
      split at found
      · cases found
        exact untried
      · exact fresh.untried id e found
    · rw [event?_addEvent, waiting_admitted]
      by_cases same : id = f.eventId
      · rw [if_pos same, if_pos same, same, none]
        rfl
      · rw [if_neg same, if_neg same]
        exact fresh.single id

/-- However many cycles have been run, an event has had at most ten tries, each failed one but the
tenth has been followed by one retry at its time, and the tenth has disabled the subscription; no
other subscription has been disabled. -/
theorem bounded_retries (fresh : b.Fresh) (run : Relation.ReflTransGen Cycle b c) :
    ∃ log, c.store.retries = b.store.retries ++ log ∧
      (∀ id, c.store.event? id = none ↔ b.store.event? id = none) ∧
      (∀ id e, b.store.event? id = some e → ∃ f, c.store.event? id = some f ∧
        f = { e with state := f.state, tryCount := f.tryCount, responseCode := f.responseCode } ∧
        0 ≤ f.tryCount ∧ f.tryCount ≤ 10 ∧ (f.state = .pending ↔ f.tryCount = 0) ∧
        (log.filter (·.eventId = id)).map (some ·.executeAt) = f.retryTimes ∧
        (f.tryCount = 10 → f.state ≠ .delivered →
          f.subscriptionId ∈ c.store.disabled ∧ c.waiting id = 0)) ∧
      ∀ s ∈ c.store.disabled, s ∉ b.store.disabled →
        ∃ id f, c.store.event? id = some f ∧ f.subscriptionId = s ∧ f.tryCount = 10 ∧
          f.state ≠ .delivered := by
  have moves : Relation.ReflTransGen Move b c :=
    run.lift id fun _ _ cycle => .inl cycle
  obtain ⟨log, ledger⟩ := (Ledger.opened fresh).moves moves
  rw [List.nil_append] at ledger
  refine ⟨log, ledger.logged, fun id => event?_eq_none_iff_of_cycles run, ?_, ?_⟩
  · intro id e found
    obtain ⟨f, found, same⟩ := exists_event?_of_moves moves found
    have account := ledger.known id f found
    refine ⟨f, found, same, account.counted, account.bounded, account.pending, account.times, ?_⟩
    intro spent failed
    refine ⟨account.exhausted failed spent, Nat.eq_zero_of_not_pos fun waits => ?_⟩
    have few := (account.unfinished waits).2
    omega
  · intro s member new
    obtain ⟨id, f, found, same, exhausted⟩ := (ledger.blamed s member).resolve_left new
    have bounded := (ledger.known id f found).bounded
    obtain ⟨failed, spent⟩ := Attempt.isExhausted_iff.mp exhausted
    exact ⟨id, f, found, same, le_antisymm bounded spent, failed⟩

def vacant : Backlog := ⟨empty.addSubscription ⟨.nil⟩ "http://a/", 0⟩

theorem fresh_vacant : vacant.Fresh where
  pending _ _ found := nomatch found
  untried _ _ found := nomatch found
  single _ := rfl

def newcomer : Backlog where
  store := vacant.store.addEvent (newEvent ⟨.nil⟩ ⟨.nil⟩ 0 (.midnight .epoch))
  entries := {.main ⟨.nil⟩}

theorem admission_newcomer : Admission vacant newcomer :=
  .admitted (m := vacant.store) (e := newEvent ⟨.nil⟩ ⟨.nil⟩ 0 (.midnight .epoch)) rfl rfl rfl

/-- A new event that is refused once has one try behind it and one retry before it. -/
theorem bounded_retries_newcomer :
    newcomer.Fresh ∧ ∃ c, Relation.ReflTransGen Cycle newcomer c ∧
      ∃ log, c.store.retries = newcomer.store.retries ++ log ∧
        (log.filter (·.eventId = ⟨.nil⟩)).map (some ·.executeAt) =
          [(Instant.midnight .epoch).plus? 3000000000] ∧
        ∃ f, c.store.event? ⟨.nil⟩ = some f ∧ f.tryCount = 1 ∧ f.state = .httpError := by
  have fresh := fresh_vacant.admission admission_newcomer
  have sends : MemoryStore.Sends newcomer.store ([QueueEntry.main ⟨.nil⟩].map (·.eventId)) _ _ :=
    ⟨refusing, .epoch, _, rfl, rfl⟩
  have run := Relation.ReflTransGen.single (@Cycle.sent _ _ _ _ 0 sends)
  obtain ⟨log, retries, _, events, _⟩ := bounded_retries fresh run
  obtain ⟨f, found, _, _, _, _, times, _⟩ := events ⟨.nil⟩ _ rfl
  obtain rfl : (newEvent ⟨.nil⟩ ⟨.nil⟩ 0 (.midnight .epoch)).after 1 (.answered 500) = f :=
    Option.some.inj found
  exact ⟨fresh, _, run, log, retries, times, _, found, rfl, rfl⟩

end Backlog

end Courier

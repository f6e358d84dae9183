import Courier.Proofs.Data.OrderedSet
import Courier.Proofs.Retry.Decision
import Courier.Sending.Pipeline
import Mathlib.Data.List.Forall2

/-!
# The schedule of a batch

A schedule sorts the attempts of a batch by what follows them. `schedule_ok` says which attempts it
counts as delivered, which it repeats and when, and which subscriptions it gives up;
`schedule_of_decided` gives the schedule if every attempt has a decision, and
`schedule_of_undecided` the error if one has none.
-/

namespace Courier

def Attempt.isRetriable (a : Attempt) : Bool := Backoff.isRetriable a.state a.tryCount

def Attempt.isExhausted (a : Attempt) : Bool := !a.state.isDelivered && 10 ≤ a.tryCount

theorem Attempt.isRetriable_iff {a : Attempt} :
    a.isRetriable = true ↔ a.state ≠ .delivered ∧ a.tryCount < 10 :=
  Backoff.isRetriable_iff

theorem Attempt.isExhausted_iff {a : Attempt} :
    a.isExhausted = true ↔ a.state ≠ .delivered ∧ 10 ≤ a.tryCount := by
  simp [Attempt.isExhausted, DeliveryState.isDelivered]

/-- The entry repeats the attempt: it is due 3^n seconds after the event was created, where n is the
number of tries so far. -/
def RetryEntry.Repeats (r : RetryEntry) (a : Attempt) : Prop :=
  r.eventId = a.eventId ∧
    a.createdAt.plus? (3 ^ a.tryCount.toNat * 1000000000) = some r.executeAt

def Attempt.decision? (a : Attempt) : Option Backoff.Decision := (Backoff.decide a).toOption

theorem Attempt.decision?_eq_some_iff {a : Attempt} {d : Backoff.Decision} :
    a.decision? = some d ↔ Backoff.decide a = .ok d := by
  unfold Attempt.decision?
  cases Backoff.decide a with
  | error e => simp [Except.toOption]
  | ok d => simp [Except.toOption]

def Attempt.retry? (a : Attempt) : Option RetryEntry :=
  match Backoff.decide a with
  | .ok (.retryAt t) => some ⟨a.eventId, t⟩
  | _ => none

namespace Pipeline

variable {s u : Schedule} {a : Attempt} {as : List Attempt}

theorem schedule_cons_ok (h : schedule s (a :: as) = .ok u) :
    ∃ d, Backoff.decide a = .ok d ∧ schedule (s.add a d) as = .ok u := by
  rw [schedule] at h
  cases decided : Backoff.decide a with
  | error e => rw [decided] at h; cases h
  | ok d => rw [decided] at h; exact ⟨d, rfl, h⟩

/-- A schedule counts the delivered attempts, repeats the retriable ones in their order and gives up
the subscriptions of the exhausted ones. -/
theorem schedule_ok (h : schedule s as = .ok u) :
    u.delivered = s.delivered + as.countP (·.state.isDelivered) ∧
    (∃ added, u.retries = s.retries ++ added ∧
      List.Forall₂ RetryEntry.Repeats added (as.filter (·.isRetriable))) ∧
    ∀ x, x ∈ u.exhausted ↔ x ∈ s.exhausted ∨ ∃ a ∈ as, a.isExhausted ∧ a.subscriptionId = x := by
  induction as generalizing s with
  | nil =>
    cases h
    exact ⟨rfl, ⟨[], (List.append_nil _).symm, .nil⟩, by simp⟩
  | cons a rest ih =>
    obtain ⟨d, decided, h⟩ := schedule_cons_ok h
    obtain ⟨count, ⟨added, retries, repeats⟩, exhausted⟩ := ih h
    cases d with
    | delivered =>
      have delivered := Backoff.decide_delivered_iff.mp decided
      have kept : ¬ a.isRetriable = true := fun left =>
        (Attempt.isRetriable_iff.mp left).1 delivered
      have last : ¬ a.isExhausted = true := fun spent =>
        (Attempt.isExhausted_iff.mp spent).1 delivered
      refine ⟨?_, ⟨added, retries, by rwa [List.filter_cons_of_neg kept]⟩, ?_⟩
      · rw [List.countP_cons_of_pos (by simp [DeliveryState.isDelivered, delivered]), count]
        exact Nat.add_right_comm _ _ _
      · intro x
        simpa [last, Schedule.add] using exhausted x
    | retryAt t =>
      obtain ⟨failed, tried, few, time⟩ := Backoff.decide_retryAt_iff.mp decided
      have retriable : a.isRetriable = true := Attempt.isRetriable_iff.mpr ⟨failed, few⟩
      have last : ¬ a.isExhausted = true := fun spent =>
        absurd (Attempt.isExhausted_iff.mp spent).2 (Int.not_le.mpr few)
      refine ⟨?_, ⟨⟨a.eventId, t⟩ :: added, ?_, ?_⟩, ?_⟩
      · rwa [List.countP_cons_of_neg (by simpa [DeliveryState.isDelivered] using failed)]
      · rw [retries]
        exact List.append_assoc _ _ _
      · rw [List.filter_cons_of_pos retriable]
        exact .cons ⟨rfl, time⟩ repeats
      · intro x
        simpa [last, Schedule.add] using exhausted x
    | exhausted =>
      obtain ⟨failed, spent⟩ := Backoff.decide_exhausted_iff.mp decided
      have kept : ¬ a.isRetriable = true := fun left =>
        Int.not_lt.mpr spent (Attempt.isRetriable_iff.mp left).2
      have last : a.isExhausted = true := Attempt.isExhausted_iff.mpr ⟨failed, spent⟩
      refine ⟨?_, ⟨added, retries, by rwa [List.filter_cons_of_neg kept]⟩, ?_⟩
      · rwa [List.countP_cons_of_neg (by simpa [DeliveryState.isDelivered] using failed)]
      · intro x
        rw [exhausted]
        simp only [Schedule.add, OrderedSet.mem_insert, List.mem_cons, exists_eq_or_imp, last]
        grind

theorem schedule_succeeds (s : Schedule) (decided : ∀ a ∈ as, ∃ d, Backoff.decide a = .ok d) :
    ∃ u, schedule s as = .ok u := by
  induction as generalizing s with
  | nil => exact ⟨s, rfl⟩
  | cons a rest ih =>
    obtain ⟨d, first⟩ := decided a List.mem_cons_self
    obtain ⟨u, rest⟩ := ih (s.add a d) fun b member => decided b (List.mem_cons_of_mem _ member)
    refine ⟨u, ?_⟩
    rw [schedule, first]
    exact rest

theorem schedule_retries (h : schedule s as = .ok u) :
    u.retries = s.retries ++ as.filterMap Attempt.retry? := by
  induction as generalizing s with
  | nil =>
    cases h
    exact (List.append_nil _).symm
  | cons a rest ih =>
    obtain ⟨d, decided, h⟩ := schedule_cons_ok h
    rw [ih h]
    cases d with
    | delivered | exhausted =>
      rw [List.filterMap_cons_none (by simp [Attempt.retry?, decided])]
      rfl
    | retryAt t =>
      have entry : a.retry? = some ⟨a.eventId, t⟩ := by simp [Attempt.retry?, decided]
      rw [List.filterMap_cons_some entry]
      exact List.append_assoc _ _ _

/-- The schedule of attempts that all have a decision. -/
def Schedule.ofAttempts (as : List Attempt) : Schedule where
  delivered := as.countP (·.decision? = some .delivered)
  retries := as.filterMap Attempt.retry?
  exhausted := .ofList ((as.filter (·.decision? = some .exhausted)).map (·.subscriptionId))

theorem Schedule.retries_ofAttempts (as : List Attempt) :
    (Schedule.ofAttempts as).retries = as.filterMap Attempt.retry? := rfl

theorem Schedule.mem_exhausted {x : SubscriptionId} :
    x ∈ (Schedule.ofAttempts as).exhausted ↔
      ∃ a ∈ as, Backoff.decide a = .ok .exhausted ∧ a.subscriptionId = x := by
  simp only [Schedule.ofAttempts, OrderedSet.mem_ofList, List.mem_map, List.mem_filter,
    decide_eq_true_eq, Attempt.decision?_eq_some_iff, and_assoc]

theorem Schedule.mem_exhausted_append {bs : List Attempt} {x : SubscriptionId} :
    x ∈ (Schedule.ofAttempts (as ++ bs)).exhausted ↔
      x ∈ (Schedule.ofAttempts as).exhausted ∨ x ∈ (Schedule.ofAttempts bs).exhausted := by
  simp only [Schedule.mem_exhausted, List.mem_append, or_and_right, exists_or]

theorem Schedule.ofAttempts_perm {bs : List Attempt} (perm : as.Perm bs) :
    (Schedule.ofAttempts as).delivered = (Schedule.ofAttempts bs).delivered ∧
      (Schedule.ofAttempts as).retries.Perm (Schedule.ofAttempts bs).retries ∧
      (Schedule.ofAttempts as).exhausted = (Schedule.ofAttempts bs).exhausted := by
  refine ⟨perm.countP_eq _, perm.filterMap _, OrderedSet.eq_of_mem_iff fun x => ?_⟩
  rw [Schedule.mem_exhausted, Schedule.mem_exhausted]
  simp only [perm.mem_iff]

theorem schedule_of_decided (decided : ∀ a ∈ as, ∃ d, Backoff.decide a = .ok d) :
    schedule ⟨0, [], .empty⟩ as = .ok (Schedule.ofAttempts as) := by
  obtain ⟨u, h⟩ := schedule_succeeds ⟨0, [], .empty⟩ decided
  obtain ⟨count, -, exhausted⟩ := schedule_ok h
  have delivered : u.delivered = as.countP (·.decision? = some .delivered) := by
    rw [count, Nat.zero_add]
    refine List.countP_congr fun a _ => ?_
    rw [decide_eq_true_eq, Attempt.decision?_eq_some_iff, Backoff.decide_delivered_iff]
    simp [DeliveryState.isDelivered]
  have retries : u.retries = as.filterMap Attempt.retry? := schedule_retries h
  have given : u.exhausted = (Schedule.ofAttempts as).exhausted := by
    refine OrderedSet.eq_of_mem_iff fun x => ?_
    rw [exhausted, Schedule.mem_exhausted]
    simp only [Attempt.isExhausted_iff, Backoff.decide_exhausted_iff]
    exact or_iff_right List.not_mem_nil
  rw [h]
  cases u
  cases delivered
  cases retries
  cases given
  rfl

/-- The first attempt without a decision ends the schedule with its error. -/
theorem schedule_of_undecided {before after : List Attempt} {e : DeliveryError}
    (decided : ∀ b ∈ before, ∃ d, Backoff.decide b = .ok d) (fails : Backoff.decide a = .error e) :
    schedule s (before ++ a :: after) = .error e := by
  induction before generalizing s with
  | nil =>
    rw [List.nil_append, schedule, fails]
    rfl
  | cons b rest ih =>
    obtain ⟨d, first⟩ := decided b List.mem_cons_self
    rw [List.cons_append, schedule, first]
    exact ih fun c member => decided c (List.mem_cons_of_mem _ member)

theorem decided_or_first_undecided (as : List Attempt) :
    (∀ a ∈ as, ∃ d, Backoff.decide a = .ok d) ∨
      ∃ before a after e, as = before ++ a :: after ∧
        (∀ b ∈ before, ∃ d, Backoff.decide b = .ok d) ∧ Backoff.decide a = .error e := by
  induction as with
  | nil => exact .inl fun a member => absurd member List.not_mem_nil
  | cons a rest ih =>
    cases first : Backoff.decide a with
    | error e => exact .inr ⟨[], a, rest, e, rfl, fun b member => absurd member List.not_mem_nil, first⟩
    | ok d =>
      obtain all | ⟨before, b, after, e, rfl, decided, fails⟩ := ih
      · refine .inl fun c member => ?_
        rcases List.mem_cons.mp member with rfl | later
        · exact ⟨d, first⟩
        · exact all c later
      · refine .inr ⟨a :: before, b, after, e, rfl, fun c member => ?_, fails⟩
        rcases List.mem_cons.mp member with rfl | later
        · exact ⟨d, first⟩
        · exact decided c later

end Pipeline

end Courier

import Courier.Proofs.Queues.Backlog

/-!
# The account of an event

An account ties the state and the tries of an event to its queue entries, to the retries that were
entered for it and to the subscriptions that are disabled. A cycle or an admission keeps every
account in order.
-/

namespace Courier

theorem Outcome.state_ne_pending (o : Outcome) : o.state ≠ .pending := by
  cases o with
  | answered status => simp only [state]; grind
  | _ => simp [state]

namespace StoredEvent

/-- The number of retries that have been entered for an event: one for each failed try but the
tenth. -/
def retryCount (e : StoredEvent) : Nat :=
  if e.state = .delivered then e.tryCount.toNat - 1 else min e.tryCount.toNat 9

/-- The times of those retries: 3 seconds after the event was created, 9 seconds, and so on. -/
def retryTimes (e : StoredEvent) : List (Option Instant) :=
  (List.range' 1 e.retryCount).map fun i => e.createdAt.plus? (3 ^ i * 1000000000)

end StoredEvent

/-- The state of an event agrees with its number of queue entries and the retries entered for it. -/
structure Account (m : MemoryStore) (e : StoredEvent) (waiting : Nat) (retries : List RetryEntry) :
    Prop where
  counted : 0 ≤ e.tryCount
  bounded : e.tryCount ≤ 10
  pending : e.state = .pending ↔ e.tryCount = 0
  single : waiting ≤ 1
  /-- An event that waits may be attempted once more. -/
  unfinished : 0 < waiting → e.state ≠ .delivered ∧ e.tryCount < 10
  /-- An event that may be attempted once more is not lost. -/
  kept : e.state ≠ .delivered → e.tryCount < 10 → m.accepts e.subscriptionId → waiting = 1
  exhausted : e.state ≠ .delivered → e.tryCount = 10 → e.subscriptionId ∈ m.disabled
  times : retries.map (some ·.executeAt) = e.retryTimes

namespace Account

variable {m m' : MemoryStore} {e : StoredEvent} {waiting : Nat} {retries : List RetryEntry}

theorem admitted (pending : e.state = .pending) (untried : e.tryCount = 0) : Account m e 1 [] where
  counted := by omega
  bounded := by omega
  pending := iff_of_true pending untried
  single := Nat.le_refl 1
  unfinished _ := ⟨by rw [pending]; decide, by omega⟩
  kept _ _ _ := rfl
  exhausted _ spent := by omega
  times := by
    unfold StoredEvent.retryTimes StoredEvent.retryCount
    rw [pending, untried]
    rfl

theorem accepts_of_accepts (urls : m'.urls = m.urls) (grown : ∀ s ∈ m.disabled, s ∈ m'.disabled)
    {s : SubscriptionId} (accepted : m'.accepts s) : m.accepts s := by
  unfold MemoryStore.accepts MemoryStore.url? at accepted ⊢
  rw [urls] at accepted
  simp only [Bool.and_eq_true, decide_eq_true_eq] at accepted ⊢
  exact ⟨accepted.1, fun member => accepted.2 (grown s member)⟩

/-- An event that is passed over keeps its account; it may lose its entry if its subscription gets
no events. -/
theorem passed (account : Account m e waiting retries) {left : Nat} (urls : m'.urls = m.urls)
    (grown : ∀ s ∈ m.disabled, s ∈ m'.disabled) (fewer : left ≤ waiting)
    (same : m.accepts e.subscriptionId → left = waiting) : Account m' e left retries where
  counted := account.counted
  bounded := account.bounded
  pending := account.pending
  single := Nat.le_trans fewer account.single
  unfinished waits := account.unfinished (Nat.lt_of_lt_of_le waits fewer)
  kept failed few accepted := by
    have before := accepts_of_accepts urls grown accepted
    rw [same before]
    exact account.kept failed few before
  exhausted failed spent := grown _ (account.exhausted failed spent)
  times := account.times

/-- One more try of a waiting event: its entry is gone, and there is a retry in its place unless the
event is delivered or was tried ten times. -/
theorem tried (account : Account m e waiting retries) (waits : 0 < waiting) (o : Outcome)
    {added : List RetryEntry}
    (times : added.map (some ·.executeAt) =
      if (e.after 1 o).attempt.isRetriable then
        [e.createdAt.plus? (3 ^ (e.tryCount + 1).toNat * 1000000000)]
      else [])
    (disabled : (e.after 1 o).attempt.isExhausted → e.subscriptionId ∈ m'.disabled) :
    Account m' (e.after 1 o) added.length (retries ++ added) := by
  obtain ⟨failed, few⟩ := account.unfinished waits
  have counted := account.counted
  have state : (e.after 1 o).state = o.state := StoredEvent.after_state Nat.one_pos
  have tries : (e.after 1 o).tryCount = e.tryCount + 1 := StoredEvent.after_tryCount e 1 o
  -- So far every try has failed and been followed by a retry.
  have before : e.retryCount = e.tryCount.toNat := by
    unfold StoredEvent.retryCount
    rw [if_neg failed]
    omega
  have retriable : (e.after 1 o).attempt.isRetriable = true ↔
      o.state ≠ .delivered ∧ e.tryCount + 1 < 10 := by
    rw [← state, ← tries]
    exact Attempt.isRetriable_iff
  have length : added.length = if o.state ≠ .delivered ∧ e.tryCount + 1 < 10 then 1 else 0 := by
    rw [← List.length_map (some ·.executeAt), times]
    simp only [retriable]
    split <;> rfl
  have after : (e.after 1 o).retryCount = e.retryCount + added.length := by
    rw [length, before, StoredEvent.retryCount, state, tries]
    by_cases delivered : o.state = .delivered
    · rw [if_pos delivered, if_neg (by simp [delivered])]
      omega
    · rw [if_neg delivered]
      by_cases left : e.tryCount + 1 < 10
      · rw [if_pos ⟨delivered, left⟩]
        omega
      · rw [if_neg fun both => left both.2]
        omega
  exact {
    counted := by omega
    bounded := by omega
    pending := by
      rw [state, tries]
      exact iff_of_false o.state_ne_pending (by omega)
    single := by
      rw [length]
      split <;> omega
    unfinished := by
      rw [length, state, tries]
      split
      · next left => exact fun _ => left
      · intro waits
        omega
    kept := by
      rw [state, tries]
      intro failed left _
      rw [length, if_pos ⟨failed, left⟩]
    exhausted := by
      rw [state, tries, StoredEvent.after_subscriptionId]
      intro failed spent
      refine disabled (Attempt.isExhausted_iff.mpr ⟨?_, ?_⟩)
      · rwa [StoredEvent.attempt_state, state]
      · rw [StoredEvent.attempt_tryCount, tries, spent]
    times := by
      rw [List.map_append, account.times, times, StoredEvent.retryTimes, StoredEvent.retryTimes,
        after, length, StoredEvent.after_createdAt]
      simp only [retriable]
      split
      · rw [List.range'_1_concat, List.map_append, before, show (e.tryCount + 1).toNat =
          1 + e.tryCount.toNat by omega]
        rfl
      · exact List.append_nil _ }

end Account

end Courier

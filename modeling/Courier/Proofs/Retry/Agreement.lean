import Courier.Proofs.Calendar.Addition
import Mathlib.Tactic.IntervalCases

/-!
# The backoff functions agree

The limits on tries stand in four functions. `backoff_functions_agree` says what each of them does
for every number of tries and up to the end of the calendar, and that the times which one of them
gives are those of the others.
-/

namespace Courier

namespace Instant

variable {t u : Instant} {n : Nat}

/-- Outside leap seconds a sum is the only plain instant at its distance, if there is one. -/
theorem plus?_eq_some_iff (plain : ¬ t.IsLeap) :
    t.plus? n = some u ↔ ¬ u.IsLeap ∧ u.nanos = t.nanos + n := by
  rw [plus?_past fun within => plain within.1, anchor_of_plain plain]
  constructor
  · intro found
    exact ⟨not_isLeap_ofNanos? found, nanos_ofNanos? found⟩
  · rintro ⟨settled, sum⟩
    rw [← sum]
    exact ofNanos?_nanos settled

theorem nanos_le_last (plain : ¬ t.IsLeap) : t.nanos ≤ last.nanos := by
  have low : t.nano < 1000000000 := Nat.lt_of_not_le plain
  have short := t.second_lt
  have final := t.date.notAfter
  rw [nanos_last]
  unfold nanos
  omega

end Instant

namespace Backoff

variable {a : Attempt} {t : Instant} {m n : Int} {k s : Nat}

/-- The instant is 3^n seconds after the creation of the event, for its n tries. -/
structure IsDue (a : Attempt) (t : Instant) : Prop where
  plain : ¬ t.IsLeap
  exact : t.nanos = a.createdAt.nanos + (3 ^ a.tryCount.toNat * 1000000000 : Nat)

theorem isDue_iff (plain : ¬ a.createdAt.IsLeap) :
    IsDue a t ↔ a.createdAt.plus? (3 ^ a.tryCount.toNat * 1000000000) = some t := by
  rw [Instant.plus?_eq_some_iff plain]
  constructor
  · intro due
    exact ⟨due.plain, due.exact⟩
  · rintro ⟨settled, sum⟩
    exact ⟨settled, sum⟩

/-- A retry has a time exactly up to the last instant of the calendar. -/
theorem exists_isDue_iff :
    (∃ t, IsDue a t) ↔
      a.createdAt.nanos + (3 ^ a.tryCount.toNat * 1000000000 : Nat) ≤ Instant.last.nanos := by
  constructor
  · rintro ⟨t, due⟩
    rw [← due.exact]
    exact Instant.nanos_le_last due.plain
  · intro inside
    have first := a.createdAt.first_le_nanos
    obtain ⟨t, found⟩ := Instant.exists_ofNanos? (by omega) inside
    exact ⟨t, Instant.not_isLeap_ofNanos? found, Instant.nanos_ofNanos? found⟩

theorem plus?_eq_none_iff (plain : ¬ a.createdAt.IsLeap) :
    a.createdAt.plus? (3 ^ a.tryCount.toNat * 1000000000) = none ↔ ¬ ∃ t, IsDue a t := by
  rw [Option.eq_none_iff_forall_ne_some, not_exists]
  exact forall_congr' fun t => not_congr (isDue_iff plain).symm

/-! ### The next attempt -/

theorem nextAttempt_of_untried (untried : a.tryCount < 1) :
    nextAttempt a = .error (.invalidTryCount a.tryCount) := by
  unfold nextAttempt
  rw [if_pos untried]

theorem nextAttempt_of_final (tried : 1 ≤ a.tryCount)
    (final : isRetriable a.state a.tryCount ≠ true) :
    nextAttempt a = .error (.notRetriable a.state a.tryCount) := by
  unfold nextAttempt
  rw [if_neg (by omega), if_neg final]

theorem nextAttempt_of_retriable (tried : 1 ≤ a.tryCount)
    (retriable : isRetriable a.state a.tryCount = true) :
    nextAttempt a =
      match a.createdAt.plus? (3 ^ a.tryCount.toNat * 1000000000) with
      | some t => .ok t
      | none => .error (.notRetriable a.state a.tryCount) := by
  have counted : ¬ a.tryCount < 1 := by omega
  unfold nextAttempt delaySeconds
  cases a.createdAt.plus? (3 ^ a.tryCount.toNat * 1000000000) with
  | none => simp [counted, retriable]
  | some t => simp [counted, retriable]

theorem nextAttempt_ok_iff (plain : ¬ a.createdAt.IsLeap) :
    nextAttempt a = .ok t ↔
      1 ≤ a.tryCount ∧ isRetriable a.state a.tryCount = true ∧ IsDue a t := by
  by_cases untried : a.tryCount < 1
  · rw [nextAttempt_of_untried untried]
    simp [Int.not_le.mpr untried]
  have tried : 1 ≤ a.tryCount := by omega
  by_cases retriable : isRetriable a.state a.tryCount = true
  · rw [nextAttempt_of_retriable tried retriable, isDue_iff plain]
    cases a.createdAt.plus? (3 ^ a.tryCount.toNat * 1000000000) <;> simp [tried, retriable]
  · rw [nextAttempt_of_final tried retriable]
    simp [retriable]

/-! ### Errors of a decision -/

theorem decide_invalidTryCount_iff :
    decide a = .error (.invalidTryCount n) ↔
      a.state ≠ .delivered ∧ a.tryCount < 1 ∧ n = a.tryCount := by
  by_cases delivered : a.state = .delivered
  · simp [decide_of_delivered delivered, delivered]
  by_cases spent : 10 ≤ a.tryCount
  · have tried : ¬ a.tryCount < 1 := by omega
    simp [decide_of_exhausted delivered spent, tried]
  by_cases untried : a.tryCount < 1
  · simp [decide_of_untried delivered untried, delivered, untried, eq_comm]
  rw [decide_of_retriable delivered (by omega) (by omega)]
  cases a.createdAt.plus? (3 ^ a.tryCount.toNat * 1000000000) <;> simp [untried]

theorem decide_notRetriable_iff (plain : ¬ a.createdAt.IsLeap) {state : DeliveryState} :
    decide a = .error (.notRetriable state n) ↔
      a.state ≠ .delivered ∧ 1 ≤ a.tryCount ∧ a.tryCount ≤ 9 ∧ (¬ ∃ t, IsDue a t) ∧
        state = a.state ∧ n = a.tryCount := by
  by_cases delivered : a.state = .delivered
  · simp [decide_of_delivered delivered, delivered]
  by_cases spent : 10 ≤ a.tryCount
  · have many : ¬ a.tryCount ≤ 9 := by omega
    simp [decide_of_exhausted delivered spent, many]
  by_cases untried : a.tryCount < 1
  · have none : ¬ 1 ≤ a.tryCount := by omega
    simp [decide_of_untried delivered untried, none]
  have tried : 1 ≤ a.tryCount := by omega
  have few : a.tryCount ≤ 9 := by omega
  rw [decide_of_retriable delivered tried (by omega), ← plus?_eq_none_iff plain]
  cases a.createdAt.plus? (3 ^ a.tryCount.toNat * 1000000000) with
  | none => simp [delivered, tried, few, eq_comm]
  | some t => simp

/-! ### Delays -/

theorem delay_ok_iff : delay n = .ok s ↔ 1 ≤ n ∧ n ≤ 9 ∧ s = 3 ^ n.toNat := by
  unfold delay maxTries delaySeconds
  by_cases untried : n < 1
  · have none : ¬ 1 ≤ n := by omega
    simp [untried, none]
  by_cases spent : 10 ≤ n
  · have many : ¬ n ≤ 9 := by omega
    simp [untried, spent, many]
  · have tried : 1 ≤ n := by omega
    have few : n ≤ 9 := by omega
    simp [untried, spent, tried, few, eq_comm]

theorem delay_lt (less : m < n) (first : delay m = .ok k) (second : delay n = .ok s) : k < s := by
  obtain ⟨tried, -, rfl⟩ := delay_ok_iff.mp first
  obtain ⟨-, -, rfl⟩ := delay_ok_iff.mp second
  exact Nat.pow_lt_pow_right (by decide) (by omega)

theorem delay_word (given : delay n = .ok s) : ((3 : Int64) ^ n.toNat).toInt = s := by
  obtain ⟨tried, few, rfl⟩ := delay_ok_iff.mp given
  interval_cases n <;> decide

theorem exists_delay (tried : 1 ≤ a.tryCount) (retriable : isRetriable a.state a.tryCount = true) :
    delay a.tryCount = .ok (3 ^ a.tryCount.toNat) := by
  obtain ⟨-, few⟩ := isRetriable_iff.mp retriable
  exact delay_ok_iff.mpr ⟨tried, by omega, rfl⟩

/-- A decision follows from the state, the number of tries and the end of the calendar alone, with
an error of its own for each way in which there is none. The next attempt is the time that is
decided on, a delay after the creation; delays are given for one to nine tries, they grow, and none
is longer than a word can hold. -/
theorem backoff_functions_agree (a : Attempt) (plain : ¬ a.createdAt.IsLeap) :
    (decide a = .ok .delivered ↔ a.state = .delivered) ∧
    (decide a = .ok .exhausted ↔ a.state ≠ .delivered ∧ 10 ≤ a.tryCount) ∧
    (∀ t, decide a = .ok (.retryAt t) ↔
      a.state ≠ .delivered ∧ 1 ≤ a.tryCount ∧ a.tryCount ≤ 9 ∧ IsDue a t) ∧
    (∀ n, decide a = .error (.invalidTryCount n) ↔
      a.state ≠ .delivered ∧ a.tryCount < 1 ∧ n = a.tryCount) ∧
    (∀ state n, decide a = .error (.notRetriable state n) ↔
      a.state ≠ .delivered ∧ 1 ≤ a.tryCount ∧ a.tryCount ≤ 9 ∧ (¬ ∃ t, IsDue a t) ∧
        state = a.state ∧ n = a.tryCount) ∧
    ((∃ t, IsDue a t) ↔
      a.createdAt.nanos + (3 ^ a.tryCount.toNat * 1000000000 : Nat) ≤ Instant.last.nanos) ∧
    (∀ t, nextAttempt a = .ok t ↔
      1 ≤ a.tryCount ∧ isRetriable a.state a.tryCount = true ∧ IsDue a t) ∧
    (∀ t, nextAttempt a = .ok t → decide a = .ok (.retryAt t) ∧
      ∃ s, delay a.tryCount = .ok s ∧ t.nanos = a.createdAt.nanos + (s * 1000000000 : Nat)) ∧
    (∀ n, (∃ s, delay n = .ok s) ↔ 1 ≤ n ∧ n ≤ 9) ∧
    (∀ m n k s, m < n → delay m = .ok k → delay n = .ok s → k < s) ∧
    ∀ n s, delay n = .ok s → ((3 : Int64) ^ n.toNat).toInt = s := by
  have retry : ∀ t, decide a = .ok (.retryAt t) ↔
      a.state ≠ .delivered ∧ 1 ≤ a.tryCount ∧ a.tryCount ≤ 9 ∧ IsDue a t := by
    intro t
    rw [decide_retryAt_iff, isDue_iff plain, show a.tryCount < 10 ↔ a.tryCount ≤ 9 by omega]
  refine ⟨decide_delivered_iff, decide_exhausted_iff, retry, fun n => decide_invalidTryCount_iff,
    fun state n => decide_notRetriable_iff plain, exists_isDue_iff,
    fun t => nextAttempt_ok_iff plain, fun t next => ?_, fun n => ?_,
    fun m n k s less first second => delay_lt less first second, fun n s given => delay_word given⟩
  · obtain ⟨tried, retriable, due⟩ := (nextAttempt_ok_iff plain).mp next
    obtain ⟨failed, few⟩ := isRetriable_iff.mp retriable
    exact ⟨(retry t).mpr ⟨failed, tried, by omega, due⟩, _, exists_delay tried retriable, due.exact⟩
  · constructor
    · rintro ⟨s, given⟩
      obtain ⟨tried, few, -⟩ := delay_ok_iff.mp given
      exact ⟨tried, few⟩
    · rintro ⟨tried, few⟩
      exact ⟨_, delay_ok_iff.mpr ⟨tried, few, rfl⟩⟩

/-- A failed attempt for an event that was created nine seconds before the calendar ends. -/
def lateAttempt (tryCount : Int) : Attempt :=
  ⟨⟨.nil⟩, .timeout, ⟨.nil⟩, tryCount,
    { Instant.last with second := 86390, second_lt := by decide, leap_at := by decide }⟩

/-- The second attempt falls on the last instant of the calendar and the third one beyond it. -/
theorem backoff_functions_agree_late :
    ¬ (lateAttempt 2).createdAt.IsLeap ∧ decide (lateAttempt 2) = .ok (.retryAt Instant.last) ∧
    ¬ (lateAttempt 3).createdAt.IsLeap ∧
      decide (lateAttempt 3) = .error (.notRetriable .timeout 3) := by
  have plain : ∀ n, ¬ (lateAttempt n).createdAt.IsLeap := by
    intro n
    show ¬ 1000000000 ≤ 999999999
    decide
  obtain ⟨-, -, retry, -⟩ := backoff_functions_agree (lateAttempt 2) (plain 2)
  obtain ⟨-, -, -, -, beyond, time, -⟩ := backoff_functions_agree (lateAttempt 3) (plain 3)
  have due : IsDue (lateAttempt 2) Instant.last := ⟨by decide, by decide⟩
  refine ⟨plain 2, (retry _).mpr ⟨by decide, by decide, by decide, due⟩, plain 3,
    (beyond _ _).mpr ⟨by decide, by decide, by decide, ?_, rfl, rfl⟩⟩
  rw [time]
  decide

end Backoff

end Courier

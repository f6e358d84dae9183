import Courier.Retry.Backoff

/-!
# Decisions after an attempt

What follows an attempt is read off its state and its number of tries. `decide_retryAt_iff` says
when and for which time an attempt is repeated, `decide_of_representable` that there is a decision
whenever the time can be told.
-/

namespace Courier

theorem Instant.ofNanos?_isSome_iff {n : Int} :
    (ofNanos? n).isSome ↔ -96465292 * 86400000000000 ≤ n ∧ n < 95026237 * 86400000000000 := by
  rw [ofNanos?, Option.isSome_map, Date.ofDayNumber?]
  split
  · next inside => simp only [Option.isSome_some, true_iff]; omega
  · next outside => simp only [Option.isSome_none, Bool.false_eq_true, false_iff]; omega

theorem Instant.plus?_isSome_of_le {t : Instant} {k n : Nat} (le : k ≤ n)
    (far : (t.plus? n).isSome) : (t.plus? k).isSome := by
  have start := t.date.notBefore
  unfold plus? at far ⊢
  split
  · rfl
  next outside =>
    rw [dif_neg fun inside => outside ⟨inside.1, by omega⟩] at far
    split at far
    · next leap =>
      have full : 2000000000 ≤ t.nano + k := Nat.not_lt.mp fun short => outside ⟨leap, short⟩
      rw [if_pos leap, ofNanos?_isSome_iff]
      rw [ofNanos?_isSome_iff] at far
      unfold nanos at far ⊢
      omega
    · next plain =>
      rw [if_neg plain, ofNanos?_isSome_iff]
      rw [ofNanos?_isSome_iff] at far
      unfold nanos at far ⊢
      omega

namespace Backoff

variable {a : Attempt}

theorem isRetriable_iff {state : DeliveryState} {tryCount : Int} :
    isRetriable state tryCount = true ↔ state ≠ .delivered ∧ tryCount < 10 := by
  simp only [isRetriable, DeliveryState.isDelivered, Bool.and_eq_true, Bool.not_eq_true',
    decide_eq_false_iff_not, decide_eq_true_eq]
  rfl

theorem decide_of_delivered (delivered : a.state = .delivered) : decide a = .ok .delivered := by
  unfold decide
  rw [delivered]
  rfl

theorem decide_of_exhausted (failed : a.state ≠ .delivered) (spent : 10 ≤ a.tryCount) :
    decide a = .ok .exhausted := by
  unfold decide DeliveryState.isDelivered
  rw [if_neg (by simpa using failed), if_pos (show maxTries ≤ a.tryCount from spent)]

theorem decide_of_untried (failed : a.state ≠ .delivered) (untried : a.tryCount < 1) :
    decide a = .error (.invalidTryCount a.tryCount) := by
  have few : ¬ maxTries ≤ a.tryCount := by unfold maxTries; omega
  unfold decide nextAttempt DeliveryState.isDelivered
  rw [if_neg (by simpa using failed), if_neg few, if_pos untried]
  rfl

/-- A failed attempt with tries left is repeated at its time, if the calendar has that time. -/
theorem decide_of_retriable (failed : a.state ≠ .delivered) (tried : 1 ≤ a.tryCount)
    (few : a.tryCount < 10) :
    decide a =
      match a.createdAt.plus? (3 ^ a.tryCount.toNat * 1000000000) with
      | some t => .ok (.retryAt t)
      | none => .error (.notRetriable a.state a.tryCount) := by
  have left : ¬ maxTries ≤ a.tryCount := by unfold maxTries; omega
  have retriable : isRetriable a.state a.tryCount = true := isRetriable_iff.mpr ⟨failed, few⟩
  unfold decide nextAttempt DeliveryState.isDelivered delaySeconds
  rw [if_neg (by simpa using failed), if_neg left, if_neg (by omega), if_pos retriable]
  cases a.createdAt.plus? (3 ^ a.tryCount.toNat * 1000000000) <;> rfl

theorem decide_retryAt_iff {t : Instant} :
    decide a = .ok (.retryAt t) ↔ a.state ≠ .delivered ∧ 1 ≤ a.tryCount ∧ a.tryCount < 10 ∧
      a.createdAt.plus? (3 ^ a.tryCount.toNat * 1000000000) = some t := by
  by_cases failed : a.state = .delivered
  · simp [decide_of_delivered failed, failed]
  by_cases spent : 10 ≤ a.tryCount
  · simp [decide_of_exhausted failed spent, Int.not_lt.mpr spent]
  by_cases untried : a.tryCount < 1
  · simp [decide_of_untried failed untried, Int.not_le.mpr untried]
  have tried : 1 ≤ a.tryCount := by omega
  have few : a.tryCount < 10 := by omega
  rw [decide_of_retriable failed tried few]
  cases a.createdAt.plus? (3 ^ a.tryCount.toNat * 1000000000) <;> simp [failed, tried, few]

theorem decide_exhausted_iff :
    decide a = .ok .exhausted ↔ a.state ≠ .delivered ∧ 10 ≤ a.tryCount := by
  by_cases failed : a.state = .delivered
  · simp [decide_of_delivered failed, failed]
  by_cases spent : 10 ≤ a.tryCount
  · simp [decide_of_exhausted failed spent, failed, spent]
  by_cases untried : a.tryCount < 1
  · simp [decide_of_untried failed untried, spent]
  rw [decide_of_retriable failed (by omega) (by omega)]
  cases a.createdAt.plus? (3 ^ a.tryCount.toNat * 1000000000) <;> simp [spent]

theorem decide_delivered_iff : decide a = .ok .delivered ↔ a.state = .delivered := by
  refine ⟨fun h => ?_, decide_of_delivered⟩
  refine Decidable.byContradiction fun failed => ?_
  by_cases spent : 10 ≤ a.tryCount
  · rw [decide_of_exhausted failed spent] at h
    cases h
  by_cases untried : a.tryCount < 1
  · rw [decide_of_untried failed untried] at h
    cases h
  rw [decide_of_retriable failed (by omega) (by omega)] at h
  split at h <;> cases h

theorem decide_of_representable (tried : 1 ≤ a.tryCount)
    (time : (a.createdAt.plus? (3 ^ 9 * 1000000000)).isSome) : ∃ d, decide a = .ok d := by
  by_cases delivered : a.state = .delivered
  · exact ⟨_, decide_of_delivered delivered⟩
  by_cases few : a.tryCount < 10
  · have le : 3 ^ a.tryCount.toNat * 1000000000 ≤ 3 ^ 9 * 1000000000 :=
      Nat.mul_le_mul_right _ (Nat.pow_le_pow_right (by omega) (by omega))
    obtain ⟨t, next⟩ := Option.isSome_iff_exists.mp (Instant.plus?_isSome_of_le le time)
    exact ⟨_, decide_retryAt_iff.mpr ⟨delivered, tried, few, next⟩⟩
  · exact ⟨_, decide_of_exhausted delivered (by omega)⟩

end Backoff

end Courier

import Courier.Calendar.Clock

/-!
# The date while time goes by

The date of a clock never goes back, and it moves on by no more days than the time that goes by
takes up, also out of a leap second and at the end of the calendar.
-/

namespace Courier

namespace Instant

variable {t u : Instant} {n : Nat}

theorem ofNanos?_eq_none {m : Int} (none : ofNanos? m = none) :
    ¬ (-96465292 ≤ m / 86400000000000 ∧ m / 86400000000000 ≤ 95026236) := by
  intro within
  rw [ofNanos?, Date.ofDayNumber?, dif_pos within] at none
  cases none

theorem day_le_nanos (t : Instant) : t.date.dayNumber ≤ t.nanos / 86400000000000 := by
  unfold nanos
  omega

/-- The date of an instant, once a leap second is read as the second after it. -/
theorem dayNumber_settled (t : Instant) :
    t.settled.date.dayNumber = min Date.last.dayNumber (t.nanos / 86400000000000) := by
  have last : Date.last.dayNumber = 95026236 := rfl
  have least := t.day_le_nanos
  have first := t.date.notBefore
  unfold settled
  cases found : ofNanos? t.nanos with
  | none =>
    have outside := ofNanos?_eq_none found
    show Date.last.dayNumber = _
    omega
  | some u =>
    obtain ⟨d, day, rfl⟩ := Option.map_eq_some_iff.mp found
    have := Date.dayNumber_of_ofDayNumber? day
    have := d.notAfter
    show d.dayNumber = _
    omega

/-- The date does not go back when a leap second ends, although its nanoseconds are taken off. -/
theorem days_of_plus? (moved : t.plus? n = some u) :
    t.nanos / 86400000000000 ≤ u.nanos / 86400000000000 ∧ u.nanos ≤ t.nanos + n := by
  unfold plus? at moved
  split at moved
  · cases moved
    simp only [nanos]
    omega
  · next moving =>
    split at moved
    · next leap =>
      -- Time after the leap second counts from the second that follows it, on the same day.
      have passed : ¬ t.nano + n < 2000000000 := fun within => moving ⟨leap, within⟩
      have low : 1000000000 ≤ t.nano := leap
      have high := t.nano_lt
      rw [nanos_ofNanos? moved]
      simp only [nanos]
      omega
    · rw [nanos_ofNanos? moved]
      omega

theorem days_of_plus?_eq_none (stopped : t.plus? n = none) :
    Date.last.dayNumber < (t.nanos + n) / 86400000000000 := by
  have last : Date.last.dayNumber = 95026236 := rfl
  have least := t.day_le_nanos
  have first := t.date.notBefore
  unfold plus? at stopped
  split at stopped
  · cases stopped
  · next moving =>
    split at stopped
    · next leap =>
      have passed : ¬ t.nano + n < 2000000000 := fun within => moving ⟨leap, within⟩
      have outside := ofNanos?_eq_none stopped
      have date : t.date.dayNumber ≤ (t.nanos - 1000000000 + n) / 86400000000000 := by
        simp only [nanos]
        omega
      omega
    · have outside := ofNanos?_eq_none stopped
      omega

theorem days_plus (t : Instant) (n : Nat) :
    min Date.last.dayNumber (t.nanos / 86400000000000) ≤ (t.plus n).nanos / 86400000000000 ∧
      (t.plus n).nanos / 86400000000000 ≤ (t.nanos + n) / 86400000000000 := by
  unfold plus
  cases moved : t.plus? n with
  | none =>
    have := days_of_plus?_eq_none moved
    have final : last.nanos / 86400000000000 = Date.last.dayNumber := by decide
    show _ ≤ last.nanos / 86400000000000 ∧ last.nanos / 86400000000000 ≤ _
    omega
  | some u =>
    have := days_of_plus? moved
    show _ ≤ u.nanos / 86400000000000 ∧ u.nanos / 86400000000000 ≤ _
    omega

end Instant

namespace Clock

theorem today_le_advance (c : Clock) (d : Duration) : c.today ≤ (c.advance d).today := by
  have days := Instant.days_plus c.wall d.nanos
  show c.wall.settled.date.dayNumber ≤ (c.wall.plus d.nanos).settled.date.dayNumber
  rw [Instant.dayNumber_settled, Instant.dayNumber_settled]
  omega

/-- In less than `k` days the date moves on by at most `k`. -/
theorem today_advance_le (c : Clock) {d : Duration} {k : Nat}
    (short : d.nanos < k * 86400000000000) :
    (c.advance d).today.dayNumber ≤ c.today.dayNumber + k := by
  have days := Instant.days_plus c.wall d.nanos
  show (c.wall.plus d.nanos).settled.date.dayNumber ≤ c.wall.settled.date.dayNumber + k
  rw [Instant.dayNumber_settled, Instant.dayNumber_settled]
  omega

end Clock

end Courier

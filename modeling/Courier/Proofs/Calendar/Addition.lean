import Courier.Calendar.Clock
import Courier.Proofs.Retry.Decision

/-!
# Time adds up

To wait twice is to wait once for the sum, also while a leap second lasts and at the end of the
calendar. Outside leap seconds the wall time is the start and the sum, up to the last instant.
-/

namespace Courier

namespace Instant

variable {t u : Instant} {n : Int} {a b : Nat}

theorem ofNanos?_nanos (plain : ¬ t.IsLeap) : ofNanos? t.nanos = some t := by
  have low : t.nano < 1000000000 := Nat.lt_of_not_le plain
  have short := t.second_lt
  have day : t.nanos / 86400000000000 = t.date.dayNumber := by
    unfold nanos
    omega
  have second : (t.nanos % 86400000000000 / 1000000000).toNat = t.second := by
    unfold nanos
    omega
  have nano : (t.nanos % 1000000000).toNat = t.nano := by
    unfold nanos
    omega
  unfold ofNanos?
  rw [day, Date.ofDayNumber?_dayNumber]
  simp only [Option.map_some, second, nano]

theorem settled_of_plain (plain : ¬ t.IsLeap) : t.settled = t := by
  rw [settled, ofNanos?_nanos plain]
  rfl

theorem nanos_last : last.nanos = 95026237 * 86400000000000 - 1 := by decide

theorem first_le_nanos (t : Instant) : -96465292 * 86400000000000 ≤ t.nanos := by
  have first := t.date.notBefore
  unfold nanos
  omega

theorem ofNanos?_beyond (beyond : last.nanos < n) : ofNanos? n = none := by
  rw [nanos_last] at beyond
  rw [← Option.not_isSome_iff_eq_none, ofNanos?_isSome_iff]
  omega

theorem exists_ofNanos? (least : -96465292 * 86400000000000 ≤ n) (most : n ≤ last.nanos) :
    ∃ t, ofNanos? n = some t := by
  rw [nanos_last] at most
  exact Option.isSome_iff_exists.mp (ofNanos?_isSome_iff.mpr ⟨least, by omega⟩)

/-- An instant is settled when it is not in a leap second, and within the calendar this is the same
point of time. -/
theorem settled_spec (within : t.nanos ≤ last.nanos) :
    ¬ t.settled.IsLeap ∧ t.settled.nanos = t.nanos := by
  obtain ⟨u, found⟩ := exists_ofNanos? t.first_le_nanos within
  have same : t.settled = u := by rw [settled, found]; rfl
  rw [same]
  exact ⟨not_isLeap_ofNanos? found, nanos_ofNanos? found⟩

/-! ### Waiting -/

/-- Where time counts from: within a leap second, from the second before it. -/
def anchor (t : Instant) : Int := if t.IsLeap then t.nanos - 1000000000 else t.nanos

theorem anchor_of_plain (plain : ¬ t.IsLeap) : t.anchor = t.nanos := if_neg plain

theorem first_le_anchor (t : Instant) : -96465292 * 86400000000000 ≤ t.anchor := by
  have first := t.date.notBefore
  unfold anchor
  split
  · next leap =>
    have high : 1000000000 ≤ t.nano := leap
    unfold nanos
    omega
  · exact t.first_le_nanos

theorem eq_of_parts (date : t.date = u.date) (second : t.second = u.second)
    (nano : t.nano = u.nano) : t = u := by
  cases t
  cases u
  cases date
  cases second
  cases nano
  rfl

theorem plus?_within (leap : t.IsLeap) (short : t.nano + a < 2000000000) :
    ∃ u, t.plus? a = some u ∧ u.date = t.date ∧ u.second = t.second ∧ u.nano = t.nano + a :=
  ⟨_, dif_pos ⟨leap, short⟩, rfl, rfl, rfl⟩

theorem plus?_past (passed : ¬ (t.IsLeap ∧ t.nano + a < 2000000000)) :
    t.plus? a = ofNanos? (t.anchor + a) := by
  unfold plus? anchor
  rw [dif_neg passed]
  split <;> rfl

theorem plus_of_plus? (moved : t.plus? a = some u) : t.plus a = u := by
  rw [plus, moved]
  rfl

theorem plus_of_beyond (beyond : last.nanos < t.anchor + a)
    (passed : ¬ (t.IsLeap ∧ t.nano + a < 2000000000)) : t.plus a = last := by
  rw [plus, plus?_past passed, ofNanos?_beyond beyond]
  rfl

theorem plain_last : ¬ last.IsLeap := by decide

theorem plus_last (b : Nat) : last.plus b = last := by
  have passed : ¬ (last.IsLeap ∧ last.nano + b < 2000000000) := fun leap => plain_last leap.1
  rcases Nat.eq_zero_or_pos b with rfl | later
  · refine plus_of_plus? ?_
    rw [plus?_past passed, anchor_of_plain plain_last, Int.natCast_zero, Int.add_zero]
    exact ofNanos?_nanos plain_last
  · refine plus_of_beyond ?_ passed
    rw [anchor_of_plain plain_last]
    omega

theorem plus_zero (t : Instant) : t.plus 0 = t := by
  by_cases leap : t.IsLeap
  · obtain ⟨u, moved, date, second, nano⟩ := plus?_within (a := 0) leap t.nano_lt
    rw [plus_of_plus? moved]
    exact eq_of_parts date second nano
  · refine plus_of_plus? ?_
    rw [plus?_past fun within => leap within.1, anchor_of_plain leap, Int.natCast_zero,
      Int.add_zero]
    exact ofNanos?_nanos leap

theorem plus_plus (t : Instant) (a b : Nat) : (t.plus a).plus b = t.plus (a + b) := by
  by_cases within : t.IsLeap ∧ t.nano + a < 2000000000
  · -- The leap second still lasts, so that the second wait starts in it.
    obtain ⟨leap, short⟩ := within
    obtain ⟨u, moved, date, second, nano⟩ := plus?_within leap short
    have high : 1000000000 ≤ t.nano := leap
    have still_leap : u.IsLeap := by
      show 1000000000 ≤ u.nano
      omega
    rw [plus_of_plus? moved]
    by_cases still : u.nano + b < 2000000000
    · have whole : t.nano + (a + b) < 2000000000 := by omega
      obtain ⟨v, next, next_date, next_second, next_nano⟩ := plus?_within still_leap still
      obtain ⟨w, once, once_date, once_second, once_nano⟩ := plus?_within leap whole
      rw [plus_of_plus? next, plus_of_plus? once]
      refine eq_of_parts ?_ ?_ (by omega)
      · rw [next_date, date, once_date]
      · rw [next_second, second, once_second]
    · have anchors : u.anchor = t.anchor + a := by
        rw [anchor, anchor, if_pos leap, if_pos still_leap]
        simp only [nanos, date, second, nano]
        omega
      have sums : u.anchor + b = t.anchor + ((a + b : Nat) : Int) := by omega
      rw [plus, plus, plus?_past fun both => still both.2,
        plus?_past fun both => still (by omega), sums]
  · have past : ¬ (t.IsLeap ∧ t.nano + (a + b) < 2000000000) := by
      rintro ⟨leap, short⟩
      exact within ⟨leap, by omega⟩
    by_cases beyond : last.nanos < t.anchor + a
    · rw [plus_of_beyond beyond within, plus_last, plus_of_beyond (by omega) past]
    · have least := t.first_le_anchor
      obtain ⟨u, found⟩ := exists_ofNanos? (n := t.anchor + a) (by omega) (by omega)
      have plain := not_isLeap_ofNanos? found
      have sums : u.anchor + b = t.anchor + ((a + b : Nat) : Int) := by
        rw [anchor_of_plain plain, nanos_ofNanos? found]
        omega
      rw [plus_of_plus? ((plus?_past within).trans found), plus, plus,
        plus?_past fun leap => plain leap.1, plus?_past past, sums]

/-- Outside leap seconds the wall time is exact, up to the last instant. -/
theorem plus_spec (plain : ¬ t.IsLeap) (a : Nat) :
    ¬ (t.plus a).IsLeap ∧ (t.plus a).nanos = min (t.nanos + a) last.nanos := by
  have past : ¬ (t.IsLeap ∧ t.nano + a < 2000000000) := fun leap => plain leap.1
  by_cases beyond : last.nanos < t.nanos + a
  · rw [plus_of_beyond (by rwa [anchor_of_plain plain]) past]
    exact ⟨plain_last, by omega⟩
  · have least := t.first_le_nanos
    obtain ⟨u, found⟩ := exists_ofNanos? (n := t.nanos + a) (by omega) (by omega)
    have moved : t.plus? a = some u := by rw [plus?_past past, anchor_of_plain plain, found]
    rw [plus_of_plus? moved, nanos_ofNanos? found]
    exact ⟨not_isLeap_ofNanos? found, by omega⟩

theorem plus_le_last (within : t.nanos ≤ last.nanos) (a : Nat) : (t.plus a).nanos ≤ last.nanos := by
  by_cases leap : t.IsLeap ∧ t.nano + a < 2000000000
  · have high : 1000000000 ≤ t.nano := leap.1
    have minute := t.leap_at high
    have short := t.second_lt
    have final := t.date.notAfter
    obtain ⟨u, moved, date, second, nano⟩ := plus?_within leap.1 leap.2
    rw [plus_of_plus? moved]
    rw [nanos_last] at within ⊢
    simp only [nanos, date, second, nano] at within ⊢
    omega
  · rw [plus, plus?_past leap]
    cases found : ofNanos? (t.anchor + a) with
    | none => exact Int.le_refl _
    | some u =>
      rw [Option.getD_some, nanos_ofNanos? found]
      refine Int.not_lt.mp fun beyond => ?_
      rw [ofNanos?_beyond beyond] at found
      cases found

end Instant

end Courier

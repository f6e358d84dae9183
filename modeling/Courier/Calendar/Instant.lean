import Courier.Calendar.Date
import Courier.Calendar.Duration

/-!
# Instants

A point of universal time: a date, a second of the day and nanoseconds. While a leap second lasts
the clock stays on second 59 and the nanoseconds run on from 10^9 to 2 * 10^9. `nanos_plus?` says
that addition outside leap seconds is exact.
-/

namespace Courier

structure Instant where
  date : Date
  second : Nat
  /-- Nanoseconds since the second began; at least 10^9 during a leap second. -/
  nano : Nat
  second_lt : second < 86400
  nano_lt : nano < 2000000000
  leap_at : 1000000000 ≤ nano → second % 60 = 59
  deriving DecidableEq

namespace Instant

def midnight (d : Date) : Instant := ⟨d, 0, 0, by decide, by decide, by decide⟩

def last : Instant := ⟨Date.last, 86399, 999999999, by decide, by decide, by decide⟩

instance : Inhabited Instant := ⟨midnight Date.epoch⟩

def IsLeap (t : Instant) : Prop := 1000000000 ≤ t.nano

instance (t : Instant) : Decidable t.IsLeap := inferInstanceAs (Decidable (_ ≤ _))

/-- Nanoseconds from the start of 1970; a leap second counts as the second after it. -/
def nanos (t : Instant) : Int := (t.date.dayNumber * 86400 + t.second) * 1000000000 + t.nano

def ofNanos? (n : Int) : Option Instant :=
  (Date.ofDayNumber? (n / 86400000000000)).map fun d =>
    { date := d
      second := (n % 86400000000000 / 1000000000).toNat
      nano := (n % 1000000000).toNat
      second_lt := by omega
      nano_lt := by omega
      leap_at := by omega }

/-- The instant `n` nanoseconds later, if the calendar has it. Within a leap second time runs on
until the leap second ends. -/
def plus? (t : Instant) (n : Nat) : Option Instant :=
  if h : t.IsLeap ∧ t.nano + n < 2000000000 then
    some { t with nano := t.nano + n, nano_lt := h.2, leap_at := fun _ => t.leap_at h.1 }
  else if t.IsLeap then ofNanos? (t.nanos - 1000000000 + n)
  else ofNanos? (t.nanos + n)

def plus (t : Instant) (n : Nat) : Instant := (t.plus? n).getD last

/-- The instant with a leap second read as the second after it. -/
def settled (t : Instant) : Instant := (ofNanos? t.nanos).getD last

/-- Whole microseconds from the start of 2000, with the fraction dropped. -/
def micros (t : Instant) : Int := (t.nanos - 946684800000000000).tdiv 1000

def ofMicros? (n : Int) : Option Instant := ofNanos? (n * 1000 + 946684800000000000)

theorem nanos_ofNanos? {n : Int} {t : Instant} (h : ofNanos? n = some t) : t.nanos = n := by
  simp only [ofNanos?, Option.map_eq_some_iff] at h
  obtain ⟨d, hd, rfl⟩ := h
  have := Date.dayNumber_of_ofDayNumber? hd
  simp only [nanos, this]
  omega

theorem not_isLeap_ofNanos? {n : Int} {t : Instant} (h : ofNanos? n = some t) : ¬ t.IsLeap := by
  simp only [ofNanos?, Option.map_eq_some_iff] at h
  obtain ⟨d, _, rfl⟩ := h
  simp only [IsLeap]
  omega

theorem nanos_plus? {t u : Instant} {n : Nat} (ht : ¬ t.IsLeap) (h : t.plus? n = some u) :
    u.nanos = t.nanos + n := by
  simp only [plus?, ht, false_and, dite_false, if_false] at h
  exact nanos_ofNanos? h

end Instant

end Courier

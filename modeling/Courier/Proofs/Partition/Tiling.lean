import Mathlib.Logic.ExistsUnique
import Courier.Proofs.Calendar.DateText
import Courier.Proofs.Partition.Offsets

/-!
# The ranges of the window tile it

The bounds of a partition, read as dates, hold just its day. `window_tiles_its_days` says that the
window has exactly the days around today and that the ranges of its partitions follow one another
without a gap and without an overlap.
-/

namespace Courier

namespace DailyPartition

variable {p q : DailyPartition} {d : Date}

/-- The day lies in the range of the partition, as the bounds are read. -/
def Covers (p : DailyPartition) (d : Date) : Prop :=
  ∃ low high, Date.parse? '-' p.rangeFrom.toList = some low ∧
    Date.parse? '-' p.rangeTo.toList = some high ∧ low ≤ d ∧ d < high

theorem covers_iff_range : p.Covers d ↔ p.day ≤ d ∧ d < p.day.next?.getD p.day := by
  unfold Covers rangeFrom rangeTo
  constructor
  · rintro ⟨low, high, read_low, read_high, within⟩
    rw [Date.parse?_text] at read_low read_high
    cases read_low
    cases read_high
    exact within
  · intro within
    exact ⟨_, _, Date.parse?_text _, Date.parse?_text _, within⟩

theorem exists_next? (early : d ≠ Date.last) :
    ∃ next, d.next? = some next ∧ next.dayNumber = d.dayNumber + 1 := by
  have most : d.dayNumber ≤ Date.last.dayNumber := d.notAfter
  have least : Date.first.dayNumber ≤ d.dayNumber := d.notBefore
  have apart : d.dayNumber ≠ Date.last.dayNumber := fun same => early (Date.ext same)
  exact Date.ofDayNumber?_within (by omega) (by omega)

/-- A partition covers its day, unless that is the last one of the calendar, and no other. -/
theorem covers_iff : p.Covers d ↔ p.day = d ∧ d ≠ Date.last := by
  rw [covers_iff_range]
  by_cases early : p.day ≠ Date.last
  · obtain ⟨next, found, after⟩ := exists_next? early
    rw [found, Option.getD_some]
    constructor
    · rintro ⟨low, high⟩
      have low : p.day.dayNumber ≤ d.dayNumber := low
      have high : d.dayNumber < next.dayNumber := high
      obtain rfl : p.day = d := Date.ext (by omega)
      exact ⟨rfl, early⟩
    · rintro ⟨rfl, _⟩
      have high : p.day.dayNumber < next.dayNumber := by omega
      exact ⟨Int.le_refl _, high⟩
  · -- The last day has no next one, so its range is empty.
    have last : p.day = Date.last := by simpa using early
    have ends : Date.last.next? = none := by decide
    rw [last, ends, Option.getD_none]
    constructor
    · rintro ⟨low, high⟩
      exact absurd high (Int.not_lt.mpr low)
    · rintro ⟨same, other⟩
      exact absurd same.symm other

theorem rangeTo_eq_rangeFrom (next : q.day.dayNumber = p.day.dayNumber + 1) :
    p.rangeTo = q.rangeFrom := by
  have found : p.day.next? = some q.day := by
    rw [Date.next?, Date.shift?, ← next, Date.ofDayNumber?_dayNumber]
  rw [rangeTo, rangeFrom, found, Option.getD_some]

end DailyPartition

namespace Window

open DailyPartition

variable {base : String} {today d : Date} {past future : Nat}

theorem isChain_partitions (base : String) (today : Date) (past future : Nat) :
    (partitions base today past future).toList.IsChain fun p q => p.rangeTo = q.rangeFrom := by
  have days := Date.isChain_between
    (a := max Date.first.dayNumber (today.dayNumber - max past minDays))
    (b := min (Date.last.dayNumber + 1) (today.dayNumber + max future minDays))
    (by omega) (by omega)
  refine (List.isChain_map (DailyPartition.mk base)).mpr (days.imp fun d e next => ?_)
  exact rangeTo_eq_rangeFrom next

theorem size_dates
    (least : Date.first.dayNumber ≤ today.dayNumber - (max past minDays : Nat))
    (most : today.dayNumber + (max future minDays : Nat) ≤ Date.last.dayNumber + 1) :
    (dates today past future).size = max past minDays + max future minDays := by
  rw [OrderedSet.size, dates, Date.length_between (by omega) (by omega)]
  omega

theorem map_day_partitions (base : String) (today : Date) (past future : Nat) :
    (partitions base today past future).toList.map DailyPartition.day =
      (dates today past future).toList := by
  rw [partitions, List.map_map]
  exact List.map_id _

/-- Just the days of the window, but for the last one of the calendar, are covered, each by one
partition. -/
theorem existsUnique_covers : (∃! p, p ∈ partitions base today past future ∧ p.Covers d) ↔
    d ∈ dates today past future ∧ d ≠ Date.last := by
  constructor
  · rintro ⟨p, ⟨member, covers⟩, _⟩
    obtain ⟨rfl, early⟩ := covers_iff.mp covers
    exact ⟨(mem_partitions.mp member).2, early⟩
  · rintro ⟨member, early⟩
    refine ⟨⟨base, d⟩, ⟨mem_partitions.mpr ⟨rfl, member⟩, covers_iff.mpr ⟨rfl, early⟩⟩, ?_⟩
    rintro ⟨b, e⟩ ⟨other, covers⟩
    obtain ⟨rfl, _⟩ := mem_partitions.mp other
    obtain ⟨rfl, _⟩ := covers_iff.mp covers
    rfl

/-- The window holds just the days of the calendar from `past` days before today up to `future`
days from today, where each count is raised to two; it holds as many as the counts say unless the
calendar cuts some off. For all counts the days are found by words of 64 bits, and the milliseconds
of an offset fit into one. The partitions follow one another in the order of their days, each range
ends where the next one begins, and every day of the window lies in just one of them unless it is
the last one of the calendar. -/
theorem window_tiles_its_days (base : String) (today : Date) (past future : UInt32) :
    (∀ d, d ∈ dates today past.toNat future.toNat ↔
      today.dayNumber - (max past.toNat 2 : Nat) ≤ d.dayNumber ∧
        d.dayNumber < today.dayNumber + (max future.toNat 2 : Nat)) ∧
    (Date.first.dayNumber ≤ today.dayNumber - (max past.toNat 2 : Nat) →
      today.dayNumber + (max future.toNat 2 : Nat) ≤ Date.last.dayNumber + 1 →
      (dates today past.toNat future.toNat).size = max past.toNat 2 + max future.toNat 2) ∧
    dates today past.toNat future.toNat =
      .ofList ((offsets past future).filterMap fun w => today.shift? w.toInt) ∧
    (∀ w ∈ offsets past future, (w.toInt * 86400000).natAbs < 2 ^ 63) ∧
    (∀ d, (∃! p, p ∈ partitions base today past.toNat future.toNat ∧ p.Covers d) ↔
      d ∈ dates today past.toNat future.toNat ∧ d ≠ Date.last) ∧
    (partitions base today past.toNat future.toNat).toList.IsChain
      (fun p q => p.rangeTo = q.rangeFrom) ∧
    (partitions base today past.toNat future.toNat).toList.map DailyPartition.day =
      (dates today past.toNat future.toNat).toList ∧
    ((partitions base today past.toNat future.toNat).toList.map DailyPartition.day).Pairwise
      (· < ·) := by
  have ordered := map_day_partitions base today past.toNat future.toNat
  refine ⟨fun d => mem_dates, size_dates, dates_eq_ofList_offsets today past future,
    fun w => millis_of_mem_offsets, fun d => existsUnique_covers,
    isChain_partitions base today _ _, ordered, ?_⟩
  rw [ordered]
  exact (dates today _ _).increasing

/-- 28 February 2020. -/
def leapEve : Date := ⟨18320, by decide, by decide⟩

/-- A window over the end of February, with a count that is too small, holds the leap day. -/
theorem window_tiles_its_days_leapYear :
    (Date.first.dayNumber ≤ leapEve.dayNumber - (max (0 : UInt32).toNat 2 : Nat) ∧
      leapEve.dayNumber + (max (3 : UInt32).toNat 2 : Nat) ≤ Date.last.dayNumber + 1) ∧
    (dates leapEve 0 3).size = 5 ∧
    ∃ leapDay, Date.ofCivil? 2020 2 29 = some leapDay ∧
      ∃! p, p ∈ partitions "log" leapEve 0 3 ∧ p.Covers leapDay := by
  have least : Date.first.dayNumber ≤ leapEve.dayNumber - (max (0 : UInt32).toNat 2 : Nat) := by
    decide
  have most : leapEve.dayNumber + (max (3 : UInt32).toNat 2 : Nat) ≤ Date.last.dayNumber + 1 := by
    decide
  obtain ⟨mem, size, _, _, covered, _⟩ := window_tiles_its_days "log" leapEve 0 3
  refine ⟨⟨least, most⟩, size least most, ⟨18321, by decide, by decide⟩, by decide +kernel, ?_⟩
  exact (covered _).mpr ⟨(mem _).mpr (by decide), by decide⟩

end Window

end Courier

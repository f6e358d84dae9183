import Mathlib.Data.List.Chain
import Courier.Partition.Window
import Courier.Proofs.Data.OrderedSet

/-!
# The days of the window

Which days the window holds and how many they are, and from which day on events are read.
-/

namespace Courier

variable {a b : Int} {d today : Date} {past future : Nat} {base : String} {p : DailyPartition}

theorem Date.mem_between : d ∈ Date.between a b ↔ a ≤ d.dayNumber ∧ d.dayNumber < b := by
  unfold Date.between
  rw [List.mem_filterMap]
  constructor
  · rintro ⟨i, small, found⟩
    rw [List.mem_range] at small
    rw [Date.dayNumber_of_ofDayNumber? found]
    omega
  · rintro ⟨least, most⟩
    refine ⟨(d.dayNumber - a).toNat, List.mem_range.mpr (by omega), ?_⟩
    rw [show a + ((d.dayNumber - a).toNat : Int) = d.dayNumber by omega]
    exact d.ofDayNumber?_dayNumber

theorem Date.ofDayNumber?_within {n : Int} (least : Date.first.dayNumber ≤ n)
    (most : n ≤ Date.last.dayNumber) : ∃ d, Date.ofDayNumber? n = some d ∧ d.dayNumber = n :=
  ⟨⟨n, least, most⟩, dif_pos ⟨least, most⟩, rfl⟩

theorem Date.map_dayNumber_between (least : Date.first.dayNumber ≤ a)
    (most : b ≤ Date.last.dayNumber + 1) : (Date.between a b).map Date.dayNumber =
      (List.range (b - a).toNat).map fun i : Nat => a + i := by
  have each : ∀ i ∈ List.range (b - a).toNat,
      (Date.ofDayNumber? (a + i)).map Date.dayNumber = some (a + i) := by
    intro i small
    rw [List.mem_range] at small
    obtain ⟨d, found, same⟩ := Date.ofDayNumber?_within (n := a + i) (by omega) (by omega)
    rw [found, Option.map_some, same]
  unfold Date.between
  rw [List.map_filterMap, List.filterMap_congr each]
  exact congrFun List.filterMap_eq_map _

theorem Date.length_between (least : Date.first.dayNumber ≤ a)
    (most : b ≤ Date.last.dayNumber + 1) : (Date.between a b).length = (b - a).toNat := by
  simpa using congrArg List.length (Date.map_dayNumber_between least most)

theorem Date.isChain_between (least : Date.first.dayNumber ≤ a)
    (most : b ≤ Date.last.dayNumber + 1) :
    (Date.between a b).IsChain fun d e => e.dayNumber = d.dayNumber + 1 := by
  rw [← List.isChain_map Date.dayNumber (R := fun m n => n = m + 1),
    Date.map_dayNumber_between least most, List.isChain_iff_getElem]
  intro i small
  rw [List.getElem_map, List.getElem_map, List.getElem_range, List.getElem_range]
  omega

namespace Window

theorem mem_dates : d ∈ dates today past future ↔
    today.dayNumber - max past minDays ≤ d.dayNumber ∧
      d.dayNumber < today.dayNumber + max future minDays := by
  have first : Date.first.dayNumber ≤ d.dayNumber := d.notBefore
  have last : d.dayNumber ≤ Date.last.dayNumber := d.notAfter
  rw [← OrderedSet.mem_toList, dates, Date.mem_between]
  omega

/-- The partitions of a base table from one day up to, not including, another. -/
def stretch (base : String) (a b : Int) : OrderedSet DailyPartition :=
  ⟨(Date.between a b).map (DailyPartition.mk base), List.pairwise_map.2
    ((Date.between_increasing a b).imp fun less => .inr ⟨rfl, less⟩)⟩

theorem mem_stretch :
    p ∈ stretch base a b ↔ p.base = base ∧ a ≤ p.day.dayNumber ∧ p.day.dayNumber < b := by
  rw [← OrderedSet.mem_toList, stretch, List.mem_map]
  constructor
  · rintro ⟨day, member, rfl⟩
    exact ⟨rfl, Date.mem_between.mp member⟩
  · rintro ⟨rfl, within⟩
    exact ⟨p.day, Date.mem_between.mpr within, rfl⟩

theorem mem_partitions :
    p ∈ partitions base today past future ↔ p.base = base ∧ p.day ∈ dates today past future := by
  rw [← OrderedSet.mem_toList (s := dates _ _ _), dates, Date.mem_between]
  exact mem_stretch

theorem size_stretch (base : String) (least : Date.first.dayNumber ≤ a)
    (most : b ≤ Date.last.dayNumber + 1) : (stretch base a b).size = (b - a).toNat := by
  rw [OrderedSet.size, stretch, List.length_map, Date.length_between least most]

theorem dayNumber_retentionCutoff (d : Date) : (retentionCutoff d).dayNumber =
    max Date.first.dayNumber (d.dayNumber - retentionDays) := by
  have first : Date.first.dayNumber = -96465292 := rfl
  have days : (retentionDays : Int) = 2 := rfl
  have last := d.notAfter
  unfold retentionCutoff Date.shift?
  cases found : Date.ofDayNumber? (d.dayNumber + -(retentionDays : Int)) with
  | none =>
    have early : ¬ (-96465292 ≤ d.dayNumber + -(retentionDays : Int) ∧
        d.dayNumber + -(retentionDays : Int) ≤ 95026236) := by
      intro within
      rw [Date.ofDayNumber?, dif_pos within] at found
      cases found
    show Date.first.dayNumber = _
    omega
  | some cutoff =>
    have := Date.dayNumber_of_ofDayNumber? found
    have := cutoff.notBefore
    show cutoff.dayNumber = _
    omega

/-- Every day whose events can be read, and the day after today, lies in the window. -/
theorem mem_dates_of_readable (readable : retentionCutoff today ≤ d)
    (soon : d.dayNumber ≤ today.dayNumber + 1) (past future : Nat) :
    d ∈ dates today past future := by
  have cutoff : (retentionCutoff today).dayNumber ≤ d.dayNumber := readable
  rw [dayNumber_retentionCutoff] at cutoff
  have retained : (retentionDays : Int) = 2 := rfl
  have least : (minDays : Int) = 2 := rfl
  rw [mem_dates]
  omega

end Window

end Courier

import Courier.Partition.Plan
import Courier.Proofs.Partition.Window

/-!
# The window rolls forward

Between two days the window leaves some days behind and takes others in. `window_rolls_forward`
says which these are, also after a pause so long that no day of the window is kept.
-/

namespace Courier

namespace Window

variable {base : String} {today later : Date} {past future : Nat} {a b : Int} {p : DailyPartition}

def roll (base : String) (today later : Date) (past future : Nat) : Plan DailyPartition :=
  .between (partitions base today past future) (partitions base later past future)

theorem mem_roll_add (forward : today ≤ later) : p ∈ (roll base today later past future).add ↔
    p.base = base ∧
      max (today.dayNumber + (max future minDays : Nat))
        (later.dayNumber - (max past minDays : Nat)) ≤ p.day.dayNumber ∧
      p.day.dayNumber < later.dayNumber + (max future minDays : Nat) := by
  have forward : today.dayNumber ≤ later.dayNumber := forward
  rw [roll, Plan.between, OrderedSet.mem_diff, mem_partitions, mem_partitions, mem_dates, mem_dates]
  by_cases own : p.base = base
  · simp only [own, true_and]
    omega
  · simp [own]

theorem mem_roll_remove (forward : today ≤ later) :
    p ∈ (roll base today later past future).remove ↔ p.base = base ∧
      today.dayNumber - (max past minDays : Nat) ≤ p.day.dayNumber ∧
      p.day.dayNumber < min (today.dayNumber + (max future minDays : Nat))
        (later.dayNumber - (max past minDays : Nat)) := by
  have forward : today.dayNumber ≤ later.dayNumber := forward
  rw [roll, Plan.between, OrderedSet.mem_diff, mem_partitions, mem_partitions, mem_dates, mem_dates]
  by_cases own : p.base = base
  · simp only [own, true_and]
    omega
  · simp [own]

theorem size_of_days {s : OrderedSet DailyPartition}
    (days : ∀ p, p ∈ s ↔ p.base = base ∧ a ≤ p.day.dayNumber ∧ p.day.dayNumber < b)
    (least : Date.first.dayNumber ≤ a) (most : b ≤ Date.last.dayNumber + 1) :
    s.size = (b - a).toNat := by
  rw [OrderedSet.eq_of_mem_iff fun p => (days p).trans mem_stretch.symm]
  exact size_stretch base least most

section Sizes

variable (base) (forward : today ≤ later)
  (least : Date.first.dayNumber ≤ today.dayNumber - (max past minDays : Nat))
  (most : later.dayNumber + (max future minDays : Nat) ≤ Date.last.dayNumber + 1)

include forward least most

theorem size_roll_add : (roll base today later past future).add.size =
    min (later.dayNumber - today.dayNumber).toNat (max past minDays + max future minDays) := by
  have forward' : today.dayNumber ≤ later.dayNumber := forward
  rw [size_of_days (fun p => mem_roll_add forward) (by omega) most]
  omega

theorem size_roll_remove : (roll base today later past future).remove.size =
    min (later.dayNumber - today.dayNumber).toNat (max past minDays + max future minDays) := by
  have forward' : today.dayNumber ≤ later.dayNumber := forward
  rw [size_of_days (fun p => mem_roll_remove forward) least (by omega)]
  omega

end Sizes

/-- Let the window be moved from a day to the one that is `k` days later, where no day of either
window is beyond the calendar. The days taken in are those behind the old window and in the new
one, the days left behind those of the old window before the new one; they are as many, and none
only if the window stays where it is. -/
theorem window_rolls_forward (base : String) (past future k : Nat) {today later : Date}
    (ahead : today.shift? k = some later)
    (least : Date.first.dayNumber ≤ today.dayNumber - (max past 2 : Nat))
    (most : later.dayNumber + (max future 2 : Nat) ≤ Date.last.dayNumber + 1) :
    (∀ p, p ∈ (roll base today later past future).add ↔ p.base = base ∧
      max (today.dayNumber + (max future 2 : Nat)) (today.dayNumber + k - (max past 2 : Nat)) ≤
        p.day.dayNumber ∧
      p.day.dayNumber < today.dayNumber + k + (max future 2 : Nat)) ∧
    (∀ p, p ∈ (roll base today later past future).remove ↔ p.base = base ∧
      today.dayNumber - (max past 2 : Nat) ≤ p.day.dayNumber ∧
      p.day.dayNumber <
        min (today.dayNumber + (max future 2 : Nat)) (today.dayNumber + k - (max past 2 : Nat))) ∧
    (roll base today later past future).add.size = min k (max past 2 + max future 2) ∧
    (roll base today later past future).remove.size = min k (max past 2 + max future 2) ∧
    (∀ p ∈ (roll base today later past future).remove,
      p.day.dayNumber < today.dayNumber + k - (max past 2 : Nat)) ∧
    ((roll base today later past future).isEmpty = true ↔ k = 0) := by
  have shifted : later.dayNumber = today.dayNumber + k := Date.dayNumber_of_ofDayNumber? ahead
  have forward : today ≤ later := show today.dayNumber ≤ later.dayNumber by omega
  have distance : (later.dayNumber - today.dayNumber).toNat = k := by omega
  have add_size := size_roll_add base forward least most
  have remove_size := size_roll_remove base forward least most
  rw [distance] at add_size remove_size
  rw [← shifted]
  refine ⟨fun p => mem_roll_add forward, fun p => mem_roll_remove forward, add_size, remove_size,
    fun p removed => ?_, ?_⟩
  · have before := ((mem_roll_remove forward).mp removed).2.2
    exact lt_of_lt_of_le before (min_le_right _ _)
  · have clamp : minDays = 2 := rfl
    rw [Plan.isEmpty, Bool.and_eq_true, OrderedSet.isEmpty_iff_size, OrderedSet.isEmpty_iff_size,
      add_size, remove_size, clamp]
    omega

/-- 10 January 1970. -/
def afterPause : Date := ⟨9, by decide, by decide⟩

/-- After a pause longer than the window all its days are new, and no partition is kept. -/
theorem window_rolls_forward_longPause :
    (Date.epoch.shift? (9 : Nat) = some afterPause ∧
      Date.first.dayNumber ≤ Date.epoch.dayNumber - (max 0 2 : Nat) ∧
      afterPause.dayNumber + (max 3 2 : Nat) ≤ Date.last.dayNumber + 1) ∧
    (roll "log" .epoch afterPause 0 3).add.size = 5 ∧
    (roll "log" .epoch afterPause 0 3).remove.size = 5 ∧
    ⟨"log", .epoch⟩ ∈ (roll "log" .epoch afterPause 0 3).remove ∧
    (roll "log" .epoch afterPause 0 3).isEmpty ≠ true := by
  have ahead : Date.epoch.shift? (9 : Nat) = some afterPause := by decide
  have least : Date.first.dayNumber ≤ Date.epoch.dayNumber - (max 0 2 : Nat) := by decide
  have most : afterPause.dayNumber + (max 3 2 : Nat) ≤ Date.last.dayNumber + 1 := by decide
  obtain ⟨_, removed, add_size, remove_size, _, idle⟩ :=
    window_rolls_forward "log" 0 3 9 ahead least most
  exact ⟨⟨ahead, least, most⟩, add_size, remove_size, (removed _).mpr ⟨rfl, by decide⟩,
    mt idle.mp (by decide)⟩

end Window

end Courier

import Courier.Partition.Daily

/-!
# The window of days

Partitions are kept for a window of days around today, and events are read back to a cutoff. The
window reaches at least two days to either side.
-/

namespace Courier

/-- The days from day number `a` up to, not including, `b`, as far as the calendar has them. -/
def Date.between (a b : Int) : List Date :=
  (List.range (b - a).toNat).filterMap fun (i : Nat) => Date.ofDayNumber? (a + i)

theorem Date.between_increasing (a b : Int) : (Date.between a b).Pairwise (· < ·) := by
  refine List.Pairwise.filterMap _ ?_ List.pairwise_lt_range
  intro i j hij d hd e he
  show d.dayNumber < e.dayNumber
  rw [Date.dayNumber_of_ofDayNumber? hd, Date.dayNumber_of_ofDayNumber? he]
  omega

namespace Window

def minDays : Nat := 2

/-- The days from `past` days before today to `future` days from today, which is not included. -/
def dates (today : Date) (past future : Nat) : OrderedSet Date :=
  let a := max Date.first.dayNumber (today.dayNumber - max past minDays)
  let b := min (Date.last.dayNumber + 1) (today.dayNumber + max future minDays)
  ⟨Date.between a b, Date.between_increasing a b⟩

def partitions (base : String) (today : Date) (past future : Nat) : OrderedSet DailyPartition :=
  let ds := dates today past future
  ⟨ds.toList.map (DailyPartition.mk base), List.pairwise_map.2 (ds.increasing.imp fun h =>
    .inr ⟨rfl, h⟩)⟩

def retentionDays : Nat := 2

/-- The first day whose events are read on the day `asOf`. -/
def retentionCutoff (asOf : Date) : Date := (asOf.shift? (-(retentionDays : Int))).getD Date.first

end Window

end Courier

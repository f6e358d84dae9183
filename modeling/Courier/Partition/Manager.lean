import Courier.Calendar.Clock
import Courier.Database.Catalogue
import Courier.Database.EventLog

/-!
# The partition manager

Keeps the partitions of the event log in a window around today. It runs again and again, with a
random pause before each run, and a run that fails changes nothing.
-/

namespace Courier.Partition.Manager

/-- Bounds of the pause before every run but the first, in minutes. -/
def intervalMinutes : Nat × Nat := (1, 4320)

def runOnce (today : Date) (past future : Nat) :
    Action DeliveryError Session (Plan DailyPartition) :=
  (Catalogue.reconcile EventLog.tableName
    (Window.partitions EventLog.tableName today past future)).mapError .storage

/-- Reconciles after every pause; what fails is passed over. -/
def run (past future : Nat) (clock : Clock) :
    List Duration → Session → Clock × Session
  | [], s => (clock, s)
  | pause :: pauses, s =>
    let clock := clock.sleep pause
    run past future clock pauses ((runOnce clock.today past future).runOn s).2

end Courier.Partition.Manager

import Courier.Database.Pattern
import Courier.Database.Session
import Courier.Database.TableChange

/-!
# Partitions in the database

The partitions of a table are found by their names in the catalogue. Reconciliation creates those
that are missing and drops those that are not wanted, in one transaction, and touches no table that
it did not find or was not asked for.
-/

namespace Courier.Catalogue

/-- The pattern that the names of a table's partitions match. -/
def namePattern (base : String) : String := Pattern.startingWith (base ++ "__")

def partitionsAmong (base : String) (names : List String) : OrderedSet DailyPartition :=
  .ofList (names.filterMap fun name =>
    match DailyPartition.parse name with
    | .ok p => if p.base = base then some p else none
    | .error _ => none)

def listingSql : String :=
  "SELECT table_name::text FROM information_schema.tables " ++
    "WHERE table_schema = current_schema() AND table_name LIKE $1"

def list (base : String) : Query (OrderedSet DailyPartition) := do
  let names ← Query.all listingSql [.text (namePattern base)] (Row.first Row.text?)
  return partitionsAmong base names

def carryOut : List TableChange → Query Unit
  | [] => pure ()
  | c :: rest => do
    let _ ← Query.run c.text []
    carryOut rest

/-- Brings the partitions of a table in line with the desired ones, and tells what was done. -/
def reconcile (base : String) (desired : OrderedSet DailyPartition) :
    Query (Plan DailyPartition) := do
  Query.beginTransaction
  let current ← (list base).orAbandon
  let plan := Plan.between current desired
  if plan.isEmpty then
    Query.rollback
    return plan
  else
    (carryOut (TableChange.ofPlan plan)).orAbandon
    Query.commit
    return plan

end Courier.Catalogue

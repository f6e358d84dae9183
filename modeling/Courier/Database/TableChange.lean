import Courier.Data.OrderedSet
import Courier.Partition.Daily
import Courier.Partition.Plan
import Courier.Text.Enclosed

/-!
# Changes of the tables

The statements that create and drop partitions, with the text in which they are sent, a reader of
that text, and their effect on the names of the tables that there are.
-/

namespace Courier

inductive TableChange where
  /-- Creates a table as the partition of `base` for a range of dates, unless it is there. -/
  | create (name base low high : String)
  /-- Drops those of the tables that are there. -/
  | drop (names : List String)
  deriving DecidableEq

namespace TableChange

def nameMark : Char := '"'

def dateMark : Char := Char.ofNat 39

/-- A name between double quotes, where a quote inside is doubled. -/
def quoteName (name : String) : String := String.ofList (Text.enclose nameMark name.toList)

def text : TableChange → String
  | create name base low high =>
    "CREATE TABLE IF NOT EXISTS " ++ quoteName name ++ " PARTITION OF " ++ quoteName base ++
      " FOR VALUES FROM ('" ++ low ++ "') TO ('" ++ high ++ "')"
  | drop names => "DROP TABLE IF EXISTS " ++ ", ".intercalate (names.map quoteName)

def apply (tables : OrderedSet String) : TableChange → OrderedSet String
  | create name _ _ _ => tables.insert name
  | drop names => tables.diff (.ofList names)

/-- The changes that carry a plan out. Nothing is sent to drop no table. -/
def ofPlan (plan : Plan DailyPartition) : List TableChange :=
  plan.add.toList.map (fun p => create p.name p.base p.rangeFrom p.rangeTo) ++
    (if plan.remove.isEmpty then [] else [drop (plan.remove.toList.map DailyPartition.name)])

/-! ### Reading -/

def skip? (word : String) (s : List Char) : Option (List Char) :=
  if word.toList.isPrefixOf s then some (s.drop word.length) else none

def readName (s : List Char) : Option (String × List Char) :=
  (Text.readEnclosed nameMark s).map fun (name, rest) => (String.ofList name, rest)

def readDate (s : List Char) : Option (String × List Char) :=
  (Text.readEnclosed dateMark s).map fun (date, rest) => (String.ofList date, rest)

/-- Reads names up to the end of the text, with commas between them; `fuel` bounds their number. -/
def readNames : Nat → List Char → Option (List String)
  | 0, _ => none
  | fuel + 1, s => do
    let (name, rest) ← readName s
    if rest.isEmpty then return [name]
    let names ← readNames fuel (← skip? ", " rest)
    return name :: names

def readCreate (s : List Char) : Option TableChange := do
  let (name, s) ← readName s
  let (base, s) ← readName (← skip? " PARTITION OF " s)
  let (low, s) ← readDate (← skip? " FOR VALUES FROM (" s)
  let (high, s) ← readDate (← skip? ") TO (" s)
  if s = [')'] then some (create name base low high) else none

def read? (s : List Char) : Option TableChange :=
  match skip? "CREATE TABLE IF NOT EXISTS " s with
  | some rest => readCreate rest
  | none => (skip? "DROP TABLE IF EXISTS " s).bind fun rest =>
      (readNames (rest.length + 1) rest).map drop

end TableChange

end Courier

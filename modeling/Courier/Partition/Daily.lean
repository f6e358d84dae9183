import Courier.Calendar.DateText
import Courier.Data.OrderedSet
import Courier.Error

/-!
# Daily partitions

The event log is cut into tables of one day each, named after the base table and the day. A name
is read only in the one form in which it is written.
-/

namespace Courier

/-- The part of a base table that holds one day. -/
structure DailyPartition where
  base : String
  day : Date
  deriving DecidableEq

namespace DailyPartition

/-- The base table and the day, with two underscores between them. -/
def name (p : DailyPartition) : String :=
  String.ofList (p.base.toList ++ '_' :: '_' :: p.day.format '_')

instance : ToString DailyPartition := ⟨name⟩

/-- The pieces of a text between double underscores, which are found from the left. -/
def pieces : List Char → List (List Char)
  | [] => [[]]
  | '_' :: '_' :: rest => [] :: pieces rest
  | c :: rest =>
    match pieces rest with
    | p :: ps => (c :: p) :: ps
    | [] => [[c]]

def parse (s : String) : Except StorageError DailyPartition :=
  match pieces s.toList with
  | [base, suffix] =>
    match Date.parseTight? '_' suffix with
    | some day =>
      let p : DailyPartition := ⟨String.ofList base, day⟩
      if base ≠ [] ∧ p.name = s then .ok p else .error (.invalidPartitionName s)
    | none => .error (.invalidPartitionName s)
  | _ => .error (.invalidPartitionName s)

def rangeFrom (p : DailyPartition) : String := p.day.text

/-- The day after the partition, or its own day at the end of the calendar. -/
def rangeTo (p : DailyPartition) : String := (p.day.next?.getD p.day).text

/-- Partitions are ordered by base table, then by day. -/
instance : LT DailyPartition := ⟨fun a b => a.base < b.base ∨ (a.base = b.base ∧ a.day < b.day)⟩

instance : DecidableLT DailyPartition := fun a b =>
  inferInstanceAs (Decidable (a.base < b.base ∨ (a.base = b.base ∧ a.day < b.day)))

instance : StrictOrder DailyPartition where
  irrefl a h := by
    rcases h with h | ⟨_, h⟩
    · exact String.lt_irrefl _ h
    · exact Int.lt_irrefl _ h
  trans {a b c} h g := by
    rcases h with h | ⟨h, h'⟩ <;> rcases g with g | ⟨g, g'⟩
    · exact .inl (String.lt_trans h g)
    · exact .inl (g ▸ h)
    · exact .inl (h ▸ g)
    · exact .inr ⟨h.trans g, Int.lt_trans h' g'⟩
  connex a b := by
    rcases StrictOrder.connex a.base b.base with h | h | h
    · exact .inl (.inl h)
    · rcases Int.lt_trichotomy a.day.dayNumber b.day.dayNumber with g | g | g
      · exact .inl (.inr ⟨h, g⟩)
      · exact .inr (.inl (by cases a; cases b; simp_all; exact Date.ext g))
      · exact .inr (.inr (.inr ⟨h.symm, g⟩))
    · exact .inr (.inr (.inl h))

end DailyPartition

end Courier

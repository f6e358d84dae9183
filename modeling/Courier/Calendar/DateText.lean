import Courier.Calendar.Date
import Courier.Text.Blank
import Courier.Text.Decimal

/-!
# Dates as text

A date is written year, month, day with a separator between them. Reading is lenient: blanks may
stand before each part, and the parts need not be padded. `parse?` also takes blanks before the
separators and at the end, which `parseTight?` does not.
-/

namespace Courier.Date

open Text

/-- The year in at least four digits, with a sign unless it lies between 0 and 9999. -/
def yearText (y : Int) : List Char :=
  if 0 ≤ y ∧ y ≤ 9999 then Decimal.padded 4 y.toNat
  else (if y < 0 then '-' else '+') :: Decimal.padded 4 y.natAbs

def format (sep : Char) (d : Date) : List Char :=
  yearText d.year ++ sep :: (Decimal.padded 2 d.month ++ sep :: Decimal.padded 2 d.day)

def text (d : Date) : String := String.ofList (d.format '-')

instance : ToString Date := ⟨text⟩

/-- Reads a year: up to four digits, or any number of digits after a sign. -/
def readYear (s : List Char) : Option (Int × List Char) :=
  match skipBlanks s with
  | '-' :: r => (Decimal.read none r).map fun (n, r) => (-(n : Int), r)
  | '+' :: r => (Decimal.read none r).map fun (n, r) => ((n : Int), r)
  | r => (Decimal.read (some 4) r).map fun (n, r) => ((n : Int), r)

def readPart (s : List Char) : Option (Nat × List Char) := Decimal.read (some 2) (skipBlanks s)

def readTight (mark : Char) : List Char → Option (List Char)
  | c :: r => if c = mark then some r else none
  | [] => none

def readMark (mark : Char) (s : List Char) : Option (List Char) := readTight mark (skipBlanks s)

/-- Reads a date whose separators are read by `mark`. -/
def readWith (mark : List Char → Option (List Char)) (s : List Char) :
    Option (Date × List Char) := do
  let (year, s) ← readYear s
  let s ← mark s
  let (month, s) ← readPart s
  let s ← mark s
  let (day, s) ← readPart s
  let date ← ofCivil? year month day
  return (date, s)

def read (sep : Char) : List Char → Option (Date × List Char) := readWith (readMark sep)

def parse? (sep : Char) (s : List Char) : Option Date :=
  match read sep s with
  | some (d, rest) => if (skipBlanks rest).isEmpty then some d else none
  | none => none

def parseTight? (sep : Char) (s : List Char) : Option Date :=
  match readWith (readTight sep) s with
  | some (d, []) => some d
  | _ => none

end Courier.Date

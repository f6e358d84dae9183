import Courier.Calendar.DateText
import Courier.Calendar.Instant

/-!
# Instants as text

Instants are written in the form of RFC 3339, in universal time, with the fewest of 0, 3, 6 or 9
digits of fraction that are exact. Texts with any offset from universal time are read.
-/

namespace Courier.Instant

open Text

/-- The fraction of a second, in the fewest of 0, 3, 6 or 9 digits. -/
def fractionText (n : Nat) : List Char :=
  if n = 0 then []
  else if n % 1000000 = 0 then '.' :: Decimal.padded 3 (n / 1000000)
  else if n % 1000 = 0 then '.' :: Decimal.padded 6 (n / 1000)
  else '.' :: Decimal.padded 9 n

/-- The instant in universal time; a leap second shows as second 60. -/
def text (t : Instant) : String :=
  let leap := if t.IsLeap then 1 else 0
  String.ofList (t.date.format '-' ++ 'T' :: (Decimal.padded 2 (t.second / 3600) ++
    ':' :: (Decimal.padded 2 (t.second / 60 % 60) ++
    ':' :: (Decimal.padded 2 (t.second % 60 + leap) ++
    fractionText (t.nano % 1000000000) ++ ['Z']))))

instance : ToString Instant := ⟨text⟩

/-- Reads the fraction after a point, in nanoseconds; digits past the ninth are dropped. Without a
point the fraction is zero. -/
def readFraction (s : List Char) : Option (Nat × List Char) :=
  match s with
  | '.' :: r => (Decimal.read (some 9) r).map fun (n, rest) =>
      (n * 10 ^ (9 - (r.length - rest.length)), rest.dropWhile Decimal.isDigit)
  | r => some (0, r)

def readOffsetSize (s : List Char) : Option (Nat × List Char) :=
  match s with
  | a :: b :: s =>
    if Decimal.isDigit a && Decimal.isDigit b then
      match s.dropWhile (fun c => c == ':' || isBlank c) with
      | m :: n :: rest =>
        if Decimal.isDigit m && m ≤ '5' && Decimal.isDigit n then
          some (Decimal.value [a, b] * 3600 + Decimal.value [m, n] * 60, rest)
        else none
      | _ => none
    else none
  | _ => none

/-- Reads an offset from universal time, in seconds, which is less than a day. -/
def readOffset (s : List Char) : Option (Int × List Char) := do
  let (offset, rest) ←
    match s with
    | 'Z' :: r | 'z' :: r => some ((0 : Int), r)
    | '+' :: r => (readOffsetSize r).map fun (n, rest) => ((n : Int), rest)
    | '-' :: r | '−' :: r => (readOffsetSize r).map fun (n, rest) => (-(n : Int), rest)
    | u :: t :: c :: r =>
      if u.toLower = 'u' && t.toLower = 't' && c.toLower = 'c' then some (0, r) else none
    | _ => none
  if offset.natAbs < 86400 then return (offset, rest) else none

/-- The instant of a local date, second of the day and nanosecond, at an offset of whole minutes
from universal time. -/
def ofLocal? (d : Date) (second nano : Nat) (offset : Int) : Option Instant :=
  let n : Int := second - offset
  (Date.ofDayNumber? (d.dayNumber + n / 86400)).bind fun date =>
    if h : nano < 2000000000 ∧ (1000000000 ≤ nano → (n % 86400).toNat % 60 = 59) then
      some { date, second := (n % 86400).toNat, nano, second_lt := by omega, nano_lt := h.1,
             leap_at := h.2 }
    else none

def read (s : List Char) : Option (Instant × List Char) := do
  let (date, s) ← Date.read '-' s
  let s ← match s with
    | 'T' :: r | 't' :: r | ' ' :: r => some r
    | _ => none
  let (hour, s) ← Date.readPart s
  let s ← Date.readMark ':' s
  let (minute, s) ← Date.readPart s
  let s ← Date.readMark ':' s
  let (second, s) ← Date.readPart s
  let (fraction, s) ← readFraction s
  let (offset, s) ← readOffset (skipBlanks s)
  if hour < 24 ∧ minute < 60 ∧ second ≤ 60 then
    let leap := if second = 60 then 1 else 0
    let instant ← ofLocal? date (hour * 3600 + minute * 60 + (second - leap))
      (fraction + leap * 1000000000) offset
    return (instant, s)
  else none

def parse? (s : List Char) : Option Instant :=
  match read s with
  | some (t, rest) => if (skipBlanks rest).isEmpty then some t else none
  | none => none

end Courier.Instant

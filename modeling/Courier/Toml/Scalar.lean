import Courier.Calendar.Date
import Courier.Number.Binary64
import Courier.Text.Decimal
import Courier.Toml.Quoted

/-!
# Numbers and times in TOML

Integers of 64 bits in four bases, floating point numbers, and dates and times. Underscores may
stand between digits.
-/

namespace Courier.Toml

open Text

/-! ### Digits -/

/-- Digits with single underscores between them. -/
def isGrouped (isDigit : Char → Bool) (s : List Char) : Bool :=
  match s with
  | [] => false
  | c :: rest => isDigit c && follows rest
where
  follows : List Char → Bool
    | [] => true
    | '_' :: c :: rest => isDigit c && follows rest
    | c :: rest => isDigit c && follows rest

def ungrouped (s : List Char) : List Char := s.filter (· ≠ '_')

def sign (s : List Char) : Bool × List Char :=
  match s with
  | '-' :: rest => (true, rest)
  | '+' :: rest => (false, rest)
  | rest => (false, rest)

def isWhole (s : List Char) : Bool :=
  isGrouped Decimal.isDigit s && (s.length = 1 || s.head? ≠ some '0')

/-- The number, if it is one of 64 bits with a sign. -/
def word? (i : Int) : Option Int := if -2 ^ 63 ≤ i ∧ i < 2 ^ 63 then some i else none

def inBase (base : Nat) (s : List Char) : Option Int :=
  let isDigit (c : Char) : Bool := (Hex.digitValue? c).any (· < base)
  if isGrouped isDigit s then
    word? ((ungrouped s).foldl (fun n c => n * base + (Hex.digitValue? c).getD 0) 0 : Nat)
  else none

def integer? (s : List Char) : Option Int :=
  match s with
  | '0' :: 'x' :: ds => inBase 16 ds
  | '0' :: 'o' :: ds => inBase 8 ds
  | '0' :: 'b' :: ds => inBase 2 ds
  | _ =>
    let (isNegative, ds) := sign s
    if isWhole ds then
      let n : Int := Decimal.value (ungrouped ds)
      word? (if isNegative then -n else n)
    else none

/-! ### Floating point numbers -/

def realOf (isNegative : Bool) (whole fraction : List Char) (exponent : Int) : Binary64 :=
  let n := Decimal.value (whole ++ fraction)
  let x := exponent - fraction.length
  let size := (Decimal.digits n).length + x
  if n = 0 then Binary64.ofRatio isNegative 0 1
  else if 400 < size then Binary64.infinity isNegative
  else if size < -400 then Binary64.ofRatio isNegative 0 1
  else Binary64.ofDecimal isNegative n x

/-- The exponent after its mark; zero if there is none. -/
def exponent? (s : List Char) : Option Int :=
  match s with
  | [] => some 0
  | c :: rest =>
    if c = 'e' ∨ c = 'E' then
      let (isNegative, ds) := sign rest
      if isGrouped Decimal.isDigit ds then
        let n : Int := Decimal.value (ungrouped ds)
        some (if isNegative then -n else n)
      else none
    else none

/-- The digits after the point, and what follows them; no digits if there is no point. -/
def fraction? (s : List Char) : Option (List Char × List Char) :=
  match s with
  | '.' :: rest =>
    let ds := rest.takeWhile fun c => Decimal.isDigit c || c = '_'
    if isGrouped Decimal.isDigit ds then some (ungrouped ds, rest.drop ds.length) else none
  | rest => some ([], rest)

/-- A number with a fraction or an exponent. One that is too large is none. -/
def float? (s : List Char) : Option Binary64 := do
  let (isNegative, s) := sign s
  if s = ['i', 'n', 'f'] then return Binary64.infinity isNegative
  if s = ['n', 'a', 'n'] then return Binary64.nan
  let whole := s.takeWhile fun c => Decimal.isDigit c || c = '_'
  let more := s.drop whole.length
  let (fraction, rest) ← fraction? more
  let e ← exponent? rest
  let x := realOf isNegative (ungrouped whole) fraction e
  if isWhole whole && !more.isEmpty && !(x.isInfinite && !isNegative) then return x else none

/-! ### Dates and times -/

/-- Exactly `n` digits at the front, with a value within bounds. -/
def digitsWithin (n low high : Nat) (s : List Char) : Option (Nat × List Char) :=
  let ds := s.take n
  let v := Decimal.value ds
  if ds.length = n ∧ ds.all Decimal.isDigit ∧ low ≤ v ∧ v ≤ high then some (v, s.drop n) else none

def expect (c : Char) (s : List Char) : Option (List Char) :=
  if s.head? = some c then some (s.drop 1) else none

def date? (s : List Char) : Option (List Char) := do
  let (year, s) ← digitsWithin 4 0 9999 s
  let (month, s) ← digitsWithin 2 1 12 (← expect '-' s)
  let (day, s) ← digitsWithin 2 1 31 (← expect '-' s)
  let days := (Calendar.monthLengths (Calendar.isLeapYear year)).getD (month - 1) 0
  if day ≤ days then some s else none

def time? (s : List Char) : Option (List Char) := do
  let (_, s) ← digitsWithin 2 0 23 s
  let (_, s) ← digitsWithin 2 0 59 (← expect ':' s)
  let (_, s) ← digitsWithin 2 0 60 (← expect ':' s)
  match s with
  | '.' :: rest =>
    let ds := rest.takeWhile Decimal.isDigit
    if ds.isEmpty then none else some (rest.drop ds.length)
  | rest => some rest

def isOffset (s : List Char) : Bool :=
  match s with
  | [] => true
  | ['z'] | ['Z'] => true
  | c :: rest =>
    (c = '+' || c = '-') &&
      (do
        let (_, s) ← digitsWithin 2 0 23 rest
        let (_, s) ← digitsWithin 2 0 59 (← expect ':' s)
        some s) = some []

/-- The text is a date, a time, or both. -/
def isDateTime (s : List Char) : Bool :=
  match date? s with
  | some [] => true
  | some (c :: rest) =>
    (c = 'T' || c = 't' || c = ' ') && ((time? rest).map isOffset).getD false
  | none => time? s = some []

end Courier.Toml

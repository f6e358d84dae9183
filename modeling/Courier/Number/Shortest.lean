import Courier.Number.Binary64
import Courier.Text.Decimal

/-!
# Shortest decimals

The decimal with the fewest digits that reads back as a given floating point number, and among
those the nearest. A layout says how such a decimal is written.
-/

namespace Courier.Binary64

/-- The ratio `num / den` rounds to the number with mantissa `m` and exponent `e`: it lies between
the halfway points to the neighbours, which count if `m` is even. -/
def roundsTo (m : Nat) (e : Int) (num den : Nat) : Bool :=
  -- in quarters of a unit of the last place
  let low := if m = 2 ^ 52 ∧ -1074 < e then 4 * m - 1 else 4 * m - 2
  let high := 4 * m + 2
  let (n, d) := if 0 ≤ e then (4 * num, den * 2 ^ e.toNat) else (4 * num * 2 ^ (-e).toNat, den)
  if m % 2 = 0 then low * d ≤ n && n ≤ high * d else low * d < n && n < high * d

/-- The better of the two decimals with unit `10^x` around the ratio, if one rounds to it. -/
def candidate (m : Nat) (e : Int) (num den : Nat) (x : Int) : Option Nat :=
  let up := 10 ^ x.toNat
  let down := 10 ^ (-x).toNat
  let floor := num * down / (den * up)
  let fits (n : Nat) : Bool := roundsTo m e (n * up) down
  let rest := num * down % (den * up)
  let lower := 2 * rest < den * up || (2 * rest == den * up && floor % 2 == 0)
  match fits floor, fits (floor + 1) with
  | true, true => some (if lower then floor else floor + 1)
  | true, false => some floor
  | false, true => some (floor + 1)
  | false, false => none

/-- The number of decimal digits before the point of the ratio, or minus the number of zeros after
it. -/
def magnitudeOf (num den : Nat) : Int :=
  if den ≤ num then (Text.Decimal.digits (num / den)).length
  else 1 - ((Text.Decimal.digits ((den - 1) / num)).length : Int)

/-- Tries more and more digits, up to `n` more than those tried. -/
def search (m : Nat) (e : Int) (num den : Nat) (x : Int) : Nat → Nat × Int
  | 0 => (num * 10 ^ (-x).toNat / (den * 10 ^ x.toNat), x)
  | n + 1 =>
    match candidate m e num den x with
    | some d => (d, x)
    | none => search m e num den (x - 1) n

def stripZeros (n : Nat) (x : Int) : Nat × Int :=
  if h : n ≠ 0 ∧ n % 10 = 0 then stripZeros (n / 10) (x + 1) else (n, x)
termination_by n
decreasing_by omega

/-- The shortest decimal of a finite number: digits and a power of ten. -/
def shortest (b : Binary64) : Nat × Int :=
  if b.mantissa = 0 then (0, 0)
  else
    let (num, den) := b.ratio
    let (n, x) := search b.mantissa b.exponent num den (magnitudeOf num den) 20
    stripZeros n x

structure Layout where
  /-- The least and greatest positions of the point that are written without an exponent. -/
  positional : Option (Int × Int)
  /-- Whole numbers keep a point and a zero. -/
  keepsPoint : Bool

def Layout.decimal (l : Layout) (n : Nat) (x : Int) : List Char :=
  let ds := Text.Decimal.digits n
  let point : Int := ds.length + x
  let plain := match l.positional with
    | some (least, greatest) => least ≤ point && point ≤ greatest
    | none => true
  if plain then
    if 0 ≤ x then
      ds ++ List.replicate x.toNat '0' ++ (if l.keepsPoint then ['.', '0'] else [])
    else if 0 < point then ds.take point.toNat ++ '.' :: ds.drop point.toNat
    else '0' :: '.' :: (List.replicate (-point).toNat '0' ++ ds)
  else
    ds.take 1 ++ (if ds.length = 1 then [] else '.' :: ds.drop 1) ++
      'e' :: (Text.Decimal.ofInt (point - 1)).toList

def Layout.text (l : Layout) (b : Binary64) : String :=
  if b.isNaN then "NaN"
  else
    let sign := if b.isNegative then ['-'] else []
    if b.isInfinite then String.ofList (sign ++ ['i', 'n', 'f'])
    else
      let (n, x) := b.shortest
      String.ofList (sign ++ l.decimal n x)

end Courier.Binary64

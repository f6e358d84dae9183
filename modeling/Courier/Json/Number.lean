import Courier.Number.Shortest

/-!
# Numbers in JSON

A number is a natural number or a negative integer of 64 bits, or a floating point number. Integer
literals that do not fit, and literals with a fraction or an exponent, are floating point numbers.
-/

namespace Courier.Json

inductive Number where
  /-- A natural number below 2^64. -/
  | nat (n : UInt64)
  /-- A negative integer, -2^63 at least. -/
  | negative (i : Int64)
  | real (x : Binary64)
  deriving DecidableEq

namespace Number

def toInt? : Number → Option Int
  | nat n => some n.toNat
  | negative i => some i.toInt
  | real _ => none

/-- Floating point numbers keep a point; the exponent form starts at 10^16 and below 10^-5. -/
def layout : Binary64.Layout := ⟨some (-4, 16), true⟩

def text : Number → List Char
  | nat n => Text.Decimal.digits n.toNat
  | negative i => '-' :: Text.Decimal.digits i.toInt.natAbs
  | real x => (layout.text x).toList

/-- Adds the digits to `significand` while the result stays below 2^64, and counts the digits that
are left out. -/
def accumulate (significand : Nat) : List Char → Nat × Nat
  | [] => (significand, 0)
  | c :: rest =>
    let next := significand * 10 + Text.Decimal.digitValue c
    if next < 2 ^ 64 then accumulate next rest else (significand, rest.length + 1)

/-- `x` scaled by the power `e` of ten, in steps of at most 308 powers, each of them rounded; none
if the result is too large. -/
def scale (x : Binary64) (e : Int) : Option Binary64 :=
  if 0 ≤ e then
    if 308 < e then if x.mantissa = 0 then some x else none
    else
      let y := x.mul (Binary64.ofDecimal false 1 e)
      if y.isInfinite then none else some y
  else if -308 ≤ e then some (x.div (Binary64.ofDecimal false 1 (-e)))
  else if x.mantissa = 0 then some x
  else scale (x.div (Binary64.ofDecimal false 1 308)) (e + 308)
termination_by e.natAbs
decreasing_by omega

/-- The floating point number of a literal with the given parts; none if it is too large. -/
def ofParts (isNegative : Bool) (whole fraction : List Char) (exponent : Int) : Option Number :=
  let (s, left) := accumulate 0 whole
  let (s, dropped) := accumulate s fraction
  let shift : Int := left + dropped - fraction.length
  let magnitude :=
    if 2 ^ 31 ≤ exponent then if s = 0 then some (Binary64.ofNat 0) else none
    else if exponent ≤ -2 ^ 31 then some (Binary64.ofNat 0)
    else scale (Binary64.ofNat s) (shift + exponent)
  magnitude.map fun x => real (if isNegative then x.neg else x)

def ofInteger (isNegative : Bool) (whole : List Char) : Option Number :=
  let n := Text.Decimal.value whole
  if isNegative then
    if 0 < n ∧ n ≤ 2 ^ 63 then some (negative (Int64.ofInt (-(n : Int))))
    else ofParts true whole [] 0
  else if n < 2 ^ 64 then some (nat (UInt64.ofNat n))
  else ofParts false whole [] 0

end Number

end Courier.Json

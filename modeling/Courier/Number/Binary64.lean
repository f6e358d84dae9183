import Courier.Number.Power

/-!
# Binary floating point numbers

Numbers of 64 bits with a sign, 11 bits of exponent and 52 of fraction, with correctly rounded
conversion from ratios. Finite numbers are a mantissa times a power of two.
-/

namespace Courier

structure Binary64 where
  bits : UInt64
  deriving DecidableEq, Inhabited

namespace Binary64

def isNegative (b : Binary64) : Bool := 2 ^ 63 ≤ b.bits.toNat

def magnitude (b : Binary64) : Nat := b.bits.toNat % 2 ^ 63

def isNaN (b : Binary64) : Bool := 2047 * 2 ^ 52 < b.magnitude

def isInfinite (b : Binary64) : Bool := b.magnitude = 2047 * 2 ^ 52

/-- The mantissa of a finite number, below 2^53. -/
def mantissa (b : Binary64) : Nat :=
  if b.magnitude < 2 ^ 52 then b.magnitude else b.magnitude % 2 ^ 52 + 2 ^ 52

def exponent (b : Binary64) : Int :=
  if b.magnitude < 2 ^ 52 then -1074 else (b.magnitude / 2 ^ 52 : Nat) - 1075

/-- Numerator and denominator of the magnitude of a finite number. -/
def ratio (b : Binary64) : Nat × Nat :=
  if 0 ≤ b.exponent then (b.mantissa * 2 ^ b.exponent.toNat, 1)
  else (b.mantissa, 2 ^ (-b.exponent).toNat)

/-- The quotient rounded to the nearest natural number, halves to the even one. -/
def roundDiv (num den : Nat) : Nat :=
  let q := num / den
  let r := num % den
  if 2 * r < den then q else if den < 2 * r then q + 1 else q + q % 2

def ofMagnitude (negative : Bool) (m : Nat) : Binary64 :=
  ⟨UInt64.ofNat (if negative then 2 ^ 63 + m else m)⟩

def infinity (negative : Bool) : Binary64 := ofMagnitude negative (2047 * 2 ^ 52)

def nan : Binary64 := ofMagnitude false (2047 * 2 ^ 52 + 2 ^ 51)

/-- The number nearest to `num / den`, halfway cases to the even mantissa. -/
def ofRatio (negative : Bool) (num den : Nat) : Binary64 :=
  if num = 0 then ofMagnitude negative 0
  else
    let guess : Int := (num.log2 : Int) - den.log2 - 52
    let scaled (e : Int) : Nat × Nat :=
      if 0 ≤ e then (num, den * 2 ^ e.toNat) else (num * 2 ^ (-e).toNat, den)
    let (n, d) := scaled guess
    let e := max (if n < 2 ^ 52 * d then guess - 1 else guess) (-1074)
    let (n, d) := scaled e
    let m := roundDiv n d
    let magnitude := if m < 2 ^ 52 then m else (e + 1074).toNat * 2 ^ 52 + m
    if 2047 * 2 ^ 52 ≤ magnitude then infinity negative else ofMagnitude negative magnitude

def ofNat (n : Nat) : Binary64 := ofRatio false n 1

def neg (b : Binary64) : Binary64 := ofMagnitude (!b.isNegative) b.magnitude

def mul (a b : Binary64) : Binary64 :=
  ofRatio (a.isNegative != b.isNegative) (a.ratio.1 * b.ratio.1) (a.ratio.2 * b.ratio.2)

def div (a b : Binary64) : Binary64 :=
  ofRatio (a.isNegative != b.isNegative) (a.ratio.1 * b.ratio.2) (a.ratio.2 * b.ratio.1)

def ofDecimal (negative : Bool) (n : Nat) (e : Int) : Binary64 :=
  if 0 ≤ e then ofRatio negative (n * 10 ^ e.toNat) 1 else ofRatio negative n (10 ^ (-e).toNat)

end Binary64

end Courier

import Courier.Text.Decimal

/-!
# Durations

A length of time of up to 2^64 - 1 whole seconds and a fraction in nanoseconds. Sums stop at the
longest duration and differences at zero.
-/

namespace Courier

structure Duration where
  nanos : Nat
  fits : nanos < 2 ^ 64 * 1000000000
  deriving DecidableEq

namespace Duration

def longest : Duration := ⟨2 ^ 64 * 1000000000 - 1, by decide⟩

/-- The duration of `n` nanoseconds, or the longest one if that is shorter. -/
def ofNanos (n : Nat) : Duration :=
  if h : n < 2 ^ 64 * 1000000000 then ⟨n, h⟩ else longest

def ofNanos? (n : Nat) : Option Duration :=
  if h : n < 2 ^ 64 * 1000000000 then some ⟨n, h⟩ else none

def ofMillis (n : Nat) : Duration := ofNanos (n * 1000000)

def ofSeconds (n : Nat) : Duration := ofNanos (n * 1000000000)

/-- Seconds and nanoseconds, where a second or more of nanoseconds carries over. -/
def ofParts? (seconds nanos : Nat) : Option Duration := ofNanos? (seconds * 1000000000 + nanos)

def zero : Duration := ofNanos 0

def seconds (d : Duration) : Nat := d.nanos / 1000000000

def subsecond (d : Duration) : Nat := d.nanos % 1000000000

def millis (d : Duration) : Nat := d.nanos / 1000000

instance : Inhabited Duration := ⟨zero⟩

instance : Add Duration := ⟨fun a b => ofNanos (a.nanos + b.nanos)⟩

instance : Sub Duration := ⟨fun a b => ofNanos (a.nanos - b.nanos)⟩

instance : Max Duration := ⟨fun a b => if a.nanos ≤ b.nanos then b else a⟩

@[ext] theorem ext {a b : Duration} (h : a.nanos = b.nanos) : a = b := by
  cases a; cases b; cases h; rfl

theorem nanos_ofNanos {n : Nat} (h : n < 2 ^ 64 * 1000000000) : (ofNanos n).nanos = n := by
  rw [ofNanos, dif_pos h]

theorem nanos_add {a b : Duration} (h : a.nanos + b.nanos < 2 ^ 64 * 1000000000) :
    (a + b).nanos = a.nanos + b.nanos := nanos_ofNanos h

theorem nanos_sub (a b : Duration) : (a - b).nanos = a.nanos - b.nanos :=
  nanos_ofNanos (Nat.lt_of_le_of_lt (Nat.sub_le _ _) a.fits)

theorem nanos_max (a b : Duration) : (max a b).nanos = max a.nanos b.nanos := by
  show (if a.nanos ≤ b.nanos then b else a).nanos = _
  split <;> omega

/-! ### Text -/

/-- A number of units with the fraction of one unit, `scale` parts to the unit, without trailing
zeros: `1.5`, or `2` when there is no fraction. -/
def decimalText (whole part width : Nat) : List Char :=
  let fraction := ((Text.Decimal.padded width part).reverse.dropWhile (· == '0')).reverse
  if fraction.isEmpty then Text.Decimal.digits whole
  else Text.Decimal.digits whole ++ '.' :: fraction

/-- The duration in the largest unit of s, ms, µs and ns that it fills. -/
def text (d : Duration) : String :=
  let n := d.nanos
  if 1000000000 ≤ n then
    String.ofList (decimalText (n / 1000000000) (n % 1000000000) 9) ++ "s"
  else if 1000000 ≤ n then String.ofList (decimalText (n / 1000000) (n % 1000000) 6) ++ "ms"
  else if 1000 ≤ n then String.ofList (decimalText (n / 1000) (n % 1000) 3) ++ "µs"
  else String.ofList (Text.Decimal.digits n) ++ "ns"

end Duration

end Courier

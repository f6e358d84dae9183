/-!
# Punycode

The form in ASCII of a label with other characters: its ASCII characters, a hyphen, and the places
and code points of the others as numbers of variable length.
-/

namespace Courier.Idna.Punycode

/-- The digit of a number below 36: letters, then decimal digits. -/
def digitChar (d : Nat) : Char := if d < 26 then Char.ofNat (97 + d) else Char.ofNat (22 + d)

def digitValue? (c : Char) : Option Nat :=
  if 'a' ≤ c ∧ c ≤ 'z' then some (c.toNat - 97)
  else if 'A' ≤ c ∧ c ≤ 'Z' then some (c.toNat - 65)
  else if '0' ≤ c ∧ c ≤ '9' then some (c.toNat - 22)
  else none

/-- The threshold below which the digit at position `k` is the last of its number. -/
def threshold (k bias : Nat) : Nat :=
  if k ≤ bias + 1 then 1 else if bias + 26 ≤ k then 26 else k - bias

/-- Scales a distance down by steps of 35, counting them in units of 36. -/
def reduce (delta k : Nat) : Nat :=
  if 455 < delta then reduce (delta / 35) (k + 36) else k + 36 * delta / (delta + 38)
termination_by delta
decreasing_by omega

/-- The bias after the distance `delta` has been coded, with `count` characters by then. -/
def adapt (delta count : Nat) (isFirst : Bool) : Nat :=
  let d := if isFirst then delta / 700 else delta / 2
  reduce (d + d / count) 0

structure Progress where
  out : List Char
  n : Nat
  i : Nat
  bias : Nat
  /-- The number being read, with the weight and position of its next digit. -/
  number : Nat
  weight : Nat
  k : Nat

def decodeDigits (p : Progress) : List Char → Option (List Char)
  | [] => if p.k = 36 then some p.out else none
  | c :: rest =>
    match digitValue? c with
    | none => none
    | some d =>
      let number := p.number + d * p.weight
      let t := threshold p.k p.bias
      if d < t then
        let count := p.out.length + 1
        let place := p.i + number
        let n := p.n + place / count
        let i := place % count
        if n < 0x110000 ∧ ¬ (0xD800 ≤ n ∧ n < 0xE000) then
          decodeDigits
            { out := p.out.take i ++ Char.ofNat n :: p.out.drop i, n, i := i + 1,
              bias := adapt number count (p.n = 128 && p.i = 0 && p.bias = 72),
              number := 0, weight := 1, k := 36 } rest
        else none
      else decodeDigits { p with number, weight := p.weight * (36 - t), k := p.k + 36 } rest

def decode? (s : List Char) : Option (List Char) :=
  let tail := (s.reverse.takeWhile (· ≠ '-')).reverse
  let head := s.take (s.length - tail.length - 1)
  let digits := if head.isEmpty && s.head? ≠ some '-' then s else tail
  if head.all (·.toNat < 128) then
    decodeDigits ⟨head, 128, 0, 72, 0, 1, 36⟩ digits
  else none

def encodeNumber (q k bias : Nat) : List Char :=
  let t := threshold k bias
  if q < t then [digitChar q]
  else digitChar (t + (q - t) % (36 - t)) :: encodeNumber ((q - t) / (36 - t)) (k + 36) bias
termination_by q
decreasing_by
  have h1 : 1 ≤ threshold k bias := by unfold threshold; split <;> (try split) <;> omega
  have h2 : threshold k bias ≤ 26 := by unfold threshold; split <;> (try split) <;> omega
  have := Nat.div_le_self (q - threshold k bias) (36 - threshold k bias)
  omega

/-- Where encoding stands: digits so far, the distance to the next insertion, the bias, and the
number of characters coded. -/
structure Output where
  digits : List Char
  delta : Nat
  bias : Nat
  coded : Nat

/-- Codes the occurrences of `m` in a label whose characters below `m` are coded. -/
def encodePass (m basic : Nat) (o : Output) : List Char → Output
  | [] => o
  | c :: rest =>
    if c.toNat < m then encodePass m basic { o with delta := o.delta + 1 } rest
    else if c.toNat = m then
      encodePass m basic
        { digits := o.digits ++ encodeNumber o.delta 36 o.bias, delta := 0,
          bias := adapt o.delta (o.coded + 1) (o.coded = basic), coded := o.coded + 1 } rest
    else encodePass m basic o rest

/-- Codes the code points `ms`, which are increasing, after those up to `n - 1`. -/
def encodePoints (label : List Char) (basic n : Nat) (o : Output) : List Nat → List Char
  | [] => o.digits
  | m :: ms =>
    let o := { o with delta := o.delta + (m - n) * (o.coded + 1) }
    let o := encodePass m basic o label
    encodePoints label basic (m + 1) { o with delta := o.delta + 1 } ms

def distinct (ns : List Nat) : List Nat :=
  (ns.mergeSort (· ≤ ·)).foldr (fun n rest => if rest.head? = some n then rest else n :: rest) []

def encode (label : List Char) : List Char :=
  let basic := label.filter (·.toNat < 128)
  let others := distinct ((label.map Char.toNat).filter (128 ≤ ·))
  let head := if basic.isEmpty then [] else basic ++ ['-']
  head ++ encodePoints label basic.length 128 ⟨[], 0, 72, basic.length⟩ others

end Courier.Idna.Punycode

/-!
# Lossy UTF-8

Any bytes can be read as text: where they are no UTF-8, the longest start of a well-formed sequence
is replaced as a whole by U+FFFD, or else a single byte is.
-/

namespace Courier.Text.Utf8

def replacement : Char := '\uFFFD'

/-- The number of bytes that follow a lead byte, and the bounds of the first of them. -/
def shape (b : Nat) : Option (Nat × Nat × Nat) :=
  if 0xC2 ≤ b ∧ b ≤ 0xDF then some (1, 0x80, 0xBF)
  else if b = 0xE0 then some (2, 0xA0, 0xBF)
  else if b = 0xED then some (2, 0x80, 0x9F)
  else if 0xE1 ≤ b ∧ b ≤ 0xEF then some (2, 0x80, 0xBF)
  else if b = 0xF0 then some (3, 0x90, 0xBF)
  else if 0xF1 ≤ b ∧ b ≤ 0xF3 then some (3, 0x80, 0xBF)
  else if b = 0xF4 then some (3, 0x80, 0x8F)
  else none

/-- The bits that a lead byte contributes. -/
def leadBits (b : Nat) : Nat := if b < 0xE0 then b % 32 else if b < 0xF0 then b % 16 else b % 8

/-- A sequence that has begun: how many bytes are missing, the bounds of the next one, and the bits
so far. -/
structure Pending where
  missing : Nat
  low : Nat
  high : Nat
  bits : Nat

/-- What a byte that does not continue a sequence begins. -/
def begin (b : Nat) : List Char × Option Pending :=
  if b < 0x80 then ([Char.ofNat b], none)
  else
    match shape b with
    | some (missing, low, high) => ([], some ⟨missing, low, high, leadBits b⟩)
    | none => ([replacement], none)

/-- The characters that a byte completes, and the sequence that it leaves pending. -/
def step (p : Option Pending) (b : Nat) : List Char × Option Pending :=
  match p with
  | none => begin b
  | some p =>
    if p.low ≤ b ∧ b ≤ p.high then
      let bits := p.bits * 64 + b % 64
      if p.missing = 1 then ([Char.ofNat bits], none)
      else ([], some ⟨p.missing - 1, 0x80, 0xBF, bits⟩)
    else
      let (cs, p) := begin b
      (replacement :: cs, p)

def decodeFrom (p : Option Pending) : List UInt8 → List Char
  | [] => if p.isSome then [replacement] else []
  | b :: rest =>
    let (cs, p) := step p b.toNat
    cs ++ decodeFrom p rest

def decode (bytes : List UInt8) : String := String.ofList (decodeFrom none bytes)

def encode (s : String) : List UInt8 := s.toUTF8.toList

end Courier.Text.Utf8

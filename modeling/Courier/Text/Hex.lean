import Courier.Number.Power

/-!
# Hexadecimal digits

Numbers in lower-case hexadecimal of a fixed width, and the value of digits of either case.
-/

namespace Courier.Text.Hex

def digitChar (d : Nat) : Char := if d < 10 then Char.ofNat (48 + d) else Char.ofNat (87 + d)

def upperDigitChar (d : Nat) : Char := if d < 10 then Char.ofNat (48 + d) else Char.ofNat (55 + d)

def digitValue? (c : Char) : Option Nat :=
  if '0' ≤ c ∧ c ≤ '9' then some (c.toNat - 48)
  else if 'a' ≤ c ∧ c ≤ 'f' then some (c.toNat - 87)
  else if 'A' ≤ c ∧ c ≤ 'F' then some (c.toNat - 55)
  else none

/-- The last `width` digits of `n`, most significant first. -/
def digits : Nat → Nat → List Char
  | 0, _ => []
  | width + 1, n => digits width (n / 16) ++ [digitChar (n % 16)]

def minimal (n : Nat) : List Char :=
  if n < 16 then [digitChar n] else minimal (n / 16) ++ [digitChar (n % 16)]

def value? (s : List Char) : Option Nat :=
  s.foldlM (fun n c => (digitValue? c).map (n * 16 + ·)) 0

theorem digitValue?_digitChar {d : Nat} (h : d < 16) : digitValue? (digitChar d) = some d := by
  have : ∀ d, d < 16 → digitValue? (digitChar d) = some d := by decide
  exact this d h

theorem value?_digits (width n : Nat) : value? (digits width n) = some (n % 16 ^ width) := by
  induction width generalizing n with
  | zero => simp [digits, value?, Nat.mod_one]
  | succ width ih =>
    have step : value? (digits width (n / 16) ++ [digitChar (n % 16)]) =
        (value? (digits width (n / 16))).bind fun m =>
          (digitValue? (digitChar (n % 16))).map (m * 16 + ·) := by
      simp [value?, List.foldlM_append]
    rw [digits, step, ih, digitValue?_digitChar (Nat.mod_lt _ (by decide))]
    simp only [Option.bind_some, Option.map_some, Option.some.injEq]
    rw [Nat.pow_succ, Nat.mul_comm (16 ^ width) 16, Nat.mod_mul]
    omega

end Courier.Text.Hex

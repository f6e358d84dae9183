import Courier.Number.Power

/-!
# Decimal digits

Natural numbers in decimal, plain and padded with zeros to a least width, and the value of a run
of digits. `value_digits` and `value_padded` say that writing and reading agree.
-/

namespace Courier.Text.Decimal

def digitChar (d : Nat) : Char := Char.ofNat (48 + d)

def isDigit (c : Char) : Bool := '0' ≤ c && c ≤ '9'

def digitValue (c : Char) : Nat := c.toNat - 48

/-- The digits of `n`, most significant first, without leading zeros. -/
def digits (n : Nat) : List Char :=
  if n < 10 then [digitChar n] else digits (n / 10) ++ [digitChar (n % 10)]

/-- The digits of `n` behind as many zeros as it takes to fill `width`. -/
def padded (width n : Nat) : List Char :=
  List.replicate (width - (digits n).length) '0' ++ digits n

def value (s : List Char) : Nat := s.foldl (fun n c => n * 10 + digitValue c) 0

/-- The longest run of digits at the front, cut at `most` digits if a limit is given. -/
def run (most : Option Nat) (s : List Char) : List Char :=
  match most with
  | none => s.takeWhile isDigit
  | some m => (s.take m).takeWhile isDigit

/-- Reads one digit or more, at most `most` of them. -/
def read (most : Option Nat) (s : List Char) : Option (Nat × List Char) :=
  match run most s with
  | [] => none
  | ds => some (value ds, s.drop ds.length)

def ofInt (i : Int) : String :=
  if i < 0 then String.ofList ('-' :: digits i.natAbs) else String.ofList (digits i.natAbs)

/-! ### Writing and reading agree -/

theorem digitValue_digitChar {d : Nat} (h : d < 10) : digitValue (digitChar d) = d := by
  have : ∀ d, d < 10 → digitValue (digitChar d) = d := by decide
  exact this d h

theorem isDigit_digitChar {d : Nat} (h : d < 10) : isDigit (digitChar d) = true := by
  have : ∀ d, d < 10 → isDigit (digitChar d) = true := by decide
  exact this d h

theorem value_append_digit (s : List Char) (c : Char) :
    value (s ++ [c]) = value s * 10 + digitValue c := by
  simp [value]

theorem value_digits (n : Nat) : value (digits n) = n := by
  rw [digits]
  split
  · next h => simp [value, digitValue_digitChar h]
  · next h =>
    rw [value_append_digit, value_digits (n / 10), digitValue_digitChar (by omega)]
    omega

theorem foldl_value_zeros (k : Nat) (n : Nat) (s : List Char) :
    (List.replicate k '0' ++ s).foldl (fun n c => n * 10 + digitValue c) n =
      s.foldl (fun n c => n * 10 + digitValue c) (n * 10 ^ k) := by
  induction k generalizing n with
  | zero => simp
  | succ k ih =>
    rw [List.replicate_succ, List.cons_append, List.foldl_cons, ih]
    have : digitValue '0' = 0 := by decide
    rw [this, Nat.add_zero, Nat.pow_succ, Nat.mul_assoc, Nat.mul_comm 10]

theorem value_padded (width n : Nat) : value (padded width n) = n := by
  rw [padded, value, foldl_value_zeros, Nat.zero_mul]
  exact value_digits n

theorem isDigit_of_mem_digits {n : Nat} {c : Char} (h : c ∈ digits n) : isDigit c = true := by
  rw [digits] at h
  split at h
  · next hn => simp at h; exact h ▸ isDigit_digitChar hn
  · rcases List.mem_append.1 h with h | h
    · exact isDigit_of_mem_digits h
    · simp at h; exact h ▸ isDigit_digitChar (by omega)
termination_by n

end Courier.Text.Decimal

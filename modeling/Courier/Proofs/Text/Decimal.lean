import Courier.Proofs.Calendar.DateText

/-!
# One spelling for each number

A run of digits that fills a width, with zeros in front only to fill it, is the spelling of one
number, and `spells_iff` says that it is the one in which the number is written.
-/

namespace Courier.Text.Decimal

variable {s t : List Char} {c d : Char} {n width : Nat}

theorem foldl_value (n : Nat) (s : List Char) :
    s.foldl (fun n c => n * 10 + digitValue c) n = n * 10 ^ s.length + value s := by
  induction s generalizing n with
  | nil => simp [value]
  | cons c s ih =>
    have tail : value (c :: s) = digitValue c * 10 ^ s.length + value s := by
      rw [value, List.foldl_cons, ih, Nat.zero_mul, Nat.zero_add]
    rw [List.foldl_cons, ih, tail, List.length_cons, Nat.pow_succ]
    grind

theorem value_cons (c : Char) (s : List Char) :
    value (c :: s) = digitValue c * 10 ^ s.length + value s := by
  rw [value, List.foldl_cons, foldl_value, Nat.zero_mul, Nat.zero_add]

theorem isDigit_iff : isDigit c = true ↔ 48 ≤ c.toNat ∧ c.toNat ≤ 57 := by
  simp only [isDigit, Bool.and_eq_true, decide_eq_true_eq]
  exact Iff.rfl

theorem digitValue_lt (digit : isDigit c = true) : digitValue c < 10 := by
  have := isDigit_iff.mp digit
  unfold digitValue
  omega

theorem eq_of_digitValue (first : isDigit c = true) (second : isDigit d = true)
    (same : digitValue c = digitValue d) : c = d := by
  have := isDigit_iff.mp first
  have := isDigit_iff.mp second
  unfold digitValue at same
  exact Char.toNat_inj.mp (by omega)

theorem value_lt (digits : ∀ c ∈ s, isDigit c = true) : value s < 10 ^ s.length := by
  induction s with
  | nil => decide
  | cons c s ih =>
    have tail := ih fun d member => digits d (List.mem_cons_of_mem c member)
    have head := digitValue_lt (digits c List.mem_cons_self)
    have step : (digitValue c + 1) * 10 ^ s.length ≤ 10 * 10 ^ s.length :=
      Nat.mul_le_mul_right _ head
    rw [Nat.add_mul, Nat.one_mul] at step
    rw [value_cons, List.length_cons, Nat.pow_succ, Nat.mul_comm (10 ^ _)]
    omega

theorem eq_of_value (first : ∀ c ∈ s, isDigit c = true) (second : ∀ c ∈ t, isDigit c = true)
    (length : s.length = t.length) (same : value s = value t) : s = t := by
  induction s generalizing t with
  | nil => exact (List.eq_nil_of_length_eq_zero length.symm).symm
  | cons c s ih =>
    cases t with
    | nil => cases length
    | cons d t =>
      have length : s.length = t.length := Nat.succ.inj length
      have first_tail := fun e member => first e (List.mem_cons_of_mem c member)
      have second_tail := fun e member => second e (List.mem_cons_of_mem d member)
      rw [value_cons, value_cons, length] at same
      -- The tails are too small to make up for a difference of the first digits.
      have heads : digitValue c = digitValue d := by
        have left := value_lt first_tail
        have right := value_lt second_tail
        rw [length] at left
        have quotient := congrArg (· / 10 ^ t.length) same
        have positive : 0 < 10 ^ t.length := Nat.pow_pos (by decide)
        simpa only [Nat.mul_comm _ (10 ^ t.length), Nat.mul_add_div positive,
          Nat.div_eq_of_lt left, Nat.div_eq_of_lt right, Nat.add_zero] using quotient
      have head : c = d :=
        eq_of_digitValue (first c List.mem_cons_self) (second d List.mem_cons_self) heads
      rw [heads] at same
      rw [head, ih first_tail second_tail length (Nat.add_left_cancel same)]

/-- The digits of `n`, at least `width` of them, with zeros in front only to fill the width. -/
structure Spells (width n : Nat) (s : List Char) : Prop where
  digits : ∀ c ∈ s, isDigit c = true
  value : value s = n
  wide : width ≤ s.length
  plain : width < s.length → s.head? ≠ some '0'

/-- A spelling that is longer than its width starts with a digit that counts. -/
theorem Spells.pow_le (spells : Spells width n s) (long : width < s.length) :
    10 ^ (s.length - 1) ≤ n := by
  have plain := spells.plain long
  rw [← spells.value]
  cases s with
  | nil => cases long
  | cons c s =>
    have nonzero : digitValue c ≠ 0 := by
      intro zero
      have digit := spells.digits c List.mem_cons_self
      exact plain (congrArg some (eq_of_digitValue digit (by decide) zero))
    have counts := Nat.mul_le_mul_right (10 ^ s.length) (Nat.one_le_iff_ne_zero.mpr nonzero)
    rw [value_cons, List.length_cons, Nat.add_sub_cancel]
    omega

theorem Spells.length_le (first : Spells width n s) (second : Spells width n t) :
    s.length ≤ t.length := by
  refine Nat.le_of_not_lt fun longer => ?_
  have long : width < s.length := Nat.lt_of_le_of_lt second.wide longer
  have least := first.pow_le long
  have greatest := value_lt second.digits
  rw [second.value] at greatest
  have grows : 10 ^ t.length ≤ 10 ^ (s.length - 1) := Nat.pow_le_pow_right (by decide) (by omega)
  omega

theorem Spells.unique (first : Spells width n s) (second : Spells width n t) : s = t := by
  have length := Nat.le_antisymm (first.length_le second) (second.length_le first)
  exact eq_of_value first.digits second.digits length (first.value.trans second.value.symm)

theorem head_digits {n : Nat} (positive : 0 < n) : (digits n).head? ≠ some '0' := by
  rw [digits]
  split
  · next small =>
    have nonzero : ∀ d < 10, 0 < d → digitChar d ≠ '0' := by decide
    rw [List.head?_singleton]
    exact fun zero => nonzero n small positive (Option.some.inj zero)
  · next large =>
    have rest := head_digits (n := n / 10) (by omega)
    obtain ⟨c, more, text⟩ := List.exists_cons_of_ne_nil (digits_ne_nil (n / 10))
    rw [text] at rest ⊢
    exact rest
termination_by n

theorem spells_padded (wide : 0 < width) : Spells width n (padded width n) where
  digits c member := isDigit_of_mem_padded member
  value := value_padded width n
  wide := by
    rw [padded, List.length_append, List.length_replicate]
    omega
  plain long := by
    rw [padded, List.length_append, List.length_replicate] at long
    have full : width - (digits n).length = 0 := by omega
    have positive : 0 < n := by
      refine Nat.pos_of_ne_zero ?_
      rintro rfl
      have one : (digits 0).length = 1 := by rw [digits]; rfl
      omega
    rw [padded, full, List.replicate_zero, List.nil_append]
    exact head_digits positive

theorem spells_iff (wide : 0 < width) : Spells width n s ↔ s = padded width n := by
  constructor
  · intro spells
    exact spells.unique (spells_padded wide)
  · rintro rfl
    exact spells_padded wide

end Courier.Text.Decimal

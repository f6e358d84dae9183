import Courier.Calendar.DateText

/-!
# Dates are read as they are written

A date that is written with some separator is read back, for every date of the calendar.
-/

namespace Courier

namespace Text.Decimal

variable {most : Option Nat} {ds rest : List Char} {n width : Nat} {c : Char}

theorem digits_ne_nil (n : Nat) : digits n ≠ [] := by
  rw [digits]
  split <;> simp

theorem length_digits_le (small : n < 10 ^ width) (wide : 0 < width) :
    (digits n).length ≤ width := by
  induction width generalizing n with
  | zero => exact absurd wide (Nat.lt_irrefl 0)
  | succ width ih =>
    rw [digits]
    split
    · simp
    · next large =>
      have wide : 0 < width := by
        rcases Nat.eq_zero_or_pos width with rfl | wide
        · omega
        · exact wide
      have := ih (n := n / 10) (by rw [Nat.pow_succ] at small; omega) wide
      simpa using this

theorem isDigit_of_mem_padded (member : c ∈ padded width n) : isDigit c = true := by
  rcases List.mem_append.mp member with zero | digit
  · rw [List.eq_of_mem_replicate zero]
    decide
  · exact isDigit_of_mem_digits digit

theorem padded_ne_nil (width n : Nat) : padded width n ≠ [] := by
  simp [padded, digits_ne_nil]

theorem length_padded (small : n < 10 ^ width) (wide : 0 < width) :
    (padded width n).length = width := by
  have := length_digits_le small wide
  rw [padded, List.length_append, List.length_replicate]
  omega

theorem read_of_run (nonempty : ds ≠ []) (run_eq : run most (ds ++ rest) = ds) :
    read most (ds ++ rest) = some (value ds, rest) := by
  unfold read
  rw [run_eq]
  cases ds with
  | nil => exact absurd rfl nonempty
  | cons d more => simp

/-- All digits are read up to something else. -/
theorem read_padded_none (width n : Nat) (ends : ∀ c, rest.head? = some c → isDigit c = false) :
    read none (padded width n ++ rest) = some (n, rest) := by
  have stop : rest.takeWhile isDigit = [] := by
    cases rest with
    | nil => rfl
    | cons c more => exact List.takeWhile_cons_of_neg (by simp [ends c rfl])
  have run_eq : run none (padded width n ++ rest) = padded width n := by
    show (padded width n ++ rest).takeWhile isDigit = _
    rw [List.takeWhile_append_of_pos fun c member => isDigit_of_mem_padded member, stop,
      List.append_nil]
  rw [read_of_run (padded_ne_nil width n) run_eq, value_padded]

/-- As many digits are read as there may be, whatever follows. -/
theorem read_padded_some (small : n < 10 ^ width) (wide : 0 < width) :
    read (some width) (padded width n ++ rest) = some (n, rest) := by
  have run_eq : run (some width) (padded width n ++ rest) = padded width n := by
    show ((padded width n ++ rest).take width).takeWhile isDigit = _
    rw [List.take_left' (length_padded small wide)]
    have all : (padded width n ++ []).takeWhile isDigit = padded width n ++ [] :=
      List.takeWhile_append_of_pos fun c member => isDigit_of_mem_padded member
    rwa [List.append_nil] at all
  rw [read_of_run (padded_ne_nil width n) run_eq, value_padded]

theorem exists_padded_cons (width n : Nat) :
    ∃ c more, padded width n = c :: more ∧ isDigit c = true := by
  cases text : padded width n with
  | nil => exact absurd text (padded_ne_nil width n)
  | cons c more =>
    exact ⟨c, more, rfl, isDigit_of_mem_padded (text ▸ List.mem_cons_self)⟩

theorem isBlank_of_isDigit (digit : isDigit c = true) : isBlank c = false := by
  simp only [isDigit, Bool.and_eq_true, decide_eq_true_eq] at digit
  have low : 48 ≤ c.toNat := digit.1
  have high : c.toNat ≤ 57 := digit.2
  simp only [isBlank]
  grind

theorem skipBlanks_padded (width n : Nat) (rest : List Char) :
    skipBlanks (padded width n ++ rest) = padded width n ++ rest := by
  obtain ⟨c, more, text, digit⟩ := exists_padded_cons width n
  rw [text]
  exact skipBlanks_of_not_blank (isBlank_of_isDigit digit)

end Text.Decimal

namespace Date

open Text Calendar

variable {sep : Char} {rest : List Char}

/-! ### The parts of a date are small -/

theorem month_lt (d : Date) : d.month < 100 ∧ d.day < 100 := by
  obtain ⟨length, found, small, _⟩ := monthOfDays_spec _ _ d.dayOfYear_lt
  have index := (List.getElem?_eq_some_iff.mp found).1
  have twelve (leap : Bool) : (monthLengths leap).length = 12 := by cases leap <;> rfl
  have short (leap : Bool) : ∀ n ∈ monthLengths leap, n ≤ 31 := by cases leap <;> decide
  have := short _ length (List.mem_of_getElem? found)
  rw [twelve] at index
  unfold month day
  omega

/-! ### Reading part by part -/

theorem readYear_of_isDigit {c : Char} {s : List Char} (digit : Decimal.isDigit c = true) :
    readYear (c :: s) = (Decimal.read (some 4) (c :: s)).map fun (n, r) => ((n : Int), r) := by
  have plus : c ≠ '+' := by rintro rfl; cases digit
  have minus : c ≠ '-' := by rintro rfl; cases digit
  rw [readYear, skipBlanks_of_not_blank (Decimal.isBlank_of_isDigit digit)]
  simp [plus, minus]

theorem readYear_minus (s : List Char) :
    readYear ('-' :: s) = (Decimal.read none s).map fun (n, r) => (-(n : Int), r) := rfl

theorem readYear_plus (s : List Char) :
    readYear ('+' :: s) = (Decimal.read none s).map fun (n, r) => ((n : Int), r) := rfl

theorem readYear_yearText (y : Int)
    (ends : ∀ c, rest.head? = some c → Decimal.isDigit c = false) :
    readYear (yearText y ++ rest) = some (y, rest) := by
  unfold yearText
  split
  · next short =>
    have read : Decimal.read (some 4) (Decimal.padded 4 y.toNat ++ rest) = some (y.toNat, rest) :=
      Decimal.read_padded_some (by omega) (by omega)
    obtain ⟨c, more, text, digit⟩ := Decimal.exists_padded_cons 4 y.toNat
    rw [text] at read ⊢
    rw [List.cons_append, readYear_of_isDigit digit, ← List.cons_append, read]
    simp [Int.toNat_of_nonneg short.1]
  · next long =>
    have read := Decimal.read_padded_none 4 y.natAbs ends
    split
    · next negative =>
      rw [List.cons_append, readYear_minus, read, Option.map_some]
      exact congrArg (fun z : Int => some (z, rest)) (by omega)
    · next large =>
      rw [List.cons_append, readYear_plus, read, Option.map_some]
      exact congrArg (fun z : Int => some (z, rest)) (by omega)

theorem readPart_padded {n : Nat} (small : n < 100) (rest : List Char) :
    readPart (Decimal.padded 2 n ++ rest) = some (n, rest) := by
  rw [readPart, Decimal.skipBlanks_padded, Decimal.read_padded_some small (by omega)]

theorem readTight_self (sep : Char) (rest : List Char) :
    readTight sep (sep :: rest) = some rest := if_pos rfl

theorem readMark_self (visible : isBlank sep = false) (rest : List Char) :
    readMark sep (sep :: rest) = some rest := by
  rw [readMark, skipBlanks_of_not_blank visible, readTight_self]

theorem readWith_format_append {mark : List Char → Option (List Char)}
    (reads : ∀ rest, mark (sep :: rest) = some rest) (plain : Decimal.isDigit sep = false)
    (d : Date) (rest : List Char) : readWith mark (d.format sep ++ rest) = some (d, rest) := by
  obtain ⟨month_small, day_small⟩ := d.month_lt
  have ends : ∀ c, (sep :: (Decimal.padded 2 d.month ++ sep :: (Decimal.padded 2 d.day ++
      rest))).head? = some c → Decimal.isDigit c = false := by
    rintro c ⟨⟩
    exact plain
  have year_read := readYear_yearText d.year ends
  unfold readWith format
  rw [List.append_assoc, List.cons_append, List.append_assoc, List.cons_append, year_read]
  simp only [Option.bind_eq_bind, Option.bind_some, reads,
    readPart_padded month_small, readPart_padded day_small, ofCivil?_civil]
  rfl

theorem read_format_append (visible : isBlank sep = false) (plain : Decimal.isDigit sep = false)
    (d : Date) (rest : List Char) : read sep (d.format sep ++ rest) = some (d, rest) :=
  readWith_format_append (readMark_self visible) plain d rest

theorem parse?_format (visible : isBlank sep = false) (plain : Decimal.isDigit sep = false)
    (d : Date) : parse? sep (d.format sep) = some d := by
  have read := read_format_append visible plain d []
  rw [List.append_nil] at read
  rw [parse?, read]
  rfl

theorem parseTight?_format (plain : Decimal.isDigit sep = false) (d : Date) :
    parseTight? sep (d.format sep) = some d := by
  have read := readWith_format_append (readTight_self sep) plain d []
  rw [List.append_nil] at read
  rw [parseTight?, read]

theorem parse?_text (d : Date) : parse? '-' d.text.toList = some d := by
  rw [text, String.toList_ofList]
  exact parse?_format (by decide) (by decide) d

end Date

end Courier

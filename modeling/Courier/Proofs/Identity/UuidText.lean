import Courier.Identity.Uuid

/-!
# Identifiers are read as they are written

The hyphens of a written identifier stand where they are expected, and its digits have its number.
-/

namespace Courier

namespace Text.Hex

variable {width n : Nat} {c : Char}

theorem length_digits (width n : Nat) : (digits width n).length = width := by
  induction width generalizing n with
  | zero => rfl
  | succ width ih => rw [digits, List.length_append, ih, List.length_singleton]

theorem ne_hyphen_of_mem_digits (member : c ∈ digits width n) : c ≠ '-' := by
  induction width generalizing n with
  | zero => cases member
  | succ width ih =>
    rw [digits] at member
    rcases List.mem_append.mp member with front | last
    · exact ih front
    · have plain : ∀ d < 16, digitChar d ≠ '-' := by decide
      rw [List.mem_singleton.mp last]
      exact plain _ (Nat.mod_lt _ (by decide))

end Text.Hex

namespace Uuid

open Text

variable {s : List Char}

theorem length_hyphenate (full : s.length = 32) : (hyphenate s).length = 36 := by
  simp only [hyphenate, List.length_append, List.length_cons, List.length_take, List.length_drop]
  omega

theorem filter_hyphenate (plain : ∀ c ∈ s, c ≠ '-') : (hyphenate s).filter (· ≠ '-') = s := by
  have kept {t : List Char} (part : ∀ c ∈ t, c ∈ s) : t.filter (· ≠ '-') = t :=
    List.filter_eq_self.mpr fun c member => decide_eq_true (plain c (part c member))
  have group (i j : Nat) : ((s.drop i).take j).filter (· ≠ '-') = (s.drop i).take j :=
    kept fun c member => List.mem_of_mem_drop (List.mem_of_mem_take member)
  have first : (s.take 8).filter (· ≠ '-') = s.take 8 := kept fun c => List.mem_of_mem_take
  have last : (s.drop 20).filter (· ≠ '-') = s.drop 20 := kept fun c => List.mem_of_mem_drop
  have joined (i j : Nat) : (s.drop i).take j ++ s.drop (i + j) = s.drop i := by
    rw [← List.drop_drop, List.take_append_drop]
  have hyphen (t : List Char) : ('-' :: t).filter (· ≠ '-') = t.filter (· ≠ '-') := rfl
  simp only [hyphenate, List.filter_append, hyphen, first, group, last]
  rw [joined 16 4, joined 12 4, joined 8 4, List.take_append_drop]

theorem parse?_text (u : Uuid) : parse? u.text.toList = some u := by
  have length : (Hex.digits 32 u.number).length = 32 := Hex.length_digits 32 u.number
  have bare : (hyphenate (Hex.digits 32 u.number)).filter (· ≠ '-') = Hex.digits 32 u.number :=
    filter_hyphenate fun c member => Hex.ne_hyphen_of_mem_digits member
  have digits : digitsOf? (hyphenate (Hex.digits 32 u.number)) = some (Hex.digits 32 u.number) := by
    rw [digitsOf?, length_hyphenate length, if_neg (by decide), if_pos rfl, unhyphenate?, bare]
    exact if_pos ⟨length, rfl⟩
  have number : u.number % 16 ^ 32 = u.number := Nat.mod_eq_of_lt u.number_lt
  rw [text, String.toList_ofList, parse?, digits, Option.bind_some, Hex.value?_digits, number,
    Option.bind_some, dif_pos u.number_lt]

end Uuid

end Courier

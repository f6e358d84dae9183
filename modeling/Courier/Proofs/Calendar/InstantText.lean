import Courier.Calendar.InstantText
import Courier.Proofs.Calendar.DateText

/-!
# Instants are read as they are written

`parse?_text` says it for every instant, with the years that need a sign, fractions of any length
and leap seconds.
-/

namespace Courier.Instant

open Text

variable {n width : Nat}

theorem readFraction_padded (wide : 0 < width) (narrow : width ≤ 9) (small : n < 10 ^ width) :
    readFraction ('.' :: (Decimal.padded width n ++ ['Z'])) =
      some (n * 10 ^ (9 - width), ['Z']) := by
  have length := Decimal.length_padded small wide
  have run_eq : Decimal.run (some 9) (Decimal.padded width n ++ ['Z']) =
      Decimal.padded width n := by
    have digits : ∀ c ∈ Decimal.padded width n, Decimal.isDigit c = true :=
      fun c member => Decimal.isDigit_of_mem_padded member
    have ends (k : Nat) : (['Z'].take k).takeWhile Decimal.isDigit = [] := by cases k <;> simp; rfl
    show ((Decimal.padded width n ++ ['Z']).take 9).takeWhile Decimal.isDigit = _
    rw [List.take_append, List.take_of_length_le (Nat.le_trans (Nat.le_of_eq length) narrow),
      List.takeWhile_append_of_pos digits, ends, List.append_nil]
  have read := Decimal.read_of_run (Decimal.padded_ne_nil width n) run_eq
  rw [Decimal.value_padded] at read
  rw [readFraction, read, Option.map_some, List.length_append, length]
  show some (n * 10 ^ (9 - (width + 1 - 1)), ['Z'].dropWhile Decimal.isDigit) = _
  rw [Nat.add_sub_cancel]
  rfl

theorem readFraction_fractionText (small : n < 1000000000) :
    readFraction (fractionText n ++ ['Z']) = some (n, ['Z']) := by
  unfold fractionText
  split
  · next zero =>
    rw [zero]
    rfl
  split
  · next millis =>
    rw [List.cons_append, readFraction_padded (by decide) (by decide) (by omega)]
    exact congrArg (fun m => some (m, ['Z'])) (by omega)
  split
  · next micros =>
    rw [List.cons_append, readFraction_padded (by decide) (by decide) (by omega)]
    exact congrArg (fun m => some (m, ['Z'])) (by omega)
  · rw [List.cons_append, readFraction_padded (by decide) (by decide) (by omega)]
    exact congrArg (fun m => some (m, ['Z'])) (by omega)

theorem ofLocal?_self (t : Instant) : ofLocal? t.date t.second t.nano 0 = some t := by
  obtain ⟨date, second, nano, second_lt, nano_lt, leap_at⟩ := t
  have day : date.dayNumber + ((second : Int) - 0) / 86400 = date.dayNumber := by omega
  have same : (((second : Int) - 0) % 86400).toNat = second := by omega
  unfold ofLocal?
  dsimp only
  rw [day, Date.ofDayNumber?_dayNumber, Option.bind_some, dif_pos ⟨nano_lt, by rwa [same]⟩]
  simp only [same]

theorem shown_second (t : Instant) :
    t.second % 60 + (if t.IsLeap then 1 else 0) ≤ 60 ∧
      (if t.second % 60 + (if t.IsLeap then 1 else 0) = 60 then 1 else 0) =
        if t.IsLeap then 1 else 0 := by
  by_cases leap : t.IsLeap
  · rw [if_pos leap, t.leap_at leap]
    decide
  · have plain : t.second % 60 + 0 ≠ 60 := by omega
    rw [if_neg leap, if_neg plain]
    omega

theorem read_text (t : Instant) : read t.text.toList = some (t, []) := by
  obtain ⟨shown, leap⟩ := t.shown_second
  have second := t.second_lt
  have nano := t.nano_lt
  have fraction : t.nano % 1000000000 < 1000000000 := Nat.mod_lt _ (by decide)
  have offset : readOffset (skipBlanks ['Z']) = some (0, []) := by decide
  have colon (s : List Char) : Date.readMark ':' (':' :: s) = some s := Date.readMark_self rfl s
  unfold read text
  rw [String.toList_ofList, Date.read_format_append rfl rfl]
  simp only [Option.bind_eq_bind, Option.bind_some, List.append_assoc,
    Date.readPart_padded (n := t.second / 3600) (by omega),
    Date.readPart_padded (n := t.second / 60 % 60) (by omega),
    Date.readPart_padded (n := t.second % 60 + if t.IsLeap then 1 else 0) (by omega),
    colon, readFraction_fractionText fraction, offset]
  have seconds : t.second / 3600 * 3600 + t.second / 60 % 60 * 60 +
      (t.second % 60 + (if t.IsLeap then 1 else 0) - if t.IsLeap then 1 else 0) = t.second := by
    omega
  have nanos : t.nano % 1000000000 + (if t.IsLeap then 1 else 0) * 1000000000 = t.nano := by
    by_cases late : t.IsLeap
    · have : 1000000000 ≤ t.nano := late
      rw [if_pos late]
      omega
    · have : ¬ 1000000000 ≤ t.nano := late
      rw [if_neg late]
      omega
  rw [if_pos ⟨by omega, by omega, shown⟩, leap, seconds, nanos, ofLocal?_self]
  rfl

theorem parse?_text (t : Instant) : parse? t.text.toList = some t := by
  rw [parse?, read_text]
  rfl

end Courier.Instant

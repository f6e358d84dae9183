import Courier.Json.Token
import Courier.Proofs.Text.Decimal

/-!
# Tokens of a written value

A written string, or the text of an integer, is scanned as one token, whatever follows it that does
not go on with the number. `tokens_render` puts them together: the text of a value has the tokens of
the value.
-/

namespace Courier.Json

open Text

/-! ### Strings -/

section Strings

variable {c : Char} {s rest : List Char}

def shortEscaped : List Char := ['"', '\\', '\x08', '\t', '\n', '\x0c', '\r']

/-- Other control characters are written as units. -/
def pieceOf (c : Char) : Piece :=
  if c.toNat < 32 ∧ c ∉ shortEscaped then .unit c.toNat else .char c

theorem escape_of_short (short : c ∈ shortEscaped) :
    ∃ d, escape c = ['\\', d] ∧ unescape? d = some c ∧ d ≠ 'u' ∧ pieceOf c = .char c := by
  simp only [shortEscaped, List.mem_cons, List.not_mem_nil, or_false] at short
  rcases short with rfl | rfl | rfl | rfl | rfl | rfl | rfl <;>
    exact ⟨_, rfl, rfl, by decide, rfl⟩

theorem escape_of_long (long : c ∉ shortEscaped) :
    escape c = if c.toNat < 32 then '\\' :: 'u' :: Hex.digits 4 c.toNat else [c] := by
  have apart {n : Nat} (short : Char.ofNat n ∈ shortEscaped) : c.toNat ≠ n := by
    rintro rfl
    rw [Char.ofNat_toNat] at short
    exact long short
  have no_quote : c ≠ '"' := by rintro rfl; exact long (by decide)
  have no_slash : c ≠ '\\' := by rintro rfl; exact long (by decide)
  rw [escape, if_neg no_quote, if_neg no_slash]
  iterate 5 rw [if_neg (apart (by decide))]

theorem scanString_unit {n : Nat} (small : n < 32) (rest : List Char) :
    scanString ('\\' :: 'u' :: (Hex.digits 4 n ++ rest)) =
      (scanString rest).map fun (ps, r) => (.unit n :: ps, r) := by
  have read : Hex.value? (Hex.digits 4 n) = some n := by
    rw [Hex.value?_digits, Nat.mod_eq_of_lt (by omega)]
  simp only [Hex.digits, List.nil_append, List.cons_append] at read ⊢
  rw [scanString, read]

theorem scanString_named {d : Char} (named : unescape? d = some c) (other : d ≠ 'u')
    (rest : List Char) :
    scanString ('\\' :: d :: rest) = (scanString rest).map fun (ps, r) => (.char c :: ps, r) := by
  rw [scanString]
  · rw [named]
  · exact fun _ _ _ _ _ same => absurd same other

theorem scanString_plain (long : c ∉ shortEscaped) (printable : 32 ≤ c.toNat) (rest : List Char) :
    scanString (c :: rest) = (scanString rest).map fun (ps, r) => (.char c :: ps, r) := by
  have no_quote : c ≠ '"' := by rintro rfl; exact long (by decide)
  have no_slash : c ≠ '\\' := by rintro rfl; exact long (by decide)
  rw [scanString]
  · have plain : ¬ (c.toNat < 32 ∨ c = '\\') := by
      rintro (control | slash)
      · omega
      · exact no_slash slash
    rw [if_neg plain]
  · exact no_quote
  · exact fun _ _ _ _ _ slash => absurd slash no_slash
  · exact fun _ _ slash => absurd slash no_slash

theorem scanString_escape (c : Char) (rest : List Char) :
    scanString (escape c ++ rest) = (scanString rest).map fun (ps, r) => (pieceOf c :: ps, r) := by
  by_cases short : c ∈ shortEscaped
  · obtain ⟨d, text, named, other, piece⟩ := escape_of_short short
    rw [text, piece]
    exact scanString_named named other rest
  · rw [escape_of_long short, pieceOf]
    by_cases control : c.toNat < 32
    · rw [if_pos control, if_pos ⟨control, short⟩]
      exact scanString_unit control rest
    · rw [if_neg control, if_neg fun unit => control unit.1]
      exact scanString_plain short (by omega) rest

theorem scanString_quoted (s rest : List Char) :
    scanString (s.flatMap escape ++ '"' :: rest) = some (s.map pieceOf, rest) := by
  induction s with
  | nil => rw [List.flatMap_nil, List.nil_append, scanString, List.map_nil]
  | cons c s ih =>
    rw [List.flatMap_cons, List.append_assoc, scanString_escape, ih]
    rfl

/-- A unit outside the surrogates is a character, whatever stands next to it. -/
theorem joinPieces_unit {n : Nat} (small : n < 0xD800) (ps : List Piece) :
    joinPieces (.unit n :: ps) = (joinPieces ps).map (Char.ofNat n :: ·) := by
  have high : isHighSurrogate n = false := by simp [isHighSurrogate]; omega
  have low : isLowSurrogate n = false := by simp [isLowSurrogate]; omega
  cases ps with
  | nil => simp [joinPieces, high, low]
  | cons p ps => cases p <;> simp [joinPieces, high, low]

theorem joinPieces_pieceOf (c : Char) (ps : List Piece) :
    joinPieces (pieceOf c :: ps) = (joinPieces ps).map (c :: ·) := by
  unfold pieceOf
  split
  · next control => rw [joinPieces_unit (by omega), Char.ofNat_toNat]
  · rw [joinPieces]

theorem joinPieces_map (s : List Char) : joinPieces (s.map pieceOf) = some s := by
  induction s with
  | nil => rfl
  | cons c s ih => rw [List.map_cons, joinPieces_pieceOf, ih, Option.map_some]

end Strings

/-! ### Integers -/

section Integers

variable {rest : List Char} {n : Nat}

def EndsNumber (rest : List Char) : Prop :=
  ∀ c, rest.head? = some c → Decimal.isDigit c = false ∧ c ≠ '.' ∧ c ≠ 'e' ∧ c ≠ 'E'

theorem takeWhile_digits (ends : EndsNumber rest) (n : Nat) :
    (Decimal.digits n ++ rest).takeWhile Decimal.isDigit = Decimal.digits n ∧
      (Decimal.digits n ++ rest).dropWhile Decimal.isDigit = rest := by
  have all : ∀ c ∈ Decimal.digits n, Decimal.isDigit c = true :=
    fun c member => Decimal.isDigit_of_mem_digits member
  rw [List.takeWhile_append_of_pos all, List.dropWhile_append_of_pos all]
  cases rest with
  | nil => exact ⟨List.append_nil _, rfl⟩
  | cons c more =>
    have stops := (ends c rfl).1
    rw [List.takeWhile_cons, List.dropWhile_cons, stops]
    exact ⟨List.append_nil _, rfl⟩

theorem digits_plain (n : Nat) :
    ¬ (Decimal.digits n = [] ∨
      ((Decimal.digits n).head? = some '0' ∧ 1 < (Decimal.digits n).length)) := by
  rintro (empty | ⟨zero, long⟩)
  · exact Decimal.digits_ne_nil n empty
  · have none : n = 0 := by
      refine Nat.eq_zero_of_not_pos fun positive => Decimal.head_digits positive zero
    rw [none, Decimal.digits] at long
    exact absurd long (by decide)

theorem scanNumber_digits (ends : EndsNumber rest) (isNegative : Bool) (n : Nat) :
    scanNumber isNegative (Decimal.digits n ++ rest) =
      some (Number.ofInteger isNegative (Decimal.digits n), rest) := by
  obtain ⟨whole, left⟩ := takeWhile_digits ends n
  unfold scanNumber
  rw [whole, left]
  dsimp only
  rw [if_neg (digits_plain n)]
  cases rest with
  | nil => rfl
  | cons c more =>
    obtain ⟨_, point, small, large⟩ := ends c rfl
    simp [point, small, large]

theorem ofInteger_nat (n : UInt64) :
    Number.ofInteger false (Decimal.digits n.toNat) = some (.nat n) := by
  have fits : n.toNat < 2 ^ 64 := n.toNat_lt
  unfold Number.ofInteger
  rw [Decimal.value_digits]
  simp [fits]

theorem ofInteger_negative {i : Int64} (negative : i < 0) :
    Number.ofInteger true (Decimal.digits i.toInt.natAbs) = some (.negative i) := by
  have below : i.toInt < 0 := Int64.lt_iff_toInt_lt.mp negative
  have least := i.le_toInt
  have back : -(i.toInt.natAbs : Int) = i.toInt := by omega
  unfold Number.ofInteger
  rw [Decimal.value_digits]
  dsimp only
  rw [if_pos rfl, if_pos ⟨by omega, by omega⟩, back, Int64.ofInt_toInt]

end Integers

/-! ### Whole values -/

/-- A value without floating point numbers, whose negative numbers are negative. -/
inductive IsExact : Json → Prop where
  | null : IsExact .null
  | bool (b : Bool) : IsExact (.bool b)
  | nat (n : UInt64) : IsExact (.number (.nat n))
  | negative {i : Int64} (below : i < 0) : IsExact (.number (.negative i))
  | string (s : String) : IsExact (.string s)
  | array {items : List Json} (each : ∀ v ∈ items, IsExact v) : IsExact (.array items)
  | object {members : List (String × Json)} (each : ∀ m ∈ members, IsExact m.2) :
      IsExact (.object members)

mutual

def toTokens : Json → List Token
  | .null => [.null]
  | .bool b => [.bool b]
  | .number n => [.number (some n)]
  | .string s => [.string (some s)]
  | .array items => .openBracket :: (itemTokens true items ++ [.closeBracket])
  | .object members => .openBrace :: (memberTokens true members ++ [.closeBrace])

def itemTokens (isFirst : Bool) : List Json → List Token
  | [] => []
  | v :: vs => (if isFirst then [] else [.comma]) ++ (toTokens v ++ itemTokens false vs)

def memberTokens (isFirst : Bool) : List (String × Json) → List Token
  | [] => []
  | (k, v) :: vs =>
    (if isFirst then [] else [.comma]) ++
      (.string (some k) :: .colon :: (toTokens v ++ memberTokens false vs))

end

section Values

variable {v : Json} {items : List Json} {members : List (String × Json)} {rest text : List Char}
  {t : Token} {c : Char}

theorem tokens_of_scan (visible : isSpace c = false) (scanned : scan (c :: text) = (t, rest))
    (shorter : rest.length ≤ text.length) : tokens (c :: text) = t :: tokens rest := by
  rw [tokens, visible, scanned]
  dsimp only
  rw [if_neg Bool.false_ne_true, dif_pos]
  exact Nat.lt_succ_of_le shorter

theorem scan_digit (digit : Decimal.isDigit c = true) (n : Option Number)
    (scanned : scanNumber false (c :: text) = some (n, rest)) :
    scan (c :: text) = (.number n, rest) := by
  unfold scan
  split
  case h_12 => rw [scanned]
  -- every other token starts with a character that is no digit
  all_goals
    rename_i same
    cases (List.cons.inj same).1
    cases digit

theorem tokens_quote (s : String) (rest : List Char) :
    tokens (quote s ++ rest) = .string (some s) :: tokens rest := by
  have shape : quote s ++ rest = '"' :: (s.toList.flatMap escape ++ '"' :: rest) := by
    simp [quote]
  rw [shape]
  refine tokens_of_scan rfl ?_ ?_
  · rw [scan, scanString_quoted]
    simp only [joinPieces_map, Option.map_some, String.ofList_toList]
  · simp only [List.length_append, List.length_cons]
    omega

theorem visible_of_isDigit (digit : Decimal.isDigit c = true) : isSpace c = false := by
  refine Bool.eq_false_iff.mpr fun space => ?_
  simp only [isSpace, Bool.or_eq_true, decide_eq_true_eq] at space
  rcases space with ((rfl | rfl) | rfl) | rfl <;> cases digit

theorem tokens_nat (ends : EndsNumber rest) (n : UInt64) :
    tokens (Decimal.digits n.toNat ++ rest) = .number (some (.nat n)) :: tokens rest := by
  have scanned := scanNumber_digits ends false n.toNat
  rw [ofInteger_nat] at scanned
  obtain ⟨c, more, shape⟩ := List.exists_cons_of_ne_nil (Decimal.digits_ne_nil n.toNat)
  have digit : Decimal.isDigit c = true :=
    Decimal.isDigit_of_mem_digits (shape ▸ List.mem_cons_self)
  rw [shape] at scanned ⊢
  refine tokens_of_scan (visible_of_isDigit digit) (scan_digit digit _ scanned) ?_
  exact Nat.le_trans (Nat.le_add_left _ _) (Nat.le_of_eq List.length_append.symm)

theorem tokens_negative (ends : EndsNumber rest) {i : Int64} (below : i < 0) :
    tokens ('-' :: Decimal.digits i.toInt.natAbs ++ rest) =
      .number (some (.negative i)) :: tokens rest := by
  have scanned := scanNumber_digits ends true i.toInt.natAbs
  rw [ofInteger_negative below] at scanned
  refine tokens_of_scan rfl ?_ ?_
  · rw [List.append_eq, scan, scanned]
  · exact Nat.le_trans (Nat.le_add_left _ _) (Nat.le_of_eq List.length_append.symm)

theorem EndsNumber.cons (digit : Decimal.isDigit c = false)
    (other : c ≠ '.' ∧ c ≠ 'e' ∧ c ≠ 'E') : EndsNumber (c :: text) := by
  rintro d ⟨⟩
  exact ⟨digit, other⟩

theorem endsNumber_renderItems (ends : EndsNumber rest) (items : List Json) :
    EndsNumber (renderItems false items rest) := by
  cases items with
  | nil =>
    rw [renderItems]
    exact ends
  | cons v vs =>
    rw [renderItems]
    exact .cons rfl (by decide)

theorem endsNumber_renderMembers (ends : EndsNumber rest) (members : List (String × Json)) :
    EndsNumber (renderMembers false members rest) := by
  cases members with
  | nil =>
    rw [renderMembers]
    exact ends
  | cons m ms =>
    rw [renderMembers]
    exact .cons rfl (by decide)

/-- The text of a value is read as the tokens of the value. -/
def IsScanned (v : Json) : Prop :=
  ∀ rest, EndsNumber rest → tokens (render v rest) = toTokens v ++ tokens rest

theorem tokens_comma (text : List Char) : tokens (',' :: text) = .comma :: tokens text :=
  tokens_of_scan rfl rfl (Nat.le_refl _)

theorem tokens_renderItems (each : ∀ v ∈ items, IsScanned v) (isFirst : Bool)
    (ends : EndsNumber rest) :
    tokens (renderItems isFirst items rest) = itemTokens isFirst items ++ tokens rest := by
  induction items generalizing isFirst with
  | nil => rw [renderItems, itemTokens, List.nil_append]
  | cons v vs ih =>
    have tail := ih (fun w member => each w (List.mem_cons_of_mem v member)) false
    have head := each v List.mem_cons_self _ (endsNumber_renderItems ends vs)
    rw [renderItems, itemTokens]
    cases isFirst with
    | true => simp [head, tail]
    | false => simp [tokens_comma, head, tail]

theorem tokens_renderMembers (each : ∀ m ∈ members, IsScanned m.2) (isFirst : Bool)
    (ends : EndsNumber rest) :
    tokens (renderMembers isFirst members rest) = memberTokens isFirst members ++ tokens rest := by
  induction members generalizing isFirst with
  | nil => rw [renderMembers, memberTokens, List.nil_append]
  | cons m ms ih =>
    obtain ⟨k, v⟩ := m
    have tail := ih (fun w member => each w (List.mem_cons_of_mem (k, v) member)) false
    have value := each (k, v) List.mem_cons_self _ (endsNumber_renderMembers ends ms)
    have colon : tokens (':' :: render v (renderMembers false ms rest)) =
        .colon :: tokens (render v (renderMembers false ms rest)) :=
      tokens_of_scan rfl rfl (Nat.le_refl _)
    rw [renderMembers, memberTokens]
    cases isFirst with
    | true => simp [tokens_quote, colon, value, tail]
    | false => simp [tokens_comma, tokens_quote, colon, value, tail]

theorem tokens_render (exact_value : IsExact v) : IsScanned v := by
  induction exact_value with
  | null =>
    intro rest _
    rw [render, toTokens]
    exact tokens_of_scan rfl rfl (by simp only [List.length_cons]; omega)
  | bool b =>
    intro rest _
    cases b <;> rw [render, toTokens] <;>
      exact tokens_of_scan rfl rfl (by simp only [List.length_cons]; omega)
  | nat n =>
    intro rest ends
    rw [render, toTokens]
    exact tokens_nat ends n
  | negative below =>
    intro rest ends
    rw [render, toTokens]
    exact tokens_negative ends below
  | string s =>
    intro rest _
    rw [render, toTokens]
    exact tokens_quote s rest
  | @array items _ each =>
    intro rest _
    have opened : tokens ('[' :: renderItems true items (']' :: rest)) =
        .openBracket :: tokens (renderItems true items (']' :: rest)) :=
      tokens_of_scan rfl rfl (Nat.le_refl _)
    have closed : tokens (']' :: rest) = .closeBracket :: tokens rest :=
      tokens_of_scan rfl rfl (Nat.le_refl _)
    rw [render, toTokens, opened, tokens_renderItems each true (.cons rfl (by decide)), closed]
    simp
  | @object members _ each =>
    intro rest _
    have opened : tokens ('\x7b' :: renderMembers true members ('\x7d' :: rest)) =
        .openBrace :: tokens (renderMembers true members ('\x7d' :: rest)) :=
      tokens_of_scan rfl rfl (Nat.le_refl _)
    have closed : tokens ('\x7d' :: rest) = .closeBrace :: tokens rest :=
      tokens_of_scan rfl rfl (Nat.le_refl _)
    rw [render, toTokens, opened, tokens_renderMembers each true (.cons rfl (by decide)), closed]
    simp

end Values

end Courier.Json

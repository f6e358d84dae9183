import Courier.Text.NormalTable

/-!
# Composed form

The composed form of a text: characters are taken apart into bases and marks, marks are put in
order of their classes, and what can be composed is composed. Characters with no composed form are
expected to have been replaced beforehand.
-/

namespace Courier.Text.Normal

/-- The class by which a mark is ordered; zero for all other characters. -/
def combiningClass (c : Char) : Nat := ((NormalTable.combiningClass.get? c).getD []).headD 0

/-- A Hangul syllable that is composed of jamo. -/
def isSyllable (n : Nat) : Bool := 0xAC00 ≤ n && n < 0xAC00 + 11172

/-- The parts of a character; at most `depth` steps are taken. -/
def takeApart : Nat → Char → List Char
  | 0, c => [c]
  | depth + 1, c =>
    if isSyllable c.toNat then
      let s := c.toNat - 0xAC00
      let tail := if s % 28 = 0 then [] else [Char.ofNat (0x11A7 + s % 28)]
      Char.ofNat (0x1100 + s / 588) :: Char.ofNat (0x1161 + s % 588 / 28) :: tail
    else
      match NormalTable.pairs.get? c with
      | some [a, b] => takeApart depth (Char.ofNat a) ++ [Char.ofNat b]
      | _ => [c]

/-- Puts a mark among ordered marks, after those of its class. -/
def placeMark (c : Char) : List Char → List Char
  | [] => [c]
  | d :: rest =>
    if combiningClass c < combiningClass d then c :: d :: rest else d :: placeMark c rest

/-- Orders the marks in every run of marks; `run` holds those of the current one. -/
def orderMarks (run : List Char) : List Char → List Char
  | [] => run
  | c :: rest =>
    if combiningClass c = 0 then run ++ c :: orderMarks [] rest
    else orderMarks (placeMark c run) rest

def composites : List ((Nat × Nat) × Nat) :=
  NormalTable.pairs.ranges.toList.flatMap fun r =>
    (List.range ((r.greatest - r.least) / r.step + 1)).filterMap fun i =>
      let n := r.least + i * r.step
      match NormalTable.pairs.get? (Char.ofNat n) with
      | some [a, b] => some ((a, b), n)
      | _ => none

def compose? (a b : Char) : Option Char :=
  let m := a.toNat
  let n := b.toNat
  if 0x1100 ≤ m ∧ m < 0x1113 ∧ 0x1161 ≤ n ∧ n < 0x1176 then
    some (Char.ofNat (0xAC00 + ((m - 0x1100) * 21 + (n - 0x1161)) * 28))
  else if isSyllable m ∧ (m - 0xAC00) % 28 = 0 ∧ 0x11A7 < n ∧ n < 0x11C3 then
    some (Char.ofNat (m + (n - 0x11A7)))
  else (composites.find? (·.1 == (m, n))).map fun e => Char.ofNat e.2

/-- Composes marks with the base before them. `skipped` holds the characters between them that did
not compose, last one first. -/
def composeFrom (base : Char) (skipped : List Char) : List Char → List Char
  | [] => base :: skipped.reverse
  | c :: rest =>
    let open' := match skipped with
      | [] => true
      | d :: _ => combiningClass d < combiningClass c && combiningClass d ≠ 0
    match if open' then compose? base c else none with
    | some composed => composeFrom composed skipped rest
    | none =>
      if combiningClass c = 0 then base :: (skipped.reverse ++ composeFrom c [] rest)
      else composeFrom base (c :: skipped) rest

def normalize (s : List Char) : List Char :=
  match orderMarks [] (s.flatMap (takeApart 4)) with
  | [] => []
  | c :: rest => composeFrom c [] rest

end Courier.Text.Normal

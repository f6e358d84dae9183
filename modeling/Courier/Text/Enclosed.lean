/-!
# Enclosed texts

A text between two marks, where a mark inside the text is doubled. `readEnclosed_enclose` says that
an enclosed text is read back whatever follows it, unless that is another mark.
-/

namespace Courier.Text

/-- A character inside marks. -/
def doubleMark (mark c : Char) : List Char := if c = mark then [c, c] else [c]

def enclose (mark : Char) (s : List Char) : List Char :=
  mark :: (s.flatMap (doubleMark mark) ++ [mark])

/-- Reads a text up to the mark that ends it, and gives what follows. -/
def readToMark (mark : Char) : List Char → Option (List Char × List Char)
  | [] => none
  | c :: rest =>
    if c = mark then
      match rest with
      | d :: more =>
        if d = mark then (readToMark mark more).map fun (s, r) => (mark :: s, r)
        else some ([], rest)
      | [] => some ([], [])
    else (readToMark mark rest).map fun (s, r) => (c :: s, r)

def readEnclosed (mark : Char) : List Char → Option (List Char × List Char)
  | [] => none
  | c :: rest => if c = mark then readToMark mark rest else none

theorem readToMark_end {mark : Char} {rest : List Char} (h : rest.head? ≠ some mark) :
    readToMark mark (mark :: rest) = some ([], rest) := by
  cases rest with
  | nil => simp [readToMark]
  | cons d more =>
    have hd : d ≠ mark := fun e => h (by simp [e])
    simp [readToMark, hd]

theorem readToMark_doubled (mark : Char) (s : List Char) :
    readToMark mark (mark :: mark :: s) =
      (readToMark mark s).map fun (t, r) => (mark :: t, r) := by
  simp [readToMark]

theorem readToMark_other {mark c : Char} (h : c ≠ mark) (s : List Char) :
    readToMark mark (c :: s) = (readToMark mark s).map fun (t, r) => (c :: t, r) := by
  cases s <;> simp [readToMark, h]

theorem readToMark_flatMap {mark : Char} {rest : List Char} (h : rest.head? ≠ some mark)
    (s : List Char) :
    readToMark mark (s.flatMap (doubleMark mark) ++ mark :: rest) = some (s, rest) := by
  induction s with
  | nil => exact readToMark_end h
  | cons c s ih =>
    by_cases hc : c = mark
    · have step := readToMark_doubled mark (s.flatMap (doubleMark mark) ++ mark :: rest)
      rw [ih] at step
      simpa [doubleMark, hc] using step
    · have step := readToMark_other hc (s.flatMap (doubleMark mark) ++ mark :: rest)
      rw [ih] at step
      simpa [doubleMark, hc] using step

theorem readEnclosed_enclose {mark : Char} {rest : List Char} (h : rest.head? ≠ some mark)
    (s : List Char) : readEnclosed mark (enclose mark s ++ rest) = some (s, rest) := by
  rw [enclose, List.cons_append, readEnclosed, if_pos rfl, List.append_assoc]
  exact readToMark_flatMap h s

end Courier.Text

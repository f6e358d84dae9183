import Courier.Proofs.Text.Utf8

/-!
# Places in a text

A place in a text is counted in bytes. Not every number is a place, since a character may take up
several bytes: `slice?_eq_some_iff` says which parts of a text lie between two places.
-/

namespace Courier.Text

open Utf8 (size)

variable {s before part after : List Char} {n first last : Nat}

/-- What stands before and after a place. There is none within a character or behind the end. -/
def splitAtByte? : Nat → List Char → Option (List Char × List Char)
  | 0, s => some ([], s)
  | _ + 1, [] => none
  | n + 1, c :: rest =>
    if c.utf8Size ≤ n + 1 then
      (splitAtByte? (n + 1 - c.utf8Size) rest).map fun (before, after) => (c :: before, after)
    else none

theorem splitAtByte?_eq_some_iff :
    splitAtByte? n s = some (before, after) ↔ s = before ++ after ∧ size before = n := by
  fun_induction splitAtByte? n s generalizing before after with
  | case1 s =>
    cases before with
    | nil => simp
    | cons c rest =>
      have wide := c.utf8Size_pos
      simp only [Option.some.injEq, Prod.mk.injEq, List.nil_eq, reduceCtorEq, false_and,
        Utf8.size_cons, false_iff, not_and]
      omega
  | case2 n =>
    cases before with
    | nil => simp
    | cons c rest => simp
  | case3 n c rest fits ih =>
    cases before with
    | nil => simp
    | cons d front =>
      simp only [Option.map_eq_some_iff, Prod.exists, Prod.mk.injEq, List.cons.injEq, ih,
        List.cons_append, Utf8.size_cons]
      constructor
      · rintro ⟨_, _, ⟨rfl, sized⟩, ⟨rfl, rfl⟩, rfl⟩
        exact ⟨⟨rfl, rfl⟩, by omega⟩
      · rintro ⟨⟨rfl, rfl⟩, sized⟩
        exact ⟨_, _, ⟨rfl, by omega⟩, ⟨rfl, rfl⟩, rfl⟩
  | case4 n c rest wide =>
    cases before with
    | nil => simp
    | cons d front =>
      simp only [reduceCtorEq, List.cons_append, List.cons.injEq, Utf8.size_cons, false_iff,
        not_and]
      rintro ⟨rfl, -⟩
      omega

/-- The part of a text between two places. -/
def slice? (s : List Char) (first last : Nat) : Option (List Char) :=
  (splitAtByte? last s).bind fun (before, _) => (splitAtByte? first before).map (·.2)

theorem slice?_eq_some_iff :
    slice? s first last = some part ↔
      ∃ before after, s = before ++ (part ++ after) ∧ size before = first ∧
        size (before ++ part) = last := by
  unfold slice?
  simp only [Option.bind_eq_some_iff, Option.map_eq_some_iff, Prod.exists, splitAtByte?_eq_some_iff]
  constructor
  · rintro ⟨_, after, ⟨rfl, sized⟩, before, _, ⟨rfl, begun⟩, rfl⟩
    exact ⟨before, after, List.append_assoc _ _ _, begun, sized⟩
  · rintro ⟨before, after, rfl, begun, sized⟩
    exact ⟨_, after, ⟨(List.append_assoc _ _ _).symm, sized⟩, before, part, ⟨rfl, begun⟩, rfl⟩

theorem slice?_tail (before part : List Char) :
    slice? (before ++ part) (size before) (size (before ++ part)) = some part :=
  slice?_eq_some_iff.mpr ⟨before, [], by rw [List.append_nil], rfl, rfl⟩

end Courier.Text

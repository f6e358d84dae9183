import Courier.Text.Search
import Mathlib.Data.List.Infix

/-!
# Where a text is found first

A text is cut where what is looked for occurs first: `cutAt?_eq_some_iff`. This holds of a needle
that cannot overlap itself, so that none of its occurrences begins before another and ends in it.
-/

namespace Courier.Text

variable {needle s before after : List Char}

theorem occursIn_iff : occursIn needle s = true ↔ needle <:+: s := by
  induction s with
  | nil => rw [occursIn, List.isEmpty_iff, List.infix_nil]
  | cons c rest ih =>
    rw [occursIn, Bool.or_eq_true, List.isPrefixOf_iff_prefix, ih, List.infix_cons_iff]

theorem cutAt?_eq_none_iff : cutAt? needle s = none ↔ ¬ needle <:+: s := by
  induction s with
  | nil => simp [cutAt?]
  | cons c rest ih =>
    rw [cutAt?, List.infix_cons_iff, ← List.isPrefixOf_iff_prefix]
    by_cases here : needle.isPrefixOf (c :: rest) = true
    · simp [here]
    · rw [if_neg here, Option.map_eq_none_iff, ih, or_iff_right here]

/-- No end of the needle is a beginning of it, but for the whole. -/
def IsUnbordered (needle : List Char) : Prop :=
  ∀ n < needle.length, 0 < n → ¬ needle.drop n <+: needle

instance : Decidable (IsUnbordered needle) :=
  inferInstanceAs (Decidable (∀ n < needle.length, 0 < n → ¬ needle.drop n <+: needle))

theorem isUnbordered_singleton (c : Char) : IsUnbordered [c] :=
  fun _ below above => absurd below (Nat.not_lt.mpr above)

theorem IsUnbordered.prefix_of_prefix (unbordered : IsUnbordered needle) (early : before ≠ [])
    (occurs : needle <+: before ++ (needle ++ after)) : needle <+: before := by
  obtain within | ⟨tail, split⟩ :=
    List.prefix_or_prefix_of_prefix occurs (List.prefix_append before (needle ++ after))
  · exact within
  rw [← split, List.prefix_append_right_inj, split] at occurs
  have short : tail.length ≤ needle.length := by
    rw [← split, List.length_append]
    exact Nat.le_add_left _ _
  have border : tail <+: needle :=
    List.prefix_of_prefix_length_le occurs (List.prefix_append needle after) short
  have dropped : needle.drop before.length = tail := by rw [← split, List.drop_left]
  cases tail with
  | nil => rw [← split, List.append_nil]
  | cons c tail =>
    have inside : before.length < needle.length := by
      rw [← split, List.length_append, List.length_cons]
      omega
    exact absurd (dropped ▸ border) (unbordered _ inside (List.length_pos_of_ne_nil early))

theorem cutAt?_of_first (unbordered : IsUnbordered needle) (first : ¬ needle <:+: before)
    (after : List Char) :
    cutAt? needle (before ++ (needle ++ after)) = some (before, after) := by
  induction before with
  | nil =>
    obtain ⟨c, tail, rfl⟩ : ∃ c tail, needle = c :: tail :=
      List.exists_cons_of_ne_nil fun empty => first (empty ▸ List.infix_rfl)
    rw [List.nil_append, List.cons_append, cutAt?, ← List.cons_append, if_pos, List.drop_left]
    exact List.isPrefixOf_iff_prefix.mpr (List.prefix_append _ _)
  | cons c rest ih =>
    have elsewhere : ¬ needle <+: c :: (rest ++ (needle ++ after)) := fun occurs =>
      first (unbordered.prefix_of_prefix (List.cons_ne_nil c rest) occurs).isInfix
    have later : ¬ needle <:+: rest := fun occurs => first (List.infix_cons occurs)
    rw [List.cons_append, cutAt?, if_neg (mt List.isPrefixOf_iff_prefix.mp elsewhere), ih later]
    rfl

theorem first_of_cutAt? (nonempty : needle ≠ []) (cut : cutAt? needle s = some (before, after)) :
    ¬ needle <:+: before := by
  induction s generalizing before with
  | nil =>
    rw [cutAt?, if_neg (by simpa using nonempty)] at cut
    cases cut
  | cons c rest ih =>
    have split := append_of_cutAt? cut
    rw [cutAt?] at cut
    split at cut
    · cases cut
      rwa [List.infix_nil]
    · next elsewhere =>
      obtain ⟨⟨front, back⟩, found, same⟩ := Option.map_eq_some_iff.mp cut
      cases same
      rw [List.infix_cons_iff, not_or]
      refine ⟨fun occurs => elsewhere ?_, ih found⟩
      rw [List.isPrefixOf_iff_prefix, split, List.append_assoc]
      exact occurs.trans (List.prefix_append _ _)

/-- A text is cut at the first occurrence. -/
theorem cutAt?_eq_some_iff (nonempty : needle ≠ []) (unbordered : IsUnbordered needle) :
    cutAt? needle s = some (before, after) ↔
      s = before ++ (needle ++ after) ∧ ¬ needle <:+: before := by
  constructor
  · intro cut
    exact ⟨(append_of_cutAt? cut).trans (List.append_assoc _ _ _), first_of_cutAt? nonempty cut⟩
  · rintro ⟨rfl, first⟩
    exact cutAt?_of_first unbordered first after

end Courier.Text

import Mathlib.Logic.ExistsUnique
import Courier.Proofs.Partition.Name
import Courier.Proofs.Text.Decimal

/-!
# The texts that are names

A day has one written form, so that a base table and a day have one name and a name has one base
table and one day. `names_are_canonical` says that these names are the texts that are read, and what
becomes of all others.
-/

namespace Courier

namespace Date

open Text Decimal

variable {sep : Char} {d : Date} {s : List Char}

/-- Years of up to four digits have no sign. -/
def signText (y : Int) : List Char :=
  if 0 ≤ y ∧ y ≤ 9999 then [] else if y < 0 then ['-'] else ['+']

/-- The text holds the year in four digits or more, the month and the day of the month in two each,
with the separator between them. -/
def IsText (sep : Char) (d : Date) (s : List Char) : Prop :=
  ∃ year month day, Spells 4 d.year.natAbs year ∧ Spells 2 d.month month ∧ Spells 2 d.day day ∧
    s = signText d.year ++ year ++ sep :: (month ++ sep :: day)

theorem yearText_eq (y : Int) : yearText y = signText y ++ padded 4 y.natAbs := by
  unfold yearText signText
  split
  · next short =>
    have same : y.toNat = y.natAbs := by omega
    rw [same, List.nil_append]
  · split <;> rfl

theorem isText_iff : IsText sep d s ↔ s = d.format sep := by
  constructor
  · rintro ⟨year, month, day, spelt_year, spelt_month, spelt_day, rfl⟩
    have year_eq := (spells_iff (by decide)).mp spelt_year
    have month_eq := (spells_iff (by decide)).mp spelt_month
    have day_eq := (spells_iff (by decide)).mp spelt_day
    rw [year_eq, month_eq, day_eq, format, yearText_eq]
  · rintro rfl
    refine ⟨_, _, _, spells_padded (by decide), spells_padded (by decide),
      spells_padded (by decide), ?_⟩
    rw [format, yearText_eq]

end Date

namespace DailyPartition

variable {s : List Char} {b n : String} {p : DailyPartition} {e : StorageError}

theorem spaced_iff : Spaced s ↔ ¬ ['_', '_'] <:+: s := by
  constructor
  · rintro spaced ⟨u, v, rfl⟩
    rw [List.append_assoc] at spaced
    exact not_spaced u v spaced
  · intro apart
    induction s with
    | nil => exact List.isChain_nil
    | cons c s ih =>
      rw [spaced_cons]
      constructor
      · rintro rfl next
        obtain ⟨rest, rfl⟩ := List.head?_eq_some_iff.mp next
        exact apart ⟨[], rest, rfl⟩
      · exact ih fun within => apart (within.trans (List.suffix_cons c s).isInfix)

theorem isBase_iff : IsBase b ↔
    b.toList ≠ [] ∧ ¬ ['_', '_'] <:+: b.toList ∧ b.toList.getLast? ≠ some '_' := by
  rw [← spaced_iff]
  exact ⟨fun base => ⟨base.nonempty, base.spaced, base.ends⟩,
    fun ⟨nonempty, spaced, ends⟩ => ⟨nonempty, spaced, ends⟩⟩

def IsName (p : DailyPartition) (n : String) : Prop :=
  ∃ day, p.day.IsText '_' day ∧ n.toList = p.base.toList ++ '_' :: '_' :: day

theorem isName_iff : IsName p n ↔ p.name = n := by
  constructor
  · rintro ⟨day, text, same⟩
    rw [Date.isText_iff.mp text, ← toList_name] at same
    exact (String.toList_inj.mp same).symm
  · rintro rfl
    exact ⟨_, Date.isText_iff.mpr rfl, toList_name p⟩

theorem error_of_parse (fails : parse n = .error e) : e = .invalidPartitionName n := by
  unfold parse at fails
  split at fails
  · split at fails
    · dsimp only at fails
      split at fails
      · cases fails
      · cases fails
        rfl
    · cases fails
      rfl
  · cases fails
    rfl

theorem parse_error : parse n = .error (.invalidPartitionName n) ↔ ¬ ∃ p, parse n = .ok p := by
  cases read : parse n with
  | ok p => simp
  | error e => simp [error_of_parse read]

/-- No two partitions share a name. A text is read exactly if it is the name of a partition whose
base is not empty, has no two underscores in a row and does not end in one; it is read as that
partition, which is the only one. Every other text is refused as a whole. -/
theorem names_are_canonical :
    Function.Injective name ∧ (∀ p : DailyPartition, p.IsName p.name) ∧
    ∀ n : String,
      (∀ p, parse n = .ok p ↔
        p.base.toList ≠ [] ∧ ¬ ['_', '_'] <:+: p.base.toList ∧ p.base.toList.getLast? ≠ some '_' ∧
          p.IsName n) ∧
      ((∃ p, parse n = .ok p) ↔ ∃! p, parse n = .ok p ∧ p.name = n) ∧
      (parse n = .error (.invalidPartitionName n) ↔
        ¬ ∃ p : DailyPartition, p.base.toList ≠ [] ∧ ¬ ['_', '_'] <:+: p.base.toList ∧
          p.base.toList.getLast? ≠ some '_' ∧ p.IsName n) := by
  have accepted (n : String) (p : DailyPartition) : parse n = .ok p ↔
      p.base.toList ≠ [] ∧ ¬ ['_', '_'] <:+: p.base.toList ∧ p.base.toList.getLast? ≠ some '_' ∧
        p.IsName n := by
    rw [parse_ok, isBase_iff, isName_iff, and_assoc, and_assoc]
  refine ⟨fun p q => name_injective, fun p => isName_iff.mpr rfl, fun n => ⟨accepted n, ?_, ?_⟩⟩
  · constructor
    · rintro ⟨p, read⟩
      have named := (parse_ok.mp read).2
      exact ⟨p, ⟨read, named⟩, fun q other => name_injective (other.2.trans named.symm)⟩
    · rintro ⟨p, ⟨read, -⟩, -⟩
      exact ⟨p, read⟩
  · rw [parse_error]
    simp only [accepted]

/-- A base table that ends in an underscore, or a year that is written with a plus sign although it
has four digits, makes no name. -/
example : parse "log___2020_01_01" = .error (.invalidPartitionName "log___2020_01_01") ∧
    parse "log__+2020_01_01" = .error (.invalidPartitionName "log__+2020_01_01") := by
  decide +kernel

end DailyPartition

end Courier

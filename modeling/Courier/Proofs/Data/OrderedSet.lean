import Courier.Data.OrderedSet
import Mathlib.Data.List.Dedup
import Mathlib.Data.List.Sort

/-!
# Ordered sets and their members

An ordered set is determined by its members, which are all different; there are as many of them as a
list with the same members has without its repetitions.
-/

namespace Courier.OrderedSet

variable {α : Type} [LT α] [StrictOrder α] {s t : OrderedSet α} {l : List α}

omit [StrictOrder α] in
theorem isEmpty_iff_size : s.isEmpty = true ↔ s.size = 0 := by
  rw [isEmpty, size, List.isEmpty_iff, List.length_eq_zero_iff]

theorem eq_of_mem_iff (same : ∀ a, a ∈ s ↔ a ∈ t) : s = t := by
  have irreflexive : Std.Irrefl (fun a b : α => a < b) := ⟨StrictOrder.irrefl⟩
  have antisymmetric : Std.Antisymm (fun a b : α => a < b) :=
    ⟨fun a b less more => absurd (StrictOrder.trans less more) (StrictOrder.irrefl a)⟩
  exact OrderedSet.ext' (s.increasing.eq_of_mem_iff t.increasing same)

theorem nodup_toList (s : OrderedSet α) : s.toList.Nodup := by
  refine s.increasing.imp fun {a b} less equal => ?_
  rw [equal] at less
  exact StrictOrder.irrefl b less

theorem size_eq_dedup [DecidableEq α] (same : ∀ x, x ∈ s ↔ x ∈ l) : s.size = l.dedup.length := by
  refine List.Perm.length_eq
    ((List.perm_ext_iff_of_nodup s.nodup_toList l.nodup_dedup).mpr fun x => ?_)
  rw [List.mem_dedup]
  exact same x

end Courier.OrderedSet

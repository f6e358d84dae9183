import Courier.Data.OrderedSet

/-!
# Plans of reconciliation

What has to be added to and removed from a set to make it another. `mem_apply_between` says that
carrying out the plan gives the desired set.
-/

namespace Courier

structure Plan (α : Type) [LT α] where
  add : OrderedSet α
  remove : OrderedSet α

namespace Plan

variable {α : Type} [LT α] [DecidableEq α]

/-- The plan that leads from the current set to the desired one. -/
def between (current desired : OrderedSet α) : Plan α :=
  ⟨desired.diff current, current.diff desired⟩

omit [DecidableEq α] in
def isEmpty (p : Plan α) : Bool := p.add.isEmpty && p.remove.isEmpty

def apply [DecidableLT α] [StrictOrder α] (p : Plan α) (s : OrderedSet α) : OrderedSet α :=
  p.add.union (s.diff p.remove)

theorem mem_apply_between [DecidableLT α] [StrictOrder α] {a : α} {current desired : OrderedSet α} :
    a ∈ (between current desired).apply current ↔ a ∈ desired := by
  simp only [apply, between, OrderedSet.mem_union, OrderedSet.mem_diff]
  by_cases h : a ∈ current <;> by_cases g : a ∈ desired <;> simp [h, g]

end Plan

end Courier

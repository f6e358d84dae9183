/-!
# The size of the worker pool

A pool has a number of workers for each processor, at least one worker in all, and no more than a
word can count.
-/

namespace Courier.Workers

def maxWord : Nat := 18446744073709551615

/-- Workers for each processor, if nothing else is chosen. -/
def defaultMultiplier : Nat := 4

def sizeFor (processors multiplier : Nat) : Nat := max (min (processors * multiplier) maxWord) 1

def defaultSize (processors : Nat) : Nat := sizeFor processors defaultMultiplier

theorem one_le_sizeFor (processors multiplier : Nat) : 1 ≤ sizeFor processors multiplier :=
  Nat.le_max_right _ _

end Courier.Workers

/-!
# Ordered sets

A finite set held as its members in increasing order, so that equal sets are equal values and every
walk over a set is in order. `mem_ofList` and `mem_diff` say what the operations contain.
-/

namespace Courier

/-- A strict total order, as a set needs it of its members. -/
class StrictOrder (α : Type) [LT α] : Prop where
  irrefl : ∀ a : α, ¬ a < a
  trans : ∀ {a b c : α}, a < b → b < c → a < c
  connex : ∀ a b : α, a < b ∨ a = b ∨ b < a

instance : StrictOrder String where
  irrefl := String.lt_irrefl
  trans := String.lt_trans
  connex a b := by
    by_cases h : a < b
    · exact .inl h
    · by_cases g : b < a
      · exact .inr (.inr g)
      · exact .inr (.inl (String.le_antisymm g h))

/-- The members of a finite set in increasing order. -/
structure OrderedSet (α : Type) [LT α] where
  toList : List α
  increasing : toList.Pairwise (· < ·)

namespace OrderedSet

variable {α : Type} [LT α]

@[ext] theorem ext' {s t : OrderedSet α} (h : s.toList = t.toList) : s = t := by
  cases s; cases t; cases h; rfl

instance : Membership α (OrderedSet α) := ⟨fun s a => a ∈ s.toList⟩

instance [DecidableEq α] : DecidableEq (OrderedSet α) := fun s t =>
  decidable_of_iff (s.toList = t.toList) ⟨ext', fun h => h ▸ rfl⟩

instance [DecidableEq α] (a : α) (s : OrderedSet α) : Decidable (a ∈ s) :=
  inferInstanceAs (Decidable (a ∈ s.toList))

theorem mem_toList {a : α} {s : OrderedSet α} : a ∈ s.toList ↔ a ∈ s := Iff.rfl

def empty : OrderedSet α := ⟨[], .nil⟩

instance : Inhabited (OrderedSet α) := ⟨empty⟩

def isEmpty (s : OrderedSet α) : Bool := s.toList.isEmpty

def size (s : OrderedSet α) : Nat := s.toList.length

def filter (p : α → Bool) (s : OrderedSet α) : OrderedSet α :=
  ⟨s.toList.filter p, s.increasing.filter p⟩

def diff [DecidableEq α] (s t : OrderedSet α) : OrderedSet α := s.filter (· ∉ t.toList)

variable [DecidableLT α]

def insertList (a : α) : List α → List α
  | [] => [a]
  | b :: rest =>
    if a < b then a :: b :: rest else if b < a then b :: insertList a rest else b :: rest

variable [StrictOrder α]

theorem mem_insertList {a b : α} {s : List α} : b ∈ insertList a s ↔ b = a ∨ b ∈ s := by
  induction s with
  | nil => simp [insertList]
  | cons c rest ih =>
    rw [insertList]
    split
    · simp
    · split
      · simp only [List.mem_cons, ih]; grind
      · next h g =>
        have : a = c := by
          rcases StrictOrder.connex a c with h' | h' | h'
          · exact absurd h' h
          · exact h'
          · exact absurd h' g
        simp [this]

theorem insertList_increasing {a : α} {s : List α} (h : s.Pairwise (· < ·)) :
    (insertList a s).Pairwise (· < ·) := by
  induction s with
  | nil => simp [insertList]
  | cons c rest ih =>
    rw [List.pairwise_cons] at h
    rw [insertList]
    split
    · next hac =>
      refine List.pairwise_cons.2 ⟨fun b hb => ?_, List.pairwise_cons.2 h⟩
      rcases List.mem_cons.1 hb with rfl | hb
      · exact hac
      · exact StrictOrder.trans hac (h.1 b hb)
    · split
      · next hca =>
        refine List.pairwise_cons.2 ⟨fun b hb => ?_, ih h.2⟩
        rcases mem_insertList.1 hb with rfl | hb
        · exact hca
        · exact h.1 b hb
      · exact List.pairwise_cons.2 h

def insert (a : α) (s : OrderedSet α) : OrderedSet α :=
  ⟨insertList a s.toList, insertList_increasing s.increasing⟩

def ofList (l : List α) : OrderedSet α := l.foldr insert empty

def union (s t : OrderedSet α) : OrderedSet α := s.toList.foldr insert t

theorem mem_insert {a b : α} {s : OrderedSet α} : b ∈ s.insert a ↔ b = a ∨ b ∈ s := mem_insertList

theorem mem_ofList {a : α} {l : List α} : a ∈ ofList l ↔ a ∈ l := by
  induction l with
  | nil => exact Iff.rfl
  | cons b l ih =>
    rw [show ofList (b :: l) = (ofList l).insert b from rfl, mem_insert, ih, List.mem_cons]

theorem mem_union {a : α} {s t : OrderedSet α} : a ∈ s.union t ↔ a ∈ s ∨ a ∈ t := by
  rw [union, ← mem_toList (s := s)]
  induction s.toList with
  | nil => simp
  | cons b l ih => rw [List.foldr_cons, mem_insert, ih, List.mem_cons, or_assoc]

omit [DecidableLT α] [StrictOrder α] in
theorem mem_diff [DecidableEq α] {a : α} {s t : OrderedSet α} : a ∈ s.diff t ↔ a ∈ s ∧ a ∉ t := by
  rw [← mem_toList, diff, filter, List.mem_filter]
  simp only [decide_eq_true_eq]
  exact Iff.rfl

end OrderedSet

end Courier

import Courier.Data.OrderedSet

/-!
# Dictionaries

A finite map from texts, held as its entries in increasing order of their keys, so that equal maps
are equal values. `get?_insert` says that the last value written for a key is the one that is read.
-/

namespace Courier

/-- A finite map from texts. -/
structure Dict (α : Type) where
  entries : List (String × α)
  increasing : entries.Pairwise (·.1 < ·.1)

namespace Dict

variable {α β : Type}

@[ext] theorem ext' {s t : Dict α} (h : s.entries = t.entries) : s = t := by
  cases s; cases t; cases h; rfl

instance [DecidableEq α] : DecidableEq (Dict α) := fun s t =>
  decidable_of_iff (s.entries = t.entries) ⟨ext', fun h => h ▸ rfl⟩

def empty : Dict α := ⟨[], .nil⟩

instance : Inhabited (Dict α) := ⟨empty⟩

def isEmpty (d : Dict α) : Bool := d.entries.isEmpty

def insertList (key : String) (v : α) : List (String × α) → List (String × α)
  | [] => [(key, v)]
  | (k, w) :: rest =>
    if key < k then (key, v) :: (k, w) :: rest
    else if k < key then (k, w) :: insertList key v rest
    else (key, v) :: rest

theorem key_mem_insertList {key k : String} {v : α} {l : List (String × α)} :
    k ∈ (insertList key v l).map (·.1) → k = key ∨ k ∈ l.map (·.1) := by
  induction l with
  | nil => simp [insertList]
  | cons e rest ih =>
    obtain ⟨k', w⟩ := e
    rw [insertList]
    split
    · simp
    · split
      · simp only [List.map_cons, List.mem_cons]; grind
      · simp only [List.map_cons, List.mem_cons]; grind

theorem insertList_increasing {key : String} {v : α} {l : List (String × α)}
    (h : l.Pairwise (·.1 < ·.1)) : (insertList key v l).Pairwise (·.1 < ·.1) := by
  induction l with
  | nil => simp [insertList]
  | cons e rest ih =>
    obtain ⟨k, w⟩ := e
    rw [List.pairwise_cons] at h
    rw [insertList]
    split
    · next hlt =>
      refine List.pairwise_cons.2 ⟨fun b hb => ?_, List.pairwise_cons.2 h⟩
      rcases List.mem_cons.1 hb with rfl | hb
      · exact hlt
      · exact String.lt_trans hlt (h.1 b hb)
    · split
      · next hgt =>
        refine List.pairwise_cons.2 ⟨fun b hb => ?_, ih h.2⟩
        rcases key_mem_insertList (List.mem_map_of_mem hb) with hk | hk
        · exact hk ▸ hgt
        · obtain ⟨x, hx, hxk⟩ := List.mem_map.1 hk
          exact hxk ▸ h.1 x hx
      · next hlt hgt =>
        have : key = k := String.le_antisymm hgt hlt
        exact this ▸ List.pairwise_cons.2 h

def insert (d : Dict α) (key : String) (v : α) : Dict α :=
  ⟨insertList key v d.entries, insertList_increasing d.increasing⟩

/-- The dictionary of a list of entries; of several with one key the last counts. -/
def ofList (l : List (String × α)) : Dict α := l.foldl (fun d (k, v) => d.insert k v) empty

def get? (d : Dict α) (key : String) : Option α := (d.entries.find? (·.1 == key)).map (·.2)

def keys (d : Dict α) : List String := d.entries.map (·.1)

def keySet (d : Dict α) : OrderedSet String :=
  ⟨d.keys, List.pairwise_map.2 d.increasing⟩

def map (f : α → β) (d : Dict α) : Dict β :=
  ⟨d.entries.map fun (k, v) => (k, f v), List.pairwise_map.2 d.increasing⟩

theorem find?_insertList {key k : String} {v : α} {l : List (String × α)}
    (h : l.Pairwise (·.1 < ·.1)) :
    (insertList key v l).find? (·.1 == k) =
      if key = k then some (key, v) else l.find? (·.1 == k) := by
  induction l with
  | nil => by_cases hk : key = k <;> simp [insertList, hk]
  | cons e rest ih =>
    obtain ⟨k', w⟩ := e
    rw [List.pairwise_cons] at h
    rw [insertList]
    split
    · by_cases hk : key = k <;> simp [hk]
    · split
      · next hgt =>
        by_cases hk : key = k
        · subst hk
          have : (k' == key) = false := by
            simp only [beq_eq_false_iff_ne]; rintro rfl; exact String.lt_irrefl _ hgt
          simp [this, ih h.2]
        · simp [List.find?_cons, ih h.2, hk]
      · next hlt hgt =>
        have : key = k' := String.le_antisymm hgt hlt
        subst this
        by_cases hk : key = k <;> simp [hk]

theorem get?_insert (d : Dict α) (key k : String) (v : α) :
    (d.insert key v).get? k = if key = k then some v else d.get? k := by
  simp only [get?, insert, find?_insertList d.increasing]
  split <;> simp

end Dict

end Courier

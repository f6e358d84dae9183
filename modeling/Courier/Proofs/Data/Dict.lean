import Courier.Data.Dict
import Mathlib.Data.List.Nodup

/-!
# Entries in any order

A dictionary is made of its entries in whatever order they come, as long as each key comes once.
Of entries with one key only the last is kept, but nothing comes into a dictionary that is not among
the entries it is made of.
-/

namespace Courier.Dict

variable {α : Type} {key : String} {v : α} {l : List (String × α)} {d : Dict α}

theorem insertList_perm (new : key ∉ l.map (·.1)) : (insertList key v l).Perm ((key, v) :: l) := by
  induction l with
  | nil => exact .refl _
  | cons e rest ih =>
    obtain ⟨k, w⟩ := e
    simp only [List.map_cons, List.mem_cons, not_or] at new
    rw [insertList]
    split
    · exact .refl _
    · next not_below =>
      split
      · exact ((ih new.2).cons (k, w)).trans (.swap (key, v) (k, w) rest)
      · next not_above => exact absurd (String.le_antisymm not_above not_below) new.1

theorem foldl_insert_perm (distinct : (l.map (·.1) ++ d.entries.map (·.1)).Nodup) :
    (l.foldl (fun d (k, v) => d.insert k v) d).entries.Perm (l ++ d.entries) := by
  induction l generalizing d with
  | nil => exact .refl _
  | cons e rest ih =>
    obtain ⟨k, v⟩ := e
    rw [List.map_cons, List.cons_append, List.nodup_cons, List.mem_append, not_or] at distinct
    obtain ⟨⟨new_rest, new⟩, distinct⟩ := distinct
    have inserted : (d.insert k v).entries.Perm ((k, v) :: d.entries) := insertList_perm new
    have keys := inserted.map (·.1)
    have still : (rest.map (·.1) ++ (d.insert k v).entries.map (·.1)).Nodup := by
      refine ((keys.append_left _).trans List.perm_middle).nodup_iff.mpr ?_
      rw [List.nodup_cons, List.mem_append, not_or]
      exact ⟨⟨new_rest, new⟩, distinct⟩
    exact ((ih still).trans (inserted.append_left rest)).trans List.perm_middle

theorem keys_nodup (d : Dict α) : (d.entries.map (·.1)).Nodup := by
  refine List.pairwise_map.mpr (d.increasing.imp ?_)
  rintro ⟨k, _⟩ ⟨l, _⟩ below rfl
  exact String.lt_irrefl _ below

theorem ofList_of_perm (perm : d.entries.Perm l) : ofList l = d := by
  have distinct : (l.map (·.1) ++ (empty : Dict α).entries.map (·.1)).Nodup := by
    rw [show (empty : Dict α).entries.map (·.1) = [] from rfl, List.append_nil]
    exact (perm.map _).nodup_iff.mp d.keys_nodup
  have same := (foldl_insert_perm distinct).trans (.of_eq (List.append_nil l))
  have back := same.trans perm.symm
  refine ext' (List.Perm.eq_of_pairwise ?_ (ofList l).increasing d.increasing back)
  exact fun a b _ _ below above => absurd (String.lt_trans below above) (String.lt_irrefl _)

theorem mem_entries_iff : (key, v) ∈ d.entries ↔ d.get? key = some v := by
  unfold get?
  constructor
  · intro mem
    cases found : d.entries.find? (·.1 == key) with
    | none => exact absurd (beq_self_eq_true key) (List.find?_eq_none.mp found _ mem)
    | some e =>
      have same : e.1 = key := by simpa using List.find?_some found
      have only : e = (key, v) :=
        List.inj_on_of_nodup_map d.keys_nodup (List.mem_of_find?_eq_some found) mem same
      rw [only, Option.map_some]
  · intro got
    obtain ⟨e, found, rfl⟩ := Option.map_eq_some_iff.mp got
    have same : e.1 = key := by simpa using List.find?_some found
    exact same ▸ List.mem_of_find?_eq_some found

/-! ### What a dictionary is made of -/

theorem mem_insertList {e : String × α} (mem : e ∈ insertList key v l) : e = (key, v) ∨ e ∈ l := by
  induction l with
  | nil => exact .inl (List.mem_singleton.mp mem)
  | cons first rest ih =>
    obtain ⟨k, w⟩ := first
    rw [insertList] at mem
    split at mem
    · exact List.mem_cons.mp mem
    · split at mem
      · obtain rfl | mem := List.mem_cons.mp mem
        · exact .inr List.mem_cons_self
        · exact (ih mem).imp_right (List.mem_cons_of_mem _)
      · exact (List.mem_cons.mp mem).imp_right (List.mem_cons_of_mem _)

theorem mem_foldl_insert {e : String × α}
    (mem : e ∈ (l.foldl (fun d (k, v) => d.insert k v) d).entries) : e ∈ l ∨ e ∈ d.entries := by
  induction l generalizing d with
  | nil => exact .inr mem
  | cons first rest ih =>
    obtain later | inserted := ih mem
    · exact .inl (List.mem_cons_of_mem _ later)
    · obtain rfl | before := mem_insertList inserted
      · exact .inl List.mem_cons_self
      · exact .inr before

theorem mem_of_mem_ofList {e : String × α} (mem : e ∈ (ofList l).entries) : e ∈ l :=
  (mem_foldl_insert mem).resolve_right List.not_mem_nil

end Courier.Dict

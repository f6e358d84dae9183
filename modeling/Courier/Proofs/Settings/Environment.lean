import Courier.Settings.Variable
import Mathlib.Data.List.Nodup

/-!
# What an environment says about a setting

In an orderly environment no two variables go by one name and no name has a point. There the value
of a setting is what the one variable of its name reads as: `value?_eq_some_iff`.
-/

namespace Courier.Variable

open Text

/-! ### Names without points -/

theorem splitAt_of_not_mem {c : Char} {s : List Char} (absent : c ∉ s) : splitAt c s = [s] := by
  induction s with
  | nil => rfl
  | cons d rest ih =>
    rw [List.mem_cons, not_or] at absent
    rw [splitAt, if_neg (Ne.symm absent.1), ih absent.2]

theorem eq_point_of_toLower {c : Char} (lowered : c.toLower = '.') : c = '.' := by
  unfold Char.toLower at lowered
  split at lowered
  · next upper =>
    -- The small letters lie behind the point.
    have value := congrArg (·.val.toNat) lowered
    have least : 65 ≤ c.toNat := upper.1
    have most : c.toNat ≤ 90 := upper.2
    simp at value
    omega
  · exact lowered

theorem mem_of_mem_trimBlanks {c : Char} {s : List Char} (mem : c ∈ trimBlanks s) : c ∈ s := by
  have trimmed : c ∈ skipBlanks (skipBlanks s).reverse := List.mem_reverse.mp mem
  have front : c ∈ skipBlanks s :=
    List.mem_reverse.mp ((List.dropWhile_sublist _).subset trimmed)
  exact (List.dropWhile_sublist _).subset front

theorem point_not_mem_key {name : String} (plain : '.' ∉ name.toList) :
    '.' ∉ (key name).toList := by
  rw [key, String.toList_ofList]
  intro mem
  obtain ⟨c, trimmed, lowered⟩ := List.mem_map.mp mem
  rw [eq_point_of_toLower lowered] at trimmed
  exact plain (mem_of_mem_trimBlanks trimmed)

theorem target?_of_plain {name : String} (plain : '.' ∉ name.toList) :
    target? name = if key name = "" then none else some (key name, false) := by
  unfold target?
  rw [splitAt_of_not_mem (point_not_mem_key plain)]
  by_cases empty : key name = ""
  · simp [empty]
  · have some : (key name).toList ≠ [] := by simpa using empty
    simp [empty]

/-! ### Orderly environments -/

structure IsOrderly (environment : Dict String) : Prop where
  distinct : (environment.entries.map fun e => key e.1).Nodup
  plain : ∀ e ∈ environment.entries, '.' ∉ e.1.toList

theorem getLast?_filterMap {α β γ : Type} [DecidableEq β] {k : α → β} {f : α → γ} {b : β}
    {l : List α} (distinct : (l.map k).Nodup) :
    (l.filterMap fun a => if k a = b then some (f a) else none).getLast? =
      (l.find? (k · = b)).map f := by
  induction l with
  | nil => rfl
  | cons a rest ih =>
    rw [List.map_cons, List.nodup_cons] at distinct
    by_cases here : k a = b
    · have others : rest.filterMap (fun a => if k a = b then some (f a) else none) = [] := by
        refine List.filterMap_eq_nil_iff.mpr fun c member => if_neg fun same => distinct.1 ?_
        exact List.mem_map.mpr ⟨c, member, same.trans here.symm⟩
      simp [here, others]
    · simp [here, ih distinct.2]

variable {environment : Dict String} {setting : String}

theorem IsOrderly.value?_eq (orderly : IsOrderly environment) (named : setting ≠ "") :
    value? environment setting =
      (environment.entries.find? (key ·.1 = setting)).map fun e => read e.2 := by
  rw [← getLast?_filterMap orderly.distinct, value?]
  refine congrArg List.getLast? (List.filterMap_congr fun e member => ?_)
  obtain ⟨name, text⟩ := e
  dsimp only
  rw [target?_of_plain (orderly.plain _ member)]
  by_cases empty : key name = ""
  · have other : key name ≠ setting := fun same => named (same.symm.trans empty)
    rw [if_pos empty, if_neg other]
  · rw [if_neg empty]
    rfl

theorem IsOrderly.value?_of_mem (orderly : IsOrderly environment) (named : setting ≠ "")
    {name text : String} (set : (name, text) ∈ environment.entries) (same : key name = setting) :
    value? environment setting = some (read text) := by
  rw [orderly.value?_eq named]
  cases found : environment.entries.find? (key ·.1 = setting) with
  | none => exact absurd same (by simpa using List.find?_eq_none.mp found _ set)
  | some e =>
    have known : key e.1 = setting := by simpa using List.find?_some found
    have only : e = (name, text) := List.inj_on_of_nodup_map orderly.distinct
      (List.mem_of_find?_eq_some found) set (known.trans same.symm)
    rw [only, Option.map_some]

theorem IsOrderly.value?_of_unset (orderly : IsOrderly environment) (named : setting ≠ "")
    (unset : ∀ e ∈ environment.entries, key e.1 ≠ setting) :
    value? environment setting = none := by
  have none : environment.entries.find? (key ·.1 = setting) = .none :=
    List.find?_eq_none.mpr fun e member => by simpa using unset e member
  rw [orderly.value?_eq named, none, Option.map_none]

end Courier.Variable

import Courier.Proofs.Calendar.DateText
import Courier.Proofs.Database.Grammar

/-!
# Changes of the tables are read as they are meant

The text of a statement that creates or drops partitions is read back as the change that it was
written for, whatever the names of the tables are. `outside_create` and `outside_drop` say what
such a text holds besides names and dates.
-/

namespace Courier

namespace Text

variable {mark : Char} {s : List Char}

theorem enclose_of_not_mem (plain : mark ∉ s) : enclose mark s = mark :: (s ++ [mark]) := by
  have same : s.flatMap (doubleMark mark) = s := by
    induction s with
    | nil => rfl
    | cons c s ih =>
      have other : c ≠ mark := fun same => plain (same ▸ List.mem_cons_self)
      rw [List.flatMap_cons, ih fun member => plain (List.mem_cons_of_mem c member), doubleMark,
        if_neg other, List.singleton_append]
  rw [enclose, same]

end Text

namespace TableChange

open Text

theorem toList_quoteName (name : String) :
    (quoteName name).toList = enclose nameMark name.toList := String.toList_ofList

/-! ### Creating -/

theorem toList_create {low high : String} (plain_low : dateMark ∉ low.toList)
    (plain_high : dateMark ∉ high.toList) (name base : String) :
    (create name base low high).text.toList = "CREATE TABLE IF NOT EXISTS ".toList ++
      (enclose nameMark name.toList ++ (" PARTITION OF ".toList ++
        (enclose nameMark base.toList ++ (" FOR VALUES FROM (".toList ++
          (enclose dateMark low.toList ++ (") TO (".toList ++
            (enclose dateMark high.toList ++ [')']))))))) := by
  have opening : " FOR VALUES FROM ('".toList = " FOR VALUES FROM (".toList ++ [dateMark] := rfl
  have middle : "') TO ('".toList = dateMark :: (") TO (".toList ++ [dateMark]) := rfl
  have closing : "')".toList = [dateMark, ')'] := rfl
  unfold text
  simp only [String.toList_append, toList_quoteName, opening, middle, closing,
    enclose_of_not_mem plain_low, enclose_of_not_mem plain_high]
  simp only [List.append_assoc, List.cons_append, List.nil_append]

theorem spells_create {low high : String} (plain_low : dateMark ∉ low.toList)
    (plain_high : dateMark ∉ high.toList) (name base : String) :
    Spells (create name base low high).text.toList (create name base low high) := by
  rw [toList_create plain_low plain_high]
  refine .create (encloses_enclose ?_ _) (encloses_enclose ?_ _) (encloses_enclose ?_ _)
    (encloses_enclose ?_ _)
  · show some ' ' ≠ some nameMark
    decide
  · show some ' ' ≠ some nameMark
    decide
  · show some ')' ≠ some dateMark
    decide
  · show some ')' ≠ some dateMark
    decide

theorem read?_create {low high : String} (plain_low : dateMark ∉ low.toList)
    (plain_high : dateMark ∉ high.toList) (name base : String) :
    read? (create name base low high).text.toList = some (create name base low high) :=
  read?_eq_some_iff.mpr (spells_create plain_low plain_high name base)

/-! ### Dropping -/

theorem lists_intercalate {names : List String} (some_names : names ≠ []) :
    Lists (", ".intercalate (names.map quoteName)).toList names := by
  induction names with
  | nil => exact absurd rfl some_names
  | cons name others ih =>
    cases others with
    | nil =>
      rw [List.map_singleton, String.intercalate_singleton, toList_quoteName]
      have stands : Encloses nameMark (enclose nameMark name.toList ++ []) name.toList [] :=
        encloses_enclose (by decide) _
      rw [List.append_nil] at stands
      exact .last stands
    | cons next more =>
      rw [List.map_cons, List.map_cons, String.intercalate_cons_cons, String.toList_append,
        String.toList_append, toList_quoteName, List.append_assoc]
      refine .more (encloses_enclose ?_ _) (ih (List.cons_ne_nil _ _))
      show some ',' ≠ some nameMark
      decide

theorem read?_drop {names : List String} (some_names : names ≠ []) :
    read? (drop names).text.toList = some (drop names) := by
  unfold text
  rw [read?_eq_some_iff, String.toList_append]
  exact .drop (lists_intercalate some_names)

theorem text_drop_injective : Function.Injective fun names => (drop names).text := by
  have read (names : List String) :
      read? (drop names).text.toList = if names = [] then none else some (drop names) := by
    split
    · next empty =>
      rw [empty]
      decide +kernel
    · next some_names => exact read?_drop some_names
  intro names others same
  have same : (drop names).text = (drop others).text := same
  have alike := read names
  rw [same, read others] at alike
  split at alike <;> split at alike
  · next empty empty' => rw [empty, empty']
  · cases alike
  · cases alike
  · cases alike
    rfl

/-! ### Outside of the marks -/

def IsMark (c : Char) : Prop := c = nameMark ∨ c = dateMark

instance : DecidablePred IsMark := fun c =>
  inferInstanceAs (Decidable (c = nameMark ∨ c = dateMark))

/-- What a text holds outside of its marks, where the first argument is the mark that is open. There
is no answer if a mark is left open at the end. -/
def outside : Option Char → List Char → Option (List Char)
  | none, [] => some []
  | some _, [] => none
  | none, c :: s => if IsMark c then outside (some c) s else (outside none s).map (c :: ·)
  | some mark, c :: s => if c = mark then outside none s else outside (some mark) s

variable {mark : Char}

theorem outside_flatMap (is_mark : IsMark mark) (s rest : List Char) :
    outside (some mark) (s.flatMap (doubleMark mark) ++ mark :: rest) = outside none rest := by
  induction s with
  | nil => rw [List.flatMap_nil, List.nil_append, outside, if_pos rfl]
  | cons c s ih =>
    by_cases same : c = mark
    · -- The first of two marks closes and the second one opens again.
      rw [List.flatMap_cons, doubleMark, if_pos same, same]
      show outside (some mark) (mark :: mark :: (s.flatMap (doubleMark mark) ++ mark :: rest)) = _
      rw [outside, if_pos rfl, outside, if_pos is_mark, ih]
    · rw [List.flatMap_cons, doubleMark, if_neg same]
      show outside (some mark) (c :: (s.flatMap (doubleMark mark) ++ mark :: rest)) = _
      rw [outside, if_neg same, ih]

theorem outside_enclose (is_mark : IsMark mark) (s rest : List Char) :
    outside none (enclose mark s ++ rest) = outside none rest := by
  rw [enclose, List.cons_append, outside, if_pos is_mark, List.append_assoc]
  exact outside_flatMap is_mark s rest

theorem outside_append (plain : s.all (fun c => ¬ IsMark c) = true) (rest : List Char) :
    outside none (s ++ rest) = (outside none rest).map (s ++ ·) := by
  induction s with
  | nil => simp
  | cons c s ih =>
    rw [List.all_cons, Bool.and_eq_true, decide_eq_true_eq] at plain
    rw [List.cons_append, outside, if_neg plain.1, ih plain.2, Option.map_map]
    rfl

/-- What a text that drops some tables holds besides their names. -/
def dropOutline (n : Nat) : String :=
  "DROP TABLE IF EXISTS " ++ ", ".intercalate (List.replicate n "")

def createOutline : String :=
  "CREATE TABLE IF NOT EXISTS  PARTITION OF  FOR VALUES FROM () TO ()"

theorem outside_intercalate (names : List String) :
    outside none (", ".intercalate (names.map quoteName)).toList =
      some (", ".intercalate (List.replicate names.length "")).toList := by
  have closed (name : String) (rest : List Char) :
      outside none ((quoteName name).toList ++ rest) = outside none rest := by
    rw [toList_quoteName]
    exact outside_enclose (.inl rfl) _ _
  induction names with
  | nil => rfl
  | cons name others ih =>
    cases others with
    | nil =>
      have alone := closed name []
      rw [List.append_nil] at alone
      exact alone
    | cons next more =>
      rw [List.map_cons, List.map_cons, String.intercalate_cons_cons, String.toList_append,
        String.toList_append, List.append_assoc, closed, outside_append rfl]
      rw [List.map_cons] at ih
      have gaps : List.replicate (name :: next :: more).length "" =
          "" :: "" :: List.replicate more.length "" := rfl
      rw [ih, gaps, String.intercalate_cons_cons, String.toList_append, Option.map_some]
      rfl

/-- The names are just what stands between the marks. -/
theorem outside_drop (names : List String) :
    outside none (drop names).text.toList = some (dropOutline names.length).toList := by
  unfold text dropOutline
  rw [String.toList_append, String.toList_append, outside_append rfl, outside_intercalate,
    Option.map_some]

theorem outside_create {low high : String} (plain_low : dateMark ∉ low.toList)
    (plain_high : dateMark ∉ high.toList) (name base : String) :
    outside none (create name base low high).text.toList = some createOutline.toList := by
  have named (s rest : List Char) : outside none (enclose nameMark s ++ rest) = outside none rest :=
    outside_enclose (.inl rfl) s rest
  have dated (s rest : List Char) : outside none (enclose dateMark s ++ rest) = outside none rest :=
    outside_enclose (.inr rfl) s rest
  rw [toList_create plain_low plain_high, outside_append rfl, named, outside_append rfl, named,
    outside_append rfl, dated, outside_append rfl, dated]
  rfl

/-! ### The changes of a plan -/

theorem dateMark_not_mem_text (d : Date) : dateMark ∉ d.text.toList := by
  have digits {width n : Nat} (member : dateMark ∈ Decimal.padded width n) : False :=
    absurd (Decimal.isDigit_of_mem_padded member) (by decide)
  have year {y : Int} (member : dateMark ∈ Date.yearText y) : False := by
    unfold Date.yearText at member
    split at member
    · exact digits member
    · rcases List.mem_cons.mp member with sign | member
      · split at sign <;> exact absurd sign (by decide)
      · exact digits member
  intro member
  rw [Date.text, String.toList_ofList, Date.format] at member
  rcases List.mem_append.mp member with member | member
  · exact year member
  rcases List.mem_cons.mp member with sep | member
  · exact absurd sep (by decide)
  rcases List.mem_append.mp member with member | member
  · exact digits member
  rcases List.mem_cons.mp member with sep | member
  · exact absurd sep (by decide)
  · exact digits member

def creation (p : DailyPartition) : TableChange := create p.name p.base p.rangeFrom p.rangeTo

def removal (ps : OrderedSet DailyPartition) : TableChange :=
  drop (ps.toList.map DailyPartition.name)

theorem mem_ofPlan {plan : Plan DailyPartition} {c : TableChange} : c ∈ ofPlan plan ↔
    (∃ p ∈ plan.add, c = creation p) ∨ (plan.remove.isEmpty = false ∧ c = removal plan.remove) := by
  rw [ofPlan, List.mem_append, List.mem_map]
  refine or_congr ⟨?_, ?_⟩ ?_
  · rintro ⟨p, member, rfl⟩
    exact ⟨p, member, rfl⟩
  · rintro ⟨p, member, rfl⟩
    exact ⟨p, member, rfl⟩
  · split
    · next empty => simp [empty]
    · next some_members =>
      rw [List.mem_singleton, and_iff_right (Bool.eq_false_iff.mpr some_members)]
      rfl

theorem read?_creation (p : DailyPartition) : read? (creation p).text.toList = some (creation p) :=
  read?_create (dateMark_not_mem_text _) (dateMark_not_mem_text _) _ _

theorem read?_removal {ps : OrderedSet DailyPartition} (some_members : ps.isEmpty = false) :
    read? (removal ps).text.toList = some (removal ps) := by
  refine read?_drop fun none => ?_
  rw [OrderedSet.isEmpty, List.map_eq_nil_iff.mp none] at some_members
  cases some_members

theorem read?_of_mem_ofPlan {plan : Plan DailyPartition} {c : TableChange}
    (member : c ∈ ofPlan plan) : read? c.text.toList = some c := by
  rcases mem_ofPlan.mp member with ⟨p, _, rfl⟩ | ⟨some_removed, rfl⟩
  · exact read?_creation p
  · exact read?_removal some_removed

end TableChange

end Courier

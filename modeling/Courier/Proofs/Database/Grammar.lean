import Courier.Database.TableChange

/-!
# The grammar of table changes

How the text of a statement is built up from names and dates between marks, said without a reader.
`read?_eq_some_iff` says that the reader accepts just the texts of this grammar, so that no text
spells two changes.
-/

namespace Courier

namespace Text

variable {mark : Char} {s inner rest : List Char}

/-- The text holds `inner` up to the mark that ends it, and `rest` behind that mark. Two marks in a
row stand for one of the marks inside. -/
inductive Closes (mark : Char) : List Char → List Char → List Char → Prop where
  | ends {rest : List Char} (single : rest.head? ≠ some mark) : Closes mark (mark :: rest) [] rest
  | doubled {s inner rest : List Char} (more : Closes mark s inner rest) :
      Closes mark (mark :: mark :: s) (mark :: inner) rest
  | plain {c : Char} {s inner rest : List Char} (other : c ≠ mark)
      (more : Closes mark s inner rest) : Closes mark (c :: s) (c :: inner) rest

inductive Encloses (mark : Char) : List Char → List Char → List Char → Prop where
  | opens {s inner rest : List Char} (closes : Closes mark s inner rest) :
      Encloses mark (mark :: s) inner rest

theorem Closes.readToMark (closes : Closes mark s inner rest) :
    readToMark mark s = some (inner, rest) := by
  induction closes with
  | ends single => exact readToMark_end single
  | doubled _ ih => rw [readToMark_doubled, ih, Option.map_some]
  | plain other _ ih => rw [readToMark_other other, ih, Option.map_some]

theorem closes_of_readToMark (read : readToMark mark s = some (inner, rest)) :
    Closes mark s inner rest := by
  fun_induction Text.readToMark mark s generalizing inner rest with
  | case1 => cases read
  | case2 more ih =>
    obtain ⟨⟨inner, rest⟩, found, same⟩ := Option.map_eq_some_iff.mp read
    cases same
    exact .doubled (ih found)
  | case3 d more other =>
    cases read
    exact .ends fun same => other (Option.some.inj same)
  | case4 =>
    cases read
    exact .ends nofun
  | case5 c s other ih =>
    obtain ⟨⟨inner, rest⟩, found, same⟩ := Option.map_eq_some_iff.mp read
    cases same
    exact .plain other (ih found)

theorem Closes.length_lt (closes : Closes mark s inner rest) : rest.length < s.length := by
  induction closes with
  | ends => exact Nat.lt_succ_self _
  | doubled _ ih => exact Nat.lt_succ_of_lt (Nat.lt_succ_of_lt ih)
  | plain _ _ ih => exact Nat.lt_succ_of_lt ih

theorem Encloses.length_lt (encloses : Encloses mark s inner rest) : rest.length < s.length := by
  obtain ⟨closes⟩ := encloses
  exact Nat.lt_succ_of_lt closes.length_lt

theorem readEnclosed_eq_some_iff :
    readEnclosed mark s = some (inner, rest) ↔ Encloses mark s inner rest := by
  constructor
  · intro read
    cases s with
    | nil => cases read
    | cons c s =>
      rw [readEnclosed] at read
      split at read
      · next same =>
        rw [same]
        exact .opens (closes_of_readToMark read)
      · cases read
  · rintro ⟨closes⟩
    rw [readEnclosed, if_pos rfl, closes.readToMark]

theorem encloses_enclose (follows : rest.head? ≠ some mark) (s : List Char) :
    Encloses mark (enclose mark s ++ rest) s rest :=
  readEnclosed_eq_some_iff.mp (readEnclosed_enclose follows s)

theorem ofList_readEnclosed_eq_some_iff {name : String} :
    ((readEnclosed mark s).map fun (t, rest) => (String.ofList t, rest)) = some (name, rest) ↔
      Encloses mark s name.toList rest := by
  rw [← readEnclosed_eq_some_iff, Option.map_eq_some_iff]
  constructor
  · rintro ⟨⟨inner, rest⟩, read, same⟩
    cases same
    rw [read, String.toList_ofList]
  · intro read
    have same : String.ofList name.toList = name := String.ofList_toList
    exact ⟨_, read, congrArg (·, rest) same⟩

end Text

namespace TableChange

open Text

variable {s rest : List Char} {name : String} {names : List String} {c : TableChange}

/-! ### The statements -/

inductive Lists : List Char → List String → Prop where
  | last {s : List Char} {name : String} (named : Encloses nameMark s name.toList []) :
      Lists s [name]
  | more {s rest : List Char} {name : String} {names : List String}
      (named : Encloses nameMark s name.toList (", ".toList ++ rest)) (others : Lists rest names) :
      Lists s (name :: names)

inductive Spells : List Char → TableChange → Prop where
  | create {named based lower upper : List Char} {name base low high : String}
      (name_stands : Encloses nameMark named name.toList (" PARTITION OF ".toList ++ based))
      (base_stands : Encloses nameMark based base.toList (" FOR VALUES FROM (".toList ++ lower))
      (low_stands : Encloses dateMark lower low.toList (") TO (".toList ++ upper))
      (high_stands : Encloses dateMark upper high.toList [')']) :
      Spells ("CREATE TABLE IF NOT EXISTS ".toList ++ named) (.create name base low high)
  | drop {listed : List Char} {names : List String} (lists : Lists listed names) :
      Spells ("DROP TABLE IF EXISTS ".toList ++ listed) (.drop names)

theorem skip?_append (word : String) (rest : List Char) :
    skip? word (word.toList ++ rest) = some rest := by
  unfold skip?
  rw [if_pos (List.isPrefixOf_iff_prefix.mpr (List.prefix_append _ _)), ← String.length_toList,
    List.drop_left]

theorem skip?_eq_some_iff {word : String} : skip? word s = some rest ↔ s = word.toList ++ rest := by
  constructor
  · intro found
    unfold skip? at found
    split at found
    · next front =>
      obtain ⟨rest, rfl⟩ := List.isPrefixOf_iff_prefix.mp front
      rw [← String.length_toList, List.drop_left] at found
      cases found
      rfl
    · cases found
  · rintro rfl
    exact skip?_append word rest

theorem readName_eq_some_iff :
    readName s = some (name, rest) ↔ Encloses nameMark s name.toList rest :=
  ofList_readEnclosed_eq_some_iff

theorem readDate_eq_some_iff :
    readDate s = some (name, rest) ↔ Encloses dateMark s name.toList rest :=
  ofList_readEnclosed_eq_some_iff

theorem Lists.readNames (lists : Lists s names) {fuel : Nat} (enough : names.length ≤ fuel) :
    readNames fuel s = some names := by
  induction lists generalizing fuel with
  | last named =>
    obtain ⟨fuel, rfl⟩ : ∃ k, fuel = k + 1 := ⟨fuel - 1, by simp at enough; omega⟩
    rw [TableChange.readNames, readName_eq_some_iff.mpr named]
    rfl
  | more named others ih =>
    obtain ⟨fuel, rfl⟩ : ∃ k, fuel = k + 1 := ⟨fuel - 1, by simp at enough; omega⟩
    rw [TableChange.readNames, readName_eq_some_iff.mpr named]
    simp only [Option.bind_eq_bind, Option.bind_some, skip?_append,
      ih (Nat.le_of_succ_le_succ enough)]
    rfl

theorem lists_of_readNames {fuel : Nat} (read : readNames fuel s = some names) : Lists s names := by
  induction fuel generalizing s names with
  | zero => cases read
  | succ fuel ih =>
    simp only [TableChange.readNames, Option.bind_eq_bind, Option.bind_eq_some_iff] at read
    obtain ⟨⟨name, rest⟩, named, read⟩ := read
    have named := readName_eq_some_iff.mp named
    split at read
    · next ended =>
      obtain rfl : rest = [] := List.isEmpty_iff.mp ended
      cases read
      exact .last named
    · obtain ⟨listed, comma, others, more, same⟩ := by
        simpa only [Option.bind_eq_some_iff] using read
      cases same
      rw [skip?_eq_some_iff.mp comma] at named
      exact .more named (ih more)

/-- Every name takes up room, so that a text has more characters than names. -/
theorem Lists.length_le (lists : Lists s names) : names.length ≤ s.length := by
  induction lists with
  | last named => exact Nat.succ_le_of_lt (Nat.lt_of_le_of_lt (Nat.zero_le _) named.length_lt)
  | more named others ih =>
    have shorter := named.length_lt
    rw [List.length_append] at shorter
    rw [List.length_cons]
    omega

theorem read?_created (s : List Char) :
    read? ("CREATE TABLE IF NOT EXISTS ".toList ++ s) = readCreate s := by
  rw [read?, skip?_append]

theorem read?_dropped (s : List Char) : read? ("DROP TABLE IF EXISTS ".toList ++ s) =
    (readNames (s.length + 1) s).map drop := by
  have other : skip? "CREATE TABLE IF NOT EXISTS " ("DROP TABLE IF EXISTS ".toList ++ s) = none :=
    rfl
  rw [read?, other]
  simp only [skip?_append, Option.bind_some]

theorem spells_of_readCreate (read : readCreate s = some c) :
    Spells ("CREATE TABLE IF NOT EXISTS ".toList ++ s) c := by
  simp only [readCreate, Option.bind_eq_bind, Option.bind_eq_some_iff] at read
  obtain ⟨⟨name, behind_name⟩, named, _, partition_of, ⟨base, behind_base⟩, based, _, values_from,
    ⟨low, behind_low⟩, lowest, _, values_to, ⟨high, behind_high⟩, highest, read⟩ := read
  obtain rfl : behind_name = _ := skip?_eq_some_iff.mp partition_of
  obtain rfl : behind_base = _ := skip?_eq_some_iff.mp values_from
  obtain rfl : behind_low = _ := skip?_eq_some_iff.mp values_to
  split at read
  · next ended =>
    obtain rfl : behind_high = [')'] := ended
    cases read
    exact .create (readName_eq_some_iff.mp named) (readName_eq_some_iff.mp based)
      (readDate_eq_some_iff.mp lowest) (readDate_eq_some_iff.mp highest)
  · cases read

theorem read?_eq_some_iff : read? s = some c ↔ Spells s c := by
  constructor
  · intro read
    unfold read? at read
    split at read
    · next rest created =>
      rw [skip?_eq_some_iff.mp created]
      exact spells_of_readCreate read
    · obtain ⟨listed, dropped, read⟩ := Option.bind_eq_some_iff.mp read
      obtain ⟨names, listing, same⟩ := Option.map_eq_some_iff.mp read
      rw [skip?_eq_some_iff.mp dropped, ← same]
      exact .drop (lists_of_readNames listing)
  · intro spells
    cases spells with
    | create name_stands base_stands low_stands high_stands =>
      rw [read?_created, readCreate]
      simp only [readName_eq_some_iff.mpr name_stands, readName_eq_some_iff.mpr base_stands,
        readDate_eq_some_iff.mpr low_stands, readDate_eq_some_iff.mpr high_stands,
        Option.bind_eq_bind, Option.bind_some, skip?_append]
      rfl
    | drop lists =>
      rw [read?_dropped, lists.readNames (Nat.le_succ_of_le lists.length_le), Option.map_some]

end TableChange

end Courier

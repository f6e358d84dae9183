import Mathlib.Data.List.Chain
import Courier.Partition.Daily
import Courier.Proofs.Calendar.DateText

/-!
# Names of daily partitions

No two partitions share a name, and a text is read as a partition only if it is the name of that
partition. `parse_ok` says which partitions are read back from their names: those whose base leaves
the double underscore before the day as the only one.
-/

namespace Courier.DailyPartition

open Text

variable {s u v f g : List Char} {c : Char}

def Spaced (s : List Char) : Prop := s.IsChain fun a b => a = '_' → b ≠ '_'

theorem spaced_cons : Spaced (c :: s) ↔ (c = '_' → s.head? ≠ some '_') ∧ Spaced s := by
  unfold Spaced
  rw [List.isChain_cons]
  refine and_congr_left fun _ => ⟨fun apart mark next => ?_, fun apart d next mark same => ?_⟩
  · exact apart _ next mark rfl
  · exact apart mark (same ▸ next)

theorem spaced_append (plain : ∀ c ∈ u, c ≠ '_') (spaced : Spaced s) : Spaced (u ++ s) := by
  induction u with
  | nil => exact spaced
  | cons c u ih =>
    rw [List.cons_append, spaced_cons]
    refine ⟨fun mark => absurd mark (plain c List.mem_cons_self), ih fun d member => ?_⟩
    exact plain d (List.mem_cons_of_mem c member)

theorem not_spaced (u v : List Char) : ¬ Spaced (u ++ '_' :: '_' :: v) := by
  intro spaced
  have pair := (List.isChain_append_cons_cons.mp spaced).2.1
  exact pair rfl rfl

/-- A text that can stand before the day in a name that is read back. -/
structure IsBase (b : String) : Prop where
  nonempty : b.toList ≠ []
  spaced : Spaced b.toList
  ends : b.toList.getLast? ≠ some '_'

theorem spaced_snoc : Spaced (u ++ ['_']) ↔ Spaced u ∧ u.getLast? ≠ some '_' := by
  unfold Spaced
  rw [List.isChain_append]
  refine and_congr_right fun _ => ⟨fun ⟨_, apart⟩ last => ?_, fun open_end => ⟨?_, ?_⟩⟩
  · exact apart _ last _ rfl rfl rfl
  · exact List.isChain_singleton _
  · rintro d last _ _ rfl
    exact absurd last open_end

/-! ### Pieces -/

theorem pieces_ne_nil (s : List Char) : pieces s ≠ [] := by
  unfold pieces
  split
  · simp
  · simp
  · split <;> simp

theorem pieces_cons {p : List Char} {ps : List (List Char)} (apart : c = '_' → s.head? ≠ some '_')
    (rest : pieces s = p :: ps) : pieces (c :: s) = (c :: p) :: ps := by
  rw [pieces.eq_def]
  split
  · next same => cases same
  · next same =>
    cases same
    exact absurd rfl (apart rfl)
  · next same =>
    cases same
    rw [rest]

theorem pieces_append (spaced : Spaced (u ++ ['_'])) (v : List Char) :
    pieces (u ++ '_' :: '_' :: v) = u :: pieces v := by
  induction u with
  | nil => rw [List.nil_append, pieces]
  | cons c u ih =>
    rw [List.cons_append, spaced_cons] at spaced
    have same : (u ++ '_' :: '_' :: v).head? = (u ++ ['_']).head? := by cases u <;> rfl
    exact pieces_cons (same ▸ spaced.1) (ih spaced.2)

theorem pieces_of_spaced (spaced : Spaced s) : pieces s = [s] := by
  induction s with
  | nil => rfl
  | cons c s ih =>
    rw [spaced_cons] at spaced
    exact pieces_cons spaced.1 (ih spaced.2)

theorem cut_of_pieces {ps : List (List Char)} (cut : pieces s = u :: ps) :
    (s = u ∧ ps = [] ∧ Spaced u) ∨
      ∃ rest, s = u ++ '_' :: '_' :: rest ∧ ps = pieces rest ∧ Spaced (u ++ ['_']) := by
  induction s using pieces.induct generalizing u with
  | case1 =>
    cases cut
    exact .inl ⟨rfl, rfl, List.isChain_nil⟩
  | case2 rest ih =>
    rw [pieces] at cut
    cases cut
    exact .inr ⟨rest, rfl, rfl, List.isChain_singleton _⟩
  | case3 c rest apart p more found ih =>
    have apart : c = '_' → rest.head? ≠ some '_' := by
      rintro rfl next
      obtain ⟨tail, rfl⟩ := List.head?_eq_some_iff.mp next
      exact apart tail rfl rfl
    rw [pieces_cons apart found] at cut
    cases cut
    rcases ih found with ⟨rfl, rfl, spaced⟩ | ⟨tail, rfl, rfl, spaced⟩
    · exact .inl ⟨rfl, rfl, spaced_cons.mpr ⟨apart, spaced⟩⟩
    · have same : (p ++ '_' :: '_' :: tail).head? = (p ++ ['_']).head? := by cases p <;> rfl
      exact .inr ⟨tail, rfl, rfl, spaced_cons.mpr ⟨same ▸ apart, spaced⟩⟩
  | case4 c rest apart none => exact absurd none (pieces_ne_nil rest)

theorem pieces_pair : pieces s = [u, v] ↔
    s = u ++ '_' :: '_' :: v ∧ Spaced (u ++ ['_']) ∧ Spaced v := by
  constructor
  · intro cut
    rcases cut_of_pieces cut with ⟨_, none, _⟩ | ⟨rest, rfl, last, spaced⟩
    · cases none
    · rcases cut_of_pieces last.symm with ⟨rfl, _, final⟩ | ⟨tail, _, more, _⟩
      · exact ⟨rfl, spaced, final⟩
      · exact absurd more.symm (pieces_ne_nil tail)
  · rintro ⟨rfl, spaced, final⟩
    rw [pieces_append spaced, pieces_of_spaced final]

/-! ### The day in a name -/

theorem ne_of_mem_padded {width n : Nat} (member : c ∈ Decimal.padded width n) : c ≠ '_' := by
  rintro rfl
  exact absurd (Decimal.isDigit_of_mem_padded member) (by decide)

theorem ne_of_mem_yearText {y : Int} (member : c ∈ Date.yearText y) : c ≠ '_' := by
  unfold Date.yearText at member
  split at member
  · exact ne_of_mem_padded member
  · rcases List.mem_cons.mp member with rfl | member
    · split <;> decide
    · exact ne_of_mem_padded member

theorem yearText_ne_nil (y : Int) : Date.yearText y ≠ [] := by
  unfold Date.yearText
  split
  · exact Decimal.padded_ne_nil _ _
  · exact List.cons_ne_nil _ _

theorem head_append (nonempty : u ≠ []) (plain : ∀ c ∈ u, c ≠ '_') (s : List Char) :
    (u ++ s).head? ≠ some '_' := by
  cases u with
  | nil => exact absurd rfl nonempty
  | cons c u =>
    rintro ⟨⟩
    exact plain '_' List.mem_cons_self rfl

theorem format_spaced (d : Date) : Spaced (d.format '_') := by
  have plain (n : Nat) (c : Char) : c ∈ Decimal.padded 2 n → c ≠ '_' := ne_of_mem_padded
  have head (n : Nat) := head_append (Decimal.padded_ne_nil 2 n) (plain n)
  have day : Spaced (Decimal.padded 2 d.day) := by
    simpa using spaced_append (plain d.day) List.isChain_nil
  have month : Spaced (Decimal.padded 2 d.month ++ '_' :: Decimal.padded 2 d.day) := by
    refine spaced_append (plain d.month) (spaced_cons.mpr ⟨fun _ => ?_, day⟩)
    simpa using head d.day []
  refine spaced_append (fun c => ne_of_mem_yearText) (spaced_cons.mpr ⟨fun _ => ?_, month⟩)
  exact head d.month _

theorem head_format (d : Date) : (d.format '_').head? ≠ some '_' :=
  head_append (yearText_ne_nil _) (fun _ => ne_of_mem_yearText) _

theorem parseTight?_day (d : Date) : Date.parseTight? '_' (d.format '_') = some d :=
  Date.parseTight?_format (by decide) d

/-! ### Names -/

theorem toList_name (p : DailyPartition) :
    p.name.toList = p.base.toList ++ '_' :: '_' :: p.day.format '_' := String.toList_ofList

/-- What stands between two cuts of a text, if a date follows the first one. -/
theorem eq_nil_of_cut {d : Date} (same : '_' :: '_' :: d.format '_' = u ++ '_' :: '_' :: v) :
    u = [] := by
  match u with
  | [] => rfl
  | [x] =>
    have tail : d.format '_' = '_' :: v := (List.cons.inj (List.cons.inj same).2).2
    exact absurd (congrArg List.head? tail) (head_format d)
  | x :: y :: rest =>
    have tail : d.format '_' = rest ++ '_' :: '_' :: v := (List.cons.inj (List.cons.inj same).2).2
    exact absurd (tail ▸ format_spaced d) (not_spaced rest v)

theorem name_injective {p q : DailyPartition} (same : p.name = q.name) : p = q := by
  have texts := congrArg String.toList same
  rw [toList_name, toList_name] at texts
  -- Where one base is longer than the other, the cut of the shorter name would fall into its day.
  have bases : p.base.toList = q.base.toList := by
    rcases List.append_eq_append_iff.mp texts with ⟨between, longer, cut⟩ | ⟨between, longer, cut⟩
    · rw [longer, eq_nil_of_cut cut, List.append_nil]
    · rw [longer, eq_nil_of_cut cut, List.append_nil]
  rw [bases] at texts
  have days : p.day.format '_' = q.day.format '_' := by simpa using texts
  have read := parseTight?_day p.day
  rw [days, parseTight?_day] at read
  obtain ⟨base, day⟩ := p
  obtain ⟨base', day'⟩ := q
  obtain rfl : base = base' := String.toList_inj.mp bases
  obtain rfl : day' = day := by simpa using read
  rfl

theorem pieces_name {p : DailyPartition} (base : IsBase p.base) :
    pieces p.name.toList = [p.base.toList, p.day.format '_'] :=
  pieces_pair.mpr ⟨toList_name p, spaced_snoc.mpr ⟨base.spaced, base.ends⟩, format_spaced p.day⟩

/-- A text is read as a partition exactly if the partition has a base that can stand in a name and
the text is its name. -/
theorem parse_ok {n : String} {p : DailyPartition} :
    parse n = .ok p ↔ IsBase p.base ∧ p.name = n := by
  constructor
  · intro read
    unfold parse at read
    split at read
    · next base suffix cut =>
      split at read
      · next day dated =>
        dsimp only at read
        split at read
        · next canonical =>
          cases read
          obtain ⟨text, spaced, final⟩ := pieces_pair.mp cut
          obtain ⟨spaced, ends⟩ := spaced_snoc.mp spaced
          have toList : (String.ofList base).toList = base := String.toList_ofList
          exact ⟨⟨by rw [toList]; exact canonical.1, by rw [toList]; exact spaced,
            by rw [toList]; exact ends⟩, canonical.2⟩
        · cases read
      · cases read
    · cases read
  · rintro ⟨base, rfl⟩
    unfold parse
    rw [pieces_name base]
    have self : (⟨String.ofList p.base.toList, p.day⟩ : DailyPartition) = p := by
      rw [String.ofList_toList]
    simp only [parseTight?_day, self]
    exact if_pos ⟨base.nonempty, trivial⟩

theorem isBase_of_parse {b : String} {d : Date} {p : DailyPartition}
    (read : parse (name ⟨b, d⟩) = .ok p) : IsBase b := by
  obtain ⟨base, same⟩ := parse_ok.mp read
  rw [name_injective same] at base
  exact base

end Courier.DailyPartition

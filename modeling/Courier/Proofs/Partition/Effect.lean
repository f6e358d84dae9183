import Courier.Proofs.Database.TableChange
import Courier.Proofs.Partition.Name
import Courier.Proofs.Partition.Run

/-!
# What reconciliation does to the tables

The statements that a reconciliation sends are read back as the changes of its plan.
`Transcript.mem_after` says which tables there are after a successful run, and
`Transcript.mem_of_drops` which tables any run drops.
-/

namespace Courier

namespace Sent

/-- The change of the tables that a statement asks for, as its text is read. -/
def change? : Sent → Option TableChange
  | .statement sql _ => TableChange.read? sql.toList
  | .control _ => none

def execute (tables : OrderedSet String) (x : Sent) : OrderedSet String :=
  match x.change? with
  | some c => c.apply tables
  | none => tables

def Creates (x : Sent) (name : String) : Prop :=
  ∃ base low high, x.change? = some (.create name base low high)

def Drops (x : Sent) (name : String) : Prop :=
  ∃ names, x.change? = some (.drop names) ∧ name ∈ names

theorem execute_control (c : Control) (tables : OrderedSet String) :
    (control c).execute tables = tables := rfl

theorem execute_of_none {x : Sent} (other : x.change? = none) (tables : OrderedSet String) :
    x.execute tables = tables := by
  unfold execute
  rw [other]

end Sent

theorem Plan.isEmpty_iff {α : Type} [LT α] {plan : Plan α} :
    plan.isEmpty = true ↔ (∀ p, p ∉ plan.add) ∧ ∀ p, p ∉ plan.remove := by
  unfold isEmpty OrderedSet.isEmpty
  rw [Bool.and_eq_true, List.isEmpty_iff, List.isEmpty_iff, List.eq_nil_iff_forall_not_mem,
    List.eq_nil_iff_forall_not_mem]
  rfl

namespace Catalogue

open DailyPartition

variable {base : String} {desired : OrderedSet DailyPartition} {s : Session}
  {r : Except StorageError (Plan DailyPartition)} {sent : List Sent} {names : List String}
  {plan : Plan DailyPartition} {p : DailyPartition} {tables : OrderedSet String} {n : String}
  {x : Sent} {c : TableChange}

/-! ### What is planned -/

theorem mem_partitionsAmong :
    p ∈ partitionsAmong base names ↔ IsBase base ∧ p.base = base ∧ p.name ∈ names := by
  rw [partitionsAmong, OrderedSet.mem_ofList, List.mem_filterMap]
  constructor
  · rintro ⟨name, listed, kept⟩
    split at kept
    · next q read =>
      split at kept
      · next same =>
        cases kept
        obtain ⟨valid, rfl⟩ := parse_ok.mp read
        exact ⟨same ▸ valid, same, listed⟩
      · cases kept
    · cases kept
  · rintro ⟨valid, rfl, listed⟩
    refine ⟨p.name, listed, ?_⟩
    rw [parse_ok.mpr ⟨valid, rfl⟩]
    simp

theorem mem_add : p ∈ (planFor base desired names).add ↔
    p ∈ desired ∧ p ∉ partitionsAmong base names := OrderedSet.mem_diff

theorem mem_remove : p ∈ (planFor base desired names).remove ↔
    p ∈ partitionsAmong base names ∧ p ∉ desired := OrderedSet.mem_diff

/-! ### What the statements do -/

theorem change?_listing : (listing base).change? = none := by
  unfold listing Sent.change? listingSql
  simp only [String.toList_append]
  decide +kernel

theorem change?_statement (member : c ∈ TableChange.ofPlan plan) :
    (statement c).change? = some c := TableChange.read?_of_mem_ofPlan member

theorem execute_statement (member : c ∈ TableChange.ofPlan plan) :
    (statement c).execute tables = c.apply tables := by
  unfold Sent.execute
  rw [change?_statement member]

theorem foldl_changes : (changes plan).foldl Sent.execute tables =
    (TableChange.ofPlan plan).foldl TableChange.apply tables := by
  -- Only changes of the plan are known to be read back, so the induction is on a part of them.
  have within (cs : List TableChange) (part : cs ⊆ TableChange.ofPlan plan) :
      (cs.map statement).foldl Sent.execute tables = cs.foldl TableChange.apply tables := by
    induction cs generalizing tables with
    | nil => rfl
    | cons c cs ih =>
      rw [List.map_cons, List.foldl_cons, List.foldl_cons,
        execute_statement (part List.mem_cons_self)]
      exact ih fun c member => part (List.mem_cons_of_mem _ member)
  exact within _ (List.Subset.refl _)

theorem mem_foldl_create (ps : List DailyPartition) :
    n ∈ (ps.map fun p => TableChange.create p.name p.base p.rangeFrom p.rangeTo).foldl
      TableChange.apply tables ↔ n ∈ tables ∨ ∃ p ∈ ps, p.name = n := by
  induction ps generalizing tables with
  | nil => simp
  | cons p ps ih =>
    rw [List.map_cons, List.foldl_cons, ih, TableChange.apply, OrderedSet.mem_insert]
    simp only [List.mem_cons, exists_eq_or_imp]
    grind

/-- The tables after a plan is carried out: those to add are there, those to remove are not, and
all others are as before. -/
theorem mem_foldl_changes : n ∈ (changes plan).foldl Sent.execute tables ↔
    (n ∈ tables ∨ ∃ p ∈ plan.add, p.name = n) ∧ ∀ p ∈ plan.remove, p.name ≠ n := by
  rw [foldl_changes, TableChange.ofPlan, List.foldl_append]
  split
  · next none =>
    have none : plan.remove.toList = [] := List.isEmpty_iff.mp none
    have all : ∀ p ∈ plan.remove, p.name ≠ n := by
      intro p member
      rw [← OrderedSet.mem_toList, none] at member
      cases member
    rw [List.foldl_nil, mem_foldl_create, and_iff_left all]
    rfl
  · rw [List.foldl_cons, List.foldl_nil, TableChange.apply, OrderedSet.mem_diff, mem_foldl_create,
      OrderedSet.mem_ofList]
    refine and_congr Iff.rfl ?_
    simp [OrderedSet.mem_toList]

/-! ### What a transcript holds -/

theorem opening_foldl : (opening base).foldl Sent.execute tables = tables := by
  unfold opening
  rw [List.foldl_cons, Sent.execute_control, List.foldl_cons, List.foldl_nil,
    Sent.execute_of_none change?_listing]

theorem Transcript.mem_after (transcript : Transcript base desired s (.ok plan) sent) :
    ∃ names, Listed s names ∧ plan = planFor base desired names ∧
      ∀ tables n, n ∈ sent.foldl Sent.execute tables ↔
        (n ∈ tables ∨ ∃ p ∈ plan.add, p.name = n) ∧ ∀ p ∈ plan.remove, p.name ≠ n := by
  generalize result : Except.ok plan = r at transcript
  cases transcript with
  | settled begins listed idle =>
    cases result
    refine ⟨_, listed, rfl, fun tables n => ?_⟩
    rw [List.foldl_append, opening_foldl, List.foldl_cons, List.foldl_nil, Sent.execute_control]
    obtain ⟨no_add, no_remove⟩ := Plan.isEmpty_iff.mp idle
    simp [no_add, no_remove]
  | committed begins listed busy answered =>
    cases result
    refine ⟨_, listed, rfl, fun tables n => ?_⟩
    rw [List.foldl_append, List.foldl_append, opening_foldl, List.foldl_cons, List.foldl_nil,
      Sent.execute_control, mem_foldl_changes]
  | _ => cases result

theorem Transcript.mem_sent (transcript : Transcript base desired s r sent) (member : x ∈ sent) :
    (∃ k, x = .control k) ∨ x = listing base ∨
      ∃ names, Listed s names ∧ x ∈ changes (planFor base desired names) := by
  have opened (member : x ∈ opening base) : (∃ k, x = .control k) ∨ x = listing base := by
    rcases List.mem_cons.mp member with same | member
    · exact .inl ⟨_, same⟩
    · exact .inr (List.mem_singleton.mp member)
  cases transcript with
  | unreachable => cases member
  | unbegun => exact .inl ⟨_, List.mem_singleton.mp member⟩
  | unlisted | settled | unsettled => grind
  | stopped begins listed parts => grind
  | uncommitted begins listed | committed begins listed => grind

theorem isStatement_of_changes (member : x ∈ changes plan) : x.isStatement = true := by
  obtain ⟨c, _, rfl⟩ := List.mem_map.mp member
  rfl

theorem answers_of_changes (listed : Listed s names)
    (answered : ∀ i < (changes plan).length, (s.reply (i + 1)).Answers) {final : List Sent}
    (controls : ∀ x ∈ final, x.isStatement = false) :
    ∀ i < ((opening base ++ changes plan ++ final).filter Sent.isStatement).length,
      (s.reply i).Answers := by
  have middle : (changes plan).filter Sent.isStatement = changes plan :=
    List.filter_eq_self.mpr fun x => isStatement_of_changes
  have last : final.filter Sent.isStatement = [] :=
    List.filter_eq_nil_iff.mpr fun x member => by simp [controls x member]
  have first : (opening base).filter Sent.isStatement = [listing base] := rfl
  intro i small
  rw [List.filter_append, List.filter_append, first, middle, last] at small
  match i with
  | 0 => exact Reply.answers_of_all listed
  | i + 1 => exact answered i (by simpa using small)

theorem Transcript.of_commit (transcript : Transcript base desired s r sent)
    (member : .control .commit ∈ sent) :
    ∃ names, s.Begins ∧ Listed s names ∧ (planFor base desired names).isEmpty = false ∧
      ∀ i < (sent.filter Sent.isStatement).length, (s.reply i).Answers := by
  have opened : .control .commit ∉ opening base := by simp [opening, listing]
  have changed (plan : Plan DailyPartition) : .control .commit ∉ changes plan :=
    fun member => absurd (isStatement_of_changes member) (by decide)
  cases transcript with
  | unreachable => cases member
  | unbegun => cases List.mem_singleton.mp member
  | unlisted | settled | unsettled => grind
  | stopped begins listed parts => grind
  | uncommitted begins listed busy answered =>
    refine ⟨_, begins, listed, busy, answers_of_changes listed answered fun x last => ?_⟩
    obtain rfl | again := List.mem_cons.mp last
    · rfl
    · rw [Fault.eq_of_mem_rollback again]
      rfl
  | committed begins listed busy answered =>
    exact ⟨_, begins, listed, busy, answers_of_changes listed answered (by simp [Sent.isStatement])⟩

theorem Transcript.change_mem (transcript : Transcript base desired s r sent) (member : x ∈ sent)
    (change : x.change? = some c) :
    ∃ names, Listed s names ∧ c ∈ TableChange.ofPlan (planFor base desired names) := by
  rcases transcript.mem_sent member with ⟨k, rfl⟩ | rfl | ⟨names, listed, planned⟩
  · cases change
  · rw [change?_listing] at change
    cases change
  · obtain ⟨d, of_plan, rfl⟩ := List.mem_map.mp planned
    rw [change?_statement of_plan] at change
    cases change
    exact ⟨names, listed, of_plan⟩

/-- Every statement besides the listing is read back as a change. -/
theorem Transcript.readable (transcript : Transcript base desired s r sent) (member : x ∈ sent)
    (statement : x.isStatement = true) : x = listing base ∨ ∃ c, x.change? = some c := by
  rcases transcript.mem_sent member with ⟨k, rfl⟩ | rfl | ⟨names, listed, planned⟩
  · cases statement
  · exact .inl rfl
  · obtain ⟨c, of_plan, rfl⟩ := List.mem_map.mp planned
    exact .inr ⟨c, change?_statement of_plan⟩

theorem Transcript.mem_of_drops (transcript : Transcript base desired s r sent) (member : x ∈ sent)
    (drops : x.Drops n) :
    ∃ names p, Listed s names ∧ p ∈ (planFor base desired names).remove ∧ p.name = n := by
  obtain ⟨dropped, change, member_dropped⟩ := drops
  obtain ⟨names, listed, planned⟩ := transcript.change_mem member change
  rcases TableChange.mem_ofPlan.mp planned with ⟨p, _, other⟩ | ⟨_, removed⟩
  · cases other
  · cases removed
    obtain ⟨p, member, rfl⟩ := List.mem_map.mp member_dropped
    exact ⟨names, p, listed, member, rfl⟩

theorem Transcript.creates_of_add (transcript : Transcript base desired s (.ok plan) sent)
    (added : p ∈ plan.add) : ∃ x ∈ sent, x.Creates p.name := by
  generalize result : Except.ok plan = r at transcript
  cases transcript with
  | settled begins listed idle =>
    cases result
    exact absurd added ((Plan.isEmpty_iff.mp idle).1 p)
  | committed begins listed busy answered =>
    cases result
    have planned : TableChange.creation p ∈ TableChange.ofPlan (planFor base desired _) :=
      TableChange.mem_ofPlan.mpr (.inl ⟨p, added, rfl⟩)
    refine ⟨_, ?_, _, _, _, change?_statement planned⟩
    refine List.mem_append_left _ (List.mem_append_right _ ?_)
    exact List.mem_map.mpr ⟨_, planned, rfl⟩
  | _ => cases result

end Catalogue

end Courier

import Courier.Proofs.Database.Grammar
import Courier.Proofs.Partition.Effect

/-!
# Statements name just their tables

Names of tables are quoted, so that nothing in a name can end it. `statements_name_just_their_tables`
says that the statements of a reconciliation spell the changes that they are written for and no
others, whatever characters stand in the names.
-/

namespace Courier

namespace TableChange

variable {ps : OrderedSet DailyPartition} {c : TableChange}

theorem spells_removal (some_members : ps.isEmpty = false) :
    Spells (removal ps).text.toList c ↔ c = removal ps := by
  rw [← read?_eq_some_iff, read?_removal some_members, Option.some.injEq, eq_comm]

theorem spells_creation (p : DailyPartition) :
    Spells (creation p).text.toList c ↔ c = creation p := by
  rw [← read?_eq_some_iff, read?_creation, Option.some.injEq, eq_comm]

theorem text_removal_injective : Function.Injective fun ps => (removal ps).text := by
  intro ps qs same
  have names : ps.toList.map DailyPartition.name = qs.toList.map DailyPartition.name :=
    text_drop_injective same
  have injective : Function.Injective DailyPartition.name :=
    fun _ _ => DailyPartition.name_injective
  exact OrderedSet.ext' (List.map_injective_iff.mpr injective names)

theorem outside_removal (ps : OrderedSet DailyPartition) :
    outside none (removal ps).text.toList = some (dropOutline ps.size).toList := by
  have outline := outside_drop (ps.toList.map DailyPartition.name)
  rwa [List.length_map] at outline

theorem outside_creation (p : DailyPartition) :
    outside none (creation p).text.toList = some createOutline.toList :=
  outside_create (dateMark_not_mem_text _) (dateMark_not_mem_text _) _ _

end TableChange

open TableChange

namespace Catalogue

theorem Transcript.statement_mem {base : String} {desired : OrderedSet DailyPartition} {s : Session}
    {r : Except StorageError (Plan DailyPartition)} {sent : List Sent} {x : Sent}
    (transcript : Transcript base desired s r sent) (member : x ∈ sent)
    (asked : x.isStatement = true) : x = listing base ∨ ∃ names, Listed s names ∧
      ((∃ q ∈ (planFor base desired names).add, x = statement (creation q)) ∨
        ((planFor base desired names).remove.isEmpty = false ∧
          x = statement (removal (planFor base desired names).remove))) := by
  rcases transcript.mem_sent member with ⟨k, rfl⟩ | listing | ⟨names, listed, planned⟩
  · cases asked
  · exact .inl listing
  · obtain ⟨c, of_plan, rfl⟩ := List.mem_map.mp planned
    refine .inr ⟨names, listed, ?_⟩
    rcases mem_ofPlan.mp of_plan with ⟨q, added, rfl⟩ | ⟨some_removed, rfl⟩
    · exact .inl ⟨q, added, rfl⟩
    · exact .inr ⟨some_removed, rfl⟩

end Catalogue

open Catalogue

/-- The text of a statement that drops some partitions spells the dropping of just these, by their
names and in their order; no other set of partitions has this text, and what it holds besides the
names depends on their number alone. The text of a statement that creates a partition spells its
creation, with its name, its base table and two dates without marks, and holds nothing else that
depends on the partition. A reconciliation sends no other statements besides its listing. -/
theorem statements_name_just_their_tables {ps : OrderedSet DailyPartition}
    (some_members : ps.isEmpty = false) (p : DailyPartition) (base : String)
    (desired : OrderedSet DailyPartition) (s : Session) :
    (read? (removal ps).text.toList = some (.drop (ps.toList.map DailyPartition.name)) ∧
      (∀ c, Spells (removal ps).text.toList c ↔ c = .drop (ps.toList.map DailyPartition.name)) ∧
      (∀ qs, (removal qs).text = (removal ps).text → qs = ps) ∧
      outside none (removal ps).text.toList = some (dropOutline ps.size).toList) ∧
    (read? (creation p).text.toList = some (.create p.name p.base p.rangeFrom p.rangeTo) ∧
      (∀ c, Spells (creation p).text.toList c ↔ c = .create p.name p.base p.rangeFrom p.rangeTo) ∧
      (dateMark ∉ p.rangeFrom.toList ∧ dateMark ∉ p.rangeTo.toList) ∧
      Date.parse? '-' p.rangeFrom.toList = some p.day ∧
      Date.parse? '-' p.rangeTo.toList = some (p.day.next?.getD p.day) ∧
      outside none (creation p).text.toList = some createOutline.toList) ∧
    ∃ sent, ((reconcile base desired).runOn s).2.sent = s.sent ++ sent ∧
      ∀ x ∈ sent, x.isStatement = true → x = listing base ∨ ∃ names, Listed s names ∧
        ((∃ q ∈ (planFor base desired names).add, x = statement (creation q)) ∨
          ((planFor base desired names).remove.isEmpty = false ∧
            x = statement (removal (planFor base desired names).remove))) := by
  obtain ⟨sent, sent_eq, transcript⟩ := reconcile_run base desired s
  refine ⟨⟨read?_removal some_members, fun c => spells_removal some_members,
    fun qs same => text_removal_injective same, outside_removal ps⟩, ⟨read?_creation p,
    fun c => spells_creation p, ⟨dateMark_not_mem_text _, dateMark_not_mem_text _⟩,
    Date.parse?_text _, Date.parse?_text _, outside_creation p⟩, sent, sent_eq, ?_⟩
  exact fun x member => transcript.statement_mem member

/-- A partition whose base table would end its own name and drop another table. -/
def crooked : DailyPartition := ⟨"a\", \"b; DROP TABLE c; --", .epoch⟩

/-- The quotes in a name stay in it. -/
theorem statements_name_just_their_tables_quotes :
    (OrderedSet.ofList [crooked]).isEmpty = false ∧
    (removal (.ofList [crooked])).text =
      "DROP TABLE IF EXISTS \"a\"\", \"\"b; DROP TABLE c; --__1970_01_01\"" ∧
    (∀ c, Spells (removal (.ofList [crooked])).text.toList c ↔
      c = .drop ["a\", \"b; DROP TABLE c; --__1970_01_01"]) := by
  have some_members : (OrderedSet.ofList [crooked]).isEmpty = false := by decide
  have names : (OrderedSet.ofList [crooked]).toList.map DailyPartition.name =
      ["a\", \"b; DROP TABLE c; --__1970_01_01"] := by decide +kernel
  obtain ⟨⟨_, spells, _⟩, _⟩ := statements_name_just_their_tables some_members crooked "log" .empty
    (.scripted [] [])
  rw [names] at spells
  exact ⟨some_members, by decide +kernel, spells⟩

end Courier

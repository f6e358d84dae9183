import Courier.Proofs.Database.Pattern
import Courier.Proofs.Partition.Effect

/-!
# The listing of partitions

Partitions are looked for by a pattern. `partitions_are_listed` says that the pattern misses none,
and that of whatever tables a database finds with it just the partitions of the base table are kept.
-/

namespace Courier.Catalogue

open DailyPartition Pattern

variable {base n : String} {s : Session} {names : List String} {tables : OrderedSet String}
  {p : DailyPartition}

/-- What a database replies to a listing by a pattern: names of its tables, with all of those among
them that the pattern describes. -/
structure FindsAll (tables : OrderedSet String) (pattern : String) (names : List String) : Prop where
  present : ∀ n ∈ names, n ∈ tables
  described : ∀ n ∈ tables, describes pattern.toList n.toList = true → n ∈ names

theorem beginning_of_name (p : DailyPartition) : (p.base ++ "__").toList <+: p.name.toList := by
  rw [toList_name, String.toList_append]
  exact ⟨p.day.format '_', List.append_assoc _ _ _⟩

theorem not_mem_of_bare {c : Char} (other : c ≠ '_') (bare : c ∉ base.toList) :
    c ∉ (base ++ "__").toList := by
  rw [String.toList_append]
  simp [bare, other]

theorem list_run (whole : s.isBroken = false) (listed : Listed s names) :
    (list base).runOn s = (.ok (partitionsAmong base names), s.asked (listing base)) := by
  have next : s.nextReply = s.reply 0 := Session.nextReply_of_replies rfl
  refine (Action.runOn_bind_of_ok (v := names) ((Query.all_alive whole).trans ?_)).trans rfl
  rw [next, listed]
  rfl

theorem mem_partitionsAmong_of_finds (bare : '\\' ∉ base.toList)
    (finds : FindsAll tables (namePattern base) names) :
    p ∈ partitionsAmong base names ∧ p.name = n ↔ n ∈ tables ∧ parse n = .ok p ∧ p.base = base := by
  rw [mem_partitionsAmong, parse_ok]
  constructor
  · rintro ⟨⟨valid, rfl, listed⟩, rfl⟩
    exact ⟨finds.present _ listed, ⟨valid, rfl⟩, rfl⟩
  · rintro ⟨present, ⟨valid, rfl⟩, rfl⟩
    refine ⟨⟨valid, rfl, finds.described _ present ?_⟩, rfl⟩
    exact describes_of_beginning (not_mem_of_bare (by decide) bare) (beginning_of_name p)

/-- Take a base table without a backslash in its name. The pattern of its listing describes every
name that begins with it and two underscores, and no others if it has no percent sign. Whatever else
a database finds by that pattern, the partitions that are kept are just those among its tables. -/
theorem partitions_are_listed (bare : '\\' ∉ base.toList) :
    (∀ n : String, (base ++ "__").toList <+: n.toList →
      describes (namePattern base).toList n.toList = true) ∧
    ('%' ∉ base.toList → ∀ n : String, describes (namePattern base).toList n.toList = true →
      (base ++ "__").toList <+: n.toList) ∧
    ∀ (s : Session) (tables : OrderedSet String) (names : List String), s.isBroken = false →
      Listed s names → FindsAll tables (namePattern base) names →
      ∃ kept after, (list base).runOn s = (.ok kept, after) ∧
        after.sent = s.sent ++ [.statement listingSql [.text (namePattern base)]] ∧
        ∀ n p, p ∈ kept ∧ p.name = n ↔ n ∈ tables ∧ parse n = .ok p ∧ p.base = base := by
  have marked := not_mem_of_bare (c := '\\') (by decide) bare
  refine ⟨fun n begins => ?_, fun fixed n fits => ?_, ?_⟩
  · exact describes_of_beginning marked begins
  · exact beginning_of_describes marked (not_mem_of_bare (by decide) fixed) fits
  · intro s tables names whole listed finds
    refine ⟨_, _, list_run whole listed, rfl, fun n p => ?_⟩
    exact mem_partitionsAmong_of_finds bare finds

def leapDay : Date := ⟨18321, by decide, by decide⟩

def foundNames : List String := ["my_log__2020_02_29", "my_log__2020_2_29", "myxlog__2020_02_29"]

def foundSession : Session :=
  .scripted [.rows (foundNames.map fun n => [("table_name", .text n)])] []

/-- The underscore of the base table stands for itself, and what is found besides is left out. -/
theorem partitions_are_listed_underscore :
    '\\' ∉ "my_log".toList ∧
    describes (namePattern "my_log").toList "my_log__%".toList = true ∧
    describes (namePattern "my_log").toList "myxlog__2020_02_29".toList = false ∧
    ∃ kept after, (list "my_log").runOn foundSession = (.ok kept, after) ∧
      ⟨"my_log", leapDay⟩ ∈ kept ∧ ∀ p ∈ kept, p.name = "my_log__2020_02_29" := by
  have bare : '\\' ∉ "my_log".toList := by decide
  obtain ⟨all, only, listing⟩ := partitions_are_listed bare
  have finds : FindsAll (.ofList foundNames) (namePattern "my_log") foundNames :=
    ⟨fun n => OrderedSet.mem_ofList.mpr, fun n member _ => OrderedSet.mem_ofList.mp member⟩
  have read : parse "my_log__2020_02_29" = .ok ⟨"my_log", leapDay⟩ := by decide +kernel
  obtain ⟨kept, after, run, _, exact⟩ := listing foundSession _ foundNames rfl rfl finds
  refine ⟨bare, all _ (by decide), ?_, kept, after, run, ?_, ?_⟩
  · refine Bool.eq_false_iff.mpr fun fits => ?_
    exact absurd (only (by decide) _ fits) (by decide)
  · have present : "my_log__2020_02_29" ∈ OrderedSet.ofList foundNames :=
      OrderedSet.mem_ofList.mpr (by decide)
    exact ((exact _ _).mpr ⟨present, read, rfl⟩).1
  · intro p member
    obtain ⟨present, read, same⟩ := (exact p.name p).mp ⟨member, rfl⟩
    have foreign : parse "myxlog__2020_02_29" = .ok ⟨"myxlog", leapDay⟩ := by decide +kernel
    have unread : parse "my_log__2020_2_29" = .error (.invalidPartitionName "my_log__2020_2_29") := by
      decide +kernel
    have listed : p.name ∈ foundNames := OrderedSet.mem_ofList.mp present
    simp only [foundNames, List.mem_cons, List.not_mem_nil, or_false] at listed
    rcases listed with named | named | named
    · exact named
    · rw [named, unread] at read
      cases read
    · rw [named, foreign] at read
      cases read
      exact absurd same (by decide)

end Courier.Catalogue

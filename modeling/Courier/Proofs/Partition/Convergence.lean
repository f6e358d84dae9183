import Courier.Proofs.Partition.Effect

/-!
# Reconciliation converges

`reconcile_converges` says that a reconciliation leaves just the desired partitions and every table
that is none, that it drops nothing else, and that the next one finds nothing to do.
-/

namespace Courier.Catalogue

open DailyPartition

variable {base : String} {desired : OrderedSet DailyPartition} {s : Session}
  {r : Except StorageError (Plan DailyPartition)} {sent : List Sent} {names : List String}
  {plan : Plan DailyPartition} {p : DailyPartition} {tables : OrderedSet String} {x : Sent}

/-! ### The listing of a database -/

/-- The reply to the listing has just those of the tables whose names begin with the base table and
two underscores. -/
def Lists (s : Session) (base : String) (tables : OrderedSet String) : Prop :=
  ∀ names, Listed s names → ∀ n, n ∈ names ↔ n ∈ tables ∧ (base ++ "__").toList <+: n.toList

theorem mem_of_lists (lists : Lists s base tables) (listed : Listed s names) (valid : IsBase base) :
    p ∈ partitionsAmong base names ↔ p.base = base ∧ p.name ∈ tables := by
  rw [mem_partitionsAmong, lists names listed]
  constructor
  · rintro ⟨_, same, member, _⟩
    exact ⟨same, member⟩
  · rintro ⟨rfl, member⟩
    refine ⟨valid, rfl, member, ?_⟩
    rw [toList_name, String.toList_append]
    exact ⟨p.day.format '_', List.append_assoc _ _ _⟩

/-- What a successful reconciliation makes of the tables of a database. -/
theorem Transcript.converges (transcript : Transcript base desired s (.ok plan) sent)
    (lists : Lists s base tables) (valid : IsBase base) (own : ∀ q ∈ desired, q.base = base) :
    (∀ p : DailyPartition, p.base = base →
      (p.name ∈ sent.foldl Sent.execute tables ↔ p ∈ desired)) ∧
      ∀ n, (∀ p : DailyPartition, p.base = base → p.name ≠ n) →
        (n ∈ sent.foldl Sent.execute tables ↔ n ∈ tables) := by
  obtain ⟨names, listed, rfl, after⟩ := transcript.mem_after
  have current (p : DailyPartition) := mem_of_lists (p := p) lists listed valid
  constructor
  · rintro p same
    rw [after]
    constructor
    · rintro ⟨present, kept⟩
      -- A table that is there and not wanted was listed, so it is one of those to remove.
      by_contra unwanted
      rcases present with present | ⟨q, added, name_eq⟩
      · exact kept p (mem_remove.mpr ⟨(current p).mpr ⟨same, present⟩, unwanted⟩) rfl
      · exact unwanted (name_injective name_eq ▸ (mem_add.mp added).1)
    · intro wanted
      refine ⟨?_, fun q removed name_eq => ?_⟩
      · by_cases present : p.name ∈ tables
        · exact .inl present
        · refine .inr ⟨p, mem_add.mpr ⟨wanted, fun member => ?_⟩, rfl⟩
          exact present ((current p).mp member).2
      · exact (mem_remove.mp removed).2 (name_injective name_eq ▸ wanted)
  · intro n other
    rw [after]
    constructor
    · rintro ⟨present | ⟨q, added, name_eq⟩, _⟩
      · exact present
      · exact absurd name_eq (other q (own q (mem_add.mp added).1))
    · intro present
      refine ⟨.inl present, fun q removed => other q ?_⟩
      exact ((current q).mp (mem_remove.mp removed).1).1

theorem planFor_isEmpty (lists : Lists s base tables) (listed : Listed s names)
    (valid : IsBase base) (own : ∀ q ∈ desired, q.base = base)
    (exact : ∀ p : DailyPartition, p.base = base → (p.name ∈ tables ↔ p ∈ desired)) :
    (planFor base desired names).isEmpty = true := by
  have current (p : DailyPartition) := mem_of_lists (p := p) lists listed valid
  refine Plan.isEmpty_iff.mpr ⟨fun p added => ?_, fun p removed => ?_⟩
  · obtain ⟨wanted, missing⟩ := mem_add.mp added
    have same := own p wanted
    exact missing ((current p).mpr ⟨same, (exact p same).mpr wanted⟩)
  · obtain ⟨present, unwanted⟩ := mem_remove.mp removed
    obtain ⟨same, present⟩ := (current p).mp present
    exact unwanted ((exact p same).mp present)

theorem ofPlan_of_isEmpty (idle : plan.isEmpty = true) : TableChange.ofPlan plan = [] := by
  unfold Plan.isEmpty at idle
  obtain ⟨no_add, no_remove⟩ := Bool.and_eq_true_iff.mp idle
  rw [TableChange.ofPlan, if_pos no_remove, List.append_nil, List.map_eq_nil_iff]
  exact List.isEmpty_iff.mp no_add

theorem Transcript.idle (transcript : Transcript base desired s r sent)
    (idle : ∀ names, Listed s names → (planFor base desired names).isEmpty = true)
    (member : x ∈ sent) :
    x = .control .begin ∨ x = listing base ∨ x = .control .rollback := by
  rcases transcript.mem_sent member with ⟨_ | _ | _, rfl⟩ | rfl | ⟨names, listed, planned⟩
  · exact .inl rfl
  · obtain ⟨names, _, listed, busy, _⟩ := transcript.of_commit member
    rw [idle names listed] at busy
    cases busy
  · exact .inr (.inr rfl)
  · exact .inr (.inl rfl)
  · rw [changes, ofPlan_of_isEmpty (idle names listed)] at planned
    cases planned

/-- Take a base table whose partitions are read back from their names. A successful reconciliation
leaves the desired partitions of it and no others, and leaves every other table as it was; the
next one then finds nothing to do. Whatever happens, only tables are dropped that were listed and
are not desired, and nothing is committed after a failure. -/
theorem reconcile_converges {day : Date} (readable : parse (name ⟨base, day⟩) = .ok p)
    (own : ∀ q ∈ desired, q.base = base) (s : Session) :
    ∃ sent, ((reconcile base desired).runOn s).2.sent = s.sent ++ sent ∧
      (∀ plan tables, ((reconcile base desired).runOn s).1 = .ok plan → Lists s base tables →
        (∀ n, (n ∈ sent.foldl Sent.execute tables ∧ ∃ q, parse n = .ok q ∧ q.base = base) ↔
          ∃ q ∈ desired, q.name = n) ∧
        (∀ n, (∀ q, parse n = .ok q → q.base ≠ base) →
          (n ∈ sent.foldl Sent.execute tables ↔ n ∈ tables)) ∧
        ∀ next, Lists next base (sent.foldl Sent.execute tables) →
          ∃ more, ((reconcile base desired).runOn next).2.sent = next.sent ++ more ∧
            ∀ x ∈ more, x = .control .begin ∨ x = listing base ∨ x = .control .rollback) ∧
      (∀ x ∈ sent, x.isStatement = true → x = listing base ∨ ∃ c, x.change? = some c) ∧
      (∀ x ∈ sent, ∀ n, x.Drops n →
        (∃ names, Listed s names ∧ n ∈ names) ∧ ∀ q ∈ desired, q.name ≠ n) ∧
      (.control .commit ∈ sent →
        s.Begins ∧ ∀ i < (sent.filter Sent.isStatement).length, (s.reply i).Answers) := by
  have valid := isBase_of_parse readable
  obtain ⟨sent, sent_eq, transcript⟩ := reconcile_run base desired s
  refine ⟨sent, sent_eq, ?_, ?_, ?_, ?_⟩
  · intro plan tables fine lists
    rw [fine] at transcript
    obtain ⟨exact, others⟩ := transcript.converges lists valid own
    refine ⟨fun n => ⟨?_, ?_⟩, fun n other => others n fun q same name_eq => ?_, ?_⟩
    · rintro ⟨present, q, read, same⟩
      obtain ⟨_, rfl⟩ := parse_ok.mp read
      exact ⟨q, (exact q same).mp present, rfl⟩
    · rintro ⟨q, wanted, rfl⟩
      have same := own q wanted
      exact ⟨(exact q same).mpr wanted, q, parse_ok.mpr ⟨same ▸ valid, rfl⟩, same⟩
    · exact other q (parse_ok.mpr ⟨same ▸ valid, name_eq⟩) same
    · intro next lists
      obtain ⟨more, more_eq, again⟩ := reconcile_run base desired next
      refine ⟨more, more_eq, fun x member => again.idle (fun names listed => ?_) member⟩
      exact planFor_isEmpty lists listed valid own exact
  · exact fun x member statement => transcript.readable member statement
  · intro x member n drops
    obtain ⟨names, q, listed, removed, rfl⟩ := transcript.mem_of_drops member drops
    obtain ⟨present, unwanted⟩ := mem_remove.mp removed
    refine ⟨⟨names, listed, (mem_partitionsAmong.mp present).2.2⟩, fun other wanted same => ?_⟩
    exact unwanted (name_injective same ▸ wanted)
  · intro committed
    obtain ⟨_, begins, _, _, answered⟩ := transcript.of_commit committed
    exact ⟨begins, answered⟩

/-- The first day of 2020. -/
def newYear : Date := ⟨18262, by decide, by decide⟩

def logDesired : OrderedSet DailyPartition := ⟨[⟨"log", newYear⟩], List.pairwise_singleton _ _⟩

def logNames : List String := ["log__2020_1_1", "log__2019_12_31"]

def logTables : OrderedSet String := .ofList ("log" :: logNames)

def logSession : Session := .scripted [.rows (logNames.map fun n => [("table_name", .text n)])] []

theorem logSession_lists : Lists logSession "log" logTables := by
  intro names listed n
  have same : logNames = names := by
    have read : Listed logSession logNames := rfl
    exact Except.ok.inj (read.symm.trans listed)
  subst same
  have log : ¬ ("log" ++ "__").toList <+: "log".toList := by decide +kernel
  have others : ∀ m ∈ logNames, ("log" ++ "__").toList <+: m.toList := by decide +kernel
  rw [logTables, OrderedSet.mem_ofList, List.mem_cons]
  constructor
  · intro member
    exact ⟨.inr member, others n member⟩
  · rintro ⟨rfl | member, begins⟩
    · exact absurd begins log
    · exact member

/-- A day in an unusual spelling survives; another day is dropped. -/
theorem reconcile_converges_log :
    (parse (name ⟨"log", newYear⟩) = .ok ⟨"log", newYear⟩ ∧ ∀ q ∈ logDesired, q.base = "log") ∧
      ∃ sent, ((reconcile "log" logDesired).runOn logSession).2.sent = logSession.sent ++ sent ∧
        "log__2020_01_01" ∈ sent.foldl Sent.execute logTables ∧
        "log__2019_12_31" ∉ sent.foldl Sent.execute logTables ∧
        "log__2020_1_1" ∈ sent.foldl Sent.execute logTables := by
  have readable : parse (name ⟨"log", newYear⟩) = .ok ⟨"log", newYear⟩ := by decide +kernel
  have own : ∀ q ∈ logDesired, q.base = "log" := by
    intro q member
    rw [List.mem_singleton.mp member]
  have fine : ((reconcile "log" logDesired).runOn logSession).1.isOk = true := by decide +kernel
  refine ⟨⟨readable, own⟩, ?_⟩
  obtain ⟨sent, sent_eq, converges, _⟩ := reconcile_converges readable own logSession
  cases result : ((reconcile "log" logDesired).runOn logSession).1 with
  | error e =>
    rw [result] at fine
    cases fine
  | ok plan =>
    obtain ⟨exact, others, _⟩ := converges plan logTables result logSession_lists
    refine ⟨sent, sent_eq, ?_, fun present => ?_, ?_⟩
    · exact ((exact _).mpr ⟨⟨"log", newYear⟩, List.mem_singleton_self _, by decide +kernel⟩).1
    · have read : parse "log__2019_12_31" = .ok ⟨"log", ⟨18261, by decide, by decide⟩⟩ := by
        decide +kernel
      obtain ⟨q, wanted, name_eq⟩ := (exact _).mp ⟨present, _, read, rfl⟩
      rw [List.mem_singleton.mp wanted] at name_eq
      exact absurd name_eq (by decide +kernel)
    · have unread : parse "log__2020_1_1" = .error (.invalidPartitionName "log__2020_1_1") := by
        decide +kernel
      refine (others _ fun q read => ?_).mpr ?_
      · rw [unread] at read
        cases read
      · exact OrderedSet.mem_ofList.mpr (by decide)

end Courier.Catalogue

import Courier.Proofs.Calendar.Clock
import Courier.Proofs.Partition.Convergence
import Courier.Proofs.Partition.Retention
import Courier.Settings.Settings

/-!
# Today's partition between the runs

The partition manager runs again and again, with pauses of up to three days. What it creates lasts
until the next run exactly if it looks at least four days ahead, today included.
-/

namespace Courier

theorem Reply.count_of_answers {r : Reply} (answers : r.Answers) : ∃ n, r.count = .ok n := by
  obtain ⟨found, fine⟩ := answers
  cases r with
  | rows found => exact ⟨_, rfl⟩
  | affected n => exact ⟨_, rfl⟩
  | _ => cases fine

theorem Catalogue.Transcript.ok_of_answers {base : String} {desired : OrderedSet DailyPartition}
    {s : Session} {r : Except StorageError (Plan DailyPartition)} {sent : List Sent}
    {names : List String} (transcript : Transcript base desired s r sent)
    (reachable : s.isReachable = true) (accepted : ∀ c, s.fault? c = none)
    (listed : Listed s names) (answered : ∀ i, (s.reply i).Answers) : ∃ plan, r = .ok plan := by
  cases transcript with
  | settled => exact ⟨_, rfl⟩
  | committed => exact ⟨_, rfl⟩
  | unreachable away => rw [reachable] at away; cases away
  | unbegun fault => rw [accepted] at fault; cases fault
  | unlisted _ failure => rw [show _ = _ from listed] at failure; cases failure
  | unsettled _ _ _ fault => rw [accepted] at fault; cases fault
  | stopped _ _ _ failure =>
    obtain ⟨n, fine⟩ := Reply.count_of_answers (answered _)
    rw [fine] at failure
    cases failure
  | uncommitted _ _ _ _ fault => rw [accepted] at fault; cases fault

namespace Partition.Manager

open DailyPartition

variable {past future : Nat} {clock : Clock} {today : Date} {tables after : OrderedSet String}

def partitionOf (d : Date) : DailyPartition := ⟨EventLog.tableName, d⟩

/-- A run on this day succeeds on a database with these tables and leaves those. -/
def Reconciles (past future : Nat) (today : Date) (tables after : OrderedSet String) : Prop :=
  ∃ s plan sent, Catalogue.Lists s EventLog.tableName tables ∧
    ((runOnce today past future).runOn s).1 = .ok plan ∧
    ((runOnce today past future).runOn s).2.sent = s.sent ++ sent ∧
    after = sent.foldl Sent.execute tables

def pause (minutes : Nat) : Duration := .ofSeconds (minutes * 60)

/-- The clock at the latest of some successful runs, and the tables that it left. -/
inductive Scheduled (past future : Nat) : Clock → OrderedSet String → Prop where
  | first {clock : Clock} {tables after : OrderedSet String}
      (run : Reconciles past future clock.today tables after) : Scheduled past future clock after
  | next {clock : Clock} {tables after : OrderedSet String} {minutes : Nat}
      (earlier : Scheduled past future clock tables) (least : intervalMinutes.1 ≤ minutes)
      (most : minutes ≤ intervalMinutes.2)
      (run : Reconciles past future (clock.sleep (pause minutes)).today tables after) :
      Scheduled past future (clock.sleep (pause minutes)) after

theorem isBase_tableName : IsBase EventLog.tableName where
  nonempty := by decide +kernel
  spaced := by
    unfold Spaced
    decide +kernel
  ends := by decide +kernel

theorem Reconciles.mem_after (run : Reconciles past future today tables after) (d : Date) :
    (partitionOf d).name ∈ after ↔ d ∈ Window.dates today past future := by
  obtain ⟨s, plan, sent, lists, fine, sent_eq, rfl⟩ := run
  rw [runOnce_run] at fine sent_eq
  obtain ⟨same, same_eq, transcript⟩ :=
    Catalogue.reconcile_run EventLog.tableName (wanted today past future) s
  obtain rfl : same = sent := List.append_cancel_left (same_eq.symm.trans sent_eq)
  rw [ok_of_mapError fine] at transcript
  have own : ∀ q ∈ wanted today past future, q.base = EventLog.tableName :=
    fun q member => (Window.mem_partitions.mp member).1
  rw [(transcript.converges lists isBase_tableName own).1 (partitionOf d) rfl]
  exact mem_wanted

theorem Scheduled.reconciles (scheduled : Scheduled past future clock after) :
    ∃ tables, Reconciles past future clock.today tables after := by
  cases scheduled with
  | first run => exact ⟨_, run⟩
  | next earlier least most run => exact ⟨_, run⟩

theorem Scheduled.mem_tables (scheduled : Scheduled past future clock tables) (d : Date) :
    (partitionOf d).name ∈ tables ↔ d ∈ Window.dates clock.today past future := by
  obtain ⟨before, run⟩ := scheduled.reconciles
  exact run.mem_after d

/-! ### How long the window lasts -/

theorem nanos_longest_pause : (pause intervalMinutes.2).nanos = 3 * 86400000000000 := by decide

theorem Scheduled.mem_of_four_days {wait : Duration}
    (scheduled : Scheduled past future clock tables) (enough : 4 ≤ future)
    (soon : wait.nanos < (pause intervalMinutes.2).nanos) :
    (partitionOf (clock.advance wait).today).name ∈ tables := by
  have least : clock.today.dayNumber ≤ (clock.advance wait).today.dayNumber :=
    clock.today_le_advance wait
  have most := clock.today_advance_le (nanos_longest_pause ▸ soon)
  rw [scheduled.mem_tables, Window.mem_dates]
  omega

theorem exists_scheduled (past future : Nat) (clock : Clock) :
    ∃ tables, Scheduled past future clock tables := by
  have listed : Catalogue.Listed (.scripted [] []) [] := rfl
  have lists : Catalogue.Lists (.scripted [] []) EventLog.tableName .empty := by
    intro names read n
    obtain rfl : [] = names := Except.ok.inj (listed.symm.trans read)
    exact ⟨nofun, fun ⟨member, _⟩ => nomatch member⟩
  obtain ⟨sent, sent_eq, transcript⟩ := Catalogue.reconcile_run EventLog.tableName
    (wanted clock.today past future) (.scripted [] [])
  obtain ⟨plan, fine⟩ := transcript.ok_of_answers rfl (fun c => rfl) listed fun i => ⟨[], rfl⟩
  refine ⟨_, .first ⟨.scripted [] [], plan, sent, lists, ?_, ?_, rfl⟩⟩
  · rw [runOnce_run, fine]
    rfl
  · rw [runOnce_run]
    exact sent_eq

/-- Noon of the first day of 2020. -/
def noon : Clock := (Clock.atDate Catalogue.newYear).advance (.ofSeconds 43200)

def sixtyHours : Duration := .ofSeconds 216000

theorem soon_sixtyHours : sixtyHours.nanos < (pause intervalMinutes.2).nanos := by decide

theorem not_mem_of_three_days (few : future ≤ 3) (scheduled : Scheduled past future noon tables) :
    (partitionOf (noon.advance sixtyHours).today).name ∉ tables := by
  have today : noon.today.dayNumber = 18262 := by decide
  have later : (noon.advance sixtyHours).today.dayNumber = 18265 := by decide
  have least : Window.minDays = 2 := rfl
  rw [scheduled.mem_tables, Window.mem_dates]
  omega

/-- At every time until the next run the latest run has left a partition for the date, whenever
the runs are and however long they pause, exactly if the window reaches at least four days from
today on. -/
theorem todays_partition_exists (future : Nat) :
    (∀ past clock tables (wait : Duration), Scheduled past future clock tables →
      wait.nanos < (pause intervalMinutes.2).nanos →
      (partitionOf (clock.advance wait).today).name ∈ tables) ↔ 4 ≤ future := by
  constructor
  · intro lasts
    by_contra few
    obtain ⟨tables, scheduled⟩ := exists_scheduled 0 future noon
    exact not_mem_of_three_days (by omega) scheduled (lasts _ _ _ _ scheduled soon_sixtyHours)
  · intro enough past clock tables wait scheduled soon
    exact scheduled.mem_of_four_days enough soon

/-- Settings with the least window that is kept. -/
def shortSettings : Settings where
  databaseUrl := "postgres://localhost/courier"
  databaseMaxConnections := 10
  databaseMinConnections := 1
  databaseConnectionTimeout := 5
  workerPoolMultiplier := 4
  mainBatchSize := 200
  retryBatchSize := 100
  executionWindowMs := 3000
  deliveryTimeoutMs := 2950
  partitionPastDays := 2
  partitionFutureDays := 2
  shutdownTimeoutSeconds := 30
  logFilter := "info"

/-- Settings with too short a window are accepted, and then a day comes without a partition. -/
theorem shortSettings_lack_a_day : shortSettings.flaw? = none ∧ ∃ tables,
    Scheduled shortSettings.partitionPastDays shortSettings.partitionFutureDays noon tables ∧
      sixtyHours.nanos < (pause intervalMinutes.2).nanos ∧
      (partitionOf (noon.advance sixtyHours).today).name ∉ tables := by
  obtain ⟨tables, scheduled⟩ := exists_scheduled 2 2 noon
  exact ⟨rfl, tables, scheduled, soon_sixtyHours, not_mem_of_three_days (by omega) scheduled⟩

end Partition.Manager

end Courier

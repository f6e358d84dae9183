import Courier.Partition.Manager
import Courier.Proofs.Partition.Effect
import Courier.Proofs.Partition.Window

/-!
# The partition manager keeps what is read

`reachable_days_are_kept` says that a run of the partition manager never drops a day from which
events are still read, nor today or tomorrow, and that each of these days has a partition after a
run that succeeds.
-/

namespace Courier.Partition.Manager

open DailyPartition

variable {today d : Date} {past future : Nat}

def wanted (today : Date) (past future : Nat) : OrderedSet DailyPartition :=
  Window.partitions EventLog.tableName today past future

theorem mem_wanted : (⟨EventLog.tableName, d⟩ : DailyPartition) ∈ wanted today past future ↔
    d ∈ Window.dates today past future := by
  rw [wanted, Window.mem_partitions]
  exact and_iff_right rfl

theorem runOnce_run (today : Date) (past future : Nat) (s : Session) :
    (runOnce today past future).runOn s =
      (((Catalogue.reconcile EventLog.tableName (wanted today past future)).runOn s).1.mapError
        .storage,
      ((Catalogue.reconcile EventLog.tableName (wanted today past future)).runOn s).2) :=
  Action.runOn_mapError _ _ _

theorem ok_of_mapError {ε δ α : Type} {f : ε → δ} {r : Except ε α} {v : α}
    (fine : r.mapError f = .ok v) : r = .ok v := by
  cases r with
  | error e => cases fine
  | ok w => exact congrArg Except.ok (Except.ok.inj fine)

/-- Whatever the counts are and whatever the database replies, a run drops no day whose events are
still read, nor today or tomorrow; if it succeeds, each of these days is listed or created. -/
theorem reachable_days_are_kept (clock : Clock) (past future : Nat) (s : Session) :
    ∃ sent, ((runOnce clock.today past future).runOn s).2.sent = s.sent ++ sent ∧
      (∀ x ∈ sent, x.isStatement = true →
        x = Catalogue.listing EventLog.tableName ∨ ∃ c, x.change? = some c) ∧
      ∀ d, Window.retentionCutoff clock.today ≤ d → d.dayNumber ≤ clock.today.dayNumber + 1 →
        (∀ x ∈ sent, ¬ x.Drops (name ⟨EventLog.tableName, d⟩)) ∧
        ∀ plan, ((runOnce clock.today past future).runOn s).1 = .ok plan →
          (∃ names, Catalogue.Listed s names ∧ name ⟨EventLog.tableName, d⟩ ∈ names) ∨
            ∃ x ∈ sent, x.Creates (name ⟨EventLog.tableName, d⟩) := by
  obtain ⟨sent, sent_eq, transcript⟩ :=
    Catalogue.reconcile_run EventLog.tableName (wanted clock.today past future) s
  rw [runOnce_run]
  refine ⟨sent, sent_eq, fun x member statement => ?_, fun d readable soon => ?_⟩
  · exact transcript.readable member statement
  have needed : (⟨EventLog.tableName, d⟩ : DailyPartition) ∈ wanted clock.today past future :=
    mem_wanted.mpr (Window.mem_dates_of_readable readable soon past future)
  refine ⟨fun x member drops => ?_, fun plan fine => ?_⟩
  · obtain ⟨names, p, listed, removed, same⟩ := transcript.mem_of_drops member drops
    rw [name_injective same] at removed
    exact (Catalogue.mem_remove.mp removed).2 needed
  · rw [ok_of_mapError fine] at transcript
    obtain ⟨names, listed, rfl, _⟩ := transcript.mem_after
    by_cases present : (⟨EventLog.tableName, d⟩ : DailyPartition) ∈
        Catalogue.partitionsAmong EventLog.tableName names
    · exact .inl ⟨names, listed, (Catalogue.mem_partitionsAmong.mp present).2.2⟩
    · exact .inr (transcript.creates_of_add (Catalogue.mem_add.mpr ⟨needed, present⟩))

end Courier.Partition.Manager

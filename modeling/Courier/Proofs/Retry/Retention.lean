import Courier.Proofs.Calendar.Clock
import Courier.Proofs.Partition.Window
import Courier.Proofs.Polling.Attribution

/-!
# Retries stay in the retention window

A retry becomes due within six hours of the creation of its event. `retries_stay_in_retention` says
that every cycle up to a day later still reads and records the partition of the event.
-/

namespace Courier

/-- Instants in the order of time. A leap second is over before the next second begins. -/
instance : LE Instant := ⟨fun t u =>
  t.date < u.date ∨
    t.date = u.date ∧ (t.second < u.second ∨ t.second = u.second ∧ t.nano ≤ u.nano)⟩

namespace Instant

variable {t u v now : Instant} {n k : Nat}

theorem date_le (le : t ≤ u) : t.date ≤ u.date := by
  rcases le with before | ⟨same, -⟩
  · exact Int.le_of_lt before
  · rw [same]
    exact Int.le_refl _

theorem nanos_lt (t : Instant) : t.nanos < (t.date.dayNumber + 1) * 86400000000000 + 1000000000 := by
  have short := t.second_lt
  have high := t.nano_lt
  unfold nanos
  omega

/-- Two waits together, of which the second one may end early, move the date on by no more days than
they would fill. -/
theorem date_of_waits (days : Nat) (first : t.plus? n = some u)
    (second : ∀ v, u.plus? k = some v → now ≤ v)
    (short : n + k + 1000000000 ≤ days * 86400000000000) :
    now.date.dayNumber ≤ t.date.dayNumber + days := by
  have start := t.nanos_lt
  have wait := (days_of_plus? first).2
  cases ends : u.plus? k with
  | none =>
    have beyond := days_of_plus?_eq_none ends
    have last : now.date.dayNumber ≤ Date.last.dayNumber := now.date.notAfter
    omega
  | some v =>
    have again := (days_of_plus? ends).2
    have least := v.day_le_nanos
    have early : now.date.dayNumber ≤ v.date.dayNumber := date_le (second v ends)
    omega

end Instant

namespace Polling

variable {τ : Type} {d : Dispatcher τ} {queue : Queue} {batch : Int64} {now : Instant}
  {s : Session} {p : Phase} {t t' : τ} {r : Except DeliveryError Phase} {sent statements : List Sent}

/-- The statement reads or changes events of the log by their partition date. -/
def IsFiltered (x : Sent) : Prop :=
  Sent.sql? x = some EventLog.listingSql ∨ Sent.sql? x = some EventLog.recordingSql

theorem not_isFiltered {sql : String} {params : List Value}
    (other : sql ∈ [MainQueue.claimSql, RetryQueue.claimSql, RetryQueue.entrySql,
      Subscriptions.disablingSql]) : ¬ IsFiltered (.statement sql params) := by
  have apart : ∀ sql ∈ [MainQueue.claimSql, RetryQueue.claimSql, RetryQueue.entrySql,
      Subscriptions.disablingSql], sql ≠ EventLog.listingSql ∧ sql ≠ EventLog.recordingSql := by
    decide +kernel
  rintro (listed | recorded)
  · exact (apart sql other).1 (Option.some.inj listed)
  · exact (apart sql other).2 (Option.some.inj recorded)

theorem Stage.filtered (stage : Stage d queue batch now s p sent t r statements t') {x : Sent}
    (member : x ∈ statements) (filtered : IsFiltered x) :
    lastParam? x = some (.date (Window.retentionCutoff now.date)) := by
  cases stage with
  | connect | rest | deliver | decide | undecided => cases member
  | begin | commit =>
    rw [List.mem_singleton.mp member] at filtered
    rcases filtered with listed | recorded
    · cases listed
    · cases recorded
  | claim =>
    rw [List.mem_singleton.mp member] at filtered
    cases queue with
    | main => exact absurd filtered (not_isFiltered (by simp))
    | retry => exact absurd filtered (not_isFiltered (by simp))
  | list =>
    unfold listing at member
    split at member
    · cases member
    · rw [List.mem_singleton.mp member]
      rfl
  | record =>
    unfold recording at member
    split at member
    · cases member
    · rw [List.mem_singleton.mp member]
      rfl
  | enter =>
    unfold entering at member
    split at member
    · rw [List.mem_singleton.mp member] at filtered
      exact absurd filtered (not_isFiltered (by simp))
    · cases member
  | disable =>
    unfold disabling at member
    split at member
    · rw [List.mem_singleton.mp member] at filtered
      exact absurd filtered (not_isFiltered (by simp))
    · cases member

end Polling

namespace Backoff

open Polling

variable {a : Attempt} {t now : Instant}

theorem cutoff_le (decided : decide a = .ok (.retryAt t))
    (soon : ∀ u, t.plus? 86400000000000 = some u → now ≤ u) :
    Window.retentionCutoff now.date ≤ a.createdAt.date := by
  obtain ⟨-, tried, few, time⟩ := decide_retryAt_iff.mp decided
  have curve : 3 ^ a.tryCount.toNat ≤ 3 ^ 9 := Nat.pow_le_pow_right (by decide) (by omega)
  have days := Instant.date_of_waits 2 time soon (by omega)
  have first : Date.first.dayNumber ≤ a.createdAt.date.dayNumber := a.createdAt.date.notBefore
  have window : (Window.retentionDays : Int) = 2 := rfl
  show (Window.retentionCutoff now.date).dayNumber ≤ a.createdAt.date.dayNumber
  rw [Window.dayNumber_retentionCutoff]
  omega

/-- A cycle that runs at most a day after a retry has become due has a cutoff that is not after the
date on which the event was created, and all that it reads and records is filtered by this cutoff. -/
theorem retries_stay_in_retention (decided : decide a = .ok (.retryAt t))
    (soon : ∀ u, t.plus? 86400000000000 = some u → now ≤ u) :
    Window.retentionCutoff now.date ≤ a.createdAt.date ∧
    ∀ (τ : Type) (d : Dispatcher τ) (queue : Queue) (batch : Int64) (start : Session × τ),
      ∃ sent, ((poll queue d.run batch now).runOn start).2.1.sent = start.1.sent ++ sent ∧
        ∀ x ∈ sent, IsFiltered x →
          lastParam? x = some (.date (Window.retentionCutoff now.date)) := by
  refine ⟨cutoff_le decided soon, fun τ d queue batch start => ?_⟩
  obtain ⟨s, t₀⟩ := start
  obtain ⟨sent, sent_eq, origin⟩ := poll_statements d queue batch now s t₀
  refine ⟨sent, sent_eq, fun x member filtered => ?_⟩
  obtain rfl | ⟨_, _, _, _, _, _, -, stage, stated⟩ := origin x member
  · rcases filtered with listed | recorded
    · cases listed
    · cases recorded
  · exact stage.filtered stated filtered

/-- The ninth attempt for an event that was created just before midnight on 27 February 2024. -/
def lastButOne : Attempt :=
  ⟨⟨.nil⟩, .timeout, ⟨.nil⟩, 9,
    { Instant.last with date := ⟨19780, by decide, by decide⟩ }⟩

def tenthDue : Instant :=
  { Instant.last with
    date := ⟨19781, by decide, by decide⟩
    second := 19682
    second_lt := by decide
    leap_at := by decide }

/-- A day later, on 29 February. -/
def leapDay : Instant :=
  { tenthDue with date := ⟨19782, by decide, by decide⟩ }

/-- Two events are claimed, and listed with a receiver that cannot be reached. -/
def crossing : Session × (Workers.Timetable × Network) :=
  (.scripted [.rows [[("event_id", .uuid (.ofNumber 1))], [("event_id", .uuid (.ofNumber 2))]],
    .rows [listedFor 2 "http://[::1]/", listedFor 1 "http://[::1]/"]] [], .start 2, ⟨[], false, []⟩)

theorem leapDay_filters : ∀ sql ∈ [EventLog.listingSql, EventLog.recordingSql],
    sql ∈ ((poll .retry (Workers.dispatcher Workers.plainClient).run 10 leapDay).runOn
      crossing).2.1.sent.filterMap Sent.sql? := by
  decide +kernel

/-- Two days after the creation of an event a cycle still lists and records its partition. -/
theorem retries_stay_in_retention_leapDay :
    Date.ofCivil? 2024 2 27 = some lastButOne.createdAt.date ∧
    Date.ofCivil? 2024 2 29 = some leapDay.date ∧
    decide lastButOne = .ok (.retryAt tenthDue) ∧
    (∀ u, tenthDue.plus? 86400000000000 = some u → leapDay ≤ u) ∧
    Window.retentionCutoff leapDay.date ≤ lastButOne.createdAt.date ∧
    ∀ sql ∈ [EventLog.listingSql, EventLog.recordingSql], ∃ x,
      x ∈ ((poll .retry (Workers.dispatcher Workers.plainClient).run 10 leapDay).runOn
        crossing).2.1.sent ∧
      Sent.sql? x = some sql ∧ lastParam? x = some (.date lastButOne.createdAt.date) := by
  have decided : decide lastButOne = .ok (.retryAt tenthDue) := by rfl
  have soon : ∀ u, tenthDue.plus? 86400000000000 = some u → leapDay ≤ u := by
    intro u later
    have same : tenthDue.plus? 86400000000000 = some leapDay := by rfl
    obtain rfl : leapDay = u := Option.some.inj (same.symm.trans later)
    exact .inr ⟨rfl, .inr ⟨rfl, Nat.le_refl _⟩⟩
  obtain ⟨reached, cycles⟩ := retries_stay_in_retention decided soon
  refine ⟨by rfl, by rfl, decided, soon, reached, fun sql either => ?_⟩
  obtain ⟨x, member, known⟩ := List.mem_filterMap.mp (leapDay_filters sql either)
  obtain ⟨sent, sent_eq, filters⟩ := cycles _ (Workers.dispatcher Workers.plainClient) .retry 10
    crossing
  have filtered : IsFiltered x := by
    rcases List.mem_cons.mp either with rfl | recorded
    · exact .inl known
    · exact .inr (by rw [known, List.mem_singleton.mp recorded])
  exact ⟨x, member, known, filters x (by rwa [sent_eq] at member) filtered⟩

end Backoff

end Courier

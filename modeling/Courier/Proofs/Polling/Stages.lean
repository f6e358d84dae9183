import Courier.Polling.Cycle
import Courier.Proofs.Database.Script
import Courier.Proofs.Polling.Dispatcher
import Courier.Proofs.Sending.Scheduling

/-!
# The stages of a poll cycle

A cycle passes one stage after the other. A stage sends at most one statement, and the reply to it
says whether the cycle comes to the next phase or fails. `Passes` says how far a cycle comes on a
given script of replies, without running it.
-/

namespace Courier.Polling

/-- How far a cycle has come, with what its next stages need. -/
inductive Phase where
  | opened
  | begun
  | claimed (ids : List EventId)
  | listed (ids : List EventId) (pending : List PendingDelivery)
  | answered (ids : List EventId) (pending : List PendingDelivery) (responses : List Response)
  | recorded (ids : List EventId) (attempts : List Attempt)
  | decided (ids : List EventId) (attempts : List Attempt)
  | entered (ids : List EventId) (attempts : List Attempt)
  | settled (claimed : Nat)
  | committed (claimed : Nat)

/-! ### The statements -/

def claiming (queue : Queue) (batch : Int64) (now : Instant) : Sent :=
  match queue with
  | .main => .statement MainQueue.claimSql [.int64 batch]
  | .retry => .statement RetryQueue.claimSql [.time now, .int64 batch]

def listing (ids : List EventId) (now : Instant) : List Sent :=
  if ids = [] then []
  else
    [.statement EventLog.listingSql
      [.array (ids.map .id), .date (Window.retentionCutoff now.date)]]

/-- The statement that records attempts, if something was to be posted. Its last parameter is the
cutoff of the listing. -/
def recording (pending : List PendingDelivery) (responses : List Response) (now : Instant) :
    List Sent :=
  if pending = [] then []
  else [.statement EventLog.recordingSql (EventLog.attemptParams responses now.date)]

def entering (attempts : List Attempt) : List Sent :=
  if ∃ a ∈ attempts, a.isRetriable then
    [.statement RetryQueue.entrySql (RetryQueue.entryParams (attempts.filterMap Attempt.retry?))]
  else []

def disabling (attempts : List Attempt) : List Sent :=
  if ∃ a ∈ attempts, a.isExhausted then
    [.statement Subscriptions.disablingSql
      [.array ((Pipeline.Schedule.ofAttempts attempts).exhausted.toList.map .id)]]
  else []

/-! ### The stages -/

def onReply {α : Type} (next : α → Phase) (r : Except StorageError α) :
    Except DeliveryError Phase :=
  (r.map next).mapError .storage

variable {τ : Type}

/-- One stage of a cycle on the session `s`: from a phase, with what was sent until then and the
state of the dispatcher, to the next phase or a failure, with the statements that are sent and the
state of the dispatcher afterwards. A stage that sends a statement fails exactly if the reply to it
is a failure, or if a row that is read cannot be decoded. -/
inductive Stage (d : Dispatcher τ) (queue : Queue) (batch : Int64) (now : Instant) (s : Session) :
    Phase → List Sent → τ → Except DeliveryError Phase → List Sent → τ → Prop where
  | connect {t : τ} (unreachable : s.isReachable = false) :
      Stage d queue batch now s .opened [] t (.error (.storage .connectionLost)) [] t
  | begin {t : τ} (reachable : s.isReachable = true) :
      Stage d queue batch now s .opened [] t
        (onReply (fun _ => .begun) (s.controlReply .begin)) [.control .begin] t
  | claim {sent : List Sent} {t : τ} :
      Stage d queue batch now s .begun sent t
        (onReply .claimed ((s.replyAfter sent).all (Row.first Row.id?)))
        [claiming queue batch now] t
  | rest {sent : List Sent} {t : τ} :
      Stage d queue batch now s (.claimed []) sent t (.ok (.settled 0)) [] t
  | list {ids : List EventId} {sent : List Sent} {t : τ} (some : ids ≠ []) :
      Stage d queue batch now s (.claimed ids) sent t
        (onReply (.listed ids) ((s.replyAfter sent).all Row.pendingDelivery)) (listing ids now) t
  | deliver {ids : List EventId} {pending : List PendingDelivery} {sent : List Sent} {t t' : τ}
      {r : Except DeliveryError (List Response)}
      (answer : (d.run (pending.map .ofPending)).runOn t = (r, t')) :
      Stage d queue batch now s (.listed ids pending) sent t (r.map (.answered ids pending)) [] t'
  | record {ids : List EventId} {pending : List PendingDelivery} {responses : List Response}
      {sent : List Sent} {t : τ} :
      Stage d queue batch now s (.answered ids pending responses) sent t
        (onReply (.recorded ids)
          (if pending = [] then .ok []
            else ((s.replyAfter sent).all Row.attempt).mapError .ofWrite))
        (recording pending responses now) t
  | decide {ids : List EventId} {attempts : List Attempt} {sent : List Sent} {t : τ}
      (decided : ∀ a ∈ attempts, ∃ x, Backoff.decide a = .ok x) :
      Stage d queue batch now s (.recorded ids attempts) sent t (.ok (.decided ids attempts)) [] t
  /-- The first attempt without a decision ends the cycle. -/
  | undecided {ids : List EventId} {before after : List Attempt} {a : Attempt} {e : DeliveryError}
      {sent : List Sent} {t : τ} (decided : ∀ b ∈ before, ∃ x, Backoff.decide b = .ok x)
      (failure : Backoff.decide a = .error e) :
      Stage d queue batch now s (.recorded ids (before ++ a :: after)) sent t (.error e) [] t
  | enter {ids : List EventId} {attempts : List Attempt} {sent : List Sent} {t : τ} :
      Stage d queue batch now s (.decided ids attempts) sent t
        (onReply (fun _ => .entered ids attempts)
          (if ∃ a ∈ attempts, a.isRetriable then (s.replyAfter sent).count else .ok 0))
        (entering attempts) t
  | disable {ids : List EventId} {attempts : List Attempt} {sent : List Sent} {t : τ} :
      Stage d queue batch now s (.entered ids attempts) sent t
        (onReply (fun _ => .settled ids.length)
          (if ∃ a ∈ attempts, a.isExhausted then (s.replyAfter sent).count.mapError .ofWrite
            else .ok 0))
        (disabling attempts) t
  | commit {claimed : Nat} {sent : List Sent} {t : τ} :
      Stage d queue batch now s (.settled claimed) sent t
        (onReply (fun _ => .committed claimed) (s.controlReply .commit)) [.control .commit] t

/-- The stages that a cycle passes from its start, with the dispatcher in the state `t₀`, to a
phase, with all that they send. -/
inductive Passes (d : Dispatcher τ) (queue : Queue) (batch : Int64) (now : Instant) (s : Session)
    (t₀ : τ) : Phase → List Sent → τ → Prop where
  | none : Passes d queue batch now s t₀ .opened [] t₀
  | more {p q : Phase} {sent statements : List Sent} {t t' : τ}
      (before : Passes d queue batch now s t₀ p sent t)
      (stage : Stage d queue batch now s p sent t (.ok q) statements t') :
      Passes d queue batch now s t₀ q (sent ++ statements) t'

variable {d : Dispatcher τ} {queue : Queue} {batch : Int64} {now : Instant} {s : Session}
  {sent statements : List Sent}

theorem onReply_ok {α : Type} {next : α → Phase} {r : Except StorageError α} {q : Phase}
    (fine : onReply next r = .ok q) : ∃ v, r = .ok v ∧ next v = q := by
  cases r with
  | error e => cases fine
  | ok v => exact ⟨v, rfl, Except.ok.inj fine⟩

/-! ### What the queries of a cycle send -/

theorem claim_sends :
    (queue.claim batch now).Sends s sent [claiming queue batch now]
      ((s.replyAfter sent).all (Row.first Row.id?)) := by
  cases queue <;> exact Query.sends_all

theorem listing_sends {ids : List EventId} (some : ids ≠ []) :
    (EventLog.listForSending ids now.date).Sends s sent (listing ids now)
      ((s.replyAfter sent).all Row.pendingDelivery) := by
  unfold EventLog.listForSending listing
  rw [if_neg some, if_neg (by simpa using some)]
  exact Query.sends_all

theorem recording_sends {pending : List PendingDelivery} {responses : List Response}
    (complete : responses.length = pending.length) :
    (EventLog.recordAttempts responses now.date).Sends s sent (recording pending responses now)
      (if pending = [] then .ok []
        else ((s.replyAfter sent).all Row.attempt).mapError .ofWrite) := by
  unfold EventLog.recordAttempts recording
  by_cases none : pending = []
  · rw [none, List.length_nil, List.length_eq_zero_iff] at complete
    rw [if_pos none, if_pos none, complete]
    exact Query.sends_nothing []
  · have some : responses ≠ [] := by
      rintro rfl
      exact none (List.length_eq_zero_iff.mp complete.symm)
    rw [if_neg none, if_neg none, if_neg (by simpa using some)]
    exact Query.sends_all.onWrite

theorem retries_ne_nil_iff {attempts : List Attempt}
    (decided : ∀ a ∈ attempts, ∃ x, Backoff.decide a = .ok x) :
    attempts.filterMap Attempt.retry? ≠ [] ↔ ∃ a ∈ attempts, a.isRetriable := by
  obtain ⟨_, ⟨added, same, repeats⟩, _⟩ := Pipeline.schedule_ok (Pipeline.schedule_of_decided decided)
  rw [List.nil_append] at same
  subst same
  have lengths : (attempts.filterMap Attempt.retry?).length =
      (attempts.filter (·.isRetriable)).length := repeats.length_eq
  rw [← List.length_pos_iff, lengths, List.length_pos_iff]
  simp only [ne_eq, List.filter_eq_nil_iff]
  simp

theorem entering_sends {attempts : List Attempt}
    (decided : ∀ a ∈ attempts, ∃ x, Backoff.decide a = .ok x) :
    (RetryQueue.enqueue (attempts.filterMap Attempt.retry?)).Sends s sent (entering attempts)
      ((if ∃ a ∈ attempts, a.isRetriable then (s.replyAfter sent).count else .ok 0).map
        fun _ => ()) := by
  have given := retries_ne_nil_iff decided
  unfold RetryQueue.enqueue entering
  by_cases some : ∃ a ∈ attempts, a.isRetriable
  · rw [if_pos some, if_pos some, if_neg (by simpa using given.mpr some)]
    exact Query.sends_run.map _
  · have none : attempts.filterMap Attempt.retry? = [] := not_not.mp (mt given.mp some)
    rw [if_neg some, if_neg some, none]
    exact Query.sends_nothing ()

theorem exhausted_ne_nil_iff {attempts : List Attempt} :
    (Pipeline.Schedule.ofAttempts attempts).exhausted.toList ≠ [] ↔
      ∃ a ∈ attempts, a.isExhausted := by
  constructor
  · intro some
    obtain ⟨x, member⟩ := List.exists_mem_of_ne_nil _ some
    obtain ⟨a, among, last, _⟩ := Pipeline.Schedule.mem_exhausted.mp member
    exact ⟨a, among, Attempt.isExhausted_iff.mpr (Backoff.decide_exhausted_iff.mp last)⟩
  · rintro ⟨a, among, last⟩
    have given := Backoff.decide_exhausted_iff.mpr (Attempt.isExhausted_iff.mp last)
    exact List.ne_nil_of_mem (Pipeline.Schedule.mem_exhausted.mpr ⟨a, among, given, rfl⟩)

theorem disabling_sends {attempts : List Attempt} :
    (Subscriptions.disable (Pipeline.Schedule.ofAttempts attempts).exhausted.toList).Sends s sent
      (disabling attempts)
      (if ∃ a ∈ attempts, a.isExhausted then (s.replyAfter sent).count.mapError .ofWrite
        else .ok 0) := by
  unfold Subscriptions.disable disabling
  by_cases some : ∃ a ∈ attempts, a.isExhausted
  · rw [if_pos some, if_pos some, if_neg (by simpa using exhausted_ne_nil_iff.mpr some)]
    exact Query.sends_run.onWrite
  · rw [if_neg some, if_neg some, not_not.mp (mt exhausted_ne_nil_iff.mp some)]
    exact Query.sends_nothing 0

/-! ### What holds at a phase -/

namespace Phase

def count? : Phase → Option Nat
  | opened | begun => none
  | claimed ids | listed ids _ | answered ids _ _ | recorded ids _ | decided ids _
  | entered ids _ => some ids.length
  | settled n | committed n => some n

/-- The responses are those to the requests, and the attempts have been decided on. -/
def IsOrderly : Phase → Prop
  | answered _ pending responses => responses.length = pending.length
  | decided _ attempts | entered _ attempts => ∀ a ∈ attempts, ∃ x, Backoff.decide a = .ok x
  | _ => True

/-- What a cycle has sent when it comes to a phase. -/
def Spells (queue : Queue) (batch : Int64) (now : Instant) : Phase → List Sent → Prop
  | opened, sent => sent = []
  | begun, sent => sent = [.control .begin]
  | claimed _, sent => sent = [.control .begin, claiming queue batch now]
  | listed ids _, sent | answered ids _ _, sent =>
    sent = [.control .begin, claiming queue batch now] ++ listing ids now
  | recorded ids _, sent | decided ids _, sent => ∃ pending responses,
    sent = [.control .begin, claiming queue batch now] ++ listing ids now ++
      recording pending responses now
  | entered ids attempts, sent => ∃ pending responses,
    sent = [.control .begin, claiming queue batch now] ++ listing ids now ++
      recording pending responses now ++ entering attempts
  | settled n, sent => ∃ ids pending responses attempts, n = List.length ids ∧
    sent = [.control .begin, claiming queue batch now] ++ listing ids now ++
      recording pending responses now ++ entering attempts ++ disabling attempts
  | committed n, sent => ∃ ids pending responses attempts, n = List.length ids ∧
    sent = [.control .begin, claiming queue batch now] ++ listing ids now ++
      recording pending responses now ++ entering attempts ++ disabling attempts ++
      [.control .commit]

end Phase

section Steps

variable {p q : Phase} {t t' : τ} {r : Except DeliveryError Phase}

theorem map_ok {ε α β : Type} {f : α → β} {x : Except ε α} {b : β} (fine : x.map f = .ok b) :
    ∃ a, x = .ok a ∧ f a = b := by
  cases x with
  | error e => cases fine
  | ok a => exact ⟨a, rfl, Except.ok.inj fine⟩

theorem Stage.orderly (stage : Stage d queue batch now s p sent t r statements t') (fine : r = .ok q)
    (orderly : p.IsOrderly) : q.IsOrderly := by
  cases stage with
  | connect | undecided => cases fine
  | rest => cases fine; trivial
  | deliver answer =>
    obtain ⟨responses, rfl, rfl⟩ := map_ok fine
    exact (d.complete answer).trans (List.length_map _)
  | decide decided => cases fine; exact decided
  | enter =>
    obtain ⟨_, _, rfl⟩ := onReply_ok fine
    exact orderly
  | begin | claim | list | record | disable | commit =>
    obtain ⟨_, _, rfl⟩ := onReply_ok fine
    trivial

theorem Stage.spells (stage : Stage d queue batch now s p sent t r statements t') (fine : r = .ok q)
    (spells : p.Spells queue batch now sent) : q.Spells queue batch now (sent ++ statements) := by
  cases stage with
  | connect | undecided => cases fine
  | begin =>
    obtain ⟨_, _, rfl⟩ := onReply_ok fine
    rfl
  | claim | list =>
    obtain ⟨_, _, rfl⟩ := onReply_ok fine
    rw [show sent = _ from spells]
    rfl
  | rest =>
    cases fine
    refine ⟨[], [], [], [], rfl, ?_⟩
    rw [show sent = _ from spells]
    simp [listing, recording, entering, disabling]
  | deliver =>
    obtain ⟨_, _, rfl⟩ := map_ok fine
    rw [List.append_nil]
    exact spells
  | decide =>
    cases fine
    rw [List.append_nil]
    exact spells
  | record =>
    obtain ⟨_, _, rfl⟩ := onReply_ok fine
    rw [show sent = _ from spells]
    exact ⟨_, _, rfl⟩
  | enter =>
    obtain ⟨_, _, rfl⟩ := onReply_ok fine
    obtain ⟨_, _, rfl⟩ := spells
    exact ⟨_, _, rfl⟩
  | disable =>
    obtain ⟨_, _, rfl⟩ := onReply_ok fine
    obtain ⟨_, _, rfl⟩ := spells
    exact ⟨_, _, _, _, rfl, rfl⟩
  | commit =>
    obtain ⟨_, _, rfl⟩ := onReply_ok fine
    obtain ⟨_, _, _, _, rfl, rfl⟩ := spells
    exact ⟨_, _, _, _, rfl, rfl⟩

theorem Stage.count (stage : Stage d queue batch now s p sent t r statements t') (fine : r = .ok q)
    (spells : p.Spells queue batch now sent) {n : Nat} (count : q.count? = some n) :
    p.count? = some n ∨ n = (s.reply 0).found.length := by
  cases stage with
  | connect | undecided => cases fine
  | begin =>
    obtain ⟨_, _, rfl⟩ := onReply_ok fine
    cases count
  | claim =>
    obtain ⟨ids, decoded, rfl⟩ := onReply_ok fine
    cases count
    cases spells
    exact .inr (Reply.length_of_all decoded)
  | rest | decide => cases fine; exact .inl count
  | deliver =>
    obtain ⟨_, _, rfl⟩ := map_ok fine
    exact .inl count
  | list | record | enter | disable | commit =>
    obtain ⟨_, _, rfl⟩ := onReply_ok fine
    exact .inl count

theorem Stage.commit_mem (stage : Stage d queue batch now s p sent t r statements t')
    (member : .control .commit ∈ statements) :
    ∃ n, p = .settled n ∧ r = onReply (fun _ => .committed n) (s.controlReply .commit) := by
  cases stage with
  | commit => exact ⟨_, rfl, rfl⟩
  | connect | rest | deliver | decide | undecided => cases member
  | begin | claim => cases queue <;> simp [claiming] at member
  | list => unfold listing at member; split at member <;> simp at member
  | record => unfold recording at member; split at member <;> simp at member
  | enter => unfold entering at member; split at member <;> simp at member
  | disable => unfold disabling at member; split at member <;> simp at member

theorem Stage.begins (stage : Stage d queue batch now s .opened sent t (.ok q) statements t') :
    s.Begins := by
  generalize result : Except.ok q = r at stage
  cases stage with
  | connect => cases result
  | begin reachable =>
    obtain ⟨_, accepted, _⟩ := onReply_ok result.symm
    exact ⟨reachable, Session.controlReply_ok_iff.mp accepted⟩

theorem Stage.commits {n : Nat}
    (stage : Stage d queue batch now s p sent t (.ok (.committed n)) statements t') :
    s.Commits := by
  generalize result : Except.ok (Phase.committed n) = r at stage
  cases stage with
  | commit =>
    obtain ⟨_, accepted, _⟩ := onReply_ok result.symm
    exact Session.controlReply_ok_iff.mp accepted
  | connect | rest | decide | undecided => cases result
  | deliver =>
    obtain ⟨_, _, other⟩ := map_ok result.symm
    cases other
  | begin | claim | list | record | enter | disable =>
    obtain ⟨_, _, other⟩ := onReply_ok result.symm
    cases other

/-- What holds of a cycle that has come to a phase. -/
structure Passed (queue : Queue) (batch : Int64) (now : Instant) (s : Session) (p : Phase)
    (sent : List Sent) : Prop where
  orderly : p.IsOrderly
  spells : p.Spells queue batch now sent
  count : ∀ n, p.count? = some n → n = (s.reply 0).found.length
  begins : p ≠ .opened → s.Begins
  commits : ∀ n, p = .committed n → s.Commits
  committed : .control .commit ∈ sent → ∃ n, p = .committed n

theorem Passed.stage (passed : Passed queue batch now s p sent)
    (stage : Stage d queue batch now s p sent t (.ok q) statements t') :
    Passed queue batch now s q (sent ++ statements) where
  orderly := stage.orderly rfl passed.orderly
  spells := stage.spells rfl passed.spells
  count n known := by
    obtain before | rows := stage.count rfl passed.spells known
    · exact passed.count n before
    · exact rows
  begins _ := by
    by_cases opened : p = .opened
    · subst opened
      exact stage.begins
    · exact passed.begins opened
  commits n last := by
    subst last
    exact stage.commits
  committed member := by
    obtain before | last := List.mem_append.mp member
    · -- A cycle that has been committed has no stage to come.
      obtain ⟨n, rfl⟩ := passed.committed before
      cases stage
    · obtain ⟨n, rfl, fine⟩ := stage.commit_mem last
      obtain ⟨_, _, rfl⟩ := onReply_ok fine.symm
      exact ⟨n, rfl⟩

theorem Passes.passed {t₀ : τ} (passes : Passes d queue batch now s t₀ p sent t) :
    Passed queue batch now s p sent := by
  induction passes with
  | none => exact ⟨trivial, rfl, nofun, fun begun => absurd rfl begun, nofun, nofun⟩
  | more _ stage ih => exact ih.stage stage

end Steps

end Courier.Polling

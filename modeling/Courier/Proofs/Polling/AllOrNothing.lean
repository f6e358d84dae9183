import Courier.Proofs.Polling.Stages

/-!
# A poll cycle is all or nothing

`poll_all_or_nothing` says how a cycle ends on any script of replies: either it passes all stages
and commits, or one of them fails, the cycle with it, and nothing but a rollback is sent after it.
-/

namespace Courier.Polling

variable {τ : Type} {d : Dispatcher τ} {queue : Queue} {batch : Int64} {now : Instant}

/-! ### What is left of a cycle -/

def guarded (work : Action DeliveryError (Session × τ) Nat) :
    Action DeliveryError (Session × τ) Nat := do
  let n ← work.onFailure fun (s, t) => (s.abandon, t)
  onDatabase Query.commit
  return n

section Rest

variable (d : Dispatcher τ) (queue : Queue) (batch : Int64) (now : Instant)

def afterEntering (ids : List EventId) (schedule : Pipeline.Schedule) :
    Action DeliveryError (Session × τ) Nat := do
  let _ ← onDatabase (Subscriptions.disable schedule.exhausted.toList)
  return ids.length

def afterDeciding (ids : List EventId) (schedule : Pipeline.Schedule) :
    Action DeliveryError (Session × τ) Nat := do
  onDatabase (RetryQueue.enqueue schedule.retries)
  afterEntering ids schedule

def afterRecording (ids : List EventId) (attempts : List Attempt) :
    Action DeliveryError (Session × τ) Nat := do
  let schedule ← ExceptT.mk (pure (Pipeline.schedule ⟨0, [], .empty⟩ attempts))
  afterDeciding ids schedule

def afterAnswers (ids : List EventId) (responses : List Response) :
    Action DeliveryError (Session × τ) Nat := do
  let attempts ← onDatabase (EventLog.recordAttempts responses now.date)
  afterRecording ids attempts

def afterListing (ids : List EventId) (pending : List PendingDelivery) :
    Action DeliveryError (Session × τ) Nat := do
  let responses ← (d.run (pending.map .ofPending)).onSecond
  afterAnswers now ids responses

def afterClaim (ids : List EventId) : Action DeliveryError (Session × τ) Nat :=
  if ids.isEmpty then pure 0
  else do
    let pending ← onDatabase (EventLog.listForSending ids now.date)
    afterListing d now ids pending

def afterBegin : Action DeliveryError (Session × τ) Nat := do
  let ids ← onDatabase (queue.claim batch now)
  afterClaim d now ids

def rest : Phase → Action DeliveryError (Session × τ) Nat
  | .opened => poll queue d.run batch now
  | .begun => guarded (afterBegin d queue batch now)
  | .claimed ids => guarded (afterClaim d now ids)
  | .listed ids pending => guarded (afterListing d now ids pending)
  | .answered ids _ responses => guarded (afterAnswers now ids responses)
  | .recorded ids attempts => guarded (afterRecording ids attempts)
  | .decided ids attempts => guarded (afterDeciding ids (.ofAttempts attempts))
  | .entered ids attempts => guarded (afterEntering ids (.ofAttempts attempts))
  | .settled n => guarded (pure n)
  | .committed n => pure n

end Rest

theorem sendClaimed_eq (ids : List EventId) (some : ids.isEmpty = false) :
    sendClaimed d.run ids now = afterClaim d now ids := by
  -- Both are the same stages, once the sequences inside the pipeline are unnested.
  unfold sendClaimed Pipeline.send Pipeline.prepare Pipeline.apply afterClaim afterListing
    afterAnswers afterRecording afterDeciding afterEntering
  rw [some]
  simp only [Bool.false_eq_true, if_false, bind_assoc, pure_bind]
  rfl

theorem poll_eq :
    poll queue d.run batch now = (do
      onDatabase Query.beginTransaction
      guarded (afterBegin d queue batch now)) := by
  have body : ∀ ids : List EventId,
      (if ids.isEmpty then return 0 else sendClaimed d.run ids now) = afterClaim d now ids := by
    intro ids
    cases ids with
    | nil => rfl
    | cons first others => exact sendClaimed_eq _ rfl
  have same : afterBegin d queue batch now = (do
      let ids ← onDatabase (queue.claim batch now)
      if ids.isEmpty then return 0 else sendClaimed d.run ids now) := by
    unfold afterBegin
    simp only [body]
  rw [same]
  rfl

/-! ### One stage -/

/-- What a failure at a phase leaves behind: a transaction that has begun is given up. -/
def giveUp : Phase → Session × τ → Session × τ
  | .opened, st => st
  | _, (s, t) => (s.abandon, t)

def resume (d : Dispatcher τ) (queue : Queue) (batch : Int64) (now : Instant) (p : Phase)
    (st : Session × τ) : Except DeliveryError Phase → Except DeliveryError Nat × (Session × τ)
  | .ok q => (rest d queue batch now q).runOn st
  | .error e => (.error e, giveUp p st)

/-- The session at a phase: at first it is as it was, and later it stands after what was sent. -/
structure Phase.Standing (s : Session) (sent : List Sent) (u : Session) (p : Phase) : Prop where
  opened : p = .opened → u = s
  begun : p ≠ .opened → s.StandsAfter sent u

theorem Phase.standing_of_begun {s u : Session} {sent : List Sent} {p : Phase} (begun : p ≠ .opened)
    (stands : s.StandsAfter sent u) : p.Standing s sent u :=
  ⟨fun opened => absurd opened begun, fun _ => stands⟩

section Guarded

variable {α : Type} {x : Action DeliveryError (Session × τ) α}
  {f : α → Action DeliveryError (Session × τ) Nat} {next : α → Phase} {p : Phase}
  {st st' : Session × τ} {s u : Session} {sent statements : List Sent} {t t' : τ}

theorem guarded_run {r : Except DeliveryError α} (begun : p ≠ .opened)
    (follow : ∀ v, rest d queue batch now (next v) = guarded (f v)) (run : x.runOn st = (r, st')) :
    (guarded (x >>= f)).runOn st = resume d queue batch now p st' (r.map next) := by
  unfold guarded
  rw [Action.runOn_bind, Action.runOn_onFailure, Action.runOn_bind, run]
  cases r with
  | error e =>
    cases p with
    | opened => exact absurd rfl begun
    | _ => rfl
  | ok v =>
    show _ = (rest d queue batch now (next v)).runOn st'
    rw [follow, guarded, Action.runOn_bind, Action.runOn_onFailure]

/-- What is left of a cycle at a phase goes on as the stage says, which has sent these statements. -/
def Performs (d : Dispatcher τ) (queue : Queue) (batch : Int64) (now : Instant) (s : Session)
    (p : Phase) (sent : List Sent) (st : Session × τ) (r : Except DeliveryError Phase)
    (statements : List Sent) (t' : τ) : Prop :=
  ∃ v, (rest d queue batch now p).runOn st = resume d queue batch now p (v, t') r ∧
    v.sent = s.sent ++ (sent ++ statements) ∧
    (p ≠ .opened → v.isBroken = s.breaksAt sent statements) ∧
    ∀ q, r = .ok q → q.Standing s (sent ++ statements) v

theorem performs_query {work : Query α} {r : Except StorageError α} (begun : p ≠ .opened)
    (body : rest d queue batch now p = guarded (onDatabase work >>= f))
    (follow : ∀ v, rest d queue batch now (next v) = guarded (f v))
    (later : ∀ v, next v ≠ .opened) (sends : work.Sends s sent statements r)
    (stands : s.StandsAfter sent u) :
    Performs d queue batch now s p sent (u, t) (onReply next r) statements t := by
  obtain ⟨v, answer, sent_eq, broken, fine⟩ := sends u stands
  have run : (onDatabase work).runOn (u, t) = (r.mapError .storage, (v, t)) := by
    unfold onDatabase
    rw [Action.runOn_onFirst, Action.runOn_mapError, answer]
  refine ⟨v, ?_, sent_eq, fun _ => broken, fun q passed => ?_⟩
  · rw [body, guarded_run begun follow run]
    cases r <;> rfl
  · obtain ⟨a, same, rfl⟩ := onReply_ok passed
    exact Phase.standing_of_begun (later a) (fine a same)

theorem performs_quietly {r : Except DeliveryError Phase}
    (later : ∀ q, r = .ok q → q ≠ .opened)
    (run : (rest d queue batch now p).runOn (u, t) = resume d queue batch now p (u, t') r)
    (stands : s.StandsAfter sent u) :
    Performs d queue batch now s p sent (u, t) r [] t' := by
  refine ⟨u, run, ?_, fun _ => stands.alive, fun q passed => ?_⟩
  · rw [List.append_nil]
    exact stands.sent_eq
  · rw [List.append_nil]
    exact Phase.standing_of_begun (later q passed) stands

theorem onReply_map {β : Type} {g : β → α} {r : Except StorageError β} :
    onReply next (r.map g) = onReply (fun b => next (g b)) r := by
  cases r <;> rfl

end Guarded

section Stages

variable {p : Phase} {s u : Session} {sent statements : List Sent} {t t' : τ}
  {r : Except DeliveryError Phase}

theorem performs_begin (reachable : s.isReachable = true) :
    Performs d queue batch now s .opened [] (s, t)
      (onReply (fun _ => .begun) (s.controlReply .begin)) [.control .begin] t := by
  have run {r : Except StorageError Unit} {v : Session} (answer : s.beginAnswer = (r, v)) :
      (rest d queue batch now .opened).runOn (s, t) =
        resume d queue batch now .opened (v, t) (onReply (fun _ => .begun) r) := by
    unfold rest
    rw [poll_eq, Action.runOn_bind, onDatabase, Action.runOn_onFirst, Action.runOn_mapError,
      Query.beginTransaction, Action.runOn_make, answer]
    cases r <;> rfl
  unfold Session.controlReply
  cases fault : s.fault? .begin with
  | none =>
    refine ⟨s.begun, run (Session.beginAnswer_of_begins ⟨reachable, fault⟩), rfl, by simp, ?_⟩
    rintro q passed
    cases passed
    exact Phase.standing_of_begun (by simp) s.begun_stands
  | some f =>
    refine ⟨s.begun.faulted f, run (Session.beginAnswer_of_fault reachable fault), rfl, by simp, ?_⟩
    rintro q passed
    cases passed

theorem performs_commit {claimed : Nat} (stands : s.StandsAfter sent u) :
    Performs d queue batch now s (.settled claimed) sent (u, t)
      (onReply (fun _ => .committed claimed) (s.controlReply .commit)) [.control .commit] t := by
  have run {r : Except StorageError Unit} {v : Session}
      (answer : u.controlAnswer .commit = (r, v)) :
      (rest d queue batch now (.settled claimed)).runOn (u, t) =
        resume d queue batch now (.settled claimed) (v, t)
          (onReply (fun _ => .committed claimed) r) := by
    show (guarded (pure claimed)).runOn (u, t) = _
    unfold guarded
    rw [Action.runOn_bind, Action.runOn_onFailure, Action.runOn_pure]
    dsimp only
    rw [Action.runOn_bind, onDatabase, Action.runOn_onFirst, Action.runOn_mapError, Query.commit,
      Action.runOn_onFailure, Action.runOn_make, answer]
    cases r <;> rfl
  unfold Session.controlReply
  cases fault : s.fault? .commit with
  | none =>
    have recorded := stands.recorded .commit
    refine ⟨_, run (stands.control fault), recorded.sent_eq, fun _ => ?_, ?_⟩
    · rw [recorded.alive, Session.breaksAt, fault]
      rfl
    · rintro q passed
      cases passed
      exact Phase.standing_of_begun (by simp) recorded
  | some f =>
    refine ⟨_, run (stands.control_fault fault), stands.recorded_sent .commit, fun _ => ?_, ?_⟩
    · rw [Session.breaksAt, fault]
      rfl
    · rintro q passed
      cases passed

theorem rest_recorded (ids : List EventId) (attempts : List Attempt) (st : Session × τ) :
    (rest d queue batch now (.recorded ids attempts)).runOn st =
      match Pipeline.schedule ⟨0, [], .empty⟩ attempts with
      | .ok schedule => (guarded (afterDeciding ids schedule)).runOn st
      | .error e => (.error e, giveUp (.recorded ids attempts) st) := by
  show (guarded (afterRecording ids attempts)).runOn st = _
  unfold afterRecording guarded
  rw [Action.runOn_bind, Action.runOn_onFailure, Action.runOn_bind, Action.runOn_lift]
  cases Pipeline.schedule ⟨0, [], .empty⟩ attempts with
  | error e => rfl
  | ok schedule =>
    dsimp only
    rw [Action.runOn_bind, Action.runOn_onFailure]

/-- A stage brings a cycle to what is left of it at the next phase, or to its end. -/
theorem Stage.performs (stage : Stage d queue batch now s p sent t r statements t')
    (orderly : p.IsOrderly) (standing : p.Standing s sent u) :
    Performs d queue batch now s p sent (u, t) r statements t' := by
  cases stage with
  | connect unreachable =>
    cases standing.opened rfl
    refine ⟨s, ?_, (List.append_nil _).symm, fun begun => absurd rfl begun, nofun⟩
    show (poll queue d.run batch now).runOn (s, t) = _
    rw [poll_eq, Action.runOn_bind, onDatabase, Action.runOn_onFirst, Action.runOn_mapError,
      Query.beginTransaction, Action.runOn_make, Session.beginAnswer_of_unreachable unreachable]
    rfl
  | begin reachable =>
    cases standing.opened rfl
    exact performs_begin reachable
  | claim =>
    exact performs_query nofun rfl (fun _ => rfl) nofun claim_sends (standing.begun nofun)
  | rest =>
    refine performs_quietly ?_ rfl (standing.begun nofun)
    rintro q passed opened
    cases opened
    cases passed
  | @list ids _ _ some =>
    have body : Polling.rest d queue batch now (.claimed ids) =
        guarded (onDatabase (EventLog.listForSending ids now.date) >>= afterListing d now ids) := by
      show guarded (afterClaim d now ids) = _
      unfold afterClaim
      rw [if_neg (by simpa using some)]
    exact performs_query nofun body (fun _ => rfl) nofun (listing_sends some) (standing.begun nofun)
  | @deliver ids pending _ _ _ r answer =>
    have run : ((d.run (pending.map .ofPending)).onSecond : Action _ (Session × τ) _).runOn (u, t) =
        (r, (u, t')) := by
      rw [Action.runOn_onSecond, answer]
    have performed : (Polling.rest d queue batch now (.listed ids pending)).runOn (u, t) =
        resume d queue batch now (.listed ids pending) (u, t') (r.map (.answered ids pending)) :=
      guarded_run nofun (fun _ => rfl) run
    refine performs_quietly ?_ performed (standing.begun nofun)
    rintro q passed rfl
    obtain ⟨_, _, other⟩ := map_ok passed
    cases other
  | record =>
    exact performs_query nofun rfl (fun _ => rfl) nofun (recording_sends orderly)
      (standing.begun nofun)
  | @decide ids attempts _ _ decided =>
    refine performs_quietly ?_ ?_ (standing.begun nofun)
    · rintro q passed rfl
      cases passed
    · rw [rest_recorded, Pipeline.schedule_of_decided decided]
      rfl
  | undecided decided failure =>
    refine performs_quietly nofun ?_ (standing.begun nofun)
    rw [rest_recorded, Pipeline.schedule_of_undecided decided failure]
    rfl
  | @enter ids attempts _ _ =>
    have performed : Performs d queue batch now s (.decided ids attempts) sent (u, t)
        (onReply (fun _ => .entered ids attempts) _) (entering attempts) t :=
      performs_query nofun rfl (fun _ => rfl) nofun (entering_sends orderly) (standing.begun nofun)
    rw [onReply_map] at performed
    exact performed
  | @disable ids attempts _ _ =>
    have body : Polling.rest d queue batch now (.entered ids attempts) =
        guarded (onDatabase (Subscriptions.disable
          (Pipeline.Schedule.ofAttempts attempts).exhausted.toList) >>= fun _ => pure ids.length) :=
      rfl
    exact performs_query nofun body (fun _ => rfl) nofun disabling_sends (standing.begun nofun)
  | commit => exact performs_commit (standing.begun nofun)

end Stages

/-! ### All stages -/

def Phase.left : Phase → Nat
  | opened => 9
  | begun => 8
  | claimed _ => 7
  | listed _ _ => 6
  | answered _ _ _ => 5
  | recorded _ _ => 4
  | decided _ _ => 3
  | entered _ _ => 2
  | settled _ => 1
  | committed _ => 0

section Course

variable {p q : Phase} {s : Session} {sent statements : List Sent} {t₀ t t' : τ}
  {r : Except DeliveryError Phase} {e : DeliveryError} {x : Sent}

theorem Stage.left_lt (stage : Stage d queue batch now s p sent t r statements t') (fine : r = .ok q) :
    q.left < p.left := by
  cases stage with
  | connect | undecided => cases fine
  | rest | decide => cases fine; exact Nat.lt_of_sub_eq_succ rfl
  | deliver =>
    obtain ⟨_, _, rfl⟩ := map_ok fine
    exact Nat.lt_succ_self _
  | begin | claim | list | record | enter | disable | commit =>
    obtain ⟨_, _, rfl⟩ := onReply_ok fine
    exact Nat.lt_succ_self _

theorem Passes.exists_next (passes : Passes d queue batch now s t₀ p sent t)
    (unfinished : ∀ n, p ≠ .committed n) :
    ∃ r statements t', Stage d queue batch now s p sent t r statements t' := by
  cases p with
  | opened =>
    cases passes.passed.spells
    cases reachable : s.isReachable with
    | true => exact ⟨_, _, _, .begin reachable⟩
    | false => exact ⟨_, _, _, .connect reachable⟩
  | begun => exact ⟨_, _, _, .claim⟩
  | claimed ids =>
    by_cases none : ids = []
    · subst none
      exact ⟨_, _, _, .rest⟩
    · exact ⟨_, _, _, .list none⟩
  | listed ids pending => exact ⟨_, _, _, .deliver rfl⟩
  | answered ids pending responses => exact ⟨_, _, _, .record⟩
  | recorded ids attempts =>
    obtain decided | ⟨before, a, after, e, rfl, decided, failure⟩ :=
      Pipeline.decided_or_first_undecided attempts
    · exact ⟨_, _, _, .decide decided⟩
    · exact ⟨_, _, _, .undecided decided failure⟩
  | decided ids attempts => exact ⟨_, _, _, .enter⟩
  | entered ids attempts => exact ⟨_, _, _, .disable⟩
  | settled n => exact ⟨_, _, _, .commit⟩
  | committed n => exact absurd rfl (unfinished n)

theorem Passes.commits_or_fails (passes : Passes d queue batch now s t₀ p sent t) :
    (∃ n sent t, Passes d queue batch now s t₀ (.committed n) sent t) ∨
    ∃ p sent t e statements t', Passes d queue batch now s t₀ p sent t ∧
      Stage d queue batch now s p sent t (.error e) statements t' := by
  -- Each stage that is passed leaves fewer to come.
  induction left : p.left using Nat.strongRecOn generalizing p sent t with
  | ind k ih =>
    by_cases finished : ∃ n, p = .committed n
    · obtain ⟨n, rfl⟩ := finished
      exact .inl ⟨n, sent, t, passes⟩
    obtain ⟨r, statements, t', stage⟩ := passes.exists_next fun n last => finished ⟨n, last⟩
    cases r with
    | error e => exact .inr ⟨p, sent, t, e, statements, t', passes, stage⟩
    | ok q => exact ih q.left (left ▸ stage.left_lt rfl) (passes.more stage) rfl

theorem Passes.run (passes : Passes d queue batch now s t₀ p sent t) :
    ∃ u, p.Standing s sent u ∧
      (poll queue d.run batch now).runOn (s, t₀) = (rest d queue batch now p).runOn (u, t) := by
  induction passes with
  | none => exact ⟨s, ⟨fun _ => rfl, fun begun => absurd rfl begun⟩, rfl⟩
  | more before stage ih =>
    obtain ⟨u, standing, run⟩ := ih
    obtain ⟨v, next, -, -, later⟩ := stage.performs before.passed.orderly standing
    exact ⟨v, later _ rfl, run.trans next⟩

theorem Passes.run_committed {n : Nat}
    (passes : Passes d queue batch now s t₀ (.committed n) sent t) :
    ∃ u, (poll queue d.run batch now).runOn (s, t₀) = (.ok n, (u, t)) ∧
      u.sent = s.sent ++ sent := by
  obtain ⟨u, standing, run⟩ := passes.run
  exact ⟨u, run, (standing.begun nofun).sent_eq⟩

/-- The rollback of a transaction that is given up after a stage that failed, as far as it can be
sent. -/
def rollback (s : Session) (sent statements : List Sent) : Phase → List Sent
  | .opened => []
  | _ => if s.breaksAt sent statements then [] else [.control .rollback]

theorem Passes.run_failed (passes : Passes d queue batch now s t₀ p sent t)
    (stage : Stage d queue batch now s p sent t (.error e) statements t') :
    ∃ u, (poll queue d.run batch now).runOn (s, t₀) = (.error e, (u, t')) ∧
      u.sent = s.sent ++ (sent ++ statements ++ rollback s sent statements p) := by
  obtain ⟨u, standing, run⟩ := passes.run
  obtain ⟨v, last, sent_eq, broken, -⟩ := stage.performs passes.passed.orderly standing
  have ends := run.trans last
  cases p with
  | opened =>
    refine ⟨v, ends, ?_⟩
    rw [sent_eq]
    simp [rollback]
  | _ =>
    refine ⟨v.abandon, ends, ?_⟩
    rw [Session.abandon_sent, sent_eq, broken nofun]
    simp [rollback]

theorem eq_of_mem_rollback (member : x ∈ rollback s sent statements p) :
    x = .control .rollback := by
  unfold rollback at member
  split at member
  · cases member
  · split at member
    · cases member
    · exact List.mem_singleton.mp member

theorem Passes.exists_stage (passes : Passes d queue batch now s t₀ p sent t) (member : x ∈ sent) :
    ∃ p sent t r statements t', Passes d queue batch now s t₀ p sent t ∧
      Stage d queue batch now s p sent t r statements t' ∧ x ∈ statements := by
  induction passes with
  | none => cases member
  | more before stage ih =>
    obtain earlier | last := List.mem_append.mp member
    · exact ih earlier
    · exact ⟨_, _, _, _, _, _, before, stage, last⟩

end Course

/-- All that a cycle sends was sent by its stages, of which the last one may have failed, and then a
rollback may follow. -/
theorem poll_statements (d : Dispatcher τ) (queue : Queue) (batch : Int64) (now : Instant)
    (s : Session) (t₀ : τ) :
    ∃ sent, ((poll queue d.run batch now).runOn (s, t₀)).2.1.sent = s.sent ++ sent ∧
      ∀ x ∈ sent, x = .control .rollback ∨
        ∃ p sent t r statements t', Passes d queue batch now s t₀ p sent t ∧
          Stage d queue batch now s p sent t r statements t' ∧ x ∈ statements := by
  have start : Passes d queue batch now s t₀ .opened [] t₀ := .none
  obtain ⟨n, sent, t, passes⟩ | ⟨p, sent, t, e, statements, t', passes, stage⟩ :=
    start.commits_or_fails
  · obtain ⟨u, run, sent_eq⟩ := passes.run_committed
    rw [run]
    exact ⟨sent, sent_eq, fun x member => .inr (passes.exists_stage member)⟩
  · obtain ⟨u, run, sent_eq⟩ := passes.run_failed stage
    rw [run]
    refine ⟨_, sent_eq, fun x member => ?_⟩
    obtain stages | final := List.mem_append.mp member
    · obtain earlier | last := List.mem_append.mp stages
      · exact .inr (passes.exists_stage earlier)
      · exact .inr ⟨p, sent, t, _, statements, t', passes, stage, last⟩
    · exact .inl (eq_of_mem_rollback final)

def lastParam? : Sent → Option Value
  | .statement _ params => params.getLast?
  | .control _ => none

section Ends

variable {s : Session} {t₀ : τ}

theorem poll_ok_iff {n : Nat} :
    ((poll queue d.run batch now).runOn (s, t₀)).1 = .ok n ↔
      ∃ sent t, Passes d queue batch now s t₀ (.committed n) sent t := by
  constructor
  · intro fine
    have start : Passes d queue batch now s t₀ .opened [] t₀ := .none
    obtain ⟨k, sent, t, passes⟩ | ⟨p, sent, t, e, statements, t', passes, stage⟩ :=
      start.commits_or_fails
    · obtain ⟨u, run, -⟩ := passes.run_committed
      rw [run] at fine
      cases fine
      exact ⟨sent, t, passes⟩
    · obtain ⟨u, run, -⟩ := passes.run_failed stage
      rw [run] at fine
      cases fine
  · rintro ⟨sent, t, passes⟩
    obtain ⟨u, run, -⟩ := passes.run_committed
    rw [run]

theorem poll_error_iff {e : DeliveryError} :
    ((poll queue d.run batch now).runOn (s, t₀)).1 = .error e ↔
      ∃ p sent t statements t', Passes d queue batch now s t₀ p sent t ∧
        Stage d queue batch now s p sent t (.error e) statements t' := by
  constructor
  · intro failed
    have start : Passes d queue batch now s t₀ .opened [] t₀ := .none
    obtain ⟨n, sent, t, passes⟩ | ⟨p, sent, t, f, statements, t', passes, stage⟩ :=
      start.commits_or_fails
    · obtain ⟨u, run, -⟩ := passes.run_committed
      rw [run] at failed
      cases failed
    · obtain ⟨u, run, -⟩ := passes.run_failed stage
      rw [run] at failed
      cases failed
      exact ⟨p, sent, t, statements, t', passes, stage⟩
  · rintro ⟨p, sent, t, statements, t', passes, stage⟩
    obtain ⟨u, run, -⟩ := passes.run_failed stage
    rw [run]

theorem Stage.not_commits {p : Phase} {sent statements : List Sent} {t t' : τ} {e : DeliveryError}
    (stage : Stage d queue batch now s p sent t (.error e) statements t')
    (last : .control .commit ∈ statements) : ¬ s.Commits := by
  intro commits
  obtain ⟨n, -, failed⟩ := stage.commit_mem last
  rw [Session.controlReply_ok_iff.mpr commits] at failed
  cases failed

/-- A cycle has succeeded exactly if its commit was sent and did not fail. -/
theorem poll_commits (d : Dispatcher τ) (queue : Queue) (batch : Int64) (now : Instant)
    (s : Session) (t₀ : τ) :
    ∃ sent, ((poll queue d.run batch now).runOn (s, t₀)).2.1.sent = s.sent ++ sent ∧
      ((∃ n, ((poll queue d.run batch now).runOn (s, t₀)).1 = .ok n) ↔
        .control .commit ∈ sent ∧ s.Commits) := by
  have start : Passes d queue batch now s t₀ .opened [] t₀ := .none
  obtain ⟨n, sent, t, passes⟩ | ⟨p, sent, t, e, statements, t', passes, stage⟩ :=
    start.commits_or_fails
  · obtain ⟨u, run, sent_eq⟩ := passes.run_committed
    rw [run]
    refine ⟨sent, sent_eq, fun _ => ⟨?_, passes.passed.commits n rfl⟩, fun _ => ⟨n, rfl⟩⟩
    obtain ⟨_, _, _, _, -, rfl⟩ := passes.passed.spells
    exact List.mem_append_right _ List.mem_cons_self
  · obtain ⟨u, run, sent_eq⟩ := passes.run_failed stage
    rw [run]
    refine ⟨_, sent_eq, (fun ⟨n, fine⟩ => by cases fine), fun ⟨member, commits⟩ => ?_⟩
    obtain stages | final := List.mem_append.mp member
    · obtain early | last := List.mem_append.mp stages
      · obtain ⟨n, rfl⟩ := passes.passed.committed early
        cases stage
      · exact absurd commits (stage.not_commits last)
    · cases eq_of_mem_rollback final

end Ends

/-- A cycle succeeds exactly if the script lets it pass all its stages, from the begin to the commit,
and then it has sent just their statements and counts the rows of its claim. It fails with an error
exactly if some stage fails with it, and then it has sent the statements up to that stage and a
rollback, if a transaction was begun and the connection is whole, but no commit that did not fail.
The listing and the recording have one cutoff. -/
theorem poll_all_or_nothing (d : Dispatcher τ) (queue : Queue) (batch : Int64) (now : Instant)
    (s : Session) (t₀ : τ) :
    (∀ n, ((poll queue d.run batch now).runOn (s, t₀)).1 = .ok n ↔
      ∃ sent t, Passes d queue batch now s t₀ (.committed n) sent t) ∧
    (∀ n sent t, Passes d queue batch now s t₀ (.committed n) sent t →
      ((poll queue d.run batch now).runOn (s, t₀)).2.1.sent = s.sent ++ sent ∧
      n = (s.reply 0).found.length ∧ s.Begins ∧ s.Commits ∧
      ∃ ids pending responses attempts, n = List.length ids ∧
        sent = [.control .begin, claiming queue batch now] ++ listing ids now ++
          recording pending responses now ++ entering attempts ++ disabling attempts ++
          [.control .commit]) ∧
    (∀ e, ((poll queue d.run batch now).runOn (s, t₀)).1 = .error e ↔
      ∃ p sent t statements t', Passes d queue batch now s t₀ p sent t ∧
        Stage d queue batch now s p sent t (.error e) statements t') ∧
    (∀ p sent t e statements t', Passes d queue batch now s t₀ p sent t →
      Stage d queue batch now s p sent t (.error e) statements t' →
      ((poll queue d.run batch now).runOn (s, t₀)).2.1.sent =
          s.sent ++ (sent ++ statements ++ rollback s sent statements p) ∧
        p.Spells queue batch now sent ∧ .control .commit ∉ sent ∧
        (.control .commit ∈ statements → ¬ s.Commits)) ∧
    (∃ sent, ((poll queue d.run batch now).runOn (s, t₀)).2.1.sent = s.sent ++ sent ∧
      ((∃ n, ((poll queue d.run batch now).runOn (s, t₀)).1 = .ok n) ↔
        .control .commit ∈ sent ∧ s.Commits)) ∧
    ∀ ids pending responses x, x ∈ listing ids now ++ recording pending responses now →
      lastParam? x = some (.date (Window.retentionCutoff now.date)) := by
  refine ⟨fun n => poll_ok_iff, ?_, fun e => poll_error_iff, ?_, poll_commits .., ?_⟩
  · intro n sent t passes
    have passed := passes.passed
    obtain ⟨u, run, sent_eq⟩ := passes.run_committed
    rw [run]
    exact ⟨sent_eq, passed.count n rfl, passed.begins nofun, passed.commits n rfl, passed.spells⟩
  · intro p sent t e statements t' passes stage
    have passed := passes.passed
    obtain ⟨u, run, sent_eq⟩ := passes.run_failed stage
    rw [run]
    refine ⟨sent_eq, passed.spells, fun early => ?_, stage.not_commits⟩
    obtain ⟨n, rfl⟩ := passed.committed early
    cases stage
  · intro ids pending responses x member
    obtain listed | recorded := List.mem_append.mp member
    · unfold listing at listed
      split at listed
      · cases listed
      · rw [List.mem_singleton.mp listed]
        rfl
    · unfold recording at recorded
      split at recorded
      · cases recorded
      · rw [List.mem_singleton.mp recorded]
        rfl

-- A cycle that claims nothing and whose connection is lost at the commit cannot be rolled back.
example (d : Dispatcher τ) (t : τ) (now : Instant) :
    ((poll .main d.run 10 now).runOn (.scripted [] [(.commit, .lost)], t)).2.1.sent =
      [.control .begin, claiming .main 10 now, .control .commit] := rfl

end Courier.Polling

import Courier.Proofs.Workers.Batches

/-!
# What callers may rely on

`Contract` says it for one state of a pool and everything that may happen afterwards: no job is
delivered twice, each response belongs to its request, a cancelled pool takes no new job, and a job
in hand gets its reply. Every run keeps it. Who waits when the workers have ended depends on what
the channel does without them.
-/

namespace Courier.Workers

variable {p q : Pool} {acts later : List Act} {a : Act} {t worker : Nat} {job : Job} {c : Caller}

theorem Pool.deliver_names (p : Pool) (r : DeliveryRequest) (e : Exchange) :
    (p.deliver r e).eventId = r.eventId ∧ (p.deliver r e).url = r.url := by
  unfold Pool.deliver Client.deliver
  split
  · exact ⟨rfl, rfl⟩
  · exact ⟨rfl, rfl⟩

/-! ### A dispatch that has ended, and one that begins -/

theorem Step.not_submits (step : Step p a q) (found : p.callers[t]? = some c)
    (sent : c.stage.isUnsent = false) : a.submits t = false := by
  cases step with
  | push admitted | discard admitted =>
    refine beq_false_of_ne fun same => ?_
    rw [same, found] at admitted
    cases admitted
    cases sent
  | _ => rfl

theorem Runs.keeps_final (run : Runs p later q) (found : p.callers[t]? = some c)
    (final : c.stage.isFinal = true) :
    q.callers[t]? = some c ∧ later.countP (Act.submits t) = 0 := by
  induction run with
  | start => exact ⟨found, rfl⟩
  | next _ step ih =>
    obtain ⟨still, none⟩ := ih
    refine ⟨step.keeps_final still final, ?_⟩
    rw [countP_of_not (step.not_submits still (Stage.isUnsent_of_final final)), none]

/-- A step that adds a caller begins a dispatch. -/
theorem Step.newcomer (step : Step p a q) (found : q.callers[p.callers.length]? = some c) :
    c.stage = (if p.isCancelled then .finished (.error .poolClosed) else .offering) ∧
      a.submits p.callers.length = false := by
  have absent : ∀ {z : Pool}, z.callers.length = p.callers.length →
      z.callers[p.callers.length]? ≠ some c := by
    intro z length present
    exact absurd (List.getElem?_eq_some_iff.mp present).1 (length ▸ Nat.lt_irrefl _)
  cases step with
  | call r =>
    rw [Pool.callers_call_last] at found
    cases found
    exact ⟨rfl, rfl⟩
  | @enlist batch b r =>
    change (p.call r).callers[p.callers.length]? = some c at found
    rw [Pool.callers_call_last] at found
    cases found
    exact ⟨rfl, rfl⟩
  | reserve | push | discard | refuse | receive | giveUp | leave | reply =>
    exact absurd found (absent (List.length_modify _ _ _))
  | breakDown =>
    exact absurd found (absent ((Pool.length_settle _).trans (List.length_modify _ _ _)))
  | stop => exact absurd found (absent (Pool.length_settle _))
  | lock | look | yield | take | cancel | callAll | complete | fail =>
    exact absurd found (absent rfl)

/-! ### A job in hand -/

/-- The caller has been told what the worker got, or the worker broke down. -/
def Pool.HasServed (q : Pool) (later : List Act) (worker : Nat) (job : Job) : Prop :=
  (∃ x, .reply worker job.ticket x ∈ later ∧
    ∃ c, q.callers[job.ticket]? = some c ∧ c.stage.HasGot x) ∨
  .breakDown worker job.ticket ∈ later

theorem Pool.keeps_worker {other : Nat} {w : Worker} (found : p.workers[worker]? = some w)
    (apart : other ≠ worker) (v : Worker) : (p.setWorker other v).workers[worker]? = some w := by
  show (p.workers.set other v)[worker]? = some w
  rw [List.getElem?_set_ne apart, found]

theorem Pool.apart_of_busy {other : Nat} {w : Worker} (busy : p.workers[worker]? = some (.busy job))
    (found : p.workers[other]? = some w) (free : ∀ held, w ≠ .busy held) : other ≠ worker := by
  rintro rfl
  rw [busy] at found
  exact free job (Option.some.inj found).symm

theorem Pool.IsExpected.told (expected : p.IsExpected job) (x : Response) :
    ∃ c, (p.notify job.ticket (.answered x)).callers[job.ticket]? = some c ∧ c.stage.HasGot x := by
  obtain ⟨s, caller, expects⟩ := expected
  rw [callers_notify, caller, Option.map_some, if_pos rfl]
  refine ⟨_, rfl, ?_⟩
  rcases expects with rfl | rfl
  · exact .inl rfl
  · exact .inr (.inr rfl)

theorem Step.inHand (step : Step p a q) (paired : p.IsPaired)
    (busy : p.workers[worker]? = some (.busy job)) :
    q.workers[worker]? = some (.busy job) ∨ q.HasServed [a] worker job := by
  have free : ∀ {other : Nat} {w : Worker}, p.workers[other]? = some w → (∀ held, w ≠ .busy held) →
      ∀ v, (p.setWorker other v).workers[worker]? = some (.busy job) :=
    fun found free => Pool.keeps_worker busy (Pool.apart_of_busy busy found free)
  cases step with
  | lock idle => exact .inl (free idle (by simp) _)
  | look holding => exact .inl (free holding (by simp) _)
  | yield receiving => exact .inl (free receiving (by simp) _)
  | take receiving => exact .inl (free receiving (by simp) _)
  | stop holding =>
    rw [Pool.stop, Pool.workers_settle]
    exact .inl (free holding (by simp) _)
  | @reply other done busy' e =>
    by_cases same : other = worker
    · subst same
      rw [busy] at busy'
      cases busy'
      have expected : p.IsExpected job := paired job (.inr (Pool.mem_of_at busy))
      exact .inr (.inl ⟨_, List.mem_singleton_self _,
        Pool.IsExpected.told (p := p.setWorker other .idle) expected _⟩)
    · exact .inl (Pool.keeps_worker busy same _)
  | @breakDown other lost busy' =>
    by_cases same : other = worker
    · subst same
      rw [busy] at busy'
      cases busy'
      exact .inr (.inr (List.mem_singleton_self _))
    · rw [Pool.breakDown, Pool.workers_settle]
      exact .inl (Pool.keeps_worker busy same _)
  | call | reserve | push | discard | refuse | receive | giveUp | leave | cancel | callAll | enlist
  | complete | fail => exact .inl busy

theorem Pool.HasServed.step (served : p.HasServed later worker job) (step : Step p a q) :
    q.HasServed (a :: later) worker job := by
  rcases served with ⟨x, replied, c, found, got⟩ | broken
  · obtain ⟨s, now, next⟩ := step.carries found
    exact .inl ⟨x, List.mem_cons_of_mem a replied, _, now, next.hasGot got⟩
  · exact .inr (List.mem_cons_of_mem a broken)

theorem Pool.HasServed.mono {more : List Act} (served : p.HasServed later worker job)
    (known : later ⊆ more) : p.HasServed more worker job := by
  rcases served with ⟨x, replied, got⟩ | broken
  · exact .inl ⟨x, known replied, got⟩
  · exact .inr (known broken)

/-! ### Every state of a run -/

structure Sound (acts : List Act) (p : Pool) : Prop where
  tally : ∀ t, Tally acts p t
  paired : p.IsPaired
  explained : p.IsExplained acts
  grounded : p.IsGrounded acts
  batches : ∀ b ∈ p.batches, b.IsPaired p

namespace Sound

theorem start (size : Nat) (client : Client) (closing : ClosedChannel) :
    Sound [] (.start size client closing) where
  tally t := .start size client closing t
  paired job out := by
    rcases out with queued | held
    · cases queued
    · cases List.eq_of_mem_replicate held
  explained := by
    refine ⟨fun none => ?_, fun w member gone => ?_⟩
    · have length := congrArg List.length none
      change (List.replicate (max size 1) Worker.idle).length = 0 at length
      rw [List.length_replicate] at length
      omega
    · cases List.eq_of_mem_replicate member
      cases gone
  grounded t c found := by cases found
  batches b member := by cases member

theorem step (sound : Sound acts p) (step : Step p a q) : Sound (a :: acts) q where
  tally t := (sound.tally t).step step
  paired := step.isPaired sound.paired sound.tally
  explained := step.isExplained sound.explained
  grounded := step.isGrounded sound.paired sound.explained sound.grounded
  batches := step.batches_isPaired sound.batches

theorem run {size : Nat} {client : Client} {closing : ClosedChannel}
    (run : Runs (.start size client closing) acts p) : Sound acts p := by
  induction run with
  | start => exact .start size client closing
  | next _ last ih => exact ih.step last

theorem runs (sound : Sound acts p) (run : Runs p later q) : Sound (later ++ acts) q := by
  induction run with
  | start => exact sound
  | next _ last ih => exact ih.step last

theorem inHand (sound : Sound acts p) (run : Runs p later q)
    (busy : p.workers[worker]? = some (.busy job)) :
    q.workers[worker]? = some (.busy job) ∨ q.HasServed later worker job := by
  induction run with
  | start => exact .inl busy
  | next before last ih =>
    rcases ih with still | served
    · refine (last.inHand (sound.runs before).paired still).imp_right fun served => ?_
      exact served.mono (List.cons_subset_cons _ (List.nil_subset _))
    · exact .inr (served.step last)

end Sound

/-- What callers may rely on in a state and from then on. -/
structure Contract (acts : List Act) (p : Pool) : Prop where
  /-- No job is submitted, taken or delivered twice. -/
  once : ∀ t : Nat, acts.countP (Act.submits t) ≤ 1 ∧
    acts.countP (Act.takes t) ≤ acts.countP (Act.submits t) ∧
    acts.countP (Act.replies t) + acts.countP (Act.loses t) ≤ acts.countP (Act.takes t)
  /-- A dispatch gives what a worker got for its own request. -/
  own : ∀ (t : Nat) (r : DeliveryRequest) (x : Response),
    p.callers[t]? = some ⟨r, .finished (.ok x)⟩ →
    x.eventId = r.eventId ∧ x.url = r.url ∧ p.Produced acts t r x
  batches : ∀ b ∈ p.batches, b.IsPaired p
  /-- A dispatch that begins after the cancellation ends at once and never submits its job. -/
  late : p.isCancelled = true → ∀ a q, Step p a q → ∀ c, q.callers[p.callers.length]? = some c →
    ∀ later z, Runs q later z →
      z.callers[p.callers.length]? = some ⟨c.request, .finished (.error .poolClosed)⟩ ∧
      (later ++ a :: acts).countP (Act.submits p.callers.length) = 0
  /-- A job in hand stays there until its caller gets the reply or the worker breaks down, and the
  reply is possible whatever the receiver does. When the workers have ended one of them is done. -/
  inHand : ∀ (worker : Nat) (job : Job), p.workers[worker]? = some (.busy job) →
    ∀ later q, Runs p later q →
    ((q.workers[worker]? = some (.busy job) ∧
      ∀ e, Step q (.reply worker job.ticket (q.deliver job.request e)) (q.reply worker job e)) ∨
    q.HasServed later worker job) ∧
    ((∀ w ∈ q.workers, w.isAlive = false) → q.HasServed later worker job)
  failures : ∀ (t : Nat) (r : DeliveryRequest) (e : DeliveryError),
    p.callers[t]? = some ⟨r, .finished (.error e)⟩ →
    (e = .poolClosed ∧ p.MayFail acts) ∨
    (e = .workerFailed ("no reply for event " ++ r.eventId.text) ∧ HasBreakdown acts)
  /-- Without workers whoever waits has its job in the channel. -/
  ended : (∀ w ∈ p.workers, w.isAlive = false) →
    ∀ (t : Nat) (r : DeliveryRequest), p.callers[t]? = some ⟨r, .waiting⟩ → ⟨t, r⟩ ∈ p.channel

namespace Sound

theorem late (sound : Sound acts p) (cancelled : p.isCancelled = true) (step : Step p a q)
    (found : q.callers[p.callers.length]? = some c) {z : Pool} (run : Runs q later z) :
    z.callers[p.callers.length]? = some ⟨c.request, .finished (.error .poolClosed)⟩ ∧
      (later ++ a :: acts).countP (Act.submits p.callers.length) = 0 := by
  obtain ⟨stage, silent⟩ := step.newcomer found
  rw [cancelled, if_pos rfl] at stage
  obtain ⟨kept, after⟩ := run.keeps_final found (by rw [stage]; rfl)
  have before : acts.countP (Act.submits p.callers.length) = 0 := by
    refine (sound.tally _).fresh fun d present => ?_
    exact absurd (List.getElem?_eq_some_iff.mp present).1 (Nat.lt_irrefl _)
  refine ⟨?_, ?_⟩
  · rw [kept, ← stage]
  · rw [List.countP_append, after, countP_of_not silent, before]

theorem ended (sound : Sound acts p) (dead : ∀ w ∈ p.workers, w.isAlive = false) (t : Nat)
    (r : DeliveryRequest) (waits : p.callers[t]? = some ⟨r, .waiting⟩) : ⟨t, r⟩ ∈ p.channel := by
  obtain ⟨⟨ticket, request⟩, queued | held, same⟩ :=
    Pool.isOut_iff_pos.mpr (sound.grounded t _ waits).out
  · obtain ⟨s, caller, -⟩ := sound.paired _ (.inl queued)
    subst same
    rw [waits] at caller
    cases caller
    exact queued
  · exact absurd held (Pool.not_busy_of_closed (Pool.isOpen_of_dead dead) _)

theorem contract (sound : Sound acts p) : Contract acts p where
  once t := by
    have tally := sound.tally t
    have := tally.once
    have := tally.queued
    have := tally.taken
    omega
  own t r x found := by
    have grounds : Grounds acts p t r (.finished (.ok x)) := sound.grounded t _ found
    cases grounds with
    | succeeded produced =>
      have ⟨_, e, same⟩ := produced
      obtain ⟨eventId, url⟩ := p.deliver_names r e
      rw [← same] at eventId url
      exact ⟨eventId, url, produced⟩
  batches := sound.batches
  late cancelled a q step c found later z run := sound.late cancelled step found run
  inHand worker job busy later q run := by
    have served := sound.inHand run busy
    refine ⟨served.imp_left fun still => ⟨still, .reply still⟩, fun dead => ?_⟩
    refine served.resolve_left fun still => ?_
    cases dead _ (Pool.mem_of_at still)
  failures t r e found := by
    have grounds : Grounds acts p t r (.finished (.error e)) := sound.grounded t _ found
    cases grounds with
    | closed fails => exact .inl ⟨rfl, fails⟩
    | failed broken => exact .inr ⟨rfl, broken⟩
  ended := sound.ended

end Sound

/-! ### After the last worker -/

theorem Runs.closing (run : Runs p later q) : q.closing = p.closing := by
  induction run with
  | start => rfl
  | next _ step ih => exact step.closing.trans ih

/-- The job with the ticket was pushed when no worker was left. -/
def PushedLate (p : Pool) (acts : List Act) (t : Nat) : Prop :=
  ∃ later before q, acts = later ++ .push t :: before ∧ Runs p before q ∧ q.isOpen = false

theorem PushedLate.step (late : PushedLate p acts t) : PushedLate p (a :: acts) t := by
  obtain ⟨later, before, q, rfl, run, closed⟩ := late
  exact ⟨a :: later, before, q, rfl, run, closed⟩

def plainClient : Client := ⟨.default, by decide, by decide⟩

/-- A closed channel in which nothing stays. -/
def emptied : ClosedChannel := ⟨fun _ => false, fun _ => false⟩

end Courier.Workers

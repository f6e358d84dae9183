import Courier.Proofs.Workers.Tally

/-!
# Jobs and their callers

A job that is waiting or in hand has the request of the caller with its ticket, and that caller
waits for the reply or went away. When no worker is left the channel has no jobs but those that stay
in it or are pushed late.
-/

namespace Courier.Workers

namespace Pool

variable {p q : Pool} {t ticket worker : Nat} {w v : Worker} {job : Job} {s : Stage} {c : Caller}

def IsOut (p : Pool) (job : Job) : Prop := job ∈ p.channel ∨ .busy job ∈ p.workers

/-- The caller with the job's ticket made its request, and waits for the reply or went away. -/
def IsExpected (p : Pool) (job : Job) : Prop :=
  ∃ s, p.callers[job.ticket]? = some ⟨job.request, s⟩ ∧ (s = .waiting ∨ s = .gone)

theorem isOut_iff_pos : (∃ job, p.IsOut job ∧ job.ticket = t) ↔ 0 < p.queued t + p.held t := by
  constructor
  · rintro ⟨job, queued | held, rfl⟩
    · exact Nat.add_pos_left (List.countP_pos_iff.mpr ⟨job, queued, beq_self_eq_true job.ticket⟩) _
    · exact Nat.add_pos_right _ (List.countP_pos_iff.mpr ⟨_, held, beq_self_eq_true job.ticket⟩)
  · intro pos
    rcases Nat.add_pos_iff_pos_or_pos.mp pos with queued | held
    · obtain ⟨job, member, same⟩ := List.countP_pos_iff.mp queued
      exact ⟨job, .inl member, beq_iff_eq.mp same⟩
    · obtain ⟨w, member, same⟩ := List.countP_pos_iff.mp held
      cases w with
      | busy job => exact ⟨job, .inr member, beq_iff_eq.mp same⟩
      | _ => cases same

theorem mem_setWorker (member : v ∈ (p.setWorker worker w).workers) : v ∈ p.workers ∨ v = w :=
  List.mem_or_eq_of_mem_set member

theorem mem_of_at (found : p.workers[worker]? = some w) : w ∈ p.workers :=
  List.mem_of_getElem? found

theorem not_busy_of_closed (closed : p.isOpen = false) (job : Job) : .busy job ∉ p.workers := by
  intro busy
  have alive : p.isOpen = true := List.any_eq_true.mpr ⟨_, busy, rfl⟩
  rw [closed] at alive
  cases alive

theorem isOpen_of_dead (dead : ∀ w ∈ p.workers, w.isAlive = false) : p.isOpen = false :=
  List.any_eq_false.mpr fun w member => Bool.eq_false_iff.mp (dead w member)

theorem workers_settle (p : Pool) : p.settle.workers = p.workers := by
  unfold settle
  split <;> rfl

theorem length_settle (p : Pool) : p.settle.callers.length = p.callers.length := by
  unfold settle
  split
  · rfl
  · exact List.length_mapIdx

theorem batches_settle (p : Pool) : p.settle.batches = p.batches := by
  unfold settle
  split <;> rfl

theorem client_settle (p : Pool) : p.settle.client = p.client := by
  unfold settle
  split <;> rfl

theorem isCancelled_settle (p : Pool) : p.settle.isCancelled = p.isCancelled := by
  unfold settle
  split <;> rfl

theorem settle_of_isOpen (isOpen : p.isOpen = true) : p.settle = p := by
  unfold settle
  rw [isOpen, if_pos rfl]

theorem closing_settle (p : Pool) : p.settle.closing = p.closing := by
  unfold settle
  split <;> rfl

theorem mem_channel_settle (closed : p.isOpen = false) :
    job ∈ p.settle.channel ↔ job ∈ p.channel ∧ p.closing.keepsUnread job = true := by
  unfold settle
  rw [closed, if_neg Bool.false_ne_true]
  exact List.mem_filter

def IsPaired (p : Pool) : Prop := ∀ job, p.IsOut job → p.IsExpected job

namespace IsPaired

variable {d : Caller} {rest : List Job} {r : DeliveryRequest}

theorem setStage (paired : p.IsPaired) (found : p.callers[ticket]? = some d)
    (leaves : d.stage = .waiting ∨ d.stage = .gone → s = .waiting ∨ s = .gone) :
    (p.setStage ticket s).IsPaired := by
  intro job out
  obtain ⟨u, caller, expects⟩ := paired job out
  unfold IsExpected
  rw [callers_setStage, caller, Option.map_some]
  split
  · next same =>
    rw [same, caller] at found
    cases found
    exact ⟨s, rfl, leaves expects⟩
  · exact ⟨u, rfl, expects⟩

theorem call (paired : p.IsPaired) (r : DeliveryRequest) : (p.call r).IsPaired := by
  intro job out
  obtain ⟨u, caller, expects⟩ := paired job out
  exact ⟨u, callers_call_of_lt r caller, expects⟩

theorem push (paired : p.IsPaired) (admitted : p.callers[ticket]? = some ⟨r, .admitted⟩) :
    (p.push ticket r).IsPaired := by
  have before : (p.setStage ticket .waiting).IsPaired := paired.setStage admitted fun _ => .inl rfl
  intro job out
  rcases out with queued | held
  · rcases List.mem_append.mp queued with old | new
    · exact before job (.inl old)
    · cases List.mem_singleton.mp new
      exact ⟨.waiting, setStage_at admitted .waiting, .inl rfl⟩
  · exact before job (.inr held)

theorem setWorker (paired : p.IsPaired) (free : ∀ job, w ≠ .busy job) :
    (p.setWorker worker w).IsPaired := by
  intro job out
  rcases out with queued | held
  · exact paired job (.inl queued)
  · rcases mem_setWorker held with old | new
    · exact paired job (.inr old)
    · exact absurd new.symm (free job)

theorem take (paired : p.IsPaired) (first : p.channel = job :: rest) :
    (p.take worker job rest).IsPaired := by
  intro other out
  rcases out with queued | held
  · exact paired other (.inl (first ▸ List.mem_cons_of_mem _ queued))
  · rcases mem_setWorker held with old | new
    · exact paired other (.inr old)
    · cases new
      exact paired job (.inl (first ▸ List.mem_cons_self))

/-- Nobody else is told when no job with the ticket is out any more. -/
theorem notify (paired : p.IsPaired)
    (none_out : ∀ job, (p.notify ticket s).IsOut job → job.ticket ≠ ticket) :
    (p.notify ticket s).IsPaired := by
  intro job out
  obtain ⟨u, caller, expects⟩ := paired job out
  unfold IsExpected
  rw [callers_notify, caller, Option.map_some, if_neg (Ne.symm (none_out job out))]
  exact ⟨u, rfl, expects⟩

/-- A job that stays in the channel has not told its caller anything, since there is no other job
with its ticket. -/
theorem settle (paired : p.IsPaired) : p.settle.IsPaired := by
  cases state : p.isOpen with
  | true =>
    rw [settle_of_isOpen state]
    exact paired
  | false =>
    rintro job (queued | held)
    · obtain ⟨member, keeps⟩ := (mem_channel_settle state).mp queued
      obtain ⟨u, caller, expects⟩ := paired job (.inl member)
      refine ⟨u, ?_, expects⟩
      rw [callers_settle, caller, Option.map_some, if_neg]
      rintro ⟨-, ⟨ticket, request⟩, among, rfl, dropped⟩
      obtain ⟨_, caller', -⟩ := paired _ (.inl among)
      rw [caller] at caller'
      cases caller'
      rw [keeps] at dropped
      cases dropped
    · rw [workers_settle] at held
      exact absurd held (not_busy_of_closed state job)

end IsPaired

end Pool

variable {p q : Pool} {acts : List Act} {a : Act}

/-- No job is out with the ticket of a job once a worker has let go of it. -/
theorem Tally.not_out {worker : Nat} {job other : Job} {w : Worker} (tally : Tally acts p job.ticket)
    (busy : p.workers[worker]? = some (.busy job)) (free : w.holds job.ticket = false)
    (out : (p.setWorker worker w).IsOut other) : other.ticket ≠ job.ticket := by
  intro same
  have pos : 0 < p.queued job.ticket + (p.setWorker worker w).held job.ticket :=
    Pool.isOut_iff_pos.mp ⟨other, out, same⟩
  have held := Pool.held_setWorker busy w job.ticket
  have own : Worker.holds job.ticket (.busy job) = true := beq_self_eq_true job.ticket
  rw [own, free] at held
  change _ + 1 = p.held job.ticket + 0 at held
  have := tally.once
  have := tally.queued
  have := tally.taken
  omega

theorem Step.isPaired (step : Step p a q) (paired : p.IsPaired) (tally : ∀ t, Tally acts p t) :
    q.IsPaired := by
  cases step with
  | call r => exact paired.call r
  | enlist => exact paired.call _
  | reserve offering => exact paired.setStage offering (by simp)
  | push admitted => exact paired.push admitted
  | discard admitted => exact paired.setStage admitted (by simp)
  | refuse present unsent =>
    refine paired.setStage present fun expects => ?_
    rcases expects with waits | left
    · rw [waits] at unsent
      cases unsent
    · rw [left] at unsent
      cases unsent
  | receive answered => exact paired.setStage answered (by simp)
  | giveUp abandoned => exact paired.setStage abandoned (by simp)
  | leave present => exact paired.setStage present fun _ => .inr rfl
  | lock | look | yield => exact paired.setWorker (by simp)
  | take _ first => exact paired.take first
  | @reply worker job busy e =>
    have free : (p.setWorker worker .idle).IsPaired := paired.setWorker (by simp)
    exact free.notify fun other out => (tally job.ticket).not_out busy rfl out
  | @breakDown worker job busy =>
    have free : (p.setWorker worker .broken).IsPaired := paired.setWorker (by simp)
    exact (free.notify fun other out => (tally job.ticket).not_out busy rfl out).settle
  | stop => exact (paired.setWorker (by simp)).settle
  | cancel | callAll | complete | fail => exact paired

end Courier.Workers

import Courier.Proofs.Workers.Pairing

/-!
# The grounds of a stage

Each stage that a dispatch has come to has its grounds in what has happened: a caller waits for a
job that is out, a response came from a worker that delivered the caller's own request, and a
dispatch fails because the pool was cancelled or because a worker broke down.
-/

namespace Courier.Workers

def HasBreakdown (acts : List Act) : Prop := ∃ worker ticket, .breakDown worker ticket ∈ acts

namespace Pool

/-- A worker has replied to the ticket with what it got for the request. -/
def Produced (p : Pool) (acts : List Act) (t : Nat) (r : DeliveryRequest) (x : Response) : Prop :=
  (∃ worker, .reply worker t x ∈ acts) ∧ ∃ e, x = p.deliver r e

def MayFail (p : Pool) (acts : List Act) : Prop := p.isCancelled = true ∨ HasBreakdown acts

end Pool

/-- What the stage of the dispatch of a request is due to. -/
inductive Grounds (acts : List Act) (p : Pool) (t : Nat) (r : DeliveryRequest) : Stage → Prop where
  | offering : Grounds acts p t r .offering
  | admitted : Grounds acts p t r .admitted
  | waiting (out : 0 < p.queued t + p.held t) : Grounds acts p t r .waiting
  | answered {x : Response} (produced : p.Produced acts t r x) : Grounds acts p t r (.answered x)
  | abandoned (fails : p.MayFail acts) : Grounds acts p t r .abandoned
  | succeeded {x : Response} (produced : p.Produced acts t r x) :
      Grounds acts p t r (.finished (.ok x))
  | closed (fails : p.MayFail acts) : Grounds acts p t r (.finished (.error .poolClosed))
  | failed (broken : HasBreakdown acts) : Grounds acts p t r
      (.finished (.error (.workerFailed ("no reply for event " ++ r.eventId.text))))
  | gone : Grounds acts p t r .gone

section Later

variable {p q : Pool} {acts acts' : List Act} {t : Nat} {r : DeliveryRequest} {s : Stage}

theorem Grounds.out (grounds : Grounds acts p t r .waiting) : 0 < p.queued t + p.held t := by
  cases grounds with
  | waiting out => exact out

structure Pool.IsLater (p : Pool) (acts : List Act) (q : Pool) (acts' : List Act) : Prop where
  client : q.client = p.client
  cancelled : p.isCancelled = true → q.isCancelled = true
  acts : acts ⊆ acts'

theorem Pool.MayFail.later (fails : p.MayFail acts) (later : p.IsLater acts q acts') :
    q.MayFail acts' := by
  rcases fails with cancelled | ⟨worker, ticket, broken⟩
  · exact .inl (later.cancelled cancelled)
  · exact .inr ⟨worker, ticket, later.acts broken⟩

theorem Pool.Produced.later {x : Response} (produced : p.Produced acts t r x)
    (later : p.IsLater acts q acts') : q.Produced acts' t r x := by
  obtain ⟨⟨worker, replied⟩, e, delivered⟩ := produced
  refine ⟨⟨worker, later.acts replied⟩, e, ?_⟩
  rw [delivered, Pool.deliver, Pool.deliver, later.client]

theorem Grounds.later (grounds : Grounds acts p t r s) (later : p.IsLater acts q acts')
    (out : s = .waiting → 0 < p.queued t + p.held t → 0 < q.queued t + q.held t) :
    Grounds acts' q t r s := by
  cases grounds with
  | offering => exact .offering
  | admitted => exact .admitted
  | waiting pending => exact .waiting (out rfl pending)
  | answered produced => exact .answered (produced.later later)
  | abandoned fails => exact .abandoned (fails.later later)
  | succeeded produced => exact .succeeded (produced.later later)
  | closed fails => exact .closed (fails.later later)
  | failed broken =>
    obtain ⟨worker, ticket, member⟩ := broken
    exact .failed ⟨worker, ticket, later.acts member⟩
  | gone => exact .gone

end Later

namespace Pool

def IsGrounded (p : Pool) (acts : List Act) : Prop :=
  ∀ t c, p.callers[t]? = some c → Grounds acts p t c.request c.stage

namespace IsGrounded

variable {p q : Pool} {acts acts' : List Act} {t ticket worker : Nat} {r : DeliveryRequest}
  {s : Stage} {c d : Caller} {w : Worker} {job : Job} {rest : List Job}

theorem same (grounded : p.IsGrounded acts) (later : p.IsLater acts q acts')
    (callers : q.callers = p.callers)
    (out : ∀ t c, p.callers[t]? = some c → c.stage = .waiting → 0 < p.queued t + p.held t →
      0 < q.queued t + q.held t) : q.IsGrounded acts' := by
  intro t c found
  rw [callers] at found
  exact (grounded t c found).later later (out t c found)

theorem recorded (grounded : p.IsGrounded acts) (a : Act) : p.IsGrounded (a :: acts) :=
  grounded.same ⟨rfl, id, List.subset_cons_self a acts⟩ rfl fun _ _ _ _ pending => pending

theorem setStage (grounded : p.IsGrounded acts) (found : p.callers[ticket]? = some d)
    (new : Grounds acts p ticket d.request s) : (p.setStage ticket s).IsGrounded acts := by
  have later : p.IsLater acts (p.setStage ticket s) acts := ⟨rfl, id, List.Subset.refl _⟩
  intro t c present
  rw [callers_setStage] at present
  obtain ⟨b, before, now⟩ := Option.map_eq_some_iff.mp present
  split at now
  · next same =>
    subst same
    rw [found] at before
    cases before
    subst now
    exact new.later later fun _ pending => pending
  · subst now
    exact (grounded t b before).later later fun _ pending => pending

theorem call (grounded : p.IsGrounded acts) (r : DeliveryRequest) : (p.call r).IsGrounded acts := by
  have later : p.IsLater acts (p.call r) acts := ⟨rfl, id, List.Subset.refl _⟩
  intro t c present
  change (p.callers ++ [_])[t]? = some c at present
  rw [List.getElem?_append] at present
  split at present
  · exact (grounded t c present).later later fun _ pending => pending
  · obtain ⟨_, new⟩ := List.getElem?_eq_some_iff.mp present
    rw [List.getElem_singleton] at new
    subst new
    cases cancelled : p.isCancelled with
    | true => exact .closed (.inl cancelled)
    | false => exact .offering

theorem push (grounded : p.IsGrounded acts) (ticket : Nat) (r : DeliveryRequest) :
    (p.push ticket r).IsGrounded acts := by
  intro t c present
  change (p.setStage ticket .waiting).callers[t]? = some c at present
  rw [callers_setStage] at present
  obtain ⟨b, before, now⟩ := Option.map_eq_some_iff.mp present
  split at now
  · next same =>
    subst same now
    refine .waiting ?_
    rw [queued_push, beq_self_eq_true]
    exact Nat.add_pos_left (Nat.succ_pos _) _
  · subst now
    refine (grounded t b before).later ⟨rfl, id, List.Subset.refl _⟩ fun _ pending => ?_
    rw [queued_push]
    exact Nat.lt_of_lt_of_le pending (Nat.add_le_add_right (Nat.le_add_right _ _) _)

theorem setWorker (grounded : p.IsGrounded acts) (found : p.workers[worker]? = some w)
    {v : Worker} (before : ∀ t, w.holds t = false) (after : ∀ t, v.holds t = false) :
    (p.setWorker worker v).IsGrounded acts := by
  refine grounded.same ⟨rfl, id, List.Subset.refl _⟩ rfl fun t c _ _ pending => ?_
  have held := held_setWorker found v t
  rw [before, after] at held
  change (p.setWorker worker v).held t = p.held t at held
  rw [held]
  exact pending

theorem take (grounded : p.IsGrounded acts) (receiving : p.workers[worker]? = some .receiving)
    (first : p.channel = job :: rest) : (p.take worker job rest).IsGrounded acts := by
  refine grounded.same ⟨rfl, id, List.Subset.refl _⟩ rfl fun t c _ _ pending => ?_
  have held := held_take receiving job rest t
  have queued := queued_take first worker t
  omega

theorem finish (grounded : p.IsGrounded acts) (busy : p.workers[worker]? = some (.busy job))
    (free : ∀ t, w.holds t = false) (answers : s ≠ .waiting)
    (new : ∀ c, p.callers[job.ticket]? = some c → Grounds acts p job.ticket c.request s) :
    ((p.setWorker worker w).notify job.ticket s).IsGrounded acts := by
  have later : p.IsLater acts ((p.setWorker worker w).notify job.ticket s) acts :=
    ⟨rfl, id, List.Subset.refl _⟩
  intro t c present
  rw [callers_notify] at present
  obtain ⟨b, before, now⟩ := Option.map_eq_some_iff.mp present
  split at now
  · next same =>
    subst same
    by_cases waits : b.stage = .waiting
    · rw [Caller.notified_of_waiting waits] at now
      subst now
      exact (new b before).later later fun is_waiting => absurd is_waiting answers
    · rw [Caller.notified_of_other waits] at now
      subst now
      exact (grounded _ b before).later later fun is_waiting => absurd is_waiting waits
  · next other =>
    subst now
    refine (grounded t b before).later later fun _ pending => ?_
    have held := held_setWorker busy w t
    have elsewhere : Worker.holds t (.busy job) = false := beq_false_of_ne other
    rw [free, elsewhere] at held
    change ((p.setWorker worker w).notify job.ticket s).held t = p.held t at held
    rw [held]
    exact pending

theorem settle (grounded : p.IsGrounded acts) (fails : p.isOpen = false → p.MayFail acts) :
    p.settle.IsGrounded acts := by
  cases state : p.isOpen with
  | true =>
    rw [settle_of_isOpen state]
    exact grounded
  | false =>
    have later : p.IsLater acts p.settle acts := by
      unfold Pool.settle
      rw [state]
      exact ⟨rfl, id, List.Subset.refl _⟩
    intro t c present
    rw [callers_settle] at present
    obtain ⟨b, before, now⟩ := Option.map_eq_some_iff.mp present
    by_cases waits : b.stage = .waiting
    · split at now
      · rw [Caller.notified_of_waiting waits] at now
        subst now
        exact .abandoned ((fails state).later later)
      · -- its job is in the channel, since no worker holds one, and stays there
        next stays =>
        subst now
        have grounds := grounded t b before
        rw [waits] at grounds ⊢
        obtain ⟨job, queued | held, same⟩ := isOut_iff_pos.mpr grounds.out
        · have kept : p.closing.keepsUnread job = true :=
            Bool.of_not_eq_false fun dropped => stays ⟨state, job, queued, same, dropped⟩
          refine .waiting (isOut_iff_pos.mp ⟨job, .inl ?_, same⟩)
          exact (mem_channel_settle state).mpr ⟨queued, kept⟩
        · exact absurd held (not_busy_of_closed state job)
    · have unchanged : c = b := by
        split at now
        · rw [← now, Caller.notified_of_other waits]
        · exact now.symm
      subst unchanged
      exact (grounded t c before).later later fun is_waiting => absurd is_waiting waits

end IsGrounded

/-- Each worker that is no longer alive was stopped or broke down. -/
def IsExplained (p : Pool) (acts : List Act) : Prop :=
  p.workers ≠ [] ∧ ∀ w ∈ p.workers, w.isAlive = false → p.MayFail acts

theorem IsExplained.mayFail {p : Pool} {acts : List Act} (explained : p.IsExplained acts)
    (closed : p.isOpen = false) : p.MayFail acts := by
  obtain ⟨w, member⟩ := List.exists_mem_of_ne_nil _ explained.1
  refine explained.2 w member ?_
  exact Bool.eq_false_iff.mpr (List.any_eq_false.mp closed w member)

end Pool

section Steps

variable {p q : Pool} {acts : List Act} {a : Act}

theorem Step.client (step : Step p a q) : q.client = p.client := by
  cases step with
  | breakDown | stop => exact Pool.client_settle _
  | _ => rfl

theorem Step.closing (step : Step p a q) : q.closing = p.closing := by
  cases step with
  | breakDown | stop => exact Pool.closing_settle _
  | _ => rfl

theorem Step.cancelled (step : Step p a q) (cancelled : p.isCancelled = true) :
    q.isCancelled = true := by
  cases step with
  | cancel => rfl
  | breakDown | stop => exact (Pool.isCancelled_settle _).trans cancelled
  | _ => exact cancelled

theorem Step.later (step : Step p a q) : p.IsLater acts q (a :: acts) :=
  ⟨step.client, step.cancelled, List.subset_cons_self a acts⟩

theorem Step.workers (step : Step p a q) {w : Worker} (member : w ∈ q.workers)
    (gone : w.isAlive = false) : w ∈ p.workers ∨ q.MayFail (a :: acts) := by
  cases step with
  | breakDown =>
    exact .inr (.inr ⟨_, _, List.mem_cons_self⟩)
  | stop _ cancelled => exact .inr (.inl ((Pool.isCancelled_settle _).trans cancelled))
  | lock | look | yield | take | reply =>
    rcases Pool.mem_setWorker member with old | new
    · exact .inl old
    · subst new
      cases gone
  | _ => exact .inl member

theorem Step.workers_length (step : Step p a q) : q.workers.length = p.workers.length := by
  cases step with
  | breakDown | stop =>
    exact (congrArg List.length (Pool.workers_settle _)).trans List.length_set
  | lock | look | yield | take | reply => exact List.length_set
  | _ => rfl

theorem Step.isExplained (step : Step p a q) (explained : p.IsExplained acts) :
    q.IsExplained (a :: acts) := by
  refine ⟨?_, fun w member gone => ?_⟩
  · rw [← List.length_pos_iff, step.workers_length, List.length_pos_iff]
    exact explained.1
  · rcases step.workers member gone with old | fails
    · exact (explained.2 w old gone).later step.later
    · exact fails

theorem Step.isGrounded (step : Step p a q) (paired : p.IsPaired) (explained : p.IsExplained acts)
    (grounded : p.IsGrounded acts) : q.IsGrounded (a :: acts) := by
  have recorded : p.IsGrounded (a :: acts) := grounded.recorded a
  cases step with
  | call r => exact recorded.call r
  | @enlist batch b r =>
    exact (recorded.call r).same ⟨rfl, id, List.Subset.refl _⟩ rfl fun _ _ _ _ out => out
  | reserve offering => exact recorded.setStage offering .admitted
  | push => exact recorded.push _ _
  | discard admitted isClosed =>
    refine recorded.setStage admitted (.abandoned ?_)
    exact (explained.mayFail isClosed).later ⟨rfl, id, List.subset_cons_self _ acts⟩
  | refuse present _ isClosed =>
    refine recorded.setStage present (.closed ?_)
    exact (explained.mayFail isClosed).later ⟨rfl, id, List.subset_cons_self _ acts⟩
  | lock idle => exact recorded.setWorker idle (fun _ => rfl) fun _ => rfl
  | look holding => exact recorded.setWorker holding (fun _ => rfl) fun _ => rfl
  | yield receiving => exact recorded.setWorker receiving (fun _ => rfl) fun _ => rfl
  | take receiving first => exact recorded.take receiving first
  | @reply worker job busy e =>
    refine recorded.finish busy (fun _ => rfl) (by simp) fun c found => .answered ?_
    obtain ⟨s, expected, _⟩ := paired job (.inr (Pool.mem_of_at busy))
    rw [found] at expected
    cases expected
    exact ⟨⟨worker, List.mem_cons_self⟩, e, rfl⟩
  | @breakDown worker job busy =>
    have broken : HasBreakdown (.breakDown worker job.ticket :: acts) :=
      ⟨worker, job.ticket, List.mem_cons_self⟩
    refine .settle ?_ fun _ => .inr broken
    exact recorded.finish busy (fun _ => rfl) (by simp) fun _ _ => .abandoned (.inr broken)
  | stop holding cancelled =>
    exact .settle (recorded.setWorker holding (fun _ => rfl) fun _ => rfl) fun _ => .inl cancelled
  | @receive ticket r x answered =>
    refine recorded.setStage answered (.succeeded ?_)
    cases recorded ticket _ answered with
    | answered produced => exact produced
  | @giveUp ticket r abandoned =>
    refine recorded.setStage abandoned ?_
    unfold Pool.missingReply
    cases recorded ticket _ abandoned with
    | abandoned fails =>
      split
      · next cancelled => exact .closed (.inl cancelled)
      · next running => exact .failed (fails.resolve_left running)
  | leave present => exact recorded.setStage present .gone
  | cancel => exact recorded.same ⟨rfl, fun _ => rfl, List.Subset.refl _⟩ rfl fun _ _ _ _ out => out
  | callAll | complete | fail =>
    exact recorded.same ⟨rfl, id, List.Subset.refl _⟩ rfl fun _ _ _ _ out => out

end Steps

end Courier.Workers

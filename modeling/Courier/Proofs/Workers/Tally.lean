import Courier.Proofs.Workers.Progress

/-!
# A tally of each job

What has happened to a ticket is counted: its job is pushed at most once, and it is taken at most as
often as it is pushed, replied to or lost at most as often as it is taken.
-/

namespace Courier.Workers

namespace Act

def submits (t : Nat) : Act → Bool
  | push ticket => ticket == t
  | _ => false

def takes (t : Nat) : Act → Bool
  | take _ ticket => ticket == t
  | _ => false

def replies (t : Nat) : Act → Bool
  | reply _ ticket _ => ticket == t
  | _ => false

def loses (t : Nat) : Act → Bool
  | breakDown _ ticket => ticket == t
  | _ => false

def concerns (t : Nat) (a : Act) : Bool := a.submits t || a.takes t || a.replies t || a.loses t

end Act

def Worker.holds (t : Nat) : Worker → Bool
  | busy job => job.ticket == t
  | _ => false

namespace Pool

variable {p q : Pool} {t ticket worker : Nat} {w v : Worker} {job : Job} {rest : List Job}

def queued (p : Pool) (t : Nat) : Nat := p.channel.countP (·.ticket == t)

def held (p : Pool) (t : Nat) : Nat := p.workers.countP (Worker.holds t)

theorem held_setWorker (found : p.workers[worker]? = some w) (v : Worker) (t : Nat) :
    (p.setWorker worker v).held t + (if w.holds t then 1 else 0) =
      p.held t + if v.holds t then 1 else 0 := by
  obtain ⟨bound, at_worker⟩ := List.getElem?_eq_some_iff.mp found
  have counted : (if w.holds t then 1 else 0) ≤ p.workers.countP (Worker.holds t) := by
    split
    · next holds => exact List.countP_pos_iff.mpr ⟨w, List.mem_of_getElem? found, holds⟩
    · exact Nat.zero_le _
  show (p.workers.set worker v).countP _ + _ = p.workers.countP _ + _
  rw [List.countP_set bound, at_worker]
  omega

theorem queued_push (p : Pool) (ticket : Nat) (r : DeliveryRequest) (t : Nat) :
    (p.push ticket r).queued t = p.queued t + if ticket == t then 1 else 0 := by
  show (p.channel ++ [_]).countP _ = _
  rw [List.countP_append, List.countP_singleton]
  rfl

theorem queued_take (first : p.channel = job :: rest) (worker t : Nat) :
    p.queued t = (p.take worker job rest).queued t + if job.ticket == t then 1 else 0 := by
  rw [queued, first, List.countP_cons]
  rfl

theorem held_take (receiving : p.workers[worker]? = some .receiving) (job : Job) (rest : List Job)
    (t : Nat) :
    (p.take worker job rest).held t = p.held t + if job.ticket == t then 1 else 0 :=
  held_setWorker receiving (.busy job) t

theorem held_settle (p : Pool) (t : Nat) : p.settle.held t = p.held t := by
  unfold settle
  split <;> rfl

theorem queued_settle_le (p : Pool) (t : Nat) : p.settle.queued t ≤ p.queued t := by
  unfold settle
  split
  · exact Nat.le_refl _
  · exact List.Sublist.countP_le (List.filter_sublist)

/-- Nobody has the ticket yet, or its caller has not pushed the job. -/
def IsFresh (p : Pool) (t : Nat) : Prop := ∀ c, p.callers[t]? = some c → c.stage.isUnsent = true

end Pool

/-- How often the job with a ticket was pushed, taken and finished, and where it is now. -/
structure Tally (acts : List Act) (p : Pool) (t : Nat) : Prop where
  once : acts.countP (Act.submits t) ≤ 1
  queued : acts.countP (Act.takes t) + p.queued t ≤ acts.countP (Act.submits t)
  taken : acts.countP (Act.replies t) + acts.countP (Act.loses t) + p.held t =
    acts.countP (Act.takes t)
  fresh : p.IsFresh t → acts.countP (Act.submits t) = 0

variable {p q : Pool} {acts : List Act} {a : Act} {t : Nat}

theorem Step.isFresh (step : Step p a q) (fresh : q.IsFresh t) : p.IsFresh t := by
  intro c found
  obtain ⟨s, later, next⟩ := step.carries found
  exact next.unsent (fresh _ later)

theorem countP_of_not {f : Act → Bool} (other : f a = false) :
    (a :: acts).countP f = acts.countP f := by
  rw [List.countP_cons, other]
  rfl

namespace Tally

theorem start (size : Nat) (client : Client) (closing : ClosedChannel) (t : Nat) :
    Tally [] (.start size client closing) t where
  once := Nat.zero_le 1
  queued := Nat.le_refl 0
  taken := by
    have none : (Pool.start size client closing).held t = 0 := by
      refine List.countP_eq_zero.mpr fun w member => ?_
      rw [List.eq_of_mem_replicate member]
      simp [Worker.holds]
    rw [none]
    rfl
  fresh _ := rfl

theorem quiet (tally : Tally acts p t) (fresh : q.IsFresh t → p.IsFresh t)
    (other : a.concerns t = false) (queued : q.queued t ≤ p.queued t)
    (held : q.held t = p.held t) : Tally (a :: acts) q t := by
  simp only [Act.concerns, Bool.or_eq_false_iff] at other
  obtain ⟨⟨⟨submits, takes⟩, replies⟩, loses⟩ := other
  refine ⟨?_, ?_, ?_, ?_⟩
  · rw [countP_of_not submits]
    exact tally.once
  · rw [countP_of_not submits, countP_of_not takes]
    exact Nat.le_trans (Nat.add_le_add_left queued _) tally.queued
  · rw [countP_of_not replies, countP_of_not loses, countP_of_not takes, held]
    exact tally.taken
  · rw [countP_of_not submits]
    exact fun now => tally.fresh (fresh now)

theorem unsent {ticket : Nat} {r : DeliveryRequest} (tally : Tally acts p ticket)
    (admitted : p.callers[ticket]? = some ⟨r, .admitted⟩) :
    acts.countP (Act.submits ticket) = 0 := by
  refine tally.fresh fun c found => ?_
  rw [admitted] at found
  cases found
  rfl

theorem push {ticket : Nat} {r : DeliveryRequest} {s : Stage} (tally : Tally acts p t)
    (fresh : q.IsFresh t → p.IsFresh t)
    (admitted : p.callers[ticket]? = some ⟨r, .admitted⟩)
    (sent : q.callers[ticket]? = some ⟨r, s⟩) (pushed : s.isUnsent = false)
    (queued : q.queued t ≤ p.queued t + if ticket == t then 1 else 0) (held : q.held t = p.held t) :
    Tally (.push ticket :: acts) q t := by
  by_cases same : ticket = t
  · subst same
    have none := tally.unsent admitted
    have one : (Act.push ticket :: acts).countP (Act.submits ticket) = 1 := by
      rw [List.countP_cons_of_pos (by simp [Act.submits]), none]
    have before := tally.queued
    rw [beq_self_eq_true, if_pos rfl] at queued
    refine ⟨Nat.le_of_eq one, ?_, ?_, fun still => ?_⟩
    · rw [one, countP_of_not rfl]
      omega
    · rw [countP_of_not rfl, countP_of_not rfl, countP_of_not rfl, held]
      exact tally.taken
    · rw [still _ sent] at pushed
      cases pushed
  · rw [beq_false_of_ne same] at queued
    refine tally.quiet fresh ?_ queued held
    simp [Act.concerns, Act.submits, Act.takes, Act.replies, Act.loses, same]

theorem take {worker : Nat} {job : Job} {rest : List Job} (tally : Tally acts p t)
    (fresh : (p.take worker job rest).IsFresh t → p.IsFresh t)
    (receiving : p.workers[worker]? = some .receiving) (first : p.channel = job :: rest) :
    Tally (.take worker job.ticket :: acts) (p.take worker job rest) t := by
  have queued := Pool.queued_take first worker t
  have held := Pool.held_take receiving job rest t
  have takes : (Act.take worker job.ticket :: acts).countP (Act.takes t) =
      acts.countP (Act.takes t) + if job.ticket == t then 1 else 0 := List.countP_cons
  have submitted := tally.queued
  have taken := tally.taken
  refine ⟨?_, ?_, ?_, ?_⟩
  · rw [countP_of_not (f := Act.submits t) rfl]
    exact tally.once
  · rw [countP_of_not (f := Act.submits t) rfl, takes]
    omega
  · rw [countP_of_not (f := Act.replies t) rfl, countP_of_not (f := Act.loses t) rfl, takes, held]
    omega
  · rw [countP_of_not (f := Act.submits t) rfl]
    exact fun now => tally.fresh (fresh now)

theorem finish {worker : Nat} {job : Job} {w : Worker} (tally : Tally acts p t)
    (fresh : q.IsFresh t → p.IsFresh t) (busy : p.workers[worker]? = some (.busy job))
    (free : w.holds t = false)
    (submits : a.submits t = false) (takes : a.takes t = false)
    (one : (a :: acts).countP (Act.replies t) + (a :: acts).countP (Act.loses t) =
      acts.countP (Act.replies t) + acts.countP (Act.loses t) + if job.ticket == t then 1 else 0)
    (queued : q.queued t ≤ p.queued t) (held : q.held t = (p.setWorker worker w).held t) :
    Tally (a :: acts) q t := by
  have rest := Pool.held_setWorker busy w t
  rw [free, ← held] at rest
  change _ + (if job.ticket == t then 1 else 0) = p.held t + 0 at rest
  have submitted := tally.queued
  have taken := tally.taken
  refine ⟨?_, ?_, ?_, ?_⟩
  · rw [countP_of_not submits]
    exact tally.once
  · rw [countP_of_not submits, countP_of_not takes]
    omega
  · rw [one, countP_of_not takes]
    omega
  · rw [countP_of_not submits]
    exact fun now => tally.fresh (fresh now)

theorem step (tally : Tally acts p t) (step : Step p a q) : Tally (a :: acts) q t := by
  have fresh : q.IsFresh t → p.IsFresh t := step.isFresh
  cases step with
  | push admitted =>
    exact tally.push fresh admitted (Pool.setStage_at admitted .waiting) rfl
      (Nat.le_of_eq (Pool.queued_push _ _ _ _)) rfl
  | discard admitted =>
    exact tally.push fresh admitted (Pool.setStage_at admitted .abandoned) rfl
      (Nat.le_add_right _ _) rfl
  | take receiving first => exact tally.take fresh receiving first
  | reply busy e =>
    refine tally.finish fresh busy (w := .idle) rfl rfl rfl ?_ (Nat.le_refl _) rfl
    rw [countP_of_not (f := Act.loses t) rfl, List.countP_cons]
    exact Nat.add_right_comm _ _ _
  | breakDown busy =>
    refine tally.finish fresh busy (w := .broken) rfl rfl rfl ?_ (Pool.queued_settle_le _ t)
      (Pool.held_settle _ t)
    rw [countP_of_not (f := Act.replies t) rfl, List.countP_cons]
    exact (Nat.add_assoc _ _ _).symm
  | stop holding =>
    have held := Pool.held_setWorker holding .stopped t
    exact tally.quiet fresh rfl (Pool.queued_settle_le _ t) ((Pool.held_settle _ t).trans held)
  | lock idle => exact tally.quiet fresh rfl (Nat.le_refl _) (Pool.held_setWorker idle .holding t)
  | look holding =>
    exact tally.quiet fresh rfl (Nat.le_refl _) (Pool.held_setWorker holding .receiving t)
  | yield receiving =>
    exact tally.quiet fresh rfl (Nat.le_refl _) (Pool.held_setWorker receiving .holding t)
  | call | reserve | refuse | receive | giveUp | leave | cancel | callAll | enlist | complete
  | fail => exact tally.quiet fresh rfl (Nat.le_refl _) rfl

end Tally

end Courier.Workers

import Courier.Workers.Pool

/-!
# How a dispatch goes on

Whatever happens to a pool, a caller keeps its request and moves along the stages of a dispatch. A
dispatch that has ended stays as it is, and one that has an answer ends with that answer or without
its caller.
-/

namespace Courier.Workers

/-- The stages that may follow a stage, which may also last. -/
inductive Stage.Next : Stage → Stage → Prop where
  | same (s : Stage) : Next s s
  | reserve : Next .offering .admitted
  | push : Next .admitted .waiting
  | discard : Next .admitted .abandoned
  | refuse {s : Stage} (unsent : s.isUnsent = true) : Next s (.finished (.error .poolClosed))
  | answer (r : Response) : Next .waiting (.answered r)
  | abandon : Next .waiting .abandoned
  | receive (r : Response) : Next (.answered r) (.finished (.ok r))
  | giveUp (e : DeliveryError) : Next .abandoned (.finished (.error e))
  | leave {s : Stage} (unfinished : s.isFinal = false) : Next s .gone

/-- The dispatch has got the response, unless its caller went away. -/
def Stage.HasGot (r : Response) (s : Stage) : Prop :=
  s = .answered r ∨ s = .finished (.ok r) ∨ s = .gone

theorem Stage.isUnsent_of_final {s : Stage} (final : s.isFinal = true) : s.isUnsent = false := by
  cases s <;> first | rfl | cases final

namespace Stage.Next

variable {s u : Stage} {r : Response}

theorem eq_of_final (next : s.Next u) (final : s.isFinal = true) : u = s := by
  cases next with
  | same => rfl
  | leave unfinished => rw [final] at unfinished; cases unfinished
  | refuse unsent => cases s <;> contradiction
  | _ => cases final

theorem unsent (next : s.Next u) (unsent : u.isUnsent = true) : s.isUnsent = true := by
  cases next with
  | same => exact unsent
  | reserve => rfl
  | _ => cases unsent

theorem hasGot (next : s.Next u) (got : s.HasGot r) : u.HasGot r := by
  cases next with
  | same => exact got
  | receive r' =>
    rcases got with same | final | gone
    · cases same
      exact .inr (.inl rfl)
    · cases final
    · cases gone
  | leave => exact .inr (.inr rfl)
  | refuse unsent => rcases got with rfl | rfl | rfl <;> cases unsent
  | reserve | push | discard | answer | abandon | giveUp =>
    rcases got with same | final | gone <;> contradiction

end Stage.Next

namespace Caller

variable {c : Caller} {s : Stage}

theorem notified_of_waiting (waiting : c.stage = .waiting) : c.notified s = ⟨c.request, s⟩ := by
  unfold notified
  rw [waiting]

theorem notified_of_other (other : c.stage ≠ .waiting) : c.notified s = c := by
  unfold notified
  split
  · next waiting => exact absurd waiting other
  · rfl

@[simp] theorem notified_request (c : Caller) (s : Stage) : (c.notified s).request = c.request := by
  unfold notified
  split <;> rfl

theorem notified_notified (c : Caller) :
    (c.notified .abandoned).notified .abandoned = c.notified .abandoned := by
  by_cases waiting : c.stage = .waiting
  · rw [notified_of_waiting waiting]
    rfl
  · rw [notified_of_other waiting, notified_of_other waiting]

theorem notified_next (follows : Stage.Next .waiting s) : c.stage.Next (c.notified s).stage := by
  by_cases waiting : c.stage = .waiting
  · rw [notified_of_waiting waiting, waiting]
    exact follows
  · rw [notified_of_other waiting]
    exact .same _

end Caller

namespace Pool

variable {p q : Pool} {acts : List Act} {a : Act} {t ticket : Nat} {c d : Caller} {s : Stage}

theorem callers_setStage (p : Pool) (ticket : Nat) (s : Stage) (t : Nat) :
    (p.setStage ticket s).callers[t]? =
      p.callers[t]?.map fun c => if ticket = t then ⟨c.request, s⟩ else c := by
  show (p.callers.modify ticket _)[t]? = _
  rw [List.getElem?_modify]
  split <;> simp

theorem setStage_at (found : p.callers[ticket]? = some c) (s : Stage) :
    (p.setStage ticket s).callers[ticket]? = some ⟨c.request, s⟩ := by
  rw [callers_setStage, found, Option.map_some, if_pos rfl]

theorem callers_notify (p : Pool) (ticket : Nat) (s : Stage) (t : Nat) :
    (p.notify ticket s).callers[t]? =
      p.callers[t]?.map fun c => if ticket = t then c.notified s else c := by
  show (p.callers.modify ticket _)[t]? = _
  rw [List.getElem?_modify]
  split <;> simp

theorem callers_settle (p : Pool) (t : Nat) :
    p.settle.callers[t]? = p.callers[t]?.map fun c =>
      if p.isOpen = false ∧ ∃ job ∈ p.channel, job.ticket = t ∧ p.closing.keepsUnread job = false
      then c.notified .abandoned
      else c := by
  unfold settle
  cases closed : p.isOpen with
  | true => simp
  | false => simp [List.getElem?_mapIdx]

theorem callers_call_of_lt (r : DeliveryRequest) (found : p.callers[t]? = some c) :
    (p.call r).callers[t]? = some c := by
  have bound := (List.getElem?_eq_some_iff.mp found).1
  show (p.callers ++ [_])[t]? = some c
  rw [List.getElem?_append_left bound, found]

theorem callers_call_last (p : Pool) (r : DeliveryRequest) :
    (p.call r).callers[p.callers.length]? =
      some ⟨r, if p.isCancelled then .finished (.error .poolClosed) else .offering⟩ :=
  List.getElem?_concat_length

/-- The caller with a ticket has come as far as `c` or further. -/
def Carries (q : Pool) (t : Nat) (c : Caller) : Prop :=
  ∃ s, q.callers[t]? = some ⟨c.request, s⟩ ∧ c.stage.Next s

theorem carries_of_eq (same : q.callers[t]? = some c) : q.Carries t c :=
  ⟨c.stage, same, .same _⟩

theorem carries_setStage (found : p.callers[t]? = some c) (at_stage : p.callers[ticket]? = some d)
    (follows : d.stage.Next s) : (p.setStage ticket s).Carries t c := by
  unfold Carries
  rw [callers_setStage, found, Option.map_some]
  split
  · next same =>
    rw [same, found] at at_stage
    cases at_stage
    exact ⟨s, rfl, follows⟩
  · exact ⟨c.stage, rfl, .same _⟩

theorem callers_notify_cases (found : p.callers[t]? = some c) (s : Stage) :
    (p.notify ticket s).callers[t]? = some c ∨
      (p.notify ticket s).callers[t]? = some (c.notified s) := by
  rw [callers_notify, found, Option.map_some]
  split
  · exact .inr rfl
  · exact .inl rfl

theorem callers_settle_cases (found : p.callers[t]? = some c) :
    p.settle.callers[t]? = some c ∨ p.settle.callers[t]? = some (c.notified .abandoned) := by
  rw [callers_settle, found, Option.map_some]
  split
  · exact .inr rfl
  · exact .inl rfl

theorem carries_of_notified (follows : Stage.Next .waiting s)
    (told : q.callers[t]? = some c ∨ q.callers[t]? = some (c.notified s)) : q.Carries t c := by
  rcases told with same | told
  · exact carries_of_eq same
  · exact ⟨(c.notified s).stage, by rw [told, ← c.notified_request s], c.notified_next follows⟩

theorem callers_breakDown_cases (found : p.callers[t]? = some c) (worker : Nat) (job : Job) :
    (p.breakDown worker job).callers[t]? = some c ∨
      (p.breakDown worker job).callers[t]? = some (c.notified .abandoned) := by
  rcases callers_notify_cases (p := p.setWorker worker .broken) found .abandoned with same | told
  · exact callers_settle_cases same
  · refine .inr ?_
    rcases callers_settle_cases told with same | told
    · exact same
    · rwa [c.notified_notified] at told

end Pool

variable {p q : Pool} {acts : List Act} {a : Act} {t : Nat} {c : Caller} {r : Response}

theorem Step.carries (step : Step p a q) (found : p.callers[t]? = some c) : q.Carries t c := by
  cases step with
  | call | enlist => exact Pool.carries_of_eq (Pool.callers_call_of_lt _ found)
  | reserve offering => exact Pool.carries_setStage found offering .reserve
  | push admitted => exact Pool.carries_setStage found admitted .push
  | discard admitted => exact Pool.carries_setStage found admitted .discard
  | refuse present unsent => exact Pool.carries_setStage found present (.refuse unsent)
  | receive answered => exact Pool.carries_setStage found answered (.receive _)
  | giveUp abandoned => exact Pool.carries_setStage found abandoned (.giveUp _)
  | leave present unfinished => exact Pool.carries_setStage found present (.leave unfinished)
  | reply =>
    exact Pool.carries_of_notified (.answer _)
      (Pool.callers_notify_cases (p := p.setWorker _ _) found _)
  | breakDown => exact Pool.carries_of_notified .abandon (Pool.callers_breakDown_cases found _ _)
  | stop =>
    exact Pool.carries_of_notified .abandon
      (Pool.callers_settle_cases (p := p.setWorker _ _) found)
  | lock | look | yield | take | cancel | callAll | complete | fail =>
    exact Pool.carries_of_eq found

end Courier.Workers

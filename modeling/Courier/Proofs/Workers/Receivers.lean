import Courier.Proofs.Workers.Contract

/-!
# A pool among receivers

Receivers may answer each post as they like, and in any order. Among them every reply of a worker is
what came back for the job in its hands. `AreBatch.spec` follows the answers to where they go: the
responses of a batch are what came back for its requests, each in the place of its own request.
-/

namespace Courier.Workers

/-- What may come back for the post that is made for a ticket. -/
abbrev Receivers := Nat → Post → Exchange → Prop

/-- What came back for a job. No post is made for a request that cannot be sent. -/
def Job.CameBack (receivers : Receivers) (c : Client) (job : Job) (e : Exchange) : Prop :=
  match job.request.post? c.settings with
  | some post => receivers job.ticket post e
  | none => e = ⟨.failed unsendable, .zero⟩

/-- A reply is the response to what came back for the job in the worker's hands. -/
def Act.IsAnswer (receivers : Receivers) (p : Pool) (a : Act) : Prop :=
  ∀ worker ticket x job, a = .reply worker ticket x → p.workers[worker]? = some (.busy job) →
    ∃ e, job.CameBack receivers p.client e ∧ x = .ofExchange job.request e

/-- A run in which every reply is an answer of the receivers. -/
inductive RunsAmong (receivers : Receivers) (p : Pool) : List Act → Pool → Prop where
  | start : RunsAmong receivers p [] p
  | next {acts : List Act} {a : Act} {q r : Pool} (before : RunsAmong receivers p acts q)
      (step : Step q a r) (answer : a.IsAnswer receivers q) : RunsAmong receivers p (a :: acts) r

variable {receivers : Receivers} {p q : Pool} {acts later : List Act} {a : Act} {size t : Nat}
  {c : Client} {closing : ClosedChannel} {r : DeliveryRequest} {e : Exchange} {x : Response}
  {b : Batch}

theorem Pool.deliver_of_cameBack (back : Job.CameBack receivers p.client ⟨t, r⟩ e) :
    p.deliver r e = .ofExchange r e := by
  unfold Job.CameBack at back
  unfold Pool.deliver Client.deliver
  cases sent : r.post? p.client.settings with
  | some post => rfl
  | none =>
    rw [show e = ⟨.failed unsendable, .zero⟩ by simpa [sent] using back]
    rfl

theorem Act.isAnswer_reply {worker : Nat} {job : Job}
    (busy : p.workers[worker]? = some (.busy job)) (back : job.CameBack receivers p.client e) :
    (Act.reply worker job.ticket (p.deliver job.request e)).IsAnswer receivers p := by
  rintro _ _ _ other same hands
  cases same
  rw [busy] at hands
  cases hands
  exact ⟨e, back, Pool.deliver_of_cameBack back⟩

def Act.isReply : Act → Bool
  | reply .. => true
  | _ => false

theorem Act.isAnswer_of_quiet (quiet : a.isReply = false) : a.IsAnswer receivers p := by
  rintro worker ticket x job rfl
  cases quiet

namespace RunsAmong

theorem quietly {z : Pool} (before : RunsAmong receivers p acts q) (step : Step q a z)
    (quiet : a.isReply = false) : RunsAmong receivers p (a :: acts) z :=
  before.next step (Act.isAnswer_of_quiet quiet)

theorem runs (run : RunsAmong receivers p acts q) : Runs p acts q := by
  induction run with
  | start => exact .start
  | next _ step _ ih => exact ih.next step

theorem trans {z : Pool} (run : RunsAmong receivers p acts q)
    (rest : RunsAmong receivers q later z) : RunsAmong receivers p (later ++ acts) z := by
  induction rest with
  | start => exact run
  | next _ step answer ih => exact ih.next step answer

theorem client (run : RunsAmong receivers p acts q) : q.client = p.client := by
  induction run with
  | start => rfl
  | next _ step _ ih => exact step.client.trans ih

theorem reply_mem (run : RunsAmong receivers (.start size c closing) acts q) {worker : Nat}
    (replied : .reply worker t x ∈ acts) :
    ∃ r s e, q.callers[t]? = some ⟨r, s⟩ ∧ Job.CameBack receivers c ⟨t, r⟩ e ∧
      x = .ofExchange r e := by
  induction run with
  | start => cases replied
  | next before step answer ih =>
    have client := before.client
    obtain last | earlier := List.mem_cons.mp replied
    · subst last
      cases step with
      | @reply _ job busy _ =>
        -- The job has the request of its caller, as it had when it was handed over.
        obtain ⟨s, caller, _⟩ := (Sound.run before.runs).paired job (.inr (Pool.mem_of_at busy))
        obtain ⟨e, back, same⟩ := answer _ _ _ job rfl busy
        obtain ⟨s', now, _⟩ := (Step.reply busy _).carries caller
        rw [client] at back
        exact ⟨job.request, s', e, now, back, same⟩
    · obtain ⟨r, s, e, caller, back, same⟩ := ih earlier
      obtain ⟨s', now, _⟩ := step.carries caller
      exact ⟨r, s', e, now, back, same⟩

end RunsAmong

/-! ### The tickets of a batch -/

theorem Batch.IsPaired.known (paired : b.IsPaired p) (member : t ∈ b.tickets) :
    t < p.callers.length := by
  obtain ⟨i, bound, rfl⟩ := List.mem_iff_getElem.mp member
  obtain ⟨r, s, _, caller⟩ := paired.begun i _ (List.getElem?_eq_getElem bound)
  exact (List.getElem?_eq_some_iff.mp caller).1

theorem Step.tickets_nodup (step : Step p a q) (paired : ∀ b ∈ p.batches, b.IsPaired p)
    (apart : ∀ b ∈ p.batches, b.tickets.Nodup) : ∀ b ∈ q.batches, b.tickets.Nodup := by
  intro b member
  cases step with
  | callAll =>
    obtain old | new := List.mem_append.mp member
    · exact apart b old
    · cases List.mem_singleton.mp new
      exact List.nodup_nil
  | enlist current =>
    obtain old | rfl := List.mem_or_eq_of_mem_set member
    · exact apart b old
    · have before := List.mem_of_getElem? current
      refine List.nodup_append.mpr ⟨apart _ before, by simp, ?_⟩
      intro t begun u new same
      rw [List.mem_singleton.mp new] at same
      exact Nat.lt_irrefl _ (same ▸ (paired _ before).known begun)
  | complete current | fail current =>
    obtain old | rfl := List.mem_or_eq_of_mem_set member
    · exact apart b old
    · have before := apart _ (List.mem_of_getElem? current)
      exact before
  | breakDown | stop =>
    have old := (congrArg (b ∈ ·) (Pool.batches_settle _)).mp member
    exact apart b old
  | call | reserve | push | discard | refuse | lock | look | yield | take | reply | receive
  | giveUp | leave | cancel => exact apart b member

theorem Runs.tickets_nodup (run : Runs (.start size c closing) acts p) :
    ∀ b ∈ p.batches, b.tickets.Nodup := by
  induction run with
  | start => exact nofun
  | next before step ih => exact step.tickets_nodup (Sound.run before).batches ih

/-! ### The responses of a batch -/

theorem RunsAmong.caller_got (run : RunsAmong receivers (.start size c closing) acts p)
    (got : p.callers[t]? = some ⟨r, .finished (.ok x)⟩) :
    ∃ e, Job.CameBack receivers c ⟨t, r⟩ e ∧ x = .ofExchange r e := by
  obtain ⟨-, -, ⟨worker, replied⟩, -⟩ := (Sound.run run.runs).contract.own t r x got
  obtain ⟨r', s, e, caller, back, same⟩ := run.reply_mem replied
  rw [got] at caller
  cases caller
  exact ⟨e, back, same⟩

/-- The responses are those of a batch of the requests in some run of a pool. -/
def AreBatch (receivers : Receivers) (c : Client) (requests : List DeliveryRequest)
    (responses : List Response) : Prop :=
  ∃ size closing acts p tickets, RunsAmong receivers (.start size c closing) acts p ∧
    ⟨requests, tickets, some (.ok responses)⟩ ∈ p.batches

/-- Each response of a batch is to what came back for the request in its place, which has a ticket
of its own. -/
theorem AreBatch.spec {requests : List DeliveryRequest} {responses : List Response}
    (batch : AreBatch receivers c requests responses) :
    responses.length = requests.length ∧
      ∃ tickets : List Nat, tickets.Nodup ∧
        ∀ (i : Nat) (r : DeliveryRequest), requests[i]? = some r →
          ∃ t e, tickets[i]? = some t ∧ Job.CameBack receivers c ⟨t, r⟩ e ∧
            responses[i]? = some (.ofExchange r e) := by
  obtain ⟨size, closing, acts, p, tickets, run, member⟩ := batch
  obtain ⟨length, each⟩ := ((Sound.run run.runs).batches _ member).succeeded responses rfl
  refine ⟨length, tickets, run.runs.tickets_nodup _ member, fun i r request => ?_⟩
  obtain ⟨t, x, ticket, response, caller⟩ := each i r request
  obtain ⟨e, back, rfl⟩ := run.caller_got caller
  exact ⟨t, e, ticket, back, response⟩

end Courier.Workers

import Courier.Proofs.Polling.Dispatcher
import Courier.Proofs.Workers.Receivers

/-!
# A dispatch in time is a run of the pool

A timetable and a scripted network settle what happens in a dispatch. Whatever comes of it there,
the pool has a run that comes to the same: its first worker serves the requests one after the other,
or they are refused because the pool was shut down. In that run the receivers answer each post as
the network does. So the contract holds of a dispatch in time too.
-/

namespace Courier.Workers

variable {p q : Pool} {acts later : List Act} {t batch : Nat} {b : Batch} {r : DeliveryRequest}
  {x : Response} {tickets : List Nat} {responses : List Response} {receivers : Receivers}
  {e : Exchange}

theorem Runs.keeps_responses (run : Runs p acts q)
    (got : p.responses? tickets = some responses) : q.responses? tickets = some responses := by
  induction tickets generalizing responses with
  | nil => exact got
  | cons first rest ih =>
    unfold Pool.responses? at got ⊢
    rw [List.mapM_cons] at got ⊢
    obtain ⟨x, answer, got⟩ := Option.bind_eq_some_iff.mp got
    obtain ⟨others, later, got⟩ := Option.bind_eq_some_iff.mp got
    obtain ⟨c, caller, answered⟩ := Option.bind_eq_some_iff.mp answer
    have final : c.stage.isFinal = true := by rw [Caller.eq_of_response? answered]; rfl
    have same : q.callers[first]?.bind Caller.response? = some x := by
      rw [(run.keeps_final caller final).1]
      exact answered
    have others' : rest.mapM (fun t => q.callers[t]?.bind Caller.response?) = some others :=
      ih later
    rw [same, Option.bind_eq_bind, Option.bind_some, others']
    exact got

namespace Pool

theorem responses?_concat (got : p.responses? tickets = some responses)
    (caller : p.callers[t]? = some ⟨r, .finished (.ok x)⟩) :
    p.responses? (tickets ++ [t]) = some (responses ++ [x]) := by
  unfold responses? at got ⊢
  rw [List.mapM_append, got]
  simp [caller, Caller.response?]

/-! ### Serving one request -/

/-- The pool runs, the first worker is free and nothing is under way. -/
structure IsResting (p : Pool) : Prop where
  running : p.isCancelled = false
  first : p.workers[0]? = some .idle
  free : ∀ w ∈ p.workers, w.hasLock = false
  empty : p.channel = []
  unreserved : ∀ (t : Nat) (r : DeliveryRequest), p.callers[t]? ≠ some ⟨r, .admitted⟩
  room : 0 < p.capacity

theorem setWorker_at {worker : Nat} {w : Worker} (found : p.workers[worker]? = some w)
    (v : Worker) : (p.setWorker worker v).workers[worker]? = some v :=
  List.getElem?_set_self (List.getElem?_eq_some_iff.mp found).1

theorem IsResting.start (size : Nat) (c : Client) (closing : ClosedChannel) :
    (Pool.start size c closing).IsResting where
  running := rfl
  first := by
    show (List.replicate (max size 1) Worker.idle)[0]? = _
    rw [List.getElem?_replicate, if_pos (by omega)]
  free w member := by rw [List.eq_of_mem_replicate member]; rfl
  empty := rfl
  unreserved := nofun
  room := by
    show 0 < max size 1
    omega

def taken (p : Pool) (t : Nat) (r : DeliveryRequest) : Pool :=
  ((((p.setStage t .admitted).push t r).setWorker 0 .holding).setWorker 0 .receiving).take 0
    ⟨t, r⟩ []

namespace IsResting

theorem isOpen (resting : p.IsResting) : p.isOpen = true :=
  List.any_eq_true.mpr ⟨_, mem_of_at resting.first, rfl⟩

theorem reserved (resting : p.IsResting) : p.reserved = 0 := by
  refine List.countP_eq_zero.mpr fun c member => ?_
  obtain ⟨t, found⟩ := List.mem_iff_getElem?.mp member
  intro admitted
  obtain ⟨r, s⟩ := c
  cases s with
  | admitted => exact resting.unreserved t r found
  | _ => cases admitted

theorem finish (resting : p.IsResting) (ticket : Nat) (result : Except DeliveryError Response) :
    (p.setStage ticket (.finished result)).IsResting :=
  { resting with
    unreserved := by
      intro t r found
      rw [callers_setStage] at found
      obtain ⟨c, before, now⟩ := Option.map_eq_some_iff.mp found
      split at now
      · cases now
      · rw [now] at before
        exact resting.unreserved t r before }

theorem enlist (resting : p.IsResting) (batch : Nat) (b : Batch) (r : DeliveryRequest) :
    (p.enlist batch b r).IsResting :=
  { resting with
    unreserved := by
      intro t r' found
      change (p.callers ++ [_])[t]? = _ at found
      rw [resting.running, if_neg Bool.false_ne_true, List.getElem?_append] at found
      split at found
      · exact resting.unreserved t r' found
      · obtain ⟨bound, same⟩ := List.getElem?_eq_some_iff.mp found
        rw [List.getElem_singleton] at same
        cases same }

theorem reply_at {worker : Nat} {job : Job}
    (waiting : p.callers[job.ticket]? = some ⟨r, .waiting⟩) (got : p.deliver job.request e = x) :
    (p.reply worker job e).callers[job.ticket]? = some ⟨r, .answered x⟩ := by
  show ((p.setWorker worker .idle).notify job.ticket _).callers[job.ticket]? = _
  have waiting : (p.setWorker worker .idle).callers[job.ticket]? = some ⟨r, .waiting⟩ := waiting
  rw [callers_notify, waiting, Option.map_some, if_pos rfl, got]
  rfl

theorem taken_at (offering : p.callers[t]? = some ⟨r, .offering⟩) :
    (p.taken t r).callers[t]? = some ⟨r, .waiting⟩ :=
  setStage_at (setStage_at offering .admitted) .waiting

/-- A worker that has served the request of a caller leaves no other trace than the result. -/
theorem served_eq (resting : p.IsResting) (t : Nat) (r : DeliveryRequest) (e : Exchange)
    (x : Response) :
    ((p.taken t r).reply 0 ⟨t, r⟩ e).setStage t (.finished (.ok x)) =
      p.setStage t (.finished (.ok x)) := by
  have workers : p.workers.set 0 .idle = p.workers := by
    obtain ⟨bound, same⟩ := List.getElem?_eq_some_iff.mp resting.first
    rw [← same, List.set_getElem_self]
  simp only [taken, Pool.push, Pool.setWorker, Pool.take, Pool.reply, Pool.setStage, Pool.notify,
    List.set_set, workers, List.modify_modify_eq, resting.empty]
  rfl

theorem takes (resting : p.IsResting) (offering : p.callers[t]? = some ⟨r, .offering⟩) :
    (∃ acts, RunsAmong receivers p acts (p.taken t r)) ∧
      (p.taken t r).workers[0]? = some (.busy ⟨t, r⟩) := by
  have room : p.channel.length + p.reserved < p.capacity := by
    rw [resting.empty, resting.reserved]
    exact resting.room
  have queue : p.channel ++ [⟨t, r⟩] = [⟨t, r⟩] := by rw [resting.empty, List.nil_append]
  have admitted := setStage_at offering .admitted
  have holding := setWorker_at (p := (p.setStage t .admitted).push t r) resting.first .holding
  have receiving := setWorker_at holding .receiving
  have run := (@RunsAmong.start receivers p).quietly (.reserve offering room resting.isOpen) rfl
  have run := run.quietly (.push admitted (.inl resting.isOpen)) rfl
  have run := run.quietly (.lock resting.first resting.free) rfl
  have run := run.quietly (.look holding resting.running) rfl
  have run := run.quietly (@Step.take _ 0 ⟨t, r⟩ [] receiving queue) rfl
  exact ⟨⟨_, run⟩, setWorker_at receiving (.busy ⟨t, r⟩)⟩

theorem serves (resting : p.IsResting) (offering : p.callers[t]? = some ⟨r, .offering⟩)
    (back : Job.CameBack receivers p.client ⟨t, r⟩ e) :
    ∃ acts, RunsAmong receivers p acts (p.setStage t (.finished (.ok (.ofExchange r e)))) := by
  obtain ⟨⟨_, run⟩, busy⟩ := resting.takes offering
  rw [← run.client] at back
  have answered := @reply_at _ r _ e 0 ⟨t, r⟩ (taken_at offering) (deliver_of_cameBack back)
  have run := run.next (.reply busy e) (Act.isAnswer_reply busy back)
  have run := run.quietly (.receive answered) rfl
  rw [resting.served_eq] at run
  exact ⟨_, run⟩

end IsResting

/-! ### Serving a batch -/

/-- A batch has come so far: the dispatches that have begun have given these responses. -/
structure HasReached (p : Pool) (batch : Nat) (b : Batch) (responses : List Response) : Prop where
  current : p.batches[batch]? = some b
  running : b.result = none
  succeeded : p.responses? b.tickets = some responses

theorem IsResting.serves_next (resting : p.IsResting) (reached : p.HasReached batch b responses)
    (next : b.requests[b.tickets.length]? = some r)
    (back : Job.CameBack receivers p.client ⟨p.callers.length, r⟩ e) :
    ∃ acts q, RunsAmong receivers p acts q ∧ q.IsResting ∧ q.client = p.client ∧
      q.HasReached batch { b with tickets := b.tickets ++ [p.callers.length] }
        (responses ++ [.ofExchange r e]) := by
  have begun :=
    (@RunsAmong.start receivers p).quietly (.enlist reached.current reached.running next) rfl
  have offering : (p.enlist batch b r).callers[p.callers.length]? = some ⟨r, .offering⟩ := by
    show (p.call r).callers[p.callers.length]? = _
    rw [callers_call_last, resting.running, if_neg Bool.false_ne_true]
  obtain ⟨acts, served⟩ := (resting.enlist batch b r).serves offering back
  have run := begun.trans served
  have rests := (resting.enlist batch b r).finish p.callers.length (.ok (.ofExchange r e))
  refine ⟨_, _, run, rests, rfl, ?_, reached.running, ?_⟩
  · exact List.getElem?_set_self (List.getElem?_eq_some_iff.mp reached.current).1
  · exact responses?_concat (run.runs.keeps_responses reached.succeeded) (setStage_at offering _)

end Pool

/-- The receivers of a network: what it may send back for a post, in whatever state it is. -/
def networkReceivers (timeout : Duration) : Receivers :=
  fun _ post e => ∃ n, e = ((Network.send timeout post).run n).1

/-- What the network makes of a request is the response to what comes back for it. -/
theorem deliver_cameBack (c : Client) (t : Nat) (r : DeliveryRequest) (n : Network) :
    ∃ e, Job.CameBack (networkReceivers c.settings.timeout) c ⟨t, r⟩ e ∧
      ((deliver c r).run n).1 = .ofExchange r e := by
  unfold deliver Client.deliver Job.CameBack
  cases r.post? c.settings with
  | some post => exact ⟨_, ⟨n, rfl⟩, rfl⟩
  | none => exact ⟨_, rfl, rfl⟩

namespace Pool

theorem IsResting.serves_rest (resting : p.IsResting) (reached : p.HasReached batch b responses)
    (begun : List DeliveryRequest) {rest : List DeliveryRequest}
    (requests : b.requests = begun ++ rest) (length : b.tickets.length = begun.length)
    (n : Network) :
    ∃ acts q tickets, RunsAmong (networkReceivers p.client.settings.timeout) p acts q ∧
      q.IsResting ∧ q.client = p.client ∧ tickets.length = b.requests.length ∧
      q.HasReached batch { b with tickets := tickets }
        (responses ++ ((rest.mapM (Workers.deliver p.client)).run n).1) := by
  induction rest generalizing p b begun responses n with
  | nil =>
    rw [List.append_nil] at requests
    refine ⟨_, p, b.tickets, .start, resting, rfl, by rw [length, requests], ?_⟩
    show p.HasReached batch b (responses ++ [])
    rw [List.append_nil]
    exact reached
  | cons r rest ih =>
    have next : b.requests[b.tickets.length]? = some r := by
      rw [requests, length, List.getElem?_append_right (Nat.le_refl _), Nat.sub_self]
      rfl
    obtain ⟨e, back, delivered⟩ := deliver_cameBack p.client p.callers.length r n
    obtain ⟨_, q, served, resting, client, reached⟩ := resting.serves_next reached next back
    obtain ⟨_, z, tickets, run, resting, client', begun, reached⟩ :=
      ih resting reached (begun ++ [r]) (by simpa using requests) (by simp [length])
        ((Workers.deliver p.client r).run n).2
    rw [client] at run reached
    refine ⟨_, z, tickets, served.trans run, resting, client'.trans client, begun, ?_⟩
    rw [← delivered, List.append_assoc] at reached
    rwa [List.mapM_cons]

end Pool

/-! ### The pool and its timetable -/

namespace Timetable

theorem bookAll_closedAt (t : Timetable) (responses : List Response) :
    (t.bookAll responses).2.closedAt = t.closedAt := by
  induction responses generalizing t with
  | nil => rfl
  | cons r rest ih => exact ih (t.book r.duration.nanos).2.2

theorem dispatchAll_closedAt (t : Timetable) (responses : List Response) :
    (t.dispatchAll responses).2.closedAt = t.closedAt := by
  unfold dispatchAll
  split
  · rfl
  · split
    · rfl
    · exact t.bookAll_closedAt responses

theorem dispatchAll_of_open {t : Timetable} (isOpen : t.isClosed = false)
    (responses : List Response) : (t.dispatchAll responses).1 = .ok responses := by
  unfold dispatchAll
  rw [isOpen]
  split
  · next none => rw [List.isEmpty_iff.mp none]
  · rfl

theorem shutdown_isClosed (t : Timetable) (timeout : Duration) :
    (t.shutdown timeout).2.isClosed = true := by
  unfold shutdown
  dsimp only
  split <;> rfl

end Timetable

section Dispatch

variable (c : Client) (requests : List DeliveryRequest) {t : Timetable} (n : Network)

theorem dispatch_isClosed :
    ((dispatch c requests).runOn (t, n)).2.1.isClosed = t.isClosed := by
  unfold dispatch
  rw [Action.runOn_make]
  dsimp only
  split
  · rfl
  · exact congrArg Option.isSome (t.dispatchAll_closedAt _)

theorem dispatch_of_open (isOpen : t.isClosed = false) :
    ((dispatch c requests).runOn (t, n)).1 = .ok ((requests.mapM (deliver c)).run n).1 := by
  unfold dispatch
  simp only [Action.runOn_make, isOpen, Bool.false_and, Bool.false_eq_true, if_false]
  exact Timetable.dispatchAll_of_open isOpen _

theorem dispatch_of_closed (isClosed : t.isClosed = true) (present : requests ≠ []) :
    ((dispatch c requests).runOn (t, n)).1 = .error .poolClosed := by
  unfold dispatch
  simp [isClosed, present]

theorem dispatch_nil : ((dispatch c []).runOn (t, n)).1 = .ok [] := by
  unfold dispatch
  simp [Timetable.dispatchAll]
  rfl

end Dispatch

/-- The pool has come as far as the timetable: it rests, or it was shut down. -/
structure Pool.Mirrors (p : Pool) (t : Timetable) : Prop where
  cancelled : p.isCancelled = t.isClosed
  resting : t.isClosed = false → p.IsResting

theorem Pool.Mirrors.start (size : Nat) (c : Client) (closing : ClosedChannel) :
    (Pool.start size c closing).Mirrors (.start size) := ⟨rfl, fun _ => .start size c closing⟩

theorem Pool.Mirrors.shutdown (p : Pool) (t : Timetable) (timeout : Duration) :
    ∃ q, Step p .cancel q ∧ q.Mirrors (t.shutdown timeout).2 := by
  refine ⟨_, .cancel p, ?_, fun isOpen => ?_⟩
  · exact (t.shutdown_isClosed timeout).symm
  · rw [t.shutdown_isClosed timeout] at isOpen
    cases isOpen

namespace Pool

def callAll (p : Pool) (requests : List DeliveryRequest) : Pool :=
  { p with batches := p.batches ++ [⟨requests, [], none⟩] }

theorem callAll_current (p : Pool) (requests : List DeliveryRequest) :
    (p.callAll requests).batches[p.batches.length]? = some ⟨requests, [], none⟩ :=
  List.getElem?_concat_length

theorem setBatch_at (current : p.batches[batch]? = some b) (b' : Batch) :
    (p.setBatch batch b').batches[batch]? = some b' :=
  List.getElem?_set_self (List.getElem?_eq_some_iff.mp current).1

theorem IsResting.serves_all (resting : p.IsResting) (requests : List DeliveryRequest)
    (n : Network) :
    ∃ acts q tickets, RunsAmong (networkReceivers p.client.settings.timeout) p acts q ∧
      q.IsResting ∧ q.client = p.client ∧ q.batches[p.batches.length]? = some ⟨requests, tickets,
        some (.ok ((requests.mapM (Workers.deliver p.client)).run n).1)⟩ := by
  have current := p.callAll_current requests
  have called := (@RunsAmong.start (networkReceivers p.client.settings.timeout) p).quietly
    (.callAll p requests) rfl
  have waiting : (p.callAll requests).IsResting := { resting with }
  obtain ⟨_, q, tickets, run, rests, client, begun, reached⟩ :=
    waiting.serves_rest ⟨current, rfl, rfl⟩ [] rfl rfl n
  have run := (called.trans run).quietly
    (.complete reached.current reached.running begun reached.succeeded) rfl
  exact ⟨_, _, tickets, run, { rests with }, client, setBatch_at reached.current _⟩

theorem refuses_all (cancelled : p.isCancelled = true) {requests : List DeliveryRequest}
    (present : requests ≠ []) :
    ∃ acts q tickets, RunsAmong receivers p acts q ∧ q.isCancelled = true ∧ q.client = p.client ∧
      q.batches[p.batches.length]? =
        some ⟨requests, tickets, some (.error .poolClosed)⟩ := by
  obtain ⟨r, rest, rfl⟩ := List.exists_cons_of_ne_nil present
  have current := p.callAll_current (r :: rest)
  have refused := (p.callAll (r :: rest)).callers_call_last r
  have closed : (p.callAll (r :: rest)).isCancelled = true := cancelled
  rw [closed, if_pos rfl] at refused
  have enlisted := setBatch_at (p := (p.callAll (r :: rest)).call r) current
    ⟨r :: rest, [p.callers.length], none⟩
  have run := (@RunsAmong.start receivers p).quietly (.callAll p (r :: rest)) rfl
  have run := run.quietly (.enlist current rfl rfl) rfl
  have run := run.quietly (.fail enlisted rfl (List.mem_singleton_self _) refused) rfl
  exact ⟨_, _, _, run, cancelled, rfl, setBatch_at enlisted _⟩

theorem completes_none (p : Pool) :
    ∃ acts q, RunsAmong receivers p acts q ∧ q.isCancelled = p.isCancelled ∧ q.client = p.client ∧
      q.batches[p.batches.length]? = some ⟨[], [], some (.ok [])⟩ := by
  have current := p.callAll_current []
  have run := (@RunsAmong.start receivers p).quietly (.callAll p []) rfl
  have run := run.quietly (@Step.complete _ _ _ [] current rfl rfl rfl) rfl
  exact ⟨_, _, run, rfl, rfl, setBatch_at current _⟩

end Pool

/-- The pool has a run in which a dispatch comes to the result that it has in time. -/
theorem Pool.Mirrors.dispatch {t : Timetable} (mirrors : p.Mirrors t)
    (requests : List DeliveryRequest) (n : Network) :
    ∃ acts q tickets, RunsAmong (networkReceivers p.client.settings.timeout) p acts q ∧
      q.Mirrors ((Workers.dispatch p.client requests).runOn (t, n)).2.1 ∧ q.client = p.client ∧
      q.batches[p.batches.length]? =
        some ⟨requests, tickets, some ((Workers.dispatch p.client requests).runOn (t, n)).1⟩ := by
  have after := dispatch_isClosed p.client requests n (t := t)
  cases state : t.isClosed with
  | false =>
    obtain ⟨acts, q, tickets, run, resting, client, result⟩ :=
      (mirrors.resting state).serves_all requests n
    rw [dispatch_of_open p.client requests n state]
    refine ⟨acts, q, tickets, run, ⟨?_, fun _ => resting⟩, client, result⟩
    rw [after, state]
    exact resting.running
  | true =>
    have cancelled : p.isCancelled = true := mirrors.cancelled.trans state
    have closed : ∀ {z : Pool}, z.isCancelled = true →
        z.Mirrors ((Workers.dispatch p.client requests).runOn (t, n)).2.1 := by
      intro z ended
      rw [state] at after
      refine ⟨ended.trans after.symm, fun isOpen => ?_⟩
      rw [after] at isOpen
      cases isOpen
    by_cases none : requests = []
    · subst none
      obtain ⟨acts, q, run, same, client, result⟩ := p.completes_none
      rw [dispatch_nil]
      exact ⟨acts, q, [], run, closed (same.trans cancelled), client, result⟩
    · obtain ⟨acts, q, tickets, run, ended, client, result⟩ := refuses_all cancelled none
      rw [dispatch_of_closed p.client requests n state none]
      exact ⟨acts, q, tickets, run, closed ended, client, result⟩

theorem Pool.Mirrors.of_timetable (receivers : Receivers) (c : Client) (closing : ClosedChannel)
    (t : Timetable) :
    ∃ acts p, RunsAmong receivers (.start 1 c closing) acts p ∧ p.client = c ∧ p.Mirrors t := by
  cases state : t.isClosed with
  | false => exact ⟨_, _, .start, rfl, state.symm, fun _ => .start 1 c closing⟩
  | true =>
    refine ⟨_, _, RunsAmong.start.quietly (.cancel _) rfl, rfl, state.symm, fun isOpen => ?_⟩
    rw [state] at isOpen
    cases isOpen

/-- A dispatch in time comes to the responses of a batch of the pool. -/
theorem dispatch_areBatch {c : Client} {requests : List DeliveryRequest}
    {responses : List Response} {s s' : Timetable × Network}
    (succeeded : (dispatch c requests).runOn s = (.ok responses, s')) :
    AreBatch (networkReceivers c.settings.timeout) c requests responses := by
  obtain ⟨t, n⟩ := s
  obtain ⟨_, p, before, rfl, mirrors⟩ :=
    Pool.Mirrors.of_timetable (networkReceivers c.settings.timeout) c emptied t
  obtain ⟨_, q, tickets, run, -, -, result⟩ := mirrors.dispatch requests n
  rw [succeeded] at result
  exact ⟨1, emptied, _, q, tickets, before.trans run, List.mem_of_getElem? result⟩

/-- A dispatch in time gives the response to each request in the place of the request. -/
theorem dispatch_pairs {c : Client} {requests : List DeliveryRequest} {responses : List Response}
    {s s' : Timetable × Network} (succeeded : (dispatch c requests).runOn s = (.ok responses, s')) :
    responses.length = requests.length ∧
      ∀ (i : Nat) (r : DeliveryRequest), requests[i]? = some r →
        ∃ x, responses[i]? = some x ∧ x.eventId = r.eventId ∧ x.url = r.url := by
  obtain ⟨length, tickets, -, each⟩ := (dispatch_areBatch succeeded).spec
  refine ⟨length, fun i r request => ?_⟩
  obtain ⟨t, e, -, -, response⟩ := each i r request
  exact ⟨.ofExchange r e, response, rfl, rfl⟩

end Courier.Workers

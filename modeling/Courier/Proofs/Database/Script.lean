import Courier.Database.SendStore

/-!
# Scripted sessions

Every statement that is sent on a working connection takes the next reply of the script, and what
it gives can be read off that reply. `Session.Stands` says where a session is after some statements
of a transaction, and `Query.Sends` what a query sends there and what comes of it.
-/

namespace Courier

namespace Action

variable {ε σ α β : Type} {a : Action ε σ α} {f : α → Action ε σ β} {s t : σ} {e : ε}

theorem runOn_bind_of_error (h : a.runOn s = (.error e, t)) :
    (a >>= f).runOn s = (.error e, t) := by
  rw [runOn_bind, h]

theorem runOn_mapError_of_ok {δ : Type} {g : ε → δ} {v : α} (h : a.runOn s = (.ok v, t)) :
    (a.mapError g).runOn s = (.ok v, t) := by
  rw [runOn_mapError, h]
  rfl

theorem runOn_mapError_of_error {δ : Type} {g : ε → δ} (h : a.runOn s = (.error e, t)) :
    (a.mapError g).runOn s = (.error (g e), t) := by
  rw [runOn_mapError, h]
  rfl

end Action

/-! ### What a reply shows -/

namespace Reply

variable {α : Type} {decode : Row → Except StorageError α} {missing : StorageError} {a : α}
  {r : Reply}

def found : Reply → List Row
  | rows found => found
  | _ => []

def rows? : Reply → Except StorageError (List Row)
  | rows found => .ok found
  | affected _ => .ok []
  | refused code message => .error (.refused code message)
  | broken => .error .connectionLost

def breaks : Reply → Bool
  | broken => true
  | _ => false

def Answers (r : Reply) : Prop := ∃ found, r.rows? = .ok found

def all (decode : Row → Except StorageError α) (r : Reply) : Except StorageError (List α) :=
  r.rows?.bind fun found => found.mapM decode

def first (missing : StorageError) (decode : Row → Except StorageError α) (r : Reply) :
    Except StorageError α :=
  r.rows?.bind fun
    | row :: _ => decode row
    | [] => .error missing

def count : Reply → Except StorageError Nat
  | rows found => .ok found.length
  | affected n => .ok n
  | refused code message => .error (.refused code message)
  | broken => .error .connectionLost

def Shows (decode : Row → Except StorageError α) (r : Reply) (a : α) : Prop :=
  ∃ row others, r = .rows (row :: others) ∧ decode row = .ok a

theorem first_ok (missing : StorageError) :
    r.first missing decode = .ok a ↔ r.Shows decode a := by
  unfold first Shows
  cases r with
  | rows found =>
    cases found with
    | nil => exact ⟨nofun, fun ⟨_, _, same, _⟩ => by cases same⟩
    | cons row others =>
      refine ⟨fun decoded => ⟨row, others, rfl, decoded⟩, ?_⟩
      rintro ⟨_, _, same, decoded⟩
      cases same
      exact decoded
  | _ => exact ⟨nofun, fun ⟨_, _, same, _⟩ => by cases same⟩

theorem breaks_of_answers (answers : r.Answers) : r.breaks = false := by
  obtain ⟨found, fine⟩ := answers
  cases r with
  | broken => cases fine
  | _ => rfl

theorem answers_of_first (fine : r.first missing decode = .ok a) : r.Answers := by
  obtain ⟨row, others, rfl, _⟩ := (first_ok _).mp fine
  exact ⟨_, rfl⟩

theorem answers_of_all {items : List α} (fine : r.all decode = .ok items) : r.Answers := by
  unfold all at fine
  cases found : r.rows? with
  | error e => rw [found] at fine; cases fine
  | ok rows => exact ⟨rows, found⟩

theorem answers_of_count {n : Nat} (fine : r.count = .ok n) : r.Answers := by
  cases r with
  | rows found => exact ⟨_, rfl⟩
  | affected n => exact ⟨_, rfl⟩
  | _ => cases fine

end Reply

/-! ### Rows that are decoded one by one -/

namespace Query

variable {α : Type} {decode : Row → Except StorageError α}

theorem of_mapM_cons {row : Row} {rows : List Row} {items : List α}
    (decoded : (row :: rows).mapM decode = .ok items) :
    ∃ item more, decode row = .ok item ∧ rows.mapM decode = .ok more ∧ items = item :: more := by
  rw [List.mapM_cons] at decoded
  cases first : decode row with
  | error e => rw [first] at decoded; cases decoded
  | ok item =>
    cases others : rows.mapM decode with
    | error e => rw [first, others] at decoded; cases decoded
    | ok more =>
      rw [first, others] at decoded
      cases decoded
      exact ⟨item, more, rfl, rfl, rfl⟩

theorem length_of_mapM {rows : List Row} {items : List α} (decoded : rows.mapM decode = .ok items) :
    items.length = rows.length := by
  induction rows generalizing items with
  | nil => cases decoded; rfl
  | cons row rest ih =>
    obtain ⟨item, more, -, others, rfl⟩ := of_mapM_cons decoded
    rw [List.length_cons, List.length_cons, ih others]

end Query

theorem Reply.length_of_all {α : Type} {decode : Row → Except StorageError α} {r : Reply}
    {items : List α} (decoded : r.all decode = .ok items) : items.length = r.found.length := by
  cases r with
  | rows found => exact Query.length_of_mapM decoded
  | affected n => cases decoded; rfl
  | refused | broken => cases decoded

def Sent.isStatement : Sent → Bool
  | .statement _ _ => true
  | .control _ => false

/-- The rollback after a transaction statement that failed, as far as it can be sent. -/
def Fault.rollback (f : Fault) : List Sent := if f.breaks then [] else [.control .rollback]

@[grind →] theorem Fault.eq_of_mem_rollback {f : Fault} {x : Sent} (member : x ∈ f.rollback) :
    x = .control .rollback := by
  unfold rollback at member
  split at member
  · cases member
  · exact List.mem_singleton.mp member

/-! ### One statement -/

namespace Session

variable {s : Session} {x : Sent}

def nextReply (s : Session) : Reply := s.replies.headD (.rows [])

/-- The reply to statement number `n`, where the transaction statements do not count. -/
def reply (s : Session) (n : Nat) : Reply := s.replies.getD n (.rows [])

/-- The session after a statement that took the next reply. -/
def asked (s : Session) (x : Sent) : Session :=
  { s.record x with replies := s.replies.tail, isBroken := s.nextReply.breaks }

theorem answer_of_alive {sql : String} {params : List Value} (alive : s.isBroken = false) :
    s.answer sql params =
      (s.nextReply.rows?.map fun _ => s.nextReply, s.asked (.statement sql params)) := by
  obtain ⟨reachable, broken, replies, faults, sent⟩ := s
  cases alive
  cases replies with
  | nil => rfl
  | cons first rest => cases first <;> rfl

theorem abandon_sent :
    s.abandon.sent = s.sent ++ if s.isBroken then [] else [.control .rollback] := by
  unfold abandon
  split
  · exact (List.append_nil _).symm
  · rfl

theorem nextReply_of_replies {start : Session} {n : Nat}
    (same : s.replies = start.replies.drop n) : s.nextReply = start.reply n := by
  rw [nextReply, reply, same, List.headD_eq_head?_getD, List.head?_drop, List.getD_eq_getElem?_getD]

end Session

namespace Query

variable {α : Type} {s : Session} {sql : String} {params : List Value}
  {decode : Row → Except StorageError α} {missing : StorageError}

theorem ask_run (alive : s.isBroken = false) :
    (ask sql params).runOn s =
      (s.nextReply.rows?.map fun _ => s.nextReply, s.asked (.statement sql params)) := by
  rw [ask, Action.runOn_make, Session.answer_of_alive alive]

theorem all_alive (alive : s.isBroken = false) :
    (all sql params decode).runOn s =
      (s.nextReply.all decode, s.asked (.statement sql params)) := by
  unfold all
  rw [Action.runOn_bind, ask_run alive]
  cases s.nextReply <;> rfl

theorem first_run (alive : s.isBroken = false) :
    (first missing sql params decode).runOn s =
      (s.nextReply.first missing decode, s.asked (.statement sql params)) := by
  unfold first first?
  rw [Action.runOn_bind, Action.runOn_bind, ask_run alive]
  cases s.nextReply with
  | rows found =>
    cases found with
    | nil => rfl
    | cons row others =>
      show _ = (decode row, _)
      cases decoded : decode row <;> simp only [Reply.rows?, Except.map, decoded] <;> rfl
  | _ => rfl

theorem run_run (alive : s.isBroken = false) :
    (run sql params).runOn s = (s.nextReply.count, s.asked (.statement sql params)) := by
  unfold run
  rw [Action.runOn_bind, ask_run alive]
  cases s.nextReply <;> rfl

end Query

/-! ### Several statements -/

namespace Session

variable {start s : Session} {n : Nat} {sent : List Sent} {x : Sent} {α : Type}
  {sql : String} {params : List Value} {decode : Row → Except StorageError α}
  {missing : StorageError}

def Begins (s : Session) : Prop := s.isReachable = true ∧ s.fault? .begin = none

def Commits (s : Session) : Prop := s.fault? .commit = none

/-- The session stands after so many replies of the script, with just these statements sent since
the start and the connection whole. -/
structure Stands (start : Session) (n : Nat) (sent : List Sent) (s : Session) : Prop where
  alive : s.isBroken = false
  replies : s.replies = start.replies.drop n
  faults : s.faults = start.faults
  sent_eq : s.sent = start.sent ++ sent

theorem Stands.nextReply (stands : start.Stands n sent s) : s.nextReply = start.reply n :=
  nextReply_of_replies stands.replies

theorem Stands.asked (stands : start.Stands n sent s) (answers : (start.reply n).Answers)
    (x : Sent) : start.Stands (n + 1) (sent ++ [x]) (s.asked x) where
  alive := by
    rw [← stands.nextReply] at answers
    exact Reply.breaks_of_answers answers
  replies := by
    show s.replies.tail = _
    rw [stands.replies, List.tail_drop]
  faults := stands.faults
  sent_eq := by
    show s.sent ++ [x] = _
    rw [stands.sent_eq, List.append_assoc]

theorem Stands.asked_sent (stands : start.Stands n sent s) (x : Sent) :
    (s.asked x).sent = start.sent ++ (sent ++ [x]) := by
  show s.sent ++ [x] = _
  rw [stands.sent_eq, List.append_assoc]

theorem Stands.first (stands : start.Stands n sent s) :
    (Query.first missing sql params decode).runOn s =
      ((start.reply n).first missing decode, s.asked (.statement sql params)) := by
  rw [Query.first_run stands.alive, stands.nextReply]

theorem Stands.all (stands : start.Stands n sent s) :
    (Query.all sql params decode).runOn s =
      ((start.reply n).all decode, s.asked (.statement sql params)) := by
  rw [Query.all_alive stands.alive, stands.nextReply]

def begun (s : Session) : Session :=
  { s with isBroken := false, sent := s.sent ++ [.control .begin] }

theorem begun_stands (s : Session) : s.Stands 0 [.control .begin] s.begun := ⟨rfl, rfl, rfl, rfl⟩

theorem beginAnswer_of_begins (begins : s.Begins) : s.beginAnswer = (.ok (), s.begun) := by
  obtain ⟨reachable, accepted⟩ := begins
  unfold beginAnswer controlAnswer
  rw [if_pos reachable, if_neg (by simp)]
  rw [show fault? { s with isBroken := false } .begin = none from accepted]
  rfl

theorem beginAnswer_of_fault {f : Fault} (reachable : s.isReachable = true)
    (fault : s.fault? .begin = some f) : s.beginAnswer = (.error f.error, s.begun.faulted f) := by
  unfold beginAnswer controlAnswer
  rw [if_pos reachable, if_neg (by simp)]
  rw [show fault? { s with isBroken := false } .begin = some f from fault]
  rfl

theorem beginAnswer_of_unreachable (unreachable : s.isReachable = false) :
    s.beginAnswer = (.error .connectionLost, s) := by
  unfold beginAnswer
  rw [if_neg (by simp [unreachable])]

/-! ### The end of a transaction -/

theorem Stands.fault (stands : start.Stands n sent s) (c : Control) :
    s.fault? c = start.fault? c := by
  unfold fault?
  rw [stands.faults]

theorem Stands.control (stands : start.Stands n sent s) {c : Control}
    (accepted : start.fault? c = none) :
    s.controlAnswer c = (.ok (), s.record (.control c)) := by
  unfold controlAnswer
  rw [if_neg (by simp [stands.alive]), stands.fault, accepted]

theorem Stands.control_fault (stands : start.Stands n sent s) {c : Control} {f : Fault}
    (fault : start.fault? c = some f) :
    s.controlAnswer c = (.error f.error, (s.record (.control c)).faulted f) := by
  unfold controlAnswer
  rw [if_neg (by simp [stands.alive]), stands.fault, fault]

theorem Stands.commit (stands : start.Stands n sent s) (commits : start.Commits) :
    Query.commit.runOn s = (.ok (), s.record (.control .commit)) := by
  rw [Query.commit, Action.runOn_onFailure, Action.runOn_make, stands.control commits]

theorem Stands.commit_fault {f : Fault} (stands : start.Stands n sent s)
    (fault : start.fault? .commit = some f) :
    Query.commit.runOn s = (.error f.error, ((s.record (.control .commit)).faulted f).abandon) := by
  rw [Query.commit, Action.runOn_onFailure, Action.runOn_make, stands.control_fault fault]

theorem Stands.rollback (stands : start.Stands n sent s)
    (accepted : start.fault? .rollback = none) :
    Query.rollback.runOn s = (.ok (), s.record (.control .rollback)) := by
  rw [Query.rollback, Action.runOn_onFailure, Action.runOn_make, stands.control accepted]

theorem Stands.rollback_fault {f : Fault} (stands : start.Stands n sent s)
    (fault : start.fault? .rollback = some f) :
    Query.rollback.runOn s =
      (.error f.error, ((s.record (.control .rollback)).faulted f).abandon) := by
  rw [Query.rollback, Action.runOn_onFailure, Action.runOn_make, stands.control_fault fault]

theorem Stands.recorded_sent (stands : start.Stands n sent s) (c : Control) :
    (s.record (.control c)).sent = start.sent ++ (sent ++ [.control c]) := by
  show s.sent ++ [.control c] = _
  rw [stands.sent_eq, List.append_assoc]

theorem Stands.faulted_abandon_sent (stands : start.Stands n sent s) (c : Control) (f : Fault) :
    ((s.record (.control c)).faulted f).abandon.sent =
      start.sent ++ (sent ++ .control c :: f.rollback) := by
  have recorded : ((s.record (.control c)).faulted f).sent = start.sent ++ (sent ++ [.control c]) :=
    stands.recorded_sent c
  rw [abandon_sent, recorded]
  show _ ++ f.rollback = _
  simp

theorem exists_abandon_sent {t : Session} (sent_eq : t.sent = start.sent ++ sent) :
    ∃ final, (∀ x ∈ final, x = .control .rollback) ∧
      t.abandon.sent = start.sent ++ (sent ++ final) := by
  refine ⟨if t.isBroken then [] else [.control .rollback], fun x member => ?_, ?_⟩
  · split at member
    · cases member
    · exact List.mem_singleton.mp member
  · rw [abandon_sent, sent_eq, List.append_assoc]

end Session

namespace Query

variable {α : Type} {q : Query α} {s t : Session} {v : α} {e : StorageError}

theorem orAbandon_of_ok (run : q.runOn s = (.ok v, t)) : q.orAbandon.runOn s = (.ok v, t) := by
  rw [orAbandon, Action.runOn_onFailure, run]

theorem orAbandon_of_error (run : q.runOn s = (.error e, t)) :
    q.orAbandon.runOn s = (.error e, t.abandon) := by
  rw [orAbandon, Action.runOn_onFailure, run]

theorem beginTransaction_of_begins (begins : s.Begins) :
    beginTransaction.runOn s = (.ok (), s.begun) :=
  Session.beginAnswer_of_begins begins

end Query

/-! ### Queries in a transaction -/

namespace Session

/-- The reply to a statement that follows those that were sent. -/
def replyAfter (s : Session) (sent : List Sent) : Reply := s.reply (sent.countP Sent.isStatement)

/-- What a statement that begins or ends a transaction gives. -/
def controlReply (s : Session) (c : Control) : Except StorageError Unit :=
  match s.fault? c with
  | some f => .error f.error
  | none => .ok ()

theorem controlReply_ok_iff {s : Session} {c : Control} :
    s.controlReply c = .ok () ↔ s.fault? c = none := by
  unfold controlReply
  cases s.fault? c <;> simp

/-- The connection breaks at the statement that follows those that were sent, if there is one. -/
def breaksAt (s : Session) (sent : List Sent) : List Sent → Bool
  | [.statement _ _] => (s.replyAfter sent).breaks
  | [.control c] => (s.fault? c).any Fault.breaks
  | _ => false

/-- The session stands after just these statements, and has taken a reply for each of them. -/
abbrev StandsAfter (start : Session) (sent : List Sent) (s : Session) : Prop :=
  start.Stands (sent.countP Sent.isStatement) sent s

variable {start s : Session} {sent : List Sent}

theorem StandsAfter.asked (stands : start.StandsAfter sent s) {sql : String} {params : List Value}
    (answers : (start.replyAfter sent).Answers) :
    start.StandsAfter (sent ++ [.statement sql params]) (s.asked (.statement sql params)) := by
  unfold StandsAfter
  rw [List.countP_append]
  exact Stands.asked stands answers _

theorem StandsAfter.recorded (stands : start.StandsAfter sent s) (c : Control) :
    start.StandsAfter (sent ++ [.control c]) (s.record (.control c)) := by
  unfold StandsAfter
  rw [List.countP_append]
  exact ⟨stands.alive, stands.replies, stands.faults, stands.recorded_sent c⟩

end Session

namespace Query

variable {α β : Type} {q : Query α} {s : Session} {sent statements : List Sent}
  {r : Except StorageError α} {sql : String} {params : List Value}
  {decode : Row → Except StorageError α}

/-- After the statements `sent` of a transaction the query sends some more, and gives `r`. Unless
that is a failure, the session then stands after all of them. -/
def Sends (q : Query α) (s : Session) (sent statements : List Sent) (r : Except StorageError α) :
    Prop :=
  ∀ u, s.StandsAfter sent u →
    ∃ v, q.runOn u = (r, v) ∧ v.sent = s.sent ++ (sent ++ statements) ∧
      v.isBroken = s.breaksAt sent statements ∧
      ∀ a, r = .ok a → s.StandsAfter (sent ++ statements) v

theorem sends_nothing (a : α) : Sends (pure a) s sent [] (.ok a) := by
  intro u stands
  refine ⟨u, rfl, ?_, stands.alive, fun _ _ => ?_⟩
  · rw [List.append_nil]
    exact stands.sent_eq
  · rw [List.append_nil]
    exact stands

theorem sends_all :
    Sends (all sql params decode) s sent [.statement sql params]
      ((s.replyAfter sent).all decode) := by
  intro u stands
  refine ⟨_, stands.all, stands.asked_sent _, ?_, fun items decoded => ?_⟩
  · show u.nextReply.breaks = _
    rw [stands.nextReply]
    rfl
  · exact stands.asked (Reply.answers_of_all decoded)

theorem sends_run :
    Sends (run sql params) s sent [.statement sql params] (s.replyAfter sent).count := by
  intro u stands
  have next : u.nextReply = s.replyAfter sent := stands.nextReply
  refine ⟨u.asked (.statement sql params), ?_, stands.asked_sent _, ?_, fun n counted => ?_⟩
  · rw [run_run stands.alive, next]
  · show u.nextReply.breaks = _
    rw [next]
    rfl
  · exact stands.asked (Reply.answers_of_count counted)

theorem Sends.onWrite (sends : q.Sends s sent statements r) :
    q.onWrite.Sends s sent statements (r.mapError .ofWrite) := by
  intro u stands
  obtain ⟨v, run, sent_eq, broken, fine⟩ := sends u stands
  refine ⟨v, ?_, sent_eq, broken, fun a succeeded => ?_⟩
  · rw [Query.onWrite, Action.runOn_mapError, run]
  · cases r with
    | error e => cases succeeded
    | ok b => exact fine b rfl

theorem Sends.map (sends : q.Sends s sent statements r) (f : α → β) :
    Sends (q >>= fun a => pure (f a)) s sent statements (r.map f) := by
  intro u stands
  obtain ⟨v, run, sent_eq, broken, fine⟩ := sends u stands
  refine ⟨v, ?_, sent_eq, broken, fun b succeeded => ?_⟩
  · rw [Action.runOn_bind, run]
    cases r <;> rfl
  · cases r with
    | error e => cases succeeded
    | ok a => exact fine a rfl

end Query

end Courier

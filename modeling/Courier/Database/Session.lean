import Courier.Action
import Courier.Database.Value
import Courier.Text.Blank

/-!
# Database sessions

A session with a database whose replies are given: every statement takes the next reply, and what is
sent is kept in order. The statements that begin and end a transaction take no reply, but they may
fail. A transaction that is not committed is rolled back, unless the connection broke.
-/

namespace Courier

inductive Reply where
  | rows (rows : List Row)
  /-- So many rows were changed. -/
  | affected (n : Nat)
  | refused (code message : String)
  | broken

inductive Control where
  | begin | commit | rollback
  deriving DecidableEq

def Control.text : Control → String
  | begin => "BEGIN"
  | commit => "COMMIT"
  | rollback => "ROLLBACK"

inductive Sent where
  | control (c : Control)
  | statement (sql : String) (params : List Value)

/-- The text of a statement with its blanks collapsed. -/
def Sent.text : Sent → String
  | control c => c.text
  | statement sql _ => String.ofList (Text.collapseBlanks sql.toList)

/-- How a transaction statement fails. -/
inductive Fault where
  | refused (code message : String)
  /-- The statement was sent, and the connection broke. -/
  | lost
  deriving DecidableEq

namespace Fault

def error : Fault → StorageError
  | refused code message => .refused code message
  | lost => .connectionLost

def breaks : Fault → Bool
  | refused .. => false
  | lost => true

end Fault

structure Session where
  isReachable : Bool
  isBroken : Bool
  /-- The replies to come; when they are used up no rows are found and none are changed. -/
  replies : List Reply
  /-- The transaction statements that fail. -/
  faults : List (Control × Fault)
  /-- What was sent, first statement first. -/
  sent : List Sent

abbrev Query : Type → Type := Action StorageError Session

namespace Session

def scripted (replies : List Reply) (faults : List (Control × Fault)) : Session :=
  ⟨true, false, replies, faults, []⟩

def unreachable (replies : List Reply) : Session := ⟨false, true, replies, [], []⟩

def fault? (s : Session) (c : Control) : Option Fault := (s.faults.find? (·.1 = c)).map (·.2)

def record (s : Session) (x : Sent) : Session := { s with sent := s.sent ++ [x] }

def answer (sql : String) (params : List Value) (s : Session) :
    Except StorageError Reply × Session :=
  if s.isBroken then (.error .connectionLost, s)
  else
    match s.replies with
    | [] => (.ok (.rows []), s.record (.statement sql params))
    | reply :: rest =>
      let s := { s.record (.statement sql params) with replies := rest }
      match reply with
      | .refused code message => (.error (.refused code message), s)
      | .broken => (.error .connectionLost, { s with isBroken := true })
      | reply => (.ok reply, s)

def faulted (s : Session) (f : Fault) : Session := { s with isBroken := f.breaks }

def controlAnswer (c : Control) (s : Session) : Except StorageError Unit × Session :=
  if s.isBroken then (.error .connectionLost, s)
  else
    match s.fault? c with
    | some f => (.error f.error, (s.record (.control c)).faulted f)
    | none => (.ok (), s.record (.control c))

def abandon (s : Session) : Session :=
  if s.isBroken then s else s.record (.control .rollback)

/-- Begins a transaction on a connection that works. -/
def beginAnswer (s : Session) : Except StorageError Unit × Session :=
  if s.isReachable then controlAnswer .begin { s with isBroken := false }
  else (.error .connectionLost, s)

end Session

namespace Query

variable {α : Type}

def ask (sql : String) (params : List Value) : Query Reply :=
  Action.make (Session.answer sql params)

def all (sql : String) (params : List Value) (decode : Row → Except StorageError α) :
    Query (List α) := do
  match ← ask sql params with
  | .rows rows => ExceptT.mk (pure (rows.mapM decode))
  | _ => return []

def first? (sql : String) (params : List Value) (decode : Row → Except StorageError α) :
    Query (Option α) := do
  match ← ask sql params with
  | .rows (row :: _) => some <$> ExceptT.mk (pure (decode row))
  | _ => return none

/-- The first row that a statement finds; the given error if there is none. -/
def first (missing : StorageError) (sql : String) (params : List Value)
    (decode : Row → Except StorageError α) : Query α := do
  match ← first? sql params decode with
  | some a => return a
  | none => throw missing

def run (sql : String) (params : List Value) : Query Nat := do
  match ← ask sql params with
  | .affected n => return n
  | .rows rows => return rows.length
  | _ => return 0

/-- The work as part of a write, where a failure of the database is one of validation. -/
def onWrite (q : Query α) : Query α := q.mapError StorageError.ofWrite

def beginTransaction : Query Unit := Action.make Session.beginAnswer

/-- Commits the transaction; if that fails it is rolled back. -/
def commit : Query Unit := (Action.make (Session.controlAnswer .commit)).onFailure Session.abandon

/-- Rolls the transaction back; if that fails it is tried once more. -/
def rollback : Query Unit :=
  (Action.make (Session.controlAnswer .rollback)).onFailure Session.abandon

/-- Work inside a transaction, which is given up if the work fails. -/
def orAbandon (q : Query α) : Query α := q.onFailure Session.abandon

end Query

end Courier

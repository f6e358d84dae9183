import Courier.Delivery.Response

/-!
# The timetable of a pool

What a pool does in time when no worker breaks down: jobs begin in the order in which they come,
each as soon as a worker is free. A shutdown lets the workers finish the jobs that have begun and
gives up the others. Times are in nanoseconds since the pool was started.
-/

namespace Courier.Workers

structure Booking where
  begins : Nat
  ends : Nat
  /-- What the job gives; nothing if the pool took no more jobs. -/
  response : Option Response

structure Timetable where
  now : Nat
  /-- When each worker will be free. -/
  freeAt : List Nat
  /-- The jobs that nobody has waited for yet, first one first. -/
  background : List Booking
  /-- When the pool was shut down. -/
  closedAt : Option Nat

namespace Timetable

def start (size : Nat) : Timetable := ⟨0, List.replicate (max size 1) 0, [], none⟩

def isClosed (t : Timetable) : Bool := t.closedAt.isSome

/-- The number of workers, unless the pool was shut down. -/
def size? (t : Timetable) : Option Nat := if t.isClosed then none else some t.freeAt.length

def earliest : List Nat → Nat
  | [] => 0
  | a :: rest => rest.foldl min a

def latest (times : List Nat) : Nat := times.foldl max 0

def book (t : Timetable) (took : Nat) : Nat × Nat × Timetable :=
  let free := earliest t.freeAt
  let begins := max t.now free
  let ends := begins + took
  (begins, ends, { t with freeAt := t.freeAt.erase free ++ [ends] })

def bookAll (t : Timetable) : List Response → List Nat × Timetable
  | [] => ([], t)
  | r :: rest =>
    let (_, ends, t) := t.book r.duration.nanos
    let (times, t) := bookAll t rest
    (ends :: times, t)

def dispatchAll (t : Timetable) (responses : List Response) :
    Except DeliveryError (List Response) × Timetable :=
  if responses.isEmpty then (.ok [], t)
  else if t.isClosed then (.error .poolClosed, t)
  else
    let (times, t) := t.bookAll responses
    (.ok responses, { t with now := max t.now (latest times) })

/-- Starts a job in the background; `pause` passes until the next thing happens. -/
def startJob (t : Timetable) (pause : Nat) (r : Response) : Timetable :=
  let (begins, ends, t) := t.book r.duration.nanos
  { t with background := t.background ++ [⟨begins, ends, some r⟩], now := t.now + pause }

def refuseJob (t : Timetable) (pause : Nat) : Timetable :=
  { t with background := t.background ++ [⟨t.now, t.now, none⟩], now := t.now + pause }

/-- The job is given up because the pool was shut down before it began. -/
def isLost (t : Timetable) (b : Booking) : Bool := t.closedAt.any (· < b.begins)

def join (t : Timetable) : Option (Except DeliveryError Response) × Timetable :=
  match t.background with
  | [] => (none, t)
  | b :: rest =>
    let t := { t with background := rest }
    match b.response with
    | none => (some (.error .poolClosed), t)
    | some r =>
      if t.isLost b then (some (.error .poolClosed), t)
      else (some (.ok r), { t with now := max t.now b.ends })

def doneAt (t : Timetable) : Nat :=
  latest ((t.background.filter fun b => b.begins ≤ t.now).map Booking.ends)

/-- Shuts the pool down and waits for the workers, up to `timeout`. -/
def shutdown (t : Timetable) (timeout : Duration) : Except DeliveryError Unit × Timetable :=
  let closed := { t with closedAt := some t.now }
  let done := max t.now t.doneAt
  if t.now + timeout.nanos < done then
    (.error (.shutdownTimeout timeout), { closed with now := t.now + timeout.nanos })
  else (.ok (), { closed with now := done })

def cancel (t : Timetable) : Timetable := { t with closedAt := some (t.closedAt.getD t.now) }

end Timetable

end Courier.Workers

import Courier.Delivery.Response

/-!
# The worker pool

Callers hand jobs to workers through a channel of limited capacity, and each waits for the reply to
its own job. A caller reserves room in the channel first and then pushes its job, and other things
may happen in between. The receiving end of the channel is behind a lock: the worker that holds it
looks for a cancellation, takes the first job and lets go. `Step` says what may happen next, in any
order: a pool may be cancelled at any time, a worker may break down with a job in its hands, and a
caller may go away before it has a result.
-/

namespace Courier.Workers

structure Job where
  ticket : Nat
  request : DeliveryRequest
  deriving DecidableEq

inductive Worker where
  /-- Waits for the lock. -/
  | idle
  /-- Has the lock, and looks for a cancellation next. -/
  | holding
  /-- Has the lock, saw no cancellation, and takes a job next. -/
  | receiving
  | busy (job : Job)
  | stopped
  | broken
  deriving DecidableEq

def Worker.isAlive : Worker → Bool
  | idle | holding | receiving | busy _ => true
  | stopped | broken => false

def Worker.hasLock : Worker → Bool
  | holding | receiving => true
  | idle | busy _ | stopped | broken => false

/-- Which jobs stay in a channel whose receiving end is gone. A job that does not is dropped, and
then its caller learns that there will be no reply. -/
structure ClosedChannel where
  /-- Of the jobs that were in the channel before. -/
  keepsUnread : Job → Bool
  /-- Of the jobs that are pushed later, into room that was reserved before. -/
  keepsLate : Job → Bool

/-- How far a dispatch is. -/
inductive Stage where
  /-- Waits for room in the channel. -/
  | offering
  /-- Has room in the channel, and pushes its job next. -/
  | admitted
  /-- Waits for the reply. -/
  | waiting
  /-- The reply is there. -/
  | answered (response : Response)
  /-- There will be no reply. -/
  | abandoned
  | finished (result : Except DeliveryError Response)
  /-- The caller went away without a result. -/
  | gone

/-- Nothing more happens to the dispatch. -/
def Stage.isFinal : Stage → Bool
  | finished _ | gone => true
  | offering | admitted | waiting | answered _ | abandoned => false

/-- The job has not been pushed yet. -/
def Stage.isUnsent : Stage → Bool
  | offering | admitted => true
  | waiting | answered _ | abandoned | finished _ | gone => false

structure Caller where
  request : DeliveryRequest
  stage : Stage

namespace Caller

def notified (s : Stage) (c : Caller) : Caller :=
  match c.stage with
  | .waiting => { c with stage := s }
  | _ => c

def isAdmitted (c : Caller) : Bool :=
  match c.stage with
  | .admitted => true
  | _ => false

def response? (c : Caller) : Option Response :=
  match c.stage with
  | .finished (.ok r) => some r
  | _ => none

end Caller

/-- A dispatch of several requests: each is dispatched by itself, and the first one that fails ends
the whole. -/
structure Batch where
  requests : List DeliveryRequest
  /-- The tickets of the dispatches that have begun, in the order of the requests. -/
  tickets : List Nat
  result : Option (Except DeliveryError (List Response))

/-- A pool with the callers it has had, by their tickets. -/
structure Pool where
  client : Client
  closing : ClosedChannel
  capacity : Nat
  isCancelled : Bool
  /-- The jobs that no worker has taken, first one first. -/
  channel : List Job
  workers : List Worker
  callers : List Caller
  batches : List Batch

namespace Pool

def start (size : Nat) (client : Client) (closing : ClosedChannel) : Pool where
  client := client
  closing := closing
  capacity := max size 1
  isCancelled := false
  channel := []
  workers := List.replicate (max size 1) .idle
  callers := []
  batches := []

/-- The channel is open as long as a worker may receive from it. -/
def isOpen (p : Pool) : Bool := p.workers.any Worker.isAlive

/-- The room that is reserved and not used yet. -/
def reserved (p : Pool) : Nat := p.callers.countP Caller.isAdmitted

def setStage (p : Pool) (ticket : Nat) (s : Stage) : Pool :=
  { p with callers := p.callers.modify ticket fun c => { c with stage := s } }

def notify (p : Pool) (ticket : Nat) (s : Stage) : Pool :=
  { p with callers := p.callers.modify ticket (Caller.notified s) }

def setWorker (p : Pool) (worker : Nat) (w : Worker) : Pool :=
  { p with workers := p.workers.set worker w }

def setBatch (p : Pool) (batch : Nat) (b : Batch) : Pool :=
  { p with batches := p.batches.set batch b }

/-- A dispatch begins. After cancellation it ends at once. -/
def call (p : Pool) (r : DeliveryRequest) : Pool :=
  { p with callers := p.callers ++
      [⟨r, if p.isCancelled then .finished (.error .poolClosed) else .offering⟩] }

def push (p : Pool) (ticket : Nat) (r : DeliveryRequest) : Pool :=
  { p.setStage ticket .waiting with channel := p.channel ++ [⟨ticket, r⟩] }

def take (p : Pool) (worker : Nat) (job : Job) (rest : List Job) : Pool :=
  { p.setWorker worker (.busy job) with channel := rest }

/-- The response to a request that is posted and gets `e` in exchange. -/
def deliver (p : Pool) (r : DeliveryRequest) (e : Exchange) : Response :=
  Id.run (p.client.deliver (fun _ => pure e) r)

def reply (p : Pool) (worker : Nat) (job : Job) (e : Exchange) : Pool :=
  (p.setWorker worker .idle).notify job.ticket (.answered (p.deliver job.request e))

/-- When no worker is left the receiving end of the channel is gone. -/
def settle (p : Pool) : Pool :=
  if p.isOpen then p
  else
    { p with
      callers := p.callers.mapIdx fun t c =>
        if p.channel.any (fun job => job.ticket = t && !p.closing.keepsUnread job) then
          c.notified .abandoned
        else c
      channel := p.channel.filter p.closing.keepsUnread }

def breakDown (p : Pool) (worker : Nat) (job : Job) : Pool :=
  ((p.setWorker worker .broken).notify job.ticket .abandoned).settle

def stop (p : Pool) (worker : Nat) : Pool := (p.setWorker worker .stopped).settle

def missingReply (p : Pool) (r : DeliveryRequest) : DeliveryError :=
  if p.isCancelled then .poolClosed
  else .workerFailed ("no reply for event " ++ r.eventId.text)

def enlist (p : Pool) (batch : Nat) (b : Batch) (r : DeliveryRequest) : Pool :=
  (p.call r).setBatch batch { b with tickets := b.tickets ++ [p.callers.length] }

/-- The responses of several dispatches, once every one of them has succeeded. -/
def responses? (p : Pool) (tickets : List Nat) : Option (List Response) :=
  tickets.mapM fun t => p.callers[t]?.bind Caller.response?

end Pool

/-- What may happen to a pool, with the numbers of the worker and the ticket that it concerns. -/
inductive Act where
  | call (request : DeliveryRequest)
  | reserve (ticket : Nat)
  | push (ticket : Nat)
  | refuse (ticket : Nat)
  | lock (worker : Nat)
  | look (worker : Nat)
  | yield (worker : Nat)
  | take (worker ticket : Nat)
  | reply (worker ticket : Nat) (response : Response)
  | breakDown (worker ticket : Nat)
  | stop (worker : Nat)
  | receive (ticket : Nat)
  | giveUp (ticket : Nat)
  | leave (ticket : Nat)
  | cancel
  | callAll (requests : List DeliveryRequest)
  | enlist (batch : Nat)
  | complete (batch : Nat)
  | fail (batch : Nat)

inductive Step : Pool → Act → Pool → Prop where
  | call (p : Pool) (r : DeliveryRequest) : Step p (.call r) (p.call r)
  | reserve {p : Pool} {ticket : Nat} {r : DeliveryRequest}
      (offering : p.callers[ticket]? = some ⟨r, .offering⟩)
      (room : p.channel.length + p.reserved < p.capacity) (isOpen : p.isOpen = true) :
      Step p (.reserve ticket) (p.setStage ticket .admitted)
  | push {p : Pool} {ticket : Nat} {r : DeliveryRequest}
      (admitted : p.callers[ticket]? = some ⟨r, .admitted⟩)
      (stays : p.isOpen = true ∨ p.closing.keepsLate ⟨ticket, r⟩ = true) :
      Step p (.push ticket) (p.push ticket r)
  | discard {p : Pool} {ticket : Nat} {r : DeliveryRequest}
      (admitted : p.callers[ticket]? = some ⟨r, .admitted⟩) (isClosed : p.isOpen = false)
      (dropped : p.closing.keepsLate ⟨ticket, r⟩ = false) :
      Step p (.push ticket) (p.setStage ticket .abandoned)
  | refuse {p : Pool} {ticket : Nat} {c : Caller} (present : p.callers[ticket]? = some c)
      (unsent : c.stage.isUnsent = true) (isClosed : p.isOpen = false) :
      Step p (.refuse ticket) (p.setStage ticket (.finished (.error .poolClosed)))
  | lock {p : Pool} {worker : Nat} (idle : p.workers[worker]? = some .idle)
      (free : ∀ w ∈ p.workers, w.hasLock = false) :
      Step p (.lock worker) (p.setWorker worker .holding)
  | look {p : Pool} {worker : Nat} (holding : p.workers[worker]? = some .holding)
      (running : p.isCancelled = false) : Step p (.look worker) (p.setWorker worker .receiving)
  | yield {p : Pool} {worker : Nat} (receiving : p.workers[worker]? = some .receiving)
      (empty : p.channel = []) : Step p (.yield worker) (p.setWorker worker .holding)
  | take {p : Pool} {worker : Nat} {job : Job} {rest : List Job}
      (receiving : p.workers[worker]? = some .receiving) (first : p.channel = job :: rest) :
      Step p (.take worker job.ticket) (p.take worker job rest)
  | reply {p : Pool} {worker : Nat} {job : Job}
      (busy : p.workers[worker]? = some (.busy job)) (e : Exchange) :
      Step p (.reply worker job.ticket (p.deliver job.request e)) (p.reply worker job e)
  | breakDown {p : Pool} {worker : Nat} {job : Job}
      (busy : p.workers[worker]? = some (.busy job)) :
      Step p (.breakDown worker job.ticket) (p.breakDown worker job)
  | stop {p : Pool} {worker : Nat} (holding : p.workers[worker]? = some .holding)
      (cancelled : p.isCancelled = true) : Step p (.stop worker) (p.stop worker)
  | receive {p : Pool} {ticket : Nat} {r : DeliveryRequest} {x : Response}
      (answered : p.callers[ticket]? = some ⟨r, .answered x⟩) :
      Step p (.receive ticket) (p.setStage ticket (.finished (.ok x)))
  | giveUp {p : Pool} {ticket : Nat} {r : DeliveryRequest}
      (abandoned : p.callers[ticket]? = some ⟨r, .abandoned⟩) :
      Step p (.giveUp ticket) (p.setStage ticket (.finished (.error (p.missingReply r))))
  | leave {p : Pool} {ticket : Nat} {c : Caller} (present : p.callers[ticket]? = some c)
      (unfinished : c.stage.isFinal = false) : Step p (.leave ticket) (p.setStage ticket .gone)
  | cancel (p : Pool) : Step p .cancel { p with isCancelled := true }
  | callAll (p : Pool) (requests : List DeliveryRequest) :
      Step p (.callAll requests) { p with batches := p.batches ++ [⟨requests, [], none⟩] }
  | enlist {p : Pool} {batch : Nat} {b : Batch} {r : DeliveryRequest}
      (current : p.batches[batch]? = some b) (running : b.result = none)
      (next : b.requests[b.tickets.length]? = some r) :
      Step p (.enlist batch) (p.enlist batch b r)
  | complete {p : Pool} {batch : Nat} {b : Batch} {responses : List Response}
      (current : p.batches[batch]? = some b) (running : b.result = none)
      (begun : b.tickets.length = b.requests.length)
      (succeeded : p.responses? b.tickets = some responses) :
      Step p (.complete batch) (p.setBatch batch { b with result := some (.ok responses) })
  | fail {p : Pool} {batch ticket : Nat} {b : Batch} {r : DeliveryRequest} {e : DeliveryError}
      (current : p.batches[batch]? = some b) (running : b.result = none)
      (member : ticket ∈ b.tickets)
      (failed : p.callers[ticket]? = some ⟨r, .finished (.error e)⟩) :
      Step p (.fail batch) (p.setBatch batch { b with result := some (.error e) })

/-- What may have happened to `p` until it is `q`, the latest first. -/
inductive Runs (p : Pool) : List Act → Pool → Prop where
  | start : Runs p [] p
  | next {acts : List Act} {a : Act} {q r : Pool} :
      Runs p acts q → Step q a r → Runs p (a :: acts) r

end Courier.Workers

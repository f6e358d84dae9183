import Courier.Calendar.SharedClock

/-!
# The polling loop

A queue is polled once per window of time. A poll that takes longer than the window is followed by
the next one after a millisecond. The loop ends when it is cancelled, which a poll may bring about.
It reads monotonic time around each poll, and so it fails where that has ended.
-/

namespace Courier.Polling

/-- The window between the starts of two polls. -/
def defaultWindow : Duration := .ofMillis 3000

/-- The shortest pause between two polls. -/
def minDelay : Duration := .ofMillis 1

def nextDelay (window elapsed : Duration) : Duration := max (window - elapsed) minDelay

structure Poll where
  cost : Duration
  /-- A poll that fails is logged without the time that it took. -/
  fails : Bool
  cancels : Bool

/-- The times given to the polls, and the clocks at the end. The loop ends at the latest with the
last of the polls. -/
def run? (window : Duration) (h : Clocks.Handle) (cancelled : Bool) (cs : Clocks) :
    List Poll → Option (List Instant × Clocks)
  | [] => some ([], cs)
  | p :: ps =>
    if cancelled then some ([], cs)
    else do
      let started ← cs.now? h
      let done ← cs.advance? h p.cost
      -- The end of a poll that succeeds is read for the log.
      if !p.fails then
        let _ ← done.now? h
      if p.cancels then return ([cs.wall h], done)
      let ended ← done.now? h
      let slept ← done.sleep? h (nextDelay window (ended.since started))
      let (starts, final) ← run? window h false slept ps
      return (cs.wall h :: starts, final)

end Courier.Polling

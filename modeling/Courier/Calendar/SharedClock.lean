import Courier.Calendar.Clock

/-!
# Shared clocks

A clock is reached through handles, and the clones of a handle reach the same clock. A handle also
knows the moment of monotonic time at which its clock was started, and tells the moment now.

Monotonic time ends after 2^63 seconds, and a clock counts less than 2^64 seconds in all. What would
go beyond that fails.
-/

namespace Courier

structure Moment where
  nanos : Nat
  fits : nanos < 2 ^ 63 * 1000000000
  deriving DecidableEq

namespace Moment

def first : Moment := ⟨0, by decide⟩

def after? (m : Moment) (d : Duration) : Option Moment :=
  if h : m.nanos + d.nanos < 2 ^ 63 * 1000000000 then some ⟨m.nanos + d.nanos, h⟩ else none

/-- The time from an earlier moment to this one, or none if the other is later. -/
def since (m earlier : Moment) : Duration := .ofNanos (m.nanos - earlier.nanos)

end Moment

/-- The nanoseconds of a duration that the calendar adds at once, up to 2^63 - 1 milliseconds. -/
def Duration.span? (d : Duration) : Option Nat :=
  if d.nanos ≤ (2 ^ 63 - 1) * 1000000 then some d.nanos else none

/-- Moves a clock on. The wall time becomes the last instant if the calendar does not take the
duration, and if it has no such time. -/
def Clock.advance? (c : Clock) (d : Duration) : Option Clock :=
  if c.elapsed.nanos + d.nanos < 2 ^ 64 * 1000000000 then
    some ⟨c.elapsed + d, (d.span?.bind c.wall.plus?).getD .last⟩
  else none

/-- The clocks that were started, by their places. -/
structure Clocks where
  count : Nat
  clock : Nat → Clock

namespace Clocks

def empty : Clocks := ⟨0, fun _ => Clock.startingAt default⟩

structure Handle where
  origin : Moment
  place : Nat

def Handle.clone (h : Handle) : Handle := ⟨h.origin, h.place⟩

def set (cs : Clocks) (place : Nat) (c : Clock) : Clocks :=
  { cs with clock := fun i => if i = place then c else cs.clock i }

def start (cs : Clocks) (origin : Moment) (t : Instant) : Handle × Clocks :=
  (⟨origin, cs.count⟩, { cs.set cs.count (Clock.startingAt t) with count := cs.count + 1 })

def advance? (cs : Clocks) (h : Handle) (d : Duration) : Option Clocks :=
  ((cs.clock h.place).advance? d).map (cs.set h.place)

/-- A sleep is over as soon as the clock has moved on. -/
def sleep? (cs : Clocks) (h : Handle) (d : Duration) : Option Clocks := cs.advance? h d

/-! ### What a handle tells -/

def elapsed (cs : Clocks) (h : Handle) : Duration := (cs.clock h.place).elapsed

def now? (cs : Clocks) (h : Handle) : Option Moment := h.origin.after? (cs.elapsed h)

def wall (cs : Clocks) (h : Handle) : Instant := (cs.clock h.place).now

def today (cs : Clocks) (h : Handle) : Date := (cs.wall h).date

/-! ### Calls through handles -/

inductive Call where
  | advance (h : Handle) (d : Duration)
  | sleep (h : Handle) (d : Duration)

def call? (cs : Clocks) : Call → Option Clocks
  | .advance h d => cs.advance? h d
  | .sleep h d => cs.sleep? h d

def run? (cs : Clocks) (calls : List Call) : Option Clocks := calls.foldlM call? cs

end Clocks

end Courier

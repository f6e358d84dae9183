import Courier.Calendar.Instant

/-!
# The clock

The delivery loops read the time from a clock and sleep on it. This clock moves only when it is
told to: it keeps the time that has gone by and the wall time, which stops at the last instant of
the calendar.
-/

namespace Courier

/-- A clock that moves only when it is advanced. -/
structure Clock where
  elapsed : Duration
  wall : Instant
  deriving DecidableEq

namespace Clock

def startingAt (t : Instant) : Clock := ⟨Duration.zero, t⟩

def atDate (d : Date) : Clock := startingAt (Instant.midnight d)

def advance (c : Clock) (d : Duration) : Clock :=
  ⟨c.elapsed + d, c.wall.plus d.nanos⟩

def sleep (c : Clock) (d : Duration) : Clock := c.advance d

def now (c : Clock) : Instant := c.wall.settled

def today (c : Clock) : Date := c.now.date

end Clock

end Courier

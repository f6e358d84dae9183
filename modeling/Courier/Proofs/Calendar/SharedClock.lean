import Courier.Calendar.SharedClock
import Courier.Proofs.Calendar.Addition
import Courier.Proofs.Calendar.Clock

/-!
# A shared clock adds up

However a time is cut into waits, and through whichever clones of its handle they are made, a clock
ends in the same state as after one wait for the whole time. `clock_adds_up` says what it tells
then, and `monotonic_time_ends` that monotonic time may end before the waiting does.
-/

namespace Courier

theorem Moment.nanos_since (m earlier : Moment) :
    (m.since earlier).nanos = m.nanos - earlier.nanos := by
  have fits := m.fits
  exact Duration.nanos_ofNanos (by omega)

theorem Instant.dayNumber_plus {t : Instant} (plain : ¬ t.IsLeap) (n : Nat) :
    (t.plus n).date.dayNumber = min (t.nanos + n) last.nanos / 86400000000000 := by
  obtain ⟨steady, nanos⟩ := plus_spec plain n
  have day := dayNumber_settled (t.plus n)
  have final : Date.last.dayNumber = 95026236 := rfl
  rw [settled_of_plain steady, nanos] at day
  rw [nanos_last] at day ⊢
  omega

namespace Clock

variable {c : Clock} {t : Instant} {a b d : Duration} {n : Nat}

/-- What the calendar does not add at once would end beyond it anyway. -/
theorem getD_span? (t : Instant) (d : Duration) :
    (d.span?.bind t.plus?).getD .last = t.plus d.nanos := by
  unfold Duration.span?
  split
  · rfl
  · next long =>
    have least := t.first_le_anchor
    have final := Instant.nanos_last
    refine (Instant.plus_of_beyond ?_ ?_).symm
    · omega
    · intro ⟨_, short⟩
      omega

theorem advance?_of_fits (fits : c.elapsed.nanos + d.nanos < 2 ^ 64 * 1000000000) :
    c.advance? d = some (c.advance d) := by
  unfold advance? advance
  rw [if_pos fits, getD_span?]

theorem advance_zero (c : Clock) : c.advance (.ofNanos 0) = c := by
  have zero : (Duration.ofNanos 0).nanos = 0 := Duration.nanos_ofNanos (by decide)
  have elapsed : c.elapsed + .ofNanos 0 = c.elapsed := by
    apply Duration.ext
    rw [Duration.nanos_add (by rw [zero]; exact c.elapsed.fits), zero, Nat.add_zero]
  unfold advance
  rw [elapsed, zero, Instant.plus_zero]

theorem advance_advance (fits : c.elapsed.nanos + (a.nanos + b.nanos) < 2 ^ 64 * 1000000000) :
    (c.advance a).advance b = c.advance (a + b) := by
  have whole : (a + b).nanos = a.nanos + b.nanos := Duration.nanos_add (by omega)
  have first : (c.elapsed + a).nanos = c.elapsed.nanos + a.nanos := Duration.nanos_add (by omega)
  have elapsed : c.elapsed + a + b = c.elapsed + (a + b) := by
    have twice : (c.elapsed + a + b).nanos = (c.elapsed + a).nanos + b.nanos :=
      Duration.nanos_add (by omega)
    have once : (c.elapsed + (a + b)).nanos = c.elapsed.nanos + (a + b).nanos :=
      Duration.nanos_add (by omega)
    apply Duration.ext
    omega
  unfold advance
  rw [Instant.plus_plus, elapsed, whole]

/-! ### A clock that was just started -/

theorem elapsed_startingAt (t : Instant) : (startingAt t).elapsed.nanos = 0 :=
  Duration.nanos_ofNanos (by decide)

theorem elapsed_waited (t : Instant) (short : n < 2 ^ 64 * 1000000000) :
    ((startingAt t).advance (.ofNanos n)).elapsed.nanos = n := by
  have zero := elapsed_startingAt t
  have whole : (Duration.ofNanos n).nanos = n := Duration.nanos_ofNanos short
  have sum : ((startingAt t).elapsed + .ofNanos n).nanos =
      (startingAt t).elapsed.nanos + (Duration.ofNanos n).nanos := Duration.nanos_add (by omega)
  rw [zero, whole, Nat.zero_add] at sum
  exact sum

theorem now_waited (plain : ¬ t.IsLeap) (short : n < 2 ^ 64 * 1000000000) :
    ((startingAt t).advance (.ofNanos n)).now = t.plus n := by
  show (t.plus (Duration.ofNanos n).nanos).settled = _
  rw [Duration.nanos_ofNanos short, Instant.settled_of_plain (Instant.plus_spec plain n).1]

end Clock

namespace Clocks

variable {cs past : Clocks} {c e : Clock} {p n m : Nat} {calls : List Call} {h g : Handle}
  {a b d : Duration} {t : Instant} {origin : Moment}

/-! ### Places -/

@[simp] theorem clock_set : (cs.set p c).clock p = c := if_pos rfl

@[simp] theorem set_set : (cs.set p c).set p e = cs.set p e := by
  unfold set
  congr 1
  funext i
  split
  · rfl
  · next other => exact if_neg other

@[simp] theorem set_clock : cs.set p (cs.clock p) = cs := by
  unfold set
  congr 1
  funext i
  split
  · next same => rw [same]
  · rfl

/-! ### Runs -/

def Call.handle : Call → Handle
  | advance h _ => h
  | sleep h _ => h

def Call.time : Call → Duration
  | advance _ d => d
  | sleep _ d => d

def total : List Call → Nat
  | [] => 0
  | x :: calls => x.time.nanos + total calls

theorem total_append (calls more : List Call) :
    total (calls ++ more) = total calls + total more := by
  induction calls with
  | nil => exact (Nat.zero_add _).symm
  | cons x calls ih => rw [List.cons_append, total, total, ih, Nat.add_assoc]

theorem call?_eq (cs : Clocks) (x : Call) : cs.call? x = cs.advance? x.handle x.time := by
  cases x <;> rfl

theorem advance?_of_fits (same : h.place = p)
    (fits : (cs.clock p).elapsed.nanos + d.nanos < 2 ^ 64 * 1000000000) :
    cs.advance? h d = some (cs.set p ((cs.clock p).advance d)) := by
  subst same
  unfold advance?
  rw [Clock.advance?_of_fits fits]
  rfl

theorem advance?_bind (same : g.place = h.place)
    (fits : (cs.clock h.place).elapsed.nanos + (a.nanos + b.nanos) < 2 ^ 64 * 1000000000) :
    (cs.advance? h a).bind (·.advance? g b) = cs.advance? h (a + b) := by
  have whole : (a + b).nanos = a.nanos + b.nanos := Duration.nanos_add (by omega)
  have first : ((cs.clock h.place).advance a).elapsed.nanos =
      (cs.clock h.place).elapsed.nanos + a.nanos := Duration.nanos_add (by omega)
  rw [advance?_of_fits rfl (by omega), advance?_of_fits rfl (by omega), Option.bind_some,
    advance?_of_fits same (by rw [clock_set, first]; omega), clock_set, set_set,
    Clock.advance_advance fits]

/-- Calls on one clock move it on by their whole time, and no other clock. -/
theorem run?_of_fits (same : ∀ x ∈ calls, x.handle.place = p)
    (fits : (cs.clock p).elapsed.nanos + total calls < 2 ^ 64 * 1000000000) :
    cs.run? calls = some (cs.set p ((cs.clock p).advance (.ofNanos (total calls)))) := by
  -- The first wait and the one wait that stands for the rest make one wait again.
  induction calls generalizing cs with
  | nil =>
    show some cs = some (cs.set p ((cs.clock p).advance (.ofNanos 0)))
    rw [Clock.advance_zero, set_clock]
  | cons x calls ih =>
    obtain ⟨first, others⟩ := List.forall_mem_cons.mp same
    rw [total] at fits ⊢
    have waited : ((cs.clock p).advance x.time).elapsed.nanos =
        (cs.clock p).elapsed.nanos + x.time.nanos := Duration.nanos_add (by omega)
    have rest : (Duration.ofNanos (total calls)).nanos = total calls :=
      Duration.nanos_ofNanos (by omega)
    have sum : x.time + .ofNanos (total calls) = .ofNanos (x.time.nanos + total calls) := by
      show Duration.ofNanos (_ + (Duration.ofNanos (total calls)).nanos) = _
      rw [rest]
    have after : (cs.set p ((cs.clock p).advance x.time)).run? calls = _ := ih others (by
      rw [clock_set, waited]
      omega)
    rw [clock_set, set_set, Clock.advance_advance (by rw [rest]; exact fits), sum] at after
    unfold run? at after ⊢
    rw [List.foldlM_cons, call?_eq, advance?_of_fits first (by omega)]
    exact after

/-! ### What a handle tells -/

inductive Handle.IsClone (h : Handle) : Handle → Prop where
  | self : h.IsClone h
  | clone {g : Handle} (earlier : h.IsClone g) : h.IsClone g.clone

theorem Handle.IsClone.eq (clone : h.IsClone g) : g = h := by
  induction clone with
  | self => rfl
  | clone _ ih =>
    subst ih
    rfl

/-- The handle tells that `n` nanoseconds have gone by since its clock was started at `t`. -/
structure Tells (cs : Clocks) (h : Handle) (t : Instant) (n : Nat) : Prop where
  elapsed : (cs.elapsed h).nanos = n
  monotonic : h.origin.nanos + n < 2 ^ 63 * 1000000000 →
    ∃ m, cs.now? h = some m ∧ (m.since h.origin).nanos = n
  ended : 2 ^ 63 * 1000000000 ≤ h.origin.nanos + n → cs.now? h = none
  wall : Instant.ofNanos? (min (t.nanos + n) Instant.last.nanos) = some (cs.wall h)
  today : (cs.today h).dayNumber = min (t.nanos + n) Instant.last.nanos / 86400000000000

theorem now?_eq_some_iff {m : Moment} :
    cs.now? h = some m ↔ m.nanos = h.origin.nanos + (cs.elapsed h).nanos := by
  unfold now? Moment.after?
  have fits := m.fits
  constructor
  · intro reads
    split at reads
    · cases reads
      rfl
    · cases reads
  · intro sum
    obtain ⟨nanos, fits⟩ := m
    subst sum
    rw [dif_pos fits]

theorem now?_eq_none_iff :
    cs.now? h = none ↔ 2 ^ 63 * 1000000000 ≤ h.origin.nanos + (cs.elapsed h).nanos := by
  unfold now? Moment.after?
  split
  · next fits => simp [fits]
  · next long => simp [Nat.le_of_not_lt long]

theorem tells_of_waited (plain : ¬ t.IsLeap) (short : n < 2 ^ 64 * 1000000000)
    (waited : cs.clock h.place = (Clock.startingAt t).advance (.ofNanos n)) : cs.Tells h t n := by
  have elapsed : (cs.elapsed h).nanos = n := by
    unfold elapsed
    rw [waited, Clock.elapsed_waited t short]
  have wall : cs.wall h = t.plus n := by
    unfold wall
    rw [waited, Clock.now_waited plain short]
  refine ⟨elapsed, fun fits => ?_, fun long => ?_, ?_, ?_⟩
  · refine ⟨⟨h.origin.nanos + n, fits⟩, now?_eq_some_iff.mpr (by rw [elapsed]), ?_⟩
    rw [Moment.nanos_since, Nat.add_sub_cancel_left]
  · exact now?_eq_none_iff.mpr (by rw [elapsed]; exact long)
  · obtain ⟨steady, nanos⟩ := Instant.plus_spec plain n
    rw [wall, ← nanos, Instant.ofNanos?_nanos steady]
  · unfold today
    rw [wall, Instant.dayNumber_plus plain]

/-- Nothing that the handle tells has gone back. -/
structure NoEarlier (past cs : Clocks) (h : Handle) : Prop where
  elapsed : (past.elapsed h).nanos ≤ (cs.elapsed h).nanos
  monotonic : ∀ m, cs.now? h = some m → ∃ before, past.now? h = some before ∧ before.nanos ≤ m.nanos
  wall : (past.wall h).nanos ≤ (cs.wall h).nanos
  today : past.today h ≤ cs.today h

theorem Tells.noEarlier (early : past.Tells h t m) (late : cs.Tells h t n) (le : m ≤ n) :
    past.NoEarlier cs h := by
  have elapsed : (past.elapsed h).nanos ≤ (cs.elapsed h).nanos := by
    rw [early.elapsed, late.elapsed]
    exact le
  refine ⟨elapsed, fun now reads => ?_, ?_, ?_⟩
  · have sum := now?_eq_some_iff.mp reads
    have fits := now.fits
    refine ⟨⟨h.origin.nanos + (past.elapsed h).nanos, by omega⟩, now?_eq_some_iff.mpr rfl, ?_⟩
    show h.origin.nanos + (past.elapsed h).nanos ≤ now.nanos
    omega
  · rw [Instant.nanos_ofNanos? early.wall, Instant.nanos_ofNanos? late.wall]
    omega
  · show (past.today h).dayNumber ≤ (cs.today h).dayNumber
    rw [early.today, late.today]
    omega

/-! ### Runs through the clones of a handle -/

/-- The clocks once a new one has waited for `n` nanoseconds. -/
def waited (cs : Clocks) (origin : Moment) (t : Instant) (n : Nat) : Clocks :=
  (cs.start origin t).2.set cs.count ((Clock.startingAt t).advance (.ofNanos n))

theorem clock_start : (cs.start origin t).2.clock cs.count = Clock.startingAt t := if_pos rfl

theorem place_of_clones (clones : ∀ x ∈ calls, (cs.start origin t).1.IsClone x.handle) :
    ∀ x ∈ calls, x.handle.place = cs.count := by
  intro x member
  rw [(clones x member).eq]
  rfl

theorem run?_start (clones : ∀ x ∈ calls, (cs.start origin t).1.IsClone x.handle)
    (short : total calls < 2 ^ 64 * 1000000000) :
    (cs.start origin t).2.run? calls = some (cs.waited origin t (total calls)) := by
  have zero : ((cs.start origin t).2.clock cs.count).elapsed.nanos = 0 := by
    rw [clock_start, Clock.elapsed_startingAt]
  rw [run?_of_fits (place_of_clones clones) (by rw [zero, Nat.zero_add]; exact short), clock_start]
  rfl

theorem waited_tells (plain : ¬ t.IsLeap) (short : n < 2 ^ 64 * 1000000000)
    (clone : (cs.start origin t).1.IsClone h) : (cs.waited origin t n).Tells h t n := by
  refine tells_of_waited plain short ?_
  rw [clone.eq]
  exact clock_set

/-- Take a clock that is started outside a leap second, and calls through clones of its handle whose
time is less than 2^64 seconds in all. Every clone then tells just that time, as far as monotonic
time goes; the clocks are the same after all calls of that time, and nothing ever goes back. -/
theorem clock_adds_up (plain : ¬ t.IsLeap) (cs : Clocks) (origin : Moment)
    (clones : ∀ x ∈ calls, (cs.start origin t).1.IsClone x.handle)
    (short : total calls < 2 ^ 64 * 1000000000) :
    ∃ after, (cs.start origin t).2.run? calls = some after ∧
      (∀ h, (cs.start origin t).1.IsClone h → after.Tells h t (total calls)) ∧
      (∀ others : List Call, (∀ x ∈ others, (cs.start origin t).1.IsClone x.handle) →
        total others = total calls → (cs.start origin t).2.run? others = some after) ∧
      (∀ h g : Handle, (cs.start origin t).1.IsClone h → (cs.start origin t).1.IsClone g →
        ∀ a b : Duration, total calls + a.nanos + b.nanos < 2 ^ 64 * 1000000000 →
          ∃ next, after.advance? h (a + b) = some next ∧
            (after.advance? h a).bind (·.advance? g b) = some next) ∧
      ∀ earlier later, calls = earlier ++ later →
        ∃ past, (cs.start origin t).2.run? earlier = some past ∧
          ∀ h, (cs.start origin t).1.IsClone h → past.NoEarlier after h := by
  refine ⟨_, run?_start clones short, ?_, ?_, ?_, ?_⟩
  · intro h clone
    exact waited_tells plain short clone
  · intro others same equal
    rw [← equal] at short ⊢
    exact run?_start same short
  · intro h g first second a b fits
    have elapsed : ((cs.waited origin t (total calls)).clock h.place).elapsed.nanos = total calls :=
      (waited_tells plain short first).elapsed
    have whole : (a + b).nanos = a.nanos + b.nanos := Duration.nanos_add (by omega)
    refine ⟨_, advance?_of_fits rfl (by rw [elapsed]; omega), ?_⟩
    rw [advance?_bind (by rw [first.eq, second.eq]) (by rw [elapsed]; omega)]
    exact advance?_of_fits rfl (by rw [elapsed]; omega)
  · rintro earlier later rfl
    rw [total_append] at short ⊢
    have before : ∀ x ∈ earlier, (cs.start origin t).1.IsClone x.handle := fun x member =>
      clones x (List.mem_append_left later member)
    refine ⟨_, run?_start before (by omega), fun h clone => ?_⟩
    have early : (cs.waited origin t (total earlier)).Tells h t (total earlier) :=
      waited_tells plain (by omega) clone
    exact early.noEarlier (waited_tells plain short clone) (Nat.le_add_right _ _)

/-- A handle on a clock that starts with 1970, when monotonic time begins. -/
def dawn : Handle × Clocks := empty.start .first (.midnight .epoch)

def longCalls : List Call :=
  [.sleep dawn.1.clone (.ofMillis 1500), .advance dawn.1 (.ofSeconds (2 ^ 62))]

/-- The wall time has stopped, while monotonic time still counts. -/
theorem clock_adds_up_dawn :
    ¬ (Instant.midnight .epoch).IsLeap ∧ (∀ x ∈ longCalls, dawn.1.IsClone x.handle) ∧
    total longCalls < 2 ^ 64 * 1000000000 ∧
    ∃ after, dawn.2.run? longCalls = some after ∧
      (∃ m, after.now? dawn.1.clone = some m ∧
        (m.since .first).nanos = 2 ^ 62 * 1000000000 + 1500000000) ∧
      after.wall dawn.1 = .last ∧ after.today dawn.1 = .last := by
  have plain : ¬ (Instant.midnight .epoch).IsLeap := by decide
  have clones : ∀ x ∈ longCalls, dawn.1.IsClone x.handle := by
    intro x member
    rcases List.mem_cons.mp member with rfl | member
    · exact .clone .self
    · rw [List.mem_singleton.mp member]
      exact .self
  have sum : total longCalls = 2 ^ 62 * 1000000000 + 1500000000 := by decide
  have short : total longCalls < 2 ^ 64 * 1000000000 := by
    rw [sum]
    decide
  obtain ⟨after, run, tells, _⟩ := clock_adds_up plain empty .first clones short
  have clone := tells dawn.1.clone (.clone .self)
  have own := tells dawn.1 .self
  rw [sum] at clone own
  refine ⟨plain, clones, short, after, run, clone.monotonic (by decide), ?_, ?_⟩
  · have wall := own.wall
    rw [show Instant.ofNanos? _ = some Instant.last by decide] at wall
    exact (Option.some.inj wall).symm
  · apply Date.ext
    rw [own.today]
    decide

def halfway : List Call := [.advance dawn.1 (.ofSeconds (2 ^ 63))]

/-- After 2^63 seconds a clock still counts, but monotonic time has ended. -/
theorem monotonic_time_ends :
    ¬ (Instant.midnight .epoch).IsLeap ∧ (∀ x ∈ halfway, dawn.1.IsClone x.handle) ∧
    total halfway < 2 ^ 64 * 1000000000 ∧
    ∃ after, dawn.2.run? halfway = some after ∧
      (after.elapsed dawn.1).nanos = total halfway ∧ after.now? dawn.1 = none := by
  have plain : ¬ (Instant.midnight .epoch).IsLeap := by decide
  have clones : ∀ x ∈ halfway, dawn.1.IsClone x.handle := by
    intro x member
    rw [List.mem_singleton.mp member]
    exact .self
  have sum : total halfway = 2 ^ 63 * 1000000000 := by decide
  have short : total halfway < 2 ^ 64 * 1000000000 := by
    rw [sum]
    decide
  have tells : (empty.waited .first (.midnight .epoch) (total halfway)).Tells dawn.1
      (.midnight .epoch) (total halfway) := waited_tells plain short .self
  refine ⟨plain, clones, short, _, run?_start clones short, tells.elapsed, tells.ended ?_⟩
  rw [sum]
  decide

end Clocks

end Courier

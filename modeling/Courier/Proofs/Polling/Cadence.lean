import Courier.Polling.Loop
import Courier.Proofs.Calendar.SharedClock

/-!
# The cadence of the polling loop

From the start of one poll to the start of the next goes by a window, or the time that the poll took
and a millisecond if that is longer. `polls_keep_the_cadence` says what a whole loop does, up to the
poll in which it is cancelled, and that it fails exactly if monotonic time ends before its last
reading.
-/

namespace Courier.Polling

variable {window : Duration} {cs : Clocks} {h : Clocks.Handle} {before after : List Poll}
  {p q : Poll} {n m : Nat}

/-- The nanoseconds from the start of a poll to the start of the next one. -/
def period (window cost : Duration) : Nat := max window.nanos (cost.nanos + 1000000)

def periods (window : Duration) : List Poll → Nat
  | [] => 0
  | q :: polls => period window q.cost + periods window polls

@[simp] theorem periods_nil : periods window [] = 0 := rfl

@[simp] theorem periods_cons :
    periods window (q :: before) = period window q.cost + periods window before := rfl

theorem nanos_nextDelay (window elapsed : Duration) :
    (nextDelay window elapsed).nanos = max (window.nanos - elapsed.nanos) 1000000 := by
  have least : minDelay.nanos = 1000000 := by decide
  rw [nextDelay, Duration.nanos_max, Duration.nanos_sub, least]

theorem periods_congr {others : List Poll}
    (same : others.map Poll.cost = before.map Poll.cost) :
    periods window others = periods window before := by
  induction before generalizing others with
  | nil => rw [List.map_eq_nil_iff.mp same]
  | cons q before ih =>
    obtain ⟨other, rest, rfl, cost, tail⟩ := List.map_eq_cons_iff.mp same
    rw [periods_cons, periods_cons, cost, ih tail]

/-! ### A clock that has moved on -/

def moved (cs : Clocks) (h : Clocks.Handle) (n : Nat) : Clocks :=
  cs.set h.place ((cs.clock h.place).advance (.ofNanos n))

theorem advance?_eq (cs : Clocks) (h : Clocks.Handle) (cost : Duration)
    (fits : (cs.elapsed h).nanos + cost.nanos < 2 ^ 64 * 1000000000) :
    cs.advance? h cost = some (moved cs h cost.nanos) := by
  have whole : Duration.ofNanos cost.nanos = cost :=
    Duration.ext (Duration.nanos_ofNanos cost.fits)
  unfold moved
  rw [whole]
  exact Clocks.advance?_of_fits rfl fits

theorem elapsed_moved (fits : (cs.elapsed h).nanos + n < 2 ^ 64 * 1000000000) :
    ((moved cs h n).elapsed h).nanos = (cs.elapsed h).nanos + n := by
  have whole : (Duration.ofNanos n).nanos = n := Duration.nanos_ofNanos (by omega)
  unfold moved Clocks.elapsed at *
  rw [Clocks.clock_set]
  show ((cs.clock h.place).elapsed + .ofNanos n).nanos = _
  rw [Duration.nanos_add (by omega), whole]

theorem moved_moved (fits : (cs.elapsed h).nanos + (n + m) < 2 ^ 64 * 1000000000) :
    moved (moved cs h n) h m = moved cs h (n + m) := by
  have first : (Duration.ofNanos n).nanos = n := Duration.nanos_ofNanos (by omega)
  have second : (Duration.ofNanos m).nanos = m := Duration.nanos_ofNanos (by omega)
  have sum : Duration.ofNanos n + .ofNanos m = .ofNanos (n + m) := by
    show Duration.ofNanos ((Duration.ofNanos n).nanos + (Duration.ofNanos m).nanos) = _
    rw [first, second]
  unfold moved
  rw [Clocks.clock_set, Clocks.set_set, Clock.advance_advance, sum]
  rw [first, second]
  exact fits

theorem wall_moved (short : n < 2 ^ 64 * 1000000000) :
    ((moved cs h n).clock h.place).wall = (cs.clock h.place).wall.plus n := by
  unfold moved
  rw [Clocks.clock_set]
  show (cs.clock h.place).wall.plus (Duration.ofNanos n).nanos = _
  rw [Duration.nanos_ofNanos short]

theorem exists_now (fits : h.origin.nanos + (cs.elapsed h).nanos < 2 ^ 63 * 1000000000) :
    ∃ m, cs.now? h = some m ∧ m.nanos = h.origin.nanos + (cs.elapsed h).nanos :=
  ⟨⟨_, fits⟩, Clocks.now?_eq_some_iff.mpr rfl, rfl⟩

/-! ### One poll -/

section Poll

variable (polls : List Poll)

/-- A poll after which monotonic time has ended is not followed by others. -/
theorem run?_cons_none (goes_on : q.cancels = false)
    (fits : (cs.elapsed h).nanos + q.cost.nanos < 2 ^ 64 * 1000000000)
    (ended : 2 ^ 63 * 1000000000 ≤ h.origin.nanos + (cs.elapsed h).nanos + q.cost.nanos) :
    run? window h false cs (q :: polls) = none := by
  have unread : (moved cs h q.cost.nanos).now? h = none := by
    rw [Clocks.now?_eq_none_iff, elapsed_moved fits, ← Nat.add_assoc]
    exact ended
  rw [run?, if_neg (by simp), advance?_eq cs h q.cost fits]
  cases cs.now? h with
  | none => rfl
  | some started => cases failed : q.fails <;> simp [goes_on, unread]

theorem run?_cons (goes_on : q.cancels = false)
    (fits : (cs.elapsed h).nanos + period window q.cost < 2 ^ 64 * 1000000000)
    (reads : h.origin.nanos + (cs.elapsed h).nanos + q.cost.nanos < 2 ^ 63 * 1000000000) :
    run? window h false cs (q :: polls) =
      (run? window h false (moved cs h (period window q.cost)) polls).map
        fun r => (cs.wall h :: r.1, r.2) := by
  unfold period at fits
  have polled : ((moved cs h q.cost.nanos).elapsed h).nanos = (cs.elapsed h).nanos + q.cost.nanos :=
    elapsed_moved (by omega)
  have lasts : h.origin.nanos + ((moved cs h q.cost.nanos).elapsed h).nanos <
      2 ^ 63 * 1000000000 := by omega
  obtain ⟨started, start, first⟩ :=
    exists_now (Nat.lt_of_le_of_lt (Nat.le_add_right _ q.cost.nanos) reads)
  obtain ⟨ended, stop, last⟩ := exists_now lasts
  have took : (ended.since started).nanos = q.cost.nanos := by
    rw [Moment.nanos_since]
    omega
  have pause := nanos_nextDelay window (ended.since started)
  rw [took] at pause
  have whole : q.cost.nanos + (nextDelay window (ended.since started)).nanos =
      period window q.cost := by
    unfold period
    omega
  have slept : (moved cs h q.cost.nanos).sleep? h (nextDelay window (ended.since started)) =
      some (moved cs h (period window q.cost)) := by
    rw [← whole, ← moved_moved (by omega)]
    exact advance?_eq _ _ _ (by omega)
  have rest (next : Option (List Instant × Clocks)) :
      (next.bind fun r => some (cs.wall h :: r.1, r.2)) =
        next.map fun r => (cs.wall h :: r.1, r.2) := by
    cases next <;> rfl
  rw [run?, if_neg (by simp), start, advance?_eq cs h q.cost (by omega)]
  cases q.fails <;> simp [goes_on, stop, slept, rest]

theorem run?_last (ends : p.cancels = true)
    (fits : (cs.elapsed h).nanos + p.cost.nanos < 2 ^ 64 * 1000000000) :
    run? window h false cs (p :: polls) =
      if h.origin.nanos + (cs.elapsed h).nanos + (if p.fails then 0 else p.cost.nanos) <
          2 ^ 63 * 1000000000 then
        some ([cs.wall h], moved cs h p.cost.nanos)
      else none := by
  rw [run?, if_neg (by simp), advance?_eq cs h p.cost fits]
  have polled := elapsed_moved fits
  by_cases start : h.origin.nanos + (cs.elapsed h).nanos < 2 ^ 63 * 1000000000
  · obtain ⟨started, begun, -⟩ := exists_now start
    rw [begun]
    by_cases stop : h.origin.nanos + (cs.elapsed h).nanos + p.cost.nanos < 2 ^ 63 * 1000000000
    · have lasts : h.origin.nanos + ((moved cs h p.cost.nanos).elapsed h).nanos <
          2 ^ 63 * 1000000000 := by omega
      obtain ⟨ended, stopped, -⟩ := exists_now lasts
      rw [if_pos (by split <;> omega)]
      cases p.fails <;> simp [ends, stopped]
    · have unread : (moved cs h p.cost.nanos).now? h = none :=
        Clocks.now?_eq_none_iff.mpr (by omega)
      cases p.fails with
      | false =>
        rw [if_neg (by simpa using stop)]
        simp [unread]
      | true =>
        rw [if_pos (by simpa using start)]
        simp [ends]
  · rw [Clocks.now?_eq_none_iff.mpr (by omega), if_neg (by omega)]
    rfl

end Poll

/-! ### The loop -/

/-- The last reading of monotonic time, in nanoseconds since the start: the end of the poll in which
the loop is cancelled, or the start of it if it fails. -/
def lastReading (window : Duration) (before : List Poll) (p : Poll) : Nat :=
  periods window before + if p.fails then 0 else p.cost.nanos

theorem lastReading_cons :
    lastReading window (q :: before) p = period window q.cost + lastReading window before p :=
  Nat.add_assoc _ _ _

theorem run?_cancelled (polls : List Poll) : run? window h true cs polls = some ([], cs) := by
  cases polls <;> rfl

/-- The times of the polls that follow on the periods before them. -/
def starts (window : Duration) (start : Instant) (before : List Poll) : List Instant :=
  (List.range (before.length + 1)).map fun i =>
    (start.plus (periods window (before.take i))).settled

theorem starts_nil (start : Instant) : starts window start [] = [start.settled] := by
  simp [starts, List.range_succ, Instant.plus_zero]

theorem starts_cons (start : Instant) : starts window start (q :: before) =
    start.settled :: starts window (start.plus (period window q.cost)) before := by
  have later : (List.range (before.length + 1)).map (fun i =>
        ((start.plus (period window q.cost)).plus (periods window (before.take i))).settled) =
      (List.range (before.length + 1)).map fun i =>
        (start.plus (periods window ((q :: before).take (i + 1)))).settled := by
    refine List.map_congr_left fun i _ => ?_
    rw [Instant.plus_plus, List.take_succ_cons, periods_cons]
  unfold starts
  rw [later, List.length_cons, List.range_succ_eq_map (n := before.length + 1), List.map_cons,
    List.map_map, List.take_zero, periods_nil, Instant.plus_zero]
  rfl

theorem starts_congr {others : List Poll} (start : Instant)
    (same : others.map Poll.cost = before.map Poll.cost) :
    starts window start others = starts window start before := by
  have lengths : others.length = before.length := by simpa using congrArg List.length same
  unfold starts
  rw [lengths]
  refine List.map_congr_left fun i _ => ?_
  have taken : (others.take i).map Poll.cost = (before.take i).map Poll.cost := by
    rw [List.map_take, List.map_take, same]
  rw [periods_congr taken]

/-- The loop starts a poll after each of the periods before it and ends with the poll in which it is
cancelled, if monotonic time lasts until then. -/
theorem run?_script (goes_on : ∀ q ∈ before, q.cancels = false) (ends : p.cancels = true)
    (fits : (cs.elapsed h).nanos + periods window before + p.cost.nanos < 2 ^ 64 * 1000000000) :
    run? window h false cs (before ++ p :: after) =
      if h.origin.nanos + (cs.elapsed h).nanos + lastReading window before p <
          2 ^ 63 * 1000000000 then
        some (starts window (cs.clock h.place).wall before,
          moved cs h (periods window before + p.cost.nanos))
      else none := by
  induction before generalizing cs with
  | nil =>
    rw [periods_nil, Nat.add_zero] at fits
    rw [List.nil_append, run?_last after ends fits, starts_nil, lastReading, periods_nil,
      Nat.zero_add, Nat.zero_add]
    rfl
  | cons q before ih =>
    rw [periods_cons] at fits
    have polled : q.cost.nanos < period window q.cost := by
      unfold period
      omega
    have in_time : (cs.elapsed h).nanos + period window q.cost < 2 ^ 64 * 1000000000 := by omega
    have elapsed := elapsed_moved in_time
    rw [List.cons_append]
    by_cases reads : h.origin.nanos + (cs.elapsed h).nanos + q.cost.nanos < 2 ^ 63 * 1000000000
    · have rest : run? window h false (moved cs h (period window q.cost)) (before ++ p :: after) =
          _ :=
        ih (fun other member => goes_on other (List.mem_cons_of_mem q member)) (by omega)
      rw [run?_cons _ (goes_on q List.mem_cons_self) in_time reads, rest, elapsed,
        wall_moved (by omega), moved_moved (by omega), starts_cons, lastReading_cons, periods_cons]
      simp only [Nat.add_assoc]
      split <;> rfl
    · rw [run?_cons_none _ (goes_on q List.mem_cons_self) (by omega) (by omega), if_neg]
      rw [lastReading_cons]
      omega

/-- Only what the polls cost and when they cancel counts, not which of them fail. -/
theorem run?_congr {others : List Poll} (goes_on : ∀ q ∈ before, q.cancels = false)
    (ends : p.cancels = true)
    (fits : (cs.elapsed h).nanos + periods window before + p.cost.nanos < 2 ^ 64 * 1000000000)
    (reads : h.origin.nanos + (cs.elapsed h).nanos + periods window before + p.cost.nanos <
      2 ^ 63 * 1000000000)
    (same : others.map (fun q => (q.cost, q.cancels)) =
      (before ++ p :: after).map fun q => (q.cost, q.cancels)) :
    run? window h false cs others = run? window h false cs (before ++ p :: after) := by
  rw [List.map_append, List.map_cons] at same
  obtain ⟨before', rest, rfl, front, back⟩ := List.map_eq_append_iff.mp same
  obtain ⟨p', after', rfl, last, -⟩ := List.map_eq_cons_iff.mp back
  obtain ⟨cost, cancels⟩ := Prod.mk.inj last
  have costs : before'.map Poll.cost = before.map Poll.cost := by
    simpa [Function.comp_def] using congrArg (List.map Prod.fst) front
  have goes_on' : ∀ q ∈ before', q.cancels = false := by
    intro q member
    have image : (q.cost, q.cancels) ∈ before'.map fun q => (q.cost, q.cancels) :=
      List.mem_map_of_mem member
    rw [front] at image
    obtain ⟨other, among, equal⟩ := List.mem_map.mp image
    rw [← (Prod.mk.inj equal).2]
    exact goes_on other among
  have gone : periods window before' = periods window before := periods_congr costs
  rw [run?_script goes_on ends fits, run?_script goes_on' (cancels.trans ends)
    (by rw [gone, cost]; exact fits), starts_congr _ costs, gone, cost]
  unfold lastReading
  rw [gone, cost, if_pos (by split <;> omega), if_pos (by split <;> omega)]

theorem started_spec {clocks : Clocks} {origin : Moment} {start : Instant}
    (began : cs.start origin start = (h, clocks)) :
    h.origin = origin ∧ (clocks.clock h.place).wall = start ∧ (clocks.elapsed h).nanos = 0 := by
  cases began
  have fresh : (cs.start origin start).2.clock cs.count = .startingAt start := Clocks.clock_start
  refine ⟨rfl, congrArg Clock.wall fresh, ?_⟩
  exact (congrArg (·.elapsed.nanos) fresh).trans (Clock.elapsed_startingAt start)

/-- A loop on a clock that was just started, which is cancelled in one of its polls and not before,
comes to an end exactly if its last reading is within monotonic time. It then has started every poll
a period after the one before it and ends with that poll. The polls are given the start and the
periods that have gone by, as the calendar adds them up, and a leap second is read as the second
after it; where the start is not in a leap second this is the exact sum, up to the last instant. As
long as monotonic time lasts it makes no difference which polls fail, and a loop that is cancelled
beforehand does nothing. -/
theorem polls_keep_the_cadence {cs clocks : Clocks} {origin : Moment} {start : Instant}
    {h : Clocks.Handle} (began : cs.start origin start = (h, clocks)) (window : Duration)
    (before after : List Poll) (p : Poll) (representable : start.nanos ≤ Instant.last.nanos)
    (goes_on : ∀ q ∈ before, q.cancels = false) (ends : p.cancels = true)
    (fits : periods window before + p.cost.nanos < 2 ^ 64 * 1000000000) :
    ((run? window h false clocks (before ++ p :: after)).isSome ↔
        origin.nanos + lastReading window before p < 2 ^ 63 * 1000000000) ∧
      (∀ times final, run? window h false clocks (before ++ p :: after) = some (times, final) →
        times = (List.range (before.length + 1)).map
            (fun i => (start.plus (periods window (before.take i))).settled) ∧
          (final.elapsed h).nanos = periods window before + p.cost.nanos) ∧
      (∀ n, ¬ (start.plus n).settled.IsLeap ∧
        (start.plus n).settled.nanos = (start.plus n).nanos) ∧
      (¬ start.IsLeap → start.settled = start ∧
        ∀ n, (start.plus n).nanos = min (start.nanos + n) Instant.last.nanos) ∧
      (origin.nanos + periods window before + p.cost.nanos < 2 ^ 63 * 1000000000 →
        ∀ others : List Poll,
          others.map (fun q => (q.cost, q.cancels)) =
              (before ++ p :: after).map (fun q => (q.cost, q.cancels)) →
            run? window h false clocks others =
              run? window h false clocks (before ++ p :: after)) ∧
      ∀ polls, run? window h true clocks polls = some ([], clocks) := by
  obtain ⟨at_origin, wall, zero⟩ := started_spec began
  have in_time : (clocks.elapsed h).nanos + periods window before + p.cost.nanos <
      2 ^ 64 * 1000000000 := by omega
  have script : run? window h false clocks (before ++ p :: after) = _ :=
    run?_script goes_on ends in_time
  rw [zero, at_origin, wall, Nat.add_zero] at script
  refine ⟨?_, fun times final result => ?_, fun n => ?_, fun plain => ⟨?_, fun n => ?_⟩,
    fun lasts others same => ?_, run?_cancelled⟩
  · rw [script]
    split
    · next reads => simpa using reads
    · next beyond => simpa using beyond
  · rw [script] at result
    split at result
    · cases result
      refine ⟨rfl, ?_⟩
      rw [elapsed_moved (by omega), zero, Nat.zero_add]
    · cases result
  · exact Instant.settled_spec (Instant.plus_le_last representable n)
  · exact Instant.settled_of_plain plain
  · exact (Instant.plus_spec plain n).2
  · exact run?_congr goes_on ends in_time (by rw [at_origin]; omega) same

/-- Half of the leap second at the end of 2016 has gone by. -/
def leapSecond : Instant :=
  { Instant.last with
    date := ⟨17166, by decide, by decide⟩
    nano := 1500000000
    nano_lt := by decide
    leap_at := by decide }

def freePoll : Poll := ⟨.zero, false, false⟩

def lastPoll : Poll := ⟨.zero, true, true⟩

/-- Two polls three seconds apart from a leap second on, the later one of which fails. -/
theorem polls_keep_the_cadence_leap :
    (leapSecond.nanos ≤ Instant.last.nanos ∧ (∀ q ∈ [freePoll], q.cancels = false) ∧
      lastPoll.cancels = true ∧
      periods defaultWindow [freePoll] + lastPoll.cost.nanos < 2 ^ 64 * 1000000000) ∧
    ∃ h clocks final, Clocks.empty.start .first leapSecond = (h, clocks) ∧
      run? defaultWindow h false clocks [freePoll, lastPoll] =
        some ([leapSecond.settled, (leapSecond.plus 3000000000).settled], final) ∧
      (final.elapsed h).nanos = 3000000000 := by
  have within : leapSecond.nanos ≤ Instant.last.nanos := by decide
  have goes_on : ∀ q ∈ [freePoll], q.cancels = false := by decide
  have fits : periods defaultWindow [freePoll] + lastPoll.cost.nanos < 2 ^ 64 * 1000000000 := by
    decide
  refine ⟨⟨within, goes_on, rfl, fits⟩, ?_⟩
  have began : Clocks.empty.start .first leapSecond = (_, _) := rfl
  obtain ⟨comes, results, -⟩ :=
    polls_keep_the_cadence began defaultWindow [freePoll] [] lastPoll within goes_on rfl fits
  obtain ⟨⟨times, final⟩, result⟩ := Option.isSome_iff_exists.mp (comes.mpr (by decide))
  obtain ⟨starts, elapsed⟩ := results times final result
  have shown : times = [leapSecond.settled, (leapSecond.plus 3000000000).settled] := by
    rw [starts]
    decide
  exact ⟨_, _, final, rfl, shown ▸ result, elapsed.trans (by decide)⟩

/-- A clock that starts in that leap second. -/
def leaping : Clocks.Handle × Clocks := Clocks.empty.start .first leapSecond

/-- A poll takes longer than monotonic time lasts. -/
def longPoll : Poll := ⟨.ofSeconds (2 ^ 63), false, false⟩

/-- A poll that starts in a leap second is not given its start, and the next one is given a time
that is not a whole window later. After a poll that outlasts monotonic time the loop fails, although
what has gone by is a duration. -/
theorem cadence_has_limits :
    ¬ (run? defaultWindow leaping.1 false leaping.2 [lastPoll]).map (·.1) = some [leapSecond] ∧
    (run? defaultWindow leaping.1 false leaping.2 [freePoll, lastPoll]).map
        (·.1.map Instant.nanos) = some [leapSecond.nanos, leapSecond.nanos + 2000000000] ∧
    periods defaultWindow [longPoll] + lastPoll.cost.nanos < 2 ^ 64 * 1000000000 ∧
    (run? defaultWindow leaping.1 false leaping.2 [longPoll, lastPoll]).isNone := by
  decide

end Courier.Polling

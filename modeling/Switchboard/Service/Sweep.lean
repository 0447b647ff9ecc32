import Switchboard.Outcome

/-!
# Sweeping on a schedule

A sweeper waits for its interval, sweeps, and waits again; what a sweep returns and whether it
panics does not concern it. Sweeps take no time, so the next one falls due one interval after the
last. A sweeper without an interval is never started.
-/

namespace Switchboard

/-- A sweeper that is waiting. -/
structure Sweeper where
  /-- The time between two sweeps. -/
  interval : Nat
  /-- When it will sweep next. -/
  next : Nat
  /-- There is something to wait for. -/
  interval_pos : 0 < interval

namespace Sweeper

/-- A pause as long as this, in milliseconds, would end beyond the last time that a clock of 63 bits
of seconds can show. Such a clock starts earlier than the service, hence the distance to `2 ^ 63`
seconds. -/
def clockRange : Nat := 9223372036854775000000

/-- How long a sweeper waits for an interval, in milliseconds. A pause that the clock cannot show
the end of lasts thirty years. -/
def pause (interval : Nat) : Nat := if interval < clockRange then interval else 946080000000

/-- A sweeper that starts at the time `now`; none if it has nothing to wait for. -/
def start? (now interval : Nat) : Option Sweeper :=
  if h : 0 < interval then some ⟨interval, now + interval, h⟩ else none

/-- The sweeper after its next sweep. -/
def tick (s : Sweeper) : Sweeper := { s with next := s.next + s.interval }

/-- Does `sweep` at each time at which a sweep falls due until the time `t`, that time included:
what comes of `a`, and the sweeper afterwards. -/
def run {α : Type} (sweep : α → Nat → α) (s : Sweeper) (t : Nat) (a : α) : α × Sweeper :=
  if s.next ≤ t then s.tick.run sweep t (sweep a s.next) else (a, s)
termination_by t + 1 - s.next
decreasing_by
  have := s.interval_pos
  simp only [tick]
  omega

/-- The times of the sweeps that fall due until the time `t`. -/
def dueTimes (s : Sweeper) (t : Nat) : List Nat :=
  (s.run (fun times time => time :: times) t []).1.reverse

/-- The sweeper after the sweeps that fall due until the time `t`. -/
def advance (s : Sweeper) (t : Nat) : Sweeper := (s.run (fun _ _ => ()) t ()).2

end Sweeper

/-! ## A sweeper and its sweeps -/

/-- A sweeper at work. -/
structure SweepRun where
  /-- The sweeper, unless it has ended. -/
  sweeper : Option Sweeper
  /-- The current time. -/
  now : Nat
  /-- How many sweeps have started. -/
  count : Nat
  /-- When they have started, the latest first. -/
  started : List Nat
  /-- How they have ended, the latest first. -/
  outcomes : List (Outcome Nat)

namespace SweepRun

/-- A sweeper that is started at the time zero. -/
def start (interval : Nat) : SweepRun := ⟨Sweeper.start? 0 interval, 0, 0, [], []⟩

/-- Sweeps at a time. The sweep with the number `k`, counted from zero, ends in `sweep k`. -/
def sweepAt (sweep : Nat → Outcome Nat) (r : SweepRun) (time : Nat) : SweepRun :=
  { r with
    now := time
    count := r.count + 1
    started := time :: r.started
    outcomes := sweep r.count :: r.outcomes }

/-- Makes the sweeps that fall due until the time `t`. -/
def sweepUntil (sweep : Nat → Outcome Nat) (r : SweepRun) (t : Nat) : SweepRun :=
  match r.sweeper with
  | none => r
  | some s =>
    let (r, s) := s.run (sweepAt sweep) t r
    { r with sweeper := some s }

/-- Lets time pass. Whoever waits beside the sweeper goes on first: a sweep that falls due at the
very end has not started yet. -/
def wait (sweep : Nat → Outcome Nat) (r : SweepRun) (duration : Nat) : SweepRun :=
  let now := r.now + duration
  { r.sweepUntil sweep (now - 1) with now }

/-- Makes the sweep that falls due now, if there is one. -/
def settle (sweep : Nat → Outcome Nat) (r : SweepRun) : SweepRun := r.sweepUntil sweep r.now

/-- The sweeper has ended. -/
def finished (r : SweepRun) : Bool := r.sweeper.isNone

end SweepRun

end Switchboard

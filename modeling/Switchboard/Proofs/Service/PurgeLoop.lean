import Switchboard.Proofs.Service.Eviction

/-!
# A sweeper keeps its schedule

A sweeper at work sweeps at every multiple of its interval, whatever its sweeps end in and however
the time is passed beside it.

* `SweepRun.OnTime`: the sweeps so far have started at the first multiples of the interval, and the
  next one is due at the next. Every sweep keeps this (`OnTime.sweepAt`), and so does any number of
  them (`OnTime.run`).
* `SweepRun.Beat`: what is done beside a sweeper. `SweepRun.Waits` is what every beat keeps, whoever
  goes first where a sweep falls due at the end of a pause.
* `SweepRun.Keeps`: what has become of a sweeper after some beats.
* `CacheConfig.Lasting`: how long the durations of a configuration are.
* `State.Sweeps`: what becomes of the sweeper that a configuration asks for.
* **`purges_on_schedule`**: all of it.
-/

namespace Switchboard

namespace SweepRun

variable {interval : Nat} {sweep : Nat → Outcome Nat} {r : SweepRun} {s : Sweeper}

/-! ## Sweeps on time -/

/-- **The sweeps are on time**: they have started at the first multiples of the interval and have
ended as they do, and the next one is due at the next multiple. -/
structure OnTime (interval : Nat) (sweep : Nat → Outcome Nat) (r : SweepRun) (s : Sweeper) :
    Prop where
  interval_eq : s.interval = interval
  next_eq : s.next = (r.count + 1) * interval
  started_eq : r.started.reverse = (List.range r.count).map fun k => (k + 1) * interval
  outcomes_eq : r.outcomes.reverse = (List.range r.count).map sweep

/-- **A sweep keeps what comes after it on time**, whatever it ends in. -/
theorem OnTime.sweepAt (h : OnTime interval sweep r s) :
    OnTime interval sweep (r.sweepAt sweep s.next) s.tick := by
  constructor
  case interval_eq => exact h.interval_eq
  case next_eq =>
    show s.next + s.interval = (r.count + 1 + 1) * interval
    rw [h.next_eq, h.interval_eq, Nat.succ_mul (r.count + 1)]
  case started_eq =>
    show (s.next :: r.started).reverse = (List.range (r.count + 1)).map fun k => (k + 1) * interval
    rw [List.reverse_cons, h.started_eq, List.range_succ, List.map_append, h.next_eq]
    rfl
  case outcomes_eq =>
    show (sweep r.count :: r.outcomes).reverse = (List.range (r.count + 1)).map sweep
    rw [List.reverse_cons, h.outcomes_eq, List.range_succ, List.map_append]
    rfl

/-- **All sweeps that fall due until a time keep the schedule**: then the next one is due later, and
the last one, if there was any, not later than that time. -/
theorem OnTime.run (h : OnTime interval sweep r s) (t : Nat) :
    OnTime interval sweep (s.run (SweepRun.sweepAt sweep) t r).1
        (s.run (SweepRun.sweepAt sweep) t r).2 ∧
      t < (s.run (SweepRun.sweepAt sweep) t r).2.next ∧
      (s.run (SweepRun.sweepAt sweep) t r).1.count * interval ≤ max t (r.count * interval) := by
  induction s using Sweeper.due_induction t generalizing r with
  | rest s hlate =>
      rw [Sweeper.run_of_lt _ _ hlate]
      exact ⟨h, hlate, Nat.le_max_right _ _⟩
  | due s hdue ih =>
      rw [Sweeper.run_of_le _ _ hdue]
      obtain ⟨htime, hnext, hlast⟩ := ih h.sweepAt
      refine ⟨htime, hnext, Nat.le_trans hlast (max_le (Nat.le_max_left _ _) ?_)⟩
      have hle : (r.count + 1) * interval ≤ t := h.next_eq ▸ hdue
      exact Nat.le_trans hle (Nat.le_max_left _ _)

/-! ## Beside a sweeper -/

/-- What is done beside a sweeper. -/
inductive Beat where
  /-- Time passes. -/
  | wait (duration : Nat)
  /-- What is due now is done. -/
  | settle

/-- The time that a beat takes. -/
def Beat.duration : Beat → Nat
  | wait duration => duration
  | settle => 0

/-- The time that beats take. -/
def elapsed : List Beat → Nat
  | [] => 0
  | b :: rest => b.duration + elapsed rest

/-- What a beat makes of a sweeper at work. -/
def beat (sweep : Nat → Outcome Nat) (r : SweepRun) : Beat → SweepRun
  | .wait duration => r.wait sweep duration
  | .settle => r.settle sweep

/-- What becomes of a sweeper that is started at the time zero. -/
def after (sweep : Nat → Outcome Nat) (interval : Nat) (beats : List Beat) : SweepRun :=
  beats.foldl (beat sweep) (start interval)

/-- **A sweeper waits**: it has not ended, its sweeps are on time, and now is between the last one
and the next. It can be the time of the next one, if that has not started yet. -/
def Waits (interval : Nat) (sweep : Nat → Outcome Nat) (r : SweepRun) : Prop :=
  ∃ s, r.sweeper = some s ∧ OnTime interval sweep r s ∧ r.count * interval ≤ r.now ∧
    r.now ≤ s.next

/-- A loop that has just been started waits for its interval. -/
theorem waits_start (h : 0 < interval) (sweep : Nat → Outcome Nat) :
    Waits interval sweep (start interval) := by
  refine
    ⟨⟨interval, 0 + interval, h⟩, dif_pos h, ⟨rfl, ?_, rfl, rfl⟩, ?_, Nat.zero_le _⟩
  · show 0 + interval = (0 + 1) * interval
    omega
  · show 0 * interval ≤ 0
    omega

/-- A loop still waits for its interval after time has passed. -/
theorem Waits.wait (h : Waits interval sweep r) (duration : Nat) :
    Waits interval sweep (r.wait sweep duration) := by
  obtain ⟨s, hs, htime, hlast, hnext⟩ := h
  obtain ⟨htime', hnext', hlast'⟩ := htime.run (r.now + duration - 1)
  have hwait : r.wait sweep duration =
      { (s.run (SweepRun.sweepAt sweep) (r.now + duration - 1) r).1 with
        sweeper := some (s.run (SweepRun.sweepAt sweep) (r.now + duration - 1) r).2
        now := r.now + duration } := by
    unfold SweepRun.wait sweepUntil
    rw [hs]
  rw [hwait]
  refine ⟨_, rfl, ⟨htime'.interval_eq, htime'.next_eq, htime'.started_eq, htime'.outcomes_eq⟩,
    ?_, ?_⟩
  · exact Nat.le_trans hlast' (max_le (Nat.sub_le _ _) (Nat.le_trans hlast (Nat.le_add_right _ _)))
  · dsimp only
    omega

/-- What settles is at most one sweep, now. -/
theorem Waits.settle (h : Waits interval sweep r) :
    Waits interval sweep (r.settle sweep) ∧ (r.settle sweep).now = r.now ∧
      r.now < ((r.settle sweep).count + 1) * interval := by
  obtain ⟨s, hs, htime, hlast, hnext⟩ := h
  have hsettle : r.settle sweep =
      { (s.run (SweepRun.sweepAt sweep) r.now r).1 with
        sweeper := some (s.run (SweepRun.sweepAt sweep) r.now r).2 } := by
    unfold SweepRun.settle sweepUntil
    rw [hs]
  obtain ⟨htime', hnext', hlast'⟩ := htime.run r.now
  have hnow : (s.run (SweepRun.sweepAt sweep) r.now r).1.now = r.now := by
    rcases Nat.lt_or_ge r.now s.next with hlate | hdue
    · rw [Sweeper.run_of_lt _ _ hlate]
    · have hlate : r.now < s.tick.next := by
        have hpos := s.interval_pos
        rw [Sweeper.next_tick]
        omega
      rw [Sweeper.run_of_le _ _ hdue, Sweeper.run_of_lt _ _ hlate]
      exact Nat.le_antisymm hdue hnext
  rw [hsettle]
  refine ⟨⟨_, rfl,
    ⟨htime'.interval_eq, htime'.next_eq, htime'.started_eq, htime'.outcomes_eq⟩, ?_, ?_⟩,
    hnow, ?_⟩
  · dsimp only
    rw [hnow]
    exact Nat.le_trans hlast' (max_le (Nat.le_refl _) hlast)
  · dsimp only
    rw [hnow]
    exact Nat.le_of_lt hnext'
  · exact htime'.next_eq ▸ hnext'

/-- However the time is passed, the sweeper waits, by induction on the beats. -/
theorem Waits.beats (h : Waits interval sweep r) (beats : List Beat) :
    Waits interval sweep (beats.foldl (beat sweep) r) ∧
      (beats.foldl (beat sweep) r).now = r.now + elapsed beats := by
  induction beats generalizing r with
  | nil => exact ⟨h, rfl⟩
  | cons b rest ih =>
      have hbeat : Waits interval sweep (beat sweep r b) ∧
          (beat sweep r b).now = r.now + b.duration := by
        cases b with
        | wait duration => exact ⟨h.wait duration, rfl⟩
        | settle => exact ⟨h.settle.1, h.settle.2.1⟩
      obtain ⟨hwaits, hnow⟩ := ih hbeat.1
      refine ⟨hwaits, ?_⟩
      rw [List.foldl_cons, hnow, hbeat.2, elapsed, Nat.add_assoc]

/-- **A sweeper keeps its schedule** in the time that some beats take. -/
structure Keeps (interval : Nat) (sweep : Nat → Outcome Nat) (beats : List Beat) : Prop where
  /-- It has not ended. -/
  lasts : (after sweep interval beats).finished = false
  /-- As much time has passed as the beats take. -/
  now_eq : (after sweep interval beats).now = elapsed beats
  /-- Once all is done that is due, as many sweeps have started as intervals fit into that time. -/
  count_eq : ((after sweep interval beats).settle sweep).count = elapsed beats / interval
  /-- They have started at the multiples of the interval. -/
  started_eq : ((after sweep interval beats).settle sweep).started.reverse =
    (List.range (elapsed beats / interval)).map fun k => (k + 1) * interval
  /-- Each of them has ended as it does, be it in a panic. -/
  outcomes_eq : ((after sweep interval beats).settle sweep).outcomes.reverse =
    (List.range (elapsed beats / interval)).map sweep

/-- A loop with an interval keeps its schedule, through all that happens. -/
theorem keeps_of_pos (h : 0 < interval) (sweep : Nat → Outcome Nat) (beats : List Beat) :
    Keeps interval sweep beats := by
  obtain ⟨hwaits, hnow⟩ := (waits_start h sweep).beats beats
  have hnow : (after sweep interval beats).now = elapsed beats := hnow.trans (Nat.zero_add _)
  change Waits interval sweep (after sweep interval beats) at hwaits
  obtain ⟨⟨s', -, htime, hlast, -⟩, hsettled, hnext⟩ := hwaits.settle
  obtain ⟨s, hs, -⟩ := hwaits
  rw [hsettled, hnow] at hlast
  rw [hnow] at hnext
  have hcount : ((after sweep interval beats).settle sweep).count = elapsed beats / interval :=
    (Nat.div_eq_of_lt_le hlast hnext).symm
  refine ⟨?_, hnow, hcount, hcount ▸ htime.started_eq, hcount ▸ htime.outcomes_eq⟩
  unfold finished
  rw [hs]
  rfl

end SweepRun

/-! ## Durations -/

/-- **The durations of a configuration last** as long as they are meant to, or as long as a duration
can. -/
structure CacheConfig.Lasting (c : CacheConfig) : Prop where
  interval_eq : c.purgeIntervalSeconds = min (60 * c.purgeIntervalMinutes.toNat) (UInt64.size - 1)
  maxAge_eq : c.maxAgeSeconds = min (60 * c.maxAgeMinutes.toNat) (UInt64.size - 1)
  /-- More minutes never make a shorter interval. -/
  interval_mono : ∀ c' : CacheConfig, c.purgeIntervalMinutes ≤ c'.purgeIntervalMinutes →
    c.purgeIntervalSeconds ≤ c'.purgeIntervalSeconds
  /-- More minutes never make a lesser age. -/
  maxAge_mono : ∀ c' : CacheConfig, c.maxAgeMinutes ≤ c'.maxAgeMinutes →
    c.maxAgeSeconds ≤ c'.maxAgeSeconds
  /-- No duration has fewer seconds than minutes are asked for. -/
  not_shorter : c.purgeIntervalMinutes.toNat ≤ c.purgeIntervalSeconds ∧
    c.maxAgeMinutes.toNat ≤ c.maxAgeSeconds
  /-- Only no minutes are no time. -/
  zero_iff : (c.purgeIntervalSeconds = 0 ↔ c.purgeIntervalMinutes = 0) ∧
    (c.maxAgeSeconds = 0 ↔ c.maxAgeMinutes = 0)

/-- More minutes are no fewer seconds. -/
theorem secondsOfMinutes_mono {m m' : UInt64} (h : m ≤ m') :
    secondsOfMinutes m ≤ secondsOfMinutes m' := by
  have hle : m.toNat ≤ m'.toNat := UInt64.le_iff_toNat_le.1 h
  unfold secondsOfMinutes
  omega

/-- Minutes are at least as many seconds, also where they are cut off at the greatest duration. -/
theorem toNat_le_secondsOfMinutes (m : UInt64) : m.toNat ≤ secondsOfMinutes m := by
  have hbound : m.toNat < 18446744073709551616 := m.toNat_lt
  unfold secondsOfMinutes greatestSeconds
  omega

/-- Only no minutes at all are no seconds. -/
theorem secondsOfMinutes_eq_zero_iff {m : UInt64} : secondsOfMinutes m = 0 ↔ m = 0 := by
  have hzero : m = 0 ↔ m.toNat = 0 := by rw [← UInt64.toNat_inj, UInt64.toNat_zero]
  rw [hzero]
  unfold secondsOfMinutes greatestSeconds
  omega

/-- Every configuration has durations that last as they should. -/
theorem CacheConfig.lasting (c : CacheConfig) : c.Lasting where
  interval_eq := rfl
  maxAge_eq := rfl
  interval_mono _ h := secondsOfMinutes_mono h
  maxAge_mono _ h := secondsOfMinutes_mono h
  not_shorter := ⟨toNat_le_secondsOfMinutes _, toNat_le_secondsOfMinutes _⟩
  zero_iff := ⟨secondsOfMinutes_eq_zero_iff, secondsOfMinutes_eq_zero_iff⟩

/-! ## The sweeper of a service -/

namespace State

/-- Starts the sweeper that a configuration asks for; whether it ended at once. -/
def startSweeping (s : State) (c : CacheConfig) : Bool × State :=
  s.startPurge (c.purgeIntervalSeconds * 1000) (c.maxAgeSeconds * 1000)

/-- **What becomes of the sweeper** that a configuration asks for. -/
structure Sweeps (s : State) (c : CacheConfig) : Prop where
  /-- It ends at once iff there is no interval. -/
  ended_iff : (s.startSweeping c).1 = true ↔ c.purgeIntervalMinutes = 0
  /-- Then nothing has been swept, and nothing ever will be. -/
  idle : c.purgeIntervalMinutes = 0 → (s.startSweeping c).2 = s
  /-- Otherwise it takes out what is too old after every pause, and the pause is the interval if a
  clock can show it. -/
  works : c.purgeIntervalMinutes ≠ 0 →
    ∃ p ∈ (s.startSweeping c).2.purgeTasks, p.maxAge = c.maxAgeSeconds * 1000 ∧
    (c.purgeIntervalSeconds * 1000 < Sweeper.clockRange →
      p.sweeper.interval = c.purgeIntervalSeconds * 1000) ∧
    ∀ t, p.sweeper.dueTimes t =
      (List.range ((t - s.now) / p.sweeper.interval)).map fun k =>
        s.now + (k + 1) * p.sweeper.interval

/-- Without an interval no sweeper is started. -/
theorem startPurge_zero (s : State) (maxAge : Nat) : s.startPurge 0 maxAge = (true, s) := rfl

/-- With an interval a sweeper is started. -/
theorem startPurge_of_pos {interval : Nat} (h : 0 < interval) (s : State) (maxAge : Nat) :
    (s.startPurge interval maxAge).1 = false := by
  unfold startPurge Sweeper.start?
  rw [dif_pos (Sweeper.pause_pos h)]

/-- Every service sweeps as it is configured. -/
theorem sweeps (s : State) (c : CacheConfig) : s.Sweeps c := by
  have hinterval : c.purgeIntervalSeconds * 1000 = 0 ↔ c.purgeIntervalMinutes = 0 := by
    rw [← c.lasting.zero_iff.1]
    omega
  constructor
  case ended_iff =>
    rw [← hinterval]
    unfold startSweeping
    rcases Nat.eq_zero_or_pos (c.purgeIntervalSeconds * 1000) with hzero | hpos
    · rw [hzero, startPurge_zero]
      exact iff_of_true rfl rfl
    · rw [startPurge_of_pos hpos]
      exact iff_of_false Bool.false_ne_true (by omega)
  case idle =>
    intro hzero
    unfold startSweeping
    rw [hinterval.2 hzero, startPurge_zero]
  case works =>
    intro hminutes
    have hpos : 0 < c.purgeIntervalSeconds * 1000 := Nat.pos_of_ne_zero (mt hinterval.1 hminutes)
    obtain ⟨p, hschedule, hmaxAge, hpause⟩ :=
      onSchedule_startPurge hpos s (c.maxAgeSeconds * 1000)
    refine ⟨p, hschedule.mem, hmaxAge, fun hshown => ?_, fun t => ?_⟩
    · rw [hpause, Sweeper.pause, if_pos hshown]
    · have hfirst : p.sweeper.next = s.now + p.sweeper.interval := by
        rw [hschedule.next_eq, Nat.zero_add, Nat.one_mul]
      have hcount : p.sweeper.dueCount t = (t - s.now) / p.sweeper.interval := by
        rw [Sweeper.dueCount, hfirst, Nat.add_sub_add_right]
      rw [Sweeper.dueTimes_eq, hcount]
      refine List.map_congr_left fun k _ => ?_
      rw [hfirst, Nat.succ_mul]
      omega

end State

/-- **Purges keep their schedule.** A sweeper with an interval sweeps at its multiples for ever,
whatever its sweeps end in; durations are as long as they are meant to be; and the sweeper of a
configuration ends at once iff there is no interval. -/
theorem purges_on_schedule :
    (∀ interval, 0 < interval → ∀ (sweep : Nat → Outcome Nat) (beats : List SweepRun.Beat),
      SweepRun.Keeps interval sweep beats) ∧
    (∀ c : CacheConfig, c.Lasting) ∧ ∀ (s : State) (c : CacheConfig), s.Sweeps c :=
  ⟨fun _ h sweep beats => SweepRun.keeps_of_pos h sweep beats, CacheConfig.lasting,
    State.sweeps⟩

/-- A sweeper whose first sweep panics. -/
def poisonedSweep (k : Nat) : Outcome Nat :=
  if k = 0 then .panicked (.text "cache lock poisoned") else .returned 0

/-- Its second sweep starts in time, after a pause that ends with the first. -/
theorem purges_on_schedule_poisoned :
    0 < 30 ∧ (SweepRun.after poisonedSweep 30 [.wait 30, .wait 31]).finished = false ∧
      ((SweepRun.after poisonedSweep 30 [.wait 30, .wait 31]).settle poisonedSweep).started =
        [60, 30] := by
  have hkeeps := purges_on_schedule.1 30 (by decide) poisonedSweep [.wait 30, .wait 31]
  exact ⟨by decide, hkeeps.lasts, List.reverse_eq_iff.1 hkeeps.started_eq⟩

end Switchboard

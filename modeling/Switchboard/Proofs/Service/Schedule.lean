import Mathlib.Data.List.Range
import Switchboard.Service.Sweep

/-!
# The schedule of a sweeper

A sweeper that will sweep at `next` sweeps then and after every interval, and never at another time.

* `Sweeper.dueCount`: how many sweeps fall due until a time; `lt_dueCount_iff` says which.
* **`Sweeper.dueTimes_eq`**, **`Sweeper.next_advance`**: the due times, and the next one, in closed
  form.
* `Sweeper.mem_dueTimes_iff`, `Sweeper.lt_next_advance`, `Sweeper.next_advance_le`: the same for
  use.
-/

namespace Switchboard.Sweeper

/-- How many sweeps fall due until the time `t`. -/
def dueCount (s : Sweeper) (t : Nat) : Nat := (t + s.interval - s.next) / s.interval

variable {s : Sweeper} {t : Nat}

/-- A sweep leaves the interval. -/
@[simp] theorem interval_tick (s : Sweeper) : s.tick.interval = s.interval := rfl

/-- After a sweep the next one falls due an interval later. -/
@[simp] theorem next_tick (s : Sweeper) : s.tick.next = s.next + s.interval := rfl

/-- The sweep with the number `k`, counted from zero, falls due until `t` iff its time is not later.
-/
theorem lt_dueCount_iff {k : Nat} : k < s.dueCount t ↔ s.next + k * s.interval ≤ t := by
  have hpos := s.interval_pos
  rw [dueCount, ← Nat.succ_le_iff, Nat.le_div_iff_mul_le hpos, Nat.succ_mul]
  omega

/-- Before the next sweep none falls due. -/
theorem dueCount_of_lt (h : t < s.next) : s.dueCount t = 0 := by
  have hnone : ¬ 0 < s.dueCount t := by
    rw [lt_dueCount_iff]
    omega
  omega

/-- Once the next sweep falls due, it and those after it do. -/
theorem dueCount_of_le (h : s.next ≤ t) : s.dueCount t = s.tick.dueCount t + 1 := by
  have hfirst : t + s.interval - s.next = (t - s.next) + s.interval := by omega
  have hrest : t + s.interval - (s.next + s.interval) = t - s.next := by omega
  rw [dueCount, dueCount, interval_tick, next_tick, hfirst, hrest,
    Nat.add_div_right _ s.interval_pos]

/-! ## Running a sweeper -/

section run

variable {α : Type} (sweep : α → Nat → α) (a : α)

/-- Before the next sweep nothing is done. -/
theorem run_of_lt (h : t < s.next) : s.run sweep t a = (a, s) := by
  rw [run, if_neg (by omega)]

/-- Once the next sweep falls due, it is made and then those after it. -/
theorem run_of_le (h : s.next ≤ t) : s.run sweep t a = s.tick.run sweep t (sweep a s.next) := by
  rw [run, if_pos h]

end run

/-- Induction on the sweeps that fall due until a time. -/
theorem due_induction {P : Sweeper → Prop} (t : Nat) (rest : ∀ s : Sweeper, t < s.next → P s)
    (due : ∀ s : Sweeper, s.next ≤ t → P s.tick → P s) (s : Sweeper) : P s := by
  induction hn : s.dueCount t generalizing s with
  | zero =>
      apply rest
      have hnone : ¬ 0 < s.dueCount t := by omega
      rw [lt_dueCount_iff] at hnone
      omega
  | succ n ih =>
      have hfirst : 0 < s.dueCount t := by omega
      rw [lt_dueCount_iff] at hfirst
      have hle : s.next ≤ t := by omega
      apply due s hle
      apply ih
      have hcount := dueCount_of_le hle
      omega

/-- The times at which a sweeper sweeps are gathered in front of those that are there. -/
theorem run_gather (s : Sweeper) (t : Nat) (times : List Nat) :
    (s.run (fun times time => time :: times) t times).1 =
      ((List.range (s.dueCount t)).map fun k => s.next + k * s.interval).reverse ++ times := by
  induction s using due_induction t generalizing times with
  | rest s h =>
      rw [run_of_lt _ _ h, dueCount_of_lt h]
      rfl
  | due s h ih =>
      have htimes : ((List.range (s.tick.dueCount t + 1)).map fun k => s.next + k * s.interval) =
          s.next :: (List.range (s.tick.dueCount t)).map fun k =>
            s.tick.next + k * s.tick.interval := by
        rw [List.range_succ_eq_map, List.map_cons, List.map_map, Nat.zero_mul, Nat.add_zero]
        congr 1
        refine List.map_congr_left fun k _ => ?_
        show s.next + (k + 1) * s.interval = s.next + s.interval + k * s.interval
        rw [Nat.succ_mul]
        omega
      rw [run_of_le _ _ h, ih, dueCount_of_le h, htimes, List.reverse_cons, List.append_assoc]
      rfl

/-- **The due times**: the next one, and then one after each interval. -/
theorem dueTimes_eq (s : Sweeper) (t : Nat) :
    s.dueTimes t = (List.range (s.dueCount t)).map fun k => s.next + k * s.interval := by
  rw [dueTimes, run_gather, List.append_nil, List.reverse_reverse]

/-- A time until `t` is a due time iff it is a number of intervals after the next sweep. -/
theorem mem_dueTimes_iff {time : Nat} :
    time ∈ s.dueTimes t ↔ time ≤ t ∧ ∃ k, time = s.next + k * s.interval := by
  rw [dueTimes_eq, List.mem_map]
  constructor
  · rintro ⟨k, hk, rfl⟩
    exact ⟨lt_dueCount_iff.1 (List.mem_range.1 hk), k, rfl⟩
  · rintro ⟨hle, k, rfl⟩
    exact ⟨k, List.mem_range.2 (lt_dueCount_iff.2 hle), rfl⟩

/-- Before the next sweep there is no due time. -/
theorem dueTimes_of_lt (h : t < s.next) : s.dueTimes t = [] := by
  rw [dueTimes_eq, dueCount_of_lt h]
  rfl

/-- Before the next sweep the sweeper stays as it is. -/
theorem advance_of_lt (h : t < s.next) : s.advance t = s := by
  rw [advance, run_of_lt _ _ h]

/-- Once the next sweep falls due, the sweeper goes on from it. -/
theorem advance_of_le (h : s.next ≤ t) : s.advance t = s.tick.advance t := by
  rw [advance, run_of_le _ _ h]
  rfl

/-! ## The next sweep -/

/-- The interval stays the same. -/
@[simp] theorem interval_advance (s : Sweeper) (t : Nat) : (s.advance t).interval = s.interval := by
  induction s using due_induction t with
  | rest s h => rw [advance_of_lt h]
  | due s h ih =>
      rw [advance_of_le h, ih]
      rfl

/-- **The next sweep** comes one interval after the last of those that were due. -/
theorem next_advance (s : Sweeper) (t : Nat) :
    (s.advance t).next = s.next + s.dueCount t * s.interval := by
  induction s using due_induction t with
  | rest s h =>
      rw [advance_of_lt h, dueCount_of_lt h]
      omega
  | due s h ih =>
      rw [advance_of_le h, ih, dueCount_of_le h, next_tick, interval_tick, Nat.succ_mul]
      omega

/-- What falls due until `t` has been done, so that the next sweep is later. -/
theorem lt_next_advance (s : Sweeper) (t : Nat) : t < (s.advance t).next := by
  have hcount : ¬ s.dueCount t < s.dueCount t := Nat.lt_irrefl _
  rw [lt_dueCount_iff] at hcount
  rw [next_advance]
  omega

/-- The next sweep is never more than an interval away, unless it was before. -/
theorem next_advance_le (h : s.next ≤ t + s.interval) :
    (s.advance t).next ≤ t + s.interval := by
  rw [next_advance]
  cases hcount : s.dueCount t with
  | zero => omega
  | succ n =>
      have hlast : n < s.dueCount t := by omega
      rw [lt_dueCount_iff] at hlast
      rw [Nat.succ_mul]
      omega

/-- What falls due later does not depend on when one looks. -/
theorem mem_dueTimes_advance_iff {time t' : Nat} :
    time ∈ (s.advance t).dueTimes t' ↔ time ∈ s.dueTimes t' ∧ t < time := by
  rw [mem_dueTimes_iff, mem_dueTimes_iff, next_advance, interval_advance]
  constructor
  · rintro ⟨hle, k, rfl⟩
    have hlate : ¬ s.dueCount t + k < s.dueCount t := by omega
    rw [lt_dueCount_iff, Nat.add_mul] at hlate
    refine ⟨⟨hle, s.dueCount t + k, ?_⟩, by omega⟩
    rw [Nat.add_mul]
    omega
  · rintro ⟨⟨hle, k, rfl⟩, hlate⟩
    have hcount : ¬ k < s.dueCount t := by
      rw [lt_dueCount_iff]
      omega
    obtain ⟨j, rfl⟩ := Nat.exists_eq_add_of_le (Nat.le_of_not_lt hcount)
    refine ⟨hle, j, ?_⟩
    rw [Nat.add_mul]
    omega

/-- A sweeper pauses for no longer than it is asked to. -/
theorem pause_le (interval : Nat) : pause interval ≤ interval := by
  unfold pause clockRange
  split <;> omega

/-- A sweeper with an interval pauses. -/
theorem pause_pos {interval : Nat} (h : 0 < interval) : 0 < pause interval := by
  unfold pause
  split <;> omega

end Switchboard.Sweeper

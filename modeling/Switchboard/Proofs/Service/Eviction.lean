import Switchboard.Proofs.Service.Entries
import Switchboard.Proofs.Service.Schedule

/-!
# How old entries get

A sweeper looks at all caches again and again. Between two of its sweeps an entry gets older by less
than an interval, so none is ever much older than what the sweeper lets pass.

* `SweepsOut`: what a sweep takes out and what it counts, in any state (`sweepsOut`).
* `sweepsMade`: the sweeps of a run with the services that they find. What has been counted as
  purged by the end of a run is what they have counted (`purged_after`).
* `Bounded`: no entry is older than a sweep has left it and the time since then (`bounded_after`).
* `OnSchedule`: a sweeper has made its first sweeps and waits for the next one (`onSchedule_after`).
* **`evicts_run`**: from the moment at which a sweeper is started it sweeps at every multiple of its
  interval, and one interval later there is no entry that is older than the greatest age and an
  interval.

No request needs to be looked at for this: `change_perform` says that entries come in new.
-/

namespace Switchboard

/-! ## What one sweep takes out -/

namespace FunctionCache

/-- The keys of the entries that are too old. -/
def expired (c : FunctionCache) (now maxAge : Nat) : List CacheKey :=
  (c.entries.filter fun _ e => maxAge < e.age now).keys

variable {c : FunctionCache} {now maxAge : Nat} {key : CacheKey}

/-- The keys that have expired are those of the entries that are too old. -/
theorem mem_expired_iff :
    key ∈ c.expired now maxAge ↔ ∃ e, c.entries.get? key = some e ∧ maxAge < e.age now := by
  simp only [expired, Table.mem_keys_iff, Table.get?_filter, Option.filter_eq_some_iff,
    decide_eq_true_eq]

/-- As many entries are counted as there are too old ones. -/
theorem purge_fst (c : FunctionCache) (now maxAge : Nat) :
    (c.purge now maxAge).1 = (c.expired now maxAge).length := by
  have hsplit := List.length_eq_length_filter_add (l := c.entries.entries) fun b =>
    decide (b.2.age now ≤ maxAge)
  have hold : (c.expired now maxAge).length =
      (c.entries.entries.filter fun b => !decide (b.2.age now ≤ maxAge)).length := by
    rw [expired, Table.keys, List.length_map]
    refine congrArg List.length (List.filter_congr fun b _ => ?_)
    rw [← decide_not]
    exact decide_eq_decide.2 Nat.not_le.symm
  show c.entries.entries.length - (c.entries.entries.filter fun b =>
    decide (b.2.age now ≤ maxAge)).length = _
  omega

end FunctionCache

/-- Where an application has entries that are too old: its path, the cache and the key. -/
def Mount.expired (m : Mount) (now maxAge : Nat) : List (String × CacheKind × CacheKey) :=
  [CacheKind.toolCall, CacheKind.function].flatMap fun kind =>
    ((m.caches.of kind).expired now maxAge).map fun key => (m.path, kind, key)

namespace Mount

variable {m : Mount} {now maxAge : Nat}

/-- What has expired in an application are the entries of both caches that are too old. -/
theorem mem_expired_iff {path : String} {kind : CacheKind} {key : CacheKey} :
    (path, kind, key) ∈ m.expired now maxAge ↔ path = m.path ∧
      ∃ e, (m.caches.of kind).entries.get? key = some e ∧ maxAge < e.age now := by
  unfold expired
  simp only [List.mem_flatMap, List.mem_map, Prod.mk.injEq]
  constructor
  · rintro ⟨kind, -, key, hkey, rfl, rfl, rfl⟩
    exact ⟨rfl, FunctionCache.mem_expired_iff.1 hkey⟩
  · rintro ⟨rfl, hold⟩
    refine ⟨kind, ?_, key, FunctionCache.mem_expired_iff.2 hold, rfl, rfl, rfl⟩
    cases kind <;> simp

/-- Nothing expires twice in an application. -/
theorem nodup_expired (m : Mount) (now maxAge : Nat) : (m.expired now maxAge).Nodup := by
  refine List.nodup_flatMap.2 ⟨fun kind _ => ?_, ?_⟩
  · refine (Table.nodup_keys _).map fun a b hab => ?_
    exact (Prod.mk.inj (Prod.mk.inj hab).2).2
  · have hdiffer : CacheKind.toolCall ≠ CacheKind.function := CacheKind.noConfusion
    refine List.Pairwise.imp (fun {kind kind'} hne place hkind hkind' => hne ?_)
      (List.pairwise_pair.2 hdiffer)
    obtain ⟨_, -, rfl⟩ := List.mem_map.1 hkind
    obtain ⟨_, -, heq⟩ := List.mem_map.1 hkind'
    exact (Prod.mk.inj (Prod.mk.inj heq).2).1.symm

/-- As many entries are counted as there are too old ones. -/
theorem purge_fst (m : Mount) (now maxAge : Nat) :
    (m.caches.purge now maxAge).1 = (m.expired now maxAge).length := by
  have hboth : (m.caches.purge now maxAge).1 =
      (m.caches.tools.purge now maxAge).1 + (m.caches.functions.purge now maxAge).1 := rfl
  unfold expired
  rw [hboth, FunctionCache.purge_fst, FunctionCache.purge_fst, List.flatMap_cons, List.flatMap_cons,
    List.flatMap_nil, List.append_nil, List.length_append, List.length_map, List.length_map]
  rfl

end Mount

/-- A sweeper at the time `t`, after the sweeps that have fallen due. -/
def PurgeTask.advance (p : PurgeTask) (t : Nat) : PurgeTask :=
  { p with sweeper := p.sweeper.advance t }

namespace State

variable {s : State} {clock : Nat → String} {step : Step} {steps : List Step} {path : String}
  {kind : CacheKind} {key : CacheKey} {e : Entry} {maxAge : Nat}

/-- Where there are entries that are too old. -/
def expired (s : State) (maxAge : Nat) : List (String × CacheKind × CacheKey) :=
  s.mounts.flatMap fun m => m.expired s.now maxAge

/-- What has expired in a service are the entries of all applications that are too old. -/
theorem mem_expired_iff (hs : (s.mounts.map Mount.path).Nodup) :
    (path, kind, key) ∈ s.expired maxAge ↔
      ∃ e, s.lookup? path kind key = some e ∧ maxAge < e.age s.now := by
  rw [expired, List.mem_flatMap]
  constructor
  · rintro ⟨m, hm, hplace⟩
    obtain ⟨rfl, hold⟩ := Mount.mem_expired_iff.1 hplace
    rw [lookup?_of_mem hs hm]
    exact hold
  · rintro ⟨e, he, hage⟩
    obtain ⟨cs, hcs, hget⟩ := Option.bind_eq_some_iff.1 he
    obtain ⟨m, hm, rfl⟩ := Option.map_eq_some_iff.1 hcs
    have hpath : m.path = path := by simpa using List.find?_some hm
    exact ⟨m, List.mem_of_find?_eq_some hm,
      Mount.mem_expired_iff.2 ⟨hpath.symm, e, hget, hage⟩⟩

/-- No place is listed twice. -/
theorem nodup_expired (hs : (s.mounts.map Mount.path).Nodup) (maxAge : Nat) :
    (s.expired maxAge).Nodup := by
  refine List.nodup_flatMap.2 ⟨fun m _ => m.nodup_expired s.now maxAge, ?_⟩
  refine (List.pairwise_map.1 hs).imp fun {m m'} hne place hm hm' => hne ?_
  have hpath := (Mount.mem_expired_iff.1 hm).1
  have hpath' := (Mount.mem_expired_iff.1 hm').1
  exact hpath.symm.trans hpath'

/-- What a sweep counts is what has expired, application by application. -/
theorem purgeMounts_fst (now maxAge : Nat) (ms : List Mount) :
    (purgeMounts now maxAge ms).1 = (ms.flatMap fun m => m.expired now maxAge).length := by
  induction ms with
  | nil => rfl
  | cons m rest ih =>
      rw [List.flatMap_cons, List.length_append, ← ih, ← Mount.purge_fst]
      rfl

/-- **What a sweep does** that takes out what is older than `maxAge`. -/
structure SweepsOut (s : State) (maxAge : Nat) : Prop where
  /-- What is there afterwards is what was there and is not too old, unaltered. -/
  kept : ∀ path kind key e, (s.purgeAll maxAge).2.lookup? path kind key = some e ↔
    s.lookup? path kind key = some e ∧ e.age s.now ≤ maxAge
  /-- The sweep counts the places where an entry has left, each once. -/
  counted : ∃ places : List (String × CacheKind × CacheKey), places.Nodup ∧
    (∀ path kind key, (path, kind, key) ∈ places ↔
      (s.lookup? path kind key).isSome = true ∧
      (s.purgeAll maxAge).2.lookup? path kind key = none) ∧
    (s.purgeAll maxAge).1 = places.length
  /-- And so many more are counted as purged. -/
  metered : (s.purgeAll maxAge).2.metrics.purged = s.metrics.purged + (s.purgeAll maxAge).1

/-- A sweep takes out the entries that are too old and no others, and counts them. -/
theorem sweepsOut (hs : (s.mounts.map Mount.path).Nodup) (maxAge : Nat) : s.SweepsOut maxAge := by
  refine ⟨fun path kind key e => ?_,
    ⟨s.expired maxAge, nodup_expired hs maxAge, fun path kind key => ?_, ?_⟩, rfl⟩
  · rw [lookup?_purgeAll, Option.filter_eq_some_iff, decide_eq_true_eq]
  · rw [mem_expired_iff hs, lookup?_purgeAll]
    cases s.lookup? path kind key with
    | none => simp
    | some e => simp [Option.filter_some]
  · exact purgeMounts_fst s.now maxAge s.mounts

/-! ## The sweeps of a run -/

/-- Sweeps, one after the other: the service that each finds at its time, and beyond what age it
sweeps. -/
def sweepsFrom (s : State) : List (Nat × Nat) → List (State × Nat)
  | [] => []
  | sweep :: rest => ({ s with now := sweep.1 }, sweep.2) :: (s.sweepAt sweep).sweepsFrom rest

/-- The sweeps of a run: the service that each finds at its time, and beyond what age it sweeps. -/
def sweepsMade (clock : Nat → String) : State → List Step → List (State × Nat)
  | _, [] => []
  | s, step :: rest =>
    s.sweepsFrom (s.sweepsOf step) ++ (s.perform clock step).sweepsMade clock rest

/-- A sweep that is made is one of those given, and finds the applications that there are. -/
theorem of_mem_sweepsFrom {sweeps : List (Nat × Nat)} {found : State} {age : Nat}
    (h : (found, age) ∈ s.sweepsFrom sweeps) :
    (found.now, age) ∈ sweeps ∧ found.applications = s.applications := by
  induction sweeps generalizing s with
  | nil => cases h
  | cons sweep rest ih =>
      rcases List.mem_cons.1 h with heq | hrest
      · cases heq
        exact ⟨List.mem_cons_self, rfl⟩
      · obtain ⟨hmem, happlications⟩ := ih hrest
        exact ⟨List.mem_cons_of_mem _ hmem, happlications.trans (applications_purgeAll _ _)⟩

/-- Every sweep given is made, at its time. -/
theorem exists_mem_sweepsFrom {sweeps : List (Nat × Nat)} {sweep : Nat × Nat} (s : State)
    (h : sweep ∈ sweeps) :
    ∃ found, (found, sweep.2) ∈ s.sweepsFrom sweeps ∧ found.now = sweep.1 := by
  induction sweeps generalizing s with
  | nil => cases h
  | cons first rest ih =>
      rcases List.mem_cons.1 h with rfl | hrest
      · exact ⟨_, List.mem_cons_self, rfl⟩
      · obtain ⟨found, hmem, hnow⟩ := ih (s.sweepAt first) hrest
        exact ⟨found, List.mem_cons_of_mem _ hmem, hnow⟩

/-- Every sweep of a run does what a sweep does. -/
theorem sweepsOut_of_mem (hs : (s.mounts.map Mount.path).Nodup) {found : State} {age : Nat}
    (h : (found, age) ∈ s.sweepsMade clock steps) : found.SweepsOut age := by
  induction steps generalizing s with
  | nil => cases h
  | cons step rest ih =>
      rcases List.mem_append.1 h with hfirst | hrest
      · apply sweepsOut
        rwa [paths_eq, (of_mem_sweepsFrom hfirst).2, ← paths_eq]
      · exact ih (paths_nodup_perform hs clock step) hrest

/-! ## What has been counted as purged -/

/-- How many entries sweeps have taken out. -/
def purgedBy : List (State × Nat) → Nat
  | [] => 0
  | (found, maxAge) :: rest => (found.purgeAll maxAge).1 + purgedBy rest

/-- Sweeps one after the other purge what the first ones purge and what the others do. -/
theorem purgedBy_append (as bs : List (State × Nat)) :
    purgedBy (as ++ bs) = purgedBy as + purgedBy bs := by
  induction as with
  | nil => exact (Nat.zero_add _).symm
  | cons sweep rest ih =>
      rw [List.cons_append, purgedBy, purgedBy, ih, Nat.add_assoc]

/-- Invocations are not counted as purged entries. -/
theorem purged_observeInvocations (m : Metrics) (kind : CacheKind) (successes : List Bool) :
    (m.observeInvocations kind successes).purged = m.purged := by
  induction successes generalizing m with
  | nil => rfl
  | cons success rest ih => exact ih (m.observeInvocation kind success)

/-- The conclusion of a message counts no purged entry. -/
theorem purged_conclude (production : Bool) (app : Application) (m : Metrics) (t : RequestType)
    (ending : Ending) : (conclude production app m t ending).2.1.purged = m.purged := by
  cases ending with
  | answered answer => rfl
  | unwound p => rfl
  | refused e =>
      unfold conclude
      dsimp only
      cases e.render production <;> rfl

/-- A request does not count as purged what it takes out. -/
theorem purged_serve (clock : Nat → String) (s : State) (r : Request) :
    (s.serve clock r).2.metrics.purged = s.metrics.purged := by
  rcases serve_cases clock s r with h | ⟨h, -⟩ | ⟨m, -, -, h⟩
  · rw [h]
  · rw [h]
    rfl
  · rw [h]
    show (handle s.settings.production s.now m.application
      m.caches s.metrics r.body).metrics.purged = _
    unfold handle
    cases Json.ofBytes r.body with
    | error e => rfl
    | ok payload => exact (purged_conclude _ _ _ _ _).trans (purged_observeInvocations _ _ _)

/-- Sweeps count what they purge. -/
theorem purged_sweeps (s : State) (sweeps : List (Nat × Nat)) :
    (sweeps.foldl sweepAt s).metrics.purged =
      s.metrics.purged + purgedBy (s.sweepsFrom sweeps) := by
  induction sweeps generalizing s with
  | nil => rfl
  | cons sweep rest ih =>
      have hfirst : (s.sweepAt sweep).metrics.purged =
          s.metrics.purged + (({ s with now := sweep.1 } : State).purgeAll sweep.2).1 := rfl
      have hsum : purgedBy (s.sweepsFrom (sweep :: rest)) =
          (({ s with now := sweep.1 } : State).purgeAll sweep.2).1 +
            purgedBy ((s.sweepAt sweep).sweepsFrom rest) := rfl
      rw [List.foldl_cons, ih, hfirst, hsum, Nat.add_assoc]

/-- The worker counts nothing. -/
theorem metrics_workerSteps (n : Nat) (s : State) : (workerSteps n s).metrics = s.metrics := by
  induction n generalizing s with
  | zero => rfl
  | succ n ih =>
      have hstep : s.workerStep.metrics = s.metrics := by
        unfold workerStep
        obtain ⟨event, queue⟩ := s.queue.step
        cases event <;> rfl
      exact (ih s.workerStep).trans hstep

/-- A step counts as purged what its sweeps take out. -/
theorem purged_perform (clock : Nat → String) (s : State) (step : Step) :
    (s.perform clock step).metrics.purged =
      s.metrics.purged + purgedBy (s.sweepsFrom (s.sweepsOf step)) := by
  cases step with
  | request r => exact purged_serve clock s r
  | wait duration => exact purged_sweeps s (s.dueSweeps (s.now + duration))
  | sweep maxAge => exact purged_sweeps s [(s.now, maxAge)]
  | startSweeper interval maxAge =>
      exact congrArg Metrics.purged (startPurge_frame s interval maxAge).2.2.2
  | clear => rfl
  | settle => exact congrArg Metrics.purged (metrics_workerSteps s.queue.events.length s)

/-- A run has counted as purged what its sweeps have taken out. -/
theorem purged_after (clock : Nat → String) (s : State) (steps : List Step) :
    (s.after clock steps).metrics.purged =
      s.metrics.purged + purgedBy (s.sweepsMade clock steps) := by
  induction steps generalizing s with
  | nil => rfl
  | cons step rest ih =>
      have hrest : (s.after clock (step :: rest)).metrics.purged = _ := ih (s.perform clock step)
      rw [hrest, purged_perform, sweepsMade, purgedBy_append, Nat.add_assoc]

/-! ## How old entries are after a sweep -/

/-- How long a step takes. -/
def Step.duration : Step → Nat
  | wait duration => duration
  | _ => 0

/-- A step takes as long as it lasts. -/
theorem now_perform (clock : Nat → String) (s : State) (step : Step) :
    (s.perform clock step).now = s.now + step.duration := by
  cases step with
  | request r =>
      show (s.serve clock r).2.now = s.now
      rcases serve_cases clock s r with h | ⟨h, -⟩ | ⟨m, -, -, h⟩ <;> rw [h] <;> rfl
  | wait duration => rfl
  | sweep maxAge => rfl
  | startSweeper interval maxAge => exact (startPurge_frame s interval maxAge).2.2.1
  | clear => rfl
  | settle => exact (settle_frame s).2.2.1

/-- The sweeps that fall due until the time `t` are those of the sweepers. -/
theorem mem_dueSweeps_iff {t : Nat} {sweep : Nat × Nat} :
    sweep ∈ s.dueSweeps t ↔ ∃ p ∈ s.purgeTasks, sweep.1 ∈ p.sweeper.dueTimes t ∧
      p.maxAge = sweep.2 := by
  unfold dueSweeps
  simp only [List.mem_mergeSort, List.mem_flatMap, List.mem_map]
  constructor
  · rintro ⟨p, hp, due, hdue, rfl⟩
    exact ⟨p, hp, hdue, rfl⟩
  · rintro ⟨p, hp, hdue, hage⟩
    exact ⟨p, hp, sweep.1, hdue, by rw [hage]⟩

/-- **No entry is older** than `age` and the time that has passed since `time`. -/
structure Bounded (time age : Nat) (s : State) : Prop where
  passed : time ≤ s.now
  young : ∀ path kind key e, s.lookup? path kind key = some e → time ≤ e.created + age

/-- What is there after a step has been there before or is new. -/
theorem created_perform (hs : (s.mounts.map Mount.path).Nodup)
    (he : (s.perform clock step).lookup? path kind key = some e) :
    (∃ old, s.lookup? path kind key = some old ∧ e.created = old.created) ∨
      e.created = s.now := by
  rcases change_perform hs clock path kind key step with
    h | ⟨_, hgone, _⟩ | ⟨_, he', hcreated, _⟩ | ⟨hold, he', hextends, _⟩
  · exact .inl ⟨e, h ▸ he, rfl⟩
  · rw [hgone] at he
    cases he
  · obtain rfl := Option.some.inj (he'.symm.trans he)
    exact .inr hcreated
  · obtain rfl := Option.some.inj (he'.symm.trans he)
    exact .inl ⟨_, hold, hextends.created⟩

/-- Entries that have been bounded by a sweep stay so: those that are made later are younger. -/
theorem Bounded.perform {time age : Nat} (h : s.Bounded time age)
    (hs : (s.mounts.map Mount.path).Nodup) (clock : Nat → String) (step : Step) :
    (s.perform clock step).Bounded time age := by
  have hpassed := h.passed
  constructor
  · rw [now_perform]
    omega
  · intro path kind key e he
    rcases created_perform hs he with ⟨old, hold, hcreated⟩ | hcreated
    · rw [hcreated]
      exact h.young path kind key old hold
    · omega

/-- Entries that have been bounded by a sweep stay so during a run. -/
theorem Bounded.after {time age : Nat} (h : s.Bounded time age)
    (hs : (s.mounts.map Mount.path).Nodup) (clock : Nat → String) (steps : List Step) :
    (s.after clock steps).Bounded time age := by
  induction steps generalizing s with
  | nil => exact h
  | cons step rest ih => exact ih (h.perform hs clock step) (paths_nodup_perform hs clock step)

/-- The sweeps of a step leave no entry that is too old for them. -/
theorem bounded_of_sweepsOf {sweep : Nat × Nat} (h : sweep ∈ s.sweepsOf step)
    (clock : Nat → String) :
    (s.perform clock step).Bounded sweep.1 sweep.2 := by
  cases step with
  | wait duration =>
      obtain ⟨p, -, hdue, -⟩ := mem_dueSweeps_iff.1 h
      constructor
      · exact (Sweeper.mem_dueTimes_iff.1 hdue).1
      · intro path kind key e he
        change (s.wait duration).lookup? path kind key = some e at he
        rw [lookup?_wait] at he
        have hyoung := List.all_eq_true.1 (Option.filter_eq_some_iff.1 he).2 sweep h
        have hage : sweep.1 - e.created ≤ sweep.2 := of_decide_eq_true hyoung
        omega
  | sweep maxAge =>
      obtain rfl := List.mem_singleton.1 h
      constructor
      · exact Nat.le_refl s.now
      · intro path kind key e he
        change (s.purgeAll maxAge).2.lookup? path kind key = some e at he
        rw [lookup?_purgeAll] at he
        have hage : s.now - e.created ≤ maxAge :=
          of_decide_eq_true (Option.filter_eq_some_iff.1 he).2
        show s.now ≤ e.created + maxAge
        omega
  | request r => cases h
  | startSweeper interval maxAge => cases h
  | clear => cases h
  | settle => cases h

/-- **After a sweep** no entry is older than the sweep has left it and the time since then. -/
theorem bounded_after (hs : (s.mounts.map Mount.path).Nodup) {found : State} {age : Nat}
    (h : (found, age) ∈ s.sweepsMade clock steps) :
    (s.after clock steps).Bounded found.now age := by
  induction steps generalizing s with
  | nil => cases h
  | cons step rest ih =>
      have hs₁ := paths_nodup_perform hs clock step
      rcases List.mem_append.1 h with hfirst | hrest
      · have hbounded := bounded_of_sweepsOf (of_mem_sweepsFrom hfirst).1 clock
        exact hbounded.after hs₁ clock rest
      · exact ih hs₁ hrest

/-! ## When a sweeper sweeps -/

/-- **A sweeper is on schedule**: it was started at the time `start`, has made `k` sweeps, and waits
for the next. -/
structure OnSchedule (start : Nat) (p : PurgeTask) (k : Nat) (s : State) : Prop where
  mem : p ∈ s.purgeTasks
  next_eq : p.sweeper.next = start + (k + 1) * p.sweeper.interval
  waits : s.now < p.sweeper.next
  last_le : p.sweeper.next ≤ s.now + p.sweeper.interval

/-- A sweeper that is started has made no sweep. -/
theorem onSchedule_startPurge {interval : Nat} (h : 0 < interval) (s : State) (maxAge : Nat) :
    ∃ p : PurgeTask, (s.startPurge interval maxAge).2.OnSchedule s.now p 0 ∧
      p.maxAge = maxAge ∧ p.sweeper.interval = Sweeper.pause interval := by
  have hpos : 0 < Sweeper.pause interval := Sweeper.pause_pos h
  have hstart : Sweeper.start? s.now (Sweeper.pause interval) =
      some ⟨Sweeper.pause interval, s.now + Sweeper.pause interval, hpos⟩ := dif_pos hpos
  refine ⟨⟨⟨Sweeper.pause interval, s.now + Sweeper.pause interval, hpos⟩, maxAge⟩,
    ?_, rfl, rfl⟩
  unfold startPurge
  rw [hstart]
  refine ⟨List.mem_append_right _ List.mem_cons_self, ?_, ?_, Nat.le_refl _⟩
  · show s.now + Sweeper.pause interval = s.now + (0 + 1) * Sweeper.pause interval
    omega
  · show s.now < s.now + Sweeper.pause interval
    omega

/-- Only the passing of time moves the clock and the sweepers. -/
theorem perform_sweepers (clock : Nat → String) (s : State) (step : Step) :
    (∃ duration, step = .wait duration) ∨
      ((s.perform clock step).now = s.now ∧
        s.purgeTasks ⊆ (s.perform clock step).purgeTasks) := by
  cases step with
  | wait duration => exact .inl ⟨duration, rfl⟩
  | request r =>
      refine .inr ⟨now_perform clock s (.request r), ?_⟩
      show s.purgeTasks ⊆ (s.serve clock r).2.purgeTasks
      rcases serve_cases clock s r with h | ⟨h, -⟩ | ⟨m, -, -, h⟩ <;> rw [h] <;>
        exact List.Subset.refl _
  | sweep maxAge => exact .inr ⟨rfl, List.Subset.refl _⟩
  | startSweeper interval maxAge =>
      refine .inr ⟨now_perform clock s (.startSweeper interval maxAge), ?_⟩
      show s.purgeTasks ⊆ (s.startPurge interval maxAge).2.purgeTasks
      unfold startPurge
      split
      · exact List.Subset.refl _
      · exact List.subset_append_left _ _
  | clear => exact .inr ⟨rfl, List.Subset.refl _⟩
  | settle =>
      obtain ⟨-, -, hnow, htasks⟩ := settle_frame s
      exact .inr ⟨hnow, fun p hp => htasks ▸ hp⟩

/-- A step makes the sweeps of a waiting sweeper that fall due, and leaves the sweeper waiting. -/
theorem sweeps_perform {p : PurgeTask} (hp : p ∈ s.purgeTasks) (hwaits : s.now < p.sweeper.next)
    (clock : Nat → String) (step : Step) :
    p.advance (s.perform clock step).now ∈ (s.perform clock step).purgeTasks ∧
      ∀ time ∈ p.sweeper.dueTimes (s.perform clock step).now,
        (time, p.maxAge) ∈ s.sweepsOf step := by
  rcases perform_sweepers clock s step with ⟨duration, rfl⟩ | ⟨hnow, htasks⟩
  · constructor
    · exact List.mem_map_of_mem hp
    · intro time hdue
      exact mem_dueSweeps_iff.2 ⟨p, hp, hdue, rfl⟩
  · rw [hnow, Sweeper.dueTimes_of_lt hwaits, PurgeTask.advance, Sweeper.advance_of_lt hwaits]
    exact ⟨htasks hp, fun time hdue => absurd hdue List.not_mem_nil⟩

/-- A step keeps a sweeper on schedule, and makes the sweeps that the schedule asks for. -/
theorem OnSchedule.perform {start k : Nat} {p : PurgeTask} (h : s.OnSchedule start p k)
    (clock : Nat → String) (step : Step) :
    ∃ k', (s.perform clock step).OnSchedule start (p.advance (s.perform clock step).now) k' ∧
      ∀ j, k < j → j ≤ k' →
        (start + j * p.sweeper.interval, p.maxAge) ∈ s.sweepsOf step := by
  have hpassed : s.now ≤ (s.perform clock step).now := by
    rw [now_perform]
    omega
  obtain ⟨hmem, hdue⟩ := sweeps_perform h.mem h.waits clock step
  refine ⟨k + p.sweeper.dueCount (s.perform clock step).now, ⟨hmem, ?_, ?_, ?_⟩, ?_⟩
  · have hcount : (k + p.sweeper.dueCount (s.perform clock step).now + 1) * p.sweeper.interval =
        (k + 1) * p.sweeper.interval +
          p.sweeper.dueCount (s.perform clock step).now * p.sweeper.interval := by
      rw [Nat.add_right_comm, Nat.add_mul]
    rw [PurgeTask.advance, Sweeper.interval_advance, Sweeper.next_advance, h.next_eq, hcount,
      Nat.add_assoc]
  · exact Sweeper.lt_next_advance _ _
  · have hlast := h.last_le
    rw [PurgeTask.advance, Sweeper.interval_advance]
    exact Sweeper.next_advance_le (by omega)
  · intro j hj hj'
    -- the sweep with the number `j` is one of those that have become due
    obtain ⟨i, rfl⟩ := Nat.exists_eq_add_of_lt hj
    have htime : start + (k + i + 1) * p.sweeper.interval =
        p.sweeper.next + i * p.sweeper.interval := by
      rw [h.next_eq, Nat.add_right_comm, Nat.add_mul (k + 1) i]
      omega
    have hi : i < p.sweeper.dueCount (s.perform clock step).now := by omega
    apply hdue
    rw [htime]
    exact Sweeper.mem_dueTimes_iff.2 ⟨Sweeper.lt_dueCount_iff.1 hi, i, rfl⟩

/-- A run keeps a sweeper on schedule, and makes the sweeps that the schedule asks for. -/
theorem onSchedule_after {start k : Nat} {p : PurgeTask} (h : s.OnSchedule start p k)
    (clock : Nat → String) (steps : List Step) :
    ∃ p' k', (s.after clock steps).OnSchedule start p' k' ∧
      p'.sweeper.interval = p.sweeper.interval ∧
      ∀ j, k < j → j ≤ k' → ∃ found, (found, p.maxAge) ∈ s.sweepsMade clock steps ∧
        found.now = start + j * p.sweeper.interval := by
  induction steps generalizing s k p with
  | nil => exact ⟨p, k, h, rfl, fun j hj hj' => absurd hj' (by omega)⟩
  | cons step rest ih =>
      obtain ⟨k₁, h₁, hfirst⟩ := h.perform clock step
      obtain ⟨p', k', h', hinterval, hrest⟩ := ih h₁
      have hsame : (p.advance (s.perform clock step).now).sweeper.interval = p.sweeper.interval :=
        Sweeper.interval_advance _ _
      rw [hsame] at hinterval hrest
      refine ⟨p', k', h', hinterval, fun j hj hj' => ?_⟩
      by_cases hnow : j ≤ k₁
      · obtain ⟨found, hfound, htime⟩ := exists_mem_sweepsFrom s (hfirst j hj hnow)
        exact ⟨found, List.mem_append_left _ hfound, htime⟩
      · obtain ⟨found, hfound, htime⟩ := hrest j (by omega) hj'
        exact ⟨found, List.mem_append_right _ hfound, htime⟩

/-- A sweeper that is started sweeps after each interval. -/
theorem exists_sweepsMade {start : Nat} {p : PurgeTask} (h : s.OnSchedule start p 0)
    (clock : Nat → String) (steps : List Step) {k : Nat} (hk : 0 < k)
    (hdue : start + k * p.sweeper.interval ≤ (s.after clock steps).now) :
    ∃ found, (found, p.maxAge) ∈ s.sweepsMade clock steps ∧
      found.now = start + k * p.sweeper.interval := by
  obtain ⟨p', k', h', hinterval, hsweeps⟩ := onSchedule_after h clock steps
  have hmade : k ≤ k' := by
    by_contra hlater
    have hwaits := h'.waits
    rw [h'.next_eq, hinterval] at hwaits
    have hnext : (k' + 1) * p.sweeper.interval ≤ k * p.sweeper.interval :=
      Nat.mul_le_mul_right _ (by omega)
    omega
  exact hsweeps k hk hmade

/-! ## Looking at a run at any time -/

/-- The sweeps that fall due in a longer time are those that fall due in its parts. -/
theorem mem_dueSweeps_wait_iff {duration t : Nat} (ht : s.now + duration ≤ t)
    (sweep : Nat × Nat) :
    sweep ∈ s.dueSweeps t ↔
      sweep ∈ s.dueSweeps (s.now + duration) ∨ sweep ∈ (s.wait duration).dueSweeps t := by
  have htasks : (s.wait duration).purgeTasks =
      s.purgeTasks.map fun p => p.advance (s.now + duration) := rfl
  rw [mem_dueSweeps_iff, mem_dueSweeps_iff, mem_dueSweeps_iff, htasks]
  constructor
  · rintro ⟨p, hp, hdue, hage⟩
    obtain ⟨hle, hmultiple⟩ := Sweeper.mem_dueTimes_iff.1 hdue
    by_cases hearly : sweep.1 ≤ s.now + duration
    · exact .inl ⟨p, hp, Sweeper.mem_dueTimes_iff.2 ⟨hearly, hmultiple⟩, hage⟩
    · refine .inr ⟨_, List.mem_map_of_mem hp, ?_, hage⟩
      exact Sweeper.mem_dueTimes_advance_iff.2 ⟨hdue, by omega⟩
  · rintro (⟨p, hp, hdue, hage⟩ | ⟨p', hp', hdue, hage⟩)
    · obtain ⟨hle, hmultiple⟩ := Sweeper.mem_dueTimes_iff.1 hdue
      exact ⟨p, hp, Sweeper.mem_dueTimes_iff.2 ⟨by omega, hmultiple⟩, hage⟩
    · obtain ⟨p, hp, rfl⟩ := List.mem_map.1 hp'
      exact ⟨p, hp, (Sweeper.mem_dueTimes_advance_iff.1 hdue).1, hage⟩

/-- Time that passes in parts does to the entries what time does that passes in one go. -/
theorem lookup?_wait_add (s : State) (d d' : Nat) (path : String) (kind : CacheKind)
    (key : CacheKey) :
    (s.wait (d + d')).lookup? path kind key = ((s.wait d).wait d').lookup? path kind key := by
  have hnow : (s.wait d).now = s.now + d := rfl
  rw [lookup?_wait, lookup?_wait, lookup?_wait, Option.filter_filter, hnow, ← Nat.add_assoc]
  congr 1
  funext e
  rw [Bool.eq_iff_iff, Bool.and_eq_true, List.all_eq_true, List.all_eq_true, List.all_eq_true]
  have hle : s.now + d ≤ s.now + d + d' := Nat.le_add_right _ _
  have hparts := mem_dueSweeps_wait_iff hle
  constructor
  · intro hall
    exact ⟨fun sweep hsweep => hall sweep ((hparts sweep).2 (.inl hsweep)),
      fun sweep hsweep => hall sweep ((hparts sweep).2 (.inr hsweep))⟩
  · rintro ⟨hfirst, hrest⟩ sweep hsweep
    rcases (hparts sweep).1 hsweep with h | h
    · exact hfirst sweep h
    · exact hrest sweep h

/-! ## The window of eviction -/

/-- **What a sweeper does in a run** that begins when it has just been started, with an interval and
a greatest age. A pause that no clock can measure is cut short, any other is the interval. -/
structure Evicts (clock : Nat → String) (interval maxAge : Nat) (s : State) (steps : List Step) :
    Prop where
  /-- It sweeps at every multiple of its pause. -/
  scheduled : ∀ k, 0 < k → s.now + k * Sweeper.pause interval ≤ (s.after clock steps).now →
    ∃ found, (found, maxAge) ∈ s.sweepsMade clock steps ∧
      found.now = s.now + k * Sweeper.pause interval
  /-- No entry is older than a sweep, be it the last one, has left it and the time since then. -/
  bounded : ∀ found age, (found, age) ∈ s.sweepsMade clock steps →
    found.now ≤ (s.after clock steps).now ∧
    ∀ path kind key e, (s.after clock steps).lookup? path kind key = some e →
      e.age (s.after clock steps).now ≤ age + ((s.after clock steps).now - found.now)
  /-- From an interval after the start on there has always been a sweep less than an interval ago,
  so no entry is as old as the greatest age and an interval. -/
  window : s.now + interval ≤ (s.after clock steps).now →
    ∃ found, (found, maxAge) ∈ s.sweepsMade clock steps ∧
      (s.after clock steps).now < found.now + interval ∧
      ∀ path kind key e, (s.after clock steps).lookup? path kind key = some e →
        e.age (s.after clock steps).now ≤ maxAge + ((s.after clock steps).now - found.now) ∧
          e.age (s.after clock steps).now < maxAge + interval
  /-- Each sweep takes out what is too old for it and nothing else, and counts it. -/
  each : ∀ found age, (found, age) ∈ s.sweepsMade clock steps → found.SweepsOut age
  /-- What has been counted as purged is what the sweeps have taken out. -/
  purged : (s.after clock steps).metrics.purged =
    s.metrics.purged + purgedBy (s.sweepsMade clock steps)
  /-- A run can be looked at within a step in which time passes. -/
  divisible : ∀ d d' path kind key, ((s.after clock steps).wait (d + d')).lookup? path kind key =
    (((s.after clock steps).wait d).wait d').lookup? path kind key

/-- An age at a later time is the age at the time of a sweep and the time since then, at most. -/
theorem Bounded.age_le {time age : Nat} (h : s.Bounded time age)
    (he : s.lookup? path kind key = some e) :
    e.age s.now ≤ age + (s.now - time) := by
  have hyoung := h.young path kind key e he
  have hpassed := h.passed
  unfold Entry.age
  omega

/-- **A sweeper bounds the age of all entries**, whatever happens while it runs, in a service whose
applications have different paths, as those of every service that starts have
(`paths_nodup_of_build`). -/
theorem evicts_run (hs : (s.mounts.map Mount.path).Nodup) {interval : Nat}
    (hinterval : 0 < interval) (maxAge : Nat) (clock : Nat → String) (steps : List Step) :
    (s.startPurge interval maxAge).2.Evicts clock interval maxAge steps := by
  obtain ⟨p, hschedule, rfl, hpause⟩ := onSchedule_startPurge hinterval s maxAge
  have hs' : ((s.startPurge interval p.maxAge).2.mounts.map Mount.path).Nodup :=
    paths_nodup_perform hs clock (.startSweeper interval p.maxAge)
  have hnow : (s.startPurge interval p.maxAge).2.now = s.now :=
    now_perform clock s (.startSweeper interval p.maxAge)
  generalize (s.startPurge interval p.maxAge).2 = begun at hschedule hs' hnow
  have hscheduled : ∀ k, 0 < k →
      begun.now + k * Sweeper.pause interval ≤ (begun.after clock steps).now →
      ∃ found, (found, p.maxAge) ∈ begun.sweepsMade clock steps ∧
        found.now = begun.now + k * Sweeper.pause interval := by
    intro k hk hdue
    rw [hnow, ← hpause] at hdue ⊢
    exact exists_sweepsMade hschedule clock steps hk hdue
  refine ⟨hscheduled, fun found age h => ?_, fun hlater => ?_,
    fun found age h => sweepsOut_of_mem hs' h, purged_after clock begun steps,
      lookup?_wait_add (begun.after clock steps)⟩
  · have hbounded := bounded_after hs' h
    exact ⟨hbounded.passed, fun path kind key e he => hbounded.age_le he⟩
  · -- as many pauses have passed as fit into the time, and the rest of it is shorter than a pause
    have hpos : 0 < Sweeper.pause interval := Sweeper.pause_pos hinterval
    have hle : Sweeper.pause interval ≤ interval := Sweeper.pause_le interval
    have hsplit := Nat.div_add_mod' ((begun.after clock steps).now - begun.now)
      (Sweeper.pause interval)
    have hmod := Nat.mod_lt ((begun.after clock steps).now - begun.now) hpos
    have hsome : 0 < ((begun.after clock steps).now - begun.now) / Sweeper.pause interval :=
      Nat.div_pos (by omega) hpos
    obtain ⟨found, hfound, htime⟩ := hscheduled _ hsome (by omega)
    have hlast : (begun.after clock steps).now < found.now + interval := by omega
    refine ⟨found, hfound, hlast, fun path kind key e he => ?_⟩
    have hage := (bounded_after hs' hfound).age_le he
    exact ⟨hage, by omega⟩

/-- The calls `a` and `b` begin while a sweeper of the weather service runs. -/
theorem evicts_run_weather :
    ∃ s, build {} {} [Weather.application {}] = .ok s ∧ (s.mounts.map Mount.path).Nodup ∧
      0 < 1000 ∧
      (s.startPurge 1000 1500).2.Evicts (fun time => toString time) 1000 1500
        [.request (weatherPost "assistant-request" "a"), .wait 2500,
          .request (weatherPost "assistant-request" "b"), .wait 700] := by
  have hs : (weatherService.mounts.map Mount.path).Nodup := paths_nodup_of_build build_weather
  have hinterval : 0 < 1000 := by decide
  exact ⟨weatherService, build_weather, hs, hinterval, evicts_run hs hinterval 1500 _ _⟩

end State

end Switchboard

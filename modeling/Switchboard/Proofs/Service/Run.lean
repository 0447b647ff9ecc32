import Mathlib.Data.List.Basic
import Mathlib.Data.List.Nodup
import Switchboard.Proofs.Config.Paths
import Switchboard.Service.Routes

/-!
# Runs of a service

A *run* is a list of steps: requests, the passing of time, and what is done to a service from
inside.

* `Step`, `State.perform`, `State.after`, `State.answers`: the steps of a run, the state that it
  leaves behind, and the answers to its requests.
* `State.applications`, `State.caches?`: the applications of a state, and the caches of one of them.
  No step changes the settings or the applications (`settings_perform`, `applications_perform`), and
  `caches?_setCaches`, `caches?_clearCaches`, `caches?_purgeAll` and `caches?_wait` say what becomes
  of the caches.
* `paths_nodup_of_build`: the applications of a service that starts have different paths.
* `route?_congr`: what a path leads to depends on the settings and the applications alone.
-/

namespace Switchboard

/-! ## Routes of applications -/

namespace PathPattern

/-- The most exact of several patterns does not depend on what they lead to. -/
theorem mostExact?_map {α β : Type} (f : α → β) (entries : List (PathPattern × α)) :
    mostExact? (entries.map fun e => (e.1, f e.2)) =
      (mostExact? entries).map fun e => (e.1, f e.2) := by
  induction entries with
  | nil => rfl
  | cons e rest ih =>
      rw [List.map_cons, mostExact?, mostExact?, ih]
      cases mostExact? rest with
      | none => rfl
      | some b =>
          simp only [Option.map_some]
          split <;> rfl

/-- Which pattern decides has nothing to do with what the patterns stand for. -/
theorem find?_map {α β : Type} (f : α → β) (entries : List (PathPattern × α))
    (path : String) :
    find? (entries.map fun e => (e.1, f e.2)) path = (find? entries path).map f := by
  unfold find?
  rw [List.filter_map, mostExact?_map, Option.map_map, Option.map_map]
  rfl

end PathPattern

namespace State

/-! ## Applications and their caches -/

/-- The applications, in order. -/
def applications (s : State) : List Application := s.mounts.map Mount.application

/-- The caches of the application with a path. -/
def caches? (s : State) (path : String) : Option Caches := (s.mount? path).map Mount.caches

/-- The entry of a key in the cache of a kind that the application with a path has. -/
def lookup? (s : State) (path : String) (kind : CacheKind) (key : CacheKey) : Option Entry :=
  (s.caches? path).bind fun cs => (cs.of kind).entries.get? key

/-- The paths of a service are those of its applications. -/
theorem paths_eq (s : State) :
    s.mounts.map Mount.path = s.applications.map Application.serverPath := by
  rw [applications, List.map_map]
  rfl

/-- A service starts with applications whose paths are servable, and with nothing in their
caches. -/
theorem build_eq_ok_iff {settings : Settings} {observers : Observers}
    {applications : List Application} {s : State} :
    build settings observers applications = .ok s ↔
      Servable (applications.map Application.serverPath) ∧
        s = { settings, observers, mounts := applications.map fun a => { application := a } } := by
  unfold build
  rw [← validateApplications_eq_ok_iff]
  cases validateApplications (applications.map Application.serverPath) with
  | error e => simp
  | ok u => simp [eq_comm]

/-- The applications of a service that starts have different paths. -/
theorem paths_nodup_of_build {settings : Settings} {observers : Observers}
    {applications : List Application} {s : State}
    (h : build settings observers applications = .ok s) :
    (s.mounts.map Mount.path).Nodup := by
  obtain ⟨hservable, rfl⟩ := build_eq_ok_iff.1 h
  rw [List.map_map]
  exact hservable.distinct

/-- An application is found by its path. -/
theorem mount?_of_mem {s : State} {m : Mount} (hs : (s.mounts.map Mount.path).Nodup)
    (hm : m ∈ s.mounts) : s.mount? m.path = some m := by
  have hfound : (s.mount? m.path).isSome = true := by
    rw [mount?, List.find?_isSome]
    exact ⟨m, hm, by simp⟩
  obtain ⟨m', hm'⟩ := Option.isSome_iff_exists.1 hfound
  have hpath : m'.path = m.path := by simpa using List.find?_some hm'
  rw [hm', List.inj_on_of_nodup_map hs (List.mem_of_find?_eq_some hm') hm hpath]

/-- The caches of an application are found by its path. -/
theorem caches?_of_mem {s : State} {m : Mount} (hs : (s.mounts.map Mount.path).Nodup)
    (hm : m ∈ s.mounts) : s.caches? m.path = some m.caches := by
  rw [caches?, mount?_of_mem hs hm]
  rfl

section mounts

variable {s s' : State} {f : String → Caches → Caches}

/-- Caches that are changed path by path leave the applications. -/
theorem applications_of_map
    (h : s'.mounts = s.mounts.map fun m => { m with caches := f m.path m.caches }) :
    s'.applications = s.applications := by
  rw [applications, applications, h, List.map_map]
  rfl

/-- What is done to the caches of every application is done to those of one. -/
theorem caches?_of_map
    (h : s'.mounts = s.mounts.map fun m => { m with caches := f m.path m.caches }) (path : String) :
    s'.caches? path = (s.caches? path).map (f path) := by
  rw [caches?, mount?, h, List.find?_map, caches?, mount?]
  have hfind : ((fun m : Mount => decide (m.path = path)) ∘ fun m : Mount =>
      { m with caches := f m.path m.caches }) = fun m : Mount => decide (m.path = path) := rfl
  rw [hfind]
  cases hm : s.mounts.find? fun m => decide (m.path = path) with
  | none => rfl
  | some m =>
      have hpath : m.path = path := by simpa using List.find?_some hm
      simp only [Option.map_some, hpath]

end mounts

/-- Caches are replaced at the path of their application. -/
theorem mounts_setCaches (s : State) (path : String) (cs : Caches) :
    (s.setCaches path cs).mounts =
      s.mounts.map fun m => { m with caches := if m.path = path then cs else m.caches } := by
  unfold setCaches
  refine List.map_congr_left fun m _ => ?_
  split <;> rfl

/-- Caches that are replaced leave the applications. -/
@[simp] theorem applications_setCaches (s : State) (path : String) (cs : Caches) :
    (s.setCaches path cs).applications = s.applications :=
  applications_of_map (f := fun p old => if p = path then cs else old) (mounts_setCaches s path cs)

/-- Caches that are replaced are found by their path, the others as before. -/
theorem caches?_setCaches (s : State) (path path' : String) (cs : Caches) :
    (s.setCaches path cs).caches? path' =
      (s.caches? path').map fun old => if path' = path then cs else old :=
  caches?_of_map (f := fun p old => if p = path then cs else old) (mounts_setCaches s path cs) path'

/-- A clearing leaves the applications. -/
@[simp] theorem applications_clearCaches (s : State) :
    s.clearCaches.applications = s.applications :=
  applications_of_map (f := fun _ => Caches.clear) rfl

/-- A clearing clears the caches of each application. -/
theorem caches?_clearCaches (s : State) (path : String) :
    s.clearCaches.caches? path = (s.caches? path).map Caches.clear :=
  caches?_of_map (f := fun _ => Caches.clear) rfl path

/-- A sweep does the same to every application. -/
theorem purgeMounts_snd (now maxAge : Nat) (ms : List Mount) :
    (purgeMounts now maxAge ms).2 =
      ms.map fun m => { m with caches := (m.caches.purge now maxAge).2 } := by
  induction ms with
  | nil => rfl
  | cons m rest ih =>
      rw [List.map_cons, ← ih]
      rfl

/-- A sweep leaves the applications. -/
@[simp] theorem applications_purgeAll (s : State) (maxAge : Nat) :
    (s.purgeAll maxAge).2.applications = s.applications :=
  applications_of_map (f := fun _ cs => (cs.purge s.now maxAge).2)
    (purgeMounts_snd s.now maxAge s.mounts)

/-- A sweep purges the caches of each application. -/
theorem caches?_purgeAll (s : State) (maxAge : Nat) (path : String) :
    (s.purgeAll maxAge).2.caches? path =
      (s.caches? path).map fun cs => (cs.purge s.now maxAge).2 :=
  caches?_of_map (f := fun _ cs => (cs.purge s.now maxAge).2)
    (purgeMounts_snd s.now maxAge s.mounts) path

/-! ## Sweeps and the worker -/

/-- What sweeps make of caches: each takes out what is older than its age at its time. -/
def sweepCaches (sweeps : List (Nat × Nat)) (cs : Caches) : Caches :=
  sweeps.foldl (fun cs sweep => (cs.purge sweep.1 sweep.2).2) cs

/-- Sweeps change nothing but the caches, which are swept at each path. -/
theorem sweeps_frame (s : State) (sweeps : List (Nat × Nat)) :
    (sweeps.foldl sweepAt s).settings = s.settings ∧
      (sweeps.foldl sweepAt s).applications = s.applications ∧
      ∀ path, (sweeps.foldl sweepAt s).caches? path =
        (s.caches? path).map (sweepCaches sweeps) := by
  induction sweeps generalizing s with
  | nil => exact ⟨rfl, rfl, fun path => Option.map_id'.symm⟩
  | cons sweep rest ih =>
      obtain ⟨hsettings, happlications, hcaches⟩ := ih (s.sweepAt sweep)
      rw [List.foldl_cons]
      refine ⟨hsettings, happlications.trans (applications_purgeAll _ _), fun path => ?_⟩
      rw [hcaches, sweepAt, caches?_purgeAll, Option.map_map]
      rfl

/-- The sweeps that fall due while time passes are what happens to the caches. -/
theorem caches?_wait (s : State) (duration : Nat) (path : String) :
    (s.wait duration).caches? path =
      (s.caches? path).map (sweepCaches (s.dueSweeps (s.now + duration))) :=
  (sweeps_frame s _).2.2 path

/-- Time that passes leaves the applications. -/
@[simp] theorem applications_wait (s : State) (duration : Nat) :
    (s.wait duration).applications = s.applications :=
  (sweeps_frame s _).2.1

/-- Time that passes leaves the settings. -/
@[simp] theorem settings_wait (s : State) (duration : Nat) :
    (s.wait duration).settings = s.settings :=
  (sweeps_frame s _).1

/-- A step of the worker leaves all but the observers' side. -/
theorem workerStep_frame (s : State) :
    s.workerStep.settings = s.settings ∧ s.workerStep.mounts = s.mounts ∧
      s.workerStep.now = s.now ∧ s.workerStep.purgeTasks = s.purgeTasks := by
  unfold workerStep
  obtain ⟨event, queue⟩ := s.queue.step
  cases event <;> exact ⟨rfl, rfl, rfl, rfl⟩

/-- The worker touches the queue and what observers are told. -/
theorem settle_frame (s : State) :
    s.settle.settings = s.settings ∧ s.settle.mounts = s.mounts ∧
      s.settle.now = s.now ∧ s.settle.purgeTasks = s.purgeTasks := by
  show (workerSteps s.queue.events.length s).settings = s.settings ∧
    (workerSteps s.queue.events.length s).mounts = s.mounts ∧
      (workerSteps s.queue.events.length s).now = s.now ∧
        (workerSteps s.queue.events.length s).purgeTasks = s.purgeTasks
  generalize s.queue.events.length = n
  induction n generalizing s with
  | zero => exact ⟨rfl, rfl, rfl, rfl⟩
  | succ n ih =>
      obtain ⟨hsettings, hmounts, hnow, htasks⟩ := ih s.workerStep
      obtain ⟨hsettings', hmounts', hnow', htasks'⟩ := workerStep_frame s
      exact ⟨hsettings.trans hsettings', hmounts.trans hmounts', hnow.trans hnow',
        htasks.trans htasks'⟩

/-- Starting a sweeper touches the sweepers and the queue. -/
theorem startPurge_frame (s : State) (interval maxAge : Nat) :
    (s.startPurge interval maxAge).2.settings = s.settings ∧
      (s.startPurge interval maxAge).2.mounts = s.mounts ∧
      (s.startPurge interval maxAge).2.now = s.now ∧
      (s.startPurge interval maxAge).2.metrics = s.metrics := by
  unfold startPurge
  split <;> exact ⟨rfl, rfl, rfl, rfl⟩

/-! ## Steps -/

/-- A step of a run. -/
inductive Step where
  /-- A request arrives. -/
  | request (r : Request)
  /-- Time passes. -/
  | wait (duration : Nat)
  /-- The caches are swept now. -/
  | sweep (maxAge : Nat)
  /-- A sweeper is started. -/
  | startSweeper (interval maxAge : Nat)
  /-- The caches are emptied. -/
  | clear
  /-- The worker takes every event off the queue. -/
  | settle

/-- The request that a step is. -/
def Step.request? : Step → Option Request
  | request r => some r
  | _ => none

/-- A step that is a request is this request. -/
theorem eq_request {step : Step} {r : Request} (h : step.request? = some r) :
    step = .request r := by
  cases step with
  | request r' => exact congrArg Step.request (Option.some.inj h)
  | _ => cases h

/-- What a step leaves behind. -/
def perform (clock : Nat → String) (s : State) : Step → State
  | .request r => (s.serve clock r).2
  | .wait duration => s.wait duration
  | .sweep maxAge => (s.purgeAll maxAge).2
  | .startSweeper interval maxAge => (s.startPurge interval maxAge).2
  | .clear => s.clearCaches
  | .settle => s.settle

/-- What a run leaves behind. -/
def after (clock : Nat → String) (s : State) (steps : List Step) : State :=
  steps.foldl (perform clock) s

/-- The requests of a run with what they are answered. -/
def answers (clock : Nat → String) :
    State → List Step → List (Request × Except Panic Response)
  | _, [] => []
  | s, step :: rest =>
    (step.request?.map fun r => (r, (s.serve clock r).1)).toList ++
      answers clock (s.perform clock step) rest

/-! ## Serving -/

/-- The application that a request leads to. -/
def webhook? (s : State) (r : Request) : Option Mount :=
  match r.path?.bind s.route? with
  | some (.webhook m) => some m
  | _ => none

/-- An application that a path leads to is one of the service. -/
theorem mem_of_route? {s : State} {path : String} {m : Mount}
    (h : s.route? path = some (.webhook m)) :
    m ∈ s.mounts := by
  unfold route? at h
  split at h
  · cases h
  · obtain ⟨m', hm', heq⟩ := Option.map_eq_some_iff.1 h
    cases heq
    obtain ⟨e, he, rfl⟩ := Option.map_eq_some_iff.1 hm'
    have hmem := (List.mem_filter.1 (PathPattern.mem_of_mostExact? he)).1
    obtain ⟨m, hm, hp⟩ := List.mem_filterMap.1 hmem
    obtain ⟨p, -, rfl⟩ := Option.map_eq_some_iff.1 hp
    exact hm

/-- What a path leads to, as far as the settings and the applications go. -/
theorem route?_congr {s s' : State} (hsettings : s.settings = s'.settings)
    (happlications : s.applications = s'.applications) (path : String) :
    (s.route? path = none ∧ s'.route? path = none) ∨
      (∃ page, s.route? path = some (.builtIn page) ∧ s'.route? path = some (.builtIn page)) ∨
      ∃ m m', s.route? path = some (.webhook m) ∧ s'.route? path = some (.webhook m') ∧
        m.application = m'.application := by
  have hpatterns : ∀ s : State, s.patterns.map (fun e => (e.1, e.2.application)) =
      s.applications.filterMap fun a =>
        (PathPattern.ofText a.serverPath).toOption.map fun p => (p, a) := by
    intro s
    rw [patterns, List.map_filterMap, applications, List.filterMap_map]
    simp only [Option.map_map, Function.comp_def]
    rfl
  have hfind : (PathPattern.find? s.patterns path).map Mount.application =
      (PathPattern.find? s'.patterns path).map Mount.application := by
    rw [← PathPattern.find?_map, ← PathPattern.find?_map, hpatterns, hpatterns, happlications]
  unfold route?
  rw [hsettings]
  cases (BuiltIn.served s'.settings.production).find? fun page => page.path = path with
  | some page => exact .inr (.inl ⟨page, rfl, rfl⟩)
  | none =>
      cases hm : PathPattern.find? s.patterns path
        <;> cases hm' : PathPattern.find? s'.patterns path <;>
        simp only [hm, hm', Option.map_none, Option.map_some, Option.some.injEq, reduceCtorEq]
          at hfind
      · exact .inl ⟨rfl, rfl⟩
      · exact .inr (.inr ⟨_, _, rfl, rfl, hfind⟩)

/-- Where a request goes depends on the settings and the applications alone. -/
theorem webhook?_congr {s s' : State} (hsettings : s.settings = s'.settings)
    (happlications : s.applications = s'.applications) (r : Request) :
    (s.webhook? r).map Mount.application = (s'.webhook? r).map Mount.application := by
  unfold webhook?
  cases r.path? with
  | none => rfl
  | some path =>
      simp only [Option.bind_some]
      rcases route?_congr hsettings happlications path with
        ⟨h, h'⟩ | ⟨page, h, h'⟩ | ⟨m, m', h, h', hm⟩ <;>
        rw [h, h']
      exact congrArg some hm

/-- An application that a request goes to is one of the service. -/
theorem mem_of_webhook? {s : State} {r : Request} {m : Mount} (h : s.webhook? r = some m) :
    m ∈ s.mounts := by
  unfold webhook? at h
  split at h
  · next hroute =>
    cases h
    obtain ⟨path, -, hpath⟩ := Option.bind_eq_some_iff.1 hroute
    exact mem_of_route? hpath
  · cases h

/-- An application that serves a request leaves the applications. -/
@[simp] theorem applications_serveWebhook (s : State) (m : Mount) (body : List UInt8) :
    (s.serveWebhook m body).2.applications = s.applications :=
  applications_setCaches s m.path _

/-- Serving a request leaves the service as it is, empties the caches, which no post does, or is a
matter of one application. -/
theorem serve_cases (clock : Nat → String) (s : State) (r : Request) :
    (s.serve clock r).2 = s ∨ ((s.serve clock r).2 = s.clearCaches ∧ r.method ≠ "POST") ∨
      ∃ m, s.webhook? r = some m ∧ r.method = "POST" ∧
        s.serve clock r = s.serveWebhook m r.body := by
  unfold serve webhook?
  cases r.path? with
  | none => exact .inl rfl
  | some path =>
      simp only [Option.map_some, Option.bind_some]
      cases s.route? path with
      | none => exact .inl rfl
      | some route =>
          cases route with
          | builtIn page =>
              dsimp only
              split
              · next hmethod =>
                have hpost : r.method ≠ "POST" := by
                  intro hpost
                  rw [hpost] at hmethod
                  exact absurd hmethod (by decide)
                cases page
                case clearCaches => exact .inr (.inl ⟨rfl, hpost⟩)
                all_goals exact .inl rfl
              · exact .inl rfl
          | webhook m =>
              dsimp only
              split
              · exact .inl rfl
              · split
                · exact .inl rfl
                · next hmethod =>
                  split
                  · exact .inl rfl
                  · exact .inr (.inr ⟨m, rfl, by simpa using hmethod, rfl⟩)

/-! ## What no step changes -/

/-- Every step leaves the applications. -/
theorem applications_perform (clock : Nat → String) (s : State) (step : Step) :
    (s.perform clock step).applications = s.applications := by
  cases step with
  | request r =>
      show (s.serve clock r).2.applications = s.applications
      rcases serve_cases clock s r with h | ⟨h, -⟩ | ⟨m, -, -, h⟩ <;> rw [h]
      · exact applications_clearCaches s
      · exact applications_serveWebhook s m r.body
  | wait duration => exact applications_wait s duration
  | sweep maxAge => exact applications_purgeAll s maxAge
  | startSweeper interval maxAge =>
      show (s.startPurge interval maxAge).2.applications = s.applications
      rw [applications, (startPurge_frame s interval maxAge).2.1, applications]
  | clear => exact applications_clearCaches s
  | settle =>
      show s.settle.applications = s.applications
      rw [applications, (settle_frame s).2.1, applications]

/-- Every step leaves the settings. -/
theorem settings_perform (clock : Nat → String) (s : State) (step : Step) :
    (s.perform clock step).settings = s.settings := by
  cases step with
  | request r =>
      show (s.serve clock r).2.settings = s.settings
      rcases serve_cases clock s r with h | ⟨h, -⟩ | ⟨m, -, -, h⟩ <;> rw [h] <;> rfl
  | wait duration => exact settings_wait s duration
  | sweep maxAge => rfl
  | startSweeper interval maxAge => exact (startPurge_frame s interval maxAge).1
  | clear => rfl
  | settle => exact (settle_frame s).1

/-- The applications stay the same during a run. -/
theorem applications_after (clock : Nat → String) (s : State) (steps : List Step) :
    (s.after clock steps).applications = s.applications := by
  induction steps generalizing s with
  | nil => rfl
  | cons step rest ih => exact (ih (s.perform clock step)).trans (applications_perform clock s step)

/-- The settings stay the same during a run. -/
theorem settings_after (clock : Nat → String) (s : State) (steps : List Step) :
    (s.after clock steps).settings = s.settings := by
  induction steps generalizing s with
  | nil => rfl
  | cons step rest ih => exact (ih (s.perform clock step)).trans (settings_perform clock s step)

end State

end Switchboard

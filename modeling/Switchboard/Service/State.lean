import Switchboard.Config.Load
import Switchboard.Service.CallbackQueue
import Switchboard.Service.Sweep

/-!
# The state of the service

A service is its settings, its applications with their caches, and the observers of all
applications. Everything else in a `State` changes as requests arrive and time passes: counters, the
queue of events, the tasks of observers, the sweepers.
-/

namespace Switchboard

/-- What concerns all applications. -/
structure Settings where
  /-- Hides diagnostic routes and the details of errors. -/
  production : Bool := false
  /-- The seconds between two sweeps. -/
  purgeIntervalSeconds : Nat := ({} : CacheConfig).purgeIntervalSeconds
  /-- The age in seconds beyond which a sweep takes an entry out. -/
  maxAgeSeconds : Nat := ({} : CacheConfig).maxAgeSeconds

/-- The settings of a configuration. -/
def Settings.ofConfig (c : Config) : Settings :=
  ⟨c.server.production, c.cache.purgeIntervalSeconds, c.cache.maxAgeSeconds⟩

/-- An application with its caches. -/
structure Mount where
  /-- The application. -/
  application : Application
  /-- Its caches. -/
  caches : Caches := .new

/-- The path of a mounted application. -/
def Mount.path (m : Mount) : String := m.application.serverPath

/-- A sweeper of caches. -/
structure PurgeTask where
  /-- When it sweeps. -/
  sweeper : Sweeper
  /-- A sweep takes out entries older than this. -/
  maxAge : Nat

/-- A service at one moment. -/
structure State where
  /-- What concerns all applications. -/
  settings : Settings
  /-- The observers of all applications. -/
  observers : Observers
  /-- The applications and their caches, in order. -/
  mounts : List Mount
  /-- The current time in milliseconds. -/
  now : Nat := 0
  /-- What has been counted. -/
  metrics : Metrics := {}
  /-- The events that observers have not been told of. -/
  queue : CallbackQueue := {}
  /-- The calls of handlers, in order. -/
  handlerCalls : List HandlerCall := []
  /-- How often answers have been produced for observers. -/
  producerRuns : Nat := 0
  /-- The tasks of observers that will finish. -/
  tasks : List Delivery := []
  /-- What the tasks of observers have taken note of, in order. -/
  delivered : List Delivery := []
  /-- The sweepers of the caches. -/
  purgeTasks : List PurgeTask := []

namespace State

/-- A service that starts, unless the path of an application is unusable. -/
def build (settings : Settings) (observers : Observers) (applications : List Application) :
    Except ConfigError State :=
  match validateApplications (applications.map Application.serverPath) with
  | .error e => .error e
  | .ok () => .ok { settings, observers, mounts := applications.map fun a => { application := a } }

/-! ## Applications -/

/-- The application with a path. -/
def mount? (s : State) (path : String) : Option Mount := s.mounts.find? fun m => m.path = path

/-- Replaces the caches of the application with a path. -/
def setCaches (s : State) (path : String) (cs : Caches) : State :=
  { s with mounts := s.mounts.map fun m => if m.path = path then { m with caches := cs } else m }

/-- Registers a function with an application; nothing if there is no such application. -/
def add? (s : State) (path : String) (kind : CacheKind) (key : CacheKey) (d : ToolDefinition) :
    Option (Except CacheError State) :=
  (s.mount? path).map fun m => (m.caches.add kind s.now key d).map (s.setCaches path)

/-- Takes the entries of a session out of an application's caches and counts them; nothing if there
is no such application. -/
def removeSession? (s : State) (path session : String) : Option (Nat × State) :=
  (s.mount? path).map fun m =>
    let (count, cs) := m.caches.removeSession session
    (count, s.setCaches path cs)

/-- Takes every entry out of all caches. -/
def clearCaches (s : State) : State :=
  { s with mounts := s.mounts.map fun m => { m with caches := m.caches.clear } }

/-! ## Sweeps -/

/-- Takes the entries older than `maxAge` out of the caches of applications and counts them. -/
def purgeMounts (now maxAge : Nat) : List Mount → Nat × List Mount
  | [] => (0, [])
  | m :: rest =>
    let (count, cs) := m.caches.purge now maxAge
    let (others, rest) := purgeMounts now maxAge rest
    (count + others, { m with caches := cs } :: rest)

/-- Takes the entries older than `maxAge` out of all caches and counts them. -/
def purgeAll (s : State) (maxAge : Nat) : Nat × State :=
  let (count, mounts) := purgeMounts s.now maxAge s.mounts
  (count, { s with mounts, metrics := s.metrics.observePurge count })

/-- Starts a sweeper; whether it ended at once. A sweeper keeps the service from being dropped. -/
def startPurge (s : State) (interval maxAge : Nat) : Bool × State :=
  match Sweeper.start? s.now (Sweeper.pause interval) with
  | none => (true, s)
  | some sweeper =>
    (false, { s with
      purgeTasks := s.purgeTasks ++ [⟨sweeper, maxAge⟩], queue := s.queue.addSender })

/-- The sweeps that fall due until the time `t`, by time: when, and beyond what age. -/
def dueSweeps (s : State) (t : Nat) : List (Nat × Nat) :=
  (s.purgeTasks.flatMap fun p => (p.sweeper.dueTimes t).map fun due => (due, p.maxAge)).mergeSort
    fun a b => a.1 ≤ b.1

/-- Sweeps at a time. -/
def sweepAt (s : State) (sweep : Nat × Nat) : State :=
  let s := { s with now := sweep.1 }
  (s.purgeAll sweep.2).2

/-! ## Events -/

/-- Puts events on the queue. -/
def send (s : State) (es : List Event) : State := { s with queue := s.queue.sendAll es }

/-- Tells observers of an event that has been taken off the queue. -/
def tellObservers (s : State) (e : Event) : State :=
  let fanOut := e.fanOut s.observers
  { s with
    producerRuns := s.producerRuns + fanOut.producerRuns
    tasks := s.tasks ++ fanOut.calls.filterMap (ObserverCall.delivery? s.now) }

/-- One step of the worker. -/
def workerStep (s : State) : State :=
  let (event, queue) := s.queue.step
  let s := { s with queue }
  match event with
  | some e => s.tellObservers e
  | none => s

/-- Lets the tasks of observers finish that are due. -/
def finishTasks (s : State) : State :=
  { s with
    tasks := s.tasks.filter fun d => s.now < d.due
    delivered := s.delivered ++ s.tasks.filter fun d => d.due ≤ s.now }

/-- Steps of the worker. -/
def workerSteps : Nat → State → State
  | 0, s => s
  | n + 1, s => workerSteps n s.workerStep

/-- Lets the worker take every event off the queue and the due tasks finish. -/
def settle (s : State) : State := (workerSteps s.queue.events.length s).finishTasks

/-! ## Time -/

/-- Lets time pass: sweeps happen when they are due, tasks finish when they are due. What is due at
the very end is done too. -/
def wait (s : State) (duration : Nat) : State :=
  let t := s.now + duration
  let purgeTasks := s.purgeTasks.map fun p => { p with sweeper := p.sweeper.advance t }
  let swept := { (s.dueSweeps t).foldl sweepAt s with now := t, purgeTasks }
  swept.finishTasks

/-- Lets go of the service: the worker stops if no sweeper holds on to it. -/
def drop (s : State) : State :=
  let s := { s with queue := s.queue.dropSender }
  s.workerStep

end State

end Switchboard

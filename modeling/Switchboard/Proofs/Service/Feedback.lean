import Switchboard.Proofs.Service.Recast

/-!
# Nothing comes back from observers

`State.unobserved` and `Traffic.unobserved` erase all that concerns observers: who they are, what is
on the queue, and what has been told. It is a recast (`State.recast`), so everything else the
service does commutes with it, and the worker does nothing that is left after it.

* `serve_unobserved`, `unobserved_move`: what a request, and any move but the worker's, leads to is
  the same up to observers if it starts from the same up to observers.
* `unobserved_work`: a step of the worker changes nothing but what concerns observers.
* **`callbacks_isolated`**: so the worker does its work beside any traffic (`Traffic.orderly`), and
  answers, caches and counters of the traffic are the same whoever observes it, whenever the worker
  takes its steps, and if there is no worker at all.
-/

namespace Switchboard

/-! ## Erasing observers -/

/-- The application without its observers. -/
def Application.unobserved (app : Application) : Application := { app with observers := {} }

/-- An application without its observers has the same configuration. -/
theorem Application.config_unobserved (app : Application) :
    app.unobserved.config = app.config := rfl

/-- A mounted application without its observers. -/
def Mount.unobserved (m : Mount) : Mount := { m with application := m.application.unobserved }

/-- The service without observers and without a worker. -/
def State.unobserved (s : State) : State :=
  { s with
    observers := {}
    mounts := s.mounts.map Mount.unobserved
    queue := ⟨[], s.queue.senders, .dropped⟩
    producerRuns := 0
    tasks := []
    delivered := [] }

/-- The service with other observers, of all applications and of each, and a worker in another
state. -/
def State.reobserved (shared : Observers) (own : String → Observers) (worker : Worker)
    (s : State) : State :=
  { s with
    observers := shared
    mounts := s.mounts.map fun m =>
      { m with application := { m.application with observers := own m.path } }
    queue := { s.queue with worker } }

/-- Other observers make no difference to a service without observers. -/
theorem State.unobserved_reobserved (shared : Observers) (own : String → Observers)
    (worker : Worker) (s : State) : (s.reobserved shared own worker).unobserved = s.unobserved := by
  unfold State.unobserved State.reobserved
  dsimp only
  rw [List.map_map]
  rfl

/-- Observers are left out once. -/
theorem State.unobserved_unobserved (s : State) : s.unobserved.unobserved = s.unobserved := by
  unfold State.unobserved
  dsimp only
  rw [List.map_map]
  rfl

namespace State

/-! ## What a service does without the worker -/

/-- Without observers the applications have the same caches. -/
theorem caches?_unobserved (s : State) (path : String) :
    s.unobserved.caches? path = s.caches? path :=
  caches?_recast Application.config_unobserved s path

/-- Sent events make no difference to a service without observers. -/
theorem unobserved_send (s : State) (es : List Event) : (s.send es).unobserved = s.unobserved :=
  recast_send s es

/-- Caches are replaced alike without observers. -/
theorem unobserved_setCaches (s : State) (path : String) (cs : Caches) :
    (s.setCaches path cs).unobserved = s.unobserved.setCaches path cs :=
  recast_setCaches Application.config_unobserved s path cs

/-- Caches are cleared alike without observers. -/
theorem unobserved_clearCaches (s : State) : s.clearCaches.unobserved = s.unobserved.clearCaches :=
  recast_clearCaches s

/-- Caches are purged alike without observers. -/
theorem unobserved_purgeAll (s : State) (maxAge : Nat) :
    (s.purgeAll maxAge).2.unobserved = (s.unobserved.purgeAll maxAge).2 :=
  recast_purgeAll s maxAge

/-- Time passes alike without observers. -/
theorem unobserved_wait (s : State) (duration : Nat) :
    (s.wait duration).unobserved = s.unobserved.wait duration :=
  recast_wait s duration

/-- A sweeper is started alike without observers. -/
theorem unobserved_startPurge (s : State) (interval maxAge : Nat) :
    (s.startPurge interval maxAge).2.unobserved = (s.unobserved.startPurge interval maxAge).2 :=
  recast_startPurge s interval maxAge

/-- The worker makes no difference to a service without observers. -/
theorem unobserved_workerStep (s : State) : s.workerStep.unobserved = s.unobserved :=
  recast_workerStep s

/-! ## Requests -/

/-- Requests are accepted alike without observers. -/
theorem accepted?_unobserved (s : State) (r : Request) :
    s.unobserved.accepted? r = (s.accepted? r).map fun a => (a.1.unobserved, a.2) :=
  accepted?_recast Application.config_unobserved s r

/-- Who observes an application has no influence on what becomes of a message. -/
theorem dispatch_unobserved (production : Bool) (now : Nat) (app : Application) (cs : Caches)
    (t : RequestType) (payload : Json) :
    dispatch production now app.unobserved cs t payload =
      dispatch production now app cs t payload := by
  cases t <;> rfl

/-- **A request is answered as if nobody observed it**, and leaves the service so. -/
theorem serve_unobserved (clock : Nat → String) (s : State) (r : Request) :
    s.unobserved.serve clock r = ((s.serve clock r).1, (s.serve clock r).2.unobserved) := by
  apply serve_recast Application.config_unobserved
  intro m payload _
  exact dispatch_unobserved _ _ _ _ _ _

end State

/-! ## Traffic without observers -/

/-- The exchange without observers. -/
def Exchange.unobserved (x : Exchange) : Exchange :=
  { x with application := x.application.unobserved }

/-- The move is the worker's. -/
def Move.isWork : Move → Bool
  | work => true
  | _ => false

namespace Traffic

/-- The traffic without all that concerns observers. -/
def unobserved (t : Traffic) : Traffic where
  service := t.service.unobserved
  exchanges := t.exchanges.map Exchange.unobserved
  answers := t.answers

/-- Emitted events make no difference to traffic without observers. -/
theorem unobserved_emit (t : Traffic) (es : List Event) :
    (t.emit es).unobserved = t.unobserved := by
  unfold emit unobserved
  dsimp only
  rw [State.unobserved_send]

/-- The worker makes no difference to traffic without observers. -/
theorem unobserved_work (t : Traffic) : t.work.unobserved = t.unobserved := by
  unfold work unobserved
  dsimp only
  rw [State.unobserved_workerStep]

/-- The same moves are possible without observers. -/
theorem allows_unobserved (t : Traffic) (m : Move) : t.unobserved.allows m = t.allows m := by
  cases m with
  | release =>
      show ((t.exchanges.map Exchange.unobserved).isEmpty || _) = _
      rw [List.isEmpty_map]
      rfl
  | _ => rfl

/-- There is nothing to erase where everything has been erased. -/
theorem unobserved_unobserved (t : Traffic) : t.unobserved.unobserved = t.unobserved := by
  unfold unobserved
  dsimp only
  rw [State.unobserved_unobserved, List.map_map]
  rfl

/-- What the arrival of a request leads to is the same up to observers. The right side has to be
erased once more, since a record is kept of what is emitted without observers, too. -/
theorem unobserved_arrive (clock : Nat → String) (t : Traffic) (r : Request) :
    (t.arrive clock r).unobserved = (t.unobserved.arrive clock r).unobserved := by
  have haccepted : t.unobserved.service.accepted? r =
      (t.service.accepted? r).map fun a => (a.1.unobserved, a.2) :=
        State.accepted?_unobserved t.service r
  unfold arrive
  rw [haccepted]
  cases t.service.accepted? r with
  | none =>
      have hserve : t.unobserved.service.serve clock r =
          ((t.service.serve clock r).1, (t.service.serve clock r).2.unobserved) :=
        State.serve_unobserved clock t.service r
      dsimp only [Option.map_none]
      rw [hserve]
      unfold unobserved
      dsimp only
      rw [State.unobserved_unobserved, List.map_map]
      rfl
  | some a =>
      dsimp only [Option.map_some, emit]
      unfold unobserved
      dsimp only
      rw [State.unobserved_send, State.unobserved_send, State.unobserved_unobserved,
        List.map_append, List.map_append, List.map_map]
      rfl

/-- A message is dispatched alike without observers. -/
theorem unobserved_dispatchedService (s : State) (path : String) (d : Dispatch) :
    (dispatchedService s path d).unobserved = dispatchedService s.unobserved path d := by
  have hcaches := State.unobserved_setCaches s path d.caches
  exact congrArg (fun service : State => { service with
    metrics := s.metrics.observeInvocations d.invocations.1 d.invocations.2
    handlerCalls := s.handlerCalls ++ d.handlerCalls }) hcaches

/-- A request is processed alike without observers. -/
theorem unobserved_process (t : Traffic) (i : Nat) :
    (t.process i).unobserved = (t.unobserved.process i).unobserved := by
  have hexchange : t.unobserved.exchanges[i]? = t.exchanges[i]?.map Exchange.unobserved :=
    List.getElem?_map
  unfold process
  rw [hexchange]
  cases t.exchanges[i]? with
  | none => exact (unobserved_unobserved t).symm
  | some x =>
      have hcaches : t.unobserved.service.caches? x.unobserved.application.serverPath =
          t.service.caches? x.application.serverPath := State.caches?_unobserved t.service _
      dsimp only [Option.map_some]
      rw [hcaches, show x.unobserved.ending = x.ending from rfl]
      split
      · next cs _ _ =>
        have hdispatch : dispatch t.unobserved.service.settings.production t.unobserved.service.now
              x.unobserved.application cs (RequestType.ofPayload x.unobserved.payload)
              x.unobserved.payload =
            dispatch t.service.settings.production t.service.now x.application cs
              (RequestType.ofPayload x.payload) x.payload :=
          State.dispatch_unobserved _ _ _ _ _ _
        rw [hdispatch]
        unfold unobserved
        dsimp only
        rw [unobserved_dispatchedService, unobserved_dispatchedService, State.unobserved_unobserved,
          List.map_set, List.map_set, List.map_map]
        rfl
      · exact (unobserved_unobserved t).symm

/-- A request is responded to alike without observers. -/
theorem unobserved_respond (t : Traffic) (i : Nat) :
    (t.respond i).unobserved = (t.unobserved.respond i).unobserved := by
  have hexchange : t.unobserved.exchanges[i]? = t.exchanges[i]?.map Exchange.unobserved :=
    List.getElem?_map
  unfold respond
  rw [hexchange]
  cases t.exchanges[i]? with
  | none => exact (unobserved_unobserved t).symm
  | some x =>
      dsimp only [Option.map_some]
      rw [show x.unobserved.ending = x.ending from rfl]
      cases x.ending with
      | none => exact (unobserved_unobserved t).symm
      | some ending =>
          -- the events may differ, but the erasure takes them away
          obtain ⟨hresponse, hmetrics, -⟩ :=
            conclude_of_config (Application.config_unobserved x.application)
              t.service.settings.production t.service.metrics (RequestType.ofPayload x.payload)
              ending
          have hresponse : (conclude t.unobserved.service.settings.production
              x.unobserved.application t.unobserved.service.metrics
              (RequestType.ofPayload x.unobserved.payload) ending).1 = _ := hresponse
          have hmetrics : (conclude t.unobserved.service.settings.production
              x.unobserved.application t.unobserved.service.metrics
              (RequestType.ofPayload x.unobserved.payload) ending).2.1 = _ := hmetrics
          have hcounted : ∀ metrics, ({ t.unobserved.service with metrics } : State).unobserved =
              ({ t.service with metrics } : State).unobserved :=
            fun metrics => State.unobserved_unobserved { t.service with metrics }
          dsimp only [emit]
          rw [hresponse, hmetrics]
          unfold unobserved
          dsimp only
          rw [State.unobserved_send, State.unobserved_send, List.eraseIdx_map, List.map_map,
            ← hcounted]
          rfl

/-- What touches the service alone, and commutes with the erasure there, does so beside requests as
well. -/
theorem unobserved_service {f : State → State} (hf : ∀ s, (f s).unobserved = f s.unobserved)
    (t : Traffic) :
    { t with service := f t.service }.unobserved =
      { t.unobserved with service := f t.unobserved.service }.unobserved := by
  have hservice : (f t.unobserved.service).unobserved = (f t.service).unobserved := by
    rw [hf, hf]
    exact congrArg f (State.unobserved_unobserved t.service)
  have herased : { t.unobserved with service := f t.unobserved.service }.unobserved =
      { t.unobserved.unobserved with service := (f t.unobserved.service).unobserved } := rfl
  rw [herased, hservice, unobserved_unobserved]
  rfl

/-- **What a move leads to is the same up to observers**, unless it is the worker's. -/
theorem unobserved_move (clock : Nat → String) (t : Traffic) {m : Move} (hm : m.isWork = false) :
    (t.move clock m).unobserved = (t.unobserved.move clock m).unobserved := by
  unfold move
  rw [allows_unobserved]
  split
  · cases m with
    | arrive r => exact unobserved_arrive clock t r
    | process i => exact unobserved_process t i
    | respond i => exact unobserved_respond t i
    | emit e =>
        show (t.emit [e]).unobserved = (t.unobserved.emit [e]).unobserved
        rw [unobserved_emit, unobserved_emit, unobserved_unobserved]
    | work => cases hm
    | hold =>
        exact unobserved_service (f := fun s => { s with queue := s.queue.addSender })
          (fun _ => rfl) t
    | release =>
        exact unobserved_service (f := fun s => { s with queue := s.queue.dropSender })
          (fun _ => rfl) t
    | wait duration => exact unobserved_service (fun s => s.unobserved_wait duration) t
    | sweep maxAge => exact unobserved_service (fun s => s.unobserved_purgeAll maxAge) t
    | startSweeper interval maxAge =>
        exact unobserved_service (fun s => s.unobserved_startPurge interval maxAge) t
    | clear => exact unobserved_service State.unobserved_clearCaches t
  · exact (unobserved_unobserved t).symm

/-! ## Runs without observers -/

/-- The moves that are not the worker's. -/
def served (moves : List Move) : List Move := moves.filter fun m => !m.isWork

/-- **What a run leads to, up to observers, is decided by what it starts from, up to observers, and
by the moves that are not the worker's**: what observers have left behind can be erased after each
of them. -/
theorem unobserved_run (clock : Nat → String) (t : Traffic) (moves : List Move) :
    (t.run clock moves).unobserved =
      (served moves).foldl (fun u m => (u.move clock m).unobserved) t.unobserved := by
  induction moves generalizing t with
  | nil => rfl
  | cons m rest ih =>
      have hrest : (t.run clock (m :: rest)).unobserved =
          (served rest).foldl (fun u m => (u.move clock m).unobserved)
            (t.move clock m).unobserved :=
        ih (t.move clock m)
      rw [hrest]
      cases hm : m.isWork with
      | false =>
          have hserved : served (m :: rest) = m :: served rest :=
            List.filter_cons_of_pos (by rw [hm]; rfl)
          rw [hserved, List.foldl_cons, unobserved_move clock t hm]
      | true =>
          have hserved : served (m :: rest) = served rest :=
            List.filter_cons_of_neg (by rw [hm]; decide)
          have hwork : t.move clock m = t.work := by
            cases m <;> first | rfl | cases hm
          rw [hserved, hwork, unobserved_work]

/-- Nobody who posts to the service, and nobody who looks at its caches and counters, can tell one
run from the other. -/
structure Indistinct (t t' : Traffic) : Prop where
  answers : t'.answers = t.answers
  caches : ∀ path, t'.service.caches? path = t.service.caches? path
  metrics : t'.service.metrics = t.service.metrics
  handlerCalls : t'.service.handlerCalls = t.service.handlerCalls

/-- Traffic that is the same without observers cannot be told apart. -/
theorem indistinct_of_unobserved {t t' : Traffic} (h : t'.unobserved = t.unobserved) :
    Indistinct t t' where
  answers := congrArg (fun u => u.answers) h
  caches := fun path => by
    rw [← State.caches?_unobserved t'.service, ← State.caches?_unobserved t.service]
    exact congrArg (fun u => u.service.caches? path) h
  metrics := congrArg (fun u => u.service.metrics) h
  handlerCalls := congrArg (fun u => u.service.handlerCalls) h

/-! ## Isolation -/

/-- **Callbacks are isolated** in a run from `s`: the worker works undisturbed, and nothing depends
on it. -/
structure CallbacksIsolated (clock : Nat → String) (s : State) (moves : List Move) : Prop where
  /-- The worker does its work, whatever the observers do and whatever happens beside it. -/
  orderly : Orderly clock s ((start s).run clock moves)
  /-- Whoever observes the service, whenever the worker takes its steps, and whether it is there at
  all, answers, caches, counters and calls of handlers are the same. -/
  indistinct : ∀ (shared : Observers) (own : String → Observers) (worker : Worker)
    (moves' : List Move), served moves' = served moves →
      Indistinct ((start s).run clock moves)
        ((start (s.reobserved shared own worker)).run clock moves')

/-- **Events reach observers, and nothing comes back**, in a service whose applications have
different paths, as those of every service that starts have (`paths_nodup_of_build`), and whose
worker is running. -/
theorem callbacks_isolated {s : State} (hs : (s.mounts.map Mount.path).Nodup)
    (hworker : s.queue.worker = .running) (clock : Nat → String) (moves : List Move) :
    CallbacksIsolated clock s moves := by
  constructor
  case orderly => exact orderly hs hworker clock moves
  case indistinct =>
    intro shared own worker moves' hmoves
    have hstart : (start (s.reobserved shared own worker)).unobserved = (start s).unobserved := by
      unfold start unobserved
      dsimp only
      rw [State.unobserved_reobserved]
    apply indistinct_of_unobserved
    rw [unobserved_run, unobserved_run, hmoves, hstart]

/-- The weather application in a service where telling an observer of a message panics. -/
def loudService : State :=
  { State.weatherService with
    observers :=
      { requests := { untyped := [⟨"loud", fun _ => .panics (.text "too loud")⟩] } } }

/-- The calls `a` and `b` at the same time, with the worker beside them. -/
def twoCalls : List Move :=
  [.arrive (State.weatherPost "assistant-request" "a"),
    .arrive (State.weatherPost "tool-calls" "b"), .work, .process 1, .work, .respond 1, .process 0,
    .work, .respond 0]

/-- Telling of both messages panics, and the worker goes on with the answer of `b`. -/
theorem callbacks_isolated_weather :
    (loudService.mounts.map Mount.path).Nodup ∧ loudService.queue.worker = .running ∧
      (((start loudService).run (fun time => toString time) twoCalls).dispatched.map fun d =>
        (d.1.fanOut loudService.observers).panic.isSome) = [true, true, false] ∧
      CallbacksIsolated (fun time => toString time) loudService twoCalls := by
  have hs : (loudService.mounts.map Mount.path).Nodup :=
    State.paths_nodup_of_build (s := State.weatherService) State.build_weather
  have hpanics : (((start loudService).run (fun time => toString time) twoCalls).dispatched.map
      fun d => (d.1.fanOut loudService.observers).panic.isSome) = [true, true, false] := by
    decide +kernel
  exact ⟨hs, rfl, hpanics, callbacks_isolated hs rfl (fun time => toString time) twoCalls⟩

end Traffic

end Switchboard

import Switchboard.Proofs.Service.Traffic

/-!
# A service with other applications in place of its own

`State.recast f` puts `f app` in the place of each application `app` and forgets who observes the
service. As long as `f` keeps configurations, everything that a service does apart from its
applications commutes with this: what happens to caches, how time passes, which application a
request leads to.

* `recast_setCaches`, `recast_clearCaches`, `recast_purgeAll`, `recast_wait`, `recast_startPurge`,
  `recast_workerStep`: the operations on a service, and with them every step of a run but a request
  (`recast_perform`).
* `route?_recast`, `webhook?_recast`, `accepted?_recast`: who accepts a request.
* **`serve_recast`**: a request is served alike if its message, should there be one, is dispatched
  alike.
-/

namespace Switchboard

/-! ### Recasting -/

/-- A mounted application, exchanged. -/
def Mount.recast (f : Application → Application) (m : Mount) : Mount :=
  { m with application := f m.application }

/-- What a path leads to, with the application exchanged. -/
def Route.recast (f : Application → Application) : Route → Route
  | builtIn page => builtIn page
  | webhook m => webhook (m.recast f)

/-- The service with its applications exchanged, without observers and without a worker. -/
def State.recast (f : Application → Application) (s : State) : State :=
  { s with
    observers := {}
    mounts := s.mounts.map (Mount.recast f)
    queue := ⟨[], s.queue.senders, .dropped⟩
    producerRuns := 0
    tasks := []
    delivered := [] }

/-! ### Events and conclusions -/

/-- What an event tells of: the path of the application, the type of the message, and the message or
the answer. -/
def Event.told (e : Event) : String × RequestType × EventContent :=
  (e.application.serverPath, e.type, e.content)

/-- What a message is concluded with depends on the configuration of the application alone. -/
theorem conclude_of_config {app app' : Application} (h : app'.config = app.config)
    (production : Bool) (m : Metrics) (t : RequestType) (ending : Ending) :
    (conclude production app' m t ending).1 = (conclude production app m t ending).1 ∧
      (conclude production app' m t ending).2.1 = (conclude production app m t ending).2.1 ∧
      (conclude production app' m t ending).2.2.map Event.told =
        (conclude production app m t ending).2.2.map Event.told := by
  have hpath : app'.serverPath = app.serverPath := congrArg ApplicationConfig.serverPath h
  cases ending with
  | answered answer => simp [conclude, Event.told, hpath]
  | unwound p => exact ⟨rfl, rfl, rfl⟩
  | refused e =>
      unfold conclude
      dsimp only
      cases e.render production <;> simp [Event.told, hpath]

section recast

variable {f : Application → Application}

/-- Applications that are recast keep their paths. -/
theorem Mount.path_recast (hf : ∀ app, (f app).config = app.config) (m : Mount) :
    (m.recast f).path = m.path :=
  congrArg ApplicationConfig.serverPath (hf m.application)

namespace State

variable {s : State} {r : Request} {m : Mount} {payload : Json}

/-! ### What has nothing to do with applications -/

/-- A service is recast application by application. -/
theorem mounts_recast (s : State) : (s.recast f).mounts = s.mounts.map (Mount.recast f) := rfl

/-- Sent events have no part in a service that is recast. -/
theorem recast_send (s : State) (es : List Event) : (s.send es).recast f = s.recast f := by
  unfold send recast
  dsimp only
  rw [CallbackQueue.senders_sendAll]

/-- The tasks of observers have no part in a service that is recast. -/
theorem recast_finishTasks (s : State) : s.finishTasks.recast f = s.recast f := rfl

/-- Caches are cleared alike in a service that is recast. -/
theorem recast_clearCaches (s : State) : s.clearCaches.recast f = (s.recast f).clearCaches := by
  have hmounts : s.clearCaches.mounts.map (Mount.recast f) = (s.recast f).clearCaches.mounts := by
    unfold clearCaches
    rw [mounts_recast, List.map_map, List.map_map]
    rfl
  exact congrArg (fun mounts => { s.recast f with mounts }) hmounts

/-- Applications that are recast are purged alike, with the same count. -/
theorem purgeMounts_recast (now maxAge : Nat) (ms : List Mount) :
    purgeMounts now maxAge (ms.map (Mount.recast f)) =
      ((purgeMounts now maxAge ms).1, (purgeMounts now maxAge ms).2.map (Mount.recast f)) := by
  induction ms with
  | nil => rfl
  | cons m rest ih =>
      rw [List.map_cons, purgeMounts, ih]
      rfl

/-- A sweep is made alike in a service that is recast. -/
theorem recast_purgeAll (s : State) (maxAge : Nat) :
    (s.purgeAll maxAge).2.recast f = ((s.recast f).purgeAll maxAge).2 := by
  unfold purgeAll
  rw [mounts_recast, show (s.recast f).now = s.now from rfl, purgeMounts_recast]
  rfl

/-- Sweeps are made alike in a service that is recast. -/
theorem recast_sweeps (s : State) (sweeps : List (Nat × Nat)) :
    (sweeps.foldl sweepAt s).recast f = sweeps.foldl sweepAt (s.recast f) := by
  induction sweeps generalizing s with
  | nil => rfl
  | cons sweep rest ih =>
      have hsweep : (s.sweepAt sweep).recast f = (s.recast f).sweepAt sweep :=
        recast_purgeAll { s with now := sweep.1 } sweep.2
      rw [List.foldl_cons, List.foldl_cons, ih, hsweep]

/-- Time passes alike in a service that is recast. -/
theorem recast_wait (s : State) (duration : Nat) :
    (s.wait duration).recast f = (s.recast f).wait duration := by
  have hsweeps := recast_sweeps (f := f) s (s.dueSweeps (s.now + duration))
  have hdue : (s.recast f).dueSweeps ((s.recast f).now + duration) =
      s.dueSweeps (s.now + duration) := rfl
  unfold wait
  dsimp only
  rw [recast_finishTasks, hdue, ← hsweeps]
  rfl

/-- A sweeper is started alike in a service that is recast. -/
theorem recast_startPurge (s : State) (interval maxAge : Nat) :
    (s.startPurge interval maxAge).2.recast f = ((s.recast f).startPurge interval maxAge).2 := by
  unfold startPurge
  rw [show (s.recast f).now = s.now from rfl]
  cases Sweeper.start? s.now (Sweeper.pause interval) <;> rfl

/-- The worker does nothing that is left without observers. -/
theorem recast_workerStep (s : State) : s.workerStep.recast f = s.recast f := by
  have hsenders := s.queue.senders_step
  unfold workerStep
  generalize s.queue.step = step at hsenders ⊢
  obtain ⟨event, queue⟩ := step
  have hqueue : ({ s with queue } : State).recast f = s.recast f := by
    unfold recast
    dsimp only at hsenders ⊢
    rw [hsenders]
  cases event with
  | none => exact hqueue
  | some e => exact hqueue

/-- Work in the background has no part in a service that is recast. -/
theorem recast_settle (s : State) : s.settle.recast f = s.recast f := by
  have hsteps : ∀ (n : Nat) (s : State), (workerSteps n s).recast f = s.recast f := by
    intro n
    induction n with
    | zero => exact fun _ => rfl
    | succ n ih => exact fun s => (ih s.workerStep).trans (recast_workerStep s)
  exact hsteps _ s

/-- Every step but a request leads to the same with other applications. -/
theorem recast_perform {step : Step} (hstep : step.request? = none) (clock : Nat → String) :
    (s.perform clock step).recast f = (s.recast f).perform clock step := by
  cases step with
  | request r => cases hstep
  | wait duration => exact recast_wait s duration
  | sweep maxAge => exact recast_purgeAll s maxAge
  | startSweeper interval maxAge => exact recast_startPurge s interval maxAge
  | clear => exact recast_clearCaches s
  | settle => exact recast_settle s

/-! ### What configurations decide -/

section config

variable (hf : ∀ app, (f app).config = app.config)
include hf

/-- Applications that are recast keep their caches. -/
theorem caches?_recast (s : State) (path : String) :
    (s.recast f).caches? path = s.caches? path := by
  unfold caches? mount?
  rw [mounts_recast, List.find?_map, Option.map_map]
  simp only [Function.comp_def, Mount.path_recast hf]
  rfl

/-- Caches are replaced alike in a service that is recast. -/
theorem recast_setCaches (s : State) (path : String) (cs : Caches) :
    (s.setCaches path cs).recast f = (s.recast f).setCaches path cs := by
  have hmounts : (s.setCaches path cs).mounts.map (Mount.recast f) =
      ((s.recast f).setCaches path cs).mounts := by
    rw [mounts_setCaches, mounts_setCaches, mounts_recast, List.map_map, List.map_map]
    simp only [Function.comp_def, Mount.path_recast hf]
    rfl
  exact congrArg (fun mounts => { s.recast f with mounts }) hmounts

/-- Applications that are recast keep their patterns. -/
theorem patterns_recast (s : State) :
    (s.recast f).patterns = s.patterns.map fun e => (e.1, e.2.recast f) := by
  unfold patterns
  rw [mounts_recast, List.filterMap_map, List.map_filterMap]
  simp only [Function.comp_def, Mount.path_recast hf, Option.map_map]

/-- Paths lead to the same, which has been recast. -/
theorem route?_recast (s : State) (path : String) :
    (s.recast f).route? path = (s.route? path).map (Route.recast f) := by
  unfold route?
  rw [patterns_recast hf, PathPattern.find?_map, show (s.recast f).settings = s.settings from rfl]
  cases (BuiltIn.served s.settings.production).find? fun page => page.path = path with
  | some page => rfl
  | none =>
      dsimp only
      rw [Option.map_map, Option.map_map]
      rfl

/-- Requests go to the same application, which has been recast. -/
theorem webhook?_recast (s : State) (r : Request) :
    (s.recast f).webhook? r = (s.webhook? r).map (Mount.recast f) := by
  unfold webhook?
  cases r.path? with
  | none => rfl
  | some path =>
      rw [Option.bind_some, Option.bind_some, route?_recast hf]
      cases s.route? path with
      | none => rfl
      | some route => cases route <;> rfl

/-- The same requests are accepted, for applications that have been recast. -/
theorem accepted?_recast (s : State) (r : Request) :
    (s.recast f).accepted? r = (s.accepted? r).map fun a => (a.1.recast f, a.2) := by
  unfold accepted?
  rw [webhook?_recast hf]
  cases s.webhook? r with
  | none => rfl
  | some m =>
      rw [Option.map_some]
      dsimp only
      rw [show (m.recast f).application.config = m.application.config from hf m.application]
      split
      · rw [Option.map_map]
        rfl
      · rfl

/-- The pages of the service are the same when it is recast. -/
theorem serveBuiltIn_recast (clock : Nat → String) (s : State) (page : BuiltIn) :
    (s.recast f).serveBuiltIn clock page =
      ((s.serveBuiltIn clock page).1, (s.serveBuiltIn clock page).2.recast f) := by
  cases page with
  | health =>
      have hbody : (s.recast f).healthBody = s.healthBody := by
        unfold healthBody
        rw [mounts_recast, List.map_map]
        simp only [Function.comp_def, Mount.path_recast hf]
        rfl
      show (Response.json 200 (s.recast f).healthBody, s.recast f) = _
      rw [hbody]
      rfl
  | caches =>
      have hbody : (s.recast f).cachesBody clock = s.cachesBody clock := by
        unfold cachesBody
        rw [mounts_recast, List.map_map]
        simp only [Function.comp_def, Mount.path_recast hf]
        rfl
      show (Response.json 200 ((s.recast f).cachesBody clock), s.recast f) = _
      rw [hbody]
      rfl
  | clearCaches =>
      show (_, (s.recast f).clearCaches) = _
      rw [← recast_clearCaches]
      rfl
  | _ => rfl

/-! ### Requests -/

omit hf in
/-- Without a worker nothing is put on the queue. -/
theorem send_of_dropped (h : s.queue.worker = .dropped) (es : List Event) : s.send es = s := by
  have hqueue : s.queue.sendAll es = s.queue :=
    CallbackQueue.sendAll_of_not_running (by rw [h]; decide) es
  unfold send
  rw [hqueue]

/-- A request that is not accepted is refused alike. -/
theorem serve_recast_of_not_accepted (h : s.accepted? r = none) (clock : Nat → String) :
    (s.recast f).serve clock r = ((s.serve clock r).1, (s.serve clock r).2.recast f) := by
  unfold serve
  unfold accepted? webhook? at h
  cases hpath : r.path? with
  | none => rfl
  | some path =>
      rw [hpath, Option.bind_some] at h
      rw [Option.map_some, Option.map_some, route?_recast hf]
      cases hroute : s.route? path with
      | none => rfl
      | some route =>
          rw [hroute] at h
          rw [Option.map_some]
          cases route with
          | builtIn page =>
              dsimp only [Route.recast]
              split
              · rw [serveBuiltIn_recast hf]
              · rfl
          | webhook m =>
              dsimp only [Route.recast] at h ⊢
              rw [show (m.recast f).application.config = m.application.config from hf m.application]
              split
              · rfl
              · next hsecret =>
                split
                · rfl
                · next hmethod =>
                  split
                  · rfl
                  · next hlength =>
                    -- what is wrong with the request is its body
                    have hpass : passesSecret m.application.config.secret r = true ∧
                        r.method = "POST" ∧ r.body.length ≤ greatestBody :=
                      ⟨by simpa using hsecret, by simpa using hmethod, by omega⟩
                    rw [if_pos hpass] at h
                    cases hbody : Json.ofBytes r.body with
                    | ok payload =>
                        rw [hbody] at h
                        cases h
                    | error e =>
                        have hcaches := recast_setCaches hf s m.path m.caches
                        unfold serveWebhook handle
                        rw [hbody]
                        dsimp only
                        rw [recast_send, Mount.path_recast hf]
                        exact congrArg (Prod.mk _) (congrArg (fun service : State => { service with
                          metrics := s.metrics, handlerCalls :=
                            s.handlerCalls ++ [] }) hcaches.symm)

/-- What serving an accepted request leads to is decided by what its message is dispatched to and by
what that is concluded with. -/
theorem recast_serve_of_accepted (h : s.accepted? r = some (m, payload)) (clock : Nat → String) :
    (s.serve clock r).2.recast f =
      { (s.recast f).setCaches m.path (s.dispatched m payload).caches with
        metrics := (s.concluded m payload).2.1
        handlerCalls := s.handlerCalls ++ (s.dispatched m payload).handlerCalls } := by
  have hcaches := recast_setCaches hf s m.path (s.dispatched m payload).caches
  rw [serve_of_accepted h, recast_send]
  exact congrArg (fun service : State => { service with
    metrics := (s.concluded m payload).2.1
    handlerCalls := s.handlerCalls ++ (s.dispatched m payload).handlerCalls }) hcaches

/-- **A request is served alike** by applications that would dispatch its message alike. -/
theorem serve_recast (clock : Nat → String)
    (hsame : ∀ m payload, s.accepted? r = some (m, payload) →
      (s.recast f).dispatched (m.recast f) payload = s.dispatched m payload) :
    (s.recast f).serve clock r = ((s.serve clock r).1, (s.serve clock r).2.recast f) := by
  cases h : s.accepted? r with
  | none => exact serve_recast_of_not_accepted hf h clock
  | some a =>
      obtain ⟨m, payload⟩ := a
      have hdispatched := hsame m payload h
      have haccepted : (s.recast f).accepted? r = some (m.recast f, payload) := by
        rw [accepted?_recast hf, h]
        rfl
      have hconcluded : (s.recast f).concluded (m.recast f) payload =
          conclude s.settings.production (f m.application)
            (s.metrics.observeInvocations (s.dispatched m payload).invocations.1
              (s.dispatched m payload).invocations.2)
            (RequestType.ofPayload payload) (s.dispatched m payload).ending := by
        rw [concluded, hdispatched]
        rfl
      obtain ⟨hresponse, hmetrics, -⟩ :=
        conclude_of_config (hf m.application) s.settings.production
          (s.metrics.observeInvocations (s.dispatched m payload).invocations.1
            (s.dispatched m payload).invocations.2)
          (RequestType.ofPayload payload) (s.dispatched m payload).ending
      rw [recast_serve_of_accepted hf h, serve_of_accepted haccepted, response_serve h,
        hdispatched, hconcluded, hresponse, hmetrics, send_of_dropped rfl, Mount.path_recast hf]
      rfl

end config

end State

end recast

end Switchboard

import Mathlib.Data.List.Perm.Basic
import Switchboard.Proofs.Service.Events

/-!
# The worker beside the webhooks

Requests put events on the queue while the worker takes them off, and neither waits for the other.
This file runs both beside each other, in any order: a request arrives, its message is processed, it
is responded to, and between any two of these the worker can take a step, other requests can do so,
and time can pass.

* `Exchange`, `Traffic`, `Move`: the requests that are being served, the service with a record of
  what has been emitted and dispatched, and one thing that can happen. A move that is not possible
  does nothing: nobody sends who has let go of the queue, and the last one does not let go while a
  request is being served.
* `serve_eq_moves`: the three moves of a request in a row are what serving the request does.
* `Traffic.Follows`: the invariant. Whatever has been emitted has been dispatched, in order, or is
  on the queue, and what observers have been told is what the dispatched events tell them, each by
  itself.
* **`Traffic.orderly`**: so it is after any moves. No panic stops the worker; it stops when nobody
  is left who could send and everything has been dispatched.
-/

namespace Switchboard

/-! ## Requests that are being served -/

/-- A request that an application has accepted and that has not been responded to. -/
structure Exchange where
  /-- The request. -/
  request : Request
  /-- The application that has accepted it. -/
  application : Application
  /-- The payload in its body. -/
  payload : Json
  /-- How the handling of its message has ended, once it has. -/
  ending : Option Ending := none

/-- A service at work, with a record of what has happened to events. -/
structure Traffic where
  /-- The service. -/
  service : State
  /-- The requests that are being served. -/
  exchanges : List Exchange := []
  /-- The requests that have been responded to and what they have been answered, in order. -/
  answers : List (Request × Except Panic Response) := []
  /-- The events that have been emitted, in order. -/
  emitted : List Event := []
  /-- The events that the worker has dispatched, in order, and when. -/
  dispatched : List (Event × Nat) := []

/-- One thing that can happen. -/
inductive Move where
  /-- A request arrives. -/
  | arrive (r : Request)
  /-- The message of a request is processed. -/
  | process (i : Nat)
  /-- A request is responded to. -/
  | respond (i : Nat)
  /-- Somebody else emits an event. -/
  | emit (e : Event)
  /-- The worker takes a step. -/
  | work
  /-- One more can send. -/
  | hold
  /-- One less can send. -/
  | release
  /-- Time passes. -/
  | wait (duration : Nat)
  /-- The caches are swept now. -/
  | sweep (maxAge : Nat)
  /-- A sweeper is started. -/
  | startSweeper (interval maxAge : Nat)
  /-- The caches are emptied. -/
  | clear

namespace CallbackQueue

variable {q : CallbackQueue}

/-- Where nobody takes events off, they are lost. -/
theorem sendAll_of_not_running (h : q.worker ≠ .running) (es : List Event) :
    q.sendAll es = q := by
  have hsend : ∀ e, q.send e = q := by
    intro e
    unfold send
    cases hworker : q.worker with
    | running => exact absurd hworker h
    | _ => rfl
  induction es with
  | nil => rfl
  | cons e rest ih =>
      show (q.send e).sendAll rest = q
      rw [hsend, ih]

/-- Sending leaves those who can send as they are. -/
theorem senders_sendAll (q : CallbackQueue) (es : List Event) :
    (q.sendAll es).senders = q.senders := by
  have hsend : ∀ (q : CallbackQueue) (e : Event), (q.send e).senders = q.senders := by
    intro q e
    unfold send
    split <;> rfl
  induction es generalizing q with
  | nil => rfl
  | cons e rest ih => exact (ih (q.send e)).trans (hsend q e)

/-- So does a step of the worker. -/
theorem senders_step (q : CallbackQueue) : q.step.2.senders = q.senders := by
  unfold step
  split
  · rfl
  · dsimp only
    split <;> rfl
  · rfl

/-- A running worker takes the first event off the queue. -/
theorem step_of_cons {e : Event} {rest : List Event} (hworker : q.worker = .running)
    (hevents : q.events = e :: rest) : q.step = (some e, { q with events := rest }) := by
  unfold step
  rw [hworker, hevents]

/-- A running worker without events waits for more, or stops if nobody can send. -/
theorem step_of_nil (hworker : q.worker = .running) (hevents : q.events = []) :
    q.step = (none, if q.senders = 0 then { q with worker := .stopped } else q) := by
  unfold step
  rw [hworker, hevents]

/-- A worker that is not running does nothing. -/
theorem step_of_not_running (hworker : q.worker ≠ .running) : q.step = (none, q) := by
  unfold step
  cases h : q.worker with
  | running => exact absurd h hworker
  | _ => rfl

end CallbackQueue

namespace Traffic

/-- A service at the start of a run. -/
def start (s : State) : Traffic := { service := s }

/-- Emits events. -/
def emit (t : Traffic) (es : List Event) : Traffic :=
  { t with service := t.service.send es, emitted := t.emitted ++ es }

/-- A request arrives. It is answered at once if no application accepts it. -/
def arrive (clock : Nat → String) (t : Traffic) (r : Request) : Traffic :=
  match t.service.accepted? r with
  | none =>
    { t with
      service := (t.service.serve clock r).2
      answers := t.answers ++ [(r, (t.service.serve clock r).1)] }
  | some (m, payload) =>
    { t.emit [⟨m.application, RequestType.ofPayload payload, .request payload⟩] with
      exchanges := t.exchanges ++ [{ request := r, application := m.application, payload }] }

/-- The service when a message has been dispatched. -/
def dispatchedService (s : State) (path : String) (d : Dispatch) : State :=
  { s.setCaches path d.caches with
    metrics := s.metrics.observeInvocations d.invocations.1 d.invocations.2
    handlerCalls := s.handlerCalls ++ d.handlerCalls }

/-- Processes the message of a request, unless it has been. -/
def process (t : Traffic) (i : Nat) : Traffic :=
  match t.exchanges[i]? with
  | none => t
  | some x =>
    match x.ending, t.service.caches? x.application.serverPath with
    | none, some cs =>
      let d := dispatch t.service.settings.production t.service.now x.application cs
        (RequestType.ofPayload x.payload) x.payload
      { t with
        service := dispatchedService t.service x.application.serverPath d
        exchanges := t.exchanges.set i { x with ending := some d.ending } }
    | _, _ => t

/-- Responds to a request whose message has been processed. -/
def respond (t : Traffic) (i : Nat) : Traffic :=
  match t.exchanges[i]? with
  | none => t
  | some x =>
    match x.ending with
    | none => t
    | some ending =>
      let production := t.service.settings.production
      let c := conclude production x.application t.service.metrics
        (RequestType.ofPayload x.payload) ending
      { emit { t with service := { t.service with metrics := c.2.1 } } c.2.2 with
        exchanges := t.exchanges.eraseIdx i
        answers := t.answers ++ [(x.request, replyTo production c.1)] }

/-- The worker takes a step. -/
def work (t : Traffic) : Traffic :=
  { t with
    service := t.service.workerStep
    dispatched := t.dispatched ++ t.service.queue.step.1.toList.map fun e => (e, t.service.now) }

/-- Somebody is left who can send. -/
def isHeld (t : Traffic) : Bool := 0 < t.service.queue.senders

/-- The move is possible: only those send who can, and the last one does not let go while a request
is being served. -/
def allows (t : Traffic) : Move → Bool
  | .arrive _ | .emit _ | .hold | .startSweeper _ _ => t.isHeld
  | .release => t.exchanges.isEmpty || 1 < t.service.queue.senders
  | _ => true

/-- What a possible move leads to. -/
def perform (clock : Nat → String) (t : Traffic) : Move → Traffic
  | .arrive r => t.arrive clock r
  | .process i => t.process i
  | .respond i => t.respond i
  | .emit e => t.emit [e]
  | .work => t.work
  | .hold => { t with service.queue := t.service.queue.addSender }
  | .release => { t with service.queue := t.service.queue.dropSender }
  | .wait duration => { t with service := t.service.wait duration }
  | .sweep maxAge => { t with service := (t.service.purgeAll maxAge).2 }
  | .startSweeper interval maxAge => { t with service := (t.service.startPurge interval maxAge).2 }
  | .clear => { t with service := t.service.clearCaches }

/-- What a move leads to. -/
def move (clock : Nat → String) (t : Traffic) (m : Move) : Traffic :=
  if t.allows m then t.perform clock m else t

/-- What moves lead to, one after the other. -/
def run (clock : Nat → String) (t : Traffic) (moves : List Move) : Traffic :=
  moves.foldl (move clock) t

/-- Whoever can send can send after events have been emitted. -/
theorem isHeld_emit (t : Traffic) (es : List Event) : (t.emit es).isHeld = t.isHeld := by
  show decide (0 < (t.service.queue.sendAll es).senders) = _
  rw [CallbackQueue.senders_sendAll]
  rfl

/-! ## What does not concern the worker -/

/-- The observers' side of a service is untouched: the queue, what has been produced and told, and
the tasks, of which some may have finished. -/
structure Quiet (s s' : State) : Prop where
  applications : s'.applications = s.applications
  observers : s'.observers = s.observers
  queue : s'.queue = s.queue
  producerRuns : s'.producerRuns = s.producerRuns
  deliveries : (s'.delivered ++ s'.tasks).Perm (s.delivered ++ s.tasks)

section quiet

variable {s s' s'' : State}

/-- A service that stays as it is has been quiet. -/
theorem Quiet.refl (s : State) : Quiet s s := ⟨rfl, rfl, rfl, rfl, .refl _⟩

/-- A service that has been quiet twice has been quiet. -/
theorem Quiet.trans (h : Quiet s s') (h' : Quiet s' s'') : Quiet s s'' :=
  ⟨h'.applications.trans h.applications, h'.observers.trans h.observers, h'.queue.trans h.queue,
    h'.producerRuns.trans h.producerRuns, h'.deliveries.trans h.deliveries⟩

/-- A clearing is quiet. -/
theorem quiet_clearCaches (s : State) : Quiet s s.clearCaches :=
  ⟨State.applications_clearCaches s, rfl, rfl, rfl, .refl _⟩

/-- A sweep is quiet. -/
theorem quiet_purgeAll (s : State) (maxAge : Nat) : Quiet s (s.purgeAll maxAge).2 :=
  ⟨State.applications_purgeAll s maxAge, rfl, rfl, rfl, .refl _⟩

/-- Sweeps are quiet. -/
theorem quiet_sweeps (s : State) (sweeps : List (Nat × Nat)) :
    Quiet s (sweeps.foldl State.sweepAt s) := by
  induction sweeps generalizing s with
  | nil => exact .refl s
  | cons sweep rest ih =>
      have hsweep : Quiet s (s.sweepAt sweep) :=
        ⟨State.applications_purgeAll _ _, rfl, rfl, rfl, .refl _⟩
      exact hsweep.trans (ih (s.sweepAt sweep))

/-- A task that finishes is where it was, among those that have finished. -/
theorem quiet_finishTasks (s : State) : Quiet s s.finishTasks := by
  refine ⟨rfl, rfl, rfl, rfl, ?_⟩
  have hsplit : (s.tasks.filter (fun d => d.due ≤ s.now) ++
      s.tasks.filter fun d => s.now < d.due).Perm
      s.tasks := by
    have hcomplement : (fun d : Delivery => decide (s.now < d.due)) =
        fun d => !decide (d.due ≤ s.now) := by
      funext d
      rw [← decide_not]
      exact decide_eq_decide.2 Nat.not_le.symm
    rw [hcomplement]
    exact List.filter_append_perm _ _
  show ((s.delivered ++ s.tasks.filter fun d => d.due ≤ s.now) ++
    s.tasks.filter fun d => s.now < d.due).Perm _
  rw [List.append_assoc]
  exact hsplit.append_left s.delivered

/-- Time passes quietly, though tasks may finish. -/
theorem quiet_wait (s : State) (duration : Nat) : Quiet s (s.wait duration) := by
  have hsweeps := quiet_sweeps s (s.dueSweeps (s.now + duration))
  -- the clock and the sweepers are none of the worker's business
  have hclock : ∀ (now : Nat) (purgeTasks : List PurgeTask),
      Quiet s { (s.dueSweeps (s.now + duration)).foldl State.sweepAt s with now, purgeTasks } :=
    fun _ _ => ⟨hsweeps.applications, hsweeps.observers, hsweeps.queue, hsweeps.producerRuns,
      hsweeps.deliveries⟩
  exact (hclock _ _).trans (quiet_finishTasks _)

/-- A request that no application accepts is served quietly. -/
theorem quiet_serve {r : Request} (hs : (s.mounts.map Mount.path).Nodup) (h : s.accepted? r = none)
    (clock : Nat → String) : Quiet s (s.serve clock r).2 := by
  rw [State.serve_of_not_accepted hs h]
  split
  · exact quiet_clearCaches s
  · exact .refl s

/-- A message is dispatched quietly. -/
theorem quiet_dispatchedService (s : State) (path : String) (d : Dispatch) :
    Quiet s (dispatchedService s path d) :=
  ⟨State.applications_setCaches s path d.caches, rfl, rfl, rfl, .refl _⟩

end quiet

/-! ## The invariant -/

/-- What the events that have been dispatched make observers take note of. -/
def deliveriesOf (observers : Observers) (dispatched : List (Event × Nat)) : List Delivery :=
  dispatched.flatMap fun d => (d.1.fanOut observers).calls.filterMap (ObserverCall.delivery? d.2)

/-- How often the events that have been dispatched have had their answers produced. -/
def producerRunsOf (observers : Observers) (dispatched : List (Event × Nat)) : Nat :=
  dispatched.foldl (fun runs d => runs + (d.1.fanOut observers).producerRuns) 0

/-- **The traffic follows the service that it has started from.** -/
structure Follows (s : State) (t : Traffic) : Prop where
  applications : t.service.applications = s.applications
  observers : t.service.observers = s.observers
  order : s.queue.events ++ t.emitted = t.dispatched.map Prod.fst ++ t.service.queue.events
  producerRuns : t.service.producerRuns = s.producerRuns + producerRunsOf s.observers t.dispatched
  deliveries : (t.service.delivered ++ t.service.tasks).Perm
    (s.delivered ++ s.tasks ++ deliveriesOf s.observers t.dispatched)
  worker : t.service.queue.worker = .running ∨ t.service.queue.worker = .stopped ∧
    t.service.queue.senders = 0 ∧ t.service.queue.events = []
  held : t.exchanges ≠ [] → t.isHeld = true

section follows

variable {s : State} {t t' : Traffic}

/-- Traffic follows its service from the start. -/
theorem follows_start (hworker : s.queue.worker = .running) : Follows s (start s) where
  applications := rfl
  observers := rfl
  order := List.append_nil _
  producerRuns := rfl
  deliveries := by
    show (s.delivered ++ s.tasks).Perm (s.delivered ++ s.tasks ++ [])
    rw [List.append_nil]
  worker := .inl hworker
  held := fun h => absurd rfl h

/-- Traffic that follows a service with distinct paths has distinct paths. -/
theorem Follows.paths_nodup (h : Follows s t) (hs : (s.mounts.map Mount.path).Nodup) :
    (t.service.mounts.map Mount.path).Nodup := by
  rwa [State.paths_eq, h.applications, ← State.paths_eq]

/-- As long as somebody can send, the worker goes on. -/
theorem Follows.running (h : Follows s t) (hheld : t.isHeld = true) :
    t.service.queue.worker = .running := by
  rcases h.worker with hrunning | ⟨-, hsenders, -⟩
  · exact hrunning
  · simp [isHeld, hsenders] at hheld

/-- What does not concern the worker keeps the invariant. -/
theorem Follows.quiet (h : Follows s t) (hquiet : Quiet t.service t'.service)
    (hemitted : t'.emitted = t.emitted) (hdispatched : t'.dispatched = t.dispatched)
    (hexchanges : t'.exchanges ≠ [] → t.isHeld = true) : Follows s t' where
  applications := hquiet.applications.trans h.applications
  observers := hquiet.observers.trans h.observers
  order := by rw [hemitted, hdispatched, hquiet.queue, h.order]
  producerRuns := by rw [hquiet.producerRuns, hdispatched, h.producerRuns]
  deliveries := by rw [hdispatched]; exact hquiet.deliveries.trans h.deliveries
  worker := by rw [hquiet.queue]; exact h.worker
  held := by
    intro hopen
    rw [isHeld, hquiet.queue]
    exact hexchanges hopen

/-- What is emitted is put behind what is on the queue. -/
theorem Follows.emit (h : Follows s t) (hheld : t.isHeld = true) (es : List Event) :
    Follows s (t.emit es) := by
  have hrunning := h.running hheld
  have hqueue : (t.emit es).service.queue =
      { t.service.queue with events := t.service.queue.events ++ es } :=
    CallbackQueue.sendAll_of_running hrunning es
  exact {
    applications := h.applications
    observers := h.observers
    order := by
      rw [hqueue]
      show s.queue.events ++ (t.emitted ++ es) = t.dispatched.map Prod.fst ++ (_ ++ es)
      rw [← List.append_assoc, ← List.append_assoc, h.order]
    producerRuns := h.producerRuns
    deliveries := h.deliveries
    worker := by rw [hqueue]; exact .inl hrunning
    held := by
      intro _
      rw [isHeld, hqueue]
      exact hheld }

/-- The senders can change, as long as none is left only where no request is being served. -/
theorem Follows.senders (h : Follows s t) {senders : Nat}
    (hstopped : t.service.queue.worker = .stopped → senders = 0)
    (hheld : t.exchanges ≠ [] → 0 < senders) :
    Follows s { t with service.queue := { t.service.queue with senders } } where
  applications := h.applications
  observers := h.observers
  order := h.order
  producerRuns := h.producerRuns
  deliveries := h.deliveries
  worker := by
    rcases h.worker with hrunning | ⟨hworker, -, hevents⟩
    · exact .inl hrunning
    · exact .inr ⟨hworker, hstopped hworker, hevents⟩
  held := fun hopen => decide_eq_true (hheld hopen)

/-- A step of the worker dispatches the oldest event, whatever that ends in. -/
theorem work_of_cons {e : Event} {rest : List Event} (hrunning : t.service.queue.worker = .running)
    (hevents : t.service.queue.events = e :: rest) :
    t.work = { t with
      service :=
        State.tellObservers { t.service with queue := { t.service.queue with events := rest } } e
      dispatched := t.dispatched ++ [(e, t.service.now)] } := by
  unfold Traffic.work State.workerStep
  rw [CallbackQueue.step_of_cons hrunning hevents]
  rfl

/-- It does nothing where there is no event, but that it stops if nobody can send. -/
theorem work_of_nil (hrunning : t.service.queue.worker = .running)
    (hevents : t.service.queue.events = []) :
    t.work = { t with service.queue :=
      if t.service.queue.senders = 0 then { t.service.queue with worker := .stopped }
      else t.service.queue } := by
  unfold Traffic.work State.workerStep
  rw [CallbackQueue.step_of_nil hrunning hevents]
  dsimp only
  rw [Option.toList_none, List.map_nil, List.append_nil]

/-- A worker that is not running leaves the traffic. -/
theorem work_of_not_running (hworker : t.service.queue.worker ≠ .running) : t.work = t := by
  unfold Traffic.work State.workerStep
  rw [CallbackQueue.step_of_not_running hworker]
  dsimp only
  rw [Option.toList_none, List.map_nil, List.append_nil]

/-- **A step of the worker** takes the oldest event off the queue and tells observers of it, or
finds nothing to do and stops if nobody can send. -/
theorem Follows.work (h : Follows s t) : Follows s t.work := by
  rcases h.worker with hrunning | ⟨hstopped, -, -⟩
  · cases hevents : t.service.queue.events with
    | cons e rest =>
        rw [work_of_cons hrunning hevents]
        exact {
          applications := h.applications
          observers := h.observers
          order := by
            rw [h.order, hevents, List.map_append, List.append_assoc]
            rfl
          producerRuns := by
            show t.service.producerRuns + (e.fanOut t.service.observers).producerRuns = _
            rw [h.producerRuns, h.observers, producerRunsOf, producerRunsOf, List.foldl_append,
              Nat.add_assoc]
            rfl
          deliveries := by
            show (t.service.delivered ++
              (t.service.tasks ++ (e.fanOut t.service.observers).calls.filterMap
                (ObserverCall.delivery? t.service.now))).Perm _
            rw [← List.append_assoc, h.observers, deliveriesOf, List.flatMap_append,
              ← List.append_assoc]
            refine (h.deliveries.append_right _).trans ?_
            rw [List.flatMap_singleton]
            exact .refl _
          worker := .inl hrunning
          held := h.held }
    | nil =>
        rw [work_of_nil hrunning hevents]
        split
        · next hsenders =>
          exact { h with worker := .inr ⟨rfl, hsenders, hevents⟩ }
        · exact h
  · rw [work_of_not_running (by rw [hstopped]; decide)]
    exact h

/-- Where a request is being served, somebody can send. -/
theorem Follows.held_of_exchange (h : Follows s t) {i : Nat} {x : Exchange}
    (hx : t.exchanges[i]? = some x) :
    t.isHeld = true := by
  apply h.held
  rintro hnone
  rw [hnone] at hx
  cases hx

/-- Traffic goes on to follow its service when a request arrives. -/
theorem Follows.arrive (h : Follows s t) (hs : (s.mounts.map Mount.path).Nodup)
    (hheld : t.isHeld = true) (clock : Nat → String) (r : Request) :
    Follows s (t.arrive clock r) := by
  unfold Traffic.arrive
  split
  · next haccepted =>
    exact h.quiet (quiet_serve (h.paths_nodup hs) haccepted clock) rfl rfl h.held
  · exact (h.emit hheld _).quiet (.refl _) rfl rfl fun _ => by rw [isHeld_emit, hheld]

/-- Traffic goes on to follow its service when a message is processed. -/
theorem Follows.process (h : Follows s t) (i : Nat) : Follows s (t.process i) := by
  unfold Traffic.process
  split
  · exact h
  · next x hx =>
    split
    · exact h.quiet (quiet_dispatchedService _ _ _) rfl rfl fun _ => h.held_of_exchange hx
    · exact h

/-- Traffic goes on to follow its service when a request is responded to. -/
theorem Follows.respond (h : Follows s t) (i : Nat) : Follows s (t.respond i) := by
  unfold Traffic.respond
  split
  · exact h
  · next x hx =>
    split
    · exact h
    · have hheld := h.held_of_exchange hx
      have hcounted : ∀ metrics, Follows s { t with service := { t.service with metrics } } :=
        fun metrics => h.quiet ⟨rfl, rfl, rfl, rfl, .refl _⟩ rfl rfl fun _ => hheld
      exact ((hcounted (conclude _ _ _ _ _).2.1).emit hheld _).quiet (.refl _) rfl rfl fun _ => by
        rw [isHeld_emit]
        exact hheld

/-- One more who can send is no concern of the worker's. -/
theorem Follows.hold (h : Follows s t) (hheld : t.isHeld = true) :
    Follows s { t with service.queue := t.service.queue.addSender } := by
  refine h.senders (fun hstopped => ?_) fun _ => Nat.succ_pos _
  rw [h.running hheld] at hstopped
  cases hstopped

/-- Traffic goes on to follow its service when somebody lets go who is not needed. -/
theorem Follows.release (h : Follows s t)
    (hallowed : (t.exchanges.isEmpty || decide (1 < t.service.queue.senders)) = true) :
    Follows s { t with service.queue := t.service.queue.dropSender } := by
  refine h.senders (fun hstopped => ?_) fun hopen => ?_
  · rcases h.worker with hrunning | ⟨-, hsenders, -⟩
    · rw [hrunning] at hstopped
      cases hstopped
    · omega
  · have hmany : 1 < t.service.queue.senders := by simpa [hopen] using hallowed
    omega

/-- **Every move keeps the invariant.** -/
theorem Follows.move (h : Follows s t) (hs : (s.mounts.map Mount.path).Nodup)
    (clock : Nat → String) (m : Move) : Follows s (t.move clock m) := by
  unfold Traffic.move
  split
  · next hallowed =>
    cases m with
    | arrive r => exact h.arrive hs hallowed clock r
    | process i => exact h.process i
    | respond i => exact h.respond i
    | emit e => exact h.emit hallowed [e]
    | work => exact h.work
    | hold => exact h.hold hallowed
    | release => exact h.release hallowed
    | wait duration => exact h.quiet (quiet_wait _ duration) rfl rfl h.held
    | sweep maxAge => exact h.quiet (quiet_purgeAll _ maxAge) rfl rfl h.held
    | startSweeper interval maxAge =>
        show Follows s { t with service := (t.service.startPurge interval maxAge).2 }
        unfold State.startPurge
        split
        · exact h
        · have hmore := h.hold hallowed
          exact hmore.quiet ⟨rfl, rfl, rfl, rfl, .refl _⟩ rfl rfl hmore.held
    | clear => exact h.quiet (quiet_clearCaches _) rfl rfl h.held
  · exact h

/-- **Traffic follows its service** throughout all moves, by induction on them. -/
theorem Follows.run (h : Follows s t) (hs : (s.mounts.map Mount.path).Nodup)
    (clock : Nat → String) (moves : List Move) : Follows s (t.run clock moves) := by
  induction moves generalizing t with
  | nil => exact h
  | cons m rest ih => exact ih (h.move hs clock m)

/-- As many steps as there are events on the queue dispatch them all. -/
theorem dispatched_of_drained (clock : Nat → String) {events : List Event}
    (hrunning : t.service.queue.worker = .running) (hevents : t.service.queue.events = events) :
    (t.run clock (List.replicate events.length .work)).dispatched.map Prod.fst =
      t.dispatched.map Prod.fst ++ events := by
  induction events generalizing t with
  | nil => exact (List.append_nil _).symm
  | cons e rest ih =>
      have hwork := work_of_cons hrunning hevents
      have hrest := ih (t := t.work) (by rw [hwork]; exact hrunning) (by rw [hwork]; rfl)
      show (t.work.run clock (List.replicate rest.length .work)).dispatched.map Prod.fst = _
      rw [hrest, hwork, List.map_append, List.append_assoc]
      rfl

end follows

/-! ## The worker does its work -/

/-- **The worker does its work**, between the start of a service and the traffic that has come of
it. -/
structure Orderly (clock : Nat → String) (s : State) (t : Traffic) : Prop where
  /-- Every event that was on the queue or has been emitted has been dispatched, once and in order,
  or is on the queue behind those that have been. -/
  order : s.queue.events ++ t.emitted = t.dispatched.map Prod.fst ++ t.service.queue.events
  /-- Each event that has been dispatched has had its answer produced as it has by itself. -/
  producerRuns : t.service.producerRuns = s.producerRuns + producerRunsOf s.observers t.dispatched
  /-- Observers take note of what each of these events by itself makes them take note of, and of
  nothing else. -/
  deliveries : (t.service.delivered ++ t.service.tasks).Perm
    (s.delivered ++ s.tasks ++ deliveriesOf s.observers t.dispatched)
  /-- Whatever has happened, a panic in telling observers included, the worker goes on while
  somebody can send or something is on the queue. -/
  running : 0 < t.service.queue.senders ∨ t.service.queue.events ≠ [] →
    t.service.queue.worker = .running
  /-- It dispatches the oldest event next, whatever that ends in. -/
  progress : ∀ e rest, t.service.queue.events = e :: rest →
    (t.move clock .work).dispatched = t.dispatched ++ [(e, t.service.now)] ∧
      (t.move clock .work).service.queue = { t.service.queue with events := rest }
  /-- Left alone, it dispatches everything. -/
  drained :
    (t.run clock (List.replicate t.service.queue.events.length .work)).dispatched.map Prod.fst =
      s.queue.events ++ t.emitted
  /-- It stops only when nobody is left who could send and every event has been dispatched. -/
  stopped : t.service.queue.worker ≠ .running →
    t.service.queue.senders = 0 ∧ t.dispatched.map Prod.fst = s.queue.events ++ t.emitted

/-- Traffic that follows its service is orderly. -/
theorem Follows.orderly {s : State} {t : Traffic} (h : Follows s t) (clock : Nat → String) :
    Orderly clock s t := by
  have hcons : ∀ e rest, t.service.queue.events = e :: rest →
      t.service.queue.worker = .running := by
    intro e rest hevents
    rcases h.worker with hrunning | ⟨-, -, hnone⟩
    · exact hrunning
    · rw [hevents] at hnone
      cases hnone
  constructor
  case order => exact h.order
  case producerRuns => exact h.producerRuns
  case deliveries => exact h.deliveries
  case running =>
    rintro (hsenders | hevents)
    · exact h.running (decide_eq_true hsenders)
    · obtain ⟨e, rest, hevents⟩ := List.exists_cons_of_ne_nil hevents
      exact hcons e rest hevents
  case progress =>
    intro e rest hevents
    show t.work.dispatched = _ ∧ t.work.service.queue = _
    rw [work_of_cons (hcons e rest hevents) hevents]
    exact ⟨rfl, rfl⟩
  case drained =>
    rw [h.order]
    rcases h.worker with hrunning | ⟨-, -, hnone⟩
    · exact dispatched_of_drained clock hrunning rfl
    · rw [hnone, List.append_nil]
      rfl
  case stopped =>
    intro hstopped
    rcases h.worker with hrunning | ⟨-, hsenders, hnone⟩
    · exact absurd hrunning hstopped
    · refine ⟨hsenders, ?_⟩
      rw [h.order, hnone, List.append_nil]

/-- **Whatever happens beside it, the worker does its work.** -/
theorem orderly {s : State} (hs : (s.mounts.map Mount.path).Nodup)
    (hworker : s.queue.worker = .running) (clock : Nat → String) (moves : List Move) :
    Orderly clock s ((start s).run clock moves) :=
  ((follows_start hworker).run hs clock moves).orderly clock

/-! ## Requests that are served at once -/

section last

variable {t : Traffic} {before : List Exchange} {x : Exchange}

/-- To process the message of the latest request dispatches it. -/
theorem process_last {cs : Caches} (hx : t.exchanges = before ++ [x]) (hending : x.ending = none)
    (hcaches : t.service.caches? x.application.serverPath = some cs) (d : Dispatch)
    (hd : dispatch t.service.settings.production t.service.now x.application cs
      (RequestType.ofPayload x.payload) x.payload = d) :
    t.process before.length =
      { t with
        service := dispatchedService t.service x.application.serverPath d
        exchanges := before ++ [{ x with ending := some d.ending }] } := by
  unfold process
  rw [hx, List.getElem?_concat_length]
  dsimp only
  rw [hending, hcaches]
  dsimp only
  rw [hd, List.set_append_right _ _ (Nat.le_refl _), Nat.sub_self]
  rfl

/-- To respond to the latest request concludes it and takes it off the list. -/
theorem respond_last {ending : Ending} (hx : t.exchanges = before ++ [x])
    (hending : x.ending = some ending) (c : Except Panic Response × Metrics × List Event)
    (hc : conclude t.service.settings.production x.application t.service.metrics
      (RequestType.ofPayload x.payload) ending = c) :
    t.respond before.length =
      { emit { t with service := { t.service with metrics := c.2.1 } } c.2.2 with
        exchanges := before
        answers := t.answers ++ [(x.request, replyTo t.service.settings.production c.1)] } := by
  unfold respond
  rw [hx, List.getElem?_concat_length]
  dsimp only
  rw [hending]
  dsimp only
  rw [hc, List.eraseIdx_append_of_length_le (Nat.le_refl _), Nat.sub_self]
  rw [List.eraseIdx_cons_zero, List.append_nil]

end last

/-- **The three moves of a request in a row** are what serving the request does. -/
theorem serve_eq_moves {t : Traffic} {r : Request} {m : Mount} {payload : Json}
    (hs : (t.service.mounts.map Mount.path).Nodup) (hheld : t.isHeld = true)
    (h : t.service.accepted? r = some (m, payload)) (clock : Nat → String) :
    t.run clock [.arrive r, .process t.exchanges.length, .respond t.exchanges.length] =
      { t with
        service := (t.service.serve clock r).2
        answers := t.answers ++ [(r, (t.service.serve clock r).1)]
        emitted := t.emitted ++ t.service.emissions r } := by
  have hcaches : t.service.caches? m.application.serverPath = some m.caches :=
    State.caches?_of_mem hs (State.mem_of_accepted? h)
  have hemissions : t.service.emissions r =
      ⟨m.application, RequestType.ofPayload payload, .request payload⟩ ::
        (t.service.concluded m payload).2.2 := by
    unfold State.emissions
    rw [h]
  have harrive : t.arrive clock r =
      { t.emit [⟨m.application, RequestType.ofPayload payload, .request payload⟩] with
        exchanges := t.exchanges ++
          [{ request := r, application := m.application, payload }] } := by
    unfold arrive
    rw [h]
  show ((if t.isHeld then t.arrive clock r else t).process t.exchanges.length).respond
    t.exchanges.length = _
  rw [if_pos hheld, harrive,
    process_last rfl rfl hcaches (t.service.dispatched m payload) rfl,
    respond_last rfl rfl (t.service.concluded m payload) rfl, hemissions, State.serve_of_accepted h]
  dsimp only [emit]
  rw [List.append_assoc, List.singleton_append]
  rfl

end Traffic

end Switchboard

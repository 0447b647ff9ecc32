import Switchboard.Service.Webhook

/-!
# The queue between webhooks and observers

Webhooks put events on an unbounded queue and go on. A single worker takes them off in the order of
their arrival and tells the observers; the tasks that observers start run on their own. The worker
stops when nobody is left who could send and every event has been taken off.
-/

namespace Switchboard

/-- What the worker is doing. -/
inductive Worker where
  /-- It takes events off the queue. -/
  | running
  /-- It has stopped after the last event. -/
  | stopped
  /-- It was dropped; events are lost. -/
  | dropped
deriving DecidableEq

/-- The queue. -/
structure CallbackQueue where
  /-- The events on the queue, the oldest first. -/
  events : List Event := []
  /-- How many can send. -/
  senders : Nat := 1
  /-- Who takes events off. -/
  worker : Worker := .running

namespace CallbackQueue

/-- Puts an event on the queue, or loses it if nobody takes events off. -/
def send (q : CallbackQueue) (e : Event) : CallbackQueue :=
  match q.worker with
  | .running => { q with events := q.events ++ [e] }
  | _ => q

/-- Puts events on the queue in order. -/
def sendAll (q : CallbackQueue) (es : List Event) : CallbackQueue := es.foldl send q

/-- One more can send. -/
def addSender (q : CallbackQueue) : CallbackQueue := { q with senders := q.senders + 1 }

/-- One less can send. -/
def dropSender (q : CallbackQueue) : CallbackQueue := { q with senders := q.senders - 1 }

/-- One step of the worker: it takes the oldest event off, waits, or stops. -/
def step (q : CallbackQueue) : Option Event × CallbackQueue :=
  match q.worker, q.events with
  | .running, e :: rest => (some e, { q with events := rest })
  | .running, [] => (none, if q.senders = 0 then { q with worker := .stopped } else q)
  | _, _ => (none, q)

end CallbackQueue

/-! ## Telling observers -/

/-- An observer that has been told something. -/
structure ObserverCall where
  /-- The observer. -/
  observer : Observer
  /-- What it has been told. -/
  notification : Notification

/-- Telling the observer went wrong at once. -/
def ObserverCall.isPanic (c : ObserverCall) : Bool := (c.observer.react c.notification).isPanic

/-- The panic in which telling the observer ended at once. -/
def ObserverCall.panic? (c : ObserverCall) : Option Panic :=
  match c.observer.react c.notification with
  | .panics p => some p
  | .starts _ => none

/-- What the worker did with an event. -/
structure FanOut where
  /-- How often it had the answer produced. -/
  producerRuns : Nat
  /-- Whom it told what, in order. -/
  calls : List ObserverCall
  /-- The panic that this ended in; the worker catches it and goes on. -/
  panic : Option Panic

/-- The elements up to the first that satisfies `p`, that one included. -/
def takeThrough {α : Type} (p : α → Bool) : List α → List α
  | [] => []
  | a :: rest => if p a then [a] else a :: takeThrough p rest

/-- Whom an event is told, in order: the observers of all applications first, then those of its
own. -/
def Event.audience (shared : Observers) (e : Event) : List Observer :=
  shared.interested e.content.stage e.type ++
    e.application.observers.interested e.content.stage e.type

/-- Tells observers something, up to the first that panics at once. -/
def tell (observers : List Observer) (n : Notification) : List ObserverCall :=
  takeThrough ObserverCall.isPanic (observers.map fun o => ⟨o, n⟩)

/-- Tells observers something after the answer has been produced so many times. -/
def FanOut.telling (producerRuns : Nat) (observers : List Observer) (n : Notification) : FanOut :=
  let calls := tell observers n
  ⟨producerRuns, calls, calls.findSome? ObserverCall.panic?⟩

/-- Tells observers of an event. An answer that nobody wants to see is not produced, and one whose
production fails or panics is told nobody. -/
def Event.fanOut (shared : Observers) (e : Event) : FanOut :=
  let observers := e.audience shared
  let notification (body : Json) : Notification :=
    ⟨e.content.stage, e.application.serverPath, e.type, body⟩
  match e.content with
  | .request payload => .telling 0 observers (notification payload)
  | .response producer =>
    if observers.isEmpty then ⟨0, [], none⟩
    else
      match producer with
      | .returned v => .telling 1 observers (notification v)
      | .failed _ => ⟨1, [], none⟩
      | .panicked p => ⟨1, [], some p⟩

/-- A task of an observer that will finish. -/
structure Delivery where
  /-- When it finishes. -/
  due : Nat
  /-- The name of the observer. -/
  label : String
  /-- What the observer has been told. -/
  notification : Notification

/-- The task that a call starts at the time `now`, if it is one that will finish. -/
def ObserverCall.delivery? (now : Nat) (c : ObserverCall) : Option Delivery :=
  match c.observer.react c.notification with
  | .starts ⟨delay, .finishes⟩ => some ⟨now + delay, c.observer.label, c.notification⟩
  | _ => none

end Switchboard

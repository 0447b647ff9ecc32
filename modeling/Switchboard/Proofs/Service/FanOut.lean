import Mathlib.Data.List.Induction
import Switchboard.Service.CallbackQueue

/-!
# Telling observers of one event

The worker takes an event off the queue and tells the observers of it. `Event.fanOut` sums up what
it does; this file follows it step by step, so that the order of its steps can be spoken of.

* `Observers.ofRegistrations`, `registeredFor`: the observers that have been registered, as a list
  of registrations. `interested_ofRegistrations`: those who are told are the untyped ones and then
  those of the type, in the order in which they were registered.
* `Course`, `Event.course`: the steps of the worker for one event, and the panic in which they end.
  `fanOut_eq`: the summary of the course is `Event.fanOut`.
* `Told`: which observers of a list have been told, up to the first that panics.
* `FansOut`: the course that an event is to take.
* **`event_fanned_out`**: every event takes that course, whatever the observers and the producer do.
-/

namespace Switchboard

/-! ## Registrations -/

/-- An observer is registered at a stage, for one type or for all. -/
structure ObserverRegistration where
  /-- The stage. -/
  stage : Stage
  /-- The type, or none for all types. -/
  type : Option RequestType
  /-- The observer. -/
  observer : Observer

/-- The observers that have been registered, one after the other. -/
def Observers.ofRegistrations (rs : List ObserverRegistration) : Observers :=
  rs.foldl (fun os r => os.register r.stage r.type r.observer) {}

/-- The observers that have been registered at a stage for a type, or for all types, in order. -/
def registeredFor (rs : List ObserverRegistration) (stage : Stage) (type : Option RequestType) :
    List Observer :=
  (rs.filter fun r => r.stage = stage ∧ r.type = type).map ObserverRegistration.observer

/-- The observers registered for a stage and a type are those of the registrations for them. -/
theorem mem_registeredFor {rs : List ObserverRegistration} {stage : Stage}
    {type : Option RequestType} {o : Observer} :
    o ∈ registeredFor rs stage type ↔ ⟨stage, type, o⟩ ∈ rs := by
  simp only [registeredFor, List.mem_map, List.mem_filter, decide_eq_true_eq]
  constructor
  · rintro ⟨⟨_, _, _⟩, ⟨hr, rfl, rfl⟩, rfl⟩
    exact hr
  · intro hr
    exact ⟨_, ⟨hr, rfl, rfl⟩, rfl⟩

/-- A registration adds its observer behind those registered for its stage and type. -/
theorem registeredFor_concat (rs : List ObserverRegistration) (r : ObserverRegistration)
    (stage : Stage) (type : Option RequestType) :
    registeredFor (rs ++ [r]) stage type =
      registeredFor rs stage type ++
        if r.stage = stage ∧ r.type = type then [r.observer] else [] := by
  unfold registeredFor
  rw [List.filter_append, List.map_append]
  by_cases h : r.stage = stage ∧ r.type = type <;> simp [h]

/-- One more registration adds its observer at the end of its group. -/
theorem ofRegistrations_concat (rs : List ObserverRegistration) (r : ObserverRegistration) :
    Observers.ofRegistrations (rs ++ [r]) =
      (Observers.ofRegistrations rs).register r.stage r.type r.observer := by
  simp [Observers.ofRegistrations]

/-- The groups of observers are those that have been registered. -/
theorem ofStage_ofRegistrations (rs : List ObserverRegistration) (stage : Stage) :
    ((Observers.ofRegistrations rs).ofStage stage).untyped = registeredFor rs stage none ∧
      ∀ t,
        (((Observers.ofRegistrations rs).ofStage stage).typed.filter fun o => o.1 = t).map (·.2) =
          registeredFor rs stage (some t) := by
  induction rs using List.reverseRecOn with
  | nil => cases stage <;> exact ⟨rfl, fun _ => rfl⟩
  | append_singleton rs r ih =>
      obtain ⟨huntyped, htyped⟩ := ih
      obtain ⟨rstage, rtype, o⟩ := r
      simp only [ofRegistrations_concat, registeredFor_concat, ← huntyped, ← htyped]
      cases stage <;> cases rstage <;> cases rtype <;>
        simp [Observers.register, Observers.ofStage, List.filter_append, List.filter_cons] <;>
        intro t <;> split <;> simp

/-- The observers interested in a type are those registered for all types and then those registered
for this one. -/
theorem interested_ofRegistrations (rs : List ObserverRegistration) (stage : Stage)
    (t : RequestType) :
    (Observers.ofRegistrations rs).interested stage t =
      registeredFor rs stage none ++ registeredFor rs stage (some t) := by
  obtain ⟨huntyped, htyped⟩ := ofStage_ofRegistrations rs stage
  rw [Observers.interested, Audience.of, huntyped, htyped]

/-! ## Step by step -/

/-- One thing that the worker does with an event. -/
inductive FanOutStep where
  /-- It has the answer produced. -/
  | produces
  /-- It tells an observer. -/
  | tells (call : ObserverCall)

/-- What the worker does with an event. -/
structure Course where
  /-- The steps, in order. -/
  steps : List FanOutStep
  /-- The panic in which the last of them ended. -/
  panic : Option Panic

namespace Course

/-- How often the answer has been produced. -/
def producerRuns (c : Course) : Nat := c.steps.countP fun
  | .produces => true
  | .tells _ => false

/-- Whom the worker has told what, in order. -/
def calls (c : Course) : List ObserverCall := c.steps.filterMap fun
  | .produces => none
  | .tells call => some call

/-- The summary of a course. -/
def summary (c : Course) : FanOut := ⟨c.producerRuns, c.calls, c.panic⟩

/-- The course after a step that did not panic. -/
def after (c : Course) (step : FanOutStep) : Course := ⟨step :: c.steps, c.panic⟩

/-- Tells observers something, one after the other. A panic ends it. -/
def telling (n : Notification) : List Observer → Course
  | [] => ⟨[], none⟩
  | o :: rest =>
    match o.react n with
    | .panics p => ⟨[.tells ⟨o, n⟩], some p⟩
    | .starts _ => (telling n rest).after (.tells ⟨o, n⟩)

end Course

/-- What the worker does with an event of an application at a path: it has an answer produced if
somebody wants to see it, and tells the observers of the stage. -/
def Course.ofContent (path : String) (t : RequestType) (observers : Stage → List Observer) :
    EventContent → Course
  | .request payload => .telling ⟨.request, path, t, payload⟩ (observers .request)
  | .response producer =>
    match observers .response with
    | [] => ⟨[], none⟩
    | o :: rest =>
      match producer with
      | .returned v => (Course.telling ⟨.response, path, t, v⟩ (o :: rest)).after .produces
      | .failed _ => ⟨[.produces], none⟩
      | .panicked p => ⟨[.produces], some p⟩

/-- What the worker does with an event. -/
def Event.course (shared : Observers) (e : Event) : Course :=
  .ofContent e.application.serverPath e.type
    (fun stage => shared.interested stage e.type ++ e.application.observers.interested stage e.type)
    e.content

/-- A course in which observers are told does not run the producer. -/
@[simp] theorem producerRuns_tells (calls : List ObserverCall) (panic : Option Panic) :
    (Course.mk (calls.map .tells) panic).producerRuns = 0 := by
  simp [Course.producerRuns, List.countP_map, Function.comp_def]

/-- A course in which observers are told has these calls. -/
@[simp] theorem calls_tells (calls : List ObserverCall) (panic : Option Panic) :
    (Course.mk (calls.map .tells) panic).calls = calls := by
  unfold Course.calls
  rw [List.filterMap_map]
  exact List.filterMap_some

/-- A call in front of a course is a call in front of its calls. -/
@[simp] theorem summary_after_tells (call : ObserverCall) (c : Course) :
    (c.after (.tells call)).summary = { c.summary with calls := call :: c.summary.calls } := by
  simp [Course.after, Course.summary, Course.producerRuns, Course.calls]

/-- A run of the producer in front of a course is one run more. -/
@[simp] theorem summary_after_produces (c : Course) :
    (c.after .produces).summary =
      { c.summary with producerRuns := c.summary.producerRuns + 1 } := by
  simp [Course.after, Course.summary, Course.producerRuns, Course.calls]

/-- The course of telling observers comes to what telling them does. -/
theorem summary_telling (n : Notification) (observers : List Observer) :
    (Course.telling n observers).summary = .telling 0 observers n := by
  induction observers with
  | nil => rfl
  | cons o rest ih =>
      cases hreact : o.react n with
      | panics p =>
          simp [Course.telling, hreact, Course.summary, Course.producerRuns, Course.calls,
            FanOut.telling, tell, takeThrough, ObserverCall.isPanic, Reaction.isPanic,
            ObserverCall.panic?]
      | starts task =>
          have hstarts : Course.telling n (o :: rest) =
              (Course.telling n rest).after (.tells ⟨o, n⟩) := by
            simp only [Course.telling, hreact]
          rw [hstarts, summary_after_tells, ih]
          simp [FanOut.telling, tell, takeThrough, ObserverCall.isPanic, Reaction.isPanic,
            ObserverCall.panic?, hreact]

/-- **The course of an event sums up to what the worker has done.** -/
theorem fanOut_eq (shared : Observers) (e : Event) :
    e.fanOut shared = (e.course shared).summary := by
  obtain ⟨app, t, content⟩ := e
  cases content with
  | request payload => exact (summary_telling _ _).symm
  | response producer =>
      unfold Event.fanOut Event.course Event.audience Course.ofContent
      dsimp only [EventContent.stage]
      cases shared.interested .response t ++ app.observers.interested .response t with
      | nil => rfl
      | cons o rest =>
          cases producer with
          | returned v =>
              simp only [summary_after_produces, summary_telling]
              rfl
          | failed f => rfl
          | panicked p => rfl

/-! ## The course of an event -/

/-- **Observers have been told something**: all of them if none panics, and otherwise those up to
the first that panics. -/
inductive Told (n : Notification) :
    List Observer → List ObserverCall → Option Panic → Prop where
  /-- None panicked. -/
  | all {observers : List Observer} (h : ∀ o ∈ observers, (o.react n).isPanic = false) :
      Told n observers (observers.map fun o => ⟨o, n⟩) none
  /-- The first that panicked was the last to be told. -/
  | upTo {before after : List Observer} {o : Observer} {p : Panic}
      (h : ∀ o ∈ before, (o.react n).isPanic = false) (hpanic : o.react n = .panics p) :
      Told n (before ++ o :: after) ((before ++ [o]).map fun o => ⟨o, n⟩) (some p)

/-- Telling observers tells them so, and does nothing else. -/
theorem told_telling (n : Notification) (observers : List Observer) :
    ∃ calls panic, Course.telling n observers = ⟨calls.map .tells, panic⟩ ∧
      Told n observers calls panic := by
  induction observers with
  | nil => exact ⟨[], none, rfl, .all (by simp)⟩
  | cons o rest ih =>
      obtain ⟨calls, panic, htelling, htold⟩ := ih
      cases hreact : o.react n with
      | panics p =>
          refine ⟨[⟨o, n⟩], some p, by simp [Course.telling, hreact], ?_⟩
          have hfirst : Told n ([] ++ o :: rest) _ (some p) := .upTo (by simp) hreact
          exact hfirst
      | starts task =>
          refine ⟨⟨o, n⟩ :: calls, panic,
            by simp [Course.telling, hreact, htelling, Course.after], ?_⟩
          have ho : (o.react n).isPanic = false := by rw [hreact]; rfl
          cases htold with
          | all h => exact .all (List.forall_mem_cons.2 ⟨ho, h⟩)
          | @upTo before after o' p h hpanic =>
              have hlonger : Told n ((o :: before) ++ o' :: after) _ (some p) :=
                .upTo (List.forall_mem_cons.2 ⟨ho, h⟩) hpanic
              exact hlonger

/-- Whoever is to be told so is told so. -/
theorem Told.telling_eq {n : Notification} {observers : List Observer} {calls : List ObserverCall}
    {panic : Option Panic} (h : Told n observers calls panic) :
    Course.telling n observers = ⟨calls.map .tells, panic⟩ := by
  have hstarts : ∀ {o rest}, (o.react n).isPanic = false →
      Course.telling n (o :: rest) = (Course.telling n rest).after (.tells ⟨o, n⟩) := by
    intro o rest ho
    cases hreact : o.react n with
    | panics p => simp [hreact, Reaction.isPanic] at ho
    | starts task => simp only [Course.telling, hreact]
  cases h with
  | all h =>
      induction observers with
      | nil => rfl
      | cons o rest ih =>
          obtain ⟨ho, hrest⟩ := List.forall_mem_cons.1 h
          rw [hstarts ho, ih hrest]
          rfl
  | @upTo before after o p h hpanic =>
      induction before with
      | nil => simp [Course.telling, hpanic]
      | cons first rest ih =>
          obtain ⟨hfirst, hrest⟩ := List.forall_mem_cons.1 h
          rw [List.cons_append, hstarts hfirst, ih hrest]
          rfl

/-- **The course that an event is to take**, for an application at a path, a type, and the observers
that are to be told at each stage. -/
inductive FansOut (path : String) (t : RequestType) (observers : Stage → List Observer) :
    EventContent → Course → Prop where
  /-- A message is told. -/
  | request {payload : Json} {calls : List ObserverCall} {panic : Option Panic}
      (h : Told ⟨.request, path, t, payload⟩ (observers .request) calls panic) :
      FansOut path t observers (.request payload) ⟨calls.map .tells, panic⟩
  /-- An answer that nobody wants to see is not produced. -/
  | unseen {producer : Outcome Json} (h : observers .response = []) :
      FansOut path t observers (.response producer) ⟨[], none⟩
  /-- An answer is produced and then told. -/
  | response {v : Json} {calls : List ObserverCall} {panic : Option Panic}
      (hseen : observers .response ≠ [])
      (h : Told ⟨.response, path, t, v⟩ (observers .response) calls panic) :
      FansOut path t observers (.response (.returned v)) ⟨.produces :: calls.map .tells, panic⟩
  /-- An answer whose production fails is told nobody. -/
  | failed {f : Fault} (hseen : observers .response ≠ []) :
      FansOut path t observers (.response (.failed f)) ⟨[.produces], none⟩
  /-- Nor is one whose production panics. -/
  | panicked {p : Panic} (hseen : observers .response ≠ []) :
      FansOut path t observers (.response (.panicked p)) ⟨[.produces], some p⟩

/-- The course of an event fans it out. -/
theorem fansOut_ofContent (path : String) (t : RequestType) (observers : Stage → List Observer)
    (content : EventContent) :
    FansOut path t observers content (.ofContent path t observers content) := by
  unfold Course.ofContent
  cases content with
  | request payload =>
      obtain ⟨calls, panic, htelling, htold⟩ :=
        told_telling ⟨.request, path, t, payload⟩ (observers .request)
      simp only [htelling]
      exact .request htold
  | response producer =>
      dsimp only
      split
      · next hnone => exact .unseen hnone
      · next o rest hsome =>
        have hseen : observers .response ≠ [] := by simp [hsome]
        cases producer with
        | returned v =>
            obtain ⟨calls, panic, htelling, htold⟩ :=
              told_telling ⟨.response, path, t, v⟩ (o :: rest)
            rw [← hsome] at htold
            simp only [htelling]
            exact .response hseen htold
        | failed f => exact .failed hseen
        | panicked p => exact .panicked hseen

/-- An event takes the one course that it is to take. -/
theorem fansOut_iff {path : String} {t : RequestType} {observers : Stage → List Observer}
    {content : EventContent} {c : Course} :
    FansOut path t observers content c ↔ c = .ofContent path t observers content := by
  constructor
  · intro h
    unfold Course.ofContent
    cases h with
    | request htold => exact htold.telling_eq.symm
    | unseen hnone => simp only [hnone]
    | response hseen htold =>
        obtain ⟨o, rest, hsome⟩ := List.exists_cons_of_ne_nil hseen
        simp only [hsome]
        rw [← hsome, htold.telling_eq]
        rfl
    | failed hseen =>
        obtain ⟨o, rest, hsome⟩ := List.exists_cons_of_ne_nil hseen
        simp only [hsome]
    | panicked hseen =>
        obtain ⟨o, rest, hsome⟩ := List.exists_cons_of_ne_nil hseen
        simp only [hsome]
  · rintro rfl
    exact fansOut_ofContent path t observers content

/-- Whoever has been told is one of the observers, and has been told the same as the others. -/
theorem Told.of_mem {n : Notification} {observers : List Observer} {calls : List ObserverCall}
    {panic : Option Panic} {call : ObserverCall} (h : Told n observers calls panic)
    (hcall : call ∈ calls) :
    call.observer ∈ observers ∧ call.notification = n := by
  cases h with
  | all _ =>
      obtain ⟨o, ho, rfl⟩ := List.mem_map.1 hcall
      exact ⟨ho, rfl⟩
  | @upTo before after o p _ _ =>
      obtain ⟨o', ho', rfl⟩ := List.mem_map.1 hcall
      refine ⟨?_, rfl⟩
      rw [List.append_cons]
      exact List.mem_append_left _ ho'

namespace FansOut

variable {path : String} {t : RequestType} {observers : Stage → List Observer}
  {content : EventContent} {c : Course}

/-- An answer is produced once if somebody is to be told of it. -/
theorem producerRuns_eq (h : FansOut path t observers content c) :
    c.producerRuns = if content.stage = .response ∧ observers .response ≠ [] then 1 else 0 := by
  cases h with
  | request _ => simp [EventContent.stage]
  | unseen hnone => simp [hnone, Course.producerRuns]
  | response hseen _ => simp [EventContent.stage, hseen, Course.producerRuns]
  | failed hseen => simp [EventContent.stage, hseen, Course.producerRuns]
  | panicked hseen => simp [EventContent.stage, hseen, Course.producerRuns]

/-- It is produced before anybody is told. -/
theorem eq_nil_of_produces (h : FansOut path t observers content c) {before after : List FanOutStep}
    (hsteps : c.steps = before ++ .produces :: after) : before = [] := by
  have htells : ∀ {calls : List ObserverCall} {later},
      calls.map .tells ≠ later ++ FanOutStep.produces :: after := by
    intro calls later heq
    have hmem : FanOutStep.produces ∈ calls.map .tells := by simp [heq]
    simp at hmem
  rcases before with - | ⟨first, later⟩
  · rfl
  cases h with
  | request _ => exact absurd hsteps htells
  | unseen _ => cases hsteps
  | response _ _ => exact absurd (List.cons.inj hsteps).2 htells
  | failed _ => simp at hsteps
  | panicked _ => simp at hsteps

/-- If its production fails or panics nobody is told. -/
theorem calls_eq_nil {producer : Outcome Json} (h : FansOut path t observers (.response producer) c)
    (hproducer : ∀ v, producer ≠ .returned v) : c.calls = [] := by
  cases h with
  | unseen _ => rfl
  | response _ _ => exact absurd rfl (hproducer _)
  | failed _ => rfl
  | panicked _ => rfl

/-- All are told the same, and none but those who are to be told. -/
theorem exists_body (h : FansOut path t observers content c) :
    ∃ body, ∀ call ∈ c.calls, call.notification = ⟨content.stage, path, t, body⟩ ∧
      call.observer ∈ observers content.stage := by
  cases h with
  | @request payload calls panic htold =>
      refine ⟨payload, fun call hcall => ?_⟩
      rw [calls_tells] at hcall
      exact (htold.of_mem hcall).symm
  | @response v calls panic _ htold =>
      refine ⟨v, fun call hcall => ?_⟩
      have hmem : call ∈ (Course.mk (calls.map .tells) panic).calls := hcall
      rw [calls_tells] at hmem
      exact (htold.of_mem hmem).symm
  | _ => exact ⟨.null, by simp [Course.calls]⟩

end FansOut

/-! ## Events and registrations -/

/-- Those who are to be told of a type at a stage: of the observers of all applications the untyped
ones and those of the type, and then the same of the observers of one application. -/
def addressees (shared own : List ObserverRegistration) (t : RequestType) (stage : Stage) :
    List Observer :=
  registeredFor shared stage none ++ registeredFor shared stage (some t) ++
  registeredFor own stage none ++
    registeredFor own stage (some t)

/-- An event of an application with registered observers. -/
def Event.observedBy (own : List ObserverRegistration) (app : Application) (t : RequestType)
    (content : EventContent) : Event :=
  ⟨{ app with observers := .ofRegistrations own }, t, content⟩

section registrations

variable {shared own : List ObserverRegistration} {app : Application} {t : RequestType}
  {content : EventContent}

/-- The course of an event is that of its content, told to the addressees. -/
theorem course_observedBy :
    (Event.observedBy own app t content).course (.ofRegistrations shared) =
      .ofContent app.serverPath t (addressees shared own t) content := by
  unfold Event.course
  congr 1
  funext stage
  show (Observers.ofRegistrations shared).interested stage t ++
    (Observers.ofRegistrations own).interested stage t = _
  rw [interested_ofRegistrations, interested_ofRegistrations, addressees,
    List.append_assoc _ (registeredFor own _ _)]

/-- Whoever is to be told has been registered so. -/
theorem exists_registration_of_mem {stage : Stage} {o : Observer}
    (h : o ∈ addressees shared own t stage) :
    ∃ r ∈ shared ++ own, r.stage = stage ∧ (r.type = none ∨ r.type = some t) ∧
      r.observer = o := by
  simp only [addressees, List.mem_append, mem_registeredFor] at h
  rcases h with ((h | h) | h) | h
  · exact ⟨_, List.mem_append_left _ h, rfl, .inl rfl, rfl⟩
  · exact ⟨_, List.mem_append_left _ h, rfl, .inr rfl, rfl⟩
  · exact ⟨_, List.mem_append_right _ h, rfl, .inl rfl, rfl⟩
  · exact ⟨_, List.mem_append_right _ h, rfl, .inr rfl, rfl⟩

end registrations

/-- **Every event is told those who are registered for it.** -/
structure EventFannedOut (shared own : List ObserverRegistration) (app : Application)
    (t : RequestType) (content : EventContent) : Prop where
  /-- Its course is the one that it is to take. -/
  course : ∀ c, FansOut app.serverPath t (addressees shared own t) content c ↔
    c = (Event.observedBy own app t content).course (.ofRegistrations shared)
  /-- The course sums up to what the worker has done. -/
  summary : (Event.observedBy own app t content).fanOut (.ofRegistrations shared) =
    ((Event.observedBy own app t content).course (.ofRegistrations shared)).summary
  /-- An answer is produced once if somebody is to be told of it, and otherwise not at all. -/
  produced : ((Event.observedBy own app t content).fanOut (.ofRegistrations shared)).producerRuns =
    if content.stage = .response ∧ addressees shared own t .response ≠ [] then 1 else 0
  /-- It is produced before anybody is told. -/
  produced_first : ∀ before after,
    ((Event.observedBy own app t content).course (.ofRegistrations shared)).steps =
        before ++ .produces :: after →
      before = []
  /-- If its production fails or panics nobody is told. -/
  untold : ∀ producer, content = .response producer → (∀ v, producer ≠ .returned v) →
    ((Event.observedBy own app t content).fanOut (.ofRegistrations shared)).calls = []
  /-- All are told the same. -/
  alike : ∃ body,
    ∀ call ∈ ((Event.observedBy own app t content).fanOut (.ofRegistrations shared)).calls,
      call.notification = ⟨content.stage, app.serverPath, t, body⟩
  /-- Whoever is told has been registered with all applications or with this one, at the stage and
  for the type. -/
  registered :
    ∀ call ∈ ((Event.observedBy own app t content).fanOut (.ofRegistrations shared)).calls,
    ∃ r ∈ shared ++ own, r.stage = content.stage ∧ (r.type = none ∨ r.type = some t) ∧
      r.observer = call.observer

/-- **Events are fanned out**: what the worker does for an event, for any registrations of the
service and of the application. -/
theorem event_fanned_out (shared own : List ObserverRegistration) (app : Application)
    (t : RequestType) (content : EventContent) : EventFannedOut shared own app t content := by
  have hcourse : (Event.observedBy own app t content).course (.ofRegistrations shared) =
      .ofContent app.serverPath t (addressees shared own t) content := course_observedBy
  have htakes := fansOut_ofContent app.serverPath t (addressees shared own t) content
  rw [← hcourse] at htakes
  have hsummary := fanOut_eq (.ofRegistrations shared) (Event.observedBy own app t content)
  obtain ⟨body, hbody⟩ := htakes.exists_body
  constructor
  case course =>
    intro c
    rw [hcourse]
    exact fansOut_iff
  case summary => exact hsummary
  case produced =>
    rw [hsummary]
    exact htakes.producerRuns_eq
  case produced_first => exact fun before after => htakes.eq_nil_of_produces
  case untold =>
    rintro producer rfl hproducer
    rw [hsummary]
    exact htakes.calls_eq_nil hproducer
  case alike =>
    refine ⟨body, fun call hcall => ?_⟩
    rw [hsummary] at hcall
    exact (hbody call hcall).1
  case registered =>
    intro call hcall
    rw [hsummary] at hcall
    exact exists_registration_of_mem (hbody call hcall).2

end Switchboard

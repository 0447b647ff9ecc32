import Switchboard.Proofs.Service.Wording

/-!
# One event before and one event after

The service tells of every message that an application accepts, and of its answer.

* `Ending.Worded`: the handling of a message has ended well. It is then concluded with a response
  and with one event that carries what the client is told (`conclude_of_worded`).
* `worded_ending`, `ending_of_responder_panic`: the handling of a message that meets no error
  without a wording ends well, unless a responder panics in production.
* `State.emissions`, `queue_serve`: the events that serving a request emits are what it puts on the
  queue.
* `State.Announces`: which events those are: none, both, or the first alone.
* **`requests_announced`**: every request of a run announces itself so, as long as no error without
  a wording is met.
-/

namespace Switchboard

/-! ## Concluding what has ended well -/

/-- The client is told a JSON value, or the text of an error that the value is the JSON form of. -/
def Response.Carries (response : Response) (v : Json) : Prop :=
  response.body = .json v ∨ ∃ text, response.body = .text text ∧ v = errorBody text

/-- The error has a wording, with all its causes. -/
def WebhookError.Worded : WebhookError → Prop
  | failed _ fault => fault.Worded
  | _ => True

/-- An error that has a wording can be told the client. -/
theorem WebhookError.render_of_worded {e : WebhookError} (h : e.Worded) (production : Bool) :
    ∃ response v, e.render production = .ok (response, v) ∧ response.Carries v := by
  have hchain : ∃ text, e.chain = .ok text := by
    cases e with
    | api e => exact ⟨_, rfl⟩
    | failed context fault => exact Fault.appendCauses_of_worded h context
    | panicked message => exact ⟨_, rfl⟩
  obtain ⟨text, htext⟩ := hchain
  unfold render
  rw [htext]
  have hdiagnostic : (Response.text 500 text).Carries (errorBody text) := .inr ⟨text, rfl, rfl⟩
  cases e with
  | api e =>
      dsimp only
      split
      · exact ⟨_, _, rfl, .inl rfl⟩
      · exact ⟨_, _, rfl, hdiagnostic⟩
  | _ =>
      cases production with
      | false => exact ⟨_, _, rfl, hdiagnostic⟩
      | true => exact ⟨_, _, rfl, .inl rfl⟩

/-- The handling has not panicked, and where it ended in an error, that has a wording. -/
def Ending.Worded : Ending → Prop
  | answered _ => True
  | refused e => e.Worded
  | unwound _ => False

/-- What has ended well is concluded with a response, and with one event that tells of it. -/
theorem conclude_of_worded {ending : Ending} (h : ending.Worded) (production : Bool)
    (app : Application) (m : Metrics) (t : RequestType) :
    ∃ response v, response.Carries v ∧ (conclude production app m t ending).1 = .ok response ∧
      (conclude production app m t ending).2.2 = [⟨app, t, .response (.returned v)⟩] := by
  cases ending with
  | answered answer => exact ⟨_, _, .inl rfl, rfl, rfl⟩
  | unwound p => exact h.elim
  | refused e =>
      obtain ⟨response, v, hrender, hcarries⟩ := WebhookError.render_of_worded h production
      refine ⟨response, v, hcarries, ?_, ?_⟩ <;>
      · unfold conclude
        dsimp only
        rw [hrender]

/-! ## How the handling of a message ends -/

section endings

variable {production : Bool} {now : Nat} {app : Application} {cs : Caches} {payload : Json}

/-- A responder ends well unless it panics in production or its error has no wording. -/
theorem worded_endingOf {o : Outcome Json} (hfailed : ∀ f, o = .failed f → f.Worded)
    (hpanicked : production = true → ∀ p, o ≠ .panicked p) (context : String)
    (answer : Json → Answer) :
    (endingOf production context answer o).Worded := by
  cases o with
  | returned v => trivial
  | failed f => exact hfailed f rfl
  | panicked p =>
      cases production with
      | false => trivial
      | true => exact absurd rfl (hpanicked rfl p)

/-- Calls that can all be told of are answered. -/
theorem Asks.worded {t : RequestType} {kind : CacheKind} {entry : Entry} {key : CacheKey}
    {calls : List AskedCall} (h : Asks cs payload t kind entry key calls)
    (hcalls : ∀ c ∈ calls, ∀ p, ¬ c.Unspeakable entry p) :
    (dispatch production now app cs t payload).ending.Worded := by
  rcases comesTo_or_first_unspeakable kind entry key calls with
    ⟨-, outcomes, houtcomes⟩ | ⟨before, c, later, p, rfl, -, hc⟩
  · obtain ⟨answer, -, hending⟩ := h.answered houtcomes production now app
    rw [hending]
    trivial
  · exact absurd hc (hcalls c (List.mem_append_right _ List.mem_cons_self) p)

/-- A message is refused to its client where it lacks something, or where an entry is not there. -/
def ApiError.AtClient (e : ApiError) : Prop := e.status = 400 ∨ e.status = 404

/-- A message without a key is the client's fault. -/
theorem atClient_of_keyOf {message : Json} {e : ApiError} (h : keyOf message = .error e) :
    e.AtClient := by
  unfold keyOf at h
  split at h
  · cases h
  · cases h
    exact .inl rfl

/-- An entry that is not found is the client's fault. -/
theorem atClient_of_get {c : FunctionCache} {key : CacheKey} {e : CacheError}
    (h : c.get key = .error e) :
    (ApiError.ofCacheError e).AtClient := by
  obtain ⟨-, rfl⟩ := FunctionCache.get_eq_error_iff.1 h
  exact .inr rfl

/-- A message that asks for tools asks for those of an entry, or is refused. -/
theorem refused_or_asks_tools (cs : Caches) (htype : RequestType.ofPayload payload = .toolCalls) :
    (∃ e : ApiError, e.AtClient ∧
        dispatchToolCalls cs (messageOf payload) = .ended (.refused (.api e)) cs) ∨
      ∃ entry key calls, Asks cs payload .toolCalls .toolCall entry key calls := by
  unfold dispatchToolCalls
  split
  · next hkey => exact .inl ⟨_, atClient_of_keyOf hkey, rfl⟩
  · next key hkey =>
    split
    · next hget => exact .inl ⟨_, atClient_of_get hget, rfl⟩
    · next entry hentry =>
      split
      · exact .inl ⟨_, .inl rfl, rfl⟩
      · next elements helements => exact .inr ⟨_, _, _, .tools rfl htype hkey hentry helements⟩

/-- So does a message that asks for a function. -/
theorem refused_or_asks_function (cs : Caches)
    (htype : RequestType.ofPayload payload = .functionCall) :
    (∃ e : ApiError, e.AtClient ∧
        dispatchFunctionCall cs (messageOf payload) = .ended (.refused (.api e)) cs) ∨
      ∃ entry key calls, Asks cs payload .functionCall .function entry key calls := by
  unfold dispatchFunctionCall
  split
  · next hkey => exact .inl ⟨_, atClient_of_keyOf hkey, rfl⟩
  · next key hkey =>
    split
    · next hget => exact .inl ⟨_, atClient_of_get hget, rfl⟩
    · next entry hentry =>
      split
      · exact .inl ⟨_, .inl rfl, rfl⟩
      · next call hcall => exact .inr ⟨_, _, _, .function rfl htype hkey hentry hcall⟩

/-- **The handling of a message ends well** if every error that it meets has a wording and no
responder panics in production. -/
theorem worded_ending (h : MeetsWorded now app cs payload)
    (hpanicked : production = true → ∀ p, ¬ Responds now app cs payload (.panicked p)) :
    (dispatch production now app cs (RequestType.ofPayload payload) payload).ending.Worded := by
  cases htype : RequestType.ofPayload payload
  case assistantRequest =>
    show (dispatchAssistant production now app cs payload (messageOf payload)).ending.Worded
    unfold dispatchAssistant
    cases hresponder : app.assistant with
    | none => exact Fault.worded_ofText _
    | some responder =>
        dsimp only
        cases hsession : sessionOf? (messageOf payload) with
        | none => trivial
        | some session =>
            have hresponds : Responds now app cs payload _ := .assistant htype hresponder hsession
            apply worded_endingOf
            · intro f hf
              rw [hf] at hresponds
              exact h.responder hresponds
            · intro hproduction p hp
              rw [hp] at hresponds
              exact hpanicked hproduction p hresponds
  case transferDestinationRequest =>
    show (dispatchTransfer production app cs payload).ending.Worded
    unfold dispatchTransfer
    cases hresponder : app.transfer with
    | none => trivial
    | some responder =>
        have hresponds : Responds now app cs payload _ := .transfer htype hresponder
        apply worded_endingOf
        · intro f hf
          rw [hf] at hresponds
          exact h.responder hresponds
        · intro hproduction p hp
          rw [hp] at hresponds
          exact hpanicked hproduction p hresponds
  case toolCalls =>
    rcases refused_or_asks_tools cs htype with ⟨e, -, hrefused⟩ | ⟨entry, key, calls, hasks⟩
    · show (dispatchToolCalls cs (messageOf payload)).ending.Worded
      rw [hrefused]
      trivial
    · exact hasks.worded (h.calls hasks)
  case functionCall =>
    rcases refused_or_asks_function cs htype with
      ⟨e, -, hrefused⟩ | ⟨entry, key, calls, hasks⟩
    · show (dispatchFunctionCall cs (messageOf payload)).ending.Worded
      rw [hrefused]
      trivial
    · exact hasks.worded (h.calls hasks)
  all_goals trivial

/-- What was going on when the responder for messages of a type failed. -/
def RequestType.failureContext : RequestType → String
  | assistantRequest => "assistant-request responder failed"
  | _ => "transfer-destination responder failed"

/-- The answer that the value which a responder for messages of a type returns makes. -/
def RequestType.answerOf : RequestType → Json → Answer
  | assistantRequest, v => .responder (stamp v)
  | _, v => .responder v

/-- A message that is handed to a responder comes to what the responder does, and to nothing
else. -/
theorem dispatch_of_responds {o : Outcome Json} (h : Responds now app cs payload o)
    (production : Bool) :
    ∃ cs', dispatch production now app cs (RequestType.ofPayload payload) payload =
      .ended (endingOf production (RequestType.ofPayload payload).failureContext
        (RequestType.ofPayload payload).answerOf o) cs' := by
  cases h with
  | @assistant responder session htype hresponder hsession =>
      rw [htype]
      show ∃ cs', dispatchAssistant production now app cs payload (messageOf payload) = _
      unfold dispatchAssistant
      rw [hresponder, hsession]
      exact ⟨_, rfl⟩
  | @transfer responder htype hresponder =>
      rw [htype]
      show ∃ cs', dispatchTransfer production app cs payload = _
      unfold dispatchTransfer
      rw [hresponder]
      exact ⟨_, rfl⟩

/-- The handling of a message that is handed to a responder ends as the responder does. -/
theorem ending_of_responds {o : Outcome Json} (h : Responds now app cs payload o)
    (production : Bool) :
    (dispatch production now app cs (RequestType.ofPayload payload) payload).ending =
      endingOf production (RequestType.ofPayload payload).failureContext
        (RequestType.ofPayload payload).answerOf o := by
  obtain ⟨cs', hdispatch⟩ := dispatch_of_responds h production
  rw [hdispatch]
  rfl

/-- In production the panic of a responder goes on. -/
theorem ending_of_responder_panic {p : Panic} (h : Responds now app cs payload (.panicked p)) :
    (dispatch true now app cs (RequestType.ofPayload payload) payload).ending = .unwound p := by
  rw [ending_of_responds h]
  rfl

end endings

namespace CallbackQueue

/-! ## Putting events on the queue -/

variable {q : CallbackQueue}

/-- To send nothing leaves the queue. -/
theorem sendAll_nil (q : CallbackQueue) : q.sendAll [] = q := rfl

/-- While the worker runs, events are queued up in order. -/
theorem sendAll_of_running (h : q.worker = .running) (es : List Event) :
    q.sendAll es = { q with events := q.events ++ es } := by
  induction es generalizing q with
  | nil =>
      rw [sendAll_nil, List.append_nil]
  | cons e rest ih =>
      have hsend : q.send e = { q with events := q.events ++ [e] } := by
        unfold send
        rw [h]
      have hrest : (q.send e).worker = .running := by rw [hsend, h]
      show (q.send e).sendAll rest = _
      rw [ih hrest, hsend, List.append_assoc, List.singleton_append]

/-- Nobody has stopped the worker, and somebody can still send. -/
def Open (q : CallbackQueue) : Prop := q.worker = .running ∧ 0 < q.senders

/-- A queue stays open when events are sent. -/
theorem Open.sendAll (h : q.Open) (es : List Event) : (q.sendAll es).Open := by
  rw [sendAll_of_running h.1]
  exact h

/-- A queue stays open when somebody else may send. -/
theorem Open.addSender (h : q.Open) : q.addSender.Open := ⟨h.1, Nat.succ_pos _⟩

/-- The worker does not stop as long as somebody can send. -/
theorem Open.step (h : q.Open) : q.step.2.Open := by
  obtain ⟨events, senders, worker⟩ := q
  obtain ⟨rfl, hsenders⟩ : worker = .running ∧ 0 < senders := h
  unfold CallbackQueue.step
  cases events with
  | nil =>
      dsimp only
      rw [if_neg (by omega)]
      exact ⟨rfl, hsenders⟩
  | cons e rest => exact ⟨rfl, hsenders⟩

end CallbackQueue

namespace State

variable {s : State} {r : Request} {m : Mount} {payload : Json}

/-! ## Events of a request -/

/-- The events that serving a request emits, in order. -/
def emissions (s : State) (r : Request) : List Event :=
  match s.accepted? r with
  | none => []
  | some (m, payload) =>
    ⟨m.application, RequestType.ofPayload payload,
      .request payload⟩ :: (s.concluded m payload).2.2

/-- What is emitted is put on the queue, and nothing else is. -/
theorem queue_serve (hs : (s.mounts.map Mount.path).Nodup) (clock : Nat → String) (r : Request) :
    (s.serve clock r).2.queue = s.queue.sendAll (s.emissions r) := by
  unfold emissions
  cases h : s.accepted? r with
  | none =>
      rw [serve_of_not_accepted hs h]
      split <;> rfl
  | some a => rw [serve_of_accepted h]; rfl

/-- The message is handed to a responder that panics in production. -/
def Abandons (s : State) (m : Mount) (payload : Json) : Prop :=
  s.settings.production = true ∧
  ∃ p, Responds s.now m.application m.caches payload (.panicked p)

/-- **How a request announces itself**: a request that is not accepted does not; any other does so
with an event that carries the whole message and, once it is answered, with a second one that
carries what the client is told. The second one is missing where a responder panics in
production. -/
inductive Announces (clock : Nat → String) (s : State) (r : Request) : List Event → Prop where
  | silent (h : s.accepted? r = none) : Announces clock s r []
  | both {m : Mount} {payload v : Json} {response : Response}
      (h : s.accepted? r = some (m, payload)) (hanswered : ¬ s.Abandons m payload)
      (hresponse : (s.serve clock r).1 = .ok response) (hcarries : response.Carries v) :
      Announces clock s r
        [⟨m.application, RequestType.ofPayload payload, .request payload⟩,
          ⟨m.application, RequestType.ofPayload payload, .response (.returned v)⟩]
  | first {m : Mount} {payload : Json} (h : s.accepted? r = some (m, payload))
      (habandoned : s.Abandons m payload) :
      Announces clock s r [⟨m.application, RequestType.ofPayload payload, .request payload⟩]

/-- A request that meets no error without a wording announces itself. -/
theorem announces_emissions (hspeaks : s.Speaks r) (clock : Nat → String) :
    s.Announces clock r (s.emissions r) := by
  cases h : s.accepted? r with
  | none =>
      have hnone : s.emissions r = [] := by
        unfold emissions
        rw [h]
      rw [hnone]
      exact .silent h
  | some a =>
      obtain ⟨m, payload⟩ := a
      have hemissions : s.emissions r =
          ⟨m.application, RequestType.ofPayload payload, .request payload⟩ ::
            (s.concluded m payload).2.2 := by
        unfold emissions
        rw [h]
      rw [hemissions]
      by_cases habandoned : s.Abandons m payload
      · obtain ⟨hproduction, p, hp⟩ := habandoned
        have hending : (s.dispatched m payload).ending = .unwound p := by
          rw [dispatched, hproduction]
          exact ending_of_responder_panic hp
        have hevents : (s.concluded m payload).2.2 = [] := by
          rw [concluded, hending]
          rfl
        rw [hevents]
        exact .first h ⟨hproduction, p, hp⟩
      · have hworded : (s.dispatched m payload).ending.Worded :=
          worded_ending (hspeaks m payload h) fun hproduction p hp =>
            habandoned ⟨hproduction, p, hp⟩
        obtain ⟨response, v, hcarries, hresponse, hevents⟩ := conclude_of_worded hworded
          s.settings.production m.application _ (RequestType.ofPayload payload)
        have hserve : (s.serve clock r).1 = .ok response := by
          rw [response_serve h, concluded, hresponse]
          rfl
        rw [show (s.concluded m payload).2.2 = _ from hevents]
        exact .both h habandoned hserve hcarries

/-! ## Events of a run -/

/-- Nothing is put on the queue or taken off while time passes. -/
theorem queue_wait (s : State) (duration : Nat) : (s.wait duration).queue = s.queue := by
  have hsweeps : ∀ (sweeps : List (Nat × Nat)) (s : State),
      (sweeps.foldl sweepAt s).queue = s.queue := by
    intro sweeps
    induction sweeps with
    | nil => exact fun _ => rfl
    | cons sweep rest ih => exact fun s => ih (s.sweepAt sweep)
  exact hsweeps (s.dueSweeps (s.now + duration)) s

/-- A step of the worker is a step of the queue. -/
theorem queue_workerStep (s : State) : s.workerStep.queue = s.queue.step.2 := by
  unfold workerStep
  obtain ⟨event, queue⟩ := s.queue.step
  cases event <;> rfl

/-- A queue stays open while the worker works. -/
theorem open_workerSteps (hopen : s.queue.Open) (n : Nat) : (workerSteps n s).queue.Open := by
  induction n generalizing s with
  | zero => exact hopen
  | succ n ih =>
      apply ih
      rw [queue_workerStep]
      exact hopen.step

/-- The worker goes on through every step. -/
theorem open_perform (hs : (s.mounts.map Mount.path).Nodup) (hopen : s.queue.Open)
    (clock : Nat → String) (step : Step) : (s.perform clock step).queue.Open := by
  cases step with
  | request r =>
      show (s.serve clock r).2.queue.Open
      rw [queue_serve hs]
      exact hopen.sendAll _
  | wait duration =>
      show (s.wait duration).queue.Open
      rw [queue_wait]
      exact hopen
  | sweep maxAge => exact hopen
  | startSweeper interval maxAge =>
      show (s.startPurge interval maxAge).2.queue.Open
      unfold startPurge
      split
      · exact hopen
      · exact hopen.addSender
  | clear => exact hopen
  | settle => exact open_workerSteps hopen _

/-- The request that a step is, if any, announces itself on the queue. -/
def StepAnnounces (clock : Nat → String) (s : State) (step : Step) : Prop :=
  ∀ r, step.request? = some r → s.Announces clock r (s.emissions r) ∧
    (s.serve clock r).2.queue.events = s.queue.events ++ s.emissions r

/-- The events that the requests of a run emit, in order. -/
def emitted (clock : Nat → String) : State → List Step → List Event
  | _, [] => []
  | s, step :: rest =>
    (step.request?.elim [] s.emissions) ++ (s.perform clock step).emitted clock rest

/-- **The requests of a run announce themselves.** -/
structure RequestsAnnounced (clock : Nat → String) (s : State) (steps : List Step) : Prop where
  /-- Each of them does, in the state that it finds. -/
  each : s.Throughout clock (StepAnnounces clock) steps
  /-- Where nothing is taken off in between, all their events are on the queue in the end, in
  order. -/
  queued : (∀ step ∈ steps, step.request?.isSome = true) →
    (s.after clock steps).queue.events = s.queue.events ++ s.emitted clock steps

/-- **Every accepted request has one event before and one after**, and no other request has any, in
a service whose applications have different paths, as those of every service that starts have
(`paths_nodup_of_build`). -/
theorem requests_announced (hs : (s.mounts.map Mount.path).Nodup) (hopen : s.queue.Open)
    (clock : Nat → String) (steps : List Step) (hspeaks : s.Throughout clock StepSpeaks steps) :
    s.RequestsAnnounced clock steps := by
  induction steps generalizing s with
  | nil => exact ⟨trivial, fun _ => (List.append_nil _).symm⟩
  | cons step rest ih =>
      obtain ⟨hstep, hrest⟩ := hspeaks
      obtain ⟨heach, hqueued⟩ :=
        ih (paths_nodup_perform hs clock step) (open_perform hs hopen clock step) hrest
      have hserve : ∀ r, (s.serve clock r).2.queue.events = s.queue.events ++ s.emissions r := by
        intro r
        rw [queue_serve hs, CallbackQueue.sendAll_of_running hopen.1]
      constructor
      · exact ⟨fun r hr => ⟨announces_emissions (hstep r hr) clock, hserve r⟩, heach⟩
      · intro hrequests
        obtain ⟨hfirst, hothers⟩ := List.forall_mem_cons.1 hrequests
        obtain ⟨r, hr⟩ := Option.isSome_iff_exists.1 hfirst
        obtain rfl := eq_request hr
        calc (s.after clock (.request r :: rest)).queue.events
            = (s.serve clock r).2.queue.events ++ (s.serve clock r).2.emitted clock rest :=
              hqueued hothers
          _ = s.queue.events ++ (s.emissions r ++ (s.serve clock r).2.emitted clock rest) := by
              rw [hserve, List.append_assoc]
          _ = s.queue.events ++ s.emitted clock (.request r :: rest) := rfl

/-- The call `a` of the weather application begins, asks for tools and ends; one request has no
secret. -/
theorem requests_announced_weather :
    (weatherService.mounts.map Mount.path).Nodup ∧ weatherService.queue.Open ∧
      weatherService.RequestsAnnounced (fun time => toString time)
        [.request (weatherPost "assistant-request" "a"), .request (weatherPost "tool-calls" "a"),
          .request { weatherPost "tool-calls" "a" with method := "GET" }, .settle,
          .request (weatherPost "end-of-call-report" "a")] := by
  have hs := paths_nodup_of_build build_weather
  have hopen : weatherService.queue.Open := ⟨rfl, Nat.one_pos⟩
  exact ⟨hs, hopen,
    requests_announced hs hopen _ _ (throughout_speaks worded_weatherService hs _ _)⟩

end State

end Switchboard

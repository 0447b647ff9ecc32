import Switchboard.Proofs.Service.Events

/-!
# The answer to a webhook and what observers see of it

The client of a webhook gets a response and observers get a JSON value. The two are made by
different means from what the handling of the message has come to.

* `Fault.chainUnder_of_says`: the text of a chain of errors is its context and its messages, joined.
* `atClient_of_api`: a client is told, of its own, that its message lacks something or that an entry
  is not there, and nothing else.
* `Response.Shows`: a response and a value agree. `WebhookError.shows_of_render` says so of an
  error, `conclude_of_not_unwinds` of everything that has not panicked.
* `status_handle`: the statuses that the body of a webhook is answered with.
* **`answer_told`**: observers are told of an accepted message what its client is told, in
  production and outside of it, and the client is told all messages of a chain of errors or none.
-/

namespace Switchboard

/-! ## Chains of errors -/

/-- The messages of the error and of its causes, outermost first. -/
def Fault.Says (f : Fault) (texts : List String) : Prop := f.text :: f.causes = texts.map .ok

/-- Causes that all have a text are joined by the mark between causes. -/
theorem Fault.appendCauses_ok (acc : String) (texts : List String) :
    appendCauses acc (texts.map .ok) = .ok (causeMark.intercalate (acc :: texts)) := by
  induction texts generalizing acc with
  | nil =>
      rw [String.intercalate_singleton]
      rfl
  | cons text rest ih =>
      have hjoined : causeMark.intercalate ((acc ++ causeMark ++ text) :: rest) =
          causeMark.intercalate (acc :: text :: rest) := by
        rw [String.intercalate_cons_append, String.intercalate_cons_cons]
      calc appendCauses acc ((text :: rest).map .ok)
          = appendCauses (acc ++ causeMark ++ text) (rest.map .ok) := rfl
        _ = .ok (causeMark.intercalate (acc :: text :: rest)) := by rw [ih, hjoined]

/-- The text of a chain is the context and the messages in order, each once. -/
theorem Fault.chainUnder_of_says {f : Fault} {texts : List String} (h : f.Says texts)
    (context : String) :
    f.chainUnder context = .ok (causeMark.intercalate (context :: texts)) := by
  have hchain : f.chainUnder context = appendCauses context (f.text :: f.causes) := rfl
  rw [hchain, show f.text :: f.causes = texts.map .ok from h, appendCauses_ok]

/-! ## What clients are told of their own -/

section api

variable {production : Bool} {now : Nat} {app : Application} {cs : Caches} {payload : Json}

/-- The calls that a message asks for are answered, or one of them panics. -/
theorem Asks.ne_refused {t : RequestType} {kind : CacheKind} {entry : Entry} {key : CacheKey}
    {calls : List AskedCall} (h : Asks cs payload t kind entry key calls) (e : WebhookError) :
    (dispatch production now app cs t payload).ending ≠ .refused e := by
  rcases comesTo_or_first_unspeakable kind entry key calls with
    ⟨-, outcomes, houtcomes⟩ | ⟨before, c, later, p, hcalls, hbefore, hc⟩
  · obtain ⟨answer, -, hending⟩ := h.answered houtcomes production now app
    rw [hending]
    exact Ending.noConfusion
  · rw [h.unwound hcalls hbefore hc production now app]
    exact Ending.noConfusion

/-- A responder's error is not told as one of the client. -/
theorem endingOf_ne_api (context : String) (answer : Json → Answer) (o : Outcome Json)
    (e : ApiError) :
    endingOf production context answer o ≠ .refused (.api e) := by
  intro h
  unfold endingOf at h
  split at h
  · cases h
  · cases h
  · split at h <;> cases h

/-- **A client is told of its own that something is missing**, in its message or in the caches. -/
theorem atClient_of_api {e : ApiError}
    (h : (dispatch production now app cs (RequestType.ofPayload payload) payload).ending =
      .refused (.api e)) : e.AtClient := by
  cases htype : RequestType.ofPayload payload <;> rw [htype] at h
  case assistantRequest =>
    change (dispatchAssistant production now app cs payload (messageOf payload)).ending = _ at h
    unfold dispatchAssistant at h
    split at h
    · cases h
    · split at h
      · cases h
        exact .inl rfl
      · exact absurd h (endingOf_ne_api _ _ _ e)
  case transferDestinationRequest =>
    change (dispatchTransfer production app cs payload).ending = _ at h
    unfold dispatchTransfer at h
    split at h
    · cases h
    · exact absurd h (endingOf_ne_api _ _ _ e)
  case toolCalls =>
    rcases refused_or_asks_tools cs htype with
      ⟨e', he', hrefused⟩ | ⟨entry, key, calls, hasks⟩
    · change (dispatchToolCalls cs (messageOf payload)).ending = _ at h
      rw [hrefused] at h
      cases h
      exact he'
    · exact absurd h (hasks.ne_refused _)
  case functionCall =>
    rcases refused_or_asks_function cs htype with
      ⟨e', he', hrefused⟩ | ⟨entry, key, calls, hasks⟩
    · change (dispatchFunctionCall cs (messageOf payload)).ending = _ at h
      rw [hrefused] at h
      cases h
      exact he'
    · exact absurd h (hasks.ne_refused _)
  all_goals cases h

end api

/-! ## Responses and values -/

/-- **A response shows a value**: it is JSON and the value itself, or, outside of production, it is
the text of an error of the service and the value holds that text. -/
inductive Response.Shows (production : Bool) : Response → Json → Prop where
  | json {status : Nat} {v : Json}
      (hstatus : status = 200 ∨ status = 400 ∨ status = 404 ∨
        (production = true ∧ status = 500)) :
      Shows production (.json status v) v
  | diagnostic {text : String} (hproduction : production = false) :
      Shows production (.text 500 text) (errorBody text)

/-- The handling has panicked, or the wording of the error that it has ended in does. -/
def Ending.Unwinds (production : Bool) : Ending → Prop
  | answered _ => False
  | refused e => ∃ p, e.render production = .error p
  | unwound _ => True

/-- An error at the client is shown to the client. -/
theorem ApiError.AtClient.isClientError {e : ApiError} (h : e.AtClient) :
    e.isClientError = true := by
  unfold ApiError.isClientError
  rcases h with h | h <;> rw [h] <;> rfl

/-- The client is told its own error as it is, in production and outside of it. -/
theorem WebhookError.render_api {e : ApiError} (h : e.AtClient) (production : Bool) :
    (WebhookError.api e).render production = .ok (e.response, e.body) := by
  unfold WebhookError.render
  dsimp only
  rw [h.isClientError, Bool.true_or, if_pos rfl]

/-- Another error is told in full outside of production. -/
theorem WebhookError.render_diagnostic {e : WebhookError} (h : ∀ a, e ≠ .api a) {text : String}
    (htext : e.chain = .ok text) : e.render false = .ok (.text 500 text, errorBody text) := by
  unfold WebhookError.render
  rw [htext]
  cases e with
  | api a => exact absurd rfl (h a)
  | failed context fault => rfl
  | panicked message => rfl

/-- If its wording panics, there is nothing to tell. -/
theorem WebhookError.render_panic {e : WebhookError} (h : ∀ a, e ≠ .api a) {p : Panic}
    (hpanic : e.chain = .error p) : e.render false = .error p := by
  unfold WebhookError.render
  rw [hpanic]
  cases e with
  | api a => exact absurd rfl (h a)
  | failed context fault => rfl
  | panicked message => rfl

/-- In production nothing is told of it. -/
theorem WebhookError.render_hidden {e : WebhookError} (h : ∀ a, e ≠ .api a) :
    e.render true = .ok (hiddenError.response, hiddenError.body) := by
  unfold WebhookError.render
  cases e with
  | api a => exact absurd rfl (h a)
  | failed context fault => rfl
  | panicked message => rfl

/-- What a responder fails with is told in full outside of production, and not at all in
production. -/
theorem WebhookError.render_failed {f : Fault} {texts : List String} (h : f.Says texts)
    {context : String} {production : Bool} :
    (WebhookError.failed context f).render production = .ok
      (if production then hiddenError.response
        else .text 500 (Fault.causeMark.intercalate (context :: texts)),
        if production then hiddenError.body
        else errorBody (Fault.causeMark.intercalate (context :: texts))) := by
  have hother : ∀ a, WebhookError.failed context f ≠ .api a := fun a => WebhookError.noConfusion
  cases production with
  | true => exact render_hidden hother
  | false => exact render_diagnostic hother (Fault.chainUnder_of_says h context)

/-- An error that is told at all is told the client and observers alike. -/
theorem WebhookError.shows_of_render {production : Bool} {e : WebhookError}
    {response : Response} {v : Json} (h : e.render production = .ok (response, v))
    (hapi : ∀ a, e = .api a → a.AtClient) :
    response.Shows production v := by
  by_cases hclient : ∃ a, e = .api a
  · obtain ⟨a, rfl⟩ := hclient
    have hstatus := hapi a rfl
    rw [render_api hstatus] at h
    cases h
    rcases hstatus with h400 | h404
    · exact .json (.inr (.inl h400))
    · exact .json (.inr (.inr (.inl h404)))
  · have hother : ∀ a, e ≠ .api a := fun a ha => hclient ⟨a, ha⟩
    cases production with
    | true =>
        rw [render_hidden hother] at h
        cases h
        exact .json (.inr (.inr (.inr ⟨rfl, rfl⟩)))
    | false =>
        cases htext : e.chain with
        | ok text =>
            rw [render_diagnostic hother htext] at h
            cases h
            exact .diagnostic rfl
        | error p =>
            rw [render_panic hother htext] at h
            cases h

/-- An error that is told is concluded as it is told. -/
theorem conclude_of_render {production : Bool} {e : WebhookError} {response : Response} {v : Json}
    (h : e.render production = .ok (response, v)) (app : Application) (m : Metrics)
    (t : RequestType) :
    (conclude production app m t (.refused e)).1 = .ok response ∧
      (conclude production app m t (.refused e)).2.2 = [⟨app, t, .response (.returned v)⟩] := by
  unfold conclude
  dsimp only
  rw [h]
  exact ⟨rfl, rfl⟩

/-- **What does not panic is concluded** with a response, and with an event whose value the response
shows. -/
theorem conclude_of_not_unwinds {production : Bool} {ending : Ending}
    (h : ¬ ending.Unwinds production) (hapi : ∀ a, ending = .refused (.api a) → a.AtClient)
    (app : Application) (m : Metrics) (t : RequestType) :
    ∃ response v, response.Shows production v ∧
      (conclude production app m t ending).1 = .ok response ∧
      (conclude production app m t ending).2.2 = [⟨app, t, .response (.returned v)⟩] := by
  cases ending with
  | answered answer => exact ⟨_, _, .json (.inl rfl), rfl, rfl⟩
  | unwound p => exact absurd trivial h
  | refused e =>
      cases hrender : e.render production with
      | error p => exact absurd ⟨p, hrender⟩ h
      | ok told =>
          obtain ⟨response, v⟩ := told
          have hshows : response.Shows production v := by
            apply WebhookError.shows_of_render hrender
            intro a ha
            exact hapi a (by rw [ha])
          exact ⟨response, v, hshows, conclude_of_render hrender app m t⟩

/-! ## Statuses -/

/-- An error that is not one of the client is told as an error of the service. -/
theorem WebhookError.status_of_render {production : Bool} {e : WebhookError} {response : Response}
    {v : Json} (h : e.render production = .ok (response, v)) (hother : ∀ a, e ≠ .api a) :
    response.status = 500 := by
  cases production with
  | true =>
      rw [render_hidden hother] at h
      cases h
      rfl
  | false =>
      cases htext : e.chain with
      | ok text =>
          rw [render_diagnostic hother htext] at h
          cases h
          rfl
      | error p =>
          rw [render_panic hother htext] at h
          cases h

/-- What does not end in an error of the client is answered as done or as an error of the
service. -/
theorem status_replyTo_conclude {production : Bool} {app : Application} {m : Metrics}
    {t : RequestType} {ending : Ending} {response : Response}
    (hending : ∀ a, ending ≠ .refused (.api a))
    (h : replyTo production (conclude production app m t ending).1 = .ok response) :
    response.status = 200 ∨ response.status = 500 := by
  have hpanic : ∀ p, replyTo production (.error p) = .ok response → response.status = 500 := by
    intro p hp
    cases production <;> cases hp
    rfl
  cases ending with
  | answered answer =>
      cases h
      exact .inl rfl
  | unwound p => exact .inr (hpanic p h)
  | refused e =>
      have hother : ∀ a, e ≠ .api a := fun a ha => hending a (by rw [ha])
      cases hrender : e.render production with
      | error p =>
          have hconclude : (conclude production app m t (.refused e)).1 = .error p := by
            unfold conclude
            dsimp only
            rw [hrender]
          rw [hconclude] at h
          exact .inr (hpanic p h)
      | ok told =>
          obtain ⟨told, v⟩ := told
          rw [(conclude_of_render hrender app m t).1] at h
          cases h
          exact .inr (WebhookError.status_of_render hrender hother)

/-- The body of a webhook is answered with the status of a success, of an error of the client or of
one of the service. -/
theorem status_handle {production : Bool} {now : Nat} {app : Application} {cs : Caches}
    {m : Metrics} {body : List UInt8} {response : Response}
    (h : replyTo production (handle production now app cs m body).response = .ok response) :
    response.status = 200 ∨ response.status = 400 ∨ response.status = 404 ∨
    response.status = 500 := by
  unfold handle at h
  cases hbody : Json.ofBytes body with
  | error e =>
      rw [hbody] at h
      cases h
      exact .inr (.inl rfl)
  | ok payload =>
      rw [hbody] at h
      dsimp only at h
      by_cases hclient : ∃ a,
        (dispatch production now app cs (RequestType.ofPayload payload) payload).ending =
          .refused (.api a)
      · obtain ⟨a, ha⟩ := hclient
        have hstatus := atClient_of_api ha
        rw [ha, (conclude_of_render (WebhookError.render_api hstatus production) _ _ _).1] at h
        cases h
        rcases hstatus with h400 | h404
        · exact .inr (.inl h400)
        · exact .inr (.inr (.inl h404))
      · rcases status_replyTo_conclude (fun a ha => hclient ⟨a, ha⟩) h with h200 | h500
        · exact .inl h200
        · exact .inr (.inr (.inr h500))

/-! ## What observers are told -/

/-- What has been taken up to and including some element is from the list. -/
theorem mem_of_mem_takeThrough {α : Type} {p : α → Bool} {a : α} {as : List α}
    (h : a ∈ takeThrough p as) :
    a ∈ as := by
  induction as with
  | nil => exact h
  | cons b rest ih =>
      unfold takeThrough at h
      by_cases hp : p b = true
      · rw [if_pos hp] at h
        rw [List.mem_singleton.1 h]
        exact List.mem_cons_self
      · rw [if_neg hp] at h
        rcases List.mem_cons.1 h with rfl | hrest
        · exact List.mem_cons_self
        · exact List.mem_cons_of_mem _ (ih hrest)

/-- Whoever is told of an answer is told the value that has been produced for it. -/
theorem body_of_mem_fanOut {app : Application} {t : RequestType} {v : Json} {shared : Observers}
    {c : ObserverCall}
    (h : c ∈ ((⟨app, t, .response (.returned v)⟩ : Event).fanOut shared).calls) :
    c.notification.body = v := by
  unfold Event.fanOut at h
  dsimp only at h
  by_cases hnobody :
      ((⟨app, t, .response (.returned v)⟩ : Event).audience shared).isEmpty = true
  · rw [if_pos hnobody] at h
    cases h
  · rw [if_neg hnobody] at h
    obtain ⟨o, -, rfl⟩ := List.mem_map.1 (mem_of_mem_takeThrough h)
    rfl

namespace State

variable {s : State} {r : Request} {m : Mount} {payload : Json}

/-- **What is told of an accepted message**: its client gets the response, and observers see the
value. -/
structure Tells (clock : Nat → String) (s : State) (r : Request) (m : Mount) (payload : Json)
    (response : Response) (v : Json) : Prop where
  /-- The client gets the response. -/
  response_eq : (s.serve clock r).1 = .ok response
  /-- There is one event before the answer and one after, which produces the value. -/
  emissions_eq : s.emissions r =
    [⟨m.application, RequestType.ofPayload payload, .request payload⟩,
      ⟨m.application, RequestType.ofPayload payload, .response (.returned v)⟩]
  /-- Every observer that is told of the answer is told the value. -/
  observed : ∀ c ∈
    ((⟨m.application, RequestType.ofPayload payload, .response (.returned v)⟩ : Event).fanOut
    s.observers).calls, c.notification.body = v
  /-- The response shows the value. -/
  shows : response.Shows s.settings.production v
  /-- Of a responder that fails the client gets all messages in order, and in production none. -/
  chain : ∀ f texts, Responds s.now m.application m.caches payload (.failed f) →
    f.Says texts →
    response =
      if s.settings.production then hiddenError.response
      else .text 500
        (Fault.causeMark.intercalate ((RequestType.ofPayload payload).failureContext :: texts))

/-- The handling of the message panics. -/
def Unwinds (s : State) (m : Mount) (payload : Json) : Prop :=
  (s.dispatched m payload).ending.Unwinds s.settings.production

/-- The handling of a message ends in the error that its responder fails with. -/
theorem ending_of_failed {f : Fault}
    (hresponds : Responds s.now m.application m.caches payload (.failed f)) :
    (s.dispatched m payload).ending =
      .refused (.failed (RequestType.ofPayload payload).failureContext f) := by
  exact ending_of_responds hresponds s.settings.production

/-- A responder that fails with errors that have a wording does not make the handling panic. -/
theorem not_unwinds_of_failed {f : Fault} {texts : List String}
    (hresponds : Responds s.now m.application m.caches payload (.failed f))
    (htexts : f.Says texts) :
    ¬ s.Unwinds m payload := by
  unfold Unwinds
  rw [ending_of_failed hresponds]
  rintro ⟨p, hp⟩
  rw [WebhookError.render_failed htexts] at hp
  cases hp

/-- The response to a message whose responder fails. -/
theorem concluded_of_failed {f : Fault} {texts : List String}
    (hresponds : Responds s.now m.application m.caches payload (.failed f))
    (htexts : f.Says texts) :
    (s.concluded m payload).1 = .ok
      (if s.settings.production then hiddenError.response
        else .text 500
          (Fault.causeMark.intercalate
            ((RequestType.ofPayload payload).failureContext :: texts))) := by
  rw [concluded, ending_of_failed hresponds]
  exact (conclude_of_render (WebhookError.render_failed htexts) _ _ _).1

/-- **Observers are told what the client is told**: of every accepted message whose handling does
not panic. -/
theorem answer_told (h : s.accepted? r = some (m, payload)) (hhandled : ¬ s.Unwinds m payload)
    (clock : Nat → String) : ∃ response v, s.Tells clock r m payload response v := by
  obtain ⟨response, v, hshows, hconcluded, hevents⟩ := conclude_of_not_unwinds hhandled
    (fun a => atClient_of_api) m.application
    (s.metrics.observeInvocations (s.dispatched m payload).invocations.1
      (s.dispatched m payload).invocations.2) (RequestType.ofPayload payload)
  have hconcluded : (s.concluded m payload).1 = .ok response := hconcluded
  have hevents : (s.concluded m payload).2.2 =
      [⟨m.application, RequestType.ofPayload payload, .response (.returned v)⟩] := hevents
  refine ⟨response, v, ?_, ?_, fun c => body_of_mem_fanOut, hshows, ?_⟩
  · rw [response_serve h, hconcluded]
    rfl
  · unfold emissions
    rw [h, ← hevents]
  · intro f texts hresponds htexts
    have hfailed := concluded_of_failed hresponds htexts
    rw [hconcluded] at hfailed
    exact Except.ok.inj hfailed

/-- Fails to find out where to transfer a call. -/
def lostTransfer (_ : Json) : Outcome Json :=
  .failed (.ofTexts ["no destination", "directory timed out"])

/-- An application that fails so. -/
def lostApplication : Application := { config := {}, transfer := some lostTransfer }

/-- A service with that application and nothing else. -/
def lostService : State where
  settings := {}
  observers := {}
  mounts := [{ application := lostApplication }]

/-- The client is told the whole chain. -/
theorem answer_told_lost :
    ∃ m payload response v,
      lostService.accepted? (weatherPost "transfer-destination-request" "a") = some (m, payload) ∧
      ¬ lostService.Unwinds m payload ∧
      lostService.Tells (fun time => toString time)
        (weatherPost "transfer-destination-request" "a") m payload response v ∧
      response = .text 500
        "transfer-destination responder failed\nCaused by: no destination\nCaused by: directory timed out" := by
  have haccepted : (lostService.accepted? (weatherPost "transfer-destination-request" "a")).any
      (fun a => RequestType.ofPayload a.2 = .transferDestinationRequest) = true := by decide +kernel
  obtain ⟨⟨m, payload⟩, h, hdecided⟩ := (Option.any_eq_true _ _).1 haccepted
  have htype : RequestType.ofPayload payload = .transferDestinationRequest :=
    of_decide_eq_true hdecided
  obtain rfl : m = { application := lostApplication } := List.mem_singleton.1 (mem_of_accepted? h)
  have hresponds : Responds 0 lostApplication .new payload (lostTransfer payload) :=
    .transfer htype rfl
  have htexts : (Fault.ofTexts ["no destination", "directory timed out"]).Says
      ["no destination", "directory timed out"] := rfl
  have hunwinds : ¬ lostService.Unwinds { application := lostApplication } payload :=
    not_unwinds_of_failed hresponds htexts
  obtain ⟨response, v, htells⟩ := answer_told h hunwinds (fun time => toString time)
  refine ⟨_, payload, response, v, h, hunwinds, htells, ?_⟩
  rw [htells.chain _ _ hresponds htexts, htype]
  rfl

end State

end Switchboard

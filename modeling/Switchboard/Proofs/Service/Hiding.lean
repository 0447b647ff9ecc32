import Switchboard.Proofs.Service.Recast
import Switchboard.Proofs.Service.Responses

/-!
# What production hides

In production nobody is told the error that a responder fails with: neither the client nor an
observer. Two runs of the same steps that differ in such errors only can therefore not be told from
each other.

* `Outcome.EndsLike`, `Ending.EndsLike`: two ends that are the same, or two failures, whatever the
  errors are. In production both are concluded alike (`conclude_of_endsLike`).
* `Response.Discreet`: what a webhook can be answered with in production (`discreet_handle`).
* `State.silenced`: a service up to what its responders do.
* `State.DiffersInErrors`: two services deal with a step alike, but for the error of a responder
  that fails and leaves the same caches behind. Such a step is answered alike
  (`response_of_differs`) and tells alike (`told_of_differs`), and the services are the same up to
  their responders again (`silenced_perform`).
* **`errors_hidden`**: by induction, so it is with whole runs.
-/

namespace Switchboard

/-! ### Ends of responders -/

/-- Supplied code has ended alike: in the same way, or both times with an error. -/
inductive Outcome.EndsLike {α : Type} : Outcome α → Outcome α → Prop where
  | same (o : Outcome α) : EndsLike o o
  | failed (f f' : Fault) : EndsLike (.failed f) (.failed f')

/-- The handling of a message has ended alike: in the same way, or both times with the error of a
responder. -/
inductive Ending.EndsLike : Ending → Ending → Prop where
  | same (ending : Ending) : EndsLike ending ending
  | failed (context : String) (f f' : Fault) :
      EndsLike (.refused (.failed context f)) (.refused (.failed context f'))

/-- Responders that end alike let their messages end alike. -/
theorem Outcome.EndsLike.ending {o o' : Outcome Json} (h : o.EndsLike o') (production : Bool)
    (context : String) (answer : Json → Answer) :
    (endingOf production context answer o).EndsLike (endingOf production context answer o') := by
  cases h with
  | same => apply Ending.EndsLike.same
  | failed f f' => apply Ending.EndsLike.failed

/-- Messages have come to the same, but for errors. -/
structure Dispatch.EndsLike (d d' : Dispatch) : Prop where
  ending : d.ending.EndsLike d'.ending
  caches : d'.caches = d.caches
  invocations : d'.invocations = d.invocations
  handlerCalls : d'.handlerCalls = d.handlerCalls

/-- A dispatched message ends like itself. -/
theorem Dispatch.EndsLike.refl (d : Dispatch) : d.EndsLike d := ⟨.same _, rfl, rfl, rfl⟩

/-- In production the error of a responder is concluded without a look at it. -/
theorem conclude_hidden (app : Application) (m : Metrics) (t : RequestType) (context : String)
    (f : Fault) :
    conclude true app m t (.refused (.failed context f)) =
      (.ok hiddenError.response, m.observeRequest app.serverPath t,
        [⟨app, t, .response (.returned hiddenError.body)⟩]) := by
  have hrender : (WebhookError.failed context f).render true =
      .ok (hiddenError.response, hiddenError.body) := by
    apply WebhookError.render_hidden
    intro a ha
    cases ha
  unfold conclude
  dsimp only
  rw [hrender]

/-- **In production ends that are alike are concluded alike**, if the applications are configured
alike. -/
theorem conclude_of_endsLike {app app' : Application} (hconfig : app'.config = app.config)
    {ending ending' : Ending} (h : ending.EndsLike ending') (m : Metrics) (t : RequestType) :
    (conclude true app' m t ending').1 = (conclude true app m t ending).1 ∧
      (conclude true app' m t ending').2.1 = (conclude true app m t ending).2.1 ∧
      (conclude true app' m t ending').2.2.map Event.told =
        (conclude true app m t ending).2.2.map Event.told := by
  have hsame : conclude true app m t ending' = conclude true app m t ending := by
    cases h with
    | same => rfl
    | failed context f f' => rw [conclude_hidden, conclude_hidden]
  rw [← hsame]
  exact conclude_of_config hconfig true m t ending'

/-! ### Answers in production -/

/-- **A response that hides what it has to**: it is a JSON value with the status of a success, an
error text with the status of an error of the client, or nothing but that the service has failed. -/
inductive Response.Discreet : Response → Prop where
  | success (v : Json) : Discreet (.json 200 v)
  | refusal {status : Nat} (text : String) (hstatus : status = 400 ∨ status = 404) :
      Discreet (.json status (.object [("error", .str text)]))
  | failure : Discreet (.json 500 (.object [("error", .str "internal server error")]))

/-- The answer that blames the client is discreet. -/
theorem ApiError.AtClient.discreet {e : ApiError} (h : e.AtClient) : e.response.Discreet :=
  .refusal e.message h

/-- In production the answer to a message is discreet, if what it is refused for is at the client or
hidden. -/
theorem discreet_conclude {app : Application} {m : Metrics} {t : RequestType} {ending : Ending}
    (hapi : ∀ a, ending = .refused (.api a) → a.AtClient) {response : Response}
    (h : replyTo true (conclude true app m t ending).1 = .ok response) : response.Discreet := by
  cases ending with
  | answered answer =>
      cases h
      apply Response.Discreet.success
  | unwound p => cases h
  | refused e =>
      by_cases hclient : ∃ a, e = .api a
      · obtain ⟨a, rfl⟩ := hclient
        have hclient : a.AtClient := hapi a rfl
        rw [(conclude_of_render (WebhookError.render_api hclient true) app m t).1] at h
        cases h
        exact hclient.discreet
      · have hother : ∀ a, e ≠ .api a := fun a ha => hclient ⟨a, ha⟩
        rw [(conclude_of_render (WebhookError.render_hidden hother) app m t).1] at h
        cases h
        exact .failure

/-- **Every answer to a webhook in production is discreet**, whatever is in its body. -/
theorem discreet_handle {now : Nat} {app : Application} {cs : Caches} {m : Metrics}
    {body : List UInt8} {response : Response}
    (h : replyTo true (handle true now app cs m body).response = .ok response) :
    response.Discreet := by
  unfold handle at h
  cases hbody : Json.ofBytes body with
  | error e =>
      rw [hbody] at h
      cases h
      exact ApiError.AtClient.discreet (.inl rfl)
  | ok payload =>
      rw [hbody] at h
      exact discreet_conclude (fun a => atClient_of_api) h

/-! ### Applications up to what their responders do -/

/-- The application with responders that do nothing in the place of its own, and without
observers. -/
def Application.silenced (app : Application) : Application :=
  { app with
    assistant := app.assistant.map fun _ _ => .finish (.returned .null)
    transfer := app.transfer.map fun _ _ => .returned .null
    observers := {} }

/-- An application without its responders has the same configuration. -/
theorem Application.config_silenced (app : Application) : app.silenced.config = app.config := rfl

/-- Applications that differ in their responders have the same configuration. -/
theorem Application.config_of_silenced {app app' : Application} (h : app'.silenced = app.silenced) :
    app'.config = app.config := by
  rw [← config_silenced, h, config_silenced]

section responders

variable {now : Nat} {app : Application} {cs : Caches} {payload : Json}

/-- Whether a message is handed to a responder has nothing to do with what the responder does. -/
theorem exists_responds_iff :
    (∃ o, Responds now app cs payload o) ↔
      (RequestType.ofPayload payload = .assistantRequest ∧ app.assistant.isSome = true ∧
          (sessionOf? (messageOf payload)).isSome = true) ∨
        (RequestType.ofPayload payload = .transferDestinationRequest ∧
          app.transfer.isSome = true) := by
  constructor
  · rintro ⟨o, hresponds⟩
    cases hresponds with
    | assistant htype hresponder hsession =>
        exact .inl ⟨htype, by rw [hresponder]; rfl, by rw [hsession]; rfl⟩
    | transfer htype hresponder => exact .inr ⟨htype, by rw [hresponder]; rfl⟩
  · rintro (⟨htype, happ, hsession⟩ | ⟨htype, happ⟩)
    · obtain ⟨responder, hresponder⟩ := Option.isSome_iff_exists.1 happ
      obtain ⟨session, hsession⟩ := Option.isSome_iff_exists.1 hsession
      exact ⟨_, .assistant htype hresponder hsession⟩
    · obtain ⟨responder, hresponder⟩ := Option.isSome_iff_exists.1 happ
      exact ⟨_, .transfer htype hresponder⟩

/-- A message has a responder iff it has one among the silenced ones. -/
theorem exists_responds_silenced :
    (∃ o, Responds now app.silenced cs payload o) ↔ ∃ o, Responds now app cs payload o := by
  simp only [exists_responds_iff, Application.silenced, Option.isSome_map]

/-- What no responder is asked for is dealt with as if there were none. -/
theorem dispatch_silenced (h : ¬ ∃ o, Responds now app cs payload o) (production : Bool) :
    dispatch production now app.silenced cs (RequestType.ofPayload payload) payload =
      dispatch production now app cs (RequestType.ofPayload payload) payload := by
  rw [exists_responds_iff] at h
  cases htype : RequestType.ofPayload payload
  case assistantRequest =>
    show dispatchAssistant production now app.silenced cs payload (messageOf payload) =
      dispatchAssistant production now app cs payload (messageOf payload)
    unfold dispatchAssistant Application.silenced
    cases happ : app.assistant with
    | none => rfl
    | some responder =>
        cases hsession : sessionOf? (messageOf payload) with
        | none => rfl
        | some session => simp [htype, happ, hsession] at h
  case transferDestinationRequest =>
    show dispatchTransfer production app.silenced cs payload =
      dispatchTransfer production app cs payload
    unfold dispatchTransfer Application.silenced
    cases happ : app.transfer with
    | none => rfl
    | some responder => simp [htype, happ] at h
  all_goals rfl

end responders

/-- **Two applications differ in errors only**, whatever they are asked: their responders always end
alike and leave the same caches. -/
structure Application.DiffersInErrors (app app' : Application) : Prop where
  assistant : ∀ responder responder' request session now cs, app.assistant = some responder →
    app'.assistant = some responder' →
      ((responder request).run session now cs).2.EndsLike
          ((responder' request).run session now cs).2 ∧
        ((responder' request).run session now cs).1 = ((responder request).run session now cs).1
  transfer : ∀ responder responder' payload, app.transfer = some responder →
    app'.transfer = some responder' → (responder payload).EndsLike (responder' payload)

namespace State

variable {s s' : State} {r : Request} {m m' : Mount} {payload : Json}

/-- The service up to what its responders do, and without observers. -/
def silenced (s : State) : State := s.recast Application.silenced

/-- What services that are the same up to their responders have in common. -/
theorem frame_of_silenced (h : s'.silenced = s.silenced) :
    s'.settings = s.settings ∧ s'.now = s.now ∧ s'.metrics = s.metrics ∧
    s'.handlerCalls = s.handlerCalls := by
  have hframe : ∀ s : State, s.silenced.settings = s.settings ∧ s.silenced.now = s.now ∧
      s.silenced.metrics = s.metrics ∧ s.silenced.handlerCalls = s.handlerCalls :=
    fun _ => ⟨rfl, rfl, rfl, rfl⟩
  obtain ⟨hsettings, hnow, hmetrics, hcalls⟩ := hframe s
  rw [← h] at hsettings hnow hmetrics hcalls
  exact ⟨hsettings, hnow, hmetrics, hcalls⟩

/-! ### Services that differ in errors only -/

/-- **The services deal with a step alike, but for an error**: if the step is a message that is
handed to a responder, the responders end alike and leave the same caches. -/
def DiffersInErrors (s s' : State) (step : Step) : Prop :=
  ∀ r m m' payload o o', step.request? = some r → s.accepted? r = some (m, payload) →
    s'.accepted? r = some (m', payload) → Responds s.now m.application m.caches payload o →
    Responds s'.now m'.application m'.caches payload o' →
      o.EndsLike o' ∧ (s'.dispatched m' payload).caches = (s.dispatched m payload).caches

section request

variable (hsilenced : s'.silenced = s.silenced)
include hsilenced

/-- Services that are the same up to their responders accept the same requests, by applications that
are. -/
theorem accepted?_of_silenced (h : s.accepted? r = some (m, payload)) :
    ∃ m', s'.accepted? r = some (m', payload) ∧
      m'.application.silenced = m.application.silenced ∧ m'.caches = m.caches := by
  have hview : s'.silenced.accepted? r = some (m.recast Application.silenced, payload) := by
    rw [hsilenced, silenced, accepted?_recast Application.config_silenced, h]
    rfl
  rw [silenced, accepted?_recast Application.config_silenced] at hview
  obtain ⟨⟨m', payload'⟩, h', heq⟩ := Option.map_eq_some_iff.1 hview
  simp only [Mount.recast, Prod.mk.injEq, Mount.mk.injEq] at heq
  obtain ⟨⟨happ, hcaches⟩, rfl⟩ := heq
  exact ⟨m', h', happ, hcaches⟩

/-- Requests are refused alike by services that differ in their responders. -/
theorem not_accepted?_of_silenced (h : s.accepted? r = none) : s'.accepted? r = none := by
  have hview : s'.silenced.accepted? r = none := by
    rw [hsilenced, silenced, accepted?_recast Application.config_silenced, h]
    rfl
  rw [silenced, accepted?_recast Application.config_silenced] at hview
  exact Option.map_eq_none_iff.1 hview

/-- A message comes to the same in both services, but for the error of a responder. -/
theorem dispatched_of_differs (h : s.accepted? r = some (m, payload))
    (h' : s'.accepted? r = some (m', payload))
    (happ : m'.application.silenced = m.application.silenced) (hcaches : m'.caches = m.caches)
    (hdiffers : s.DiffersInErrors s' (.request r)) :
    (s.dispatched m payload).EndsLike (s'.dispatched m' payload) := by
  obtain ⟨hsettings, hnow, -, -⟩ := frame_of_silenced hsilenced
  by_cases hasked : ∃ o, Responds s.now m.application m.caches payload o
  · have hasked' : ∃ o, Responds s'.now m'.application m'.caches payload o := by
      rw [← exists_responds_silenced, happ, hcaches, hnow, exists_responds_silenced]
      exact hasked
    obtain ⟨o, ho⟩ := hasked
    obtain ⟨o', ho'⟩ := hasked'
    obtain ⟨hends, hleft⟩ := hdiffers r m m' payload o o' rfl h h' ho ho'
    obtain ⟨cs, hdispatch⟩ := dispatch_of_responds ho s.settings.production
    obtain ⟨cs', hdispatch'⟩ := dispatch_of_responds ho' s'.settings.production
    refine ⟨?_, hleft, ?_, ?_⟩ <;> rw [dispatched, dispatched, hdispatch, hdispatch', hsettings]
    · exact hends.ending s.settings.production _ _
    · rfl
    · rfl
  · have hasked' : ¬ ∃ o, Responds s'.now m'.application m'.caches payload o := by
      rw [← exists_responds_silenced, happ, hcaches, hnow, exists_responds_silenced]
      exact hasked
    have hsame : s'.dispatched m' payload = s.dispatched m payload := by
      unfold dispatched
      rw [← dispatch_silenced hasked, ← dispatch_silenced hasked', happ, hcaches,
        hnow, hsettings]
    rw [hsame]
    exact .refl _

/-- So does its conclusion, in production. -/
theorem concluded_of_differs (hproduction : s.settings.production = true)
    (h : s.accepted? r = some (m, payload)) (h' : s'.accepted? r = some (m', payload))
    (happ : m'.application.silenced = m.application.silenced) (hcaches : m'.caches = m.caches)
    (hdiffers : s.DiffersInErrors s' (.request r)) :
    (s'.concluded m' payload).1 = (s.concluded m payload).1 ∧
      (s'.concluded m' payload).2.1 = (s.concluded m payload).2.1 ∧
      (s'.concluded m' payload).2.2.map Event.told =
        (s.concluded m payload).2.2.map Event.told := by
  obtain ⟨hsettings, -, hmetrics, -⟩ := frame_of_silenced hsilenced
  obtain ⟨hending, -, hinvocations, -⟩ :=
    dispatched_of_differs hsilenced h h' happ hcaches hdiffers
  unfold concluded
  dsimp only
  rw [hsettings, hproduction, hinvocations, hmetrics]
  exact conclude_of_endsLike (Application.config_of_silenced happ) hending _ _

variable (hproduction : s.settings.production = true) (hdiffers : s.DiffersInErrors s' (.request r))
include hproduction hdiffers

/-- **The answers are the same.** -/
theorem response_of_differs (clock : Nat → String) :
    (s'.serve clock r).1 = (s.serve clock r).1 := by
  cases h : s.accepted? r with
  | none =>
      have h' := not_accepted?_of_silenced hsilenced h
      have hserve := serve_recast_of_not_accepted Application.config_silenced h clock
      have hserve' := serve_recast_of_not_accepted Application.config_silenced h' clock
      have hrecast : s'.recast Application.silenced = s.recast Application.silenced := hsilenced
      rw [hrecast, hserve] at hserve'
      exact (congrArg Prod.fst hserve').symm
  | some a =>
      obtain ⟨m, payload⟩ := a
      obtain ⟨m', h', happ, hcaches⟩ := accepted?_of_silenced hsilenced h
      obtain ⟨hresponse, -⟩ :=
        concluded_of_differs hsilenced hproduction h h' happ hcaches hdiffers
      rw [response_serve h, response_serve h', hresponse, (frame_of_silenced hsilenced).1]

/-- **So are the events**, but for the application that they name. -/
theorem told_of_differs : (s'.emissions r).map Event.told = (s.emissions r).map Event.told := by
  unfold emissions
  cases h : s.accepted? r with
  | none => rw [not_accepted?_of_silenced hsilenced h]
  | some a =>
      obtain ⟨m, payload⟩ := a
      obtain ⟨m', h', happ, hcaches⟩ := accepted?_of_silenced hsilenced h
      obtain ⟨-, -, htold⟩ :=
        concluded_of_differs hsilenced hproduction h h' happ hcaches hdiffers
      have hpath : m'.application.serverPath = m.application.serverPath :=
        congrArg ApplicationConfig.serverPath (Application.config_of_silenced happ)
      rw [h']
      dsimp only
      rw [List.map_cons, List.map_cons, htold, Event.told, Event.told, hpath]

end request

/-- **Services that differ in errors only are the same up to their responders after every step**, in
production. -/
theorem silenced_perform {step : Step} (hsilenced : s'.silenced = s.silenced)
    (hproduction : s.settings.production = true) (hdiffers : s.DiffersInErrors s' step)
    (clock : Nat → String) :
    (s'.perform clock step).silenced = (s.perform clock step).silenced := by
  have hrecast : s'.recast Application.silenced = s.recast Application.silenced := hsilenced
  unfold silenced
  cases hstep : step.request? with
  | none => rw [recast_perform hstep, recast_perform hstep, hrecast]
  | some r =>
      obtain rfl := eq_request hstep
      show (s'.serve clock r).2.recast Application.silenced =
        (s.serve clock r).2.recast Application.silenced
      cases h : s.accepted? r with
      | none =>
          have h' := not_accepted?_of_silenced hsilenced h
          have hserve := serve_recast_of_not_accepted Application.config_silenced h clock
          have hserve' := serve_recast_of_not_accepted Application.config_silenced h' clock
          rw [hrecast, hserve] at hserve'
          exact (congrArg Prod.snd hserve').symm
      | some a =>
          obtain ⟨m, payload⟩ := a
          obtain ⟨m', h', happ, hcaches⟩ := accepted?_of_silenced hsilenced h
          obtain ⟨-, hmetrics, -⟩ :=
            concluded_of_differs hsilenced hproduction h h' happ hcaches hdiffers
          obtain ⟨-, hleft, -, hcalls⟩ :=
            dispatched_of_differs hsilenced h h' happ hcaches hdiffers
          have hpath : m'.path = m.path :=
            congrArg ApplicationConfig.serverPath (Application.config_of_silenced happ)
          rw [recast_serve_of_accepted Application.config_silenced h,
            recast_serve_of_accepted Application.config_silenced h', hrecast, hpath,
            (frame_of_silenced hsilenced).2.2.2, hmetrics, hleft, hcalls]

/-- Services whose applications differ in errors only deal with every step alike, but for errors. -/
theorem differsInErrors_of_applications (hsilenced : s'.silenced = s.silenced)
    (happlications : ∀ app ∈ s.applications, ∀ app' ∈ s'.applications,
      app'.silenced = app.silenced → app.DiffersInErrors app') (step : Step) :
    s.DiffersInErrors s' step := by
  intro r m m' payload o o' _ h h' ho ho'
  obtain ⟨m₁, h₁, happ, hcaches⟩ := accepted?_of_silenced hsilenced h
  obtain ⟨rfl, -⟩ := Prod.mk.inj (Option.some.inj (h'.symm.trans h₁))
  have hdiffers : m.application.DiffersInErrors m'.application :=
    happlications _ (List.mem_map_of_mem (mem_of_accepted? h)) _
      (List.mem_map_of_mem (mem_of_accepted? h')) happ
  have hpath : m'.application.serverPath = m.application.serverPath :=
    congrArg ApplicationConfig.serverPath (Application.config_of_silenced happ)
  have hnow := (frame_of_silenced hsilenced).2.1
  unfold dispatched
  cases ho with
  | @assistant responder session htype hresponder hsession =>
      cases ho' with
      | transfer htype' _ =>
          rw [htype] at htype'
          cases htype'
      | @assistant responder' session' _ hresponder' hsession' =>
          obtain rfl := Option.some.inj (hsession.symm.trans hsession')
          obtain ⟨hends, hleft⟩ := hdiffers.assistant responder responder'
            ⟨session, m.application.serverPath, payload⟩ session s.now m.caches hresponder
            hresponder'
          rw [htype, hpath, hcaches, hnow]
          refine ⟨hends, ?_⟩
          show (dispatchAssistant s'.settings.production s.now m'.application m.caches payload
              (messageOf payload)).caches =
            (dispatchAssistant s.settings.production s.now m.application m.caches payload
              (messageOf payload)).caches
          unfold dispatchAssistant
          rw [hresponder, hresponder', hsession, hpath]
          exact hleft
  | @transfer responder htype hresponder =>
      cases ho' with
      | assistant htype' _ _ =>
          rw [htype] at htype'
          cases htype'
      | @transfer responder' _ hresponder' =>
          rw [htype]
          refine ⟨hdiffers.transfer responder responder' payload hresponder hresponder', ?_⟩
          show (dispatchTransfer s'.settings.production m'.application m'.caches payload).caches =
            (dispatchTransfer s.settings.production m.application m.caches payload).caches
          rw [caches_dispatchTransfer, caches_dispatchTransfer, hcaches]

/-! ### Runs -/

/-- Something holds at every step of two runs beside each other, in the states that the step
finds. -/
def Beside (clock : Nat → String) (P : State → State → Step → Prop) :
    State → State → List Step → Prop
  | _, _, [] => True
  | s, s', step :: rest =>
    P s s' step ∧ Beside clock P (s.perform clock step) (s'.perform clock step) rest

/-- Services whose responders differ in their errors run beside each other and differ in no more, by
induction on the steps. -/
theorem beside_of_applications (hproduction : s.settings.production = true)
    (hsilenced : s'.silenced = s.silenced)
    (happlications : ∀ app ∈ s.applications, ∀ app' ∈ s'.applications,
      app'.silenced = app.silenced → app.DiffersInErrors app') (clock : Nat → String)
    (steps : List Step) :
    Beside clock DiffersInErrors s s' steps := by
  induction steps generalizing s s' with
  | nil => trivial
  | cons step rest ih =>
      have hstep := differsInErrors_of_applications hsilenced happlications step
      refine ⟨hstep, ih ?_ (silenced_perform hsilenced hproduction hstep clock) ?_⟩
      · rw [settings_perform, hproduction]
      · rw [applications_perform, applications_perform]
        exact happlications

/-- A request whose responder fails is answered that the service has failed, and not why. -/
def HidesFailure (clock : Nat → String) (s : State) (step : Step) : Prop :=
  ∀ r m payload f, step.request? = some r → s.accepted? r = some (m, payload) →
    Responds s.now m.application m.caches payload (.failed f) →
      (s.serve clock r).1 = .ok (.json 500 (.object [("error", .str "internal server error")]))

/-- In production a failure is hidden at every step. -/
theorem hidesFailure (hproduction : s.settings.production = true) (clock : Nat → String)
    (step : Step) :
    s.HidesFailure clock step := by
  intro r m payload f _ h hresponds
  have hending : (s.dispatched m payload).ending = _ := ending_of_failed hresponds
  have hconcluded : (s.concluded m payload).1 = .ok hiddenError.response := by
    rw [concluded, hending, hproduction, conclude_hidden]
  rw [response_serve h, hconcluded]
  rfl

/-- In production failures are hidden throughout a run. -/
theorem throughout_hidesFailure (hproduction : s.settings.production = true)
    (clock : Nat → String) (steps : List Step) :
    s.Throughout clock (HidesFailure clock) steps := by
  induction steps generalizing s with
  | nil => trivial
  | cons step rest ih =>
      refine ⟨hidesFailure hproduction clock step, ih ?_⟩
      rw [settings_perform, hproduction]

/-- **The errors of responders are hidden** in two runs of the same steps. -/
structure ErrorsHidden (clock : Nat → String) (s s' : State) (steps : List Step) : Prop where
  /-- All requests are answered alike. -/
  answers : s'.answers clock steps = s.answers clock steps
  /-- All events carry the same: those before an answer the message, those after it the value. -/
  told : (s'.emitted clock steps).map Event.told = (s.emitted clock steps).map Event.told
  /-- A request whose responder fails is answered that the service has failed, in the one run ... -/
  failures : s.Throughout clock (HidesFailure clock) steps
  /-- ... and in the other. -/
  failures' : s'.Throughout clock (HidesFailure clock) steps
  /-- Whatever an application is posted in whatever state, its answer is discreet. -/
  discreet : ∀ now app cs m body response,
    replyTo true (handle true now app cs m body).response = .ok response → response.Discreet

/-- **Production hides the errors of responders**: runs of two services that differ in nothing but
such errors are not to be told from each other. -/
theorem errors_hidden (hproduction : s.settings.production = true)
    (hsilenced : s'.silenced = s.silenced) (clock : Nat → String) (steps : List Step)
    (hdiffers : Beside clock DiffersInErrors s s' steps) :
    ErrorsHidden clock s s' steps := by
  have hproduction' : s'.settings.production = true := by
    rw [(frame_of_silenced hsilenced).1, hproduction]
  have hboth : s'.answers clock steps = s.answers clock steps ∧
      (s'.emitted clock steps).map Event.told = (s.emitted clock steps).map Event.told := by
    clear hproduction'
    induction steps generalizing s s' with
    | nil => exact ⟨rfl, rfl⟩
    | cons step rest ih =>
        obtain ⟨hstep, hrest⟩ := hdiffers
        have hnext : (s.perform clock step).settings.production = true := by
          rw [settings_perform, hproduction]
        obtain ⟨hanswers, htold⟩ :=
          ih hnext (silenced_perform hsilenced hproduction hstep clock) hrest
        unfold answers emitted
        rw [List.map_append, List.map_append, hanswers, htold]
        cases hr : step.request? with
        | none => simp only [Option.map_none, Option.elim_none, and_self]
        | some r =>
            obtain rfl := eq_request hr
            simp only [Option.map_some, Option.elim_some,
              response_of_differs hsilenced hproduction hstep,
              told_of_differs hsilenced hproduction hstep, and_self]
  exact ⟨hboth.1, hboth.2, throughout_hidesFailure hproduction clock steps,
    throughout_hidesFailure hproduction' clock steps, fun _ _ _ _ _ _ => discreet_handle⟩

/-- A service in production with one application. Its responder for assistants registers functions
and then ends, and its responder for transfers fails. -/
def frailService (registrations : List Registration) (last : Outcome Json) (fault : Fault) :
    State where
  settings := { production := true }
  observers := {}
  mounts := [{ application :=
    { config := {}
      assistant := some fun _ => .ofRegistrations last registrations
      transfer := some fun _ => .failed fault } }]

/-- The weather tool. -/
def weatherTool : Registration := ⟨.toolCall, defaultAssistant, Weather.draft⟩

/-- The same without a name. -/
def namelessTool : Registration :=
  ⟨.toolCall, defaultAssistant, { Weather.draft with name := some " " }⟩

/-- Its responder for assistants fails after it has registered the tool. -/
def faultyService : State :=
  frailService [weatherTool] (.failed (.ofTexts ["no persona", "database is down"]))
    (.ofText "lost")

/-- Its responder for assistants fails as well, because the second tool has no name; its transfers
fail with another error. -/
def namelessService : State :=
  frailService [weatherTool, namelessTool] (.returned .null)
    (.ofTexts ["no destination", "directory timed out"])

/-- The two are asked for an assistant and for the destination of a transfer. -/
theorem errors_hidden_frail :
    faultyService.settings.production = true ∧
    namelessService.silenced = faultyService.silenced ∧
      ErrorsHidden (fun time => toString time) faultyService namelessService
        [.request (weatherPost "assistant-request" "a"), .wait 1000,
          .request (weatherPost "transfer-destination-request" "a")] := by
  have hproduction : faultyService.settings.production = true := rfl
  have hsilenced : namelessService.silenced = faultyService.silenced := rfl
  refine ⟨hproduction, hsilenced, errors_hidden hproduction hsilenced _ _ ?_⟩
  apply beside_of_applications hproduction hsilenced
  intro app happ app' happ' _
  obtain rfl := List.mem_singleton.1 happ
  obtain rfl := List.mem_singleton.1 happ'
  constructor
  case assistant =>
    intro responder responder' request session now cs hresponder hresponder'
    cases hresponder
    cases hresponder'
    obtain ⟨d, hd⟩ : ∃ d, weatherTool.draft.build = .ok d := ⟨_, rfl⟩
    obtain ⟨e, he⟩ : ∃ e, namelessTool.draft.build = .error e := ⟨_, rfl⟩
    simp only [Script.ofRegistrations, hd, he, Script.run]
    cases cs.add weatherTool.kind now ⟨session, weatherTool.assistant⟩ d with
    | error e => exact ⟨.same _, rfl⟩
    | ok cs => exact ⟨.failed _ _, rfl⟩
  case transfer =>
    intro responder responder' payload hresponder hresponder'
    cases hresponder
    cases hresponder'
    exact .failed _ _

end State

end Switchboard

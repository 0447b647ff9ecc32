import Switchboard.Proofs.Service.Isolation

/-!
# Accepted requests

A request is *accepted* if it is a post that leads to an application, passes the check of the
secret, and has a body that is neither too long nor anything but JSON. Only then is there a message
to be dealt with.

* `State.accepted?`: the application that accepts a request, and the payload. Who accepts a request
  is a matter of the settings and the applications (`accepted?_congr`).
* `State.dispatched`, `State.concluded`: what becomes of the message of an accepted request, and how
  its handling ends.
* **`serve_of_accepted`**, **`serve_of_not_accepted`**: serving an accepted request is these two and
  nothing else, and a request that is not accepted leaves the service as it is, unless it empties
  the caches.
* `State.Posts`: a request is accepted as a message of a type about a session.
* `State.Throughout`: something holds at every step of a run.
-/

namespace Switchboard

/-- The message in a payload. -/
def messageOf (payload : Json) : Json := (payload.get? "message").getD .null

/-- A message with a session has the key of the session and its assistant. -/
theorem keyOf_of_sessionOf? {message : Json} {session : String}
    (h : sessionOf? message = some session) :
    keyOf message = .ok ⟨session, assistantOf message⟩ := by
  unfold keyOf
  rw [h]

/-- The page that empties the caches. -/
def Route.clears : Route → Bool
  | builtIn page => page = .clearCaches
  | webhook _ => false

namespace State

variable {s s' : State} {r : Request} {m : Mount} {payload : Json}

/-- The application that accepts a request, and the payload in its body. -/
def accepted? (s : State) (r : Request) : Option (Mount × Json) :=
  match s.webhook? r with
  | none => none
  | some m =>
    if passesSecret m.application.config.secret r ∧ r.method = "POST" ∧
      r.body.length ≤ greatestBody then
      (Json.ofBytes r.body).toOption.map fun payload => (m, payload)
    else none

/-- A request is accepted iff it is a post of JSON with the secret, not too long, to the path of an
application. -/
theorem accepted?_eq_some_iff :
    s.accepted? r = some (m, payload) ↔
      s.webhook? r = some m ∧ passesSecret m.application.config.secret r = true ∧
        r.method = "POST" ∧ r.body.length ≤ greatestBody ∧
        Json.ofBytes r.body = .ok payload := by
  unfold accepted?
  cases hm : s.webhook? r with
  | none => simp
  | some m' =>
      dsimp only
      split
      · next hpass =>
        cases hbody : Json.ofBytes r.body with
        | error e => simp [Except.toOption]
        | ok v =>
            simp only [Except.toOption, Option.map_some, Option.some.injEq, Prod.mk.injEq,
              Except.ok.injEq]
            constructor
            · rintro ⟨rfl, rfl⟩
              exact ⟨rfl, hpass.1, hpass.2.1, hpass.2.2, rfl⟩
            · rintro ⟨rfl, -, -, -, rfl⟩
              exact ⟨rfl, rfl⟩
      · next hpass =>
        constructor
        · intro h
          cases h
        · rintro ⟨hm', hsecret, hmethod, hlength, -⟩
          obtain rfl := Option.some.inj hm'
          exact absurd ⟨hsecret, hmethod, hlength⟩ hpass

/-- The application that a request is accepted for is one of the service. -/
theorem mem_of_accepted? (h : s.accepted? r = some (m, payload)) : m ∈ s.mounts :=
  mem_of_webhook? (accepted?_eq_some_iff.1 h).1

/-- Who accepts a request is a matter of the settings and the applications. -/
theorem accepted?_congr (hsettings : s.settings = s'.settings)
    (happlications : s.applications = s'.applications) (r : Request) :
    (s.accepted? r).map (fun a => (a.1.application, a.2)) =
      (s'.accepted? r).map fun a => (a.1.application, a.2) := by
  have hview : ∀ s : State, (s.accepted? r).map (fun a => (a.1.application, a.2)) =
      ((s.webhook? r).map Mount.application).bind fun app =>
        if passesSecret app.config.secret r ∧ r.method = "POST" ∧
          r.body.length ≤ greatestBody then
          (Json.ofBytes r.body).toOption.map fun payload => (app, payload)
        else none := by
    intro s
    unfold accepted?
    cases s.webhook? r with
    | none => rfl
    | some m =>
        dsimp only [Option.map_some, Option.bind_some]
        split
        · rw [Option.map_map]
          rfl
        · rfl
  rw [hview, hview, webhook?_congr hsettings happlications]

/-! ## Serving -/

/-- What becomes of the message of an accepted request. -/
def dispatched (s : State) (m : Mount) (payload : Json) : Dispatch :=
  dispatch s.settings.production s.now m.application m.caches
    (RequestType.ofPayload payload) payload

/-- How the handling of an accepted request ends. -/
def concluded (s : State) (m : Mount) (payload : Json) :
    Except Panic Response × Metrics × List Event :=
  let d := s.dispatched m payload
  conclude s.settings.production m.application
    (s.metrics.observeInvocations d.invocations.1 d.invocations.2)
      (RequestType.ofPayload payload) d.ending

/-- **An accepted request** is told of, dispatched and concluded. -/
theorem serve_of_accepted (h : s.accepted? r = some (m, payload)) (clock : Nat → String) :
    s.serve clock r =
      (replyTo s.settings.production (s.concluded m payload).1,
        ({ s.setCaches m.path (s.dispatched m payload).caches with
          metrics := (s.concluded m payload).2.1
          handlerCalls := s.handlerCalls ++ (s.dispatched m payload).handlerCalls }).send
          (⟨m.application, RequestType.ofPayload payload, .request payload⟩ ::
            (s.concluded m payload).2.2)) := by
  obtain ⟨hm, hsecret, hmethod, hlength, hbody⟩ := accepted?_eq_some_iff.1 h
  obtain ⟨path, hpath, hroute⟩ : ∃ path, r.path? = some path ∧
    s.route? path = some (.webhook m) := by
    unfold webhook? at hm
    split at hm
    · next hroute =>
      cases hm
      exact Option.bind_eq_some_iff.1 hroute
    · cases hm
  have hserve : s.serve clock r = s.serveWebhook m r.body := by
    unfold serve
    rw [hpath, Option.map_some, hroute]
    dsimp only
    rw [hsecret, hmethod, if_neg (by simp), if_neg (by simp), if_neg (by omega)]
  rw [hserve, serveWebhook, handle, hbody]
  rfl

/-- To give an application the caches that it has changes nothing. -/
theorem setCaches_self (hs : (s.mounts.map Mount.path).Nodup) (hm : m ∈ s.mounts) :
    s.setCaches m.path m.caches = s := by
  have hmounts : (s.setCaches m.path m.caches).mounts = s.mounts := by
    rw [mounts_setCaches]
    conv_rhs => rw [← List.map_id s.mounts]
    refine List.map_congr_left fun m' hm' => ?_
    split
    · next hpath =>
      rw [List.inj_on_of_nodup_map hs hm' hm hpath]
      rfl
    · rfl
  calc s.setCaches m.path m.caches
      = { s with mounts := (s.setCaches m.path m.caches).mounts } := rfl
    _ = s := by rw [hmounts]

/-- The request empties the caches. -/
def clearsCaches (s : State) (r : Request) : Bool :=
  (r.method = "GET" || r.method = "HEAD") && (r.path?.bind s.route?).any Route.clears

/-- **A request that is not accepted** leaves the service as it is, but for one page that empties
the caches. -/
theorem serve_of_not_accepted (hs : (s.mounts.map Mount.path).Nodup) (h : s.accepted? r = none)
    (clock : Nat → String) :
    (s.serve clock r).2 = if s.clearsCaches r then s.clearCaches else s := by
  unfold serve clearsCaches
  unfold accepted? webhook? at h
  cases hpath : r.path? with
  | none => simp
  | some path =>
      rw [hpath, Option.bind_some] at h
      rw [Option.map_some, Option.bind_some]
      cases hroute : s.route? path with
      | none => simp
      | some route =>
          rw [Option.any_some]
          cases route with
          | builtIn page =>
              dsimp only
              split
              · next hmethod =>
                rw [hmethod]
                cases page <;> rfl
              · next hmethod =>
                rw [Bool.eq_false_iff.2 hmethod]
                rfl
          | webhook m =>
              rw [hroute] at h
              dsimp only at h ⊢
              rw [Route.clears, Bool.and_false, if_neg Bool.false_ne_true]
              split
              · rfl
              · next hsecret =>
                split
                · rfl
                · next hmethod =>
                  split
                  · rfl
                  · next hlength =>
                    -- the body is what is left to be wrong with the request
                    have hpass : passesSecret m.application.config.secret r = true ∧
                        r.method = "POST" ∧ r.body.length ≤ greatestBody :=
                      ⟨by simpa using hsecret, by simpa using hmethod, by omega⟩
                    rw [if_pos hpass] at h
                    cases hbody : Json.ofBytes r.body with
                    | ok payload =>
                        rw [hbody] at h
                        cases h
                    | error e =>
                        have hself := setCaches_self hs (mem_of_route? hroute)
                        rw [serveWebhook, handle, hbody]
                        dsimp only
                        rw [hself, List.append_nil]
                        rfl

/-! ## What an accepted request leaves behind -/

section accepted

variable (h : s.accepted? r = some (m, payload)) (clock : Nat → String)
include h

/-- The answer to an accepted request is what its handling has concluded. -/
theorem response_serve :
    (s.serve clock r).1 = replyTo s.settings.production (s.concluded m payload).1 := by
  rw [serve_of_accepted h]

/-- An accepted request leaves the application with the caches that its handling has come to. -/
theorem mounts_serve :
    (s.serve clock r).2.mounts = (s.setCaches m.path (s.dispatched m payload).caches).mounts := by
  rw [serve_of_accepted h]
  rfl

/-- An accepted request leaves the caches of the other applications. -/
theorem caches?_serve (path : String) :
    (s.serve clock r).2.caches? path =
      (s.caches? path).map fun old => if path = m.path then (s.dispatched m payload).caches
        else old := by
  rw [caches?, mount?, mounts_serve h]
  exact caches?_setCaches s m.path path _

/-- An accepted request calls the handlers that its handling calls. -/
theorem handlerCalls_serve :
    (s.serve clock r).2.handlerCalls = s.handlerCalls ++ (s.dispatched m payload).handlerCalls := by
  rw [serve_of_accepted h]
  rfl

/-- What is answered normally is answered with the status 200. -/
theorem response_serve_of_answered {answer : Answer}
    (hending : (s.dispatched m payload).ending = .answered answer) :
    (s.serve clock r).1 = .ok (.json 200 answer.toJson) := by
  rw [response_serve h, concluded, hending]
  rfl

/-- The client is told an error of its own, in production and outside of it. -/
theorem response_serve_of_refused {e : ApiError} (he : e.isClientError = true)
    (hending : (s.dispatched m payload).ending = .refused (.api e)) :
    (s.serve clock r).1 = .ok e.response := by
  have hrender : (WebhookError.api e).render s.settings.production = .ok (e.response, e.body) := by
    unfold WebhookError.render
    dsimp only
    rw [he, Bool.true_or, if_pos rfl]
  rw [response_serve h, concluded, hending, conclude, hrender]
  rfl

/-- A message that leaves the caches of its application alone leaves all caches alone. -/
theorem mounts_serve_of_caches (hs : (s.mounts.map Mount.path).Nodup)
    (hcaches : (s.dispatched m payload).caches = m.caches) :
    (s.serve clock r).2.mounts = s.mounts := by
  rw [mounts_serve h, hcaches, setCaches_self hs (mem_of_accepted? h)]

end accepted

/-! ## Messages about a session -/

/-- **The request is accepted as a message about a session**: by the application with a path, with
the given type, and with the session as its call. -/
def Posts (s : State) (r : Request) (path : String) (t : RequestType) (session : String) : Prop :=
  ∃ m payload, s.accepted? r = some (m, payload) ∧ m.path = path ∧
    RequestType.ofPayload payload = t ∧ sessionOf? (messageOf payload) = some session

/-- What a request is depends on the settings and the applications alone. -/
theorem posts_congr (hsettings : s.settings = s'.settings)
    (happlications : s.applications = s'.applications) (r : Request) (path : String)
    (t : RequestType) (session : String) :
    s.Posts r path t session ↔ s'.Posts r path t session := by
  have hview : ∀ s : State, s.Posts r path t session ↔
      ∃ app payload,
        (s.accepted? r).map (fun a => (a.1.application, a.2)) = some (app, payload) ∧
        app.serverPath = path ∧ RequestType.ofPayload payload = t ∧
          sessionOf? (messageOf payload) = some session := by
    intro s
    constructor
    · rintro ⟨m, payload, h, hpath, ht, hsession⟩
      exact ⟨m.application, payload, by rw [h]; rfl, hpath, ht, hsession⟩
    · rintro ⟨app, payload, h, hpath, ht, hsession⟩
      obtain ⟨⟨m, payload'⟩, ha, heq⟩ := Option.map_eq_some_iff.1 h
      cases heq
      exact ⟨m, payload', ha, hpath, ht, hsession⟩
  rw [hview, hview, accepted?_congr hsettings happlications]

/-! ## Along a run -/

/-- Something holds at every step of a run, in the state that the step finds. -/
def Throughout (clock : Nat → String) (P : State → Step → Prop) : State → List Step → Prop
  | _, [] => True
  | s, step :: rest => P s step ∧ (s.perform clock step).Throughout clock P rest

/-- What holds throughout a run holds with all that follows from it. -/
theorem Throughout.imp {clock : Nat → String} {P Q : State → Step → Prop}
    (hPQ : ∀ s step, P s step → Q s step) {steps : List Step} (h : s.Throughout clock P steps) :
    s.Throughout clock Q steps := by
  induction steps generalizing s with
  | nil => trivial
  | cons step rest ih => exact ⟨hPQ s step h.1, ih h.2⟩

/-- A step leaves the paths of the applications distinct. -/
theorem paths_nodup_perform (hs : (s.mounts.map Mount.path).Nodup) (clock : Nat → String)
    (step : Step) :
    ((s.perform clock step).mounts.map Mount.path).Nodup := by
  rwa [paths_eq, applications_perform, ← paths_eq]

/-- The paths of the applications stay distinct. -/
theorem paths_nodup_after (hs : (s.mounts.map Mount.path).Nodup) (clock : Nat → String)
    (steps : List Step) : ((s.after clock steps).mounts.map Mount.path).Nodup := by
  induction steps generalizing s with
  | nil => exact hs
  | cons step rest ih => exact ih (paths_nodup_perform hs clock step)

/-! ## A service to look at -/

/-- A service with the weather application and nothing else. -/
def weatherService : State where
  settings := {}
  observers := {}
  mounts := [{ application := Weather.application {} }]

/-- The service with the weather application can be built. -/
theorem build_weather : build {} {} [Weather.application {}] = .ok weatherService := rfl

end State

end Switchboard

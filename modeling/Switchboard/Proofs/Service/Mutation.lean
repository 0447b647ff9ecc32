import Switchboard.Proofs.Service.EndOfCall
import Switchboard.Proofs.Service.Responses

/-!
# What may change the caches

An entry comes in and grows only when an assistant is asked for in the name of its session. It
leaves with its session, by a sweep that finds it too old, or when the caches are emptied.
`change_perform` says so of one entry; here it is put together with what most requests do, which is
nothing.

* `Touches`: the requests that may change caches.
* `mounts_serve_of_idle`, `mounts_serve_of_missing`: every other request leaves all caches as they
  are, and so does one that is answered that something is missing.
* **`orderly_run`**: in every run the entries change in an orderly way only, and each lasts
  unaltered but for the functions that it gains.
-/

namespace Switchboard

/-! ## Responses -/

/-- **Something is missing**, says the response: in the request, or in the service. -/
def Response.Missing (response : Response) : Prop := response.status = 400 ∨ response.status = 404

/-- A responder that has been asked is answered for, or fails the service: nothing is missing
then. -/
theorem ending_ne_api_of_asked {production : Bool} {now : Nat} {app : Application} {cs : Caches}
    {payload : Json} {responder : AssistantRequest → Script} {session : String}
    (happ : app.assistant = some responder)
    (hsession : sessionOf? (messageOf payload) = some session) (a : ApiError) :
    (dispatch production now app cs .assistantRequest payload).ending ≠ .refused (.api a) := by
  change (dispatchAssistant production now app cs payload (messageOf payload)).ending ≠ _
  unfold dispatchAssistant
  rw [happ, hsession]
  exact endingOf_ne_api _ _ _ a

namespace State

variable {s : State} {r : Request} {m : Mount} {payload : Json} {path : String} {key : CacheKey}
  {kind : CacheKind} {e : Entry} {step : Step} {clock : Nat → String}

/-- A request that empties the caches is sent on to the page that shows them. -/
theorem response_serve_of_empties (h : s.Empties r) (clock : Nat → String) :
    ∃ response, (s.serve clock r).1 = .ok response ∧ response.status = 303 := by
  obtain ⟨hproduction, hmethod, hpath⟩ := h
  have hroute : s.route? BuiltIn.clearCaches.path = some (.builtIn .clearCaches) := by
    unfold route?
    rw [hproduction]
    rfl
  have hget : (decide (r.method = "GET") || decide (r.method = "HEAD")) = true := by
    simpa using hmethod
  unfold serve
  rw [hpath, Option.map_some, hroute]
  dsimp only
  rw [if_pos hget]
  exact ⟨_, rfl, rfl⟩

/-! ## Requests that leave the caches alone -/

/-- **The request may change caches**: it asks for an assistant in the name of a session, takes a
session out, or empties the caches. -/
inductive Touches (s : State) (r : Request) : Prop where
  | asks {path session : String} (h : s.Posts r path .assistantRequest session)
  | cleans {path session : String} (h : s.Cleans r path session)
  | empties (h : s.Empties r)

/-- Every other request leaves all caches as they are, whatever its type and however it is
answered. -/
theorem mounts_serve_of_idle (hs : (s.mounts.map Mount.path).Nodup) (hidle : ¬ s.Touches r)
    (clock : Nat → String) : (s.serve clock r).2.mounts = s.mounts := by
  cases haccepted : s.accepted? r with
  | none =>
      have hempties : ¬ s.Empties r := fun hempties => hidle (.empties hempties)
      rw [serve_of_ignored hs haccepted hempties]
  | some a =>
      obtain ⟨m, payload⟩ := a
      rcases caches_dispatch_cases s.settings.production s.now m.application m.caches
          (RequestType.ofPayload payload) payload with
        hcaches | ⟨responder, session, htype, -, hsession, -⟩ |
          ⟨session, htype, hflag, hsession, -⟩
      · exact mounts_serve_of_caches haccepted clock hs hcaches
      · exact absurd (.asks ⟨m, payload, haccepted, rfl, htype, hsession⟩) hidle
      · exact absurd (.cleans ⟨m, payload, haccepted, rfl, htype, hsession, hflag⟩) hidle

/-- A request that is told that something is missing leaves all caches as they are. -/
theorem mounts_serve_of_missing (hs : (s.mounts.map Mount.path).Nodup) {response : Response}
    (h : (s.serve clock r).1 = .ok response) (hmissing : response.Missing) :
    (s.serve clock r).2.mounts = s.mounts := by
  unfold Response.Missing at hmissing
  cases haccepted : s.accepted? r with
  | none =>
      by_cases hempties : s.Empties r
      · obtain ⟨response', hresponse, hstatus⟩ := response_serve_of_empties hempties clock
        obtain rfl := Except.ok.inj (hresponse.symm.trans h)
        omega
      · rw [serve_of_ignored hs haccepted hempties]
  | some a =>
      obtain ⟨m, payload⟩ := a
      rcases caches_dispatch_cases s.settings.production s.now m.application m.caches
          (RequestType.ofPayload payload) payload with
        hcaches | ⟨responder, session, htype, happ, hsession, -⟩ | ⟨session, htype, -, -, -⟩
      · exact mounts_serve_of_caches haccepted clock hs hcaches
      · have hending : ∀ a, (s.dispatched m payload).ending ≠ .refused (.api a) := by
          intro a
          rw [dispatched, htype]
          exact ending_ne_api_of_asked happ hsession a
        rw [response_serve haccepted] at h
        have hstatus := status_replyTo_conclude hending h
        omega
      · rw [response_serve_report haccepted htype] at h
        obtain rfl := Except.ok.inj h
        rcases hmissing with h400 | h404
        · cases h400
        · cases h404

/-! ## Runs -/

/-- **A step changes the caches in an orderly way.** -/
structure Orderly (clock : Nat → String) (s : State) (step : Step) : Prop where
  /-- What happens to an entry has its reason. -/
  changes : ∀ path kind key, s.Change clock path kind key step
  /-- A request for something else leaves all caches as they are. -/
  idle : ∀ r, step = .request r → ¬ s.Touches r → (s.perform clock step).mounts = s.mounts
  /-- So does one that is told that something is missing. -/
  missing : ∀ r response, step = .request r → (s.serve clock r).1 = .ok response →
    response.Missing → (s.perform clock step).mounts = s.mounts
  /-- One that is not accepted leaves everything as it is, unless it empties the caches. -/
  ignored : ∀ r, step = .request r → s.accepted? r = none → ¬ s.Empties r →
    s.perform clock step = s
  /-- In production nothing but posts has an effect. -/
  hidden : ∀ r, step = .request r → r.method ≠ "POST" → s.settings.production = true →
    s.perform clock step = s

/-- Every step is orderly, by the cases of what a request comes to. -/
theorem orderly_perform (hs : (s.mounts.map Mount.path).Nodup) (clock : Nat → String)
    (step : Step) :
    s.Orderly clock step := by
  refine ⟨fun path kind key => change_perform hs clock path kind key step, ?_, ?_, ?_, ?_⟩
  · rintro r rfl hidle
    exact mounts_serve_of_idle hs hidle clock
  · rintro r response rfl h hmissing
    exact mounts_serve_of_missing hs h hmissing
  · rintro r rfl haccepted hempties
    exact serve_of_ignored hs haccepted hempties clock
  · rintro r rfl hpost hproduction
    have haccepted : s.accepted? r = none := by
      rw [Option.eq_none_iff_forall_ne_some]
      intro a ha
      exact hpost (accepted?_eq_some_iff.1 ha).2.2.1
    have hempties : ¬ s.Empties r := by
      intro hempties
      rw [hempties.1] at hproduction
      cases hproduction
    exact serve_of_ignored hs haccepted hempties clock

/-- **A run changes the caches in an orderly way.** -/
structure OrderlyRun (clock : Nat → String) (s : State) (steps : List Step) : Prop where
  /-- Every step does. -/
  each : s.Throughout clock (Orderly clock) steps
  /-- As long as there is an entry, it is as old as it was and keeps its functions. -/
  lasting : ∀ path kind key e, s.lookup? path kind key = some e →
    s.Throughout clock
      (fun s step => ((s.perform clock step).lookup? path kind key).isSome = true) steps →
      ∃ e', (s.after clock steps).lookup? path kind key = some e' ∧ e.Extends e'

/-- What every step does is done throughout every run, in a service whose applications have
different paths. -/
theorem throughout_of_nodup {P : State → Step → Prop}
    (hP : ∀ s step, (s.mounts.map Mount.path).Nodup → P s step)
    (hs : (s.mounts.map Mount.path).Nodup) (clock : Nat → String) (steps : List Step) :
    s.Throughout clock P steps := by
  induction steps generalizing s with
  | nil => trivial
  | cons step rest ih => exact ⟨hP s step hs, ih (paths_nodup_perform hs clock step)⟩

/-- An entry that is there after every step may have more functions in the end, and is the same
otherwise. -/
theorem extends_after_of_stays (hs : (s.mounts.map Mount.path).Nodup) {steps : List Step}
    (he : s.lookup? path kind key = some e)
    (hstays : s.Throughout clock
      (fun s step => ((s.perform clock step).lookup? path kind key).isSome = true) steps) :
    ∃ e', (s.after clock steps).lookup? path kind key = some e' ∧ e.Extends e' := by
  induction steps generalizing s e with
  | nil => exact ⟨e, he, .refl e⟩
  | cons step rest ih =>
      obtain ⟨hstep, hrest⟩ := hstays
      rcases (change_perform hs clock path kind key step).extends he with
        ⟨e₁, he₁, hextends₁⟩ | ⟨hgone, -⟩
      · obtain ⟨e₂, he₂, hextends₂⟩ := ih (paths_nodup_perform hs clock step) he₁ hrest
        exact ⟨e₂, he₂, hextends₁.trans hextends₂⟩
      · rw [hgone] at hstep
        cases hstep

/-- **The caches change in an orderly way** in every run of a service whose applications have
different paths, as those of every service that starts have (`paths_nodup_of_build`). -/
theorem orderly_run (hs : (s.mounts.map Mount.path).Nodup) (clock : Nat → String)
    (steps : List Step) :
    s.OrderlyRun clock steps := by
  constructor
  · exact throughout_of_nodup (fun s step hs => orderly_perform hs clock step) hs clock steps
  · intro path kind key e he hstays
    exact extends_after_of_stays hs he hstays

/-- The calls `a` and `b` of the weather application begin, `a` ends, and the caches are emptied. -/
theorem orderly_run_weather :
    ∃ s, build {} {} [Weather.application {}] = .ok s ∧ (s.mounts.map Mount.path).Nodup ∧
      s.OrderlyRun (fun time => toString time)
        [.request (weatherPost "assistant-request" "a"),
          .request (weatherPost "assistant-request" "b"),
          .wait 1000, .request (weatherPost "end-of-call-report" "a"), .sweep 2000,
          .request ⟨"GET", "/clearCaches", [], []⟩] := by
  have hs : (weatherService.mounts.map Mount.path).Nodup := paths_nodup_of_build build_weather
  exact ⟨weatherService, build_weather, hs, orderly_run hs _ _⟩

/-- A request for nothing but the head of the page empties the caches as well. -/
theorem head_empties_caches :
    ∃ (s : State) (r : Request) (key : CacheKey),
      s = weatherService.after (fun time => toString time)
        [.request (weatherPost "assistant-request" "a")] ∧
      r = ⟨"HEAD", BuiltIn.clearCaches.path, [], []⟩ ∧ s.accepted? r = none ∧
      (s.lookup? "/vapi" .toolCall key).isSome = true ∧
      (s.serve (fun time => toString time) r).2.lookup? "/vapi" .toolCall key = none := by
  refine ⟨_, _, ⟨"a", defaultAssistant⟩, rfl, rfl, ?_, ?_, ?_⟩
  · decide +kernel
  · decide +kernel
  · decide +kernel

end State

end Switchboard

import Switchboard.Proofs.Config.Layering
import Switchboard.Proofs.Service.Responses

/-!
# What the secret of an application guards

An application with a secret is behind a check that looks at one header and at nothing else of a
request.

* `Request.Knows`: the request shows that its sender knows a secret.
* `State.Reaches`: a request is handed to an application.
* `State.Guards`: only requests that know the secret of an application are handed to it; all others
  are answered alike and leave no trace. `guards_of_secret` proves it of every application with a
  secret, in every state.
* `Config.Secured`: every application of a configuration has its own secret, or one that stands in
  for it. `secured_of_load` proves it of what has been loaded with a secret in the environment.
* **`secret_guards`**: the check is in force wherever there is a secret, and for all applications of
  a loaded configuration if the environment has one.
-/

namespace Switchboard

/-! ## Knowing a secret -/

/-- **The request knows a secret**: its first secret header is visible text, and is the secret. -/
structure Request.Knows (r : Request) (secret : String) : Prop where
  header_eq : r.header? secretHeader = some (Text.encodeUtf8 secret)
  visible : (Text.encodeUtf8 secret).all isVisible = true

/-- Whoever has a secret asks for it. -/
theorem passesSecret_iff {secret : String} (hsecret : secret ≠ "") (r : Request) :
    passesSecret secret r = true ↔ r.Knows secret := by
  have hnonempty : secret.isEmpty = false := by simpa using hsecret
  unfold passesSecret
  rw [hnonempty, Bool.false_or, Option.any_eq_true]
  constructor
  · rintro ⟨value, hvalue, hmatches⟩
    unfold matchesSecret at hmatches
    rw [Bool.and_eq_true, decide_eq_true_eq] at hmatches
    obtain ⟨hvisible, rfl⟩ := hmatches
    exact ⟨hvalue, hvisible⟩
  · rintro ⟨hheader, hvisible⟩
    refine ⟨_, hheader, ?_⟩
    unfold matchesSecret
    rw [hvisible, decide_eq_true rfl, Bool.and_true]

namespace State

variable {s : State} {r : Request} {m : Mount} {clock : Nat → String}

/-! ## The check -/

/-- **The request reaches an application**: it leads there and its body is handed over. -/
def Reaches (clock : Nat → String) (s : State) (r : Request) (m : Mount) : Prop :=
  s.webhook? r = some m ∧ s.serve clock r = s.serveWebhook m r.body

/-- A post to an application is checked first, then measured, then handed over. -/
theorem serve_post (h : s.webhook? r = some m) (hpost : r.method = "POST")
    (clock : Nat → String) :
    s.serve clock r =
      if passesSecret m.application.config.secret r = true then
        if greatestBody < r.body.length then (.ok tooLongRefusal, s) else s.serveWebhook m r.body
      else (.ok secretRefusal, s) := by
  unfold webhook? at h
  split at h
  · next hroute =>
    cases h
    obtain ⟨path, hpath, hroute⟩ := Option.bind_eq_some_iff.1 hroute
    unfold serve
    rw [hpath, Option.map_some, hroute]
    dsimp only
    rw [hpost]
    cases passesSecret m.application.config.secret r <;> rfl
  · cases h

/-- An application never says that a secret is wrong. -/
theorem serveWebhook_ne_refusal (m : Mount) (body : List UInt8) :
    (s.serveWebhook m body).1 ≠ .ok secretRefusal := by
  intro h
  have hstatus : secretRefusal.status = 200 ∨ secretRefusal.status = 400 ∨
      secretRefusal.status = 404 ∨ secretRefusal.status = 500 := status_handle h
  exact absurd hstatus (by decide)

/-- **The secret of an application guards it** against all posts that do not know it. -/
structure Guards (clock : Nat → String) (s : State) (m : Mount) : Prop where
  /-- What reaches the application knows the secret: its first header of that name is there and is
  the secret. -/
  only : ∀ r, r.method = "POST" → s.Reaches clock r m →
    r.header? secretHeader = some (Text.encodeUtf8 m.application.config.secret)
  /-- What knows the secret reaches the application, if it is not too long. -/
  admitted : ∀ r, r.method = "POST" → s.webhook? r = some m →
    r.Knows m.application.config.secret → r.body.length ≤ greatestBody → s.Reaches clock r m
  /-- Everything else is refused, whatever its body, and leaves the service as it is. -/
  refused : ∀ r body, r.method = "POST" → s.webhook? r = some m →
    ¬ r.Knows m.application.config.secret →
      s.serve clock { r with body } = (.ok (.text 403 "Invalid secret"), s)
  /-- Who is refused cannot tell one refusal from another. -/
  alike : ∀ r r', r.method = "POST" → r'.method = "POST" → s.webhook? r = some m →
    s.webhook? r' = some m → ¬ r.Knows m.application.config.secret →
    ¬ r'.Knows m.application.config.secret →
      s.serve clock r = s.serve clock r'

/-- A post that does not know the secret is refused, and leaves the service as it is. -/
theorem serve_of_stranger (hsecret : m.application.config.secret ≠ "") (hpost : r.method = "POST")
    (h : s.webhook? r = some m) (hstranger : ¬ r.Knows m.application.config.secret)
    (clock : Nat → String) : s.serve clock r = (.ok secretRefusal, s) := by
  rw [serve_post h hpost, if_neg]
  rw [passesSecret_iff hsecret]
  exact hstranger

/-- A secret that is not empty guards its application. -/
theorem guards_of_secret (hsecret : m.application.config.secret ≠ "") (clock : Nat → String)
    (s : State) :
    s.Guards clock m := by
  have hrefused : ∀ r, r.method = "POST" → s.webhook? r = some m →
      ¬ r.Knows m.application.config.secret → s.serve clock r = (.ok secretRefusal, s) :=
    fun r hpost h hstranger => serve_of_stranger hsecret hpost h hstranger clock
  refine ⟨?_, ?_, ?_, ?_⟩
  · rintro r hpost ⟨h, hserve⟩
    by_contra hheader
    have hstranger : ¬ r.Knows m.application.config.secret :=
      fun hknows => hheader hknows.header_eq
    rw [hrefused r hpost h hstranger] at hserve
    exact serveWebhook_ne_refusal m r.body (congrArg Prod.fst hserve).symm
  · intro r hpost h hknows hlength
    refine ⟨h, ?_⟩
    rw [serve_post h hpost, if_pos ((passesSecret_iff hsecret r).2 hknows), if_neg (by omega)]
  · intro r body hpost h hstranger
    -- neither the way to the application nor the header depends on the body
    have h' : s.webhook? { r with body } = some m := h
    exact hrefused { r with body } hpost h' fun hknows =>
      hstranger ⟨hknows.header_eq, hknows.visible⟩
  · intro r r' hpost hpost' h h' hstranger hstranger'
    rw [hrefused r hpost h hstranger, hrefused r' hpost' h' hstranger']

end State

/-! ## Secrets of a loaded configuration -/

/-- The variable that holds the secret of applications without one. -/
def secretVariable : String := "VOXHOOK_SECRET"

/-- **Every application of a configuration has a secret**: its own in the configuration `given`, or
else `secret`; all other things are as given. -/
structure Config.Secured (given : Config) (secret : String) (c : Config) : Prop where
  applications_eq : c.applications = given.applications.map fun a =>
    if a.secret = "" then { a with secret } else a
  secret_ne : ∀ a ∈ c.applications, a.secret ≠ ""

/-- A secret in the environment is that of every application without one. -/
theorem ApplicationConfig.fillSecret_of_set {env : Environment} {secret : String}
    (h : env secretVariable = some secret) (a : ApplicationConfig) :
    a.fillSecret env = if a.secret = "" then { a with secret } else a := by
  rw [fillSecret_eq, show env "VOXHOOK_SECRET" = some secret from h, Option.getD_some]
  by_cases hempty : a.secret = ""
  · rw [if_pos hempty, if_pos hempty]
  · rw [if_neg hempty, if_neg hempty]

/-- What has been loaded is what the file gives, overridden by the environment. -/
theorem Config.load_eq_ok {file : Option FileContent} {env : Environment} {c : Config}
    (h : Config.load file env = .ok c) :
    ∃ given, (file.map Config.ofFile).getD (.ok {}) = .ok given ∧ c = given.override env := by
  cases loads_iff.1 h with
  | @loaded text given htext hgives _ =>
      exact ⟨given.settled, ofFile_of_gives htext hgives, (override_settled env given).symm⟩

/-- A configuration that is loaded with a secret in the environment is secured by it. -/
theorem Config.secured_of_load {file : Option FileContent} {env : Environment} {c : Config}
    {secret : String} (h : Config.load file env = .ok c) (hset : env secretVariable = some secret)
    (hsecret : secret ≠ "") :
    ∃ given, (file.map Config.ofFile).getD (.ok {}) = .ok given ∧ given.Secured secret c := by
  obtain ⟨given, hgiven, rfl⟩ := load_eq_ok h
  have happlications : (given.override env).applications = given.applications.map fun a =>
      if a.secret = "" then { a with secret } else a :=
    List.map_congr_left fun a _ => ApplicationConfig.fillSecret_of_set hset a
  refine ⟨given, hgiven, happlications, fun a ha => ?_⟩
  rw [happlications] at ha
  obtain ⟨a', -, rfl⟩ := List.mem_map.1 ha
  by_cases hempty : a'.secret = ""
  · rw [if_pos hempty]
    exact hsecret
  · rw [if_neg hempty]
    exact hempty

namespace State

/-- A service is built with the applications that it is given. -/
theorem applications_of_build {settings : Settings} {observers : Observers}
    {applications : List Application} {s : State}
    (h : build settings observers applications = .ok s) :
    s.applications = applications := by
  obtain ⟨-, rfl⟩ := build_eq_ok_iff.1 h
  rw [State.applications, List.map_map]
  exact List.map_id applications

/-- **All applications of a service are guarded**, whatever has happened to the service. -/
def AllGuarded (clock : Nat → String) (s : State) : Prop :=
  ∀ steps, ∀ m ∈ (s.after clock steps).mounts, (s.after clock steps).Guards clock m

/-- Where every application has a secret, all of them stay guarded. -/
theorem allGuarded_of_secrets {s : State}
    (hsecrets : ∀ a ∈ s.applications, a.config.secret ≠ "") (clock : Nat → String) :
    s.AllGuarded clock := by
  intro steps m hm
  refine guards_of_secret (hsecrets m.application ?_) clock _
  rw [← applications_after clock s steps]
  exact List.mem_map_of_mem hm

/-- **The secret guards what is behind it**: in every state of a service, of every application that
has a secret; and where a configuration has been loaded with a secret in the environment, of all
applications. -/
theorem secret_guards (clock : Nat → String) :
    (∀ (s : State) (m : Mount), m.application.config.secret ≠ "" → s.Guards clock m) ∧
    ∀ (file : Option FileContent) (env : Environment) (c : Config) (secret : String),
      Config.load file env = .ok c → env secretVariable = some secret → secret ≠ "" →
        (∃ given, (file.map Config.ofFile).getD (.ok {}) = .ok given ∧
          given.Secured secret c) ∧
        ∀ (settings : Settings) (observers : Observers) (applications : List Application)
            (s : State),
          applications.map Application.config = c.applications →
            build settings observers applications = .ok s → s.AllGuarded clock := by
  refine ⟨fun s m hsecret => guards_of_secret hsecret clock s, ?_⟩
  intro file env c secret hload hset hsecret
  have hsecured := Config.secured_of_load hload hset hsecret
  refine ⟨hsecured, fun settings observers applications s hconfigs hbuild => ?_⟩
  obtain ⟨given, -, hgiven⟩ := hsecured
  apply allGuarded_of_secrets
  intro a ha
  rw [applications_of_build hbuild] at ha
  apply hgiven.secret_ne
  rw [← hconfigs]
  exact List.mem_map_of_mem ha

/-- An environment with nothing but a secret. -/
def sesame : Environment := fun name => if name = secretVariable then some "open sesame" else none

/-- A service of the configuration that is loaded in it. -/
def sesameService : State where
  settings := {}
  observers := {}
  mounts := [{ application := Weather.application { secret := "open sesame" } }]

/-- The weather application has got its secret from the environment, and a post without it is
refused. -/
theorem secret_guards_weather :
    ∃ (c : Config) (m : Mount),
      Config.load none sesame = .ok c ∧ sesame secretVariable = some "open sesame" ∧
      build {} {} (c.applications.map Weather.application) = .ok sesameService ∧
      sesameService.AllGuarded (fun time => toString time) ∧
      sesameService.webhook? (weatherPost "assistant-request" "a") = some m ∧
      m.application.config.secret ≠ "" ∧
      sesameService.serve (fun time => toString time) (weatherPost "assistant-request" "a") =
        (.ok (.text 403 "Invalid secret"), sesameService) := by
  have hload : Config.load none sesame = .ok (({} : Config).override sesame) := rfl
  have hset : sesame secretVariable = some "open sesame" := rfl
  have hsecret : "open sesame" ≠ "" := by decide
  have hbuild : build {} {} ((({} : Config).override sesame).applications.map Weather.application) =
      .ok sesameService := rfl
  obtain ⟨hone, hall⟩ := secret_guards fun time => toString time
  have hguarded : sesameService.AllGuarded (fun time => toString time) :=
    (hall none sesame _ "open sesame" hload hset hsecret).2 _ _ _ _ rfl hbuild
  have hroute : (sesameService.webhook? (weatherPost "assistant-request" "a")).isSome = true := by
    decide +kernel
  obtain ⟨m, hm⟩ := Option.isSome_iff_exists.1 hroute
  obtain rfl : m = { application := Weather.application { secret := "open sesame" } } :=
    List.mem_singleton.1 (mem_of_webhook? hm)
  have hstranger : ¬ (weatherPost "assistant-request" "a").Knows "open sesame" := by
    rintro ⟨hheader, -⟩
    cases hheader
  have hrefused := (hone sesameService _ hsecret).refused (weatherPost "assistant-request" "a")
    (weatherPost "assistant-request" "a").body rfl hm hstranger
  exact ⟨_, _, hload, hset, hbuild, hguarded, hm, hsecret, hrefused⟩

end State

end Switchboard

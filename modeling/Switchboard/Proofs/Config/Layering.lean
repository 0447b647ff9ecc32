import Switchboard.Config.Load
import Switchboard.Proofs.Config.Paths
import Switchboard.Proofs.Text.Utf8

/-!
# The layers of a configuration

A setting has up to three sources: the environment, the file, and the value that it has when nothing
is said. The file is read in sections that fill in ordinary values on the way, and the environment
overrides what has come of it. This file says of each setting which of its sources it comes from,
and of a loading which of its ways it ends.

* `Given`, `Toml.Gives`: what a file says, setting by setting, each of which it may leave out.
* `Given.under`: what the settings are in an environment, each from the first of its sources.
* `Config.ofToml?_eq_some_iff`, `override_settled`: what a document comes to, and what the
  environment makes of that.
* `Config.ofToml?_of_silent`: the values of fields that are left out agree with those of sections
  that are left out.
* `Loads`, `loads_iff`: the four ways in which loading ends.
* **`configuration_layered`**: loading fails for what cannot be read, for what is no configuration
  and for the first path at fault, in this order, and else every setting has the value of its first
  source.
-/

namespace Switchboard

/-! ## What a file says -/

/-- What a file says about an application. -/
structure GivenApplication where
  /-- The path that the platform posts to. -/
  serverPath : Option String := none
  /-- What the secret header has to say. -/
  secret : Option String := none
  /-- Whether the report of the end of a call takes the call's entries out of the caches. -/
  removeCacheOnEndOfCallReport : Option Bool := none

/-- **What a file says**: the value of each setting, or nothing about it. -/
structure Given where
  /-- The address to listen on. -/
  host : Option Address := none
  /-- The port to listen on. -/
  port : Option UInt16 := none
  /-- Whether diagnostic routes and the details of errors are hidden. -/
  production : Option Bool := none
  /-- Minutes between two sweeps. -/
  purgeIntervalMinutes : Option UInt64 := none
  /-- The minutes after which a sweep takes an entry out. -/
  maxAgeMinutes : Option UInt64 := none
  /-- The filter of log lines. -/
  level : Option String := none
  /-- Whether log lines are written as JSON. -/
  json : Option Bool := none
  /-- The endpoints. -/
  applications : Option (List GivenApplication) := none

namespace Toml

/-- A value says what `view?` sees in it, and one that is left out says nothing. -/
def Says {α : Type} (view? : Toml → Option α) : Option Toml → Option α → Prop :=
  Option.Rel fun v a => view? v = some a

/-- The fields of a section. A section that is left out leaves out its fields. -/
def section? (document : Toml) (name : String) : Option Fields :=
  match document.get? name with
  | none => some fun _ _ => none
  | some v => Fields.ofToml? v

/-- What an element of the list of applications says. -/
def GivesApplication (v : Toml) (given : GivenApplication) : Prop :=
  ∃ fields, Fields.ofToml? v = some fields ∧
    Says text? (fields "server_path" 0) given.serverPath ∧
    Says text? (fields "secret" 1) given.secret ∧
    Says bool? (fields "remove_cache_on_end_of_call_report" 2) given.removeCacheOnEndOfCallReport

/-- **A document has the shape of a configuration** that says this: its sections have fields, and
each field that is there is of its type. -/
structure Gives (document : Toml) (given : Given) : Prop where
  server : ∃ fields, document.section? "server" = some fields ∧
    Says address? (fields "host" 0) given.host ∧
    Says uint16? (fields "port" 1) given.port ∧
    Says bool? (fields "production" 2) given.production
  cache : ∃ fields, document.section? "cache" = some fields ∧
    Says uint64? (fields "purge_interval_minutes" 0) given.purgeIntervalMinutes ∧
    Says uint64? (fields "max_age_minutes" 1) given.maxAgeMinutes
  logging : ∃ fields, document.section? "logging" = some fields ∧
    Says text? (fields "level" 0) given.level ∧
    Says bool? (fields "json" 1) given.json
  applications : Option.Rel
    (fun v givens => ∃ elements, v.list? = some elements ∧
      List.Forall₂ GivesApplication elements givens)
    (document.get? "applications") given.applications

end Toml

/-- The text of a configuration file, none if it cannot be had. Where there is no file the text is
empty. -/
inductive HasText : Option FileContent → String → Prop where
  | unnamed : HasText none ""
  | missing : HasText (some .missing) ""
  | bytes (text : String) : HasText (some (.bytes (Text.encodeUtf8 text))) text

/-- A configuration file that is there and has no text, for a reason. -/
inductive CannotBeRead : Option FileContent → String → Prop where
  | unreadable (reason : String) : CannotBeRead (some (.unreadable reason)) reason
  | notUtf8 {content : List UInt8} (h : ∀ text, content ≠ Text.encodeUtf8 text) :
      CannotBeRead (some (.bytes content)) notUtf8Reason

/-- **A text is a configuration** that says this. -/
def Gives (text : String) (given : Given) : Prop :=
  ∃ document, Toml.ofText? text = some document ∧ document.Gives given

/-! ## What the settings are -/

/-- **The value of a setting**: that of the environment, else that of the file, else the ordinary
one. -/
def layered {α : Type} (environment file : Option α) (ordinary : α) : α :=
  (environment.or file).getD ordinary

/-- **What an application is** in an environment. Its secret is the file's unless that is empty. -/
def GivenApplication.under (env : Environment) (given : GivenApplication) : ApplicationConfig :=
  let ordinary : ApplicationConfig := {}
  { serverPath := given.serverPath.getD ordinary.serverPath
    secret := ((given.secret.filter (· ≠ "")).or (env "VOXHOOK_SECRET")).getD ""
    removeCacheOnEndOfCallReport :=
      given.removeCacheOnEndOfCallReport.getD ordinary.removeCacheOnEndOfCallReport }

/-- **What the settings are** in an environment. A variable that is not a numeral or an address
where there should be one says nothing. Where a file has no list of applications there is one, of
which nothing is said. -/
def Given.under (env : Environment) (given : Given) : Config :=
  let ordinary : Config := {}
  { server :=
      { host := layered ((env "VOXHOOK_HOST").bind Address.ofText?) given.host ordinary.server.host
        port := layered ((env "VOXHOOK_PORT").bind Text.readUInt16?) given.port ordinary.server.port
        production := layered ((env "VOXHOOK_PRODUCTION").map isTruthy) given.production
          ordinary.server.production }
    cache :=
      { purgeIntervalMinutes :=
          layered ((env "VOXHOOK_PURGE_INTERVAL_MINUTES").bind Text.readUInt64?)
            given.purgeIntervalMinutes
            ordinary.cache.purgeIntervalMinutes
        maxAgeMinutes :=
          layered ((env "VOXHOOK_MAX_AGE_MINUTES").bind Text.readUInt64?) given.maxAgeMinutes
            ordinary.cache.maxAgeMinutes }
    logging :=
      { level := layered (env "VOXHOOK_LOG_LEVEL") given.level ordinary.logging.level
        json := layered ((env "VOXHOOK_LOG_JSON").map isTruthy) given.json ordinary.logging.json }
    applications := (given.applications.getD [{}]).map (GivenApplication.under env) }

/-- The paths of the applications. -/
def Given.paths (given : Given) : List String :=
  (given.applications.getD [{}]).map fun a => a.serverPath.getD ({} : ApplicationConfig).serverPath

/-- What an application is that only a file says something about. -/
def GivenApplication.settled (given : GivenApplication) : ApplicationConfig :=
  let ordinary : ApplicationConfig := {}
  { serverPath := given.serverPath.getD ordinary.serverPath
    secret := given.secret.getD ordinary.secret
    removeCacheOnEndOfCallReport :=
      given.removeCacheOnEndOfCallReport.getD ordinary.removeCacheOnEndOfCallReport }

/-- What the settings are that only a file says something about. -/
def Given.settled (given : Given) : Config :=
  let ordinary : Config := {}
  { server :=
      { host := given.host.getD ordinary.server.host
        port := given.port.getD ordinary.server.port
        production := given.production.getD ordinary.server.production }
    cache :=
      { purgeIntervalMinutes := given.purgeIntervalMinutes.getD ordinary.cache.purgeIntervalMinutes
        maxAgeMinutes := given.maxAgeMinutes.getD ordinary.cache.maxAgeMinutes }
    logging :=
      { level := given.level.getD ordinary.logging.level
        json := given.json.getD ordinary.logging.json }
    applications := (given.applications.getD [{}]).map GivenApplication.settled }

/-! ## What a document comes to -/

/-- What a field comes to is what it says, or the value that stands for one that is left out. -/
theorem givenOr_eq_some_iff {α : Type} {view? : Toml → Option α} {absent a : α}
    {v : Option Toml} :
    givenOr view? absent v = some a ↔
      ∃ given, Toml.Says view? v given ∧ a = given.getD absent := by
  cases v with
  | none =>
      constructor
      · rintro ⟨⟩
        exact ⟨none, .none, rfl⟩
      · rintro ⟨_, ⟨⟩, rfl⟩
        rfl
  | some v =>
      constructor
      · exact fun h => ⟨some a, .some h, rfl⟩
      · rintro ⟨_, ⟨h⟩, rfl⟩
        exact h

/-- A field that is left out says nothing. -/
theorem says_none_iff {α : Type} {view? : Toml → Option α} {given : Option α} :
    Toml.Says view? none given ↔ given = none := by
  constructor
  · rintro ⟨⟩
    rfl
  · rintro rfl
    exact .none

/-- What a section comes to that may be left out, if leaving it out is leaving out its fields. -/
theorem givenOr_section_eq_some_iff {α : Type} {view? : Toml → Option α} {absent a : α}
    {Settles : Fields → Prop}
    (hview : ∀ v, view? v = some a ↔
      ∃ fields, Fields.ofToml? v = some fields ∧ Settles fields)
    (habsent : Settles (fun _ _ => none) ↔ a = absent) (document : Toml) (name : String) :
    givenOr view? absent (document.get? name) = some a ↔
      ∃ fields, document.section? name = some fields ∧ Settles fields := by
  unfold Toml.section?
  cases document.get? name with
  | none => simp [givenOr, habsent, eq_comm]
  | some v => exact hview v

/-- What the section on serving comes to, field by field. -/
theorem server_eq_some_iff {document : Toml} {c : ServerConfig} :
    givenOr ServerConfig.ofToml? {} (document.get? "server") = some c ↔
      ∃ fields, document.section? "server" = some fields ∧ ∃ host port production,
        (Toml.Says Toml.address? (fields "host" 0) host ∧
          Toml.Says Toml.uint16? (fields "port" 1) port ∧
          Toml.Says Toml.bool? (fields "production" 2) production) ∧
        c = { host := host.getD ServerConfig.hostIfAbsent,
              port := port.getD ServerConfig.portIfAbsent,
              production := production.getD default } := by
  refine givenOr_section_eq_some_iff (fun v => ?_) ?_ _ _
  · simp only [ServerConfig.ofToml?, Option.bind_eq_some_iff, givenOr_eq_some_iff, Option.pure_def,
      Option.bind_eq_bind, Option.some.injEq]
    grind
  · simp [says_none_iff]

/-- What the section on purging comes to, field by field. -/
theorem cache_eq_some_iff {document : Toml} {c : CacheConfig} :
    givenOr CacheConfig.ofToml? {} (document.get? "cache") = some c ↔
      ∃ fields, document.section? "cache" = some fields ∧ ∃ purgeInterval maxAge,
        (Toml.Says Toml.uint64? (fields "purge_interval_minutes" 0) purgeInterval ∧
          Toml.Says Toml.uint64? (fields "max_age_minutes" 1) maxAge) ∧
        c = { purgeIntervalMinutes := purgeInterval.getD CacheConfig.purgeIntervalIfAbsent,
              maxAgeMinutes := maxAge.getD CacheConfig.maxAgeIfAbsent } := by
  refine givenOr_section_eq_some_iff (fun v => ?_) ?_ _ _
  · simp only [CacheConfig.ofToml?, Option.bind_eq_some_iff, givenOr_eq_some_iff, Option.pure_def,
      Option.bind_eq_bind, Option.some.injEq]
    grind
  · simp [says_none_iff]

/-- What the section on logging comes to, field by field. -/
theorem logging_eq_some_iff {document : Toml} {c : LoggingConfig} :
    givenOr LoggingConfig.ofToml? {} (document.get? "logging") = some c ↔
      ∃ fields, document.section? "logging" = some fields ∧ ∃ level json,
        (Toml.Says Toml.text? (fields "level" 0) level ∧
          Toml.Says Toml.bool? (fields "json" 1) json) ∧
        c = { level := level.getD LoggingConfig.levelIfAbsent, json := json.getD default } := by
  refine givenOr_section_eq_some_iff (fun v => ?_) ?_ _ _
  · simp only [LoggingConfig.ofToml?, Option.bind_eq_some_iff, givenOr_eq_some_iff,
      Option.pure_def, Option.bind_eq_bind, Option.some.injEq]
    grind
  · simp [says_none_iff]

/-- What an element of the list of applications comes to is what it says, settled. -/
theorem application_eq_some_iff {v : Toml} {a : ApplicationConfig} :
    ApplicationConfig.ofToml? v = some a ↔
      ∃ given, Toml.GivesApplication v given ∧ a = given.settled := by
  simp only [ApplicationConfig.ofToml?, Toml.GivesApplication, Option.bind_eq_some_iff,
    givenOr_eq_some_iff, Option.pure_def, Option.bind_eq_bind, Option.some.injEq]
  constructor
  · rintro ⟨fields, hfields, _, ⟨path, hpath, rfl⟩, _, ⟨secret, hsecret, rfl⟩,
      _, ⟨removal, hremoval, rfl⟩, rfl⟩
    exact ⟨⟨path, secret, removal⟩, ⟨fields, hfields, hpath, hsecret, hremoval⟩, rfl⟩
  · rintro ⟨given, ⟨fields, hfields, hpath, hsecret, hremoval⟩, rfl⟩
    exact ⟨fields, hfields, _, ⟨_, hpath, rfl⟩, _, ⟨_, hsecret, rfl⟩,
      _, ⟨_, hremoval, rfl⟩, rfl⟩

/-- The elements of the list of applications come to applications one by one. -/
theorem applications_eq_some_iff {elements : List Toml} {as : List ApplicationConfig} :
    elements.mapM ApplicationConfig.ofToml? = some as ↔
      ∃ givens, List.Forall₂ Toml.GivesApplication elements givens ∧
        as = givens.map GivenApplication.settled := by
  induction elements generalizing as with
  | nil => simp [eq_comm]
  | cons v rest ih =>
      simp only [List.mapM_cons, Option.bind_eq_bind, Option.bind_eq_some_iff,
        application_eq_some_iff, ih, Option.pure_def, Option.some.injEq,
        List.forall₂_cons_left_iff]
      constructor
      · rintro ⟨_, ⟨given, hgiven, rfl⟩, _, ⟨givens, hgivens, rfl⟩, rfl⟩
        exact ⟨_, ⟨given, givens, hgiven, hgivens, rfl⟩, rfl⟩
      · rintro ⟨_, ⟨given, givens, hgiven, hgivens, rfl⟩, rfl⟩
        exact ⟨_, ⟨given, hgiven, rfl⟩, _, ⟨givens, hgivens, rfl⟩, rfl⟩

/-- What the list of applications comes to, which may be left out. -/
theorem applicationList_eq_some_iff {v : Option Toml} {as : List ApplicationConfig} :
    givenOr applicationsOfToml? Config.applicationsIfAbsent v = some as ↔
      ∃ given, Option.Rel
        (fun v givens => ∃ elements, v.list? = some elements ∧
          List.Forall₂ Toml.GivesApplication elements givens)
        v given ∧ as = (given.getD [{}]).map GivenApplication.settled := by
  cases v with
  | none =>
      constructor
      · rintro ⟨⟩
        exact ⟨none, .none, rfl⟩
      · rintro ⟨_, ⟨⟩, rfl⟩
        rfl
  | some v =>
      simp only [givenOr, applicationsOfToml?, Option.bind_eq_bind, Option.bind_eq_some_iff,
        applications_eq_some_iff]
      constructor
      · rintro ⟨elements, helements, givens, hgivens, rfl⟩
        exact ⟨some givens, .some ⟨elements, helements, hgivens⟩, rfl⟩
      · rintro ⟨_, ⟨elements, helements, hgivens⟩, rfl⟩
        exact ⟨elements, helements, _, hgivens, rfl⟩

/-- **What a document comes to** is what it gives, and the ordinary values of what it leaves out. -/
theorem Config.ofToml?_eq_some_iff {document : Toml} {c : Config} :
    Config.ofToml? document = some c ↔ ∃ given, document.Gives given ∧ c = given.settled := by
  simp only [Config.ofToml?, Option.bind_eq_some_iff, Option.pure_def, Option.bind_eq_bind,
    Option.some.injEq, server_eq_some_iff, cache_eq_some_iff, logging_eq_some_iff,
    applicationList_eq_some_iff]
  constructor
  · rintro ⟨_, ⟨server, hserver, host, port, production, hserves, rfl⟩,
      _, ⟨cache, hcache, purgeInterval, maxAge, hpurges, rfl⟩,
      _, ⟨logging, hlogging, level, json, hlogs, rfl⟩,
      _, ⟨applications, happlications, rfl⟩, rfl⟩
    exact ⟨⟨host, port, production, purgeInterval, maxAge, level, json, applications⟩,
      ⟨⟨server, hserver, hserves⟩, ⟨cache, hcache, hpurges⟩,
        ⟨logging, hlogging, hlogs⟩, happlications⟩,
      rfl⟩
  · rintro ⟨given,
      ⟨⟨server, hserver, hserves⟩, ⟨cache, hcache, hpurges⟩,
        ⟨logging, hlogging, hlogs⟩, happlications⟩,
      rfl⟩
    exact ⟨_, ⟨server, hserver, _, _, _, hserves, rfl⟩,
      _, ⟨cache, hcache, _, _, hpurges, rfl⟩,
      _, ⟨logging, hlogging, _, _, hlogs, rfl⟩,
      _, ⟨_, happlications, rfl⟩, rfl⟩

/-- The fields are all left out. -/
def Fields.Silent (fields : Fields) : Prop := ∀ name place, fields name place = none

/-- A section that gives no field says nothing about any. -/
theorem Fields.Silent.says {fields : Fields} (h : fields.Silent) {α : Type}
    (view? : Toml → Option α) (name : String) (place : Nat) :
    Toml.Says view? (fields name place) none := by
  rw [h name place]
  exact .none

/-- **Sections without fields are sections left out**: the values of the fields that a section
leaves out make up the section that holds when all of it is left out, and the application of which
nothing is said is the one that there is without a list. -/
theorem Config.ofToml?_of_silent {document : Toml}
    (hsections : ∀ name ∈ ["server", "cache", "logging"],
      ∃ fields, document.section? name = some fields ∧ fields.Silent)
    (happlications : ∀ v, document.get? "applications" = some v → ∃ application fields,
      v.list? = some [application] ∧ Fields.ofToml? application = some fields ∧ fields.Silent) :
    Config.ofToml? document = some {} := by
  obtain ⟨server, hserver, hserves⟩ := hsections "server" (by simp)
  obtain ⟨cache, hcache, hcaches⟩ := hsections "cache" (by simp)
  obtain ⟨logging, hlogging, hlogs⟩ := hsections "logging" (by simp)
  have hgives : ∀ applications, Option.Rel
      (fun v givens => ∃ elements, v.list? = some elements ∧
        List.Forall₂ Toml.GivesApplication elements givens)
      (document.get? "applications") applications → document.Gives { applications } :=
    fun applications h =>
      { server := ⟨server, hserver, hserves.says _ _ _, hserves.says _ _ _, hserves.says _ _ _⟩
        cache := ⟨cache, hcache, hcaches.says _ _ _, hcaches.says _ _ _⟩
        logging := ⟨logging, hlogging, hlogs.says _ _ _, hlogs.says _ _ _⟩
        applications := h }
  cases hlist : document.get? "applications" with
  | none => exact Config.ofToml?_eq_some_iff.2 ⟨_, hgives none (hlist ▸ .none), rfl⟩
  | some v =>
      obtain ⟨application, fields, hone, hfields, hsilent⟩ := happlications v hlist
      have hsaysNothing : Toml.GivesApplication application {} :=
        ⟨fields, hfields, hsilent.says _ _ _, hsilent.says _ _ _, hsilent.says _ _ _⟩
      refine Config.ofToml?_eq_some_iff.2 ⟨_, hgives (some [{}]) ?_, rfl⟩
      rw [hlist]
      exact .some ⟨[application], hone, .cons hsaysNothing .nil⟩

/-- What a text comes to that is held for a file, also where there is none: the empty text leaves
out everything. -/
theorem ofFile_of_hasText {file : Option FileContent} {text : String} (h : HasText file text) :
    (file.map Config.ofFile).getD (.ok {}) =
      ((Toml.ofText? text).bind Config.ofToml?).elim (.error .parse) .ok := by
  cases h with
  | unnamed => rfl
  | missing => rfl
  | bytes text =>
      change Config.ofFile (.bytes (Text.encodeUtf8 text)) = _
      simp only [Config.ofFile, Text.decodeUtf8_eq_ok_iff.2 rfl]
      cases (Toml.ofText? text).bind Config.ofToml? <;> rfl

/-- A configuration file has a text or cannot be read. -/
theorem hasText_or_cannotBeRead (file : Option FileContent) :
    (∃ text, HasText file text) ∨ ∃ reason, CannotBeRead file reason := by
  match file with
  | none => exact .inl ⟨"", .unnamed⟩
  | some .missing => exact .inl ⟨"", .missing⟩
  | some (.unreadable reason) => exact .inr ⟨reason, .unreadable reason⟩
  | some (.bytes content) =>
      by_cases htext : ∃ text, content = Text.encodeUtf8 text
      · obtain ⟨text, rfl⟩ := htext
        exact .inl ⟨text, .bytes text⟩
      · exact .inr ⟨_, .notUtf8 (not_exists.1 htext)⟩

/-! ## What the environment does -/

/-- The environment overrides a setting that may be left out in the order of the layers. -/
theorem override_getD {α : Type} {env : Environment} {name : String} {read? : String → Option α}
    {given : Option α} {ordinary : α} :
    env.override name read? (given.getD ordinary) =
      layered ((env name).bind read?) given ordinary := by
  unfold Environment.override layered
  cases (env name).bind read? <;> cases given <;> rfl

/-- An application without a secret has that of the environment, or still none. -/
theorem fillSecret_eq (env : Environment) (a : ApplicationConfig) :
    a.fillSecret env =
      { a with secret := if a.secret = "" then (env "VOXHOOK_SECRET").getD "" else a.secret } := by
  unfold ApplicationConfig.fillSecret Environment.override
  by_cases hempty : a.secret = ""
  · rw [if_pos (by simp [hempty]), if_pos hempty, Option.bind_fun_some, hempty]
  · rw [if_neg (by simp [hempty]), if_neg hempty]

/-- The environment fills in a secret that the file has not given or has left empty. -/
theorem fillSecret_settled (env : Environment) (given : GivenApplication) :
    given.settled.fillSecret env = given.under env := by
  have hsecret : ∀ secret : Option String,
      (if secret.getD "" = "" then (env "VOXHOOK_SECRET").getD "" else secret.getD "") =
        ((secret.filter (· ≠ "")).or (env "VOXHOOK_SECRET")).getD "" := by
    intro secret
    cases secret with
    | none => simp
    | some s => by_cases hempty : s = "" <;> simp [Option.filter_some, hempty]
  rw [fillSecret_eq, GivenApplication.under, ← hsecret]
  rfl

/-- **The environment overrides what a file comes to**, setting by setting. -/
theorem override_settled (env : Environment) (given : Given) :
    given.settled.override env = given.under env := by
  simp only [Config.override, Given.settled, Given.under, override_getD, List.map_map,
    Option.bind_fun_some, Option.map_eq_bind]
  have happlications : ApplicationConfig.fillSecret env ∘ GivenApplication.settled =
      GivenApplication.under env :=
    funext (fillSecret_settled env)
  rw [happlications]

/-- A variable that has been heard has nothing more to say. -/
theorem override_idem {α : Type} (env : Environment) (name : String)
    (read? : String → Option α) (a : α) :
    env.override name read? (env.override name read? a) = env.override name read? a := by
  unfold Environment.override
  cases (env name).bind read? <;> rfl

/-- A secret is filled in once. -/
theorem fillSecret_idem (env : Environment) (a : ApplicationConfig) :
    (a.fillSecret env).fillSecret env = a.fillSecret env := by
  simp only [fillSecret_eq]
  by_cases hempty : a.secret = "" <;> simp [hempty]

/-- An environment that has been heard has nothing more to say. -/
theorem Config.override_idem (env : Environment) (c : Config) :
    (c.override env).override env = c.override env := by
  have happlications : ApplicationConfig.fillSecret env ∘ ApplicationConfig.fillSecret env =
      ApplicationConfig.fillSecret env := funext (fillSecret_idem env)
  simp only [Config.override, Switchboard.override_idem, List.map_map, happlications]

/-! ## Loading -/

/-- **The ways in which loading ends**: the file cannot be read, or its text is no configuration, or
one of the paths that it gives is at fault, or there are settings. -/
inductive Loads (file : Option FileContent) (env : Environment) :
    Except ConfigError Config → Prop where
  | unreadable {reason : String} (h : CannotBeRead file reason) :
      Loads file env (.error (.fileRead reason))
  | shapeless {text : String} (h : HasText file text) (hnothing : ¬ ∃ given, Gives text given) :
      Loads file env (.error .parse)
  | invalid {text : String} {given : Given} {path : String} {fault : PathFault}
      (h : HasText file text) (hgives : Gives text given)
      (hfault : FirstPathFault given.paths path fault) :
      Loads file env (.error (.invalidApplication path fault))
  | loaded {text : String} {given : Given} (h : HasText file text) (hgives : Gives text given)
      (hservable : Servable given.paths) : Loads file env (.ok (given.under env))

variable {file : Option FileContent} {env : Environment} {text reason : String} {given : Given}

/-- The environment has no part in the paths of the applications. -/
theorem paths_under (env : Environment) (given : Given) :
    (given.under env).applications.map (·.serverPath) = given.paths := by
  rw [Given.under, List.map_map]
  rfl

/-- Loading fails for a file that cannot be read, with the reason. -/
theorem load_of_cannotBeRead (h : CannotBeRead file reason) (env : Environment) :
    Config.load file env = .error (.fileRead reason) := by
  cases h with
  | unreadable reason => rfl
  | @notUtf8 content h =>
      have hflaw : ∃ i, Text.decodeUtf8 content = .error i := by
        cases hcontent : Text.decodeUtf8 content with
        | error i => exact ⟨i, rfl⟩
        | ok text => exact absurd (Text.decodeUtf8_eq_ok_iff.1 hcontent) (h text)
      obtain ⟨i, hi⟩ := hflaw
      have hfile : Config.ofFile (.bytes content) = .error (.fileRead notUtf8Reason) := by
        rw [Config.ofFile, hi]
      rw [Config.load, Option.map_some, Option.getD_some, hfile]

/-- Loading fails for a text that is no configuration. -/
theorem load_of_shapeless (h : HasText file text) (hnothing : ¬ ∃ given, Gives text given)
    (env : Environment) :
    Config.load file env = .error .parse := by
  have hnone : (Toml.ofText? text).bind Config.ofToml? = none := by
    rw [Option.eq_none_iff_forall_ne_some]
    intro c hc
    obtain ⟨document, htext, hdocument⟩ := Option.bind_eq_some_iff.1 hc
    obtain ⟨given, hgiven, -⟩ := Config.ofToml?_eq_some_iff.1 hdocument
    exact hnothing ⟨given, document, htext, hgiven⟩
  rw [Config.load, ofFile_of_hasText h, hnone, Option.elim_none]

/-- **What a file comes to** is what it says, and the ordinary values of what it leaves out. -/
theorem ofFile_of_gives (h : HasText file text) (hgives : Gives text given) :
    (file.map Config.ofFile).getD (.ok {}) = .ok given.settled := by
  obtain ⟨document, htext, hgiven⟩ := hgives
  rw [ofFile_of_hasText h, htext, Option.bind_some,
    Config.ofToml?_eq_some_iff.2 ⟨given, hgiven, rfl⟩, Option.elim_some]

/-- For a text that is a configuration, the paths decide whether it is loaded. -/
theorem load_of_gives (h : HasText file text) (hgives : Gives text given) (env : Environment) :
    Config.load file env = (validateApplications given.paths).map fun _ => given.under env := by
  rw [Config.load, ofFile_of_gives h hgives]
  dsimp only
  rw [override_settled, paths_under]
  cases validateApplications given.paths <;> rfl

/-- A file cannot be read, or its text is no configuration, or it is one. -/
theorem load_cases (file : Option FileContent) :
    (∃ reason, CannotBeRead file reason) ∨
      (∃ text, HasText file text ∧ ¬ ∃ given, Gives text given) ∨
      ∃ text given, HasText file text ∧ Gives text given := by
  obtain ⟨text, htext⟩ | hunreadable := hasText_or_cannotBeRead file
  · by_cases hgives : ∃ given, Gives text given
    · obtain ⟨given, hgives⟩ := hgives
      exact .inr (.inr ⟨text, given, htext, hgives⟩)
    · exact .inr (.inl ⟨text, htext, hgives⟩)
  · exact .inl hunreadable

/-- **Loading ends in one of these ways, and in no other.** -/
theorem loads_iff {result : Except ConfigError Config} :
    Config.load file env = result ↔ Loads file env result := by
  constructor
  · rintro rfl
    obtain ⟨reason, hreason⟩ | ⟨text, htext, hnothing⟩ | ⟨text, given, htext, hgives⟩ :=
      load_cases file
    · rw [load_of_cannotBeRead hreason]
      exact .unreadable hreason
    · rw [load_of_shapeless htext hnothing]
      exact .shapeless htext hnothing
    · rw [load_of_gives htext hgives]
      cases hvalid : validateApplications given.paths with
      | ok _ => exact .loaded htext hgives (validateApplications_eq_ok_iff.1 hvalid)
      | error e =>
          obtain ⟨path, fault, rfl, hfault⟩ := validateApplications_eq_error_iff.1 hvalid
          exact .invalid htext hgives hfault
  · intro h
    cases h with
    | unreadable h => exact load_of_cannotBeRead h env
    | shapeless h hnothing => exact load_of_shapeless h hnothing env
    | invalid h hgives hfault =>
        rw [load_of_gives h hgives, validateApplications_eq_error_iff.2 ⟨_, _, rfl, hfault⟩]
        rfl
    | loaded h hgives hservable =>
        rw [load_of_gives h hgives, validateApplications_eq_ok_iff.2 hservable]
        rfl

/-- A loaded configuration has paths that applications can have. -/
theorem Config.servable_of_load {c : Config} (h : Config.load file env = .ok c) :
    Servable (c.applications.map ApplicationConfig.serverPath) := by
  cases loads_iff.1 h with
  | loaded _ _ hservable =>
      rw [paths_under]
      exact hservable

/-- The applications without their secrets: their paths and whether a report clears their caches, in
order. -/
def Config.endpoints (c : Config) : List (String × Bool) :=
  c.applications.map fun a => (a.serverPath, a.removeCacheOnEndOfCallReport)

/-- The environment has no part in which endpoints there are. -/
theorem endpoints_under (env : Environment) (given : Given) :
    (given.under env).endpoints = given.settled.endpoints := by
  simp only [Config.endpoints, Given.under, Given.settled, List.map_map]
  rfl

/-- In every environment the same endpoints are loaded, or loading fails in the same way. -/
theorem endpoints_load (file : Option FileContent) (env env' : Environment) :
    (Config.load file env).map Config.endpoints = (Config.load file env').map Config.endpoints := by
  obtain ⟨reason, hreason⟩ | ⟨text, htext, hnothing⟩ | ⟨text, given, htext, hgives⟩ :=
    load_cases file
  · rw [load_of_cannotBeRead hreason, load_of_cannotBeRead hreason]
  · rw [load_of_shapeless htext hnothing, load_of_shapeless htext hnothing]
  · rw [load_of_gives htext hgives, load_of_gives htext hgives]
    cases validateApplications given.paths with
    | error e => rfl
    | ok _ =>
        exact congrArg Except.ok
          ((endpoints_under env given).trans (endpoints_under env' given).symm)

/-- **Configuration is layered.** Loading ends in the way that its sources say; no file, a missing
one and an empty one come to the same; the environment changes neither which endpoints there are nor
whether they are refused, and has nothing to change when it has been heard already; and where
nothing is said the ordinary values hold. -/
theorem configuration_layered (file : Option FileContent) (env : Environment) :
    (∀ result, Config.load file env = result ↔ Loads file env result) ∧
    (Config.load (some .missing) env = Config.load none env ∧
      Config.load (some (.bytes [])) env = Config.load none env) ∧
    (∀ env', (Config.load file env').map Config.endpoints =
      (Config.load file env).map Config.endpoints) ∧
    (∀ c : Config, (c.override env).override env = c.override env) ∧
    Given.under (fun _ => none) {} = {} :=
  ⟨fun _ => loads_iff, ⟨rfl, rfl⟩, fun env' => endpoints_load file env' env,
    Config.override_idem env, rfl⟩

/-- A port in the environment that is no number leaves that of the file, and the secret there fills
in the one that is missing. -/
example :
    Config.load (some (.bytes (Text.encodeUtf8 "server = \x7b port = 80 \x7d\n[[applications]]\n")))
        (fun name => Assoc.get? name [("VOXHOOK_PORT", "seven"), ("VOXHOOK_SECRET", "sesame")]) =
      .ok { server := { port := 80 }, applications := [{ secret := "sesame" }] } :=
  rfl

end Switchboard

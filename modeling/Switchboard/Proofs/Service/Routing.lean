import Switchboard.Proofs.Service.Secret

/-!
# Where requests go

The paths of applications are patterns, but a path without marks of patterns is a pattern for itself
alone. A service all of whose paths are such can be routed, and the way of a request is then a
matter of comparing texts.

* `PlainPath`: a path without marks of patterns. `ofText_of_plain`: it is the pattern of its own
  characters.
* `State.route?_of_plain`: where paths lead in a service with plain paths.
* `State.Has`: an application has a request: its secret is checked, and then its handler is given
  the body.
* `State.Shows`: a page is what a request is answered with.
* **`applications_routed`**: which applications are refused and why, that a loaded configuration has
  a service, and where the requests of a service go.
-/

namespace Switchboard

/-- **A path without marks of patterns**: it has no braces, and none of its segments begins with a
colon or a star. -/
structure PlainPath (path : String) : Prop where
  unbraced : ∀ c ∈ path.toList, c ≠ '\x7b' ∧ c ≠ '\x7d'
  unmarked : ∀ before mark rest, path.toList = before ++ '/' :: mark :: rest →
    mark ≠ ':' ∧ mark ≠ '*'

namespace PathPattern

/-! ## Plain paths as patterns -/

/-- A path has a segment with a mark iff the mark stands behind a slash. -/
theorem hasSegmentWith_iff {mark : Char} {cs : List Char} :
    hasSegmentWith mark cs = true ↔ ∃ before rest, cs = before ++ '/' :: mark :: rest := by
  induction cs with
  | nil => simp [hasSegmentWith]
  | cons c cs ih =>
      rw [hasSegmentWith, Bool.or_eq_true, ih, Bool.and_eq_true, decide_eq_true_eq,
        decide_eq_true_eq]
      constructor
      · rintro (⟨rfl, hmark⟩ | ⟨before, rest, rfl⟩)
        · obtain ⟨rest, rfl⟩ := List.head?_eq_some_iff.1 hmark
          exact ⟨[], rest, rfl⟩
        · exact ⟨c :: before, rest, rfl⟩
      · rintro ⟨before, rest, heq⟩
        cases before with
        | nil =>
            obtain ⟨rfl, rfl⟩ := List.cons.inj heq
            exact .inl ⟨rfl, rfl⟩
        | cons first before =>
            obtain ⟨rfl, rfl⟩ := List.cons.inj heq
            exact .inr ⟨before, rest, rfl⟩

/-- No segment begins with a colon or a star iff neither mark is found behind a slash. -/
theorem unmarked_iff {cs : List Char} :
    (∀ before mark rest, cs = before ++ '/' :: mark :: rest → mark ≠ ':' ∧ mark ≠ '*') ↔
      hasSegmentWith ':' cs = false ∧ hasSegmentWith '*' cs = false := by
  simp only [← Bool.not_eq_true, hasSegmentWith_iff]
  constructor
  · intro h
    exact ⟨fun ⟨before, rest, heq⟩ => (h before ':' rest heq).1 rfl,
      fun ⟨before, rest, heq⟩ => (h before '*' rest heq).2 rfl⟩
  · rintro ⟨hcolon, hstar⟩ before mark rest heq
    exact ⟨fun hmark => hcolon ⟨before, rest, hmark ▸ heq⟩,
      fun hmark => hstar ⟨before, rest, hmark ▸ heq⟩⟩

/-- A path without braces is read character by character. -/
theorem tokens_of_unbraced {cs : List Char} (h : ∀ c ∈ cs, c ≠ '\x7b' ∧ c ≠ '\x7d') :
    tokens cs = cs.map .plain := by
  induction cs with
  | nil => rfl
  | cons c cs ih =>
      obtain ⟨⟨hopening, hclosing⟩, hrest⟩ := List.forall_mem_cons.1 h
      rw [List.map_cons, ← ih hrest, tokens]
      all_goals simp [hopening, hclosing]

/-- Plain characters are pieces of their own. -/
theorem pieces_plain (cs : List Char) : pieces none (cs.map .plain) = .ok (cs.map .char) := by
  induction cs with
  | nil => rfl
  | cons c cs ih =>
      rw [List.map_cons, pieces, ih]
      rfl

/-- **A plain path is the pattern of its own characters.** -/
theorem ofText_of_plain {path : String} (h : PlainPath path) :
    ofText path = .ok (path.toList.map .char) := by
  obtain ⟨hcolon, hstar⟩ := unmarked_iff.1 h.unmarked
  unfold ofText
  dsimp only
  rw [hcolon, hstar, tokens_of_unbraced h.unbraced]
  exact pieces_plain _

/-- Patterns without parameters clash only if they are the same. -/
theorem clashes_chars (cs ds : List Char) :
    clashes (cs.map .char) (ds.map .char) = decide (cs = ds) := by
  induction cs generalizing ds with
  | nil => cases ds <;> rfl
  | cons c cs ih =>
      cases ds with
      | nil => rfl
      | cons d ds => simp [clashes, ih]

/-- A pattern is not more exact than itself. -/
theorem isMoreExact_chars (cs : List Char) : isMoreExact (cs.map .char) (cs.map .char) = false := by
  induction cs with
  | nil => rfl
  | cons c cs ih => simp [isMoreExact, ih]

/-- Of patterns none of which is more exact than another the first one is chosen. -/
theorem mostExact?_eq_head? {α : Type} {entries : List (PathPattern × α)}
    (h : ∀ a ∈ entries, ∀ b ∈ entries, isMoreExact a.1 b.1 = false) :
    mostExact? entries = entries.head? := by
  cases entries with
  | nil => rfl
  | cons a others =>
      rw [mostExact?, List.head?_cons]
      split
      · next b hb =>
        have hmem : b ∈ a :: others := List.mem_cons_of_mem _ (mem_of_mostExact? hb)
        rw [h b hmem a List.mem_cons_self, if_neg Bool.false_ne_true]
      · rfl

/-- **Among the patterns of plain paths a path finds itself.** -/
theorem find?_chars {α : Type} (pathOf : α → String) (values : List α) (path : String) :
    find? (values.map fun a => ((pathOf a).toList.map PathPiece.char, a)) path =
      values.find? fun a => pathOf a = path := by
  have haccepts : (fun e : PathPattern × α => e.1.accepts path.toList) ∘
      (fun a => ((pathOf a).toList.map PathPiece.char, a)) = fun a => decide (pathOf a = path) := by
    funext a
    rw [Function.comp_apply, accepts_chars, decide_eq_decide]
    exact String.toList_inj
  unfold find?
  rw [List.filter_map, haccepts, mostExact?_eq_head?]
  · rw [List.head?_map, List.head?_filter, Option.map_map]
    exact Option.map_id_apply
  · intro a ha b hb
    obtain ⟨a', ha', rfl⟩ := List.mem_map.1 ha
    obtain ⟨b', hb', rfl⟩ := List.mem_map.1 hb
    have hpatha : pathOf a' = path := by simpa using (List.mem_filter.1 ha').2
    have hpathb : pathOf b' = path := by simpa using (List.mem_filter.1 hb').2
    rw [hpatha, hpathb]
    exact isMoreExact_chars _

end PathPattern

instance (path : String) : Decidable (PlainPath path) :=
  have : Decidable (∀ c ∈ path.toList, c ≠ '\x7b' ∧ c ≠ '\x7d') :=
    List.decidableBAll _ path.toList
  decidable_of_iff
    ((∀ c ∈ path.toList, c ≠ '\x7b' ∧ c ≠ '\x7d') ∧
      PathPattern.hasSegmentWith ':' path.toList = false ∧
      PathPattern.hasSegmentWith '*' path.toList = false)
    ⟨fun h => ⟨h.1, PathPattern.unmarked_iff.2 h.2⟩,
      fun h => ⟨h.unbraced, PathPattern.unmarked_iff.1 h.unmarked⟩⟩

/-- A colon or a star inside a segment is no mark. -/
example : PlainPath "/a:b/c*" ∧ ¬ PlainPath "/a/:b" ∧ ¬ PlainPath "/call/\x7bid\x7d" := by
  decide +kernel

/-- **Plain paths can be served side by side** if no two are the same, by induction with the
patterns before. -/
theorem checkPaths_of_plain (before : List String) {paths : List String}
    (hplain : ∀ path ∈ paths, PlainPath path) (hdistinct : (before ++ paths).Nodup) :
    checkPaths (before.map fun path => (path, path.toList.map PathPiece.char)) paths = .ok () := by
  induction paths generalizing before with
  | nil => rfl
  | cons path rest ih =>
      obtain ⟨hpath, hrest⟩ := List.forall_mem_cons.1 hplain
      have hnew : path ∉ before := fun hmem =>
        (List.nodup_append.1 hdistinct).2.2 path hmem path List.mem_cons_self rfl
      have hclash : (before.map fun path => (path, path.toList.map PathPiece.char)).find?
          (fun b => PathPattern.clashes b.2 (path.toList.map .char)) = none := by
        rw [List.find?_eq_none]
        intro b hb
        obtain ⟨other, hother, rfl⟩ := List.mem_map.1 hb
        rw [PathPattern.clashes_chars, decide_eq_true_eq, String.toList_inj]
        exact fun heq => hnew (heq ▸ hother)
      rw [checkPaths, PathPattern.ofText_of_plain hpath]
      dsimp only
      rw [hclash]
      have hnext := ih (before ++ [path]) hrest (by rwa [← List.append_cons])
      rwa [List.map_append] at hnext

/-! ## Pages -/

namespace BuiltIn

/-- A page that is hidden in production. -/
def Diagnostic (page : BuiltIn) : Prop := page ≠ ping ∧ page ≠ health

/-- Every page is served outside of production, and in production those that diagnose nothing. -/
theorem mem_served_iff {production : Bool} {page : BuiltIn} :
    page ∈ served production ↔ (page.Diagnostic → production = false) := by
  unfold Diagnostic
  cases production <;> cases page <;> decide

/-- No application has the path of a page, as such paths are reserved. -/
theorem path_mem_reservedPaths (page : BuiltIn) : page.path ∈ reservedPaths := by
  cases page <;> decide

/-- A path leads to no page but its own. -/
theorem find?_served (production : Bool) (page : BuiltIn) :
    ((served production).find? fun p => p.path = page.path) =
      if page ∈ served production then some page else none := by
  cases production <;> cases page <;> rfl

/-- No page of the service has a path that is not reserved. -/
theorem find?_served_of_free {production : Bool} {path : String} (h : path ∉ reservedPaths) :
    ((served production).find? fun page => page.path = path) = none := by
  rw [List.find?_eq_none]
  intro page _ hpath
  obtain rfl : page.path = path := by simpa using hpath
  exact h page.path_mem_reservedPaths

end BuiltIn

namespace State

variable {s : State} {r : Request} {m : Mount} {page : BuiltIn} {clock : Nat → String}

/-! ## Routes between plain paths -/

/-- Plain paths are patterns of characters. -/
theorem patterns_of_plain (hplain : ∀ m ∈ s.mounts, PlainPath m.path) :
    s.patterns = s.mounts.map fun m => (m.path.toList.map PathPiece.char, m) := by
  rw [patterns, ← List.filterMap_eq_map]
  refine List.filterMap_congr fun m hm => ?_
  rw [PathPattern.ofText_of_plain (hplain m hm)]
  rfl

/-- **A plain path leads** to the page that is served there, or else to the application with this
path. -/
theorem route?_of_plain (hplain : ∀ m ∈ s.mounts, PlainPath m.path) (path : String) :
    s.route? path =
      match (BuiltIn.served s.settings.production).find? fun page => page.path = path with
      | some page => some (.builtIn page)
      | none => (s.mount? path).map .webhook := by
  rw [route?, patterns_of_plain hplain, PathPattern.find?_chars]
  rfl

/-- **The paths of a service are in order**: applications can have them, and they are plain. -/
structure Plain (s : State) : Prop where
  servable : Servable (s.mounts.map Mount.path)
  plain : ∀ m ∈ s.mounts, PlainPath m.path

/-- The post of a path is for an application iff the application has the path. -/
theorem Plain.webhook?_iff (h : s.Plain) {path : String} (hpath : r.path? = some path) :
    s.webhook? r = some m ↔ m ∈ s.mounts ∧ m.path = path := by
  have hroute : s.webhook? r = some m ↔ s.route? path = some (.webhook m) := by
    unfold webhook?
    rw [hpath, Option.bind_some]
    cases s.route? path with
    | none => simp
    | some route => cases route <;> simp
  rw [hroute, route?_of_plain h.plain]
  constructor
  · intro hm
    split at hm
    · cases hm
    · obtain ⟨m', hm', heq⟩ := Option.map_eq_some_iff.1 hm
      cases heq
      exact ⟨List.mem_of_find?_eq_some hm', by simpa using List.find?_some hm'⟩
  · rintro ⟨hm, rfl⟩
    have hfree : m.path ∉ reservedPaths := h.servable.free _ (List.mem_map_of_mem hm)
    rw [BuiltIn.find?_served_of_free hfree]
    dsimp only
    rw [mount?_of_mem h.servable.distinct hm]
    rfl

/-! ## Who answers -/

/-- **The application at a place has a request**: the request leads there, the secret is checked
first, and what passes is given to the handler, unless its body is too long to be read. -/
def Has (clock : Nat → String) (s : State) (i : Nat) (r : Request) : Prop :=
  ∃ m, s.mounts[i]? = some m ∧ s.webhook? r = some m ∧
    s.serve clock r =
      if passesSecret m.application.config.secret r = true then
        if greatestBody < r.body.length then (.ok tooLongRefusal, s) else s.serveWebhook m r.body
      else (.ok secretRefusal, s)

/-- **A page is what a request is answered with.** -/
def Shows (clock : Nat → String) (s : State) (page : BuiltIn) (r : Request) : Prop :=
  s.serve clock r = (.ok (s.serveBuiltIn clock page).1, (s.serveBuiltIn clock page).2)

/-- A request whose path leads to a page shows the page. -/
theorem shows_of_route (hget : r.method = "GET")
    (hroute : r.path?.bind s.route? = some (.builtIn page)) (clock : Nat → String) :
    s.Shows clock page r := by
  obtain ⟨path, hpath, hroute⟩ := Option.bind_eq_some_iff.1 hroute
  unfold Shows serve
  rw [hpath, Option.map_some, hroute, hget]
  cases page <;> rfl

/-- A page that is served comes before all applications, whatever their paths. -/
theorem shows_of_mem_served (hget : r.method = "GET") (hpath : r.path? = some page.path)
    (hserved : page ∈ BuiltIn.served s.settings.production) (clock : Nat → String) :
    s.Shows clock page r := by
  refine shows_of_route hget ?_ clock
  rw [hpath, Option.bind_some, route?, BuiltIn.find?_served, if_pos hserved]

/-- The signs of life are always there. -/
theorem shows_of_alive (hget : r.method = "GET") (hpath : r.path? = some page.path)
    (halive : ¬ page.Diagnostic) (clock : Nat → String) : s.Shows clock page r :=
  shows_of_mem_served hget hpath (BuiltIn.mem_served_iff.2 fun h => absurd h halive) clock

/-- Nothing takes the place of a page that is not served. -/
theorem Plain.serve_of_not_mem_served (h : s.Plain) (hpath : r.path? = some page.path)
    (hserved : page ∉ BuiltIn.served s.settings.production) (clock : Nat → String) :
    s.serve clock r = (.ok (.empty 404), s) := by
  have hfind : s.mount? page.path = none := by
    rw [mount?, List.find?_eq_none]
    intro m hm hpath
    have hfree : m.path ∉ reservedPaths := h.servable.free _ (List.mem_map_of_mem hm)
    obtain hpath : m.path = page.path := by simpa using hpath
    exact hfree (hpath ▸ page.path_mem_reservedPaths)
  have hroute : s.route? page.path = none := by
    rw [route?_of_plain h.plain, BuiltIn.find?_served, if_neg hserved]
    dsimp only
    rw [hfind]
    rfl
  unfold serve
  rw [hpath, Option.map_some, hroute]

/-- A page is never answered by not being there. -/
theorem status_serveBuiltIn_ne (clock : Nat → String) (s : State) (page : BuiltIn) :
    (s.serveBuiltIn clock page).1.status ≠ 404 := by
  cases page <;> simp [serveBuiltIn, Response.text, Response.json]

/-- **Requests go where the paths say.** -/
structure Routed (clock : Nat → String) (s : State) : Prop where
  /-- The applications can be served side by side. -/
  checked : s.checkRoutes = .ok ()
  /-- The application at a place has the posts to its path and no others. -/
  posts : ∀ r path i, r.method = "POST" → r.path? = some path →
    (s.Has clock i r ↔ s.mounts[i]?.map Mount.path = some path)
  /-- No two applications have the same post. -/
  alone : ∀ r i j, s.Has clock i r → s.Has clock j r → i = j
  /-- The diagnostic pages are there outside of production. -/
  diagnostic : ∀ r (page : BuiltIn), r.method = "GET" → r.path? = some page.path →
    page.Diagnostic → (s.Shows clock page r ↔ s.settings.production = false)
  /-- In production nothing is there in their place. -/
  hidden : ∀ r (page : BuiltIn), r.method = "GET" → r.path? = some page.path →
    page.Diagnostic → s.settings.production = true → s.serve clock r = (.ok (.empty 404), s)

/-- **A service with plain paths** leads every request to where its path says. -/
theorem Plain.routed (h : s.Plain) (clock : Nat → String) : s.Routed clock := by
  have hplaces : s.mounts.Nodup := List.Nodup.of_map _ h.servable.distinct
  have hhidden : ∀ r page, r.path? = some (BuiltIn.path page) → page.Diagnostic →
      s.settings.production = true → s.serve clock r = (.ok (.empty 404), s) := by
    intro r page hpath hdiagnostic hproduction
    refine h.serve_of_not_mem_served hpath (fun hserved => ?_) clock
    rw [BuiltIn.mem_served_iff.1 hserved hdiagnostic] at hproduction
    cases hproduction
  constructor
  case checked =>
    refine checkPaths_of_plain [] (fun path hpath => ?_) h.servable.distinct
    obtain ⟨m, hm, rfl⟩ := List.mem_map.1 hpath
    exact h.plain m hm
  case posts =>
    intro r path i hpost hpath
    constructor
    · rintro ⟨m, hm, hroute, -⟩
      rw [hm, Option.map_some, ((h.webhook?_iff hpath).1 hroute).2]
    · intro hplace
      obtain ⟨m, hm, hmpath⟩ := Option.map_eq_some_iff.1 hplace
      have hroute := (h.webhook?_iff hpath).2 ⟨List.mem_of_getElem? hm, hmpath⟩
      exact ⟨m, hm, hroute, serve_post hroute hpost clock⟩
  case alone =>
    rintro r i j ⟨m, hi, hroute, -⟩ ⟨m', hj, hroute', -⟩
    obtain rfl : m = m' := Option.some.inj (hroute.symm.trans hroute')
    obtain ⟨hlt, -⟩ := List.getElem?_eq_some_iff.1 hi
    exact (List.getElem?_inj hlt hplaces).1 (hi.trans hj.symm)
  case diagnostic =>
    intro r page hget hpath hdiagnostic
    constructor
    · intro hshows
      by_contra hproduction
      have hmissing := hhidden r page hpath hdiagnostic (by simpa using hproduction)
      rw [Shows, hmissing] at hshows
      have hresponse : Response.empty 404 = (s.serveBuiltIn clock page).1 :=
        Except.ok.inj (congrArg Prod.fst hshows)
      exact status_serveBuiltIn_ne clock s page (congrArg Response.status hresponse).symm
    · intro hproduction
      exact shows_of_mem_served hget hpath (BuiltIn.mem_served_iff.2 fun _ => hproduction) clock
  case hidden => exact fun r page _ => hhidden r page

/-! ## Services that are built -/

/-- No step takes the paths of a service out of order. -/
theorem plain_after {settings : Settings} {observers : Observers} {applications : List Application}
    (hbuild : build settings observers applications = .ok s)
    (hplain : ∀ a ∈ applications, PlainPath a.serverPath) (clock : Nat → String)
    (steps : List Step) :
    (s.after clock steps).Plain := by
  obtain ⟨hservable, -⟩ := build_eq_ok_iff.1 hbuild
  have happlications : (s.after clock steps).applications = applications := by
    rw [applications_after, applications_of_build hbuild]
  refine ⟨?_, fun m hm => ?_⟩
  · rwa [paths_eq, happlications]
  · refine hplain m.application ?_
    rw [← happlications]
    exact List.mem_map_of_mem hm

end State

/-- **Applications and their routes.** Applications are refused for the first path that is at fault,
and for nothing else; what is loaded has a service with all its applications in order; every service
shows signs of life; and at any time in the life of a service with plain paths requests go where the
paths say. -/
theorem applications_routed (clock : Nat → String) :
    (∀ configs : List ApplicationConfig,
      validateApplications (configs.map ApplicationConfig.serverPath) = .ok () ↔
        Servable (configs.map ApplicationConfig.serverPath)) ∧
    (∀ (configs : List ApplicationConfig) (e : ConfigError),
      validateApplications (configs.map ApplicationConfig.serverPath) = .error e ↔
        ∃ path fault, e = .invalidApplication path fault ∧
          FirstPathFault (configs.map ApplicationConfig.serverPath) path fault) ∧
    (∀ (file : Option FileContent) (env : Environment) (c : Config),
      Config.load file env = .ok c →
      ∀ (settings : Settings) (observers : Observers) (applications : List Application),
        applications.map Application.config = c.applications →
          ∃ s, State.build settings observers applications = .ok s ∧
            s.applications = applications) ∧
    (∀ (s : State) (r : Request) (page : BuiltIn), r.method = "GET" →
      r.path? = some page.path → ¬ page.Diagnostic → s.Shows clock page r) ∧
    ∀ (settings : Settings) (observers : Observers) (applications : List Application) (s : State),
      State.build settings observers applications = .ok s →
        (∀ a ∈ applications, PlainPath a.serverPath) →
        ∀ steps, (s.after clock steps).Routed clock := by
  refine ⟨fun configs => validateApplications_eq_ok_iff,
    fun configs e => validateApplications_eq_error_iff, ?_, ?_, ?_⟩
  · intro file env c hload settings observers applications hconfigs
    have hservable := Config.servable_of_load hload
    rw [← hconfigs, List.map_map] at hservable
    obtain ⟨s, hbuild⟩ : ∃ s, State.build settings observers applications = .ok s :=
      ⟨_, State.build_eq_ok_iff.2 ⟨hservable, rfl⟩⟩
    exact ⟨s, hbuild, State.applications_of_build hbuild⟩
  · exact fun s r page hget hpath halive => State.shows_of_alive hget hpath halive clock
  · intro settings observers applications s hbuild hplain steps
    exact (State.plain_after hbuild hplain clock steps).routed clock

/-- A service with the weather application at two paths. -/
def weatherTwice : State where
  settings := {}
  observers := {}
  mounts := [{ application := Weather.application {} },
    { application := Weather.application { serverPath := "/weather" } }]

/-- A post of the path `/weather` is for the second of the two applications and not for the
first. -/
theorem applications_routed_weather :
    ∃ s r, Config.load none (fun _ => none) = .ok {} ∧
      State.build {} {} [Weather.application {}] = .ok s ∧
      s.applications = [Weather.application {}] ∧
      State.build {} {} [Weather.application {}, Weather.application { serverPath := "/weather" }] =
        .ok weatherTwice ∧
      PlainPath "/vapi" ∧ PlainPath "/weather" ∧
      r.method = "POST" ∧ r.path? = some "/weather" ∧
      weatherTwice.Has (fun time => toString time) 1 r ∧
        ¬ weatherTwice.Has (fun time => toString time) 0 r := by
  obtain ⟨-, -, hloaded, -, hrouted⟩ := applications_routed fun time => toString time
  obtain ⟨s, hs, happlications⟩ :=
    hloaded none (fun _ => none) {} rfl {} {} [Weather.application {}] rfl
  have hbuild : State.build {} {}
      [Weather.application {}, Weather.application { serverPath := "/weather" }] =
      .ok weatherTwice := rfl
  have hvapi : PlainPath "/vapi" := by decide +kernel
  have hweather : PlainPath "/weather" := by decide +kernel
  have hplain : ∀ a ∈ [Weather.application {},
      Weather.application { serverPath := "/weather" }], PlainPath a.serverPath :=
    List.forall_mem_cons.2 ⟨hvapi, List.forall_mem_singleton.2 hweather⟩
  have hposts := (hrouted {} {} _ weatherTwice hbuild hplain []).posts
  have hpath : (Request.mk "POST" "/weather" [] []).path? = some "/weather" := by decide +kernel
  refine ⟨s, ⟨"POST", "/weather", [], []⟩, rfl, hs, happlications, hbuild, hvapi, hweather,
    rfl, hpath, ?_, ?_⟩
  · exact (hposts _ _ 1 rfl hpath).2 rfl
  · intro hfirst
    have hother := (hposts _ _ 0 rfl hpath).1 hfirst
    exact absurd hother (by decide)

end Switchboard

import Switchboard.Proofs.Service.Accepted

/-!
# How long entries last

An entry comes into the caches of an application by the first registration under its key. From then
on it only gains functions, until it leaves: at a sweep, with all others, or with its session.

* `Entry.Extends`: an entry is as old as another and has all its functions.
* `Script.accepted`: the registrations of a responder that are accepted, each of which is in the
  entry of its key afterwards (`Script.get?_run_of_accepted`).
* `lookup?_wait`, `lookup?_purgeAll`, `lookup?_clearCaches`, `lookup?_serve`: what the steps of a
  run do to the look-up of a key.
* `Leaves`: the ways in which a step takes an entry out; `clearsCaches_iff`: which requests empty
  the caches.
* **`change_perform`**: what a step does to the entry of one key, with the reason. What follows
  about runs is taken from this.
* **`lookup?_after_of_spares`**: an entry that no step of a run takes out is there after the run,
  with all its functions and perhaps more.
* **`vacant_after`**: a session without entries has none until an assistant is asked for in its
  name.
-/

namespace Switchboard

/-! ## Entries that grow -/

/-- The entry is as old as an earlier one, and has all functions of that one. -/
structure Entry.Extends (earlier e : Entry) : Prop where
  created : e.created = earlier.created
  functions : ∀ {name : String} {d : ToolDefinition}, earlier.get? name = some d →
    e.get? name = some d

/-- An entry extends itself. -/
theorem Entry.Extends.refl (e : Entry) : e.Extends e := ⟨rfl, id⟩

/-- An entry extends what those extend that it extends. -/
theorem Entry.Extends.trans {e₁ e₂ e₃ : Entry} (h : e₁.Extends e₂)
    (h' : e₂.Extends e₃) : e₁.Extends e₃ :=
  ⟨h'.created.trans h.created, fun hd => h'.functions (h.functions hd)⟩

/-- A function that is new to an entry takes no other's place. -/
theorem Entry.extends_insert {e : Entry} {d : ToolDefinition} (h : e.get? d.name = none) :
    e.Extends (e.insert d) := by
  refine ⟨rfl, fun {name d'} hd' => ?_⟩
  have hne : name ≠ d.name := by
    rintro rfl
    rw [h] at hd'
    cases hd'
  rw [Entry.get?_insert, if_neg hne, hd']

namespace Caches

/-- What an accepted registration does: the entry of its key gets the function, and every other
entry is as before. -/
theorem add_eq_ok {cs cs' : Caches} {kind : CacheKind} {now : Nat} {key : CacheKey}
    {d : ToolDefinition} (h : cs.add kind now key d = .ok cs') :
    ∃ e, e = (((cs.of kind).entries.get? key).getD (.new key now)) ∧ e.get? d.name = none ∧
      ∀ kind' key', (cs'.of kind').entries.get? key' =
        if kind' = kind ∧ key' = key then some (e.insert d)
        else (cs.of kind').entries.get? key' := by
  unfold add at h
  rcases FunctionCache.add_cases (cs.of kind) now key d with
    ⟨_, _, _, _, hadd⟩ | ⟨e, he, hd, hadd⟩
  · rw [hadd] at h
    cases h
  · rw [hadd] at h
    cases h
    refine ⟨e, he, hd, fun kind' key' => ?_⟩
    rw [of_set]
    by_cases hkind : kind' = kind
    · subst hkind
      rw [if_pos rfl, Table.get?_insert]
      simp only [true_and]
    · rw [if_neg hkind, if_neg (fun hboth => hkind hboth.1)]

/-- A registration extends every entry that is there, in either cache. -/
theorem extends_of_add {cs cs' : Caches} {kind kind' : CacheKind} {now : Nat} {key key' : CacheKey}
    {d : ToolDefinition} {e : Entry} (h : cs.add kind now key d = .ok cs')
    (he : (cs.of kind').entries.get? key' = some e) :
    ∃ e', (cs'.of kind').entries.get? key' = some e' ∧ e.Extends e' := by
  obtain ⟨old, hold, hfresh, hget⟩ := add_eq_ok h
  rw [hget]
  split
  · next heq =>
    obtain ⟨rfl, rfl⟩ := heq
    rw [he, Option.getD_some] at hold
    subst hold
    exact ⟨_, rfl, Entry.extends_insert hfresh⟩
  · exact ⟨e, he, .refl e⟩

/-- An entry that a registration creates is as old as the registration. -/
theorem created_of_add {cs cs' : Caches} {kind kind' : CacheKind} {now : Nat} {key key' : CacheKey}
    {d : ToolDefinition} {e : Entry} (h : cs.add kind now key d = .ok cs')
    (hnone : (cs.of kind').entries.get? key' = none)
    (he : (cs'.of kind').entries.get? key' = some e) :
    e.created = now := by
  obtain ⟨old, hold, -, hget⟩ := add_eq_ok h
  rw [hget] at he
  split at he
  · next heq =>
    obtain ⟨rfl, rfl⟩ := heq
    rw [hnone, Option.getD_none] at hold
    subst hold
    cases he
    rfl
  · rw [hnone] at he
    cases he

end Caches

/-! ## What a responder registers -/

namespace Script

/-- The registrations of a responder that are accepted, in order: the cache, the assistant and the
function. -/
def accepted (session : String) (now : Nat) :
    Script → Caches → List (CacheKind × String × ToolDefinition)
  | finish _, _ => []
  | register kind assistant d next, cs =>
    match cs.add kind now ⟨session, assistant⟩ d with
    | .ok cs => (kind, assistant, d) :: (next (.ok ())).accepted session now cs
    | .error e => (next (.error e)).accepted session now cs

variable {session : String}

/-- A responder adds to entries and takes nothing out. -/
theorem extends_run (script : Script) (now : Nat) {cs : Caches} {kind : CacheKind} {key : CacheKey}
    {e : Entry} (he : (cs.of kind).entries.get? key = some e) :
    ∃ e', ((script.run session now cs).1.of kind).entries.get? key = some e' ∧
      e.Extends e' := by
  induction script generalizing cs e with
  | finish outcome => exact ⟨e, he, .refl e⟩
  | register kind' assistant d next ih =>
      unfold run
      cases hadd : cs.add kind' now ⟨session, assistant⟩ d with
      | error err => exact ih _ he
      | ok cs₁ =>
          obtain ⟨e₁, he₁, hextends₁⟩ := Caches.extends_of_add hadd he
          obtain ⟨e₂, he₂, hextends₂⟩ := ih (.ok ()) he₁
          exact ⟨e₂, he₂, hextends₁.trans hextends₂⟩

/-- What has been accepted from a responder is in the caches afterwards. -/
theorem get?_run_of_accepted (script : Script) (now : Nat) {cs : Caches} {kind : CacheKind}
    {assistant : String} {d : ToolDefinition}
    (h : (kind, assistant, d) ∈ script.accepted session now cs) :
    ∃ e,
      ((script.run session now cs).1.of kind).entries.get? ⟨session, assistant⟩ = some e ∧
      e.get? d.name = some d := by
  induction script generalizing cs with
  | finish outcome => cases h
  | register kind' assistant' d' next ih =>
      unfold accepted at h
      unfold run
      cases hadd : cs.add kind' now ⟨session, assistant'⟩ d' with
      | error err =>
          rw [hadd] at h
          exact ih _ h
      | ok cs₁ =>
          rw [hadd] at h
          rcases List.mem_cons.1 h with heq | hrest
          · -- the rest of the responder keeps what this registration has put there
            cases heq
            obtain ⟨old, -, -, hget⟩ := Caches.add_eq_ok hadd
            have hnew :
                (cs₁.of kind).entries.get? ⟨session, assistant⟩ = some (old.insert d) := by
              rw [hget, if_pos ⟨rfl, rfl⟩]
            obtain ⟨e, he, hextends⟩ : ∃ e,
                (((next (.ok ())).run session now cs₁).1.of kind).entries.get?
                  ⟨session, assistant⟩ = some e ∧ (old.insert d).Extends e :=
              extends_run _ now hnew
            refine ⟨e, he, hextends.functions ?_⟩
            rw [Entry.get?_insert, if_pos rfl]
          · exact ih _ hrest

/-- So is an entry that a responder creates. -/
theorem created_run (script : Script) (now : Nat) {cs : Caches} {kind : CacheKind} {key : CacheKey}
    {e : Entry} (hnone : (cs.of kind).entries.get? key = none)
    (he : ((script.run session now cs).1.of kind).entries.get? key = some e) : e.created = now := by
  induction script generalizing cs with
  | finish outcome =>
      change (cs.of kind).entries.get? key = some e at he
      rw [hnone] at he
      cases he
  | register kind' assistant d next ih =>
      unfold run at he
      cases hadd : cs.add kind' now ⟨session, assistant⟩ d with
      | error err =>
          rw [hadd] at he
          exact ih _ hnone he
      | ok cs₁ =>
          rw [hadd] at he
          cases hfirst : (cs₁.of kind).entries.get? key with
          | none => exact ih _ hfirst he
          | some e₁ =>
              -- the first registration has created the entry, the others add to it
              obtain ⟨e', he', hextends⟩ : ∃ e',
                (((next (.ok ())).run session now cs₁).1.of kind).entries.get?
                  key = some e' ∧ e₁.Extends e' := extends_run _ now hfirst
              obtain rfl : e' = e := Option.some.inj (he'.symm.trans he)
              exact hextends.created.trans (Caches.created_of_add hadd hnone hfirst)

/-- A responder leaves the entries of other sessions as they are. -/
theorem get?_run_of_other (script : Script) (now : Nat) (cs : Caches) (kind : CacheKind)
    {key : CacheKey} (hother : session ≠ key.session) :
    ((script.run session now cs).1.of kind).entries.get? key = (cs.of kind).entries.get? key := by
  have hseen := congrFun (seenBy_run script hother now cs) kind
  exact (FunctionCache.seenBy_eq_iff.1 hseen).2 key.assistant

end Script

/-! ## What a message does to the caches -/

/-- A message leaves the caches alone, unless it asks for an assistant or ends a call. -/
theorem caches_dispatch_cases (production : Bool) (now : Nat) (app : Application) (cs : Caches)
    (t : RequestType) (payload : Json) :
    (dispatch production now app cs t payload).caches = cs ∨
    (∃ responder session, t = .assistantRequest ∧ app.assistant = some responder ∧
      sessionOf? (messageOf payload) = some session ∧
      (dispatch production now app cs t payload).caches =
        ((responder ⟨session, app.serverPath, payload⟩).run session now cs).1) ∨
    (∃ session, t = .endOfCallReport ∧ app.config.removeCacheOnEndOfCallReport = true ∧
      sessionOf? (messageOf payload) = some session ∧
      (dispatch production now app cs t payload).caches = (cs.removeSession session).2) := by
  cases t
  case assistantRequest =>
    show (dispatchAssistant production now app cs payload (messageOf payload)).caches = cs ∨ _
    unfold dispatch dispatchAssistant
    cases happ : app.assistant with
    | none => exact .inl rfl
    | some responder =>
        dsimp only
        cases hsession : sessionOf? (messageOf payload) with
        | none => exact .inl rfl
        | some session =>
            refine .inr (.inl ⟨responder, session, rfl, rfl, rfl, ?_⟩)
            rw [show sessionOf? ((payload.get? "message").getD .null) = some session from hsession]
            rfl
  case endOfCallReport =>
    show (dispatchEndOfCall app cs (messageOf payload)).caches = cs ∨ _
    unfold dispatchEndOfCall
    cases hflag : app.config.removeCacheOnEndOfCallReport with
    | false => exact .inl rfl
    | true =>
        cases hsession : sessionOf? (messageOf payload) with
        | none => exact .inl rfl
        | some session =>
            refine .inr (.inr ⟨session, rfl, rfl, rfl, ?_⟩)
            show (dispatchEndOfCall app cs (messageOf payload)).caches = _
            unfold dispatchEndOfCall
            rw [hflag, hsession]
            rfl
  case toolCalls => exact .inl (caches_dispatchToolCalls cs _)
  case functionCall => exact .inl (caches_dispatchFunctionCall cs _)
  case transferDestinationRequest => exact .inl (caches_dispatchTransfer production app cs payload)
  all_goals exact .inl rfl

namespace State

variable {s : State} {r : Request} {m : Mount} {payload : Json} {path : String} {key : CacheKey}
  {kind : CacheKind} {e : Entry} {step : Step} {clock : Nat → String}

/-! ## What the steps do to a look-up -/

/-- An entry of an application is looked up in its own caches. -/
theorem lookup?_of_mem (hs : (s.mounts.map Mount.path).Nodup) (hm : m ∈ s.mounts)
    (kind : CacheKind) (key : CacheKey) :
    s.lookup? m.path kind key = (m.caches.of kind).entries.get? key := by
  rw [lookup?, caches?_of_mem hs hm]
  rfl

/-- Where every cache keeps what passes a test, so does every look-up. -/
theorem lookup?_of_caches? {s' : State} {f : Caches → Caches} {keeps : Entry → Bool}
    (h : s'.caches? path = (s.caches? path).map f)
    (hf : ∀ cs : Caches, ((f cs).of kind).entries.get? key =
      ((cs.of kind).entries.get? key).filter keeps) :
    s'.lookup? path kind key = (s.lookup? path kind key).filter keeps := by
  unfold lookup?
  rw [h]
  cases s.caches? path with
  | none => rfl
  | some cs => exact hf cs

/-- Sweeps filter entries by their age at each of them. -/
theorem get?_sweepCaches (sweeps : List (Nat × Nat)) (cs : Caches) (kind : CacheKind)
    (key : CacheKey) :
    ((sweepCaches sweeps cs).of kind).entries.get? key =
      ((cs.of kind).entries.get? key).filter fun e =>
        sweeps.all fun sweep => e.age sweep.1 ≤ sweep.2 := by
  induction sweeps generalizing cs with
  | nil =>
      show (cs.of kind).entries.get? key = _
      cases (cs.of kind).entries.get? key <;> rfl
  | cons sweep rest ih =>
      show ((sweepCaches rest (cs.purge sweep.1 sweep.2).2).of kind).entries.get? key = _
      rw [ih, Caches.of_purge, FunctionCache.get?_purge, Option.filter_filter]
      rfl

/-- While time passes an entry has to be young enough for each sweep that falls due. -/
theorem lookup?_wait (s : State) (duration : Nat) (path : String) (kind : CacheKind)
    (key : CacheKey) :
    (s.wait duration).lookup? path kind key = (s.lookup? path kind key).filter fun e =>
      (s.dueSweeps (s.now + duration)).all fun sweep => e.age sweep.1 ≤ sweep.2 :=
  lookup?_of_caches? (caches?_wait s duration path) fun cs => get?_sweepCaches _ cs kind key

/-- A sweep leaves the entries that are not too old. -/
theorem lookup?_purgeAll (s : State) (maxAge : Nat) (path : String) (kind : CacheKind)
    (key : CacheKey) :
    (s.purgeAll maxAge).2.lookup? path kind key =
      (s.lookup? path kind key).filter fun e => e.age s.now ≤ maxAge := by
  refine lookup?_of_caches? (caches?_purgeAll s maxAge path) fun cs => ?_
  rw [Caches.of_purge, FunctionCache.get?_purge]

/-- After a clearing nothing is found. -/
theorem lookup?_clearCaches (s : State) (path : String) (kind : CacheKind) (key : CacheKey) :
    s.clearCaches.lookup? path kind key = none := by
  rw [lookup?, caches?_clearCaches]
  cases s.caches? path with
  | none => rfl
  | some cs =>
      rw [Option.map_some, Option.bind_some, Caches.of_clear]
      rfl

/-- Where the applications have the same caches, the same is found. -/
theorem lookup?_of_mounts {s s' : State} (h : s'.mounts = s.mounts) (path : String)
    (kind : CacheKind) (key : CacheKey) : s'.lookup? path kind key = s.lookup? path kind key := by
  rw [lookup?, caches?, mount?, h]
  rfl

/-- Work in the background leaves every entry. -/
theorem lookup?_settle (s : State) (path : String) (kind : CacheKind) (key : CacheKey) :
    s.settle.lookup? path kind key = s.lookup? path kind key :=
  lookup?_of_mounts (settle_frame s).2.1 path kind key

/-- The start of a sweeper leaves every entry. -/
theorem lookup?_startPurge (s : State) (interval maxAge : Nat) (path : String) (kind : CacheKind)
    (key : CacheKey) :
    (s.startPurge interval maxAge).2.lookup? path kind key = s.lookup? path kind key :=
  lookup?_of_mounts (startPurge_frame s interval maxAge).2.1 path kind key

/-- An accepted request is a matter of the caches of one application. -/
theorem lookup?_serve (hs : (s.mounts.map Mount.path).Nodup) (h : s.accepted? r = some (m, payload))
    (clock : Nat → String) (path : String) (kind : CacheKind) (key : CacheKey) :
    (s.serve clock r).2.lookup? path kind key =
      if path = m.path then ((s.dispatched m payload).caches.of kind).entries.get? key
      else s.lookup? path kind key := by
  rw [lookup?, caches?_serve h]
  split
  · next hpath =>
    rw [hpath, caches?_of_mem hs (mem_of_accepted? h)]
    rfl
  · rw [Option.map_id']
    rfl

/-! ## Requests that empty the caches -/

/-- **The request empties the caches**: it gets the page for that, or its head. There is no such
page in production. -/
def Empties (s : State) (r : Request) : Prop :=
  s.settings.production = false ∧ (r.method = "GET" ∨ r.method = "HEAD") ∧
    r.path? = some BuiltIn.clearCaches.path

/-- Only the path of the page leads to the page, and only outside of production. -/
theorem clears_route?_iff (s : State) (path : String) :
    (s.route? path).any Route.clears = true ↔
      s.settings.production = false ∧ path = BuiltIn.clearCaches.path := by
  have hserved : (s.route? path).any Route.clears = true ↔
      (BuiltIn.served s.settings.production).find? (fun page => page.path = path) =
        some .clearCaches := by
    unfold route?
    cases (BuiltIn.served s.settings.production).find? fun page => page.path = path with
    | some page => simp [Route.clears]
    | none => cases PathPattern.find? s.patterns path <;> simp [Route.clears]
  rw [hserved]
  constructor
  · intro hfind
    have hpath : BuiltIn.clearCaches.path = path := by simpa using List.find?_some hfind
    have hmem : BuiltIn.clearCaches ∈ BuiltIn.served s.settings.production :=
      List.mem_of_find?_eq_some hfind
    refine ⟨?_, hpath.symm⟩
    cases hproduction : s.settings.production with
    | false => rfl
    | true =>
        rw [hproduction] at hmem
        exact absurd hmem (by decide)
  · rintro ⟨hproduction, rfl⟩
    rw [hproduction]
    decide

/-- A request clears the caches iff it is one that empties them. -/
theorem clearsCaches_iff : s.clearsCaches r = true ↔ s.Empties r := by
  unfold clearsCaches Empties
  cases r.path? with
  | none => simp
  | some path =>
      rw [Option.bind_some, Bool.and_eq_true, clears_route?_iff, Option.some.injEq]
      simp only [Bool.or_eq_true, decide_eq_true_eq]
      constructor
      · rintro ⟨hmethod, hproduction, hpath⟩
        exact ⟨hproduction, hmethod, hpath⟩
      · rintro ⟨hproduction, hmethod, hpath⟩
        exact ⟨hmethod, hproduction, hpath⟩

/-- A request that is not accepted leaves everything as it is, unless it empties the caches. -/
theorem serve_of_ignored (hs : (s.mounts.map Mount.path).Nodup) (h : s.accepted? r = none)
    (hempties : ¬ s.Empties r) (clock : Nat → String) : (s.serve clock r).2 = s := by
  have hclear : s.clearsCaches r = false := by
    rw [← Bool.not_eq_true, clearsCaches_iff]
    exact hempties
  rw [serve_of_not_accepted hs h, hclear, if_neg Bool.false_ne_true]

/-! ## Why an entry leaves -/

/-- **The request takes a session out**: it is accepted as a report of the end of the call, by an
application that is to forget such calls. -/
def Cleans (s : State) (r : Request) (path session : String) : Prop :=
  ∃ m payload, s.accepted? r = some (m, payload) ∧ m.path = path ∧
    RequestType.ofPayload payload = .endOfCallReport ∧
    sessionOf? (messageOf payload) = some session ∧
    m.application.config.removeCacheOnEndOfCallReport = true

/-- The sweeps that a step makes: when, and beyond what age. -/
def sweepsOf (s : State) : Step → List (Nat × Nat)
  | .wait duration => s.dueSweeps (s.now + duration)
  | .sweep maxAge => [(s.now, maxAge)]
  | _ => []

/-- **The step takes the entry out.** -/
inductive Leaves (path : String) (key : CacheKey) (e : Entry) (s : State) : Step → Prop where
  /-- Its call has ended. -/
  | ended {r : Request} (h : s.Cleans r path key.session) : Leaves path key e s (.request r)
  /-- A request empties the caches. -/
  | emptied {r : Request} (h : s.Empties r) : Leaves path key e s (.request r)
  /-- The caches are emptied from inside. -/
  | cleared : Leaves path key e s .clear
  /-- A sweep finds it too old. -/
  | swept {step : Step} {sweep : Nat × Nat} (h : sweep ∈ s.sweepsOf step)
    (hage : sweep.2 < e.age sweep.1) : Leaves path key e s step

/-! ## What a step does to an entry -/

/-- The step is accepted as a message of the type about the session. -/
def StepPosts (path : String) (t : RequestType) (session : String) (s : State)
    (step : Step) : Prop :=
  ∃ r, step.request? = some r ∧ s.Posts r path t session

/-- **What a step does to the entry of a key** in a cache of the application with a path. -/
inductive Change (clock : Nat → String) (path : String) (kind : CacheKind)
    (key : CacheKey) (s : State) (step : Step) : Prop where
  /-- Nothing; there may be none. -/
  | same (h : (s.perform clock step).lookup? path kind key = s.lookup? path kind key)
  /-- It takes the entry out. -/
  | left {e : Entry} (he : s.lookup? path kind key = some e)
    (hgone : (s.perform clock step).lookup? path kind key = none)
    (hleaves : s.Leaves path key e step)
  /-- There is an entry now, as an assistant has been asked for in the name of the session. -/
  | entered {e : Entry} (hnone : s.lookup? path kind key = none)
    (he : (s.perform clock step).lookup? path kind key = some e) (hcreated : e.created = s.now)
    (hposts : s.StepPosts path .assistantRequest key.session step)
  /-- The entry may have more functions, as an assistant has been asked for in the name of the
  session. -/
  | grown {e e' : Entry} (he : s.lookup? path kind key = some e)
    (he' : (s.perform clock step).lookup? path kind key = some e') (hextends : e.Extends e')
    (hposts : s.StepPosts path .assistantRequest key.session step)

/-- A step that keeps what passes a test takes out the rest. -/
theorem Change.of_filter {keeps : Entry → Bool}
    (h : (s.perform clock step).lookup? path kind key = (s.lookup? path kind key).filter keeps)
    (hleaves : ∀ e, s.lookup? path kind key = some e → keeps e = false →
      s.Leaves path key e step) :
    s.Change clock path kind key step := by
  cases hbefore : s.lookup? path kind key with
  | none => exact .same (by rw [h, hbefore, Option.filter_none])
  | some e =>
      cases hkeeps : keeps e with
      | true => exact .same (by rw [h, hbefore, Option.filter_some, if_pos hkeeps])
      | false =>
          refine .left hbefore ?_ (hleaves e hbefore hkeeps)
          rw [h, hbefore, Option.filter_some, hkeeps, if_neg Bool.false_ne_true]

/-- A step after which there is no entry has taken it out, if there was one. -/
theorem Change.of_none (h : (s.perform clock step).lookup? path kind key = none)
    (hleaves : ∀ e, s.lookup? path kind key = some e → s.Leaves path key e step) :
    s.Change clock path kind key step := by
  cases hbefore : s.lookup? path kind key with
  | none => exact .same (h.trans hbefore.symm)
  | some e => exact .left hbefore h (hleaves e hbefore)

/-- A responder creates entries of its session or adds to them. -/
theorem Change.of_run {script : Script} {session : String} {cs : Caches}
    (hbefore : s.lookup? path kind key = (cs.of kind).entries.get? key)
    (hafter : (s.perform clock step).lookup? path kind key =
      ((script.run session s.now cs).1.of kind).entries.get? key)
    (hposts : session = key.session → s.StepPosts path .assistantRequest key.session step) :
    s.Change clock path kind key step := by
  by_cases hkey : session = key.session
  · cases hfound : (cs.of kind).entries.get? key with
    | some e =>
        obtain ⟨e', he', hextends⟩ : ∃ e',
          ((script.run session s.now cs).1.of kind).entries.get? key =
            some e' ∧ e.Extends e' := Script.extends_run script s.now hfound
        exact .grown (hbefore.trans hfound) (hafter.trans he') hextends (hposts hkey)
    | none =>
        cases hnew : (s.perform clock step).lookup? path kind key with
        | none => exact .same (by rw [hnew, hbefore, hfound])
        | some e =>
            have hcreated : e.created = s.now :=
              Script.created_run script s.now hfound (hafter ▸ hnew)
            exact .entered (hbefore.trans hfound) hnew hcreated (hposts hkey)
  · exact .same (by rw [hafter, hbefore, Script.get?_run_of_other _ _ _ _ hkey])

/-- What an accepted message does to the entry of a key. -/
theorem change_of_accepted (hs : (s.mounts.map Mount.path).Nodup)
    (h : s.accepted? r = some (m, payload)) : s.Change clock path kind key (.request r) := by
  have hserve : (s.perform clock (.request r)).lookup? path kind key = _ :=
    lookup?_serve hs h clock path kind key
  by_cases hpath : path = m.path
  · subst hpath
    have hbefore := lookup?_of_mem hs (mem_of_accepted? h) kind key
    rw [if_pos rfl] at hserve
    rcases caches_dispatch_cases s.settings.production s.now m.application m.caches
        (RequestType.ofPayload payload) payload with
      hcaches | ⟨responder, session, htype, -, hsession, hcaches⟩ |
        ⟨session, htype, hflag, hsession, hcaches⟩
    · exact .same (by rw [hserve, dispatched, hcaches, hbefore])
    · rw [dispatched, hcaches] at hserve
      refine .of_run hbefore hserve fun hkey => ?_
      exact ⟨r, rfl, m, payload, h, rfl, htype, hkey ▸ hsession⟩
    · rw [dispatched, hcaches, Caches.of_removeSession, FunctionCache.get?_removeSession] at hserve
      by_cases hkey : key.session = session
      · rw [if_pos hkey] at hserve
        have hcleans : s.Cleans r m.path key.session :=
          ⟨m, payload, h, rfl, htype, hkey ▸ hsession, hflag⟩
        exact .of_none hserve fun e _ => .ended hcleans
      · rw [if_neg hkey] at hserve
        exact .same (hserve.trans hbefore.symm)
  · rw [if_neg hpath] at hserve
    exact .same hserve

/-- **Every change of an entry has its reason**, whatever the step. -/
theorem change_perform (hs : (s.mounts.map Mount.path).Nodup) (clock : Nat → String)
    (path : String) (kind : CacheKind) (key : CacheKey) (step : Step) :
    s.Change clock path kind key step := by
  cases step with
  | request r =>
      cases haccepted : s.accepted? r with
      | some a => exact change_of_accepted hs haccepted
      | none =>
          by_cases hempties : s.Empties r
          · have hcleared : (s.serve clock r).2 = s.clearCaches := by
              rw [serve_of_not_accepted hs haccepted, clearsCaches_iff.2 hempties, if_pos rfl]
            refine .of_none ?_ fun e _ => .emptied hempties
            show (s.serve clock r).2.lookup? path kind key = none
            rw [hcleared, lookup?_clearCaches]
          · refine .same ?_
            show (s.serve clock r).2.lookup? path kind key = _
            rw [serve_of_ignored hs haccepted hempties]
  | wait duration =>
      refine .of_filter (lookup?_wait s duration path kind key) fun e _ hold => ?_
      obtain ⟨sweep, hsweep, hage⟩ : ∃ sweep ∈ s.sweepsOf (.wait duration), _ :=
        List.all_eq_false.1 hold
      have hage : sweep.2 < e.age sweep.1 := by simpa using hage
      exact .swept hsweep hage
  | sweep maxAge =>
      refine .of_filter (lookup?_purgeAll s maxAge path kind key) fun e _ hold => ?_
      have hage : maxAge < e.age s.now := by simpa using hold
      have hsweep : (s.now, maxAge) ∈ s.sweepsOf (.sweep maxAge) := List.mem_singleton.2 rfl
      exact .swept hsweep hage
  | startSweeper interval maxAge => exact .same (lookup?_startPurge ..)
  | clear => exact .of_none (lookup?_clearCaches s path kind key) fun e _ => .cleared
  | settle => exact .same (lookup?_settle ..)

/-- An entry is there after a step, with perhaps more functions, or the step has taken it out. -/
theorem Change.extends (h : s.Change clock path kind key step)
    (he : s.lookup? path kind key = some e) :
    (∃ e', (s.perform clock step).lookup? path kind key = some e' ∧ e.Extends e') ∨
      ((s.perform clock step).lookup? path kind key = none ∧ s.Leaves path key e step) := by
  rcases h with h | ⟨hfound, hgone, hleaves⟩ | ⟨hnone, _, _, _⟩ |
    ⟨hfound, he', hextends, _⟩
  · exact .inl ⟨e, h.trans he, .refl e⟩
  · obtain rfl := Option.some.inj (hfound.symm.trans he)
    exact .inr ⟨hgone, hleaves⟩
  · rw [hnone] at he
    cases he
  · obtain rfl := Option.some.inj (hfound.symm.trans he)
    exact .inl ⟨_, he', hextends⟩

/-! ## Entries that stay -/

/-- **The step takes out no entry** of the given key and age: it is no end of the call, empties no
caches, and no sweep finds the entry too old. -/
def Spares (path : String) (key : CacheKey) (created : Nat) (s : State) : Step → Prop
  | .request r => s.clearsCaches r = false ∧ ¬ s.Cleans r path key.session
  | .wait duration => ∀ sweep ∈ s.dueSweeps (s.now + duration), sweep.1 - created ≤ sweep.2
  | .sweep maxAge => s.now - created ≤ maxAge
  | .startSweeper _ _ => True
  | .clear => False
  | .settle => True

/-- What takes an entry out does not spare it. -/
theorem Spares.not_leaves {step : Step} (hspares : s.Spares path key e.created step) :
    ¬ s.Leaves path key e step := by
  intro hleaves
  cases hleaves with
  | ended h => exact hspares.2 h
  | emptied h =>
      have hclears := clearsCaches_iff.2 h
      rw [hspares.1] at hclears
      cases hclears
  | cleared => exact hspares
  | swept h hage =>
      unfold Entry.age at hage
      cases step with
      | wait duration =>
          have hyoung := hspares _ h
          omega
      | sweep maxAge =>
          obtain rfl := List.mem_singleton.1 h
          have hyoung : s.now - e.created ≤ maxAge := hspares
          omega
      | request r => cases h
      | startSweeper interval maxAge => cases h
      | clear => cases h
      | settle => cases h

/-- A step that spares an entry leaves it where it is, and may add to it. -/
theorem extends_perform (hs : (s.mounts.map Mount.path).Nodup) (clock : Nat → String)
    {step : Step} (he : s.lookup? path kind key = some e)
    (hspares : s.Spares path key e.created step) :
    ∃ e', (s.perform clock step).lookup? path kind key = some e' ∧ e.Extends e' := by
  rcases (change_perform hs clock path kind key step).extends he with hextends | ⟨-, hleaves⟩
  · exact hextends
  · exact absurd hleaves hspares.not_leaves

/-- **An entry that is spared stays**, and keeps its functions, whatever else happens in a run. -/
theorem lookup?_after_of_spares (hs : (s.mounts.map Mount.path).Nodup) (clock : Nat → String)
    {steps : List Step} (he : s.lookup? path kind key = some e)
    (hspares : s.Throughout clock (Spares path key e.created) steps) :
    ∃ e', (s.after clock steps).lookup? path kind key = some e' ∧ e.Extends e' := by
  induction steps generalizing s e with
  | nil => exact ⟨e, he, .refl e⟩
  | cons step rest ih =>
      obtain ⟨hstep, hrest⟩ := hspares
      obtain ⟨e₁, he₁, hextends₁⟩ := extends_perform hs clock he hstep
      rw [← hextends₁.created] at hrest
      obtain ⟨e₂, he₂, hextends₂⟩ := ih (paths_nodup_perform hs clock step) he₁ hrest
      exact ⟨e₂, he₂, hextends₁.trans hextends₂⟩

/-! ## Sessions without entries -/

/-- The session of an application has no entries, whatever the kind and the assistant. -/
def Vacant (path session : String) (s : State) : Prop :=
  ∀ kind assistant, s.lookup? path kind ⟨session, assistant⟩ = none

/-- Only a request for an assistant can give a session entries. -/
theorem vacant_perform {session : String} (hs : (s.mounts.map Mount.path).Nodup)
    (clock : Nat → String) {step : Step} (h : s.Vacant path session)
    (hstep : ¬ s.StepPosts path .assistantRequest session step) :
    (s.perform clock step).Vacant path session := by
  intro kind assistant
  have hnone := h kind assistant
  rcases change_perform hs clock path kind ⟨session, assistant⟩ step with
    hsame | ⟨_, hgone, _⟩ | ⟨_, _, _, hposts⟩ | ⟨hfound, _, _, _⟩
  · exact hsame.trans hnone
  · exact hgone
  · exact absurd hposts hstep
  · rw [hnone] at hfound
    cases hfound

/-- **A session without entries stays without**, until an assistant is asked for in its name. -/
theorem vacant_after {session : String} (hs : (s.mounts.map Mount.path).Nodup)
    (clock : Nat → String) {steps : List Step} (h : s.Vacant path session)
    (hsteps : s.Throughout clock
      (fun s step => ¬ s.StepPosts path .assistantRequest session step) steps) :
    (s.after clock steps).Vacant path session := by
  induction steps generalizing s with
  | nil => exact h
  | cons step rest ih =>
      obtain ⟨hstep, hrest⟩ := hsteps
      exact ih (paths_nodup_perform hs clock step) (vacant_perform hs clock h hstep) hrest

end State

end Switchboard

import Switchboard.Proofs.Service.Batch
import Switchboard.Proofs.Service.Containment
import Switchboard.Proofs.Service.Entries
import Switchboard.Proofs.Tool.Draft

/-!
# Errors with a wording

Supplied code can return an error whose wording panics. This file says what it is not to meet such
an error.

* `Fault.Worded`: an error that has a wording, with all its causes.
* `Responds`: how the responder of a message ends.
* `MeetsWorded`, `State.Speaks`: every error that a message or a request meets has a wording.
* `State.Worded`: the errors of all responders of a service, and of all tools in its caches, have a
  wording. No step ends that (`Worded.perform`).
* **`throughout_speaks`**: no run of such a service meets an error without a wording.
-/

namespace Switchboard

/-! ## Errors -/

/-- The error and all its causes have a wording. -/
def Fault.Worded (f : Fault) : Prop := ∀ text ∈ f.text :: f.causes, ∃ s, text = .ok s

/-- A fault made of a text has a wording. -/
theorem Fault.worded_ofText (s : String) : (Fault.ofText s).Worded := by
  intro text htext
  obtain rfl := List.mem_singleton.1 htext
  exact ⟨s, rfl⟩

/-- Causes that all have a wording have one together. -/
theorem Fault.appendCauses_of_worded {texts : List Rendering}
    (h : ∀ text ∈ texts, ∃ s, text = .ok s) (acc : String) :
    ∃ s, Fault.appendCauses acc texts = .ok s := by
  induction texts generalizing acc with
  | nil => exact ⟨acc, rfl⟩
  | cons text rest ih =>
      obtain ⟨⟨s, rfl⟩, hrest⟩ := List.forall_mem_cons.1 h
      exact ih hrest _

/-! ## What a message meets -/

/-- **How a responder ends** that a message is handed to. -/
inductive Responds (now : Nat) (app : Application) (cs : Caches) (payload : Json) :
    Outcome Json → Prop where
  | assistant {responder : AssistantRequest → Script} {session : String}
      (htype : RequestType.ofPayload payload = .assistantRequest)
      (hresponder : app.assistant = some responder)
      (hsession : sessionOf? (messageOf payload) = some session) :
      Responds now app cs payload
        ((responder ⟨session, app.serverPath, payload⟩).run session now cs).2
  | transfer {responder : Json → Outcome Json}
      (htype : RequestType.ofPayload payload = .transferDestinationRequest)
      (hresponder : app.transfer = some responder) :
      Responds now app cs payload (responder payload)

/-- **Every error that a message meets has a wording**: those of the handlers that it runs and that
of its responder. -/
structure MeetsWorded (now : Nat) (app : Application) (cs : Caches) (payload : Json) : Prop where
  calls : ∀ {t kind entry key calls}, Asks cs payload t kind entry key calls →
    ∀ c ∈ calls, ∀ p, ¬ c.Unspeakable entry p
  responder : ∀ {f}, Responds now app cs payload (.failed f) → f.Worded

/-! ## Services whose errors have a wording -/

/-- Every error of the handler has a wording. -/
def ToolDefinition.Worded (d : ToolDefinition) : Prop :=
  ∀ as f, d.handler as = .failed f → ∃ s, f.text = .ok s

/-- Whatever becomes of its registrations, the responder registers tools with worded errors, and its
own error has a wording. -/
inductive Script.Worded : Script → Prop where
  | finish {outcome : Outcome Json} (h : ∀ f, outcome = .failed f → f.Worded) :
      Worded (.finish outcome)
  | register {kind : CacheKind} {assistant : String} {d : ToolDefinition}
      {next : Except CacheError Unit → Script} (hd : d.Worded)
      (hnext : ∀ result, (next result).Worded) :
      Worded (.register kind assistant d next)

/-- The errors of the responders of the application, and of all tools that they register, have a
wording. -/
structure Application.Worded (app : Application) : Prop where
  assistant : ∀ responder request, app.assistant = some responder → (responder request).Worded
  transfer : ∀ responder payload f, app.transfer = some responder →
    responder payload = .failed f → f.Worded

/-- The errors of all tools in the caches have a wording. -/
def Caches.Worded (cs : Caches) : Prop :=
  ∀ kind key e, (cs.of kind).entries.get? key = some e → e.Worded

/-- The errors of all responders and tools of the service have a wording. -/
structure State.Worded (s : State) : Prop where
  applications : ∀ app ∈ s.applications, app.Worded
  caches : ∀ path cs, s.caches? path = some cs → cs.Worded

section worded

variable {cs cs' : Caches}

/-- New caches hold nothing whose error could lack a wording. -/
theorem Caches.worded_new : Caches.new.Worded := by
  intro kind key e he
  cases kind <;> cases he

/-- Caches with fewer entries keep worded errors. -/
theorem Caches.Worded.of_subset (h : cs.Worded)
    (hsubset : ∀ kind key e, (cs'.of kind).entries.get? key = some e →
      (cs.of kind).entries.get? key = some e) : cs'.Worded :=
  fun kind key e he => h kind key e (hsubset kind key e he)

/-- The end of a session leaves worded errors. -/
theorem Caches.Worded.removeSession (h : cs.Worded) (session : String) :
    (cs.removeSession session).2.Worded := by
  refine h.of_subset fun kind key e he => ?_
  rw [of_removeSession, FunctionCache.get?_removeSession] at he
  split at he
  · cases he
  · exact he

/-- A purge leaves worded errors. -/
theorem Caches.Worded.purge (h : cs.Worded) (now maxAge : Nat) :
    (cs.purge now maxAge).2.Worded := by
  refine h.of_subset fun kind key e he => ?_
  rw [of_purge, FunctionCache.get?_purge] at he
  exact (Option.filter_eq_some_iff.1 he).1

/-- Cleared caches have worded errors. -/
theorem Caches.Worded.clear (cs : Caches) : cs.clear.Worded := by
  intro kind key e he
  rw [of_clear] at he
  cases he

/-- Sweeps leave worded errors. -/
theorem Caches.Worded.sweepCaches (h : cs.Worded) (sweeps : List (Nat × Nat)) :
    (State.sweepCaches sweeps cs).Worded := by
  induction sweeps generalizing cs with
  | nil => exact h
  | cons sweep rest ih => exact ih (h.purge sweep.1 sweep.2)

/-- A registration of a tool with worded errors leaves worded errors. -/
theorem Caches.Worded.add {kind : CacheKind} {now : Nat} {key : CacheKey} {d : ToolDefinition}
    (h : cs.Worded) (hd : d.Worded) (hadd : cs.add kind now key d = .ok cs') : cs'.Worded := by
  obtain ⟨e, he, -, hget⟩ := add_eq_ok hadd
  have hold : e.Worded := by
    subst he
    cases hkey : (cs.of kind).entries.get? key with
    | some old => exact h kind key old hkey
    | none =>
        intro name d' as f hd'
        cases hd'
  intro kind' key' e' he'
  rw [hget] at he'
  split at he'
  · -- the entry that gets the function
    cases he'
    intro name d' as f hd' hf
    rw [Entry.get?_insert] at hd'
    split at hd'
    · cases hd'
      exact hd as f hf
    · exact hold name d' as f hd' hf
  · exact h kind' key' e' he'

/-- A responder with worded errors leaves caches with worded errors, and its own error has a
wording. -/
theorem Script.Worded.run {script : Script} (hscript : script.Worded) (session : String) (now : Nat)
    (h : cs.Worded) :
    (script.run session now cs).1.Worded ∧
      ∀ f, (script.run session now cs).2 = .failed f → f.Worded := by
  induction hscript generalizing cs with
  | finish hfinish => exact ⟨h, hfinish⟩
  | @register kind assistant d next hd _ ih =>
      unfold Script.run
      cases hadd : cs.add kind now ⟨session, assistant⟩ d with
      | error e => exact ih _ h
      | ok cs₁ => exact ih _ (h.add hd hadd)

/-- A responder that registers tools with worded errors, in order, has worded errors. -/
theorem Script.worded_ofRegistrations {last : Outcome Json}
    (hlast : ∀ f, last = .failed f → f.Worded) {registrations : List Registration}
    (h : ∀ r ∈ registrations, ∀ d, r.draft.build = .ok d → d.Worded) :
    (Script.ofRegistrations last registrations).Worded := by
  have hfailure : ∀ text, (Script.finish (.failed (.ofText text))).Worded := by
    intro text
    refine .finish fun f hf => ?_
    cases hf
    exact Fault.worded_ofText text
  induction registrations with
  | nil => exact .finish hlast
  | cons r rest ih =>
      obtain ⟨hr, hrest⟩ := List.forall_mem_cons.1 h
      unfold Script.ofRegistrations
      cases hbuild : r.draft.build with
      | error e => exact hfailure _
      | ok d =>
          refine .register (hr d hbuild) fun result => ?_
          cases result with
          | ok _ => exact ih hrest
          | error e => exact hfailure _

end worded

namespace State

variable {s : State} {m : Mount}

/-- Every error that serving the request meets has a wording. -/
def Speaks (s : State) (r : Request) : Prop :=
  ∀ m payload, s.accepted? r = some (m, payload) →
    MeetsWorded s.now m.application m.caches payload

/-- Every error that a step meets has a wording. -/
def StepSpeaks (s : State) (step : Step) : Prop := ∀ r, step.request? = some r → s.Speaks r

/-- Where a service has worded errors, each of its applications has, and its caches. -/
theorem Worded.of_mem (h : s.Worded) (hs : (s.mounts.map Mount.path).Nodup) (hm : m ∈ s.mounts) :
    m.application.Worded ∧ m.caches.Worded :=
  ⟨h.applications _ (List.mem_map_of_mem hm), h.caches _ _ (caches?_of_mem hs hm)⟩

/-- A service without errors that lack a wording meets none. -/
theorem Worded.speaks (h : s.Worded) (hs : (s.mounts.map Mount.path).Nodup) (r : Request) :
    s.Speaks r := by
  intro m payload haccepted
  obtain ⟨happ, hcaches⟩ := h.of_mem hs (mem_of_accepted? haccepted)
  constructor
  case calls =>
    intro t kind entry key calls hasks c _ p
    cases hasks with
    | tools _ _ _ hentry _ =>
        exact (hcaches .toolCall _ _ (FunctionCache.get_eq_ok_iff.1 hentry)).not_unspeakable
    | function _ _ _ hentry _ =>
        exact (hcaches .function _ _ (FunctionCache.get_eq_ok_iff.1 hentry)).not_unspeakable
  case responder =>
    intro f hresponds
    generalize ho : Outcome.failed f = o at hresponds
    cases hresponds with
    | assistant _ hresponder _ =>
        exact ((happ.assistant _ _ hresponder).run _ _ hcaches).2 f ho.symm
    | transfer _ hresponder => exact happ.transfer _ _ f hresponder ho.symm

/-- What is done to the caches of every application leaves the service worded if it leaves the
caches so. -/
theorem Worded.of_caches? {s' : State} (h : s.Worded)
    (happlications : s'.applications = s.applications)
    (hcaches : ∀ path cs', s'.caches? path = some cs' → ∃ cs, s.caches? path = some cs ∧
      (cs.Worded → cs'.Worded)) : s'.Worded := by
  constructor
  · rw [happlications]
    exact h.applications
  · intro path cs' hcs'
    obtain ⟨cs, hcs, hworded⟩ := hcaches path cs' hcs'
    exact hworded (h.caches path cs hcs)

/-- Every step leaves worded errors. -/
theorem Worded.perform (h : s.Worded) (hs : (s.mounts.map Mount.path).Nodup)
    (clock : Nat → String) (step : Step) : (s.perform clock step).Worded := by
  have hmapped : ∀ {s' : State} {f : Caches → Caches}, s'.applications = s.applications →
      (∀ path, s'.caches? path = (s.caches? path).map f) →
      (∀ cs : Caches, cs.Worded → (f cs).Worded) → s'.Worded := by
    intro s' f happlications hcaches hf
    refine h.of_caches? happlications fun path cs' hcs' => ?_
    rw [hcaches] at hcs'
    obtain ⟨cs, hcs, rfl⟩ := Option.map_eq_some_iff.1 hcs'
    exact ⟨cs, hcs, hf cs⟩
  have hmounts : ∀ {s' : State}, s'.mounts = s.mounts → s'.Worded := by
    intro s' hmounts
    refine h.of_caches? (congrArg (List.map Mount.application) hmounts) fun path cs hcs =>
      ⟨cs, ?_, id⟩
    rw [← hcs, caches?, caches?, mount?, mount?, hmounts]
  have happlications := applications_perform clock s step
  cases step with
  | request r =>
      show (s.serve clock r).2.Worded
      cases haccepted : s.accepted? r with
      | none =>
          rw [serve_of_not_accepted hs haccepted]
          split
          · exact hmapped (applications_clearCaches s) (caches?_clearCaches s)
              fun cs _ => Caches.Worded.clear cs
          · exact h
      | some a =>
          obtain ⟨m, payload⟩ := a
          obtain ⟨happ, hcaches⟩ := h.of_mem hs (mem_of_accepted? haccepted)
          have hdispatched : (s.dispatched m payload).caches.Worded := by
            rcases caches_dispatch_cases s.settings.production s.now m.application m.caches
                (RequestType.ofPayload payload) payload with
              hsame | ⟨responder, session, -, hresponder, -, hrun⟩ |
                ⟨session, -, -, -, hremoved⟩
            · rw [dispatched, hsame]
              exact hcaches
            · rw [dispatched, hrun]
              exact ((happ.assistant _ _ hresponder).run _ _ hcaches).1
            · rw [dispatched, hremoved]
              exact hcaches.removeSession session
          refine h.of_caches? happlications fun path cs' hcs' => ?_
          rw [caches?_serve haccepted] at hcs'
          obtain ⟨cs, hcs, rfl⟩ := Option.map_eq_some_iff.1 hcs'
          refine ⟨cs, hcs, fun hold => ?_⟩
          split
          · exact hdispatched
          · exact hold
  | wait duration =>
      exact hmapped happlications (caches?_wait s duration) fun cs hcs => hcs.sweepCaches _
  | sweep maxAge =>
      exact hmapped happlications (caches?_purgeAll s maxAge) fun cs hcs => hcs.purge _ _
  | startSweeper interval maxAge => exact hmounts (startPurge_frame s interval maxAge).2.1
  | clear => exact hmapped happlications (caches?_clearCaches s) fun cs _ => Caches.Worded.clear cs
  | settle => exact hmounts (settle_frame s).2.1

/-- **No run of a worded service meets an error without a wording.** -/
theorem throughout_speaks (h : s.Worded) (hs : (s.mounts.map Mount.path).Nodup)
    (clock : Nat → String) (steps : List Step) : s.Throughout clock StepSpeaks steps := by
  induction steps generalizing s with
  | nil => trivial
  | cons step rest ih =>
      exact ⟨fun r _ => h.speaks hs r,
        ih (h.perform hs clock step) (paths_nodup_perform hs clock step)⟩

/-- The weather service has worded errors. -/
theorem worded_weatherService : weatherService.Worded := by
  constructor
  case applications =>
    intro app happ
    obtain rfl : app = Weather.application {} := List.mem_singleton.1 happ
    refine ⟨fun responder request hresponder => ?_, fun _ _ _ htransfer => by cases htransfer⟩
    obtain rfl : Weather.responder = responder := Option.some.inj hresponder
    apply Script.worded_ofRegistrations
    · intro f hf
      cases hf
    · intro r hr d hbuild
      obtain rfl := List.mem_singleton.1 hr
      have hhandler : some Weather.handler = some d.handler :=
        (ToolDraft.declares_of_build hbuild).handler_eq
      intro as f hf
      rw [← Option.some.inj hhandler, Weather.handler] at hf
      split at hf <;> cases hf <;> exact ⟨_, rfl⟩
  case caches =>
    intro path cs hcs
    obtain ⟨m, hm, rfl⟩ := Option.map_eq_some_iff.1 hcs
    obtain rfl := List.mem_singleton.1 (List.mem_of_find?_eq_some hm)
    exact Caches.worded_new

end State

end Switchboard

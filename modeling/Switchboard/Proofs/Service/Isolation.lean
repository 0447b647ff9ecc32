import Switchboard.Proofs.Cache.Sessions
import Switchboard.Proofs.Service.Run
import Switchboard.Service.Weather

/-!
# Sessions and applications do not interfere

Two states *agree* for a session of an application (`State.AgreeOn`) if they differ at most in what
other applications and other sessions have in the caches, and in what has been counted and put on
the queue.

* `dispatch_congr`, `dispatch_seenBy`: a message of the session is answered alike where it sees the
  same of the caches, and a message of another session does nothing that it sees.
* `AgreeOn.perform`, `agreeOn_serve`: a step that is not foreign to the session keeps states in
  agreement, and is answered alike; a foreign request leads to a state in agreement.
* **`undisturbed`**: what a run answers to a session of an application, and what it leaves in the
  caches for it, does not depend on the posts of others in that run.

Sessions are told apart by the whole id of the call, so `a` and `a/b` are as different as any two,
though keys of theirs can have the same display text (`CacheKey.display_not_injective`).
-/

namespace Switchboard

/-! ## Messages -/

/-- The id of a call that a payload names, be it empty. -/
def callIdOf? (payload : Json) : Option String :=
  (payload.at? ["message", "call", "id"]).bind Json.str?

/-- The id of a call that the body of a webhook names. -/
def callId? (body : List UInt8) : Option String := (Json.ofBytes body).toOption.bind callIdOf?

section messages

variable {payload : Json} {session : String}

/-- The session of a message is the id of its call, if that is not empty. -/
theorem sessionOf?_message (payload : Json) :
    sessionOf? ((payload.get? "message").getD .null) =
      (callIdOf? payload).filter fun id => !id.isEmpty := by
  have hpath : payload.at? ["message", "call", "id"] =
      (payload.get? "message").bind (Json.at? ["call", "id"]) := rfl
  unfold sessionOf? callIdOf?
  rw [hpath]
  cases payload.get? "message" with
  | none => rfl
  | some message => rfl

/-- A message of a call has no session or that of the call. -/
theorem sessionOf?_of_callIdOf? (h : callIdOf? payload = some session) :
    sessionOf? ((payload.get? "message").getD .null) = none ∨
      sessionOf? ((payload.get? "message").getD .null) = some session := by
  rw [sessionOf?_message, h, Option.filter_some]
  split
  · exact .inr rfl
  · exact .inl rfl

/-- A message with a session is of the call with this id. -/
theorem callIdOf?_of_sessionOf?
    (h : sessionOf? ((payload.get? "message").getD .null) = some session) :
    callIdOf? payload = some session := by
  rw [sessionOf?_message] at h
  exact (Option.filter_eq_some_iff.1 h).1

end messages

/-! ## Answering one message -/

section dispatching

variable {cs cs' : Caches} {session : String} {message : Json}

/-- Calls of tools only read the caches. -/
theorem caches_dispatchToolCalls (cs : Caches) (message : Json) :
    (dispatchToolCalls cs message).caches = cs := by
  unfold dispatchToolCalls
  cases keyOf message with
  | error e => rfl
  | ok key =>
      dsimp only
      cases cs.tools.get key with
      | error e => rfl
      | ok entry => cases (message.get? "toolCallList").bind Json.arr? <;> rfl

/-- So do calls of functions. -/
theorem caches_dispatchFunctionCall (cs : Caches) (message : Json) :
    (dispatchFunctionCall cs message).caches = cs := by
  unfold dispatchFunctionCall
  cases keyOf message with
  | error e => rfl
  | ok key =>
      dsimp only
      cases cs.functions.get key with
      | error e => rfl
      | ok entry => cases message.get? "functionCall" <;> rfl

/-- A request for a transfer leaves the caches. -/
theorem caches_dispatchTransfer (production : Bool) (app : Application) (cs : Caches)
    (payload : Json) :
    (dispatchTransfer production app cs payload).caches = cs := by
  unfold dispatchTransfer
  cases app.transfer <;> rfl

/-- A responder registers under the session that it is asked for. -/
theorem dispatchAssistant_seenBy
    (hs : ∀ other, sessionOf? message = some other → other ≠ session) (production : Bool)
    (now : Nat) (app : Application) (cs : Caches) (payload : Json) :
    (dispatchAssistant production now app cs payload message).caches.seenBy session =
      cs.seenBy session := by
  unfold dispatchAssistant
  cases app.assistant with
  | none => rfl
  | some responder =>
      cases hother : sessionOf? message with
      | none => rfl
      | some other => exact Script.seenBy_run _ (hs other hother) now cs

/-- The end of a call takes out what the call itself has registered. -/
theorem dispatchEndOfCall_seenBy
    (hs : ∀ other, sessionOf? message = some other → other ≠ session) (app : Application)
    (cs : Caches) :
    (dispatchEndOfCall app cs message).caches.seenBy session = cs.seenBy session := by
  unfold dispatchEndOfCall acknowledge Dispatch.ended
  dsimp only
  split
  · cases hother : sessionOf? message with
    | none => rfl
    | some other =>
        funext kind
        dsimp only
        rw [Caches.seenBy_removeSession, if_neg (hs other hother).symm]
  · rfl

/-- A request for an assistant comes to the same where its session sees the same, and leaves it
seeing the same. -/
theorem dispatchAssistant_congr (h : cs.seenBy session = cs'.seenBy session)
    (hs : sessionOf? message = none ∨ sessionOf? message = some session)
    (production : Bool) (now : Nat) (app : Application) (payload : Json) :
    (dispatchAssistant production now app cs payload message).ending =
        (dispatchAssistant production now app cs' payload message).ending ∧
      (dispatchAssistant production now app cs payload message).caches.seenBy session =
        (dispatchAssistant production now app cs' payload message).caches.seenBy session := by
  unfold dispatchAssistant
  cases app.assistant with
  | none => exact ⟨rfl, h⟩
  | some responder =>
      rcases hs with hs | hs
      · rw [hs]
        exact ⟨rfl, h⟩
      · rw [hs]
        obtain ⟨houtcome, hcaches⟩ :=
          (responder ⟨session, app.serverPath, payload⟩).run_congr now h
        refine ⟨?_, hcaches⟩
        show endingOf _ _ _ _ = endingOf _ _ _ _
        rw [houtcome]

/-- A batch comes to the same where its session sees the same, and leaves it seeing the same. -/
theorem dispatchToolCalls_congr (h : cs.seenBy session = cs'.seenBy session)
    (hs : sessionOf? message = none ∨ sessionOf? message = some session) :
    (dispatchToolCalls cs message).ending = (dispatchToolCalls cs' message).ending ∧
      (dispatchToolCalls cs message).caches.seenBy session =
        (dispatchToolCalls cs' message).caches.seenBy session := by
  rw [caches_dispatchToolCalls, caches_dispatchToolCalls]
  refine ⟨?_, h⟩
  have hget : cs.tools.get ⟨session, assistantOf message⟩ =
      cs'.tools.get ⟨session, assistantOf message⟩ :=
    FunctionCache.get_congr (congrFun h .toolCall) (assistantOf message)
  unfold dispatchToolCalls keyOf
  rcases hs with hs | hs
  · rw [hs]
    rfl
  · simp only [hs, hget]
    cases cs'.tools.get ⟨session, assistantOf message⟩ with
    | error e => rfl
    | ok entry => cases (message.get? "toolCallList").bind Json.arr? <;> rfl

/-- A function call comes to the same where its session sees the same, and leaves it seeing the
same. -/
theorem dispatchFunctionCall_congr (h : cs.seenBy session = cs'.seenBy session)
    (hs : sessionOf? message = none ∨ sessionOf? message = some session) :
    (dispatchFunctionCall cs message).ending = (dispatchFunctionCall cs' message).ending ∧
      (dispatchFunctionCall cs message).caches.seenBy session =
        (dispatchFunctionCall cs' message).caches.seenBy session := by
  rw [caches_dispatchFunctionCall, caches_dispatchFunctionCall]
  refine ⟨?_, h⟩
  have hget : cs.functions.get ⟨session, assistantOf message⟩ =
      cs'.functions.get ⟨session, assistantOf message⟩ :=
    FunctionCache.get_congr (congrFun h .function) (assistantOf message)
  unfold dispatchFunctionCall keyOf
  rcases hs with hs | hs
  · rw [hs]
    rfl
  · simp only [hs, hget]
    cases cs'.functions.get ⟨session, assistantOf message⟩ with
    | error e => rfl
    | ok entry => cases message.get? "functionCall" <;> rfl

/-- The report of the end of a call comes to the same where its session sees the same, and leaves it
seeing the same. -/
theorem dispatchEndOfCall_congr (h : cs.seenBy session = cs'.seenBy session) (app : Application) :
    (dispatchEndOfCall app cs message).ending = (dispatchEndOfCall app cs' message).ending ∧
      (dispatchEndOfCall app cs message).caches.seenBy session =
        (dispatchEndOfCall app cs' message).caches.seenBy session := by
  refine ⟨rfl, ?_⟩
  unfold dispatchEndOfCall acknowledge Dispatch.ended
  dsimp only
  split
  · cases sessionOf? message with
    | none => exact h
    | some ended => exact Caches.removeSession_congr h ended
  · exact h

/-- **A message of a session is answered from what the session sees**, whatever its type. -/
theorem dispatch_congr {payload : Json} (h : cs.seenBy session = cs'.seenBy session)
    (hs : callIdOf? payload = some session) (production : Bool) (now : Nat) (app : Application)
    (t : RequestType) :
    (dispatch production now app cs t payload).ending =
        (dispatch production now app cs' t payload).ending ∧
      (dispatch production now app cs t payload).caches.seenBy session =
        (dispatch production now app cs' t payload).caches.seenBy session := by
  have hs := sessionOf?_of_callIdOf? hs
  cases t
  case assistantRequest => exact dispatchAssistant_congr h hs production now app payload
  case toolCalls => exact dispatchToolCalls_congr h hs
  case functionCall => exact dispatchFunctionCall_congr h hs
  case endOfCallReport => exact dispatchEndOfCall_congr h app
  case transferDestinationRequest =>
    show (dispatchTransfer production app cs payload).ending =
        (dispatchTransfer production app cs' payload).ending ∧ _
    unfold dispatch dispatchTransfer
    cases app.transfer <;> exact ⟨rfl, h⟩
  all_goals exact ⟨rfl, h⟩

/-- **A message of another session does nothing that a session sees.** -/
theorem dispatch_seenBy {payload : Json} (hs : callIdOf? payload ≠ some session)
    (production : Bool) (now : Nat) (app : Application) (cs : Caches) (t : RequestType) :
    (dispatch production now app cs t payload).caches.seenBy session = cs.seenBy session := by
  have hs : ∀ other, sessionOf? ((payload.get? "message").getD .null) = some other →
      other ≠ session := by
    rintro other h rfl
    exact hs (callIdOf?_of_sessionOf? h)
  cases t
  case assistantRequest => exact dispatchAssistant_seenBy hs production now app cs payload
  case toolCalls => exact congrArg (Caches.seenBy session) (caches_dispatchToolCalls cs _)
  case functionCall => exact congrArg (Caches.seenBy session) (caches_dispatchFunctionCall cs _)
  case endOfCallReport => exact dispatchEndOfCall_seenBy hs app cs
  case transferDestinationRequest =>
    exact congrArg (Caches.seenBy session) (caches_dispatchTransfer production app cs payload)
  all_goals rfl

/-- What is counted has no influence on a response. -/
theorem conclude_congr (production : Bool) (app : Application) (m m' : Metrics) (t : RequestType)
    (ending : Ending) :
    (conclude production app m t ending).1 = (conclude production app m' t ending).1 := by
  cases ending with
  | answered answer => rfl
  | unwound p => rfl
  | refused e =>
      unfold conclude
      dsimp only
      cases e.render production <;> rfl

/-- **A post is handled alike** where its session sees the same, whatever has been counted. -/
theorem handle_congr {body : List UInt8} (h : cs.seenBy session = cs'.seenBy session)
    (hs : callId? body = some session) (production : Bool) (now : Nat) (app : Application)
    (m m' : Metrics) :
    (handle production now app cs m body).response =
      (handle production now app cs' m' body).response ∧
      (handle production now app cs m body).caches.seenBy session =
        (handle production now app cs' m' body).caches.seenBy session := by
  unfold callId? at hs
  unfold handle
  cases hbody : Json.ofBytes body with
  | error e =>
      rw [hbody] at hs
      cases hs
  | ok payload =>
      rw [hbody] at hs
      obtain ⟨hending, hcaches⟩ :=
        dispatch_congr h hs production now app (RequestType.ofPayload payload)
      refine ⟨?_, hcaches⟩
      show (conclude production app _ _ (dispatch production now app cs _ payload).ending).1 = _
      rw [hending]
      exact conclude_congr _ _ _ _ _ _

/-- **A post of another call** changes nothing that a session sees. -/
theorem handle_seenBy {body : List UInt8} (hs : callId? body ≠ some session) (production : Bool)
    (now : Nat) (app : Application) (cs : Caches) (m : Metrics) :
    (handle production now app cs m body).caches.seenBy session = cs.seenBy session := by
  unfold callId? at hs
  unfold handle
  cases hbody : Json.ofBytes body with
  | error e => rfl
  | ok payload =>
      rw [hbody] at hs
      exact dispatch_seenBy hs production now app cs _

end dispatching

namespace State

/-! ## States in agreement -/

/-- The states agree on all that a session of the application with a path can see. -/
structure AgreeOn (path session : String) (s s' : State) : Prop where
  settings : s.settings = s'.settings
  applications : s.applications = s'.applications
  now : s.now = s'.now
  purgeTasks : s.purgeTasks = s'.purgeTasks
  seen : (s.caches? path).map (Caches.seenBy session) =
    (s'.caches? path).map (Caches.seenBy session)

variable {path session : String} {s s' s'' : State}

/-- A service agrees with itself. -/
theorem AgreeOn.refl (s : State) : s.AgreeOn path session s := ⟨rfl, rfl, rfl, rfl, rfl⟩

/-- Agreement is mutual. -/
theorem AgreeOn.symm (h : s.AgreeOn path session s') : s'.AgreeOn path session s :=
  ⟨h.settings.symm, h.applications.symm, h.now.symm, h.purgeTasks.symm, h.seen.symm⟩

/-- Services that agree with the same one agree with each other. -/
theorem AgreeOn.trans (h : s.AgreeOn path session s') (h' : s'.AgreeOn path session s'') :
    s.AgreeOn path session s'' :=
  ⟨h.settings.trans h'.settings, h.applications.trans h'.applications, h.now.trans h'.now,
    h.purgeTasks.trans h'.purgeTasks, h.seen.trans h'.seen⟩

/-- Where services agree on a session its look-ups find the same. -/
theorem AgreeOn.lookup?_eq (h : s.AgreeOn path session s') (kind : CacheKind) (assistant : String) :
    s.lookup? path kind ⟨session, assistant⟩ =
      s'.lookup? path kind ⟨session, assistant⟩ := by
  have hview : ∀ s : State, s.lookup? path kind ⟨session, assistant⟩ =
      ((s.caches? path).map (Caches.seenBy session)).bind fun view => (view kind).2 assistant := by
    intro s
    rw [lookup?, Option.bind_map]
    rfl
  rw [hview, hview, h.seen]

/-- Services that agree have the same paths, which are distinct in both if they are in one. -/
theorem AgreeOn.paths_nodup (h : s.AgreeOn path session s') (hs : (s.mounts.map Mount.path).Nodup) :
    (s'.mounts.map Mount.path).Nodup := by
  rwa [paths_eq, ← h.applications, ← paths_eq]

/-- What is done alike to caches that look alike keeps them so. -/
theorem seen_map {o o' : Option Caches} {f g : Caches → Caches}
    (h : o.map (Caches.seenBy session) = o'.map (Caches.seenBy session))
    (hfg : ∀ cs cs', cs.seenBy session = cs'.seenBy session →
      (f cs).seenBy session = (g cs').seenBy session) :
    (o.map f).map (Caches.seenBy session) = (o'.map g).map (Caches.seenBy session) := by
  cases o with
  | none =>
      cases o' with
      | none => rfl
      | some cs' => cases h
  | some cs =>
      cases o' with
      | none => cases h
      | some cs' => exact congrArg some (hfg cs cs' (Option.some.inj h))

/-! ## Steps that are not requests -/

/-- Services go on to agree when their caches are cleared. -/
theorem AgreeOn.clearCaches (h : s.AgreeOn path session s') :
    s.clearCaches.AgreeOn path session s'.clearCaches := by
  refine ⟨h.settings, ?_, h.now, h.purgeTasks, ?_⟩
  · rw [applications_clearCaches, applications_clearCaches, h.applications]
  · rw [caches?_clearCaches, caches?_clearCaches]
    exact seen_map h.seen fun _ _ => Caches.clear_congr

/-- Services go on to agree when a sweep is made. -/
theorem AgreeOn.purgeAll (h : s.AgreeOn path session s') (maxAge : Nat) :
    (s.purgeAll maxAge).2.AgreeOn path session (s'.purgeAll maxAge).2 := by
  refine ⟨h.settings, ?_, h.now, h.purgeTasks, ?_⟩
  · rw [applications_purgeAll, applications_purgeAll, h.applications]
  · rw [caches?_purgeAll, caches?_purgeAll, h.now]
    exact seen_map h.seen fun _ _ hcs => Caches.purge_congr hcs _ _

/-- What a session sees of caches decides what it sees of them after sweeps. -/
theorem sweepCaches_congr {cs cs' : Caches} (h : cs.seenBy session = cs'.seenBy session)
    (sweeps : List (Nat × Nat)) :
    (sweepCaches sweeps cs).seenBy session = (sweepCaches sweeps cs').seenBy session := by
  unfold sweepCaches
  induction sweeps generalizing cs cs' with
  | nil => exact h
  | cons sweep rest ih => exact ih (Caches.purge_congr h sweep.1 sweep.2)

/-- Services go on to agree while time passes. -/
theorem AgreeOn.wait (h : s.AgreeOn path session s') (duration : Nat) :
    (s.wait duration).AgreeOn path session (s'.wait duration) := by
  have hdue : ∀ t, s.dueSweeps t = s'.dueSweeps t := by
    intro t
    unfold dueSweeps
    rw [h.purgeTasks]
  refine ⟨?_, ?_, ?_, ?_, ?_⟩
  · rw [settings_wait, settings_wait, h.settings]
  · rw [applications_wait, applications_wait, h.applications]
  · show s.now + duration = s'.now + duration
    rw [h.now]
  · show s.purgeTasks.map _ = s'.purgeTasks.map _
    rw [h.purgeTasks, h.now]
  · rw [caches?_wait, caches?_wait, h.now, hdue]
    exact seen_map h.seen fun _ _ hcs => sweepCaches_congr hcs _

/-- Services go on to agree when a sweeper is started. -/
theorem AgreeOn.startPurge (h : s.AgreeOn path session s') (interval maxAge : Nat) :
    (s.startPurge interval maxAge).2.AgreeOn path session (s'.startPurge interval maxAge).2 := by
  have hstart : Sweeper.start? s.now (Sweeper.pause interval) =
      Sweeper.start? s'.now (Sweeper.pause interval) := by rw [h.now]
  unfold State.startPurge
  rw [hstart]
  cases Sweeper.start? s'.now (Sweeper.pause interval) with
  | none => exact h
  | some sweeper =>
      refine ⟨h.settings, h.applications, h.now, ?_, h.seen⟩
      show s.purgeTasks ++ _ = s'.purgeTasks ++ _
      rw [h.purgeTasks]

/-- The worker does nothing that a session sees. -/
theorem agreeOn_settle (s : State) : s.AgreeOn path session s.settle := by
  obtain ⟨hsettings, hmounts, hnow, htasks⟩ := settle_frame s
  refine ⟨hsettings.symm, ?_, hnow.symm, htasks.symm, ?_⟩
  · rw [applications, applications, hmounts]
  · rw [caches?, caches?, mount?, mount?, hmounts]

/-! ## Requests -/

/-- **A post that has nothing to do with a session of an application**: it leads to another
application, or it does not name that session as its call. -/
def isForeign (path session : String) (s : State) (r : Request) : Bool :=
  r.method = "POST" && (s.webhook? r).any fun m => !(m.path = path && callId? r.body = some session)

/-- Whether a post is foreign is a matter of the settings and the applications. -/
theorem isForeign_congr (hsettings : s.settings = s'.settings)
    (happlications : s.applications = s'.applications) :
    s.isForeign path session = s'.isForeign path session := by
  have hany : ∀ (s : State) (r : Request), s.isForeign path session r =
      (r.method = "POST" && ((s.webhook? r).map Mount.application).any fun a =>
        !(a.serverPath = path && callId? r.body = some session)) := by
    intro s r
    rw [Option.any_map]
    rfl
  funext r
  rw [hany, hany, webhook?_congr hsettings happlications]

/-- The answer of an application is the reply to what its handling has come to. -/
theorem serveWebhook_fst (s : State) (m : Mount) (body : List UInt8) :
    (s.serveWebhook m body).1 =
      replyTo s.settings.production
        (handle s.settings.production s.now m.application m.caches s.metrics body).response :=
  rfl

/-- An application that serves a request leaves the caches of the others. -/
theorem caches?_serveWebhook (s : State) (m : Mount) (body : List UInt8) (path : String) :
    (s.serveWebhook m body).2.caches? path =
      (s.caches? path).map fun old =>
        if path = m.path then
          (handle s.settings.production s.now m.application m.caches s.metrics body).caches
        else old :=
  caches?_setCaches s m.path path _

/-- A foreign post does nothing that the session sees. -/
theorem agreeOn_serve {r : Request} (hs : (s.mounts.map Mount.path).Nodup) (clock : Nat → String)
    (hr : s.isForeign path session r = true) : s.AgreeOn path session (s.serve clock r).2 := by
  rcases serve_cases clock s r with h | ⟨-, hpost⟩ | ⟨m, hm, -, h⟩
  · rw [h]
    exact .refl s
  · rw [isForeign, decide_eq_false hpost] at hr
    cases hr
  · rw [h]
    refine ⟨rfl, (applications_serveWebhook _ _ _).symm, rfl, rfl, ?_⟩
    rw [caches?_serveWebhook]
    by_cases hpath : path = m.path
    · subst hpath
      have hcall : callId? r.body ≠ some session := by
        intro hcall
        simp [isForeign, hm, hcall] at hr
      rw [caches?_of_mem hs (mem_of_webhook? hm)]
      simp only [Option.map_some, if_true]
      rw [handle_seenBy hcall]
    · simp only [if_neg hpath, Option.map_id']

/-- Services that agree on a session serve its posts alike and go on to agree. -/
theorem AgreeOn.serveWebhook {m m' : Mount} {body : List UInt8} (h : s.AgreeOn path session s')
    (hs : (s.mounts.map Mount.path).Nodup) (hm : m ∈ s.mounts) (hm' : m' ∈ s'.mounts)
    (happlication : m.application = m'.application) (hpath : m.path = path)
    (hcall : callId? body = some session) :
    (s.serveWebhook m body).2.AgreeOn path session (s'.serveWebhook m' body).2 ∧
      (s.serveWebhook m body).1 = (s'.serveWebhook m' body).1 := by
  have hpath' : m'.path = path := by rw [← hpath, Mount.path, Mount.path, happlication]
  have hcaches : s.caches? path = some m.caches := by rw [← hpath, caches?_of_mem hs hm]
  have hcaches' : s'.caches? path = some m'.caches := by
    rw [← hpath', caches?_of_mem (h.paths_nodup hs) hm']
  have hseen : m.caches.seenBy session = m'.caches.seenBy session := by
    have hseen := h.seen
    rw [hcaches, hcaches'] at hseen
    exact Option.some.inj hseen
  obtain ⟨hresponse, hafter⟩ :=
    handle_congr hseen hcall s.settings.production s.now m.application s.metrics s'.metrics
  rw [happlication, h.settings, h.now] at hresponse hafter
  constructor
  · refine ⟨h.settings, ?_, h.now, h.purgeTasks, ?_⟩
    · rw [applications_serveWebhook, applications_serveWebhook, h.applications]
    · rw [caches?_serveWebhook, caches?_serveWebhook, hcaches, hcaches', hpath, hpath']
      simp only [Option.map_some, if_true]
      rw [happlication, h.settings, h.now, hafter]
  · rw [serveWebhook_fst, serveWebhook_fst, happlication, h.settings, h.now, hresponse]

/-- **A request that is not foreign is answered from what the session sees**, as far as it is a
post, and keeps states in agreement. -/
theorem AgreeOn.serve {r : Request} (h : s.AgreeOn path session s')
    (hs : (s.mounts.map Mount.path).Nodup) (clock : Nat → String)
    (hr : s.isForeign path session r = false) :
    (s.serve clock r).2.AgreeOn path session (s'.serve clock r).2 ∧
      (r.method = "POST" → (s.serve clock r).1 = (s'.serve clock r).1) := by
  unfold State.serve
  cases htarget : r.path? with
  | none => exact ⟨h, fun _ => rfl⟩
  | some target =>
      simp only [Option.map_some]
      rcases route?_congr h.settings h.applications target with
        ⟨hm, hm'⟩ | ⟨page, hm, hm'⟩ | ⟨m, m', hm, hm', happlication⟩
      · rw [hm, hm']
        exact ⟨h, fun _ => rfl⟩
      · rw [hm, hm']
        dsimp only
        split
        · next hmethod =>
          constructor
          · cases page
            case clearCaches => exact h.clearCaches
            all_goals exact h
          · intro hpost
            rw [hpost] at hmethod
            exact absurd hmethod (by decide)
        · exact ⟨h, fun _ => rfl⟩
      · rw [hm, hm']
        dsimp only
        rw [happlication]
        split
        · exact ⟨h, fun _ => rfl⟩
        · split
          · exact ⟨h, fun _ => rfl⟩
          · next hmethod =>
            split
            · exact ⟨h, fun _ => rfl⟩
            · -- the request reaches the application, so it is the session's own
              have hmethod : r.method = "POST" := by simpa using hmethod
              have hwebhook : s.webhook? r = some m := by
                rw [webhook?, htarget, Option.bind_some, hm]
              have hown : m.path = path ∧ callId? r.body = some session := by
                simpa [isForeign, hmethod, hwebhook] using hr
              obtain ⟨hagree, hanswer⟩ :=
                h.serveWebhook hs (mem_of_route? hm) (mem_of_route? hm')
                happlication hown.1 hown.2
              exact ⟨hagree, fun _ => hanswer⟩

/-! ## Runs -/

/-- A step that is not foreign keeps states in agreement. -/
theorem AgreeOn.perform {step : Step} (h : s.AgreeOn path session s')
    (hs : (s.mounts.map Mount.path).Nodup) (clock : Nat → String)
    (hstep : step.request?.any (s.isForeign path session) = false) :
    (s.perform clock step).AgreeOn path session (s'.perform clock step) := by
  cases step with
  | request r => exact (h.serve hs clock hstep).1
  | wait duration => exact h.wait duration
  | sweep maxAge => exact h.purgeAll maxAge
  | startSweeper interval maxAge => exact h.startPurge interval maxAge
  | clear => exact h.clearCaches
  | settle => exact (agreeOn_settle s).symm.trans (h.trans (agreeOn_settle s'))

/-- A run without the posts that are foreign to a session of an application. -/
def withoutForeign (path session : String) (s : State) (steps : List Step) : List Step :=
  steps.filter fun step => !step.request?.any (s.isForeign path session)

/-- The answers to posts. -/
def postAnswers (answers : List (Request × Except Panic Response)) :
    List (Request × Except Panic Response) :=
  answers.filter fun a => a.1.method = "POST"

/-- The answers to posts in two runs are those of the one and then of the other. -/
theorem postAnswers_append (as bs : List (Request × Except Panic Response)) :
    postAnswers (as ++ bs) = postAnswers as ++ postAnswers bs :=
  List.filter_append as bs

/-- **A session of an application is undisturbed by a run**: had the foreign posts of the run never
arrived, every other post would have been answered the same, and the session would have the same
entries in the end. -/
structure Undisturbed (clock : Nat → String) (path session : String) (s : State)
    (steps : List Step) : Prop where
  answers : (postAnswers (s.answers clock steps)).filter (fun a => !s.isForeign path session a.1) =
    postAnswers (s.answers clock (s.withoutForeign path session steps))
  entries : ∀ kind assistant, (s.after clock steps).lookup? path kind ⟨session, assistant⟩ =
    (s.after clock (s.withoutForeign path session steps)).lookup? path kind ⟨session, assistant⟩

/-- The post of a step that is not foreign is answered alike by states in agreement. -/
theorem AgreeOn.postAnswers_eq {step : Step} {foreign : Request → Bool}
    (h : s.AgreeOn path session s') (hs : (s.mounts.map Mount.path).Nodup) (clock : Nat → String)
    (hforeign : s.isForeign path session = foreign) (hstep : step.request?.any foreign = false) :
    (postAnswers (step.request?.map fun r => (r, (s.serve clock r).1)).toList).filter
        (fun a => !foreign a.1) =
      postAnswers (step.request?.map fun r => (r, (s'.serve clock r).1)).toList := by
  cases hr : step.request? with
  | none => rfl
  | some r =>
      have hrforeign : foreign r = false := by simpa [hr] using hstep
      have hanswer := (h.serve hs clock (by rw [hforeign, hrforeign])).2
      by_cases hpost : r.method = "POST"
      · simp [postAnswers, hpost, hrforeign, hanswer hpost]
      · simp [postAnswers, hpost]

/-- Induction on the run: a foreign post moves the state of the whole run only, within the
agreement, and any other step moves both states. -/
theorem AgreeOn.run (clock : Nat → String) {foreign : Request → Bool} (steps : List Step)
    (h : s.AgreeOn path session s') (hs : (s.mounts.map Mount.path).Nodup)
    (hforeign : s.isForeign path session = foreign) :
    (postAnswers (s.answers clock steps)).filter (fun a => !foreign a.1) =
        postAnswers (s'.answers clock (steps.filter fun step => !step.request?.any foreign)) ∧
      (s.after clock steps).AgreeOn path session
        (s'.after clock (steps.filter fun step => !step.request?.any foreign)) := by
  induction steps generalizing s s' with
  | nil => exact ⟨rfl, h⟩
  | cons step rest ih =>
      have hforeign₁ : (s.perform clock step).isForeign path session = foreign := by
        rw [isForeign_congr (settings_perform clock s step) (applications_perform clock s step),
          hforeign]
      have hs₁ : ((s.perform clock step).mounts.map Mount.path).Nodup := by
        rwa [paths_eq, applications_perform, ← paths_eq]
      cases hstep : step.request?.any foreign with
      | true =>
          obtain ⟨r, hr, hrforeign⟩ := (Option.any_eq_true _ _).1 hstep
          obtain rfl := eq_request hr
          have hagree₁ : s.AgreeOn path session (s.perform clock (.request r)) :=
            agreeOn_serve hs clock (by rw [hforeign, hrforeign])
          obtain ⟨hanswers, hagree⟩ := ih (hagree₁.symm.trans h) hs₁ hforeign₁
          rw [List.filter_cons_of_neg (by simp [hstep])]
          refine ⟨?_, hagree⟩
          rw [← hanswers, answers, postAnswers_append, List.filter_append]
          have hout :
              (postAnswers [(r, (s.serve clock r).1)]).filter (fun a => !foreign a.1) = [] := by
            simp [postAnswers, hrforeign]
          rw [hr, Option.map_some, Option.toList_some, hout, List.nil_append]
      | false =>
          have hkept : step.request?.any (s.isForeign path session) = false := by
            rw [hforeign, hstep]
          obtain ⟨hanswers, hagree⟩ := ih (h.perform hs clock hkept) hs₁ hforeign₁
          rw [List.filter_cons_of_pos (by simp [hstep])]
          refine ⟨?_, hagree⟩
          rw [answers, answers, postAnswers_append, postAnswers_append,
            List.filter_append, hanswers, h.postAnswers_eq hs clock hforeign hstep]

/-- **Sessions and applications do not interfere.** In a service whose applications have different
paths, as those of every service that starts have (`paths_nodup_of_build`), no run disturbs any
session. -/
theorem undisturbed (hs : (s.mounts.map Mount.path).Nodup) (clock : Nat → String)
    (path session : String) (steps : List Step) : s.Undisturbed clock path session steps := by
  obtain ⟨hanswers, hagree⟩ := AgreeOn.run clock steps (.refl s) hs rfl
  exact ⟨hanswers, fun kind assistant => hagree.lookup?_eq kind assistant⟩

/-- A post to the weather application about a call. -/
def weatherPost (type call : String) : Request where
  method := "POST"
  target := "/vapi"
  headers := []
  body := Text.encodeUtf8 (Json.object [("message",
    .object [("type", .str type), ("call", .object [("id", .str call)])])]).compact

/-- The call `a` begins and ends while the call `a/b` goes on. -/
theorem undisturbed_weather :
    ∃ s, build {} {} [Weather.application {}] = .ok s ∧
      s.Undisturbed (fun time => toString time) "/vapi" "a/b"
        [.request (weatherPost "assistant-request" "a/b"),
          .request (weatherPost "assistant-request" "a"),
          .wait 1000, .request (weatherPost "end-of-call-report" "a"), .sweep 2000,
          .request (weatherPost "tool-calls" "a/b")] := by
  obtain ⟨s, hs⟩ : ∃ s, build {} {} [Weather.application {}] = .ok s := ⟨_, rfl⟩
  exact ⟨s, hs, undisturbed (paths_nodup_of_build hs) _ _ _ _⟩

end State

end Switchboard

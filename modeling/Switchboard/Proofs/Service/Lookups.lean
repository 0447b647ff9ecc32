import Switchboard.Proofs.Service.Accounts
import Switchboard.Proofs.Service.Classification
import Switchboard.Proofs.Service.Mutation
import Switchboard.Proofs.Service.Stamping

/-!
# Looking up what a message asks for

A message that asks for calls names its call and its assistant. They are looked up in the cache of
the message's own kind, and only then is it asked what calls there are.

* `Json.Concerns`, `Json.Holds`: what a message says of its call, and of what is asked for.
* `Verdict`: the status that such a message deserves, and the text of its fault. `Verdict.refused`:
  a fault ends the handling at once, `Verdict.asks`: everything else goes on to the calls.
* `ending_dispatch_of_kind`: the handling sees no other cache than that of its kind.
* `State.LooksUp`: the client is told the verdict, and a fault leaves no trace.
* **`lookups_judged`**: every message that asks for calls is looked up so, in every run.

Lists, numbers and objects in the place of an id, and whatever else may be wrong with the shape of a
message, are cases of the verdict. A call whose error has no wording is the one way in which a
verdict of 200 can fail to be told.
-/

namespace Switchboard

/-! ## What a message says -/

namespace Json

/-- **The message is about a call**, whose id is a text that is not empty. -/
def Concerns (message : Json) (session : String) : Prop :=
  message.at? ["call", "id"] = some (.str session) ∧ session ≠ ""

/-- **The message holds what it asks for**: tools are asked for by a list, a function by anything at
all. -/
inductive Holds (message : Json) : CacheKind → Prop where
  | tools {elements : List Json} (h : message.get? "toolCallList" = some (.arr elements)) :
      Holds message .toolCall
  | function {call : Json} (h : message.get? "functionCall" = some call) : Holds message .function

end Json

/-- The member in which a message holds what it asks for. -/
def CacheKind.callsMember : CacheKind → String
  | toolCall => "toolCallList"
  | function => "functionCall"

section reading

variable {message : Json} {session assistant : String}

/-- The session of a message is the one that it concerns. -/
theorem sessionOf?_eq_some_iff :
    sessionOf? message = some session ↔ message.Concerns session := by
  unfold sessionOf? Json.Concerns
  rw [Option.filter_eq_some_iff, Json.bind_str?_eq_some_iff]
  simp

/-- The assistant of a message is what is read where its id stands. -/
theorem assistantOf_eq_iff :
    assistantOf message = assistant ↔ message.Reads idPath defaultAssistant assistant :=
  Json.reads_iff.symm

/-- The key that a message is looked up by. -/
theorem keyOf_of_concerns (hsession : message.Concerns session)
    (hassistant : message.Reads idPath defaultAssistant assistant) :
    keyOf message = .ok ⟨session, assistant⟩ := by
  rw [keyOf_of_sessionOf? (sessionOf?_eq_some_iff.2 hsession), assistantOf_eq_iff.2 hassistant]

/-- A message that concerns no session has no key. -/
theorem keyOf_of_nameless (h : ∀ session, ¬ message.Concerns session) :
    keyOf message = .error missingSession := by
  have hnone : sessionOf? message = none :=
    Option.eq_none_iff_forall_ne_some.2 fun session hsession =>
      h session (sessionOf?_eq_some_iff.1 hsession)
  unfold keyOf
  rw [hnone]

end reading

/-! ## Verdicts -/

/-- **What a message that asks for calls deserves**, given the cache of its kind: a status, and a
text for what is wrong with it. -/
inductive Verdict (c : FunctionCache) (kind : CacheKind) (message : Json) :
    Nat → Option String → Prop where
  /-- It does not say which call it is about. -/
  | nameless (h : ∀ session, ¬ message.Concerns session) :
      Verdict c kind message 400 (some "missing message.call.id")
  /-- Nothing is registered for the call and its assistant. -/
  | absent {session assistant : String} (hsession : message.Concerns session)
      (hassistant : message.Reads idPath defaultAssistant assistant)
      (habsent : c.entries.get? ⟨session, assistant⟩ = none) :
      Verdict c kind message 404
        (some (CacheError.notFound c.kind ⟨session, assistant⟩).message)
  /-- It does not say what is asked for. -/
  | callless {session assistant : String} {entry : Entry} (hsession : message.Concerns session)
      (hassistant : message.Reads idPath defaultAssistant assistant)
      (hentry : c.entries.get? ⟨session, assistant⟩ = some entry) (h : ¬ message.Holds kind) :
      Verdict c kind message 400 (some ("missing message." ++ kind.callsMember))
  /-- Nothing is wrong with it. -/
  | found {session assistant : String} {entry : Entry} (hsession : message.Concerns session)
      (hassistant : message.Reads idPath defaultAssistant assistant)
      (hentry : c.entries.get? ⟨session, assistant⟩ = some entry) (h : message.Holds kind) :
      Verdict c kind message 200 none

/-- There is a verdict on every message, and none is that the service has failed. -/
theorem exists_verdict (c : FunctionCache) (kind : CacheKind) (message : Json) :
    ∃ status fault, Verdict c kind message status fault ∧ status < 500 := by
  by_cases hnamed : ∃ session, message.Concerns session
  · obtain ⟨session, hsession⟩ := hnamed
    have hassistant : message.Reads idPath defaultAssistant (assistantOf message) :=
      assistantOf_eq_iff.1 rfl
    cases hentry : c.entries.get? ⟨session, assistantOf message⟩ with
    | none => exact ⟨_, _, .absent hsession hassistant hentry, by decide⟩
    | some entry =>
        by_cases hholds : message.Holds kind
        · exact ⟨_, _, .found hsession hassistant hentry hholds, by decide⟩
        · exact ⟨_, _, .callless hsession hassistant hentry hholds, by decide⟩
  · exact ⟨_, _, .nameless fun session hsession => hnamed ⟨session, hsession⟩, by decide⟩

section dispatching

variable {cs cs' : Caches} {kind : CacheKind} {payload : Json} {status : Nat}

/-- A message that does not say what it asks for is refused, once its entry has been found. -/
theorem dispatch_of_callless {key : CacheKey} {entry : Entry}
    (hkey : keyOf (messageOf payload) = .ok key)
    (hentry : (cs.of kind).entries.get? key = some entry) (h : ¬ (messageOf payload).Holds kind)
    (production : Bool) (now : Nat) (app : Application) :
    dispatch production now app cs kind.asking payload =
      .ended (.refused (.api (.badRequest ("missing message." ++ kind.callsMember)))) cs := by
  have hget : (cs.of kind).get key = .ok entry := FunctionCache.get_eq_ok_iff.2 hentry
  cases kind with
  | toolCall =>
      have hlist : ((messageOf payload).get? "toolCallList").bind Json.arr? = none := by
        refine Option.eq_none_iff_forall_ne_some.2 fun elements helements => h ?_
        obtain ⟨v, hv, harr⟩ := Option.bind_eq_some_iff.1 helements
        cases v <;> cases harr
        exact .tools hv
      show dispatchToolCalls cs (messageOf payload) = _
      unfold dispatchToolCalls
      rw [hkey]
      dsimp only
      rw [show cs.tools.get key = _ from hget]
      dsimp only
      rw [hlist]
      rfl
  | function =>
      have hcall : (messageOf payload).get? "functionCall" = none :=
        Option.eq_none_iff_forall_ne_some.2 fun call hcall => h (.function hcall)
      show dispatchFunctionCall cs (messageOf payload) = _
      unfold dispatchFunctionCall
      rw [hkey]
      dsimp only
      rw [show cs.functions.get key = _ from hget]
      dsimp only
      rw [hcall]
      rfl

/-- So is one that does not say which call it is about, before anything is looked up. -/
theorem dispatch_of_nameless (h : keyOf (messageOf payload) = .error missingSession)
    (kind : CacheKind) (cs : Caches) (production : Bool) (now : Nat) (app : Application) :
    dispatch production now app cs kind.asking payload =
      .ended (.refused (.api missingSession)) cs := by
  cases kind with
  | toolCall =>
      show dispatchToolCalls cs (messageOf payload) = _
      unfold dispatchToolCalls
      rw [h]
  | function =>
      show dispatchFunctionCall cs (messageOf payload) = _
      unfold dispatchFunctionCall
      rw [h]

/-- **A fault ends the handling** of a message with the error that tells of it. -/
theorem Verdict.refused {fault : String}
    (h : Verdict (cs.of kind) kind (messageOf payload) status (some fault)) :
    ∃ e : ApiError, e.AtClient ∧ e.response = .json status (errorBody fault) ∧
      ∀ production now app,
        dispatch production now app cs kind.asking payload = .ended (.refused (.api e)) cs := by
  cases h with
  | nameless h =>
      exact ⟨missingSession, .inl rfl, rfl, dispatch_of_nameless (keyOf_of_nameless h) kind cs⟩
  | absent hsession hassistant habsent =>
      have hasks : kind.asking.asksOf? = some kind := by cases kind <;> rfl
      exact ⟨_, .inr rfl, rfl,
        dispatch_of_absent hasks (keyOf_of_concerns hsession hassistant) habsent⟩
  | callless hsession hassistant hentry h =>
      exact ⟨_, .inl rfl, rfl,
        dispatch_of_callless (keyOf_of_concerns hsession hassistant) hentry h⟩

/-- **A message without a fault asks for calls.** -/
theorem Verdict.asks (h : Verdict (cs.of kind) kind (messageOf payload) status none)
    (htype : RequestType.ofPayload payload = kind.asking) :
    status = 200 ∧ ∃ entry key calls, Asks cs payload kind.asking kind entry key calls := by
  cases h with
  | found hsession hassistant hentry h =>
      have hkey := keyOf_of_concerns hsession hassistant
      have hget := FunctionCache.get_eq_ok_iff.2 hentry
      cases h with
      | tools h =>
          exact ⟨rfl, _, _, _, .tools rfl htype hkey hget (by rw [messageOf] at h; rw [h]; rfl)⟩
      | function h => exact ⟨rfl, _, _, _, .function rfl htype hkey hget h⟩

/-- **The handling of a message sees the cache of its kind** and no other. -/
theorem ending_dispatch_of_kind (h : cs.of kind = cs'.of kind) (production : Bool) (now : Nat)
    (app : Application) (payload : Json) :
    (dispatch production now app cs kind.asking payload).ending =
      (dispatch production now app cs' kind.asking payload).ending := by
  cases kind with
  | toolCall =>
      have htools : cs.tools = cs'.tools := h
      show (dispatchToolCalls cs _).ending = (dispatchToolCalls cs' _).ending
      unfold dispatchToolCalls
      rw [htools]
      dsimp only
      split
      · rfl
      · split
        · rfl
        · split <;> rfl
  | function =>
      have hfunctions : cs.functions = cs'.functions := h
      show (dispatchFunctionCall cs _).ending = (dispatchFunctionCall cs' _).ending
      unfold dispatchFunctionCall
      rw [hfunctions]
      dsimp only
      split
      · rfl
      · split
        · rfl
        · split <;> rfl

end dispatching

/-! ## Requests -/

/-- Every error of a call that the message asks for has a wording. -/
def CallsSpeak (cs : Caches) (payload : Json) : Prop :=
  ∀ t kind entry key calls, Asks cs payload t kind entry key calls →
    ∀ c ∈ calls, ∀ p, ¬ c.Unspeakable entry p

namespace State

variable {s : State} {r : Request} {m : Mount} {payload : Json} {kind : CacheKind}

/-- The same application accepts a request when its caches have been replaced. -/
theorem accepted?_setCaches (hs : (s.mounts.map Mount.path).Nodup)
    (h : s.accepted? r = some (m, payload)) (cs : Caches) :
    (s.setCaches m.path cs).accepted? r = some ({ m with caches := cs }, payload) := by
  have hpaths : ((s.setCaches m.path cs).mounts.map Mount.path).Nodup := by
    rwa [paths_eq, applications_setCaches, ← paths_eq]
  have hsettings : (s.setCaches m.path cs).settings = s.settings := rfl
  have hsame := accepted?_congr hsettings (applications_setCaches s m.path cs) r
  rw [h] at hsame
  obtain ⟨⟨m', payload'⟩, h', heq⟩ := Option.map_eq_some_iff.1 hsame
  obtain ⟨happlication, rfl⟩ : m'.application = m.application ∧ payload' = payload := by
    simpa using heq
  have hpath : m'.path = m.path := congrArg Application.serverPath happlication
  -- what the state has at the path decides on the caches of the application
  have hcaches := caches?_of_mem hpaths (mem_of_accepted? h')
  rw [hpath, caches?_setCaches, caches?_of_mem hs (mem_of_accepted? h)] at hcaches
  obtain rfl : cs = m'.caches := by simpa using hcaches
  rw [h', ← happlication]

/-- **How a message that asks for calls is looked up**, by the application that accepts it. -/
structure LooksUp (clock : Nat → String) (s : State) (r : Request) (m : Mount) (payload : Json)
    (kind : CacheKind) : Prop where
  /-- There is a verdict on it, and none is that the service has failed. -/
  judged : ∃ status fault, Verdict (m.caches.of kind) kind (messageOf payload) status fault ∧
    status < 500
  /-- Of a fault its client is told by the status and the text. -/
  refused : ∀ status fault,
    Verdict (m.caches.of kind) kind (messageOf payload) status (some fault) →
      (s.serve clock r).1 = .ok (.json status (errorBody fault))
  /-- Without a fault it is answered, unless an error of one of its calls has no wording. -/
  answered : ∀ status, Verdict (m.caches.of kind) kind (messageOf payload) status none →
    CallsSpeak m.caches payload → ∃ v, (s.serve clock r).1 = .ok (.json status v)
  /-- What the cache of the other kind has does not change the answer. -/
  apart : ∀ other c, other ≠ kind →
    ((s.setCaches m.path (m.caches.set other c)).serve clock r).1 = (s.serve clock r).1
  /-- A message that is told that something is missing runs no handler, changes no cache and is
  counted among no invocations. -/
  untouched : ∀ response, (s.serve clock r).1 = .ok response → response.Missing →
    (s.serve clock r).2.handlerCalls = s.handlerCalls ∧ (s.serve clock r).2.mounts = s.mounts ∧
      (s.serve clock r).2.metrics.invocations = s.metrics.invocations

/-- An accepted request that asks for calls is answered by its verdict. -/
theorem looksUp_of_accepted (hs : (s.mounts.map Mount.path).Nodup)
    (h : s.accepted? r = some (m, payload)) (htype : RequestType.ofPayload payload = kind.asking)
    (clock : Nat → String) :
    s.LooksUp clock r m payload kind := by
  have hrefused : ∀ {status fault},
      Verdict (m.caches.of kind) kind (messageOf payload) status (some fault) →
      ∃ e : ApiError, e.AtClient ∧ e.response = .json status (errorBody fault) ∧
        s.dispatched m payload = .ended (.refused (.api e)) m.caches := by
    intro status fault hverdict
    obtain ⟨e, he, hresponse, hdispatch⟩ := hverdict.refused
    refine ⟨e, he, hresponse, ?_⟩
    rw [dispatched, htype]
    exact hdispatch _ _ _
  constructor
  case judged => exact exists_verdict _ kind (messageOf payload)
  case refused =>
    intro status fault hverdict
    obtain ⟨e, he, hresponse, hdispatched⟩ := hrefused hverdict
    rw [← hresponse]
    exact response_serve_of_refused h clock he.isClientError (by rw [hdispatched]; rfl)
  case answered =>
    intro status hverdict hspeak
    obtain ⟨rfl, entry, key, calls, hasks⟩ := hverdict.asks htype
    rcases comesTo_or_first_unspeakable kind entry key calls with
      ⟨-, outcomes, houtcomes⟩ | ⟨before, c, later, p, rfl, -, hc⟩
    · obtain ⟨answer, -, hending⟩ :=
        hasks.answered houtcomes s.settings.production s.now m.application
      rw [← htype] at hending
      exact ⟨_, response_serve_of_answered h clock hending⟩
    · exact absurd hc (hspeak _ _ _ _ _ hasks c (List.mem_append_right _ List.mem_cons_self) p)
  case apart =>
    intro other c hother
    have hkind : (m.caches.set other c).of kind = m.caches.of kind := by
      rw [Caches.of_set, if_neg (Ne.symm hother)]
    have hending : ((s.setCaches m.path (m.caches.set other c)).dispatched
        { m with caches := m.caches.set other c } payload).ending =
          (s.dispatched m payload).ending := by
      rw [dispatched, dispatched, htype]
      exact ending_dispatch_of_kind hkind _ _ _ payload
    rw [response_serve (accepted?_setCaches hs h _), response_serve h, concluded,
      concluded, hending]
    exact congrArg (replyTo _) (conclude_congr _ _ _ _ _ _)
  case untouched =>
    intro response hresponse hmissing
    obtain ⟨status, fault, hverdict, -⟩ :=
      exists_verdict (m.caches.of kind) kind (messageOf payload)
    cases fault with
    | some fault =>
        obtain ⟨e, he, -, hdispatched⟩ := hrefused hverdict
        refine ⟨?_, mounts_serve_of_caches h clock hs (by rw [hdispatched]; rfl), ?_⟩
        · rw [handlerCalls_serve h, hdispatched]
          exact List.append_nil _
        · rw [serve_of_accepted h, concluded, hdispatched]
          show (conclude _ _ _ _ (.refused (.api e))).2.1.invocations = _
          unfold conclude
          dsimp only
          rw [WebhookError.render_api he]
          rfl
    | none =>
        -- calls are answered or unwind, and neither is told as something missing
        obtain ⟨-, entry, key, calls, hasks⟩ := hverdict.asks htype
        have hending : ∀ a, (s.dispatched m payload).ending ≠ .refused (.api a) := by
          intro a
          rw [dispatched, htype]
          exact hasks.ne_refused _
        rw [response_serve h] at hresponse
        have hstatus := status_replyTo_conclude hending hresponse
        unfold Response.Missing at hmissing
        omega

/-- Whatever message asks for calls in a step is looked up. -/
def StepLooksUp (clock : Nat → String) (s : State) (step : Step) : Prop :=
  ∀ r m payload (kind : CacheKind), step.request? = some r →
    s.accepted? r = some (m, payload) → RequestType.ofPayload payload = kind.asking →
      s.LooksUp clock r m payload kind

/-- **In every run the messages that ask for calls are looked up**, if the applications have
different paths, as those of every service that starts have (`paths_nodup_of_build`). -/
theorem lookups_judged (hs : (s.mounts.map Mount.path).Nodup) (clock : Nat → String)
    (steps : List Step) :
    s.Throughout clock (StepLooksUp clock) steps :=
  throughout_of_nodup (fun _ _ hs _ _ _ _ _ haccepted htype =>
    looksUp_of_accepted hs haccepted htype clock) hs
    clock steps

/-- A message that asks for no tools comes before the call `a` begins, and again afterwards. Then
one asks for tools, and one for a function, of which none has been registered. -/
theorem lookups_judged_weather :
    ∃ steps : List Step,
      steps = [.request (weatherPost "tool-calls" "a"),
        .request (weatherPost "assistant-request" "a"),
        .request (weatherPost "tool-calls" "a"), .request weatherBatch,
        .request (weatherPost "function-call" "a")] ∧
      (weatherService.mounts.map Mount.path).Nodup ∧
      weatherService.Throughout (fun time => toString time)
        (StepLooksUp fun time => toString time) steps ∧
      (weatherService.answers (fun time => toString time) steps).map
          (fun a => a.2.toOption.map Response.status) =
        [some 404, some 200, some 400, some 200, some 404] := by
  have hs : (weatherService.mounts.map Mount.path).Nodup := paths_nodup_of_build build_weather
  exact ⟨_, rfl, hs, lookups_judged hs _ _, by decide +kernel⟩

end State

end Switchboard

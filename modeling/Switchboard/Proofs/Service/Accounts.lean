import Mathlib.Data.List.Perm.Basic
import Switchboard.Proofs.Service.Eviction
import Switchboard.Proofs.Service.Responses

/-!
# What the counters account for

Webhooks are counted when they are answered, invocations when their outcome is known, which for
calls that fail at their start is at the start, and purged entries at each sweep. No counter is ever
read by the service.

* `Counter.count_increment`, `Counter.total_increment`: a count, and the sum of several, after an
  increment.
* `StartedCall.counted_perm`: the calls of a message are counted once each, though not in order.
* `CacheKind.resultsIn`: the entries of an answer that tell what calls have come to.
  `count_resultsIn`: of the answer to a message that asks for calls these are as many as have been
  counted.
* `State.Phrases`: no wording of an error panics while a message is dealt with.
* `Metrics.Records`: what has been counted between two states is what events and answers tell. Every
  step does (`records_perform`), and so does every run (`records_after`).
* **`accounts_run`**: the counters of a service account for all that it has done.
-/

namespace Switchboard

/-! ### Counters -/

namespace Counter

/-- How many altogether, with label values that pass a test. -/
def total (c : Counter) (p : List String → Bool) : Nat :=
  (c.filter fun labels _ => p labels).values.foldr (· + ·) 0

/-- A counter that is incremented counts one more for its labels, and the others as before. -/
theorem count_increment (c : Counter) (labels labels' : List String) :
    (c.increment labels).count labels' = c.count labels' + if labels' = labels then 1 else 0 := by
  unfold increment count Table.alter
  rw [Table.get?_insert]
  by_cases h : labels' = labels <;> simp [h]

/-- The total over bindings is that of the first and that of the rest. -/
theorem total_cons {p : List String → Bool} {b : List String × Nat}
    {bs : List (List String × Nat)} :
    (((b :: bs).filter fun b => p b.1).map (·.2)).foldr (· + ·) 0 =
      (if p b.1 then b.2 else 0) + ((bs.filter fun b => p b.1).map (·.2)).foldr (· + ·) 0 := by
  by_cases h : p b.1 <;> simp [h]

/-- Where one binding is incremented the total is one more, if it counts towards it. By induction on
the bindings, which are sorted. -/
theorem total_insert {p : List String → Bool} {k : List String} {bs : List (List String × Nat)}
    (hs : Assoc.Sorted bs) :
    (((Assoc.insert k ((Assoc.get? k bs).getD 0 + 1) bs).filter fun b => p b.1).map
        (·.2)).foldr (· + ·) 0 =
      ((bs.filter fun b => p b.1).map (·.2)).foldr (· + ·) 0 + if p k then 1 else 0 := by
  induction bs with
  | nil => simp [Assoc.insert, Assoc.get?, total_cons]
  | cons b rest ih =>
      obtain ⟨k', n⟩ := b
      obtain ⟨hk', hrest⟩ := List.pairwise_cons.1 hs
      rw [Assoc.insert, Assoc.get?]
      cases hcompare : compare k k' with
      | lt =>
          -- the label values are new, as they come before all others
          have hnone : Assoc.get? k rest = none :=
            Assoc.get?_of_lt fun b hb => Std.TransCmp.lt_trans hcompare (hk' b hb)
          simp [total_cons, hnone]
          omega
      | eq =>
          obtain rfl := Std.LawfulEqCmp.eq_of_compare hcompare
          simp only [if_true, Option.getD_some, total_cons]
          split <;> omega
      | gt =>
          simp only [reduceCtorEq, if_false, total_cons, ih hrest]
          omega

/-- A counter that is incremented totals one more, if its labels count towards the total. -/
theorem total_increment (c : Counter) (labels : List String) (p : List String → Bool) :
    (c.increment labels).total p = c.total p + if p labels then 1 else 0 :=
  total_insert c.sorted

end Counter

/-- Types have different names. -/
theorem RequestType.name_injective {t t' : RequestType} (h : t.name = t'.name) : t = t' := by
  have hmem : ∀ t : RequestType, t ∈ all := by
    intro t
    cases t <;> decide
  have hnodup : (all.map name).Nodup := by decide
  exact List.inj_on_of_nodup_map hnodup (hmem t) (hmem t') h

/-- Kinds of caches have different names. -/
theorem CacheKind.name_injective {kind kind' : CacheKind} (h : kind.name = kind'.name) :
    kind = kind' := by
  cases kind <;> cases kind' <;> first | rfl | exact absurd h (by decide)

/-- Success and failure have different labels. -/
theorem Metrics.outcomeLabel_injective {b b' : Bool} (h : outcomeLabel b = outcomeLabel b') :
    b = b' := by
  cases b <;> cases b' <;> first | rfl | exact absurd h (by decide)

/-! ### Counting calls -/

/-- **Every call is counted once**, as what it has come to: those that fail at their start first. -/
theorem StartedCall.counted_perm {calls : List StartedCall} {outcomes : List CallOutcome}
    (h : List.Forall₂ (fun c o => c.outcome = .ok o) calls outcomes) :
    (counted calls).Perm (outcomes.map CallOutcome.success) := by
  induction h with
  | nil => exact .refl _
  | @cons c o calls outcomes hc _ ih =>
      cases c with
      | settled o' =>
          obtain rfl : o' = o := Except.ok.inj hc
          exact ih.cons _
      | ran i =>
          have hran : ranSuccess? (.ran i) = some (some o.success) := by
            unfold ranSuccess?
            dsimp only
            rw [hc]
          have hcounted : counted (.ran i :: calls) =
              calls.filterMap settledSuccess? ++ o.success ::
                ((calls.filterMap ranSuccess?).takeWhile Option.isSome).filterMap id := by
            simp [counted, hran, settledSuccess?, List.filterMap_cons]
          rw [hcounted, List.map_cons]
          exact List.perm_middle.trans (ih.cons _)

/-! ### What an answer tells of calls -/

/-- The entry tells of an error. -/
def Json.hasError (v : Json) : Bool := (v.get? "error").isSome

/-- The entry for a call of a tool has an error iff the call has failed. -/
theorem ToolCallResult.hasError_toJson (r : ToolCallResult) :
    r.toJson.hasError = !r.outcome.success := by
  unfold Json.hasError CallOutcome.success
  rw [r.get?_toJson.2.2.2]
  cases r.outcome.result <;> rfl

/-- The answer to a function call has an error iff the call has failed. -/
theorem CallOutcome.hasError_toJson (o : CallOutcome) : o.toJson.hasError = !o.success := by
  unfold Json.hasError CallOutcome.success CallOutcome.toJson messagesMember
  simp only [Json.get?_object]
  cases o.messages.isEmpty <;> cases o.result <;> simp [Json.member?]

namespace CacheKind

/-- The type of the messages that ask for calls of a kind. -/
def asking : CacheKind → RequestType
  | toolCall => .toolCalls
  | function => .functionCall

/-- Messages that ask for calls of different kinds are of different types. -/
theorem asking_injective {kind kind' : CacheKind} (h : kind.asking = kind'.asking) :
    kind = kind' := by
  cases kind <;> cases kind' <;> first | rfl | cases h

/-- The entries of a response that tell what calls of a kind have come to: the results of a batch,
or the result of a function. Only a success has any. -/
def resultsIn (kind : CacheKind) (response : Response) : List Json :=
  match response.status, response.body, kind with
  | 200, .json v, toolCall => ((v.get? "results").bind Json.arr?).getD []
  | 200, .json v, function => [v]
  | _, _, _ => []

/-- The client is told nothing of calls when it is told an error of its own. -/
theorem resultsIn_of_atClient (kind : CacheKind) {e : ApiError} (h : e.AtClient) :
    kind.resultsIn e.response = [] := by
  have hstatus : e.response.status ≠ 200 := by
    show e.status ≠ 200
    rcases h with h | h <;> omega
  unfold resultsIn
  split
  · exact absurd (by assumption) hstatus
  · exact absurd (by assumption) hstatus
  · rfl

/-- The answer to a message that asks for calls tells of each as often as it has succeeded or
failed. -/
theorem count_resultsIn {kind : CacheKind} {answer : Answer} {outcomes : List CallOutcome}
    (h : answer.callOutcomes? = some (kind, outcomes)) (success : Bool) :
    (kind.resultsIn (.json 200 answer.toJson)).countP (fun v => v.hasError != success) =
      (outcomes.map CallOutcome.success).count success := by
  have hbool : ∀ b : Bool, ((!b) != success) = (b == success) := by
    cases success <;> simp
  cases answer with
  | responder v => cases h
  | acknowledgement type => cases h
  | toolCalls results =>
      cases h
      have hresults : resultsIn .toolCall (.json 200 (Answer.toolCalls results).toJson) =
          results.map ToolCallResult.toJson := by
        show (((Json.object
          [("results", .arr (results.map ToolCallResult.toJson))]).get? "results").bind
            Json.arr?).getD [] = _
        rw [Json.get?_object]
        rfl
      rw [hresults, List.countP_map, List.map_map, List.count, List.countP_map]
      simp only [Function.comp_def, ToolCallResult.hasError_toJson, hbool]
  | functionCall outcome =>
      cases h
      show [outcome.toJson].countP _ = _
      simp only [List.map_cons, List.map_nil, List.count, List.countP_cons, List.countP_nil,
        CallOutcome.hasError_toJson, hbool]

end CacheKind

/-! ### What a message counts -/

section dispatching

variable {cs : Caches} {payload : Json} {t : RequestType} {kind : CacheKind} {entry : Entry}
  {key : CacheKey} {calls : List AskedCall}

/-- A message that asks for calls has the type of its kind. -/
theorem Asks.type_eq_asking (h : Asks cs payload t kind entry key calls) :
    RequestType.ofPayload payload = kind.asking := by
  cases h <;> assumption

/-- A message that asks for calls counts these. -/
theorem Asks.invocations (h : Asks cs payload t kind entry key calls)
    (production : Bool) (now : Nat) (app : Application) :
    (dispatch production now app cs t payload).invocations =
      (kind, StartedCall.counted (calls.map fun c => c.start kind entry key)) := by
  cases h with
  | @tools message entry key elements hmessage _ hkey hentry helements =>
      show (dispatchToolCalls cs _).invocations = _
      unfold dispatchToolCalls
      rw [← hmessage, hkey]
      dsimp only
      rw [hentry]
      dsimp only
      rw [helements]
      dsimp only
      rw [List.map_map, List.map_map]
      rfl
  | @function message call entry key hmessage _ hkey hentry hcall =>
      show (dispatchFunctionCall cs _).invocations = _
      unfold dispatchFunctionCall
      rw [← hmessage, hkey]
      dsimp only
      rw [hentry]
      dsimp only
      rw [hcall]
      rfl

/-- Any other message counts no calls, and if it should ask for some, its client is told an error of
its own. -/
theorem invocations_of_not_asks (production : Bool) (now : Nat) (app : Application)
    (h : ∀ t kind entry key calls, ¬ Asks cs payload t kind entry key calls) :
    (dispatch production now app cs (RequestType.ofPayload payload) payload).invocations.2 = [] ∧
      ∀ kind : CacheKind, RequestType.ofPayload payload = kind.asking →
        ∃ e : ApiError, e.AtClient ∧
          (dispatch production now app cs (RequestType.ofPayload payload) payload).ending =
            .refused (.api e) := by
  cases htype : RequestType.ofPayload payload
  case toolCalls =>
    rcases refused_or_asks_tools cs htype with
      ⟨e, he, hrefused⟩ | ⟨entry, key, calls, hasks⟩
    · show (dispatchToolCalls cs (messageOf payload)).invocations.2 = [] ∧ ∀ kind, _ →
        ∃ e : ApiError, e.AtClient ∧ (dispatchToolCalls cs (messageOf payload)).ending = _
      rw [hrefused]
      exact ⟨rfl, fun _ _ => ⟨e, he, rfl⟩⟩
    · exact absurd hasks (h _ _ _ _ _)
  case functionCall =>
    rcases refused_or_asks_function cs htype with
      ⟨e, he, hrefused⟩ | ⟨entry, key, calls, hasks⟩
    · show (dispatchFunctionCall cs (messageOf payload)).invocations.2 = [] ∧ ∀ kind, _ →
        ∃ e : ApiError, e.AtClient ∧ (dispatchFunctionCall cs (messageOf payload)).ending = _
      rw [hrefused]
      exact ⟨rfl, fun _ _ => ⟨e, he, rfl⟩⟩
    · exact absurd hasks (h _ _ _ _ _)
  case assistantRequest =>
    refine ⟨?_, fun kind hkind => by cases kind <;> cases hkind⟩
    show (dispatchAssistant production now app cs payload (messageOf payload)).invocations.2 = []
    unfold dispatchAssistant
    split
    · rfl
    · split <;> rfl
  case transferDestinationRequest =>
    refine ⟨?_, fun kind hkind => by cases kind <;> cases hkind⟩
    show (dispatchTransfer production app cs payload).invocations.2 = []
    unfold dispatchTransfer
    split <;> rfl
  all_goals exact ⟨rfl, fun kind hkind => by cases kind <;> cases hkind⟩

end dispatching

/-! ### What is counted between two states -/

/-- The event tells of an answer, given under a path to a message of a type. -/
def Event.answers (path : String) (t : RequestType) (e : Event) : Bool :=
  e.application.serverPath = path && e.type = t && e.content.stage = .response

namespace Metrics

/-- How many answers to messages of a type have been counted, whatever the path. -/
def answered (m : Metrics) (t : RequestType) : Nat :=
  m.requests.total fun labels => labels[1]? = some t.name

/-- **What has been counted since** is what events tell of answers and what entries of answers tell
of calls. Of each answer the time has been taken. -/
structure Records (m m' : Metrics) (events : List Event) (results : CacheKind → List Json) :
    Prop where
  requests : ∀ path t, m'.requests.count [path, t.name] =
    m.requests.count [path, t.name] + events.countP (Event.answers path t)
  durations : ∀ t, m'.durations.count [t.name] + m.answered t =
    m.durations.count [t.name] + m'.answered t
  invocations : ∀ (kind : CacheKind) success,
    m'.invocations.count [kind.name, outcomeLabel success] =
      m.invocations.count [kind.name, outcomeLabel success] +
      (results kind).countP fun v => v.hasError != success

/-- Where there are neither events nor results, nothing is counted. -/
theorem Records.of_eq {m m' : Metrics} (hrequests : m'.requests = m.requests)
    (hdurations : m'.durations = m.durations) (hinvocations : m'.invocations = m.invocations) :
    Records m m' [] fun _ => [] := by
  refine ⟨fun path t => ?_, fun t => ?_, fun kind success => ?_⟩
  · rw [hrequests]
    rfl
  · unfold answered
    rw [hrequests, hdurations]
  · rw [hinvocations]
    rfl

/-- What is recorded in one part of a run and what is recorded in the next one add up. -/
theorem Records.trans {m m' m'' : Metrics} {events events' : List Event}
    {results results' : CacheKind → List Json} (h : Records m m' events results)
    (h' : Records m' m'' events' results') :
    Records m m'' (events ++ events') fun kind => results kind ++ results' kind := by
  refine ⟨fun path t => ?_, fun t => ?_, fun kind success => ?_⟩
  · rw [h'.requests, h.requests, List.countP_append, Nat.add_assoc]
  · have hbefore := h.durations t
    have hafter := h'.durations t
    omega
  · rw [h'.invocations, h.invocations, List.countP_append, Nat.add_assoc]

/-- A message that has arrived is not counted by itself. -/
theorem records_request (m : Metrics) (app : Application) (t : RequestType) (payload : Json) :
    Records m m [⟨app, t, .request payload⟩] fun _ => [] := by
  refine ⟨fun path t' => ?_, fun t' => rfl, fun kind success => rfl⟩
  simp [Event.answers, EventContent.stage]

/-- An answer is counted, and its time taken. -/
theorem records_observeRequest (m : Metrics) (app : Application) (t : RequestType)
    (producer : Outcome Json) :
    Records m (m.observeRequest app.serverPath t)
      [⟨app, t, .response producer⟩] fun _ => [] := by
  have hlabels : ∀ path (t' : RequestType), [path, t'.name] = [app.serverPath, t.name] ↔
      app.serverPath = path ∧ t = t' := by
    intro path t'
    constructor
    · intro h
      obtain ⟨hpath, hname⟩ : path = app.serverPath ∧ t'.name = t.name := by simpa using h
      exact ⟨hpath.symm, RequestType.name_injective hname.symm⟩
    · rintro ⟨rfl, rfl⟩
      rfl
  have htypes : ∀ t' : RequestType, t'.name = t.name ↔ t.name = t'.name := fun _ => eq_comm
  refine ⟨fun path t' => ?_, fun t' => ?_, fun kind success => rfl⟩
  · show (m.requests.increment [app.serverPath, t.name]).count _ = _
    rw [Counter.count_increment]
    simp [Event.answers, EventContent.stage, hlabels, List.countP_cons]
  · show (m.durations.increment [t.name]).count [t'.name] + _ =
      _ + (m.requests.increment [app.serverPath, t.name]).total _
    rw [Counter.count_increment, Counter.total_increment]
    simp only [List.cons.injEq, and_true, htypes, List.getElem?_cons_succ, List.getElem?_cons_zero,
      Option.some.injEq, decide_eq_true_eq]
    unfold answered
    omega

/-- Of the counters, those of invocations change when invocations are counted, by kind and
success. -/
theorem frame_observeInvocations (m : Metrics) (kind : CacheKind) (successes : List Bool) :
    (m.observeInvocations kind successes).requests = m.requests ∧
      (m.observeInvocations kind successes).durations = m.durations ∧
      ∀ (kind' : CacheKind) success,
        (m.observeInvocations kind successes).invocations.count [kind'.name, outcomeLabel success] =
          m.invocations.count [kind'.name, outcomeLabel success] +
            if kind' = kind then successes.count success else 0 := by
  unfold observeInvocations
  induction successes generalizing m with
  | nil => simp
  | cons b rest ih =>
      obtain ⟨hrequests, hdurations, hinvocations⟩ := ih (m.observeInvocation kind b)
      refine ⟨hrequests, hdurations, fun kind' success => ?_⟩
      rw [List.foldl_cons, hinvocations]
      show (m.invocations.increment [kind.name, outcomeLabel b]).count _ + _ = _
      have hlabels : [kind'.name, outcomeLabel success] = [kind.name, outcomeLabel b] ↔
          kind' = kind ∧ b = success := by
        constructor
        · intro h
          obtain ⟨hname, hlabel⟩ : kind'.name = kind.name ∧
            outcomeLabel success = outcomeLabel b := by
            simpa using h
          exact ⟨CacheKind.name_injective hname, (outcomeLabel_injective hlabel).symm⟩
        · rintro ⟨rfl, rfl⟩
          rfl
      rw [Counter.count_increment, List.count_cons]
      simp only [hlabels, beq_iff_eq]
      by_cases hkind : kind' = kind
      · simp only [hkind, true_and, if_true]
        omega
      · simp only [hkind, false_and, if_false]

/-- What is counted of invocations is what entries of answers tell of them. -/
theorem records_observeInvocations (m : Metrics) (kind : CacheKind) (successes : List Bool)
    {results : CacheKind → List Json}
    (hresults : ∀ kind' success, ((results kind').countP fun v => v.hasError != success) =
      if kind' = kind then successes.count success else 0) :
    Records m (m.observeInvocations kind successes) [] results := by
  obtain ⟨hrequests, hdurations, hinvocations⟩ := m.frame_observeInvocations kind successes
  refine ⟨fun path t => ?_, fun t => ?_, fun kind' success => ?_⟩
  · rw [hrequests]
    rfl
  · unfold answered
    rw [hrequests, hdurations]
  · rw [hinvocations, hresults]

end Metrics

namespace State

variable {s : State} {r : Request} {m : Mount} {payload : Json} {clock : Nat → String}

/-! ### What a step counts -/

/-- **No wording of an error panics** while the message is dealt with: neither that of the error of
a call that it asks for nor that of its responder's error, which nobody asks for in production. -/
structure Phrases (s : State) (m : Mount) (payload : Json) : Prop where
  calls : ∀ {t kind entry key calls}, Asks m.caches payload t kind entry key calls →
    ∀ c ∈ calls, ∀ p, ¬ c.Unspeakable entry p
  responder : s.settings.production = false →
    ∀ {f}, Responds s.now m.application m.caches payload (.failed f) → f.Worded

/-- No wording of an error panics while the step is made. -/
def StepPhrases (s : State) (step : Step) : Prop :=
  ∀ r m payload, step.request? = some r → s.accepted? r = some (m, payload) →
    s.Phrases m payload

/-- Where every error has a wording, none panics. -/
theorem StepSpeaks.phrases {step : Step} (h : s.StepSpeaks step) : s.StepPhrases step := by
  intro r m payload hr haccepted
  have hmeets := h r hr m payload haccepted
  exact ⟨hmeets.calls, fun _ => hmeets.responder⟩

/-- An error that the handling of a message ends in can be told. -/
theorem Phrases.render (h : s.Phrases m payload) {e : WebhookError}
    (hending : (s.dispatched m payload).ending = .refused e) :
    ∃ told, e.render s.settings.production = .ok told := by
  by_cases hclient : ∃ a, e = .api a
  · obtain ⟨a, rfl⟩ := hclient
    exact ⟨_, WebhookError.render_api (atClient_of_api hending) _⟩
  · have hother : ∀ a, e ≠ .api a := fun a ha => hclient ⟨a, ha⟩
    cases hproduction : s.settings.production with
    | true => exact ⟨_, WebhookError.render_hidden hother⟩
    | false =>
        have hworded : (s.dispatched m payload).ending.Worded := by
          apply worded_ending ⟨h.calls, h.responder hproduction⟩
          intro hproduction'
          rw [hproduction] at hproduction'
          cases hproduction'
        rw [hending] at hworded
        obtain ⟨response, v, hrender, -⟩ := WebhookError.render_of_worded hworded false
        exact ⟨_, hrender⟩

/-- The result entries of the kind in the answer to a request. -/
def resultsOf (clock : Nat → String) (kind : CacheKind) (s : State) (r : Request) : List Json :=
  match s.accepted? r, (s.serve clock r).1 with
  | some (_, payload), .ok response =>
    if RequestType.ofPayload payload = kind.asking then kind.resultsIn response else []
  | _, _ => []

/-- The results in the answer to an accepted request are those of the kind that it asks for. -/
theorem resultsOf_of_accepted (h : s.accepted? r = some (m, payload)) {response : Response}
    (hresponse : (s.serve clock r).1 = .ok response) (kind : CacheKind) :
    s.resultsOf clock kind r =
      if RequestType.ofPayload payload = kind.asking then kind.resultsIn response else [] := by
  unfold resultsOf
  rw [h, hresponse]

/-- **The answer to a message tells of as many calls** as have been counted for it. -/
theorem count_resultsOf (h : s.accepted? r = some (m, payload)) (hphrases : s.Phrases m payload)
    (clock : Nat → String) (kind : CacheKind) (success : Bool) :
    ((s.resultsOf clock kind r).countP fun v => v.hasError != success) =
      if kind = (s.dispatched m payload).invocations.1 then
        (s.dispatched m payload).invocations.2.count success
      else 0 := by
  by_cases hasks : ∃ t kind entry key calls, Asks m.caches payload t kind entry key calls
  · obtain ⟨t, kind', entry, key, calls, hasks⟩ := hasks
    obtain rfl := hasks.type_eq
    rcases comesTo_or_first_unspeakable kind' entry key calls with
      ⟨-, outcomes, houtcomes⟩ | ⟨before, c, later, p, rfl, -, hc⟩
    · obtain ⟨answer, htells, hending⟩ :=
        hasks.answered houtcomes s.settings.production s.now m.application
      have hcounted : (s.dispatched m payload).invocations = _ :=
        hasks.invocations s.settings.production s.now m.application
      have hstarted : List.Forall₂ (fun c o => StartedCall.outcome c = .ok o)
          (calls.map fun c => c.start kind' entry key) outcomes := by
        rw [List.forall₂_map_left_iff]
        exact houtcomes.imp fun c o hc => hc.outcome_start
      rw [resultsOf_of_accepted h (response_serve_of_answered h clock hending), hcounted,
        hasks.type_eq_asking]
      by_cases hkind : kind = kind'
      · subst hkind
        rw [if_pos rfl, if_pos rfl, CacheKind.count_resultsIn htells,
          (StartedCall.counted_perm hstarted).count_eq]
      · have hasking : kind'.asking ≠ kind.asking :=
          fun heq => hkind (CacheKind.asking_injective heq).symm
        rw [if_neg hasking, if_neg hkind, List.countP_nil]
    · exact absurd hc (hphrases.calls hasks c (List.mem_append_right _ List.mem_cons_self) p)
  · have hnone : ∀ t kind entry key calls, ¬ Asks m.caches payload t kind entry key calls :=
      fun t kind entry key calls hasked => hasks ⟨t, kind, entry, key, calls, hasked⟩
    obtain ⟨hcounted, hrefused⟩ :=
      invocations_of_not_asks s.settings.production s.now m.application hnone
    have hcounted : (s.dispatched m payload).invocations.2 = [] := hcounted
    have hempty : s.resultsOf clock kind r = [] := by
      unfold resultsOf
      rw [h]
      cases hresponse : (s.serve clock r).1 with
      | error p => rfl
      | ok response =>
          dsimp only
          split
          · next htype =>
            obtain ⟨e, he, hending⟩ := hrefused kind htype
            rw [response_serve_of_refused h clock he.isClientError hending] at hresponse
            cases hresponse
            exact kind.resultsIn_of_atClient he
          · rfl
    rw [hempty, hcounted]
    simp

/-- What a message is concluded with is counted with the event that tells of it. -/
theorem records_conclude {production : Bool} {ending : Ending}
    (h : ∀ e, ending = .refused e → ∃ told, e.render production = .ok told)
    (app : Application) (m : Metrics) (t : RequestType) :
    Metrics.Records m (conclude production app m t ending).2.1
      (conclude production app m t ending).2.2
      fun _ => [] := by
  cases ending with
  | answered answer => exact Metrics.records_observeRequest m app t _
  | unwound p => exact .of_eq rfl rfl rfl
  | refused e =>
      obtain ⟨⟨response, v⟩, hrender⟩ := h e rfl
      unfold conclude
      dsimp only
      rw [hrender]
      exact Metrics.records_observeRequest m app t _

/-- **A request is counted** as it is told of and answered. -/
theorem records_serve (hs : (s.mounts.map Mount.path).Nodup)
    (hphrases : ∀ m payload, s.accepted? r = some (m, payload) → s.Phrases m payload)
    (clock : Nat → String) :
    s.metrics.Records (s.serve clock r).2.metrics (s.emissions r) fun kind =>
      s.resultsOf clock kind r := by
  cases h : s.accepted? r with
  | none =>
      have hresults : (fun kind => s.resultsOf clock kind r) = fun _ => [] := by
        funext kind
        unfold resultsOf
        rw [h]
      have hemissions : s.emissions r = [] := by
        unfold emissions
        rw [h]
      rw [hresults, hemissions, serve_of_not_accepted hs h]
      split <;> exact .of_eq rfl rfl rfl
  | some a =>
      obtain ⟨m, payload⟩ := a
      have hphrases := hphrases m payload h
      have hmetrics : (s.serve clock r).2.metrics = (s.concluded m payload).2.1 := by
        rw [serve_of_accepted h]
        rfl
      have hemissions : s.emissions r =
          [⟨m.application, RequestType.ofPayload payload, .request payload⟩] ++
            ([] ++ (s.concluded m payload).2.2) := by
        unfold emissions
        rw [h]
        rfl
      have harrived := Metrics.records_request s.metrics m.application
        (RequestType.ofPayload payload) payload
      have hcalls := Metrics.records_observeInvocations s.metrics
        (s.dispatched m payload).invocations.1 (s.dispatched m payload).invocations.2
        (count_resultsOf h hphrases clock)
      have hconcluded : Metrics.Records
          (s.metrics.observeInvocations (s.dispatched m payload).invocations.1
            (s.dispatched m payload).invocations.2)
          (s.concluded m payload).2.1 (s.concluded m payload).2.2 fun _ => [] :=
        records_conclude (fun e => hphrases.render) m.application _ _
      rw [hmetrics, hemissions]
      simpa only [List.nil_append, List.append_nil] using harrived.trans (hcalls.trans hconcluded)

/-- While time passes nothing is counted but what sweeps take out. -/
theorem metrics_wait (s : State) (duration : Nat) :
    ∃ purged, (s.wait duration).metrics = { s.metrics with purged } := by
  have hsweeps : ∀ (sweeps : List (Nat × Nat)) (s : State),
      ∃ purged, (sweeps.foldl sweepAt s).metrics = { s.metrics with purged } := by
    intro sweeps
    induction sweeps with
    | nil => exact fun s => ⟨s.metrics.purged, rfl⟩
    | cons sweep rest ih => exact fun s => ih (s.sweepAt sweep)
  exact hsweeps (s.dueSweeps (s.now + duration)) s

/-- **Every step is counted** as it is told of and answered. -/
theorem records_perform (hs : (s.mounts.map Mount.path).Nodup) {step : Step}
    (hphrases : s.StepPhrases step) (clock : Nat → String) :
    s.metrics.Records (s.perform clock step).metrics (step.request?.elim [] s.emissions)
      fun kind => step.request?.elim [] (s.resultsOf clock kind) := by
  cases step with
  | request r => exact records_serve hs (fun m payload => hphrases r m payload rfl) clock
  | wait duration =>
      obtain ⟨purged, hmetrics⟩ := metrics_wait s duration
      show s.metrics.Records (s.wait duration).metrics [] fun _ => []
      rw [hmetrics]
      exact .of_eq rfl rfl rfl
  | sweep maxAge => exact .of_eq rfl rfl rfl
  | startSweeper interval maxAge =>
      show s.metrics.Records (s.startPurge interval maxAge).2.metrics [] fun _ => []
      rw [(startPurge_frame s interval maxAge).2.2.2]
      exact .of_eq rfl rfl rfl
  | clear => exact .of_eq rfl rfl rfl
  | settle =>
      show s.metrics.Records (workerSteps s.queue.events.length s).metrics [] fun _ => []
      rw [metrics_workerSteps]
      exact .of_eq rfl rfl rfl

/-! ### What a run counts -/

/-- The result entries of the kind in the answers to the requests of a run, in order. -/
def results (clock : Nat → String) (kind : CacheKind) : State → List Step → List Json
  | _, [] => []
  | s, step :: rest =>
    step.request?.elim [] (s.resultsOf clock kind) ++ results clock kind (s.perform clock step) rest

/-- **Every run is counted** as it is told of and answered: by induction on its steps. -/
theorem records_after (hs : (s.mounts.map Mount.path).Nodup) (clock : Nat → String)
    {steps : List Step} (hphrases : s.Throughout clock StepPhrases steps) :
    s.metrics.Records (s.after clock steps).metrics (s.emitted clock steps) fun kind =>
      results clock kind s steps := by
  induction steps generalizing s with
  | nil => exact .of_eq rfl rfl rfl
  | cons step rest ih =>
      obtain ⟨hstep, hrest⟩ := hphrases
      exact (records_perform hs hstep clock).trans (ih (paths_nodup_perform hs clock step) hrest)

/-- **The counters account for a run.** -/
structure Accounts (clock : Nat → String) (s : State) (steps : List Step) : Prop where
  /-- By path and type, as many webhooks have been counted as answers have been told of. -/
  requests : ∀ path (t : RequestType),
    (s.after clock steps).metrics.requests.count [path, t.name] =
    (s.emitted clock steps).countP (Event.answers path t)
  /-- By type, as many have been timed as have been counted under all paths. -/
  durations : ∀ t : RequestType, (s.after clock steps).metrics.durations.count [t.name] =
    (s.after clock steps).metrics.answered t
  /-- By kind, as many successes and failures have been counted as answers have told of calls
  without an error and with one. -/
  invocations : ∀ (kind : CacheKind) success,
    (s.after clock steps).metrics.invocations.count [kind.name, Metrics.outcomeLabel success] =
      (results clock kind s steps).countP fun v => v.hasError != success
  /-- As many entries have been counted as purged as sweeps have taken out. -/
  purged : (s.after clock steps).metrics.purged = purgedBy (s.sweepsMade clock steps)

/-- **The counters account for every run** of a service that has not counted anything and whose
applications have different paths, as those of every service that starts have
(`paths_nodup_of_build`), as long as no wording of an error panics. -/
theorem accounts_run (hs : (s.mounts.map Mount.path).Nodup) (hmetrics : s.metrics = {})
    (clock : Nat → String) (steps : List Step) (hphrases : s.Throughout clock StepPhrases steps) :
    s.Accounts clock steps := by
  obtain ⟨hrequests, hdurations, hinvocations⟩ := records_after hs clock hphrases
  rw [hmetrics] at hrequests hdurations hinvocations
  have hnothing : ∀ labels, Counter.count .empty labels = 0 := fun _ => rfl
  constructor
  case requests =>
    intro path t
    rw [hrequests, hnothing, Nat.zero_add]
  case durations =>
    intro t
    have htimed := hdurations t
    rw [hnothing, Nat.zero_add] at htimed
    exact htimed
  case invocations =>
    intro kind success
    rw [hinvocations, hnothing, Nat.zero_add]
  case purged => rw [purged_after, hmetrics, Nat.zero_add]

/-- A batch for the call `a`: a tool that there is, and one that there is not. -/
def weatherBatch : Request :=
  let arguments : Json := .object [("city", .str "Ulm"), ("state", .str "BW")]
  let call (name : String) : Json :=
    .object [("function", .object [("name", .str name), ("arguments", arguments)])]
  { weatherPost "tool-calls" "a" with
    body := Text.encodeUtf8 (Json.object [("message", .object [("type", .str "tool-calls"),
      ("call", .object [("id", .str "a")]),
      ("toolCallList", .arr [call "getWeather", call "getTides"])])]).compact }

/-- The call `a` begins and asks for both. -/
theorem accounts_run_weather :
    ∃ steps : List Step,
      steps = [.request (weatherPost "assistant-request" "a"), .request weatherBatch, .wait 1000,
        .sweep 500] ∧
      (weatherService.mounts.map Mount.path).Nodup ∧ weatherService.metrics = {} ∧
      weatherService.Throughout (fun time => toString time) StepPhrases steps ∧
      weatherService.Accounts (fun time => toString time) steps ∧
      (weatherService.after (fun time => toString time) steps).metrics.invocations.entries =
        [(["toolCall", "failure"], 1), (["toolCall", "success"], 1)] := by
  have hs : (weatherService.mounts.map Mount.path).Nodup := paths_nodup_of_build build_weather
  have hphrases : ∀ steps,
      weatherService.Throughout (fun time => toString time) StepPhrases steps := by
    intro steps
    have hspeaks := throughout_speaks worded_weatherService hs (fun time => toString time) steps
    exact hspeaks.imp fun s step => StepSpeaks.phrases
  refine ⟨_, rfl, hs, rfl, hphrases _, accounts_run hs rfl _ _ (hphrases _), ?_⟩
  decide +kernel

end State

end Switchboard

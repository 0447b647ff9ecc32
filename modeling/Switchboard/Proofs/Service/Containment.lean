import Mathlib.Data.List.Forall2
import Switchboard.Json.Equality
import Switchboard.Proofs.Service.Calls

/-!
# Misbehaving tools

What becomes of a webhook that asks for calls, whatever the handlers and hooks of the called tools
do.

* `Asks`: a payload asks for calls of the tools, or of a function, of an entry.
* `Contained`: the webhook is answered, with one event before and one after, and is counted.
* `Unwound`: it ends in a panic, is not answered normally, and leaves neither the second event nor a
  count.
* **`contained_iff`**: a webhook that asks for calls is contained, with what each call comes to in
  its answer, iff no handler returned an error whose wording panics. One such call is enough to
  unwind it.

A handler that panics, a hook that panics and an error that can be worded are all contained. The
wording of a handler's error is asked for outside of what guards the handler, which is why it is the
exception.
-/

namespace Switchboard

/-! ## Requests for calls -/

/-- **The payload asks for calls** of the tools or of a function that an entry of the caches has. -/
inductive Asks (cs : Caches) (payload : Json) :
    RequestType → CacheKind → Entry → CacheKey → List AskedCall → Prop where
  | tools {message : Json} {entry : Entry} {key : CacheKey} {elements : List Json}
      (hmessage : message = (payload.get? "message").getD .null)
      (htype : RequestType.ofPayload payload = .toolCalls) (hkey : keyOf message = .ok key)
      (hentry : cs.tools.get key = .ok entry)
      (hcalls : (message.get? "toolCallList").bind Json.arr? = some elements) :
      Asks cs payload .toolCalls .toolCall entry key (elements.map .ofElement)
  | function {message call : Json} {entry : Entry} {key : CacheKey}
      (hmessage : message = (payload.get? "message").getD .null)
      (htype : RequestType.ofPayload payload = .functionCall) (hkey : keyOf message = .ok key)
      (hentry : cs.functions.get key = .ok entry)
      (hcall : message.get? "functionCall" = some call) :
      Asks cs payload .functionCall .function entry key [.ofFunctionCall call]

/-- The outcomes of calls that an answer tells, and of which kind the calls are. -/
def Answer.callOutcomes? : Answer → Option (CacheKind × List CallOutcome)
  | toolCalls results => some (.toolCall, results.map ToolCallResult.outcome)
  | functionCall outcome => some (.function, [outcome])
  | _ => none

/-- **The webhook is answered** and counted, with an event before and an event after. -/
structure Contained (production : Bool) (app : Application) (t : RequestType) (payload : Json)
    (m : Metrics) (answer : Answer) (h : Handled) : Prop where
  reply : replyTo production h.response = .ok (.json 200 answer.toJson)
  events : h.events =
    [⟨app, t, .request payload⟩, ⟨app, t, .response (.returned answer.toJson)⟩]
  requests : h.metrics.requests = m.requests.increment [app.serverPath, t.name]

/-- **The webhook ends in a panic**, after the first event and before it is counted. -/
structure Unwound (production : Bool) (app : Application) (t : RequestType) (payload : Json)
    (m : Metrics) (p : Panic) (h : Handled) : Prop where
  reply : replyTo production h.response =
    if production then .error p else .ok (.text 500 (panicText p.message))
  events : h.events = [⟨app, t, .request payload⟩]
  requests : h.metrics.requests = m.requests

/-- A webhook that ends in a panic is not contained: its second event is missing. -/
theorem not_contained_of_unwound {production : Bool} {app : Application} {t : RequestType}
    {payload : Json} {m : Metrics} {answer : Answer} {p : Panic} {h : Handled}
    (hunwound : Unwound production app t payload m p h) :
    ¬ Contained production app t payload m answer h := by
  intro hcontained
  have hevents := hcontained.events
  rw [hunwound.events] at hevents
  cases hevents

/-- Counting invocations counts no requests. -/
theorem requests_observeInvocations (m : Metrics) (kind : CacheKind) (successes : List Bool) :
    (m.observeInvocations kind successes).requests = m.requests := by
  unfold Metrics.observeInvocations
  induction successes generalizing m with
  | nil => rfl
  | cons success rest ih => exact (ih _).trans rfl

section handling

variable {production : Bool} {now : Nat} {app : Application} {cs : Caches} {m : Metrics}
  {body : List UInt8} {payload : Json} {t : RequestType}

/-- A message that is answered is contained. -/
theorem contained_of_answered {answer : Answer} (hbody : Json.ofBytes body = .ok payload)
    (htype : RequestType.ofPayload payload = t)
    (hending : (dispatch production now app cs t payload).ending = .answered answer) :
    Contained production app t payload m answer (handle production now app cs m body) := by
  subst htype
  unfold handle
  rw [hbody]
  dsimp only
  rw [hending]
  refine ⟨rfl, rfl, ?_⟩
  show Counter.increment _ _ = _
  rw [requests_observeInvocations]

/-- A message whose handling ends in a panic unwinds. -/
theorem unwound_of_unwound {p : Panic} (hbody : Json.ofBytes body = .ok payload)
    (htype : RequestType.ofPayload payload = t)
    (hending : (dispatch production now app cs t payload).ending = .unwound p) :
    Unwound production app t payload m p (handle production now app cs m body) := by
  subst htype
  unfold handle
  rw [hbody]
  dsimp only
  rw [hending]
  exact ⟨rfl, rfl, requests_observeInvocations _ _ _⟩

end handling

/-! ## How the handling of calls ends -/

section dispatching

variable {cs : Caches} {payload : Json} {t : RequestType} {kind : CacheKind} {entry : Entry}
  {key : CacheKey} {calls : List AskedCall}

/-- The calls of a batch that come to something give the results of the batch. -/
theorem resultsOf_of_comesTo {elements : List Json} {outcomes : List CallOutcome}
    (h : List.Forall₂ (AskedCall.ComesTo .toolCall entry key)
      (elements.map .ofElement) outcomes) :
    ∃ results, resultsOf (elements.map (startToolCall entry key)) = .ok results ∧
      results.map ToolCallResult.outcome = outcomes := by
  induction elements generalizing outcomes with
  | nil =>
      cases h
      exact ⟨[], rfl, rfl⟩
  | cons element rest ih =>
      rw [List.map_cons] at h
      obtain ⟨o, os, ho, hos, rfl⟩ := List.forall₂_cons_left_iff.1 h
      obtain ⟨results, hresults, houtcomes⟩ := ih hos
      refine
        ⟨⟨textOf element "id", (AskedCall.ofElement element).name, o⟩ :: results, ?_, ?_⟩
      · rw [List.map_cons, resultsOf, result_of_comesTo ho, hresults]
      · rw [List.map_cons, houtcomes]

/-- A batch with a call that is unspeakable has no results. -/
theorem resultsOf_of_unspeakable {elements : List Json} {before later : List AskedCall}
    {c : AskedCall} {p : Panic} (h : elements.map .ofElement = before ++ c :: later)
    (hbefore : ∀ b ∈ before, ∀ q, ¬ b.Unspeakable entry q) (hc : c.Unspeakable entry p) :
    resultsOf (elements.map (startToolCall entry key)) = .error p := by
  obtain ⟨done, rest, rfl, hdone, hrest⟩ := List.map_eq_append_iff.1 h
  obtain ⟨element, others, rfl, rfl, -⟩ := List.map_eq_cons_iff.1 hrest
  rw [resultsOf_eq_error_iff]
  refine ⟨done.map (startToolCall entry key), startToolCall entry key element,
    others.map (startToolCall entry key), by rw [List.map_append, List.map_cons], ?_,
    result_of_unspeakable hc⟩
  intro b hb
  obtain ⟨e, he, rfl⟩ := List.mem_map.1 hb
  have hmem : AskedCall.ofElement e ∈ before := by
    rw [← hdone]
    exact List.mem_map_of_mem he
  rcases (AskedCall.ofElement e).comesTo_or_unspeakable .toolCall entry key with
    ⟨o, ho⟩ | ⟨q, hq⟩
  · exact ⟨_, result_of_comesTo ho⟩
  · exact absurd hq (hbefore _ hmem q)

/-- A message that asks for calls is of the type that it is dispatched by. -/
theorem Asks.type_eq (h : Asks cs payload t kind entry key calls) :
    RequestType.ofPayload payload = t := by
  cases h <;> assumption

/-- The handling of a request for calls is answered with what the calls come to. -/
theorem Asks.answered (h : Asks cs payload t kind entry key calls) {outcomes : List CallOutcome}
    (hcalls : List.Forall₂ (AskedCall.ComesTo kind entry key) calls outcomes) (production : Bool)
    (now : Nat) (app : Application) :
    ∃ answer, answer.callOutcomes? = some (kind, outcomes) ∧
      (dispatch production now app cs t payload).ending = .answered answer := by
  cases h with
  | tools hmessage htype hkey hentry helements =>
      obtain ⟨results, hresults, houtcomes⟩ := resultsOf_of_comesTo hcalls
      refine ⟨.toolCalls results, by rw [← houtcomes]; rfl, ?_⟩
      show (dispatchToolCalls cs _).ending = _
      rw [← hmessage, ending_toolCalls hkey hentry helements, hresults]
  | function hmessage htype hkey hentry hcall =>
      obtain ⟨o, os, ho, hos, rfl⟩ := List.forall₂_cons_left_iff.1 hcalls
      cases hos
      refine ⟨.functionCall o, rfl, ?_⟩
      show (dispatchFunctionCall cs _).ending = _
      rw [← hmessage, ending_functionCall hkey hentry hcall, ho.outcome_start]

/-- It panics with the first call that is unspeakable. -/
theorem Asks.unwound (h : Asks cs payload t kind entry key calls) {before later : List AskedCall}
    {c : AskedCall} {p : Panic} (hcalls : calls = before ++ c :: later)
    (hbefore : ∀ b ∈ before, ∀ q, ¬ b.Unspeakable entry q) (hc : c.Unspeakable entry p)
    (production : Bool) (now : Nat) (app : Application) :
    (dispatch production now app cs t payload).ending = .unwound p := by
  cases h with
  | tools hmessage htype hkey hentry helements =>
      show (dispatchToolCalls cs _).ending = _
      rw [← hmessage, ending_toolCalls hkey hentry helements,
        resultsOf_of_unspeakable hcalls hbefore hc]
  | @function message call entry key hmessage htype hkey hentry hcall =>
      obtain ⟨rfl, rfl, -⟩ :
          before = [] ∧ AskedCall.ofFunctionCall call = c ∧ later = [] := by
        cases before <;> simp_all
      show (dispatchFunctionCall cs _).ending = _
      rw [← hmessage, ending_functionCall hkey hentry hcall, hc.outcome_start]

end dispatching

/-! ## Containment -/

section containment

variable {cs : Caches} {body : List UInt8} {payload : Json} {t : RequestType} {kind : CacheKind}
  {entry : Entry} {key : CacheKey} {calls : List AskedCall}

/-- Either every call comes to something, or there is a first one that is unspeakable. -/
theorem comesTo_or_first_unspeakable (kind : CacheKind) (entry : Entry) (key : CacheKey)
    (calls : List AskedCall) :
    ((∀ c ∈ calls, ∀ p, ¬ c.Unspeakable entry p) ∧
        ∃ outcomes, List.Forall₂ (AskedCall.ComesTo kind entry key) calls outcomes) ∨
      ∃ before c later p, calls = before ++ c :: later ∧
        (∀ b ∈ before, ∀ q, ¬ b.Unspeakable entry q) ∧ c.Unspeakable entry p := by
  induction calls with
  | nil => exact .inl ⟨by simp, [], .nil⟩
  | cons call rest ih =>
      rcases call.comesTo_or_unspeakable kind entry key with ⟨o, ho⟩ | ⟨p, hp⟩
      · have hcall : ∀ q, ¬ call.Unspeakable entry q := fun q => ho.not_unspeakable
        rcases ih with ⟨hrest, os, hos⟩ | ⟨before, c, later, p, rfl, hbefore, hc⟩
        · exact .inl ⟨List.forall_mem_cons.2 ⟨hcall, hrest⟩, o :: os, .cons ho hos⟩
        · exact .inr ⟨call :: before, c, later, p, rfl,
            List.forall_mem_cons.2 ⟨hcall, hbefore⟩, hc⟩
      · exact .inr ⟨[], call, rest, p, rfl, by simp, hp⟩

/-- **What becomes of a webhook that asks for calls.** -/
structure Containment (production : Bool) (now : Nat) (app : Application) (cs : Caches)
    (m : Metrics) (body : List UInt8) (payload : Json) (t : RequestType) (kind : CacheKind)
    (entry : Entry) (key : CacheKey) (calls : List AskedCall) : Prop where
  /-- It is answered iff no handler that was run returned an error whose wording panics. -/
  contained_iff : (∃ answer, Contained production app t payload m answer
    (handle production now app cs m body)) ↔ ∀ c ∈ calls, ∀ p, ¬ c.Unspeakable entry p
  /-- Its answer then tells what each of the calls comes to, in order. -/
  outcomes : (∀ c ∈ calls, ∀ p, ¬ c.Unspeakable entry p) → ∃ answer outcomes,
    Contained production app t payload m answer (handle production now app cs m body) ∧
      answer.callOutcomes? = some (kind, outcomes) ∧
      List.Forall₂ (AskedCall.ComesTo kind entry key) calls outcomes
  /-- It panics otherwise, with the panic of the first such call. -/
  unwound : ∀ before c later p, calls = before ++ c :: later →
    (∀ b ∈ before, ∀ q, ¬ b.Unspeakable entry q) → c.Unspeakable entry p →
    Unwound production app t payload m p (handle production now app cs m body)

/-- **Tools are contained but for errors without wording**, in production and outside of it. -/
theorem calls_contained (hbody : Json.ofBytes body = .ok payload)
    (hasks : Asks cs payload t kind entry key calls) (production : Bool) (now : Nat)
    (app : Application) (m : Metrics) :
    Containment production now app cs m body payload t kind entry key calls := by
  have hunwound : ∀ before c later p, calls = before ++ c :: later →
      (∀ b ∈ before, ∀ q, ¬ b.Unspeakable entry q) → c.Unspeakable entry p →
      Unwound production app t payload m p (handle production now app cs m body) := by
    intro before c later p hcalls hbefore hc
    exact unwound_of_unwound hbody hasks.type_eq
      (hasks.unwound hcalls hbefore hc production now app)
  have houtcomes : (∀ c ∈ calls, ∀ p, ¬ c.Unspeakable entry p) → ∃ answer outcomes,
      Contained production app t payload m answer (handle production now app cs m body) ∧
        answer.callOutcomes? = some (kind, outcomes) ∧
        List.Forall₂ (AskedCall.ComesTo kind entry key) calls outcomes := by
    intro hspeakable
    rcases comesTo_or_first_unspeakable kind entry key calls with
      ⟨-, outcomes, houtcomes⟩ | ⟨before, c, later, p, rfl, -, hc⟩
    · obtain ⟨answer, hanswer, hending⟩ := hasks.answered houtcomes production now app
      exact ⟨answer, outcomes, contained_of_answered hbody hasks.type_eq hending,
        hanswer, houtcomes⟩
    · exact absurd hc (hspeakable c (by simp) p)
  refine ⟨⟨?_, ?_⟩, houtcomes, hunwound⟩
  · rintro ⟨answer, hcontained⟩
    rcases comesTo_or_first_unspeakable kind entry key calls with
      ⟨hspeakable, -⟩ | ⟨before, c, later, p, heq, hbefore, hc⟩
    · exact hspeakable
    · exact absurd hcontained (not_contained_of_unwound (hunwound before c later p heq hbefore hc))
  · intro hspeakable
    obtain ⟨answer, outcomes, hcontained, -, -⟩ := houtcomes hspeakable
    exact ⟨answer, hcontained⟩

end containment

/-! ## A tool whose error has no wording -/

namespace Unspeakable

/-- The tool `bad` returns an error whose wording panics. -/
def bad : ToolDefinition :=
  .constant "bad" (by decide) (.failed ⟨.error (.text "no wording"), []⟩)

/-- The tool `good` returns a text. -/
def good : ToolDefinition := .constant "good" (by decide) (.returned "done")

/-- Where the tools are registered. -/
def key : CacheKey := ⟨"S", defaultAssistant⟩

/-- The entry with both tools. -/
def entry : Entry := ((Entry.new key 0).insert bad).insert good

/-- The caches with that entry. -/
def caches : Caches :=
  { Caches.new with tools := { FunctionCache.new .toolCall
    with entries := Table.empty.insert key entry } }

/-- A message that asks for both tools. -/
def payload : Json :=
  .object [("message", .object [("type", .str RequestType.toolCalls.name),
    ("call", .object [("id", .str key.session)]),
    ("toolCallList", .arr [plainElement "1" "bad", plainElement "2" "good"])])]

/-- The body that the message arrives in. -/
def body : List UInt8 := Text.encodeUtf8 payload.compact

/-- The calls that the message asks for. -/
def calls : List AskedCall := [plainElement "1" "bad", plainElement "2" "good"].map .ofElement

/-- The tool `good` is kept from answering, and the second event and the count are lost with it. -/
theorem calls_contained_bad :
    Json.ofBytes body = .ok payload ∧ Asks caches payload .toolCalls .toolCall entry key calls ∧
      (¬ ∃ answer, Contained false { config := {} } .toolCalls payload {} answer
        (handle false 0 { config := {} } caches {} body)) ∧
      Unwound false { config := {} } .toolCalls payload {} (.text "no wording")
        (handle false 0 { config := {} } caches {} body) := by
  have hread : (Json.ofBytes body).toOption = some payload := by decide +kernel
  have hbody : Json.ofBytes body = .ok payload := by
    cases hb : Json.ofBytes body with
    | error e => simp [hb, Except.toOption] at hread
    | ok v => simpa [hb, Except.toOption] using hread
  have hasks : Asks caches payload .toolCalls .toolCall entry key calls :=
    .tools rfl (by decide +kernel) rfl rfl rfl
  have hbad : (AskedCall.ofElement (plainElement "1" "bad")).Unspeakable entry
      (.text "no wording") :=
    ⟨.null, bad, ⟨[]⟩, ⟨.error (.text "no wording"), []⟩, ⟨rfl, rfl, rfl⟩, rfl, rfl⟩
  have hcontainment := calls_contained hbody hasks false 0 { config := {} } {}
  refine ⟨hbody, hasks, fun hcontained => ?_, hcontainment.unwound [] _ _ _ rfl (by simp) hbad⟩
  exact hcontainment.contained_iff.1 hcontained _ List.mem_cons_self _ hbad

end Unspeakable

end Switchboard

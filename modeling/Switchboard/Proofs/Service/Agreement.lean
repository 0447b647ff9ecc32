import Switchboard.Proofs.Cache.Declarations
import Switchboard.Proofs.Service.Encodings
import Switchboard.Proofs.Service.Wording

/-!
# Tool calls and function calls agree

The same definitions can be declared as tools and as functions. A batch with one tool call and a
function call take a name and arguments from different members of their messages, and answer with
values of different forms. They come to the same nevertheless.

* `PostsCall`: the body that asks for one call, of a tool or of a function.
* `Caches.Declared`: what both caches have been given under a key.
* `PostsCall.exists_dispatch`: what becomes of such a body, for both kinds of calls at once.
  `endsIn_of_refused` and `endsIn_of_answered` say in which response that ends.
* `Outcomes`: the outcomes of the two calls, which are the same, or name the kind of what is not
  there.
* `ReadAlike`: what is read in the answers.
* **`calls_agree`**: a tool call and a function call agree.
-/

namespace Switchboard

/-! ## Asking for one call -/

/-- The message is about a session and an assistant. -/
structure IsAbout (message : Json) (key : CacheKey) : Prop where
  session_eq : message.at? ["call", "id"] = some (.str key.session)
  assistant_eq : assistantOf message = key.assistant

/-- **The body asks for one call** of a tool or of a function, by its name and with a value for its
arguments. A tool call has an id besides. -/
inductive PostsCall (key : CacheKey) (id name : String) (v : Json) :
    CacheKind → List UInt8 → Prop where
  /-- A batch with one element. -/
  | tool {body : List UInt8} {payload element : Json} (hbody : Json.ofBytes body = .ok payload)
      (htype : RequestType.ofPayload payload = .toolCalls) (hkey : IsAbout (messageOf payload) key)
      (hcalls : ((messageOf payload).get? "toolCallList").bind Json.arr? = some [element])
      (hid : elementId element = id) (hname : elementName element = name)
      (hv : Encodes (elementArguments element) v) : PostsCall key id name v .toolCall body
  /-- A function call. -/
  | function {body : List UInt8} {payload call : Json} (hbody : Json.ofBytes body = .ok payload)
      (htype : RequestType.ofPayload payload = .functionCall)
      (hkey : IsAbout (messageOf payload) key)
      (hcall : (messageOf payload).get? "functionCall" = some call)
      (hname : textOf call "name" = name) (hv : (call.get? "parameters").getD .null = v) :
      PostsCall key id name v .function body

/-- The answer to a message that asks for one call. -/
def Answer.ofCall (id name : String) (o : CallOutcome) : CacheKind → Answer
  | .toolCall => .toolCalls [⟨id, name, o⟩]
  | .function => .functionCall o

/-- **The definitions have been declared in both caches**, at any times, and whatever else has been
done with them. -/
def Caches.Declared (cs : Caches) (key : CacheKey) (ds : List ToolDefinition) : Prop :=
  ∀ kind, ∃ start h,
    cs.of kind = (FunctionCache.run (FunctionCache.fresh kind start) h).cache ∧
    FunctionCache.Declares key h ds

/-- A message about a key has this key, unless it names no session. -/
theorem IsAbout.keyOf_eq {message : Json} {key : CacheKey} (h : IsAbout message key) :
    keyOf message = if key.session = "" then .error missingSession else .ok key := by
  unfold keyOf sessionOf?
  rw [h.session_eq, h.assistant_eq]
  by_cases hempty : key.session = "" <;> simp [hempty, Json.str?, Option.filter]

/-! ## What becomes of it -/

/-- What becomes of one call that has been started. -/
def Dispatch.ofCall (cs : Caches) (kind : CacheKind) (id name : String) (started : StartedCall) :
    Dispatch where
  ending :=
    match started.outcome with
    | .ok o => .answered (.ofCall id name o kind)
    | .error p => .unwound p
  caches := cs
  invocations := (kind, StartedCall.counted [started])
  handlerCalls := started.handlerCalls

/-- The handling ended in a response, with the caches as they are given, and has called the
handlers. -/
structure Handled.EndsIn (h : Handled) (r : Response) (cs : Caches) (calls : List HandlerCall) :
    Prop where
  response_eq : h.response = .ok r
  caches_eq : h.caches = cs
  handlerCalls_eq : h.handlerCalls = calls

section handling

variable {production : Bool} {now : Nat} {app : Application} {cs : Caches} {m : Metrics}
  {key : CacheKey} {id name : String} {v payload : Json} {kind : CacheKind} {body : List UInt8}
  {t : RequestType}

/-- A batch with one call comes to what the call comes to. -/
theorem ofStarted_singleton (cs : Caches) (id name : String) (started : StartedCall) :
    Dispatch.ofStarted cs [⟨id, name, started⟩] = .ofCall cs .toolCall id name started := by
  unfold Dispatch.ofStarted Dispatch.ofCall resultsOf StartedToolCall.result
  cases started.outcome <;> simp [Except.map, resultsOf, Answer.ofCall]

/-- **What becomes of a body that asks for one call**, whatever the kind of the call. -/
theorem PostsCall.exists_dispatch (h : PostsCall key id name v kind body)
    (production : Bool) (now : Nat) (app : Application) (cs : Caches) :
    ∃ payload, Json.ofBytes body = .ok payload ∧ RequestType.ofPayload payload = kind.asking ∧
      dispatch production now app cs kind.asking payload =
        if key.session = "" then .ended (.refused (.api missingSession)) cs
        else
          match (cs.of kind).get key with
          | .error e => .ended (.refused (.api (.ofCacheError e))) cs
          | .ok entry => .ofCall cs kind id name (.start kind entry key name v) := by
  cases h with
  | @tool _ payload element hbody htype hkey hcalls hid hname hv =>
      refine ⟨payload, hbody, htype, ?_⟩
      have hcache : cs.of .toolCall = cs.tools := rfl
      show dispatchToolCalls cs (messageOf payload) = _
      unfold dispatchToolCalls
      rw [hkey.keyOf_eq, hcache]
      by_cases hempty : key.session = ""
      · simp only [hempty, if_true]
      · simp only [hempty, if_false]
        cases cs.tools.get key with
        | error e => rfl
        | ok entry =>
            have hstarted : startToolCall entry key element =
                ⟨id, name, .start .toolCall entry key name v⟩ := by
              rw [startToolCall_of_encodes hv, hid, hname]
            dsimp only
            rw [hcalls, ← ofStarted_singleton, ← hstarted]
            rfl
  | @function _ payload call hbody htype hkey hcall hname hv =>
      refine ⟨payload, hbody, htype, ?_⟩
      have hcache : cs.of .function = cs.functions := rfl
      show dispatchFunctionCall cs (messageOf payload) = _
      unfold dispatchFunctionCall
      rw [hkey.keyOf_eq, hcache]
      by_cases hempty : key.session = ""
      · simp only [hempty, if_true]
      · simp only [hempty, if_false]
        cases cs.functions.get key with
        | error e => rfl
        | ok entry =>
            dsimp only
            rw [hcall, ← hname, ← hv]
            rfl

/-- The handling of a body ends in the response in which the handling of its message ends. -/
theorem endsIn_of_dispatch {d : Dispatch} {r : Response} (hbody : Json.ofBytes body = .ok payload)
    (htype : RequestType.ofPayload payload = t)
    (hdispatch : dispatch production now app cs t payload = d)
    (hresponse : ∀ m, (conclude production app m t d.ending).1 = .ok r) :
    (handle production now app cs m body).EndsIn r d.caches d.handlerCalls := by
  subst htype hdispatch
  unfold handle
  rw [hbody]
  exact ⟨hresponse _, rfl, rfl⟩

/-- A refused message ends in the answer of its error and changes nothing. -/
theorem endsIn_of_refused {e : ApiError} (he : e.AtClient) (hbody : Json.ofBytes body = .ok payload)
    (htype : RequestType.ofPayload payload = t)
    (hdispatch : dispatch production now app cs t payload = .ended (.refused (.api e)) cs) :
    (handle production now app cs m body).EndsIn e.response cs [] := by
  apply endsIn_of_dispatch hbody htype hdispatch
  intro m
  simp only [Dispatch.ended, conclude, WebhookError.render_api he]

/-- A call with an outcome ends in the answer with this outcome and changes no cache. -/
theorem endsIn_of_answered {o : CallOutcome} {started : StartedCall}
    (houtcome : started.outcome = .ok o) (hbody : Json.ofBytes body = .ok payload)
    (htype : RequestType.ofPayload payload = t)
    (hdispatch : dispatch production now app cs t payload = .ofCall cs kind id name started) :
    (handle production now app cs m body).EndsIn
      (.json 200 (Answer.ofCall id name o kind).toJson) cs
      started.handlerCalls := by
  apply endsIn_of_dispatch hbody htype hdispatch
  intro m
  simp only [Dispatch.ofCall, houtcome, conclude]

end handling

/-! ## Outcomes of the two calls -/

/-- **The outcomes of a tool call and of a function call** by one name and with one value for
arguments, where the definitions `ds` have been declared as tools and as functions. -/
inductive Outcomes (key : CacheKey) (ds : List ToolDefinition) (name : String) (v : Json) :
    CallOutcome → CallOutcome → Prop where
  /-- Nothing of that name has been declared, which is told of a tool and of a function. -/
  | unknown (hname : ∀ d ∈ ds, d.name ≠ name) :
      Outcomes key ds name v (.failure (CacheError.functionNotFound .toolCall key name).message)
        (.failure (CacheError.functionNotFound .function key name).message)
  /-- The first definition of that name has been invoked, and both are told what came of it. -/
  | invoked {d : ToolDefinition} {o : CallOutcome} (hd : ds.find? (fun d => d.name = name) = some d)
      (ho : (StartedCall.ran (d.invokeWithHooks key v)).outcome = .ok o) :
      Outcomes key ds name v o o

/-- **An entry of a batch and the answer to a function call read alike.** -/
inductive ReadAlike (key : CacheKey) (name : String) (r f : Json) : Prop where
  /-- Both tell the same result and no error. -/
  | success {s : String} (hresult : r.get? "result" = some (.str s))
      (herror : r.get? "error" = none) (hresult' : f.get? "result" = some (.str s))
      (herror' : f.get? "error" = none) (hmessages : r.get? "message" = f.get? "message")
  /-- Both tell the same error, up to the kind of what is not there. The result of the function is
  empty. -/
  | failure {s s' : String}
      (hs : s = s' ∨ (s = (CacheError.functionNotFound .toolCall key name).message ∧
        s' = (CacheError.functionNotFound .function key name).message))
      (hresult : r.get? "result" = none) (herror : r.get? "error" = some (.str s))
      (hresult' : f.get? "result" = some (.str "")) (herror' : f.get? "error" = some (.str s'))
      (hmessages : r.get? "message" = f.get? "message")

section outcomes

variable {key : CacheKey} {ds : List ToolDefinition} {name : String} {v : Json}

/-- What the JSON form of an outcome holds: a result, which is empty beside an error. -/
theorem CallOutcome.get?_toJson (o : CallOutcome) :
    o.toJson.get? "result" = some (.str (o.result.toOption.getD "")) ∧
      o.toJson.get? "error" =
        match o.result with
        | .ok _ => none
        | .error text => some (.str text) := by
  unfold toJson messagesMember
  simp only [Json.get?_object]
  cases o.messages.isEmpty <;> cases o.result <;> simp [Json.member?, Except.toOption]

/-- The messages stand under the same name, and only if there are any. -/
theorem get?_message_toJson (r : ToolCallResult) (o : CallOutcome)
    (h : r.outcome.messages = o.messages) :
    r.toJson.get? "message" = o.toJson.get? "message" := by
  unfold ToolCallResult.toJson CallOutcome.toJson messagesMember
  simp only [Json.get?_object, h]
  cases o.messages.isEmpty <;> cases o.result <;> cases r.outcome.result <;> simp [Json.member?]

/-- Outcomes of one call of either kind are read alike. -/
theorem Outcomes.readAlike {o o' : CallOutcome} (h : Outcomes key ds name v o o') (id : String) :
    ReadAlike key name (ToolCallResult.mk id name o).toJson o'.toJson := by
  obtain ⟨-, -, hresult, herror⟩ := (ToolCallResult.mk id name o).get?_toJson
  obtain ⟨hresult', herror'⟩ := o'.get?_toJson
  cases h with
  | unknown _ =>
      exact .failure (.inr ⟨rfl, rfl⟩) hresult herror hresult' herror'
        (get?_message_toJson _ _ rfl)
  | invoked _ _ =>
      have hmessages := get?_message_toJson (ToolCallResult.mk id name o) o rfl
      cases ho : o.result with
      | ok s =>
          simp only [ho] at hresult herror hresult' herror'
          exact .success hresult herror hresult' herror' hmessages
      | error s =>
          simp only [ho] at hresult herror hresult' herror'
          exact .failure (.inl rfl) hresult herror hresult' herror' hmessages

/-- An invocation has an outcome if the error in which it ends has a wording. -/
theorem ToolDefinition.Worded.exists_outcome {d : ToolDefinition} (h : d.Worded)
    (key : CacheKey) (v : Json) :
    ∃ o, (StartedCall.ran (d.invokeWithHooks key v)).outcome = .ok o := by
  have hends := ToolDefinition.ends_invoke d v
  have hworded : ∀ e, (d.invoke v).result = .error e → ∃ s, e.text = .ok s := by
    intro e he
    rw [he] at hends
    generalize (d.invoke v).handlerCalls.map HandlerCall.arguments = given at hends
    cases hends with
    | unbound _ => exact ⟨_, rfl⟩
    | panicked _ _ => exact ⟨_, rfl⟩
    | failed _ hf =>
        obtain ⟨s, hs⟩ := h _ _ hf
        simp [InvocationError.text, InvocationCause.text, hs, Except.map]
  simp only [StartedCall.outcome, result_invokeWithHooks]
  cases hresult : (d.invoke v).result with
  | ok s => exact ⟨_, rfl⟩
  | error e =>
      obtain ⟨s, hs⟩ := hworded e hresult
      simp [hs, Except.map]

/-- Entries that have the declared definitions start calls with outcomes that agree, and with the
same calls of handlers. -/
theorem exists_outcomes (hworded : ∀ d ∈ ds, d.Worded) {tools functions : Entry}
    (htools : ∀ name, tools.get? name = ds.find? fun d => d.name = name)
    (hfunctions : ∀ name, functions.get? name = ds.find? fun d => d.name = name) (key : CacheKey)
    (name : String) (v : Json) :
    ∃ o o', Outcomes key ds name v o o' ∧
      (StartedCall.start .toolCall tools key name v).outcome = .ok o ∧
      (StartedCall.start .function functions key name v).outcome = .ok o' ∧
      (StartedCall.start .toolCall tools key name v).handlerCalls =
        (StartedCall.start .function functions key name v).handlerCalls := by
  unfold StartedCall.start
  rw [htools, hfunctions]
  cases hd : ds.find? fun d => d.name = name with
  | none => exact ⟨_, _, .unknown (by simpa using hd), rfl, rfl, rfl⟩
  | some d =>
      obtain ⟨o, ho⟩ := (hworded d (List.mem_of_find?_eq_some hd)).exists_outcome key v
      exact ⟨o, o, .invoked hd ho, ho, ho, rfl⟩

end outcomes

/-! ## Agreement -/

/-- **A tool call and a function call agree**, by one name and with one value for arguments, where
the definitions `ds` have been declared as tools and as functions: what is given is how the handling
of each ended. -/
structure CallsAgree (cs : Caches) (key : CacheKey) (ds : List ToolDefinition)
    (id name : String) (v : Json) (tool function : Handled) : Prop where
  /-- Without a session both are refused, in the same words. -/
  sessionless : key.session = "" →
    tool.EndsIn missingSession.response cs [] ∧ function.EndsIn missingSession.response cs []
  /-- If nothing has been declared both are refused, in the same words up to the kind of what is not
  there. -/
  undeclared : key.session ≠ "" → ds = [] →
    tool.EndsIn (ApiError.notFound (CacheError.notFound .toolCall key).message).response cs [] ∧
      function.EndsIn (ApiError.notFound (CacheError.notFound .function key).message).response cs []
  /-- Otherwise both are answered. Their outcomes agree, and so does what is read in the answers;
  the same handlers have been called. An answer to a function call tells of an error iff the call
  has failed. -/
  answered : key.session ≠ "" → ds ≠ [] → ∃ o o' calls, Outcomes key ds name v o o' ∧
    tool.EndsIn (.json 200 (Answer.toolCalls [⟨id, name, o⟩]).toJson) cs calls ∧
    function.EndsIn (.json 200 (Answer.functionCall o').toJson) cs calls ∧
    ReadAlike key name (ToolCallResult.mk id name o).toJson (Answer.functionCall o').toJson ∧
    ((Answer.functionCall o').toJson.get? "error" = none ↔ o'.success = true)

/-- **A call of a tool and a call of a function agree** where both kinds have the same definitions:
whatever the name and the arguments are, they come to the same, are answered with the same result or
error, and call the same handler. -/
theorem calls_agree {cs : Caches} {key : CacheKey} {ds : List ToolDefinition}
    {id name : String} {v : Json} {body body' : List UInt8} (hdeclared : cs.Declared key ds)
    (hworded : ∀ d ∈ ds, d.Worded) (htool : PostsCall key id name v .toolCall body)
    (hfunction : PostsCall key id name v .function body') (production : Bool) (now : Nat)
    (app : Application) (m : Metrics) :
    CallsAgree cs key ds id name v (handle production now app cs m body)
      (handle production now app cs m body') := by
  obtain ⟨payload, hbody, htype, hdispatch⟩ := htool.exists_dispatch production now app cs
  obtain ⟨payload', hbody', htype', hdispatch'⟩ :=
    hfunction.exists_dispatch production now app cs
  have hholds : ∀ kind, (cs.of kind).kind = kind ∧ (cs.of kind).Holds key ds := by
    intro kind
    obtain ⟨start, h, hcache, hdeclares⟩ := hdeclared kind
    rw [hcache]
    exact ⟨FunctionCache.kind_run _ _, FunctionCache.holds_of_declares hdeclares kind start⟩
  obtain ⟨hkind, htools⟩ := hholds .toolCall
  obtain ⟨hkind', hfunctions⟩ := hholds .function
  constructor
  case sessionless =>
    intro hempty
    rw [if_pos hempty] at hdispatch hdispatch'
    exact ⟨endsIn_of_refused (.inl rfl) hbody htype hdispatch,
      endsIn_of_refused (.inl rfl) hbody' htype' hdispatch'⟩
  case undeclared =>
    rintro hsession rfl
    rw [if_neg hsession] at hdispatch hdispatch'
    cases htools with
    | nothing htools =>
        cases hfunctions with
        | nothing hfunctions =>
            rw [htools, hkind] at hdispatch
            rw [hfunctions, hkind'] at hdispatch'
            exact ⟨endsIn_of_refused (.inr rfl) hbody htype hdispatch,
              endsIn_of_refused (.inr rfl) hbody' htype' hdispatch'⟩
  case answered =>
    intro hsession hds
    rw [if_neg hsession] at hdispatch hdispatch'
    cases htools with
    | nothing _ => exact absurd rfl hds
    | entry hentry hget =>
        cases hfunctions with
        | entry hentry' hget' =>
            rw [hentry] at hdispatch
            rw [hentry'] at hdispatch'
            obtain ⟨o, o', houtcomes, ho, ho', hcalls⟩ :=
              exists_outcomes hworded hget hget' key name v
            refine ⟨o, o', _, houtcomes, endsIn_of_answered ho hbody htype hdispatch, ?_,
              houtcomes.readAlike id, ?_⟩
            · rw [hcalls]
              exact endsIn_of_answered ho' hbody' htype' hdispatch'
            · show o'.toJson.get? "error" = none ↔ _
              rw [o'.get?_toJson.2, CallOutcome.success]
              cases o'.result <;> simp

/-! ### A tool that notes something -/

namespace Agreement

/-- A tool whose text nobody waits for, and a tool that fails. -/
def tools : List ToolDefinition :=
  [{ ToolDefinition.constant "note" (by decide) (.returned "noted") with fireAndForget := true },
    .constant "ask" (by decide) (.failed (.ofText "nobody there"))]

/-- What the tools are declared under. -/
def key : CacheKey := ⟨"S", defaultAssistant⟩

/-- The caches in which they have been declared. -/
def caches : Caches :=
  ⟨(FunctionCache.run (FunctionCache.fresh .toolCall 0) (tools.map (.add key))).cache,
    (FunctionCache.run (FunctionCache.fresh .function 0) (tools.map (.add key))).cache⟩

/-- The arguments of the calls. -/
def arguments : Json := .object [("text", .str "milk")]

/-- A message about the session. -/
def message (type : RequestType) (members : List (String × Json)) : Json :=
  .object [("message",
    .object ([("type", .str type.name), ("call", .object [("id", .str key.session)])] ++ members))]

/-- The element that asks for a tool. -/
def element : Json :=
  .object [("id", .str "1"),
    ("function", .object [("name", .str "note"), ("arguments", arguments)])]

/-- A message that asks for a tool. -/
def toolMessage : Json := message .toolCalls [("toolCallList", .arr [element])]

/-- A message that asks for a function. -/
def functionMessage : Json :=
  message .functionCall [("functionCall",
    .object [("name", .str "note"), ("parameters", arguments)])]

/-- The body that a message arrives in. -/
def body (payload : Json) : List UInt8 := Text.encodeUtf8 payload.compact

/-- They agree on a tool that takes a note. -/
theorem calls_agree_note :
    caches.Declared key tools ∧ (∀ d ∈ tools, d.Worded) ∧
      PostsCall key "1" "note" arguments .toolCall (body toolMessage) ∧
      PostsCall key "1" "note" arguments .function (body functionMessage) ∧
      CallsAgree caches key tools "1" "note" arguments
        (handle true 0 { config := {} } caches {} (body toolMessage))
        (handle true 0 { config := {} } caches {} (body functionMessage)) := by
  have hread : ∀ payload ∈ [toolMessage, functionMessage],
      Json.ofBytes (body payload) = .ok payload := by
    have hreads : ∀ payload ∈ [toolMessage, functionMessage],
        (Json.ofBytes (body payload)).toOption = some payload := by
      decide +kernel
    intro payload hpayload
    exact Json.eq_ok_of_toOption_eq (x := .ok payload) (hreads payload hpayload).symm rfl
  have hdeclared : caches.Declared key tools := by
    intro kind
    refine ⟨0, tools.map (.add key), ?_, FunctionCache.declares_adds key tools⟩
    cases kind <;> rfl
  have hworded : ∀ d ∈ tools, d.Worded := by
    intro d hd as f hf
    simp only [tools, List.mem_cons, List.not_mem_nil, or_false] at hd
    rcases hd with rfl | rfl
    · cases hf
    · cases hf
      exact ⟨"nobody there", rfl⟩
  have htool : PostsCall key "1" "note" arguments .toolCall (body toolMessage) :=
    .tool (hread _ (by simp)) (by decide +kernel) ⟨rfl, rfl⟩ rfl rfl rfl (.value rfl)
  have hfunction : PostsCall key "1" "note" arguments .function (body functionMessage) :=
    .function (hread _ (by simp)) (by decide +kernel) ⟨rfl, rfl⟩ rfl rfl rfl
  exact ⟨hdeclared, hworded, htool, hfunction,
    calls_agree hdeclared hworded htool hfunction true 0 { config := {} } {}⟩

end Agreement

end Switchboard

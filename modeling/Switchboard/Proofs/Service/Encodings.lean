import Switchboard.Proofs.Json.Spacing
import Switchboard.Proofs.Service.Accounts

/-!
# Encodings of arguments

An element of a batch brings the arguments of its call as a value, as a text that holds one, or not
at all. What is done with the call depends on the value alone, so that the encodings of one value
can stand for each other.

* `Encodes`: what the member for the arguments, or its absence, stands for.
  `arguments_ofElement_eq_ok_iff`: a call is asked for with a value iff the element encodes it.
* `startToolCall_of_encodes`, `startToolCall_congr`: a call is started with the value that is
  encoded, and so elements that ask for the same call (`SameCall`) are started alike.
* `StartedCall.Agrees`: calls that differ in their messages alone, as those without arguments and
  those with the empty object do, because hooks see the arguments as they are.
* `PostsBatch`, `Handled.Alike`: the webhook that asks for a batch, and webhooks that come to the
  same. `PostsBatch.effects`, `PostsBatch.effects_of_settled`: what a batch is counted as, and what
  an element adds to that whose call fails at its start.
* **`encodings_interchangeable`**: what depends on the encoding of arguments, and what does not.
-/

namespace Switchboard

/-! ## What stands for a value -/

/-- **The member for the arguments, or its absence, stands for a value.** -/
inductive Encodes : Option Json → Json → Prop where
  /-- There is none. -/
  | absent : Encodes none .null
  /-- The value itself, if it is not a text. -/
  | value {v : Json} (h : v.str? = none) : Encodes (some v) v
  /-- A blank text. -/
  | blank {s : String} (h : Text.allBlank s = true) : Encodes (some (.str s)) .null
  /-- A text that denotes the value. -/
  | text {s : String} {v : Json} (h : Json.ofText s = .ok v) : Encodes (some (.str s)) v

/-- The arguments of a function are the value that its member encodes. -/
theorem toolArguments_eq_ok_iff {function v : Json} :
    toolArguments function = .ok v ↔ Encodes (function.get? "arguments") v := by
  unfold toolArguments
  generalize function.get? "arguments" = encoded
  constructor
  · intro h
    split at h
    · split at h
      · next hblank =>
        cases h
        exact .blank hblank
      · exact .text h
    · next w hw =>
      cases h
      exact .value (by cases v <;> first | rfl | exact absurd rfl (hw _))
    · cases h
      exact .absent
  · intro h
    cases h with
    | absent => rfl
    | value h => cases v <;> first | rfl | cases h
    | blank h => exact if_pos h
    | @text s v h =>
        have hblank : ¬ Text.allBlank s = true := fun hblank => Json.ofText_of_allBlank hblank v h
        exact (if_neg hblank).trans h

/-- The arguments cannot be read iff the member is a text that is not blank and not JSON. -/
theorem toolArguments_eq_error_iff {function : Json} {e : Json.SyntaxError} :
    toolArguments function = .error e ↔
      ∃ s, function.get? "arguments" = some (.str s) ∧ Text.allBlank s = false ∧
        Json.ofText s = .error e := by
  unfold toolArguments
  generalize function.get? "arguments" = encoded
  constructor
  · intro h
    split at h
    · next s =>
      split at h
      · cases h
      · next hblank => exact ⟨s, rfl, by simpa using hblank, h⟩
    · cases h
    · cases h
  · rintro ⟨s, rfl, hblank, h⟩
    simp [hblank, h]

/-! ## Elements that ask for the same call -/

/-- The member for the arguments of the call that an element asks for. -/
def elementArguments (element : Json) : Option Json := element.at? ["function", "arguments"]

/-- The arguments of an element are the value that its member encodes. -/
theorem arguments_ofElement_eq_ok_iff {element v : Json} :
    (AskedCall.ofElement element).arguments = .ok v ↔ Encodes (elementArguments element) v := by
  unfold elementArguments
  rw [at?_function]
  exact toolArguments_eq_ok_iff

/-- The arguments of an element cannot be read iff its member is a text that is not blank and not
JSON. -/
theorem arguments_ofElement_eq_error_iff {element : Json} {e : Json.SyntaxError} :
    (AskedCall.ofElement element).arguments = .error e ↔
      ∃ s, elementArguments element = some (.str s) ∧ Text.allBlank s = false ∧
        Json.ofText s = .error e := by
  unfold elementArguments
  rw [at?_function]
  exact toolArguments_eq_error_iff

/-- The elements ask for a call by the same id and name. -/
structure SameTool (element element' : Json) : Prop where
  id_eq : elementId element = elementId element'
  name_eq : elementName element = elementName element'

/-- **The elements ask for the same call**: with encodings of one value. -/
structure SameCall (element element' : Json) : Prop extends SameTool element element' where
  encoded : ∃ v, Encodes (elementArguments element) v ∧ Encodes (elementArguments element') v

/-- **A call is started with the value** that its element encodes. -/
theorem startToolCall_of_encodes {element v : Json} (h : Encodes (elementArguments element) v)
    (entry : Entry) (key : CacheKey) :
    startToolCall entry key element =
      ⟨elementId element, elementName element,
        .start .toolCall entry key (elementName element) v⟩ := by
  rw [startToolCall_eq, AskedCall.start, arguments_ofElement_eq_ok_iff.2 h, name_ofElement]
  rfl

/-- Elements that ask for the same call are started alike. -/
theorem startToolCall_congr {element element' : Json} (h : SameCall element element')
    (entry : Entry) (key : CacheKey) :
    startToolCall entry key element = startToolCall entry key element' := by
  obtain ⟨v, hv, hv'⟩ := h.encoded
  rw [startToolCall_of_encodes hv, startToolCall_of_encodes hv', h.id_eq, h.name_eq]

/-- The result of an element is the outcome of its call under its id and name. -/
theorem result_eq_map (entry : Entry) (key : CacheKey) (element : Json) :
    (startToolCall entry key element).result =
      (startToolCall entry key element).call.outcome.map fun o =>
        ⟨elementId element, elementName element, o⟩ := by
  rw [← name_ofElement]
  rfl

/-! ## Calls that differ in their messages -/

namespace StartedCall

/-- The calls of hooks. -/
def hookCalls : StartedCall → List HookCall
  | settled _ => []
  | ran i => i.hookCalls

/-- **The calls differ in their messages alone.** -/
structure Agrees (c c' : StartedCall) : Prop where
  result_eq : c.outcome.map CallOutcome.result = c'.outcome.map CallOutcome.result
  handlerCalls_eq : c.handlerCalls = c'.handlerCalls
  settled_eq : c.settledSuccess? = c'.settledSuccess?
  ran_eq : c.ranSuccess? = c'.ranSuccess?

/-- A call agrees with itself. -/
theorem Agrees.refl (c : StartedCall) : c.Agrees c := ⟨rfl, rfl, rfl, rfl⟩

/-- Calls of tools agree if the invocations have the same result and call the same handlers. -/
theorem agrees_ran {i i' : Invocation} (hresult : i.result = i'.result)
    (hcalls : i.handlerCalls = i'.handlerCalls) :
    (ran i).Agrees (ran i') := by
  have houtcome : (ran i).outcome.map CallOutcome.result =
      (ran i').outcome.map CallOutcome.result := by
    simp only [outcome, hresult]
    cases i'.result with
    | ok text => rfl
    | error e => cases h : e.text <;> simp [Except.map, h]
  refine ⟨houtcome, hcalls, rfl, ?_⟩
  simp only [ranSuccess?]
  cases h : (ran i).outcome <;> cases h' : (ran i').outcome <;>
    simp_all [Except.map, CallOutcome.success]

/-- **Without arguments** a tool is run as with the empty object, apart from what its hooks are
told. -/
theorem agrees_start_null (kind : CacheKind) (entry : Entry) (key : CacheKey) (name : String) :
    (start kind entry key name .null).Agrees (start kind entry key name (.obj [])) := by
  unfold start
  cases entry.get? name with
  | none => exact .refl _
  | some d =>
      have hinvoke : d.invoke .null = d.invoke (.obj []) := by
        unfold ToolDefinition.invoke
        rw [d.bind_null]
      apply agrees_ran
      · rw [result_invokeWithHooks, result_invokeWithHooks, hinvoke]
      · rw [handlerCalls_invokeWithHooks, handlerCalls_invokeWithHooks, hinvoke]

/-- Calls that agree are counted alike, among any others. -/
theorem Agrees.counted_eq {c c' : StartedCall} (h : c.Agrees c') (before after : List StartedCall) :
    counted (before ++ c :: after) = counted (before ++ c' :: after) := by
  simp only [counted, List.filterMap_append, List.filterMap_cons, h.settled_eq, h.ran_eq]

/-- A call that failed at its start is counted, whatever the other calls come to. -/
theorem count_counted_settled (before after : List StartedCall) (o : CallOutcome) (success : Bool) :
    (counted (before ++ settled o :: after)).count success =
      (counted (before ++ after)).count success + if o.success = success then 1 else 0 := by
  have hsettled : settledSuccess? (settled o) = some o.success := rfl
  have hran : ranSuccess? (settled o) = none := rfl
  simp only [counted, List.filterMap_append, List.filterMap_cons, hsettled, hran, List.count_append,
    List.count_cons, beq_iff_eq]
  omega

end StartedCall

/-! ## Webhooks that ask for batches -/

/-- The webhook asks for the tool calls of a batch, with the given entry of the tool cache. -/
inductive PostsBatch (cs : Caches) (key : CacheKey) (entry : Entry) (body : List UInt8)
    (elements : List Json) : Prop where
  | mk {payload : Json} (hbody : Json.ofBytes body = .ok payload)
      (htype : RequestType.ofPayload payload = .toolCalls)
      (hkey : keyOf (messageOf payload) = .ok key) (hentry : cs.tools.get key = .ok entry)
      (helements : ((messageOf payload).get? "toolCallList").bind Json.arr? = some elements)

/-- What becomes of a batch whose calls have been started. -/
def Dispatch.ofStarted (cs : Caches) (started : List StartedToolCall) : Dispatch where
  ending :=
    match resultsOf started with
    | .ok results => .answered (.toolCalls results)
    | .error p => .unwound p
  caches := cs
  invocations := (.toolCall, StartedCall.counted (started.map StartedToolCall.call))
  handlerCalls := (started.map StartedToolCall.call).flatMap StartedCall.handlerCalls

/-- **The webhooks come to the same**: the client is told the same, the caches and counters are the
same afterwards, and the same handlers have been called. Observers see how each was sent. -/
structure Handled.Alike (h h' : Handled) : Prop where
  response_eq : h.response = h'.response
  caches_eq : h.caches = h'.caches
  metrics_eq : h.metrics = h'.metrics
  handlerCalls_eq : h.handlerCalls = h'.handlerCalls

section handling

variable {cs : Caches} {key : CacheKey} {entry : Entry} {body body' : List UInt8}
  {elements elements' : List Json}

/-- A post of a batch is dispatched to the calls of its elements. -/
theorem PostsBatch.exists_dispatch (h : PostsBatch cs key entry body elements)
    (production : Bool) (now : Nat) (app : Application) :
    ∃ payload, Json.ofBytes body = .ok payload ∧ RequestType.ofPayload payload = .toolCalls ∧
      dispatch production now app cs .toolCalls payload =
        .ofStarted cs (elements.map (startToolCall entry key)) := by
  obtain ⟨hbody, htype, hkey, hentry, helements⟩ := h
  refine ⟨_, hbody, htype, ?_⟩
  show dispatchToolCalls cs (messageOf _) = _
  unfold dispatchToolCalls
  rw [hkey]
  dsimp only
  rw [hentry]
  dsimp only
  rw [helements]
  rfl

/-- Batches whose calls are started alike come to the same. -/
theorem PostsBatch.alike (h : PostsBatch cs key entry body elements)
    (h' : PostsBatch cs key entry body' elements')
    (hstarted : elements.map (startToolCall entry key) = elements'.map (startToolCall entry key))
    (production : Bool) (now : Nat) (app : Application) (m : Metrics) :
    (handle production now app cs m body).Alike (handle production now app cs m body') := by
  obtain ⟨payload, hbody, htype, hdispatch⟩ := h.exists_dispatch production now app
  obtain ⟨payload', hbody', htype', hdispatch'⟩ := h'.exists_dispatch production now app
  unfold handle
  rw [hbody, hbody']
  dsimp only
  rw [htype, htype', hdispatch, hdispatch', hstarted]
  exact ⟨rfl, rfl, rfl, rfl⟩

/-- The conclusion of a message counts no invocation. -/
theorem invocations_conclude (production : Bool) (app : Application) (m : Metrics) (t : RequestType)
    (ending : Ending) :
    (conclude production app m t ending).2.1.invocations = m.invocations := by
  cases ending with
  | answered answer => rfl
  | unwound p => rfl
  | refused e =>
      unfold conclude
      dsimp only
      split <;> rfl

/-- The calls of a batch are counted as they have been started, and make the calls of handlers that
they make alone. -/
theorem PostsBatch.effects (h : PostsBatch cs key entry body elements)
    (production : Bool) (now : Nat) (app : Application) (m : Metrics) :
    (handle production now app cs m body).handlerCalls =
        elements.flatMap (fun element => (startToolCall entry key element).call.handlerCalls) ∧
      ∀ (kind : CacheKind) success,
        (handle production now app cs m body).metrics.invocations.count
            [kind.name, Metrics.outcomeLabel success] =
          m.invocations.count [kind.name, Metrics.outcomeLabel success] +
            if kind = .toolCall then
              (StartedCall.counted
                (elements.map fun element => (startToolCall entry key element).call)).count success
            else 0 := by
  obtain ⟨payload, hbody, htype, hdispatch⟩ := h.exists_dispatch production now app
  unfold handle
  rw [hbody]
  dsimp only
  rw [htype, hdispatch]
  refine ⟨?_, fun kind success => ?_⟩
  · simp [Dispatch.ofStarted, List.flatMap_map]
  · rw [invocations_conclude, (m.frame_observeInvocations _ _).2.2]
    simp [Dispatch.ofStarted, Function.comp_def]

end handling

/-! ## Encodings stand for each other -/

/-- **What depends on the encoding of arguments, and what does not.** -/
structure EncodingsInterchangeable (entry : Entry) (key : CacheKey) : Prop where
  /-- A call is started with the value that its element encodes, under its own id and name. -/
  started : ∀ element v, Encodes (elementArguments element) v →
    startToolCall entry key element =
      ⟨elementId element, elementName element,
        .start .toolCall entry key (elementName element) v⟩
  /-- Elements with encodings of one value are started alike: with the same result, calls of
  handlers and hooks. -/
  same_call : ∀ element element', SameCall element element' →
    startToolCall entry key element = startToolCall entry key element'
  /-- Webhooks that differ in encodings come to the same. -/
  same_batch : ∀ cs body body' elements elements', PostsBatch cs key entry body elements →
    PostsBatch cs key entry body' elements' → List.Forall₂ SameCall elements elements' →
      ∀ production now app m,
        (handle production now app cs m body).Alike (handle production now app cs m body')
  /-- A value that is not a text stands for itself. -/
  value : ∀ v, v.str? = none → Encodes (some v) v
  /-- So does its compact text, with space around it. -/
  compact : ∀ v before after, Json.ofText v.compact = .ok v → Json.IsSpacing before →
    Json.IsSpacing after → Encodes (some (.str (before ++ v.compact ++ after))) v
  /-- No arguments, `null`, the empty text, a blank text and the text of `null` are all the same. -/
  nothing : ∀ blank, Text.allBlank blank = true → ∀ encoded ∈
    [none, some .null, some (.str ""), some (.str blank), some (.str "null")], Encodes encoded .null
  /-- The empty object and its text are the same. -/
  empty : Encodes (some (.obj [])) (.obj []) ∧ Encodes (some (.str "\x7b\x7d")) (.obj [])
  /-- The empty object comes to the same as no arguments, whatever the parameters, but for
  messages. -/
  empty_agrees : ∀ element element', SameTool element element' →
    Encodes (elementArguments element) .null → Encodes (elementArguments element') (.obj []) →
      (startToolCall entry key element).call.Agrees (startToolCall entry key element').call ∧
        (startToolCall entry key element).result.map
            (fun r => (r.toolCallId, r.name, r.outcome.result)) =
          (startToolCall entry key element').result.map
            (fun r => (r.toolCallId, r.name, r.outcome.result)) ∧
        ∀ before after,
          StartedCall.counted (before ++ (startToolCall entry key element).call :: after) =
            StartedCall.counted (before ++ (startToolCall entry key element').call :: after)
  /-- A text that is neither blank nor JSON is an error. No handler and no hook is called. -/
  unreadable : ∀ element s, elementArguments element = some (.str s) →
    Text.allBlank s = false → (∀ v, Json.ofText s ≠ .ok v) →
    ∃ e, Json.ofText s = .error e ∧
      (startToolCall entry key element).result = .ok ⟨elementId element, elementName element,
        .failure
          ("arguments of `" ++ elementName element ++ "` are not valid JSON: " ++ e.message)⟩ ∧
      (startToolCall entry key element).call.handlerCalls = [] ∧
      (startToolCall entry key element).call.hookCalls = []
  /-- One failure is counted for it, beside what is counted without it. -/
  unreadable_counted : ∀ cs body body' before element after s,
    PostsBatch cs key entry body (before ++ element :: after) →
      PostsBatch cs key entry body' (before ++ after) →
      elementArguments element = some (.str s) → Text.allBlank s = false →
        (∀ v, Json.ofText s ≠ .ok v) →
        ∀ production now app m,
          (handle production now app cs m body).handlerCalls =
            (handle production now app cs m body').handlerCalls ∧
          ∀ (kind : CacheKind) success,
            (handle production now app cs m body).metrics.invocations.count
                [kind.name, Metrics.outcomeLabel success] =
              (handle production now app cs m body').metrics.invocations.count
                  [kind.name, Metrics.outcomeLabel success] +
                if kind = .toolCall ∧ success = false then 1 else 0

section unreadable

variable {element : Json} {s : String} {e : Json.SyntaxError}

/-- A call whose arguments cannot be read has failed when it has been started. -/
theorem call_of_unreadable (h : elementArguments element = some (.str s))
    (hblank : Text.allBlank s = false) (hs : Json.ofText s = .error e) (entry : Entry)
    (key : CacheKey) :
    (startToolCall entry key element).call = .settled (.failure
      ("arguments of `" ++ elementName element ++ "` are not valid JSON: " ++ e.message)) := by
  have harguments := arguments_ofElement_eq_error_iff.2 ⟨s, h, hblank, hs⟩
  rw [startToolCall_eq]
  dsimp only
  rw [AskedCall.start, harguments, name_ofElement]

/-- It calls no handler and no hook, and its result is the failure. -/
theorem failed_of_unreadable (h : elementArguments element = some (.str s))
    (hblank : Text.allBlank s = false) (hs : Json.ofText s = .error e) (entry : Entry)
    (key : CacheKey) :
    (startToolCall entry key element).result = .ok ⟨elementId element, elementName element,
      .failure
        ("arguments of `" ++ elementName element ++ "` are not valid JSON: " ++ e.message)⟩ ∧
    (startToolCall entry key element).call.handlerCalls = [] ∧
    (startToolCall entry key element).call.hookCalls = [] := by
  rw [result_eq_map, call_of_unreadable h hblank hs]
  exact ⟨rfl, rfl, rfl⟩

/-- A text that denotes no value has an error. -/
theorem exists_syntaxError (h : ∀ v, Json.ofText s ≠ .ok v) :
    ∃ e, Json.ofText s = .error e := by
  cases hs : Json.ofText s with
  | ok v => exact absurd hs (h v)
  | error e => exact ⟨e, rfl⟩

end unreadable

/-- Elements for the same tool, the one with no arguments and the other with the empty object, start
calls that agree. -/
theorem agrees_startToolCall {element element' : Json} (htool : SameTool element element')
    (hnull : Encodes (elementArguments element) .null)
    (hobj : Encodes (elementArguments element') (.obj [])) (entry : Entry) (key : CacheKey) :
    (startToolCall entry key element).call.Agrees (startToolCall entry key element').call := by
  rw [startToolCall_of_encodes hnull, startToolCall_of_encodes hobj, htool.name_eq]
  exact StartedCall.agrees_start_null _ _ _ _

/-- Results of calls that agree differ in their messages alone. -/
theorem result_eq_of_agrees {element element' : Json} (htool : SameTool element element')
    {entry : Entry} {key : CacheKey}
    (h : (startToolCall entry key element).call.Agrees (startToolCall entry key element').call) :
    (startToolCall entry key element).result.map
        (fun r => (r.toolCallId, r.name, r.outcome.result)) =
      (startToolCall entry key element').result.map
        (fun r => (r.toolCallId, r.name, r.outcome.result)) := by
  have houtcome := h.result_eq
  rw [result_eq_map, result_eq_map, htool.id_eq, htool.name_eq]
  cases ho : (startToolCall entry key element).call.outcome <;>
    cases ho' : (startToolCall entry key element').call.outcome <;> simp_all [Except.map]

/-- An element whose call has failed when it has been started adds one failure to what a batch is
counted as, and no call of a handler. -/
theorem PostsBatch.effects_of_settled {cs : Caches} {key : CacheKey} {entry : Entry}
    {body body' : List UInt8} {before after : List Json} {element : Json} {o : CallOutcome}
    (h : PostsBatch cs key entry body (before ++ element :: after))
    (h' : PostsBatch cs key entry body' (before ++ after))
    (hcall : (startToolCall entry key element).call = .settled o) (hfailed : o.success = false)
    (production : Bool) (now : Nat) (app : Application) (m : Metrics) :
    (handle production now app cs m body).handlerCalls =
        (handle production now app cs m body').handlerCalls ∧
      ∀ (kind : CacheKind) success,
        (handle production now app cs m body).metrics.invocations.count
            [kind.name, Metrics.outcomeLabel success] =
          (handle production now app cs m body').metrics.invocations.count
              [kind.name, Metrics.outcomeLabel success] +
            if kind = .toolCall ∧ success = false then 1 else 0 := by
  obtain ⟨hcalls, hcount⟩ := h.effects production now app m
  obtain ⟨hcalls', hcount'⟩ := h'.effects production now app m
  constructor
  · rw [hcalls, hcalls', List.flatMap_append, List.flatMap_append, List.flatMap_cons, hcall]
    rfl
  · intro kind success
    rw [hcount, hcount', List.map_append, List.map_append, List.map_cons, hcall,
      StartedCall.count_counted_settled, hfailed]
    cases kind <;> cases success <;> simp
    omega

/-- **The encodings of arguments are interchangeable.** Whether a call brings its arguments as a
value, as the text of the value or as that text with space around it, and whether it brings none at
all or nothing in one way or another, the batch comes to the same; and a text that is not JSON fails
its own call. -/
theorem encodings_interchangeable (entry : Entry) (key : CacheKey) :
    EncodingsInterchangeable entry key := by
  constructor
  case started => exact fun _ _ h => startToolCall_of_encodes h entry key
  case same_call => exact fun _ _ h => startToolCall_congr h entry key
  case same_batch =>
    intro cs body body' elements elements' hposts hposts' hsame
    refine hposts.alike hposts' ?_
    rw [← List.forall₂_eq_eq_eq, List.forall₂_map_left_iff, List.forall₂_map_right_iff]
    exact hsame.imp fun _ _ h => startToolCall_congr h entry key
  case value => exact fun _ h => .value h
  case compact => exact fun _ _ _ h hbefore hafter => .text (Json.ofText_spaced h hbefore hafter)
  case nothing =>
    intro blank hblank encoded hencoded
    simp only [List.mem_cons, List.not_mem_nil, or_false] at hencoded
    rcases hencoded with rfl | rfl | rfl | rfl | rfl
    · exact .absent
    · exact .value rfl
    · exact .blank (by decide)
    · exact .blank hblank
    · exact .text (by rfl)
  case empty => exact ⟨.value rfl, .text (by rfl)⟩
  case empty_agrees =>
    intro element element' htool hnull hobj
    have hagrees := agrees_startToolCall htool hnull hobj entry key
    exact ⟨hagrees, result_eq_of_agrees htool hagrees, hagrees.counted_eq⟩
  case unreadable =>
    intro element s h hblank hs
    obtain ⟨e, he⟩ := exists_syntaxError hs
    exact ⟨e, he, failed_of_unreadable h hblank he entry key⟩
  case unreadable_counted =>
    intro cs body body' before element after s hposts hposts' h hblank hs production now app m
    obtain ⟨e, he⟩ := exists_syntaxError hs
    exact hposts.effects_of_settled hposts' (call_of_unreadable h hblank he entry key) rfl
      production now app m

end Switchboard

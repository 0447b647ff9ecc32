import Switchboard.Proofs.Cache.Operations
import Switchboard.Proofs.Tool.Hooks
import Switchboard.Service.Webhook

/-!
# What calls come to

A message asks for calls: of tools by a batch of elements, or of one function. This file says what
each of them comes to, whatever the supplied code does.

* `AskedCall`: a call as a message asks for it, with a name and arguments that may not be readable.
* `AskedCall.Reaches`: the handler of a tool is run by the call, on the bound arguments.
* `ComesTo`: what the platform is told of a call, by the six ways in which one can end.
* `Unspeakable`: the handler returned an error, and the wording of that error panics.
* `comesTo_or_unspeakable`: every call is unspeakable or comes to one of these.
  `ComesTo.outcome_start`, `Unspeakable.outcome_start`: a call that has been started has an outcome
  accordingly.
-/

namespace Switchboard

/-! ## Asking for a call -/

/-- A call as a message asks for it. -/
structure AskedCall where
  /-- The name of the tool, or the empty text. -/
  name : String
  /-- The arguments, or why they cannot be read. -/
  arguments : Except Json.SyntaxError Json

/-- The call that an element of a batch asks for. -/
def AskedCall.ofElement (element : Json) : AskedCall :=
  let function := (element.get? "function").getD .null
  ⟨textOf function "name", toolArguments function⟩

/-- The call that a function call asks for. -/
def AskedCall.ofFunctionCall (call : Json) : AskedCall :=
  ⟨textOf call "name", .ok ((call.get? "parameters").getD .null)⟩

/-! ## Outcomes of a tool -/

namespace ToolDefinition

/-- What the platform is told when the handler has returned. -/
def success (d : ToolDefinition) (key : CacheKey) (arguments : Json) (returned : String) :
    CallOutcome :=
  let result := if d.fireAndForget then "" else returned
  ⟨.ok result,
    match d.lifecycle with
    | none => []
    | some hooks => (hooks.onComplete ⟨key, d.name, arguments⟩ result).toOption.getD []⟩

/-- What the platform is told when the tool has failed for a reason. -/
def failure (d : ToolDefinition) (key : CacheKey) (arguments : Json) (reason : String) :
    CallOutcome :=
  let error := "Error invoking method " ++ d.owner ++ "." ++ d.method ++ "(): " ++ reason
  ⟨.error error,
    match d.lifecycle with
    | none => []
    | some hooks => (hooks.onFailed ⟨key, d.name, arguments⟩ error).toOption.getD []⟩

end ToolDefinition

namespace AskedCall

/-- The call runs the handler of the tool `d` on `as`. -/
structure Reaches (entry : Entry) (c : AskedCall) (arguments : Json) (d : ToolDefinition)
    (as : Arguments) : Prop where
  readable : c.arguments = .ok arguments
  registered : entry.get? c.name = some d
  bound : d.bind arguments = .ok as

/-- **What the platform is told of a call**, by how the call ends. -/
inductive ComesTo (kind : CacheKind) (entry : Entry) (key : CacheKey) (c : AskedCall) :
    CallOutcome → Prop where
  | unreadable {e : Json.SyntaxError} (h : c.arguments = .error e) :
      ComesTo kind entry key c
        (.failure ("arguments of `" ++ c.name ++ "` are not valid JSON: " ++ e.message))
  | unregistered {arguments : Json} (h : c.arguments = .ok arguments)
      (hname : entry.get? c.name = none) :
      ComesTo kind entry key c (.failure (CacheError.functionNotFound kind key c.name).message)
  | unbound {arguments : Json} {d : ToolDefinition} {e : ArgumentError}
      (h : c.arguments = .ok arguments) (hname : entry.get? c.name = some d)
      (hbind : d.bind arguments = .error e) :
      ComesTo kind entry key c (d.failure key arguments e.message)
  | returned {arguments : Json} {d : ToolDefinition} {as : Arguments} {s : String}
      (h : c.Reaches entry arguments d as) (hs : d.handler as = .returned s) :
      ComesTo kind entry key c (d.success key arguments s)
  | failed {arguments : Json} {d : ToolDefinition} {as : Arguments} {f : Fault} {s : String}
      (h : c.Reaches entry arguments d as) (hf : d.handler as = .failed f) (hs : f.text = .ok s) :
      ComesTo kind entry key c (d.failure key arguments s)
  | panicked {arguments : Json} {d : ToolDefinition} {as : Arguments} {p : Panic}
      (h : c.Reaches entry arguments d as) (hp : d.handler as = .panicked p) :
      ComesTo kind entry key c (d.failure key arguments ("handler panicked: " ++ p.message))

/-- **The handler returned an error whose wording panics.** -/
def Unspeakable (entry : Entry) (c : AskedCall) (p : Panic) : Prop :=
  ∃ arguments d as f, c.Reaches entry arguments d as ∧ d.handler as = .failed f ∧
    f.text = .error p

/-- Starts a call. -/
def start (kind : CacheKind) (entry : Entry) (key : CacheKey) (c : AskedCall) : StartedCall :=
  match c.arguments with
  | .ok arguments => .start kind entry key c.name arguments
  | .error e =>
    .settled (.failure ("arguments of `" ++ c.name ++ "` are not valid JSON: " ++ e.message))

end AskedCall

/-- An element of a batch is started as the call that it asks for, and is given back its id and the
name that it used. -/
theorem startToolCall_eq (entry : Entry) (key : CacheKey) (element : Json) :
    startToolCall entry key element =
      ⟨textOf element "id", (AskedCall.ofElement element).name,
        (AskedCall.ofElement element).start .toolCall entry key⟩ :=
  rfl

/-! ## Invoking a tool -/

section invoking

variable {d : ToolDefinition} {key : CacheKey} {arguments : Json}

/-- A tool that has returned comes to its result, with what the hook for finished tools says. -/
theorem outcome_of_ok {s : String} (h : (d.invoke arguments).result = .ok s)
    (hmessages : (d.invoke arguments).messages = []) :
    (StartedCall.ran (d.invokeWithHooks key arguments)).outcome =
      .ok ⟨.ok s,
        match d.lifecycle with
        | none => []
        | some hooks => (hooks.onComplete ⟨key, d.name, arguments⟩ s).toOption.getD []⟩ := by
  have hresult := result_invokeWithHooks d key arguments
  rw [h] at hresult
  simp only [StartedCall.outcome, hresult]
  unfold ToolDefinition.invokeWithHooks
  cases d.lifecycle with
  | none => simp only [hmessages]
  | some hooks => simp only [h, ToolDefinition.report]

/-- A tool that has failed comes to the error text, with what the hook for failed tools says. -/
theorem outcome_of_error {e : InvocationError} {text : String}
    (h : (d.invoke arguments).result = .error e) (htext : e.text = .ok text)
    (hmessages : (d.invoke arguments).messages = []) :
    (StartedCall.ran (d.invokeWithHooks key arguments)).outcome =
      .ok ⟨.error text,
        match d.lifecycle with
        | none => []
        | some hooks => (hooks.onFailed ⟨key, d.name, arguments⟩ text).toOption.getD []⟩ := by
  have hresult := result_invokeWithHooks d key arguments
  rw [h] at hresult
  simp only [StartedCall.outcome, hresult, htext, Except.map]
  unfold ToolDefinition.invokeWithHooks
  cases d.lifecycle with
  | none => simp only [hmessages]
  | some hooks => simp only [h, ToolDefinition.report, htext]

end invoking

/-! ## The outcome of a call -/

namespace AskedCall

variable {kind : CacheKind} {entry : Entry} {key : CacheKey} {c : AskedCall}

/-- A call that reaches a tool runs it with its hooks. -/
theorem Reaches.start_eq {arguments : Json} {d : ToolDefinition} {as : Arguments}
    (h : c.Reaches entry arguments d as) :
    c.start kind entry key = .ran (d.invokeWithHooks key arguments) := by
  unfold start StartedCall.start
  rw [h.readable]
  dsimp only
  rw [h.registered]

/-- A call that reaches a tool runs its handler once, on the bound arguments. -/
theorem Reaches.invoke_eq {arguments : Json} {d : ToolDefinition} {as : Arguments}
    (h : c.Reaches entry arguments d as) :
    d.invoke arguments = ⟨d.resultOf (d.handler as), [], [⟨d, as⟩], []⟩ := by
  unfold ToolDefinition.invoke
  rw [h.bound]

/-- **A started call has the outcome that it comes to.** There is one case for each way in which a
call can end. -/
theorem ComesTo.outcome_start {o : CallOutcome} (h : c.ComesTo kind entry key o) :
    (c.start kind entry key).outcome = .ok o := by
  cases h with
  | unreadable h =>
      unfold start
      rw [h]
      rfl
  | unregistered h hname =>
      unfold start StartedCall.start
      rw [h]
      dsimp only
      rw [hname]
      rfl
  | @unbound arguments d e h hname hbind =>
      unfold start StartedCall.start
      rw [h]
      dsimp only
      rw [hname]
      have hinvoke : d.invoke arguments = ⟨.error (d.error (.argument e)), [], [], []⟩ := by
        unfold ToolDefinition.invoke
        rw [hbind]
      exact outcome_of_error (by rw [hinvoke]) rfl (by rw [hinvoke])
  | @returned arguments d as s h hs =>
      rw [h.start_eq]
      refine outcome_of_ok ?_ (by rw [h.invoke_eq])
      rw [h.invoke_eq, hs]
      rfl
  | @failed arguments d as f s h hf hs =>
      rw [h.start_eq]
      refine outcome_of_error (e := d.error (.handler f)) ?_ ?_ (by rw [h.invoke_eq])
      · rw [h.invoke_eq, hf]
        rfl
      · show f.text.map _ = _
        rw [hs]
        rfl
  | @panicked arguments d as p h hp =>
      rw [h.start_eq]
      refine outcome_of_error (e := d.error (.panicked p.message)) ?_ rfl (by rw [h.invoke_eq])
      rw [h.invoke_eq, hp]
      rfl

/-- **An unspeakable call has no outcome** once it has been started: its panic is all there is. -/
theorem Unspeakable.outcome_start {p : Panic} (h : c.Unspeakable entry p) :
    (c.start kind entry key).outcome = .error p := by
  obtain ⟨arguments, d, as, f, hreaches, hf, hp⟩ := h
  have hresult : (d.invokeWithHooks key arguments).result = .error (d.error (.handler f)) := by
    rw [result_invokeWithHooks, hreaches.invoke_eq, hf]
    rfl
  have htext : (d.error (.handler f)).text = .error p := by
    show f.text.map _ = _
    rw [hp]
    rfl
  rw [hreaches.start_eq]
  simp only [StartedCall.outcome, hresult, htext, Except.map]

/-- What comes to an outcome is not unspeakable. -/
theorem ComesTo.not_unspeakable {o : CallOutcome} {p : Panic} (h : c.ComesTo kind entry key o) :
    ¬ c.Unspeakable entry p := by
  intro hp
  have hok := h.outcome_start
  rw [hp.outcome_start] at hok
  cases hok

/-- A call of a name that the entry does not have fails. -/
theorem ComesTo.error_of_unregistered {o : CallOutcome} (h : c.ComesTo kind entry key o)
    (hname : entry.get? c.name = none) : ∃ text, o.result = .error text := by
  have habsent : ∀ {arguments d as}, ¬ c.Reaches entry arguments d as := by
    intro arguments d as hreaches
    have hd := hreaches.registered
    rw [hname] at hd
    cases hd
  cases h with
  | unreadable h => exact ⟨_, rfl⟩
  | unregistered h hname => exact ⟨_, rfl⟩
  | unbound h hd hbind => exact ⟨_, rfl⟩
  | returned h hs => exact absurd h habsent
  | failed h hf hs => exact ⟨_, rfl⟩
  | panicked h hp => exact ⟨_, rfl⟩

/-- Every call comes to something or is unspeakable. The cases are those of the handling: the
arguments are read, the tool is looked up, the arguments are bound, and the handler is run. -/
theorem comesTo_or_unspeakable (kind : CacheKind) (entry : Entry) (key : CacheKey) (c : AskedCall) :
    (∃ o, c.ComesTo kind entry key o) ∨ ∃ p, c.Unspeakable entry p := by
  cases harguments : c.arguments with
  | error e => exact .inl ⟨_, .unreadable harguments⟩
  | ok arguments =>
      cases hname : entry.get? c.name with
      | none => exact .inl ⟨_, .unregistered harguments hname⟩
      | some d =>
          cases hbind : d.bind arguments with
          | error e => exact .inl ⟨_, .unbound harguments hname hbind⟩
          | ok as =>
              have hreaches : c.Reaches entry arguments d as := ⟨harguments, hname, hbind⟩
              cases hhandler : d.handler as with
              | returned s => exact .inl ⟨_, .returned hreaches hhandler⟩
              | panicked p => exact .inl ⟨_, .panicked hreaches hhandler⟩
              | failed f =>
                  cases htext : f.text with
                  | ok s => exact .inl ⟨_, .failed hreaches hhandler htext⟩
                  | error p => exact .inr ⟨p, arguments, d, as, f, hreaches, hhandler, htext⟩

/-- The handler of the tool that is reached is called once, and that is all. -/
theorem handlerCalls_start_of_reaches {arguments : Json} {d : ToolDefinition} {as : Arguments}
    (h : c.Reaches entry arguments d as) :
    (c.start kind entry key).handlerCalls = [⟨d, as⟩] := by
  rw [h.start_eq]
  show (d.invokeWithHooks key arguments).handlerCalls = _
  rw [handlerCalls_invokeWithHooks, h.invoke_eq]

/-- Where no tool is reached no handler is called. -/
theorem handlerCalls_start_of_not_reaches
    (h : ∀ arguments d as, ¬ c.Reaches entry arguments d as) :
    (c.start kind entry key).handlerCalls = [] := by
  unfold start StartedCall.start
  cases harguments : c.arguments with
  | error e => rfl
  | ok arguments =>
      dsimp only
      cases hname : entry.get? c.name with
      | none => rfl
      | some d =>
          show (d.invokeWithHooks key arguments).handlerCalls = []
          rw [handlerCalls_invokeWithHooks, ToolDefinition.invoke]
          cases hbind : d.bind arguments with
          | error e => rfl
          | ok as => exact absurd ⟨harguments, hname, hbind⟩ (h arguments d as)

end AskedCall

/-! ## The results of a batch -/

section elements

variable {entry : Entry} {key : CacheKey} {element : Json}

/-- The result of a call of a tool is the outcome that it comes to, under the id and the name in the
element. -/
theorem result_of_comesTo {o : CallOutcome}
    (h : (AskedCall.ofElement element).ComesTo .toolCall entry key o) :
    (startToolCall entry key element).result =
      .ok ⟨textOf element "id", (AskedCall.ofElement element).name, o⟩ := by
  rw [startToolCall_eq, StartedToolCall.result]
  dsimp only
  rw [h.outcome_start]
  rfl

/-- An unspeakable call of a tool has no result. -/
theorem result_of_unspeakable {p : Panic} (h : (AskedCall.ofElement element).Unspeakable entry p) :
    (startToolCall entry key element).result = .error p := by
  rw [startToolCall_eq, StartedToolCall.result]
  dsimp only
  rw [h.outcome_start]
  rfl

end elements

/-- The results cannot be had if the first one cannot, or if it can and those of the rest cannot. -/
theorem resultsOf_cons_eq_error_iff {c : StartedToolCall} {rest : List StartedToolCall}
    {p : Panic} :
    resultsOf (c :: rest) = .error p ↔
      c.result = .error p ∨ ((∃ r, c.result = .ok r) ∧ resultsOf rest = .error p) := by
  rw [resultsOf]
  cases c.result with
  | error p' => simp
  | ok r => cases resultsOf rest <;> simp

/-- The results can be had iff each of them can. -/
theorem resultsOf_eq_ok_iff {calls : List StartedToolCall} {results : List ToolCallResult} :
    resultsOf calls = .ok results ↔ calls.map StartedToolCall.result = results.map .ok := by
  induction calls generalizing results with
  | nil => cases results <;> simp [resultsOf]
  | cons c rest ih =>
      rw [resultsOf, List.map_cons]
      cases results with
      | nil => cases c.result <;> cases resultsOf rest <;> simp
      | cons r results =>
          rw [List.map_cons, List.cons.injEq, ← ih]
          cases c.result <;> cases resultsOf rest <;> simp

/-- A batch panics with the first call whose error has no wording. -/
theorem resultsOf_eq_error_iff {calls : List StartedToolCall} {p : Panic} :
    resultsOf calls = .error p ↔
      ∃ before c later, calls = before ++ c :: later ∧
        (∀ b ∈ before, ∃ r, b.result = .ok r) ∧ c.result = .error p := by
  induction calls with
  | nil => simp [resultsOf]
  | cons c rest ih =>
      rw [resultsOf_cons_eq_error_iff, ih]
      constructor
      · rintro (hc | ⟨hc, before, c', later, rfl, hbefore, hc'⟩)
        · exact ⟨[], c, rest, rfl, by simp, hc⟩
        · exact ⟨c :: before, c', later, rfl, by simpa using ⟨hc, hbefore⟩, hc'⟩
      · rintro ⟨before, c', later, heq, hbefore, hc'⟩
        cases before with
        | nil =>
            cases heq
            exact .inl hc'
        | cons b before =>
            cases heq
            obtain ⟨hb, hbefore⟩ := List.forall_mem_cons.1 hbefore
            exact .inr ⟨hb, before, c', later, rfl, hbefore, hc'⟩

/-! ## Answering messages that ask for calls -/

section dispatching

variable {cs : Caches} {entry : Entry} {key : CacheKey}

/-- A batch whose entry is there is answered with the results of its calls, unless one of them
cannot be had. -/
theorem ending_toolCalls {message : Json} {elements : List Json} (hkey : keyOf message = .ok key)
    (hentry : cs.tools.get key = .ok entry)
    (hcalls : (message.get? "toolCallList").bind Json.arr? = some elements) :
    (dispatchToolCalls cs message).ending =
      match resultsOf (elements.map (startToolCall entry key)) with
      | .ok results => .answered (.toolCalls results)
      | .error p => .unwound p := by
  unfold dispatchToolCalls
  rw [hkey]
  dsimp only
  rw [hentry]
  dsimp only
  generalize (message.get? "toolCallList").bind Json.arr? = calls at hcalls ⊢
  subst hcalls
  rfl

/-- A function call whose entry is there is answered with its outcome, unless there is none. -/
theorem ending_functionCall {message call : Json} (hkey : keyOf message = .ok key)
    (hentry : cs.functions.get key = .ok entry) (hcall : message.get? "functionCall" = some call) :
    (dispatchFunctionCall cs message).ending =
      match ((AskedCall.ofFunctionCall call).start .function entry key).outcome with
      | .ok outcome => .answered (.functionCall outcome)
      | .error p => .unwound p := by
  unfold dispatchFunctionCall
  rw [hkey]
  dsimp only
  rw [hentry]
  dsimp only
  generalize message.get? "functionCall" = asked at hcall ⊢
  subst hcall
  rfl

end dispatching

/-! ## Tools and elements to look at -/

/-- A tool without parameters that always ends alike. -/
def ToolDefinition.constant (name : String) (hname : Text.allBlank name = false)
    (outcome : Outcome String) : ToolDefinition where
  owner := "Owner"
  method := name
  name := name
  description := ""
  params := []
  fireAndForget := false
  handler := fun _ => outcome
  lifecycle := none
  name_not_blank := hname
  params_nodup := List.nodup_nil

/-- An element of a batch that calls a tool without arguments. -/
def plainElement (id name : String) : Json :=
  .object [("id", .str id), ("function", .object [("name", .str name)])]

end Switchboard

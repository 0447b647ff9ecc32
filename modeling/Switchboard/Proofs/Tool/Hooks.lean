import Switchboard.Tool.Invocation

/-!
# Hooks observe and do not interfere

A tool is invoked, and then one of its hooks is told what came of it. This file says what the
invocation ends in, what the hooks hear of that, and that they change nothing about it.

* `Ends`: how an invocation can end, with what the handler has been given. It ends in one of these
  ways (`ends_invoke`), and in no other (`Ends.unique`).
* `Hears`: what the hooks hear of a result, and what they have the assistant say
  (`hears_invokeWithHooks`, `Hears.unique`).
* `withHooks`: the same tool with other hooks, or with none.
* `result_invokeWithHooks`, `handlerCalls_invokeWithHooks`: result and calls of the handler are
  those of an invocation that has no hooks to tell.
* **`hooks_observe`**: all of it, for every tool and every behaviour of its handler and its hooks.
-/

namespace Switchboard

/-- Hooks add messages and change nothing else. -/
theorem result_invokeWithHooks (d : ToolDefinition) (key : CacheKey) (arguments : Json) :
    (d.invokeWithHooks key arguments).result = (d.invoke arguments).result := by
  unfold ToolDefinition.invokeWithHooks
  cases d.lifecycle <;> rfl

/-- Hooks have no part in the calls of the handler. -/
theorem handlerCalls_invokeWithHooks (d : ToolDefinition) (key : CacheKey) (arguments : Json) :
    (d.invokeWithHooks key arguments).handlerCalls = (d.invoke arguments).handlerCalls := by
  unfold ToolDefinition.invokeWithHooks
  cases d.lifecycle <;> rfl

namespace ToolDefinition

variable {d : ToolDefinition} {key : CacheKey} {arguments : Json}

/-! ## How an invocation ends -/

/-- **How an invocation ends**: in which result, and with which arguments of the handler, call by
call. -/
inductive Ends (d : ToolDefinition) (arguments : Json) :
    Except InvocationError String → List Arguments → Prop where
  /-- The arguments do not bind, and the handler is not called. -/
  | unbound {e : ArgumentError} (h : d.bind arguments = .error e) :
      Ends d arguments (.error ⟨d.owner, d.method, .argument e⟩) []
  /-- The handler returns, and its text is the result. -/
  | returned {as : Arguments} {s : String} (h : d.bind arguments = .ok as)
      (hs : d.handler as = .returned s) (hkept : d.fireAndForget = false) :
      Ends d arguments (.ok s) [as]
  /-- The handler returns, and nobody waits for its text. -/
  | forgotten {as : Arguments} {s : String} (h : d.bind arguments = .ok as)
      (hs : d.handler as = .returned s) (hforgotten : d.fireAndForget = true) :
      Ends d arguments (.ok "") [as]
  /-- The handler fails. -/
  | failed {as : Arguments} {f : Fault} (h : d.bind arguments = .ok as)
      (hf : d.handler as = .failed f) :
      Ends d arguments (.error ⟨d.owner, d.method, .handler f⟩) [as]
  /-- The handler panics. -/
  | panicked {as : Arguments} {p : Panic} (h : d.bind arguments = .ok as)
      (hp : d.handler as = .panicked p) :
      Ends d arguments (.error ⟨d.owner, d.method, .panicked p.message⟩) [as]

/-- What the handler of an invocation has been given, call by call. -/
theorem handlerCalls_invoke (d : ToolDefinition) (arguments : Json) :
    (d.invoke arguments).handlerCalls =
      (d.bind arguments).toOption.toList.map fun as => ⟨d, as⟩ := by
  unfold invoke
  cases d.bind arguments <;> rfl

/-- An invocation ends in one of these ways. -/
theorem ends_invoke (d : ToolDefinition) (arguments : Json) :
    Ends d arguments (d.invoke arguments).result
      ((d.invoke arguments).handlerCalls.map HandlerCall.arguments) := by
  unfold invoke
  cases hbind : d.bind arguments with
  | error e => exact .unbound hbind
  | ok as =>
      dsimp only
      cases hhandler : d.handler as with
      | returned s =>
          unfold resultOf
          cases hforget : d.fireAndForget with
          | false => exact .returned hbind hhandler hforget
          | true => exact .forgotten hbind hhandler hforget
      | failed f => exact .failed hbind hhandler
      | panicked p => exact .panicked hbind hhandler

/-- The ways in which an invocation can end exclude each other. -/
theorem Ends.unique {result result' : Except InvocationError String} {given given' : List Arguments}
    (h : Ends d arguments result given) (h' : Ends d arguments result' given') :
    result = result' ∧ given = given' := by
  cases h <;> cases h' <;> simp_all

/-! ## What the hooks hear -/

/-- **What hooks hear of a result**, and what they have the assistant say. -/
inductive Hears (call : ToolCall) :
    Option Lifecycle → Except InvocationError String → List HookCall →
      List ToolMessage → Prop where
  /-- There are no hooks. -/
  | nobody {result : Except InvocationError String} : Hears call none result [] []
  /-- The hook for finished tools is told the result. -/
  | complete {hooks : Lifecycle} {s : String} {messages : List ToolMessage}
      (h : hooks.onComplete call s = .ok messages) :
      Hears call (some hooks) (.ok s) [.complete call s] messages
  /-- It is told the result and panics. -/
  | completePanics {hooks : Lifecycle} {s : String} {p : Panic}
      (h : hooks.onComplete call s = .error p) :
      Hears call (some hooks) (.ok s) [.complete call s] []
  /-- The hook for failed tools is told the text of the error. -/
  | failed {hooks : Lifecycle} {e : InvocationError} {s : String} {messages : List ToolMessage}
      (htext : e.text = .ok s) (h : hooks.onFailed call s = .ok messages) :
      Hears call (some hooks) (.error e) [.failed call s] messages
  /-- It is told the text of the error and panics. -/
  | failedPanics {hooks : Lifecycle} {e : InvocationError} {s : String} {p : Panic}
      (htext : e.text = .ok s) (h : hooks.onFailed call s = .error p) :
      Hears call (some hooks) (.error e) [.failed call s] []
  /-- The error has no text that a hook could be told. -/
  | wordless {hooks : Lifecycle} {e : InvocationError} {p : Panic} (htext : e.text = .error p) :
      Hears call (some hooks) (.error e) [] []

/-- The hooks hear of a result in one of these ways. -/
theorem hears_report (hooks : Lifecycle) (call : ToolCall)
    (result : Except InvocationError String) :
    Hears call (some hooks) result (report hooks call result).1 (report hooks call result).2 := by
  unfold report
  cases result with
  | ok s =>
      dsimp only
      cases hsaid : hooks.onComplete call s with
      | ok messages => exact .complete hsaid
      | error p => exact .completePanics hsaid
  | error e =>
      dsimp only
      cases htext : e.text with
      | error p => exact .wordless htext
      | ok s =>
          dsimp only
          cases hsaid : hooks.onFailed call s with
          | ok messages => exact .failed htext hsaid
          | error p => exact .failedPanics htext hsaid

/-- The hooks hear of an invocation what it comes to. -/
theorem hears_invokeWithHooks (d : ToolDefinition) (key : CacheKey) (arguments : Json) :
    Hears ⟨key, d.name, arguments⟩ d.lifecycle (d.invokeWithHooks key arguments).result
      (d.invokeWithHooks key arguments).hookCalls (d.invokeWithHooks key arguments).messages := by
  rw [result_invokeWithHooks]
  unfold invokeWithHooks
  cases d.lifecycle with
  | some hooks => exact hears_report hooks _ _
  | none =>
      have hsilent : (d.invoke arguments).hookCalls = [] ∧
          (d.invoke arguments).messages = [] := by
        unfold invoke
        cases d.bind arguments <;> exact ⟨rfl, rfl⟩
      simp only [hsilent]
      exact .nobody

/-- The ways in which hooks can hear of a result exclude each other. -/
theorem Hears.unique {call : ToolCall} {hooks : Option Lifecycle}
    {result : Except InvocationError String} {hookCalls hookCalls' : List HookCall}
    {messages messages' : List ToolMessage} (h : Hears call hooks result hookCalls messages)
    (h' : Hears call hooks result hookCalls' messages') :
    hookCalls = hookCalls' ∧ messages = messages' := by
  cases h <;> cases h' <;> simp_all

section hears

variable {call : ToolCall} {hooks : Option Lifecycle} {result : Except InvocationError String}
  {hookCalls : List HookCall} {messages : List ToolMessage}

/-- At most one hook hears of a result. -/
theorem Hears.length_le_one (h : Hears call hooks result hookCalls messages) :
    hookCalls.length ≤ 1 := by
  cases h <;> simp

/-- No hook hears of it where there is none, or where the error has no text. -/
theorem Hears.eq_nil_iff (h : Hears call hooks result hookCalls messages) :
    hookCalls = [] ↔ hooks = none ∨ ∃ e p, result = .error e ∧ e.text = .error p := by
  cases h <;> simp_all

end hears

/-! ## Tools with other hooks -/

/-- The same tool with other hooks, or with none. -/
def withHooks (d : ToolDefinition) (hooks : Option Lifecycle) : ToolDefinition :=
  { d with lifecycle := hooks }

/-- Invocations do not read the hooks of a tool. -/
theorem Ends.withHooks {result : Except InvocationError String} {given : List Arguments}
    (h : Ends d arguments result given) (hooks : Option Lifecycle) :
    Ends (d.withHooks hooks) arguments result given := by
  cases h with
  | unbound h => exact .unbound h
  | returned h hs hkept => exact .returned h hs hkept
  | forgotten h hs hforgotten => exact .forgotten h hs hforgotten
  | failed h hf => exact .failed h hf
  | panicked h hp => exact .panicked h hp

/-! ## Everything that hooks do -/

/-- **Hooks observe and do not interfere**, where a tool is invoked for a key with some
arguments. -/
structure HooksObserve (d : ToolDefinition) (key : CacheKey) (arguments : Json) : Prop where
  /-- The invocation ends as handler and arguments have it, and the handler is that of the tool. -/
  ends : ∀ result given, Ends d arguments result given ↔
    (d.invokeWithHooks key arguments).result = result ∧
      (d.invokeWithHooks key arguments).handlerCalls = given.map fun as => ⟨d, as⟩
  /-- With other hooks, and with none, it has the same result. -/
  same_result : ∀ hooks, ((d.withHooks hooks).invokeWithHooks key arguments).result =
    (d.invokeWithHooks key arguments).result
  /-- With other hooks, and with none, the handler is given the same. -/
  same_given : ∀ hooks,
    ((d.withHooks hooks).invokeWithHooks key arguments).handlerCalls.map HandlerCall.arguments =
      (d.invokeWithHooks key arguments).handlerCalls.map HandlerCall.arguments
  /-- The handler is called once if the arguments bind, and otherwise not at all. -/
  called_once : (d.invokeWithHooks key arguments).handlerCalls.length =
    if (d.bind arguments).isOk then 1 else 0
  /-- The hooks hear of the result, with the key, the public name and the arguments as they arrived,
  and what is spoken is what the hook has said. -/
  hears : ∀ hookCalls messages,
    Hears ⟨key, d.name, arguments⟩ d.lifecycle (d.invokeWithHooks key arguments).result
        hookCalls messages ↔
      (d.invokeWithHooks key arguments).hookCalls = hookCalls ∧
        (d.invokeWithHooks key arguments).messages = messages
  /-- One hook is called, unless the tool has none or the text of the error panics. -/
  hook_called_once : (d.invokeWithHooks key arguments).hookCalls.length ≤ 1 ∧
    ((d.invokeWithHooks key arguments).hookCalls = [] ↔
      d.lifecycle = none ∨ ∃ e p, (d.invokeWithHooks key arguments).result = .error e ∧
        e.text = .error p)

/-- **Hooks observe.** They change nothing in the result of an invocation, and each hears of it once
at most. -/
theorem hooks_observe (d : ToolDefinition) (key : CacheKey) (arguments : Json) :
    d.HooksObserve key arguments := by
  have hends : ∀ d' : ToolDefinition, Ends d' arguments (d'.invokeWithHooks key arguments).result
      ((d'.invokeWithHooks key arguments).handlerCalls.map HandlerCall.arguments) := by
    intro d'
    rw [result_invokeWithHooks, handlerCalls_invokeWithHooks]
    exact ends_invoke d' arguments
  have hsame := fun hooks => (hends (d.withHooks hooks)).unique ((hends d).withHooks hooks)
  have hcalls : (d.invokeWithHooks key arguments).handlerCalls =
      (d.bind arguments).toOption.toList.map fun as => ⟨d, as⟩ := by
    rw [handlerCalls_invokeWithHooks, handlerCalls_invoke]
  have hhears := hears_invokeWithHooks d key arguments
  constructor
  case ends =>
    intro result given
    have hgiven : (d.invokeWithHooks key arguments).handlerCalls =
        ((d.invokeWithHooks key arguments).handlerCalls.map HandlerCall.arguments).map fun as =>
          ⟨d, as⟩ := by
      simp [hcalls]
    constructor
    · intro h
      obtain ⟨hresult, has⟩ := (hends d).unique h
      rw [has] at hgiven
      exact ⟨hresult, hgiven⟩
    · rintro ⟨rfl, has⟩
      have h := hends d
      rw [has] at h
      simpa [Function.comp_def] using h
  case same_result => exact fun hooks => (hsame hooks).1
  case same_given => exact fun hooks => (hsame hooks).2
  case called_once =>
    rw [hcalls]
    cases d.bind arguments <;> rfl
  case hears =>
    intro hookCalls messages
    constructor
    · exact hhears.unique
    · rintro ⟨rfl, rfl⟩
      exact hhears
  case hook_called_once => exact ⟨hhears.length_le_one, hhears.eq_nil_iff⟩

end ToolDefinition

end Switchboard

import Switchboard.Tool.Definition

/-!
# Invocations of tools

`bind` fits JSON arguments to the declared parameters, none at all like an empty object
(`bind_null`), `invoke` runs the handler on them, and `invokeWithHooks` tells the hooks what came of
it. Whatever the supplied code does, an invocation ends in a result or an `InvocationError`; hooks
can add messages and change nothing else.
-/

namespace Switchboard

/-- Why an invocation failed. -/
inductive InvocationCause where
  /-- The arguments do not fit the parameters. -/
  | argument (error : ArgumentError)
  /-- The handler failed. -/
  | handler (fault : Fault)
  /-- The handler panicked with a message. -/
  | panicked (message : String)

/-- The wording of a cause; only that of a handler's own error can panic. -/
def InvocationCause.text : InvocationCause → Rendering
  | argument e => .ok e.message
  | handler f => f.text
  | panicked m => .ok ("handler panicked: " ++ m)

/-- A failed invocation. -/
structure InvocationError where
  /-- The owner of the tool. -/
  owner : String
  /-- The method of the tool. -/
  method : String
  /-- Why it failed. -/
  cause : InvocationCause

/-- The wording of a failed invocation. -/
def InvocationError.text (e : InvocationError) : Rendering :=
  e.cause.text.map fun cause =>
    "Error invoking method " ++ e.owner ++ "." ++ e.method ++ "(): " ++ cause

/-- A call of a handler. -/
structure HandlerCall where
  /-- The tool. -/
  tool : ToolDefinition
  /-- What its handler was given. -/
  arguments : Arguments

/-- A call of a hook. -/
inductive HookCall where
  /-- The hook for finished tools was told the result. -/
  | complete (call : ToolCall) (result : String)
  /-- The hook for failed tools was told the error text. -/
  | failed (call : ToolCall) (error : String)

/-- What came of an invocation. -/
structure Invocation where
  /-- The result. -/
  result : Except InvocationError String
  /-- What the assistant is to say. -/
  messages : List ToolMessage
  /-- The calls of the handler. -/
  handlerCalls : List HandlerCall
  /-- The calls of hooks. -/
  hookCalls : List HookCall

namespace ToolDefinition

/-- The argument of a declared parameter. -/
def bindParam (members : List (String × Json)) (p : Param) :
    Except ArgumentError (String × Argument) :=
  match Assoc.get? p.name members with
  | none => .error (.missing p.name)
  | some v => (p.kind.coerce p.name v).map fun a => (p.name, a)

/-- The arguments of declared parameters, in order; the first that does not fit is the error. -/
def bindParams (members : List (String × Json)) :
    List Param → Except ArgumentError (List (String × Argument))
  | [] => .ok []
  | p :: rest =>
    match bindParam members p with
    | .error e => .error e
    | .ok entry =>
      match bindParams members rest with
      | .error e => .error e
      | .ok entries => .ok (entry :: entries)

/-- Fits JSON arguments to the declared parameters. No arguments at all are fine without parameters,
else the first one is missing. -/
def bind (d : ToolDefinition) : Json → Except ArgumentError Arguments
  | .obj members => (bindParams members d.params).map Arguments.mk
  | .null =>
    match d.params with
    | [] => .ok ⟨[]⟩
    | p :: _ => .error (.missing p.name)
  | _ => .error .notAnObject

/-- No arguments at all are fitted like the empty object. -/
theorem bind_null (d : ToolDefinition) : d.bind .null = d.bind (.obj []) := by
  unfold bind
  cases d.params with
  | nil => rfl
  | cons p rest => rfl

/-- The error of this tool with the given cause. -/
def error (d : ToolDefinition) (cause : InvocationCause) : InvocationError :=
  ⟨d.owner, d.method, cause⟩

/-- What a handler's outcome means for the caller. -/
def resultOf (d : ToolDefinition) : Outcome String → Except InvocationError String
  | .returned s => .ok (if d.fireAndForget then "" else s)
  | .failed f => .error (d.error (.handler f))
  | .panicked p => .error (d.error (.panicked p.message))

/-- Runs the tool on JSON arguments. -/
def invoke (d : ToolDefinition) (arguments : Json) : Invocation :=
  match d.bind arguments with
  | .error e => ⟨.error (d.error (.argument e)), [], [], []⟩
  | .ok as => ⟨d.resultOf (d.handler as), [], [⟨d, as⟩], []⟩

/-- Tells a hook about a result. A hook that panics says nothing, and where the error has no text no
hook is called. -/
def report (hooks : Lifecycle) (call : ToolCall) :
    Except InvocationError String → List HookCall × List ToolMessage
  | .ok s => ([.complete call s], (hooks.onComplete call s).toOption.getD [])
  | .error e =>
    match e.text with
    | .ok s => ([.failed call s], (hooks.onFailed call s).toOption.getD [])
    | .error _ => ([], [])

/-- Runs the tool on JSON arguments and tells its hooks. -/
def invokeWithHooks (d : ToolDefinition) (key : CacheKey) (arguments : Json) : Invocation :=
  let run := d.invoke arguments
  match d.lifecycle with
  | none => run
  | some hooks =>
    let (hookCalls, messages) := report hooks ⟨key, d.name, arguments⟩ run.result
    { run with hookCalls, messages }

end ToolDefinition

end Switchboard

import Switchboard.Service.Application
import Switchboard.Service.Http

/-!
# Answers to webhooks

What a webhook is answered with if all goes well, and why it may not be answered so. An error of the
service itself is a chain of errors; outside production the client sees the whole chain, in
production nothing of it.
-/

namespace Switchboard

/-! ## Answers -/

/-- What came of one call of a tool or function, as far as the platform is told. -/
structure CallOutcome where
  /-- The result or the error text. -/
  result : Except String String
  /-- What the assistant is to say. -/
  messages : List ToolMessage

/-- The call succeeded. -/
def CallOutcome.success (o : CallOutcome) : Bool :=
  match o.result with
  | .ok _ => true
  | .error _ => false

/-- A call that failed before anything was run. -/
def CallOutcome.failure (text : String) : CallOutcome := ⟨.error text, []⟩

/-- What came of one call of a batch. -/
structure ToolCallResult where
  /-- The id that the platform gave the call. -/
  toolCallId : String
  /-- The name of the tool. -/
  name : String
  /-- What came of it. -/
  outcome : CallOutcome

/-- The answer to a webhook. -/
inductive Answer where
  /-- What a responder returned. -/
  | responder (v : Json)
  /-- The results of a batch of tool calls. -/
  | toolCalls (results : List ToolCallResult)
  /-- The result of a function call. -/
  | functionCall (outcome : CallOutcome)
  /-- The message of the named type has been taken note of. -/
  | acknowledgement (type : String)

/-- The member for spoken messages, which is left out if there are none. -/
def messagesMember (messages : List ToolMessage) : List (String × Json) :=
  Json.member? "message" (if messages.isEmpty then none
    else some (.arr (messages.map ToolMessage.toJson)))

/-- The JSON form of one result of a batch: with either a result or an error. -/
def ToolCallResult.toJson (r : ToolCallResult) : Json :=
  let result :=
    match r.outcome.result with
    | .ok text => ("result", Json.str text)
    | .error text => ("error", Json.str text)
  .object ([("toolCallId", .str r.toolCallId), ("name", .str r.name), result] ++
    messagesMember r.outcome.messages)

/-- The JSON form of the result of a function: an error comes with an empty result. -/
def CallOutcome.toJson (o : CallOutcome) : Json :=
  let result :=
    match o.result with
    | .ok text => [("result", Json.str text)]
    | .error text => [("result", Json.str ""), ("error", Json.str text)]
  .object (result ++ messagesMember o.messages)

/-- The JSON form of an answer. -/
def Answer.toJson : Answer → Json
  | responder v => v
  | toolCalls results => .object [("results", .arr (results.map ToolCallResult.toJson))]
  | functionCall outcome => outcome.toJson
  | acknowledgement type => .object [("status", .str "ok"), ("type", .str type)]

/-! ## Errors -/

/-- Why a webhook is not answered normally. -/
inductive WebhookError where
  /-- The client is told as much. -/
  | api (e : ApiError)
  /-- Something failed: what was going on, and the fault. -/
  | failed (context : String) (fault : Fault)
  /-- A responder panicked with a message. -/
  | panicked (message : String)

/-- What clients see of an error of the service itself in production. -/
def hiddenError : ApiError := .internal "internal server error"

/-- The wording of a panic for clients. -/
def panicText (message : String) : String := "handler panicked: " ++ message

/-- The text of an error and all its causes. -/
def WebhookError.chain : WebhookError → Rendering
  | api e => .ok e.display
  | failed context fault => fault.chainUnder context
  | panicked message => .ok (panicText message)

/-- The response for an error with its JSON form, or the panic in which the wording of the error
ends. -/
def WebhookError.render (production : Bool) (e : WebhookError) : Except Panic (Response × Json) :=
  let diagnostic : Except Panic (Response × Json) :=
    e.chain.map fun text => (.text 500 text, errorBody text)
  match e with
  | .api a =>
    if a.isClientError || production then .ok (a.response, a.body) else diagnostic
  | _ => if production then .ok (hiddenError.response, hiddenError.body) else diagnostic

end Switchboard

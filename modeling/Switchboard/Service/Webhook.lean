import Switchboard.Json.Reader
import Switchboard.Service.Answer
import Switchboard.Service.Metrics

/-!
# Answering webhooks

`dispatch` answers one message of an application. It is a function of the message, the caches and
the time; what it does besides answering is written down in a `Dispatch`: the caches afterwards, the
invocations to be counted and the calls of handlers.

Calls of a batch are independent. All of them are started before any of them is waited for, so a
call whose error has no text, which makes the whole request panic, does not keep the others from
being started.
-/

namespace Switchboard

/-! ## Reading messages -/

/-- The id of the call that a message belongs to; an empty id is none. -/
def sessionOf? (message : Json) : Option String :=
  ((message.at? ["call", "id"]).bind Json.str?).filter fun id => !id.isEmpty

/-- The id of the assistant that a message names. -/
def assistantOf (message : Json) : String :=
  ((message.at? ["assistant", "metadata", assistantIdMember]).bind Json.str?).getD defaultAssistant

/-- The error for a message without the id of a call. -/
def missingSession : ApiError := .badRequest "missing message.call.id"

/-- The key that a message is about. -/
def keyOf (message : Json) : Except ApiError CacheKey :=
  match sessionOf? message with
  | some session => .ok ⟨session, assistantOf message⟩
  | none => .error missingSession

/-- Gives the metadata of an assistant the id by which later messages name it, unless it has one. -/
def stampMetadata : Json → Json
  | .obj members =>
    match Assoc.get? assistantIdMember members with
    | some _ => .obj members
    | none => .obj (Assoc.insert assistantIdMember (.str defaultAssistant) members)
  | v => v

/-- Gives an assistant metadata with its id. Metadata that is not an object stays. -/
def stampAssistant : Json → Json
  | .obj members =>
    let metadata := (Assoc.get? "metadata" members).getD (.obj [])
    .obj (Assoc.insert "metadata" (stampMetadata metadata) members)
  | v => v

/-- Marks the assistant in a responder's answer with its id, so that messages that echo the
assistant find what was registered for it. -/
def stamp : Json → Json
  | .obj members =>
    match Assoc.get? assistantMember members with
    | some (.obj assistant) =>
      .obj (Assoc.insert assistantMember (stampAssistant (.obj assistant)) members)
    | _ => .obj members
  | v => v

/-! ## Calls -/

/-- A call that has been started. -/
inductive StartedCall where
  /-- It failed before a tool was found or its arguments could be read. -/
  | settled (outcome : CallOutcome)
  /-- A tool was run. -/
  | ran (invocation : Invocation)

namespace StartedCall

/-- Starts the tool `name` of an entry. -/
def start (kind : CacheKind) (entry : Entry) (key : CacheKey) (name : String) (arguments : Json) :
    StartedCall :=
  match entry.get? name with
  | none => settled (.failure (CacheError.functionNotFound kind key name).message)
  | some d => ran (d.invokeWithHooks key arguments)

/-- What the platform is told of a call, or the panic in which the wording of its error ends. -/
def outcome : StartedCall → Except Panic CallOutcome
  | settled o => .ok o
  | ran i =>
    match i.result with
    | .ok text => .ok ⟨.ok text, i.messages⟩
    | .error e => e.text.map fun text => ⟨.error text, i.messages⟩

/-- The calls of handlers. -/
def handlerCalls : StartedCall → List HandlerCall
  | settled _ => []
  | ran i => i.handlerCalls

/-- A call that failed at its start is counted then. -/
def settledSuccess? : StartedCall → Option Bool
  | settled o => some o.success
  | ran _ => none

/-- A call that ran is counted when its outcome is known. -/
def ranSuccess? : StartedCall → Option (Option Bool)
  | settled _ => none
  | ran i => some (match (ran i).outcome with | .ok o => some o.success | .error _ => none)

/-- The outcomes that are counted: those known at the start, and the others in order up to the first
whose wording panics. -/
def counted (calls : List StartedCall) : List Bool :=
  calls.filterMap settledSuccess? ++
  ((calls.filterMap ranSuccess?).takeWhile Option.isSome).filterMap id

end StartedCall

/-- The arguments of a tool call: a value, or a text that holds one. A blank text is no
arguments. -/
def toolArguments (function : Json) : Except Json.SyntaxError Json :=
  match function.get? "arguments" with
  | some (.str encoded) => if Text.allBlank encoded then .ok .null else Json.ofText encoded
  | some v => .ok v
  | none => .ok .null

/-- The text of a member, or the empty text. -/
def textOf (v : Json) (name : String) : String := ((v.get? name).bind Json.str?).getD ""

/-- A call of a batch that has been started. -/
structure StartedToolCall where
  /-- The id that the platform gave the call. -/
  toolCallId : String
  /-- The name of the tool. -/
  name : String
  /-- The call. -/
  call : StartedCall

/-- Starts one element of a batch. -/
def startToolCall (entry : Entry) (key : CacheKey) (element : Json) : StartedToolCall :=
  let function := (element.get? "function").getD .null
  let name := textOf function "name"
  let call :=
    match toolArguments function with
    | .ok arguments => StartedCall.start .toolCall entry key name arguments
    | .error e =>
      .settled (.failure ("arguments of `" ++ name ++ "` are not valid JSON: " ++ e.message))
  ⟨textOf element "id", name, call⟩

/-- The result of one element of a batch. -/
def StartedToolCall.result (c : StartedToolCall) : Except Panic ToolCallResult :=
  c.call.outcome.map fun o => ⟨c.toolCallId, c.name, o⟩

/-- The results of a batch, or the first panic. -/
def resultsOf : List StartedToolCall → Except Panic (List ToolCallResult)
  | [] => .ok []
  | c :: rest =>
    match c.result with
    | .error p => .error p
    | .ok r =>
      match resultsOf rest with
      | .error p => .error p
      | .ok rs => .ok (r :: rs)

/-! ## Dispatch -/

/-- How the handling of a message ended. -/
inductive Ending where
  /-- It is answered. -/
  | answered (answer : Answer)
  /-- It is not answered normally. -/
  | refused (e : WebhookError)
  /-- It panicked. -/
  | unwound (panic : Panic)

/-- What became of a message. -/
structure Dispatch where
  /-- How its handling ended. -/
  ending : Ending
  /-- The caches afterwards. -/
  caches : Caches
  /-- The kind of the invocations and which of them succeeded. -/
  invocations : CacheKind × List Bool := (.toolCall, [])
  /-- The calls of handlers. -/
  handlerCalls : List HandlerCall := []

/-- The handling ended without a call. -/
def Dispatch.ended (ending : Ending) (caches : Caches) : Dispatch := { ending, caches }

/-- What the end of a responder means for the request: a panic goes on in production and is an error
otherwise. -/
def endingOf (production : Bool) (context : String) (answer : Json → Answer) :
    Outcome Json → Ending
  | .returned v => .answered (answer v)
  | .failed fault => .refused (.failed context fault)
  | .panicked p => if production then .unwound p else .refused (.panicked p.message)

/-- Answers a request for an assistant. -/
def dispatchAssistant (production : Bool) (now : Nat) (app : Application) (cs : Caches)
    (payload message : Json) : Dispatch :=
  match app.assistant with
  | none =>
    .ended
      (.refused (.failed "assistant-request received"
        (.ofText "no assistant-request responder is configured")))
      cs
  | some responder =>
    match sessionOf? message with
    | none => .ended (.refused (.api missingSession)) cs
    | some session =>
      let (cs, outcome) := (responder ⟨session, app.serverPath, payload⟩).run session now cs
      .ended
        (endingOf production "assistant-request responder failed"
          (fun v => .responder (stamp v)) outcome)
        cs

/-- Answers a batch of tool calls. -/
def dispatchToolCalls (cs : Caches) (message : Json) : Dispatch :=
  let refuse (e : ApiError) : Dispatch := .ended (.refused (.api e)) cs
  match keyOf message with
  | .error e => refuse e
  | .ok key =>
    match cs.tools.get key with
    | .error e => refuse (.ofCacheError e)
    | .ok entry =>
      match (message.get? "toolCallList").bind Json.arr? with
      | none => refuse (.badRequest "missing message.toolCallList")
      | some elements =>
        let started := elements.map (startToolCall entry key)
        let calls := started.map StartedToolCall.call
        let ending : Ending :=
          match resultsOf started with
          | .ok results => .answered (.toolCalls results)
          | .error p => .unwound p
        ⟨ending, cs, (.toolCall, StartedCall.counted calls),
          calls.flatMap StartedCall.handlerCalls⟩

/-- Answers a function call. -/
def dispatchFunctionCall (cs : Caches) (message : Json) : Dispatch :=
  let refuse (e : ApiError) : Dispatch := .ended (.refused (.api e)) cs
  match keyOf message with
  | .error e => refuse e
  | .ok key =>
    match cs.functions.get key with
    | .error e => refuse (.ofCacheError e)
    | .ok entry =>
      match message.get? "functionCall" with
      | none => refuse (.badRequest "missing message.functionCall")
      | some call =>
        let started :=
          StartedCall.start .function entry key (textOf call "name")
            ((call.get? "parameters").getD .null)
        let ending : Ending :=
          match started.outcome with
          | .ok outcome => .answered (.functionCall outcome)
          | .error p => .unwound p
        ⟨ending, cs, (.function, StartedCall.counted [started]), started.handlerCalls⟩

/-- Takes note of a message of the named type. -/
def acknowledge (cs : Caches) (type : String) : Dispatch :=
  .ended (.answered (.acknowledgement type)) cs

/-- Takes note of the end of a call, whose entries leave the caches if the application says so. -/
def dispatchEndOfCall (app : Application) (cs : Caches) (message : Json) : Dispatch :=
  let cleaned :=
    if app.config.removeCacheOnEndOfCallReport then
      match sessionOf? message with
      | some session => (cs.removeSession session).2
      | none => cs
    else cs
  acknowledge cleaned RequestType.endOfCallReport.name

/-- Answers a question for the destination of a transfer. -/
def dispatchTransfer (production : Bool) (app : Application) (cs : Caches) (payload : Json) :
    Dispatch :=
  match app.transfer with
  | none => acknowledge cs RequestType.transferDestinationRequest.name
  | some responder =>
    .ended (endingOf production "transfer-destination responder failed" .responder
      (responder payload)) cs

/-- The name that a message of no known type is acknowledged by. -/
def unknownTypeName (message : Json) : String :=
  ((message.get? "type").bind Json.str?).getD RequestType.unknown.name

/-- Answers a message of type `t`. -/
def dispatch (production : Bool) (now : Nat) (app : Application) (cs : Caches) (t : RequestType)
    (payload : Json) : Dispatch :=
  let message := (payload.get? "message").getD .null
  match t with
  | .assistantRequest => dispatchAssistant production now app cs payload message
  | .toolCalls => dispatchToolCalls cs message
  | .functionCall => dispatchFunctionCall cs message
  | .endOfCallReport => dispatchEndOfCall app cs message
  | .transferDestinationRequest => dispatchTransfer production app cs payload
  | .unknown => acknowledge cs (unknownTypeName message)
  | t => acknowledge cs t.name

/-! ## Events -/

/-- What an event carries. -/
inductive EventContent where
  /-- A message that has arrived. -/
  | request (payload : Json)
  /-- An answer, produced when somebody wants to see it. -/
  | response (producer : Outcome Json)

/-- The stage of an event. -/
def EventContent.stage : EventContent → Stage
  | request _ => .request
  | response _ => .response

/-- Something that observers may want to know. -/
structure Event where
  /-- The application concerned. -/
  application : Application
  /-- The type of the message. -/
  type : RequestType
  /-- The message or the answer. -/
  content : EventContent

/-! ## Handling -/

/-- What became of the body of a webhook. -/
structure Handled where
  /-- The response, or the panic that the handling ended in. -/
  response : Except Panic Response
  /-- The caches afterwards. -/
  caches : Caches
  /-- The counters afterwards. -/
  metrics : Metrics
  /-- The events, in order. -/
  events : List Event
  /-- The calls of handlers. -/
  handlerCalls : List HandlerCall

/-- The error for a body that is not JSON. -/
def malformedBody (e : Json.SyntaxError) : ApiError :=
  .badRequest ("malformed JSON body: " ++ e.message)

/-- Ends the handling of a message: counts it, tells of the answer and responds. A message whose
handling panicked is not counted, and one whose error's wording panics is counted and no more. -/
def conclude (production : Bool) (app : Application) (m : Metrics) (t : RequestType) :
    Ending → Except Panic Response × Metrics × List Event
  | .unwound p => (.error p, m, [])
  | .answered answer =>
    let v := answer.toJson
    (.ok (.json 200 v), m.observeRequest app.serverPath t, [⟨app, t, .response (.returned v)⟩])
  | .refused e =>
    let m := m.observeRequest app.serverPath t
    match e.render production with
    | .ok (response, v) => (.ok response, m, [⟨app, t, .response (.returned v)⟩])
    | .error p => (.error p, m, [])

/-- Handles the body of a webhook. A body that is not JSON is refused and leaves no trace. -/
def handle (production : Bool) (now : Nat) (app : Application) (cs : Caches) (m : Metrics)
    (body : List UInt8) : Handled :=
  match Json.ofBytes body with
  | .error e => ⟨.ok (malformedBody e).response, cs, m, [], []⟩
  | .ok payload =>
    let t := RequestType.ofPayload payload
    let d := dispatch production now app cs t payload
    let m := m.observeInvocations d.invocations.1 d.invocations.2
    let (response, m, events) := conclude production app m t d.ending
    ⟨response, d.caches, m, ⟨app, t, .request payload⟩ :: events, d.handlerCalls⟩

/-- What the client of a webhook gets: outside production a panic becomes a response. -/
def replyTo (production : Bool) (response : Except Panic Response) : Except Panic Response :=
  match response with
  | .error p => if production then .error p else .ok (.text 500 (panicText p.message))
  | r => r

end Switchboard

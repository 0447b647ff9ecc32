import Switchboard.Json.Basic

/-!
# Types of messages

The voice platform names the type of each message it posts. `RequestType.ofName?` reads the fifteen
names it uses; a message of any other type, or of none, is `unknown`.
-/

namespace Switchboard

/-- The type of a message. -/
inductive RequestType where
  /-- Asks for the assistant of a new call. -/
  | assistantRequest
  /-- Asks for the results of tools. -/
  | toolCalls
  /-- Asks for the result of one function. -/
  | functionCall
  /-- Reports the end of a call. -/
  | endOfCallReport
  /-- Asks where to transfer a call. -/
  | transferDestinationRequest
  /-- The state of the call changed. -/
  | statusUpdate
  /-- The conversation went on. -/
  | conversationUpdate
  /-- The line is silent. -/
  | hang
  /-- Somebody began or ceased to speak. -/
  | speechUpdate
  /-- A piece of transcript. -/
  | transcript
  /-- The caller interrupted the assistant. -/
  | userInterrupted
  /-- A request to control the phone call. -/
  | phoneCallControl
  /-- What the caller said. -/
  | voiceInput
  /-- What the model produced. -/
  | modelOutput
  /-- Asks a knowledge base. -/
  | knowledgeBaseRequest
  /-- Any other message. -/
  | unknown
deriving DecidableEq, Inhabited

namespace RequestType

/-- The name on the wire. -/
def name : RequestType → String
  | assistantRequest => "assistant-request"
  | toolCalls => "tool-calls"
  | functionCall => "function-call"
  | endOfCallReport => "end-of-call-report"
  | transferDestinationRequest => "transfer-destination-request"
  | statusUpdate => "status-update"
  | conversationUpdate => "conversation-update"
  | hang => "hang"
  | speechUpdate => "speech-update"
  | transcript => "transcript"
  | userInterrupted => "user-interrupted"
  | phoneCallControl => "phone-call-control"
  | voiceInput => "voice-input"
  | modelOutput => "model-output"
  | knowledgeBaseRequest => "knowledge-base-request"
  | unknown => "unknown"

/-- The types that the platform names. -/
def known : List RequestType :=
  [assistantRequest, toolCalls, functionCall, endOfCallReport, transferDestinationRequest,
   statusUpdate, conversationUpdate, hang, speechUpdate, transcript, userInterrupted,
   phoneCallControl, voiceInput, modelOutput, knowledgeBaseRequest]

/-- All types, in the order of their declaration. -/
def all : List RequestType := known ++ [unknown]

/-- The known type of the given name. -/
def ofName? (text : String) : Option RequestType := known.find? fun t => t.name = text

/-- The wording of a failure to read a name. -/
def unknownNameMessage (text : String) : String := "unknown request type: " ++ text

/-- The type of a message whose name of the type is `text`, if there is one. -/
def classify (text : Option String) : RequestType := (text.bind ofName?).getD unknown

/-- The type of the message in a payload. -/
def ofPayload (payload : Json) : RequestType :=
  classify ((payload.at? ["message", "type"]).bind Json.str?)

/-- A known type has its own name. -/
theorem name_of_ofName? {text : String} {t : RequestType} (h : ofName? text = some t) :
    t.name = text := by
  simpa using List.find?_some h

end RequestType

/-! ## Kinds of caches and stages of events -/

/-- What a cache holds. -/
inductive CacheKind where
  /-- Tools, called in batches. -/
  | toolCall
  /-- Functions, called one at a time. -/
  | function
deriving DecidableEq, Inhabited

/-- The name of a kind of cache. -/
def CacheKind.name : CacheKind → String
  | toolCall => "toolCall"
  | function => "function"

/-- The kinds of caches. -/
def CacheKind.all : List CacheKind := [.toolCall, .function]

/-- When an event happens: before a message is answered or after. -/
inductive Stage where
  /-- The message has been received. -/
  | request
  /-- The message has been answered. -/
  | response
deriving DecidableEq, Inhabited

/-- The name of a stage. -/
def Stage.name : Stage → String
  | request => "REQUEST"
  | response => "RESPONSE"

/-- The stages. -/
def Stage.all : List Stage := [.request, .response]

/-! ## Reading a name from JSON -/

/-- The value of `all` that a JSON value names: a text, or an object whose only member has the name
and the value `null`. -/
def ofJsonName? {α : Type} (name : α → String) (all : List α) : Json → Option α
  | .str text => all.find? fun a => name a = text
  | .obj [(text, .null)] => all.find? fun a => name a = text
  | _ => none

end Switchboard

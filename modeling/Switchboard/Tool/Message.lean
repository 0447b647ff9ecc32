import Switchboard.Json.Basic

/-!
# Messages spoken after a tool

The hooks of a tool can have the assistant say something once the tool has finished or failed.
-/

namespace Switchboard

/-- A message that the assistant speaks after a tool. -/
inductive ToolMessage where
  /-- Spoken after a tool has finished. -/
  | complete (content role : String) (endCall : Bool)
  /-- Spoken after a tool has failed. -/
  | failed (content : String) (endCall : Bool)
deriving DecidableEq

namespace ToolMessage

/-- The role that speaks if none is named. -/
def defaultRole : String := "assistant"

/-- The JSON form of a message. -/
def toJson : ToolMessage → Json
  | complete content role endCall =>
    .object [("type", .str "request-complete"), ("content", .str content), ("role", .str role),
      ("endCallAfterSpokenEnabled", .bool endCall)]
  | failed content endCall =>
    .object [("type", .str "request-failed"), ("content", .str content),
      ("endCallAfterSpokenEnabled", .bool endCall)]

/-- A field that may be absent but, if present, has to be of its type. -/
def optional? {α : Type} (view? : Json → Option α) (absent : α) : Option Json → Option α
  | none => some absent
  | some v => view? v

/-- The message with the given type and fields. -/
def ofFields? (type : String) (content role endCall : Option Json) : Option ToolMessage :=
  if type = "request-complete" then do
    let content ← content.bind Json.str?
    let role ← optional? Json.str? defaultRole role
    let endCall ← optional? Json.bool? false endCall
    return complete content role endCall
  else if type = "request-failed" then do
    let content ← content.bind Json.str?
    let endCall ← optional? Json.bool? false endCall
    return failed content endCall
  else none

/-- The message that a JSON value denotes: an object with its fields, or the list of the type and
the fields in order, where fields at the end may be left out. -/
def ofJson? : Json → Option ToolMessage
  | .obj members => do
    let type ← (Assoc.get? "type" members).bind Json.str?
    ofFields? type (Assoc.get? "content" members) (Assoc.get? "role" members)
      (Assoc.get? "endCallAfterSpokenEnabled" members)
  | .arr (.str type :: fields) =>
    if type = "request-complete" then
      if fields.length ≤ 3 then ofFields? type fields[0]? fields[1]? fields[2]? else none
    else if fields.length ≤ 2 then ofFields? type fields[0]? none fields[1]?
    else none
  | _ => none

end ToolMessage

end Switchboard

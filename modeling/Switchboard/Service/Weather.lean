import Switchboard.Service.Application

/-!
# The weather application

The application that the service offers when nothing else is set up: an assistant with one tool that
knows the weather everywhere.
-/

namespace Switchboard.Weather

/-- The text that the tool answers with. -/
def report (city state : String) : String :=
  "The weather in " ++ city ++ ", " ++ state ++ " is windy"

/-- The body of the tool. -/
def handler : Handler := fun as =>
  match as.string "city", as.string "state" with
  | .ok city, .ok state => .returned (report city state)
  | .error e, _ => .failed (.ofText e.message)
  | _, .error e => .failed (.ofText e.message)

/-- The declaration of the tool. -/
def draft : ToolDraft where
  owner := "WeatherAssistant"
  method := "getWeather"
  name := none
  description := "Current weather for a city"
  params := [⟨"city", "string", ""⟩, ⟨"state", "string", ""⟩]
  fireAndForget := false
  handler := some handler
  lifecycle := none

/-- The assistant, whose tool is called at `url`. -/
def assistant (url : String) : Json :=
  let text : Json := .object [("type", .str "string")]
  let parameters : Json :=
    .object [("type", .str "object"), ("properties", .object [("city", text), ("state", text)]),
      ("required", .arr [.str "city", .str "state"])]
  let function : Json :=
    .object [("name", .str "getWeather"), ("description", .str "Current weather for a city"),
      ("parameters", parameters)]
  let tool : Json :=
    .object [("type", .str "function"), ("function", function),
      ("server", .object [("url", .str url)])]
  let system : Json :=
    .object [("role", .str "system"),
      ("content", .str "You tell callers the weather. Use the getWeather tool.")]
  let model : Json :=
    .object [("provider", .str "openai"), ("model", .str "gpt-4o"), ("messages", .arr [system]),
      ("tools", .arr [tool])]
  .object [("assistant", .object [("name", .str "Weather Assistant"),
    ("firstMessage", .str "Hi! Which city would you like the weather for?"), ("model", model)])]

/-- Registers the tool and describes the assistant. -/
def responder (request : AssistantRequest) : Script :=
  .ofRegistrations (.returned (assistant request.serverPath))
    [⟨.toolCall, defaultAssistant, draft⟩]

/-- The application with a configuration. -/
def application (config : ApplicationConfig) : Application :=
  { config, assistant := some responder }

end Switchboard.Weather

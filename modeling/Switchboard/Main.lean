import Switchboard.Json.Compact
import Switchboard.Service.Routes
import Switchboard.Service.Weather

/-!
# The command line

Loads the configuration from the file named first on the command line, else by the environment, else
from `config.toml`, and serves requests that arrive one to a line: a method, a path, and the body
behind a further space. Each is answered with the status and the body.
-/

namespace Switchboard.CommandLine

/-- The variable that names the configuration file. -/
def pathVariable : String := "VOXHOOK_CONFIG_PATH"

/-- The configuration file if none is named. -/
def ordinaryPath : String := "config.toml"

/-- The variables that override the configuration. -/
def overridingNames : List String :=
  ["VOXHOOK_HOST", "VOXHOOK_PORT", "VOXHOOK_PRODUCTION", "VOXHOOK_PURGE_INTERVAL_MINUTES",
   "VOXHOOK_MAX_AGE_MINUTES", "VOXHOOK_LOG_LEVEL", "VOXHOOK_LOG_JSON", "VOXHOOK_SECRET"]

/-- The file to read: the first that is named and not blank. -/
def choosePath (arguments : List String) (fallback : Option String) : String :=
  let named := arguments.head?.toList ++ fallback.toList
  (named.find? fun path => !Text.allBlank path).getD ordinaryPath

/-- Starts the sweeper that the settings of a service ask for. -/
def startSweeper (s : State) : State :=
  (s.startPurge (s.settings.purgeIntervalSeconds * 1000) (s.settings.maxAgeSeconds * 1000)).2

/-- The service of a configuration, with its sweeper started, or why there is none. -/
def service (config : Config) : Except String State :=
  match State.build (.ofConfig config) {} (config.applications.map Weather.application) with
  | .error e => .error e.message
  | .ok s => (s.checkRoutes.mapError RouteError.message).map fun _ => startSweeper s

/-- The request that a line stands for. -/
def requestOfLine (line : String) : Request :=
  let cs := line.toList.filter fun c => c != '\n' && c != '\r'
  let word := cs.takeWhile (· != ' ')
  let rest := (cs.dropWhile (· != ' ')).drop 1
  let target := rest.takeWhile (· != ' ')
  let body := (rest.dropWhile (· != ' ')).drop 1
  ⟨String.ofList word, String.ofList target, [], Text.encodeUtf8 (String.ofList body)⟩

/-- The text of a response's body. -/
def bodyText (r : Response) : String :=
  if r.headOnly then ""
  else
    match r.body with
    | .none => ""
    | .text s => s
    | .json v => v.compact
    | .exposition s => s

/-- The text that answers a request. -/
def lineOf : Except Panic Response → String
  | .ok r => toString r.status ++ " " ++ bodyText r
  | .error p => "panic " ++ p.message

/-- The time of a sweep, as milliseconds of the service's clock. -/
def clock (time : Nat) : String := toString time ++ " ms"

/-- Answers one line at a time of the clock. -/
def answerLine (s : State) (time : Nat) (line : String) : String × State :=
  let (response, s) := (s.wait (time - s.now)).serve clock (requestOfLine line)
  (lineOf response, s.settle)

/-- What can be had of a file. -/
def readContent (path : String) : IO FileContent := do
  try
    return .bytes (← IO.FS.readBinFile path).data.toList
  catch
    | .noFileOrDirectory _ _ _ => return .missing
    | e => return .unreadable (toString e)

/-- Serves the lines of a stream until it ends. -/
partial def serveLines (input output : IO.FS.Stream) (started : Nat) (s : State) : IO Unit := do
  let line ← input.getLine
  if line.isEmpty then return
  let (answer, s) := answerLine s ((← IO.monoMsNow) - started) line
  output.putStrLn answer
  output.flush
  serveLines input output started s

/-- Loads the configuration and serves. -/
def run (arguments : List String) : IO UInt32 := do
  let path := choosePath arguments (← IO.getEnv pathVariable)
  let values ← overridingNames.mapM fun name => return (name, ← IO.getEnv name)
  let environment : Environment := fun name => ((values.find? fun v => v.1 = name).map (·.2)).join
  match ((Config.load (some (← readContent path)) environment).mapError
      ConfigError.message).bind service with
  | .error message =>
    (← IO.getStderr).putStrLn message
    return 1
  | .ok s =>
    serveLines (← IO.getStdin) (← IO.getStdout) (← IO.monoMsNow) s
    return 0

end Switchboard.CommandLine

/-- The entry of the program. -/
def main (arguments : List String) : IO UInt32 := Switchboard.CommandLine.run arguments
